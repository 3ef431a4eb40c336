import OpenvinsLocalization.Common
import OpenvinsLocalization.Types
import OpenvinsLocalization.PoseLookupBuffer
import OpenvinsLocalization.Reprojection
import OpenvinsLocalization.Handler
import OpenvinsLocalization.StateMachine
import OpenvinsLocalization.Drain
import OpenvinsLocalization.Gate
import OpenvinsLocalization.System
import OpenvinsLocalization.Forwarder
