/-
OpenvinsLocalization/Types.lean

The data the localization handler of openvinsli reads and writes, and the fixed
context it runs in.

Geometry is borrowed from aslam and Eigen and is not modelled: a rigid
transformation is an element of an abstract group `Transformation`, landmarks and
keypoints are of abstract types `Vector3` and `Vector2`, and a camera is any
projection that returns a keypoint with a status.  Doubles are rationals: every
quantity the handler compares is a ratio, a mean or a difference of such values.

`Context` collects what is fixed for the lifetime of one handler: the gflags
(`Flags`, with the defaults of their `DEFINE_` lines), the constants of the
handler's header, which is not under src/ (`Constants`), and the collaborators
given to the constructor.
-/
import OpenvinsLocalization.Common
import Mathlib.Data.Matrix.Diagonal
import Mathlib.Data.Rat.Floor

namespace Openvinsli

/-- `common::LocalizationState`. -/
inductive LocalizationState
  | kUninitialized
  | kNotLocalized
  | kLocalized
  deriving DecidableEq, Repr

/-- `aslam::ProjectionResult::Status`. -/
inductive ProjectionResultStatus
  | keypointVisible
  | keypointOutsideImageBox
  | pointBehindCamera
  | projectionInvalid
  | uninitialized
  deriving DecidableEq, Repr

/-- `aslam::Camera`, as the handler uses it: `project3` maps a point in the camera
frame to a keypoint and a status. -/
structure Camera (Vector3 Vector2 : Type) where
  project3 : Vector3 → ProjectionResultStatus × Vector2

/-- `aslam::NCamera`: per camera, its extrinsics `T_C_B` and its projection. -/
structure NCamera (Transformation Vector3 Vector2 : Type) where
  cameras : List (Transformation × Camera Vector3 Vector2)

/-- `numCameras()`. -/
def NCamera.numCameras {Transformation Vector3 Vector2 : Type}
    (c : NCamera Transformation Vector3 Vector2) : Nat :=
  c.cameras.length

/-- `vio::LocalizationResult`, the fields the handler reads.  Landmarks and keypoints
are given per camera as the columns of an `Eigen::Matrix3Xd` and an
`Eigen::Matrix2Xd`. -/
structure LocalizationResult (Transformation Vector3 Vector2 : Type) where
  timestamp_ns : Int
  T_G_B : Transformation
  G_landmarks_per_camera : List (List Vector3)
  keypoint_measurements_per_camera : List (List Vector2)

/-- `ov_core::LocalizationData`, what OpenVINS receives.  `pose` stands for `pm` and
`qm`, the position and the (x, y, z, w) rotation quaternion of a pose. -/
structure LocalizationData (Transformation : Type) where
  timestamp : ℚ
  pose : Transformation
  qp_cov : Matrix (Fin 6) (Fin 6) ℚ

/-- The gflags of the handler's source file that its code reads. -/
structure Flags where
  openvinsli_use_6dof_localization : Bool
  openvinsli_min_num_baseframe_estimates_before_init : Nat
  openvinsli_max_mean_localization_reprojection_error_px : ℚ
  openvinsli_use_6dof_localization_for_inactive_cameras : Bool
  openvinsli_min_number_of_structure_constraints : Int

/-- The values of the `DEFINE_` lines. -/
def Flags.default : Flags where
  openvinsli_use_6dof_localization := true
  openvinsli_min_num_baseframe_estimates_before_init := 2
  openvinsli_max_mean_localization_reprojection_error_px := 100
  openvinsli_use_6dof_localization_for_inactive_cameras := false
  openvinsli_min_number_of_structure_constraints := 5

/-- The constants of the handler's header, which is not under src/: their values are
parameters of the model. -/
structure Constants where
  kBufferPoseHistoryNs : Nat
  kBufferMaxPropagationNs : Nat
  kFilterBaseframeBufferSize : Nat
  kInitializationRansacInlierRatioThreshold : ℚ
  kInitializationMaxNumRansacIterations : Nat
  kInitializationRansacOrientationErrorThresholdRadians : ℚ
  kInitializationRansacPositionErrorThresholdMeters : ℚ

/-- What is fixed for one handler: flags, constants, and the collaborators it calls:
`time_translator_`'s conversion, maplab-common's `transformationRansac` (returning
`T_G_M_lsq` and `num_inliers`), the pose buffer's interpolation, and Eigen's
`Vector2d::norm`. -/
structure Context (Transformation Vector3 Vector2 : Type) where
  flags : Flags
  constants : Constants
  convertMaplabToOpenvinsTimestamp : Int → ℚ
  camera_calibration : NCamera Transformation Vector3 Vector2
  maplab_to_openvins_cam_indices_mapping : BidirectionalMap
  transformationRansac : List Transformation → Nat → ℚ → ℚ → Int → Transformation × Int
  interpolate : Transformation → Transformation → ℚ → Transformation
  norm : Vector2 → ℚ

/-! ### A context on a line -/

/-- Poses on the line translate points. -/
instance lineTranslation : MulAction (Multiplicative ℤ) ℤ :=
  @Multiplicative.mulAction ℤ ℤ _ (AddMonoid.toAddAction ℤ)

/-- The handler on a line, to evaluate the model at concrete inputs: poses are the
translations `Multiplicative ℤ`, landmarks and keypoints are integers, the one
camera sees the points in front of it, and RANSAC counts every estimate as an
inlier. -/
def lineContext : Context (Multiplicative ℤ) ℤ ℤ where
  flags := .default
  constants :=
    { kBufferPoseHistoryNs := 1000
      kBufferMaxPropagationNs := 100
      kFilterBaseframeBufferSize := 2
      kInitializationRansacInlierRatioThreshold := 1 / 2
      kInitializationMaxNumRansacIterations := 10
      kInitializationRansacOrientationErrorThresholdRadians := 1 / 10
      kInitializationRansacPositionErrorThresholdMeters := 1 / 2 }
  convertMaplabToOpenvinsTimestamp := fun t => t
  camera_calibration :=
    ⟨[(1, ⟨fun p => (if 0 < p then .keypointVisible else .pointBehindCamera, p)⟩)]⟩
  maplab_to_openvins_cam_indices_mapping := ⟨[(0, 0)], by decide, by decide⟩
  transformationRansac := fun buffer _ _ _ _ => (1, buffer.length)
  interpolate := fun T_lower _ _ => T_lower
  norm := fun v => |(v : ℚ)|

/-- `lineContext` in structure-constraint mode. -/
def structureLineContext : Context (Multiplicative ℤ) ℤ ℤ :=
  { lineContext with flags := { Flags.default with openvinsli_use_6dof_localization := false } }

end Openvinsli
