/-
OpenvinsLocalization/Forwarder.lean

What the handler is for in 6-DoF mode, and that the code is exactly that.

In 6-DoF mode OpenVINS initializes the localization itself, so the handler only
forwards: a localization that arrives at `processLocalizationResult` goes to OpenVINS at
once, and a drain forwards, front first, the localizations of the queue that are not
newer than the newest pose it saw on entry, each as soon as its pose can be looked up.
A `Forwarder` is that machine and nothing more: no state machine, no alignment buffer,
no random seeds, no reprojection.  Its state is the two buffers other threads write,
what OpenVINS has received, the queue, and the timestamp of the drain in progress; a
pass of the drain aborts on a localization whose pose lookup fails, on the `CHECK` that
names the failure.

`runEvents_of_6dof_eq_forwarder` is the refinement: from a localized handler, every
interleaving of events, seen through `Forwarder.ofWorld`, runs as it does on the
forwarder, failures included.  The step lemma `Event.run_of_6dof_eq_forwarder` does one
event, a pass of the drain through `processAsUpdate`'s three answers to the pose lookup.
-/
import OpenvinsLocalization.System

namespace Openvinsli

open OpenvinsLocalizationHandler

variable {Transformation Vector3 Vector2 : Type}
variable [Group Transformation] [MulAction Transformation Vector3] [Sub Vector2]

/-- The handler in 6-DoF mode, reduced to its purpose: the buffers other threads write,
what OpenVINS has received, the queue `localization_buffer_`, and the newest pose
timestamp read by the drain in progress, if any. -/
structure Forwarder (Transformation Vector3 Vector2 : Type) where
  T_M_I_buffer : PoseLookupBuffer Transformation
  T_G_M_filter_buffer : FixedSizeQueue Transformation
  openvins_measurements : List (LocalizationData Transformation)
  localization_buffer : List (LocalizationResult Transformation Vector3 Vector2)
  drain : Option Int

namespace Forwarder

variable (ctx : Context Transformation Vector3 Vector2)

/-- One event on the forwarder: a write replaces a buffer, an arriving localization is
forwarded, a drain starts from the newest pose, and a pass of the drain forwards the
front localization if it is due and its pose can be looked up. -/
def step (f : Forwarder Transformation Vector3 Vector2) :
    Event Transformation Vector3 Vector2 → Except CheckFailed (Forwarder Transformation Vector3 Vector2)
  | .writeTMIBuffer T_M_I_buffer => pure { f with T_M_I_buffer := T_M_I_buffer }
  | .writeTGMFilterBuffer T_G_M_filter_buffer => pure { f with T_G_M_filter_buffer := T_G_M_filter_buffer }
  | .processLocalizationResult localization_result =>
    pure { f with openvins_measurements :=
      f.openvins_measurements ++ [makeOpenvinsLocalizationData ctx localization_result] }
  | .dealWithBufferedLocalizations _ =>
    match f.drain, f.T_M_I_buffer.getNewestTimestampOfAvailablePose with
    | none, some newest_TMI_timestamp_ns => pure { f with drain := some newest_TMI_timestamp_ns }
    | _, _ => pure f
  | .drainStep =>
    match f.drain, f.localization_buffer with
    | some newest_TMI_timestamp_ns, localization_result :: rest =>
      if localization_result.timestamp_ns > newest_TMI_timestamp_ns then pure { f with drain := none }
      else match f.T_M_I_buffer.getPoseAt ctx.interpolate localization_result.timestamp_ns with
        | .ready _ =>
          pure { f with
            openvins_measurements :=
              f.openvins_measurements ++ [makeOpenvinsLocalizationData ctx localization_result]
            localization_buffer := rest }
        | .kFailedNotYetAvailable =>
          throw ⟨"result != vio_common::PoseLookupBuffer::ResultStatus::kFailedNotYetAvailable"⟩
        | .kFailedWillNeverSucceed =>
          throw ⟨"result != vio_common::PoseLookupBuffer::ResultStatus::kFailedWillNeverSucceed"⟩
    | some _, [] => pure { f with drain := none }
    | none, _ => pure f

/-- An interleaving of events on the forwarder, until a pass of a drain aborts. -/
def run (f : Forwarder Transformation Vector3 Vector2) (evs : List (Event Transformation Vector3 Vector2)) :
    Except CheckFailed (Forwarder Transformation Vector3 Vector2) :=
  evs.foldlM (step ctx) f

/-- A world seen as a forwarder: its buffers, what OpenVINS has received, its queue, and
the timestamp its drain in progress read on entry. -/
def ofWorld (w : World Transformation Vector3 Vector2) : Forwarder Transformation Vector3 Vector2 :=
  ⟨w.handler.T_M_I_buffer, w.handler.T_G_M_filter_buffer, w.handler.openvins_measurements,
    w.localization_buffer, w.drain.map Prod.fst⟩

end Forwarder

variable {ctx : Context Transformation Vector3 Vector2}

/-- **Step lemma of the refinement**: in 6-DoF mode an event on a world whose handler is
localized does, seen as a forwarder, what it does on the forwarder. -/
theorem Event.run_of_6dof_eq_forwarder (h6 : ctx.flags.openvinsli_use_6dof_localization = true)
    {w : World Transformation Vector3 Vector2} (hloc : w.handler.localization_state = .kLocalized)
    (e : Event Transformation Vector3 Vector2) :
    (e.run ctx w).map Forwarder.ofWorld = Forwarder.step ctx (.ofWorld w) e := by
  obtain ⟨s, q, d⟩ := w
  cases e with
  | dealWithBufferedLocalizations ransac_seeds =>
    simp only [Event.run, Forwarder.step, Forwarder.ofWorld]
    cases d <;> cases s.T_M_I_buffer.getNewestTimestampOfAvailablePose <;> rfl
  | drainStep =>
    rcases d with _ | ⟨N, ransac_seeds⟩ <;> rcases q with _ | ⟨r, rest⟩
    all_goals simp only [Event.run, Forwarder.step, Forwarder.ofWorld, Option.map]
    all_goals try rfl
    split_ifs
    · rfl
    · rw [processLocalizationResultInternal_of_localized _ _ hloc]
      cases hlook : s.T_M_I_buffer.getPoseAt ctx.interpolate r.timestamp_ns with
      | ready T_M_I => rw [processAsUpdate_of_ready h6 hlook]; rfl
      | kFailedNotYetAvailable => rw [processAsUpdate_of_kFailedNotYetAvailable hlook]; rfl
      | kFailedWillNeverSucceed => rw [processAsUpdate_of_kFailedWillNeverSucceed hlook]; rfl
  | _ => rfl

/-- **In 6-DoF mode the handler is a forwarder.**  From a world whose handler is
localized, every interleaving of buffer writes, arrivals at `processLocalizationResult`,
drain entries and drain passes runs, seen as a forwarder, exactly as on the forwarder:
the same failure, or the same buffers, the same measurements handed to OpenVINS, the
same queue and the same drain in progress. -/
theorem runEvents_of_6dof_eq_forwarder (h6 : ctx.flags.openvinsli_use_6dof_localization = true)
    {w : World Transformation Vector3 Vector2} (hloc : w.handler.localization_state = .kLocalized)
    (evs : List (Event Transformation Vector3 Vector2)) :
    (runEvents ctx w evs).map Forwarder.ofWorld = Forwarder.run ctx (.ofWorld w) evs := by
  induction evs generalizing w with
  | nil => rfl
  | cons e evs ih =>
    rw [runEvents, List.foldlM_cons, Forwarder.run, List.foldlM_cons,
      ← Event.run_of_6dof_eq_forwarder h6 hloc]
    cases h₁ : e.run ctx w with
    | error err => rfl
    | ok w₁ => exact ih (Event.run_of_6dof h6 hloc h₁).1

/-- On the line in 6-DoF mode: a pose written at 0 ns, a localization arriving at 7 ns,
then a drain of the queue holding localizations at 0 ns and 5 ns. -/
theorem runEvents_of_6dof_eq_forwarder_on_line :
    (runEvents lineContext ⟨init lineContext, [⟨0, 1, [], []⟩, ⟨5, 1, [], []⟩], none⟩
        [.writeTMIBuffer ⟨1000, 100, [(0, 1)], by decide⟩, .processLocalizationResult ⟨7, 1, [], []⟩,
          .dealWithBufferedLocalizations fun _ => 0, .drainStep, .drainStep]).map Forwarder.ofWorld =
      Forwarder.run lineContext
        (.ofWorld ⟨init lineContext, [⟨0, 1, [], []⟩, ⟨5, 1, [], []⟩], none⟩)
        [.writeTMIBuffer ⟨1000, 100, [(0, 1)], by decide⟩, .processLocalizationResult ⟨7, 1, [], []⟩,
          .dealWithBufferedLocalizations fun _ => 0, .drainStep, .drainStep] :=
  runEvents_of_6dof_eq_forwarder rfl rfl _

end Openvinsli
