/-
OpenvinsLocalization/StateMachine.lean

The localization state machine over whole runs of
`processLocalizationResultInternal`.

Other threads write the pose buffer `T_M_I_buffer_` and the filter's baseframe
buffer `T_G_M_filter_buffer_` between two calls, and each call may draw a seed from
a fresh random device.  A `Call` carries all three with the localization, so a run
over every list of calls covers every pose-buffer answer (by
`PoseLookupBuffer.exists_getPoseAt_eq`) and, the RANSAC of the context being any
function, every RANSAC outcome.  A run ends at the first call that fails a `CHECK`.

`Inv` is the run invariant: the handler is never `kNotLocalized`, is localized in
6-DoF mode, and while uninitialized its alignment buffer holds the last estimates
`T_G_B * T_M_I⁻¹` of the calls whose pose lookup was ready (`lookedUpEstimates`).
`inv_step` is the step lemma, `inv_runCalls` the run lemma, and
`localization_state_machine` the module's main theorem.  The same induction gives
what a run feeds OpenVINS (`runCalls_openvins_measurements`), when it localizes the
handler (`runCalls_localized_iff`), and where it can abort: only in `processAsUpdate`,
on a localized handler (`runCalls_eq_error`).  Counted in estimates: without 6-DoF
mode the handler localizes only once `max 1 min_num` calls have found their pose, and,
when RANSAC finds enough inliers, as soon as they have
(`runCalls_localized_iff_of_structure`).
-/
import OpenvinsLocalization.Handler

namespace Openvinsli

open OpenvinsLocalizationHandler

variable {Transformation Vector3 Vector2 : Type}
variable [Group Transformation] [MulAction Transformation Vector3] [Sub Vector2]

/-- One call of `processLocalizationResultInternal`, with the two buffers as the
other threads have left them and the seed the random device would yield. -/
structure Call (Transformation Vector3 Vector2 : Type) where
  T_M_I_buffer : PoseLookupBuffer Transformation
  T_G_M_filter_buffer : FixedSizeQueue Transformation
  localization_result : LocalizationResult Transformation Vector3 Vector2
  ransac_seed : Int

/-- The handler as the call finds it. -/
def Call.before (c : Call Transformation Vector3 Vector2)
    (s : OpenvinsLocalizationHandler Transformation Vector3 Vector2) :
    OpenvinsLocalizationHandler Transformation Vector3 Vector2 :=
  { s with T_M_I_buffer := c.T_M_I_buffer, T_G_M_filter_buffer := c.T_G_M_filter_buffer }

variable (ctx : Context Transformation Vector3 Vector2)

/-- The baseframe estimate of a call whose pose lookup is ready. -/
def Call.estimate (c : Call Transformation Vector3 Vector2) : Option Transformation :=
  match c.T_M_I_buffer.getPoseAt ctx.interpolate c.localization_result.timestamp_ns with
  | .ready T_M_I => some (c.localization_result.T_G_B * T_M_I⁻¹)
  | _ => none

/-- The estimates of the calls whose pose lookup is ready, in order. -/
def lookedUpEstimates (cs : List (Call Transformation Vector3 Vector2)) : List Transformation :=
  cs.filterMap (Call.estimate ctx)

/-- The call `c`, made after the calls `cs`, initializes the baseframe: its pose lookup
is ready, at least `min_num` estimates have been looked up by then, and RANSAC on the
last `min_num` of them finds enough inliers. -/
def Call.Initializes (cs : List (Call Transformation Vector3 Vector2))
    (c : Call Transformation Vector3 Vector2) : Prop :=
  (c.estimate ctx).isSome ∧
    ctx.flags.openvinsli_min_num_baseframe_estimates_before_init ≤
      (lookedUpEstimates ctx (cs ++ [c])).length ∧
    ⌈(ctx.flags.openvinsli_min_num_baseframe_estimates_before_init : ℚ) *
        ctx.constants.kInitializationRansacInlierRatioThreshold⌉ ≤
      (ctx.transformationRansac ((lookedUpEstimates ctx (cs ++ [c])).rtake
          ctx.flags.openvinsli_min_num_baseframe_estimates_before_init)
        ctx.constants.kInitializationMaxNumRansacIterations
        ctx.constants.kInitializationRansacOrientationErrorThresholdRadians
        ctx.constants.kInitializationRansacPositionErrorThresholdMeters c.ransac_seed).2

instance (cs : List (Call Transformation Vector3 Vector2)) (c : Call Transformation Vector3 Vector2) :
    Decidable (c.Initializes ctx cs) :=
  inferInstanceAs (Decidable (_ ∧ _ ∧ _))

/-- Some call of `cs` initialized the baseframe, given the calls before it. -/
def InitializedBy (cs : List (Call Transformation Vector3 Vector2)) : Prop :=
  ∃ pre c, pre ++ [c] <+: cs ∧ c.Initializes ctx pre

/-- One step of a run: the call on the handler as it finds it. -/
def step (s : OpenvinsLocalizationHandler Transformation Vector3 Vector2)
    (c : Call Transformation Vector3 Vector2) :
    Except CheckFailed (OpenvinsLocalizationHandler Transformation Vector3 Vector2) :=
  processLocalizationResultInternal ctx c.ransac_seed (c.before s) c.localization_result

/-- A run of calls, which stops at the first failed `CHECK`. -/
def runCalls (s : OpenvinsLocalizationHandler Transformation Vector3 Vector2)
    (cs : List (Call Transformation Vector3 Vector2)) :
    Except CheckFailed (OpenvinsLocalizationHandler Transformation Vector3 Vector2) :=
  cs.foldlM (step ctx) s

/-- The run invariant after the calls `cs`. -/
structure Inv (cs : List (Call Transformation Vector3 Vector2))
    (s : OpenvinsLocalizationHandler Transformation Vector3 Vector2) : Prop where
  ne_kNotLocalized : s.localization_state ≠ .kNotLocalized
  localized_of_6dof :
    ctx.flags.openvinsli_use_6dof_localization = true → s.localization_state = .kLocalized
  capacity :
    s.T_G_M_loc_buffer.capacity = ctx.flags.openvinsli_min_num_baseframe_estimates_before_init
  buffer_of_uninitialized : s.localization_state = .kUninitialized →
    s.T_G_M_loc_buffer.buffer =
      (lookedUpEstimates ctx cs).rtake ctx.flags.openvinsli_min_num_baseframe_estimates_before_init

omit [MulAction Transformation Vector3] [Sub Vector2] in
theorem inv_init : Inv ctx [] (init ctx) := by
  constructor <;> by_cases h : ctx.flags.openvinsli_use_6dof_localization <;>
    simp [init, h, FixedSizeQueue.empty, lookedUpEstimates]

/-- The run invariant, with when the handler is localized: in 6-DoF mode, or once one
of the calls has initialized the baseframe. -/
structure LocalizedInv (cs : List (Call Transformation Vector3 Vector2))
    (s : OpenvinsLocalizationHandler Transformation Vector3 Vector2) extends Inv ctx cs s : Prop where
  localized_iff : s.localization_state = .kLocalized ↔
    ctx.flags.openvinsli_use_6dof_localization = true ∨ InitializedBy ctx cs

omit [MulAction Transformation Vector3] [Sub Vector2] in
theorem localizedInv_init : LocalizedInv ctx [] (init ctx) where
  toInv := inv_init ctx
  localized_iff := by
    by_cases h6 : ctx.flags.openvinsli_use_6dof_localization <;> simp [init, h6, InitializedBy]

variable {ctx}

omit [MulAction Transformation Vector3] [Sub Vector2] in
/-- The alignment buffer after an uninitialized call, from the invariant. -/
theorem loc_buffer_after_initializeBaseframe {cs : List (Call Transformation Vector3 Vector2)}
    {s : OpenvinsLocalizationHandler Transformation Vector3 Vector2}
    (c : Call Transformation Vector3 Vector2) (hinv : Inv ctx cs s)
    (hs : s.localization_state = .kUninitialized) :
    (initializeBaseframe ctx c.ransac_seed (c.before s) c.localization_result).1.T_G_M_loc_buffer.buffer =
      (lookedUpEstimates ctx (cs ++ [c])).rtake
        ctx.flags.openvinsli_min_num_baseframe_estimates_before_init := by
  have hbuf := hinv.buffer_of_uninitialized hs
  rw [← hinv.capacity] at hbuf ⊢
  rw [initializeBaseframe_fst]
  simp only [lookedUpEstimates, List.filterMap_append, List.filterMap_cons, List.filterMap_nil,
    Call.estimate, Call.before]
  split <;> rename_i hlook <;> simp only [hlook]
  · exact FixedSizeQueue.insert_buffer_rtake _ _ _ hbuf
  · simpa using hbuf

/-- **Step lemma**: a call keeps the invariant. -/
theorem inv_step {cs : List (Call Transformation Vector3 Vector2)}
    {s s' : OpenvinsLocalizationHandler Transformation Vector3 Vector2}
    {c : Call Transformation Vector3 Vector2} (hinv : Inv ctx cs s) (h : step ctx s c = .ok s') :
    Inv ctx (cs ++ [c]) s' := by
  rcases processLocalizationResultInternal_cases h with ⟨hloc, _, hu⟩ | ⟨hnot, rfl⟩
  · -- localized: an update, which leaves the state machine alone
    obtain ⟨_, rfl⟩ := processAsUpdate_frame hu
    have hs : s.localization_state = .kLocalized := hloc
    exact ⟨by simp [Call.before, hs], fun _ => hs, hinv.capacity, by simp [Call.before, hs]⟩
  · -- not localized, hence uninitialized: the baseframe initialization
    have hs : s.localization_state = .kUninitialized := by
      have := hinv.ne_kNotLocalized
      cases hst : s.localization_state <;> simp_all [Call.before]
    have hbuf := loc_buffer_after_initializeBaseframe c hinv hs
    have hcap := hinv.capacity
    have h6 : ctx.flags.openvinsli_use_6dof_localization = false := by
      by_contra h6
      simp [hinv.localized_of_6dof (by simpa using h6)] at hs
    split
    · exact ⟨by simp, fun _ => rfl, by simpa [Call.before] using hcap, by simp⟩
    · exact ⟨by simp [Call.before, hs], by simp [h6], by simpa [Call.before] using hcap,
        fun _ => hbuf⟩

/-- A run one call longer is the shorter run, then that call. -/
theorem runCalls_append_singleton {s s' : OpenvinsLocalizationHandler Transformation Vector3 Vector2}
    {cs : List (Call Transformation Vector3 Vector2)} {c : Call Transformation Vector3 Vector2} :
    runCalls ctx s (cs ++ [c]) = .ok s' ↔ ∃ s₀, runCalls ctx s cs = .ok s₀ ∧ step ctx s₀ c = .ok s' := by
  rw [runCalls, List.foldlM_append, bind_eq_ok]
  simp only [List.foldlM_cons, List.foldlM_nil, bind_pure]
  rfl

/-- **Run lemma**: every state a run from the constructed handler reaches satisfies
the invariant. -/
theorem inv_runCalls {cs : List (Call Transformation Vector3 Vector2)}
    {s : OpenvinsLocalizationHandler Transformation Vector3 Vector2}
    (h : runCalls ctx (init ctx) cs = .ok s) : Inv ctx cs s := by
  induction cs using List.reverseRecOn generalizing s with
  | nil =>
    cases h
    exact inv_init ctx
  | append_singleton cs c ih =>
    obtain ⟨s₀, h₀, h⟩ := runCalls_append_singleton.mp h
    exact inv_step (ih h₀) h

/-- **The localization state machine.**  In every run from the constructed handler: never
`kNotLocalized`; in 6-DoF mode every call is an update; localized stays localized; and
the move from `kUninitialized` to `kLocalized` happens on a call whose pose lookup was
ready, when the alignment buffer held the last `min_num` looked-up estimates, in order,
and RANSAC on them found at least `⌈min_num * ratio⌉` inliers. -/
theorem localization_state_machine {cs : List (Call Transformation Vector3 Vector2)}
    {s : OpenvinsLocalizationHandler Transformation Vector3 Vector2}
    (h : runCalls ctx (init ctx) cs = .ok s) :
    s.localization_state ≠ .kNotLocalized ∧
    (ctx.flags.openvinsli_use_6dof_localization = true → ∀ c : Call Transformation Vector3 Vector2,
      step ctx s c = (processAsUpdate ctx (c.before s) c.localization_result).map Prod.fst) ∧
    ∀ (c : Call Transformation Vector3 Vector2) s', step ctx s c = .ok s' →
      (s.localization_state = .kLocalized → s'.localization_state = .kLocalized) ∧
      (s.localization_state = .kUninitialized → s'.localization_state = .kLocalized →
        (initializeBaseframe ctx c.ransac_seed (c.before s) c.localization_result).2 = true ∧
        (∃ T_M_I, c.T_M_I_buffer.getPoseAt ctx.interpolate c.localization_result.timestamp_ns =
          .ready T_M_I) ∧
        s'.T_G_M_loc_buffer.buffer = (lookedUpEstimates ctx (cs ++ [c])).rtake
          ctx.flags.openvinsli_min_num_baseframe_estimates_before_init ∧
        s'.T_G_M_loc_buffer.size = ctx.flags.openvinsli_min_num_baseframe_estimates_before_init ∧
        ⌈(ctx.flags.openvinsli_min_num_baseframe_estimates_before_init : ℚ) *
            ctx.constants.kInitializationRansacInlierRatioThreshold⌉ ≤
          (ctx.transformationRansac s'.T_G_M_loc_buffer.buffer
            ctx.constants.kInitializationMaxNumRansacIterations
            ctx.constants.kInitializationRansacOrientationErrorThresholdRadians
            ctx.constants.kInitializationRansacPositionErrorThresholdMeters c.ransac_seed).2) := by
  have hinv := inv_runCalls h
  refine ⟨hinv.ne_kNotLocalized, fun h6 c => ?_, fun c s' hstep => ⟨fun hs => ?_, fun hs hs' => ?_⟩⟩
  · exact processLocalizationResultInternal_of_localized _ _ (hinv.localized_of_6dof h6)
  · rcases processLocalizationResultInternal_cases hstep with ⟨-, _, hu⟩ | ⟨hnot, -⟩
    · obtain ⟨_, rfl⟩ := processAsUpdate_frame hu
      exact hs
    · exact absurd hs hnot
  · rcases processLocalizationResultInternal_cases hstep with ⟨hloc, -⟩ | ⟨-, rfl⟩
    · simp [Call.before, hs] at hloc
    · -- the state moved, so the initialization succeeded
      have hok : (initializeBaseframe ctx c.ransac_seed (c.before s) c.localization_result).2 = true := by
        by_contra hok
        rw [if_neg hok] at hs'
        simp [Call.before, hs] at hs'
      obtain ⟨T_M_I, hlook, hsize, hinliers⟩ :=
        initializeBaseframe_fst_of_snd hok (by simpa [Call.before] using hinv.capacity)
      rw [if_pos hok]
      exact ⟨hok, ⟨T_M_I, hlook⟩, loc_buffer_after_initializeBaseframe c hinv hs, hsize, hinliers⟩

/-- On the line: in 6-DoF mode a second call is an update; without it, of two calls whose
poses are buffered, the second moves the handler from `kUninitialized` to `kLocalized`
with both estimates in its alignment buffer. -/
theorem localization_state_machine_on_line :
    (∃ s, runCalls lineContext (init lineContext)
        [⟨⟨1000, 100, [(0, 1)], by decide⟩, ⟨2, [], by decide⟩, ⟨0, 1, [], []⟩, 0⟩] = .ok s ∧
      step lineContext s ⟨⟨1000, 100, [(5, 1)], by decide⟩, ⟨2, [], by decide⟩, ⟨5, 1, [], []⟩, 0⟩ =
        (processAsUpdate lineContext
          ({ s with T_M_I_buffer := ⟨1000, 100, [(5, 1)], by decide⟩, T_G_M_filter_buffer := ⟨2, [], by decide⟩ })
          ⟨5, 1, [], []⟩).map Prod.fst) ∧
    ∃ s s', runCalls structureLineContext (init structureLineContext)
        [⟨⟨1000, 100, [(0, 1)], by decide⟩, ⟨2, [], by decide⟩, ⟨0, 1, [], []⟩, 0⟩] = .ok s ∧
      step structureLineContext s
        ⟨⟨1000, 100, [(5, 1)], by decide⟩, ⟨2, [], by decide⟩, ⟨5, 1, [], []⟩, 0⟩ = .ok s' ∧
      s.localization_state ≠ .kNotLocalized ∧ s.localization_state = .kUninitialized ∧
      s'.localization_state = .kLocalized ∧
      s'.T_G_M_loc_buffer.buffer = (lookedUpEstimates structureLineContext
        [⟨⟨1000, 100, [(0, 1)], by decide⟩, ⟨2, [], by decide⟩, ⟨0, 1, [], []⟩, 0⟩,
          ⟨⟨1000, 100, [(5, 1)], by decide⟩, ⟨2, [], by decide⟩, ⟨5, 1, [], []⟩, 0⟩]).rtake 2 ∧
      s'.T_G_M_loc_buffer.size = 2 := by
  refine ⟨?_, ?_⟩
  · obtain ⟨s, h⟩ : ∃ s, runCalls lineContext (init lineContext)
        [⟨⟨1000, 100, [(0, 1)], by decide⟩, ⟨2, [], by decide⟩, ⟨0, 1, [], []⟩, 0⟩] = .ok s := ⟨_, by rfl⟩
    exact ⟨s, h, (localization_state_machine h).2.1 rfl _⟩
  · obtain ⟨s, s', h, h', hs, hs'⟩ : ∃ s s', runCalls structureLineContext (init structureLineContext)
          [⟨⟨1000, 100, [(0, 1)], by decide⟩, ⟨2, [], by decide⟩, ⟨0, 1, [], []⟩, 0⟩] = .ok s ∧
        step structureLineContext s
          ⟨⟨1000, 100, [(5, 1)], by decide⟩, ⟨2, [], by decide⟩, ⟨5, 1, [], []⟩, 0⟩ = .ok s' ∧
        s.localization_state = .kUninitialized ∧ s'.localization_state = .kLocalized :=
      ⟨_, _, by with_unfolding_all rfl, by with_unfolding_all rfl, by with_unfolding_all rfl,
        by with_unfolding_all rfl⟩
    have hsm := localization_state_machine h
    obtain ⟨-, -, hbuf, hsize, -⟩ := (hsm.2.2 _ s' h').2 hs hs'
    exact ⟨s, s', h, h', hsm.1, hs, hs', hbuf, hsize⟩

/-- A call feeds OpenVINS its localization in 6-DoF mode, and nothing otherwise. -/
theorem step_openvins_measurements {cs : List (Call Transformation Vector3 Vector2)}
    {s s' : OpenvinsLocalizationHandler Transformation Vector3 Vector2}
    {c : Call Transformation Vector3 Vector2} (hinv : Inv ctx cs s) (h : step ctx s c = .ok s') :
    s'.openvins_measurements = s.openvins_measurements ++
      if ctx.flags.openvinsli_use_6dof_localization then
        [makeOpenvinsLocalizationData ctx c.localization_result]
      else [] := by
  rcases processLocalizationResultInternal_cases h with ⟨-, _, hu⟩ | ⟨hnot, rfl⟩
  · obtain ⟨_, rfl⟩ := processAsUpdate_frame hu
    rfl
  · have h6 : ctx.flags.openvinsli_use_6dof_localization = false := by
      by_contra h6
      exact hnot (by simpa [Call.before] using hinv.localized_of_6dof (by simpa using h6))
    rw [h6]
    split <;> simp [initializeBaseframe_fst, Call.before]

/-- **What a run feeds OpenVINS**: in 6-DoF mode the localization of every call, each
once and in the order of the calls; in structure-constraint mode nothing. -/
theorem runCalls_openvins_measurements {cs : List (Call Transformation Vector3 Vector2)}
    {s : OpenvinsLocalizationHandler Transformation Vector3 Vector2}
    (h : runCalls ctx (init ctx) cs = .ok s) :
    s.openvins_measurements =
      if ctx.flags.openvinsli_use_6dof_localization then
        cs.map fun c => makeOpenvinsLocalizationData ctx c.localization_result
      else [] := by
  induction cs using List.reverseRecOn generalizing s with
  | nil =>
    cases h
    split <;> rfl
  | append_singleton cs c ih =>
    obtain ⟨s₀, h₀, h⟩ := runCalls_append_singleton.mp h
    rw [step_openvins_measurements (inv_runCalls h₀) h, ih h₀]
    split <;> simp

/-- On the line, two calls on the localizations at 0 ns and 5 ns: in 6-DoF mode OpenVINS
receives both, in call order; without it, neither. -/
theorem runCalls_openvins_measurements_on_line :
    (∃ s, runCalls lineContext (init lineContext)
        [⟨⟨1000, 100, [(0, 1)], by decide⟩, ⟨2, [], by decide⟩, ⟨0, 1, [], []⟩, 0⟩,
          ⟨⟨1000, 100, [(5, 1)], by decide⟩, ⟨2, [], by decide⟩, ⟨5, 1, [], []⟩, 0⟩] = .ok s ∧
      s.openvins_measurements = [makeOpenvinsLocalizationData lineContext ⟨0, 1, [], []⟩,
        makeOpenvinsLocalizationData lineContext ⟨5, 1, [], []⟩]) ∧
    ∃ s, runCalls structureLineContext (init structureLineContext)
        [⟨⟨1000, 100, [(0, 1)], by decide⟩, ⟨2, [], by decide⟩, ⟨0, 1, [], []⟩, 0⟩,
          ⟨⟨1000, 100, [(5, 1)], by decide⟩, ⟨2, [], by decide⟩, ⟨5, 1, [], []⟩, 0⟩] = .ok s ∧
      s.openvins_measurements = [] := by
  refine ⟨?_, ?_⟩
  · obtain ⟨s, h⟩ : ∃ s, runCalls lineContext (init lineContext)
        [⟨⟨1000, 100, [(0, 1)], by decide⟩, ⟨2, [], by decide⟩, ⟨0, 1, [], []⟩, 0⟩,
          ⟨⟨1000, 100, [(5, 1)], by decide⟩, ⟨2, [], by decide⟩, ⟨5, 1, [], []⟩, 0⟩] = .ok s := ⟨_, by rfl⟩
    exact ⟨s, h, runCalls_openvins_measurements h⟩
  · obtain ⟨s, h⟩ : ∃ s, runCalls structureLineContext (init structureLineContext)
        [⟨⟨1000, 100, [(0, 1)], by decide⟩, ⟨2, [], by decide⟩, ⟨0, 1, [], []⟩, 0⟩,
          ⟨⟨1000, 100, [(5, 1)], by decide⟩, ⟨2, [], by decide⟩, ⟨5, 1, [], []⟩, 0⟩] = .ok s :=
      ⟨_, by with_unfolding_all rfl⟩
    exact ⟨s, h, runCalls_openvins_measurements h⟩

/-! ### When a run localizes the handler -/

omit [MulAction Transformation Vector3] [Sub Vector2] in
/-- A handler that satisfies the invariant and is not localized is uninitialized. -/
theorem Inv.uninitialized_of_ne_kLocalized {cs : List (Call Transformation Vector3 Vector2)}
    {s : OpenvinsLocalizationHandler Transformation Vector3 Vector2} (hinv : Inv ctx cs s)
    (h : s.localization_state ≠ .kLocalized) : s.localization_state = .kUninitialized := by
  have := hinv.ne_kNotLocalized
  cases hs : s.localization_state <;> simp_all

omit [MulAction Transformation Vector3] [Sub Vector2] in
/-- From the invariant, `initializeBaseframe` succeeds exactly when the call initializes
the baseframe in the sense of `Call.Initializes`. -/
theorem initializeBaseframe_snd_iff_initializes {cs : List (Call Transformation Vector3 Vector2)}
    {s : OpenvinsLocalizationHandler Transformation Vector3 Vector2}
    (c : Call Transformation Vector3 Vector2) (hinv : Inv ctx cs s)
    (hs : s.localization_state = .kUninitialized) :
    (initializeBaseframe ctx c.ransac_seed (c.before s) c.localization_result).2 = true ↔
      c.Initializes ctx cs := by
  have hbuf := loc_buffer_after_initializeBaseframe c hinv hs
  rw [initializeBaseframe_snd_eq_true_iff, Call.Initializes, ← hbuf, initializeBaseframe_fst]
  rw [initializeBaseframe_fst] at hbuf
  simp only [Call.before, Call.estimate] at hbuf ⊢
  cases hlook : c.T_M_I_buffer.getPoseAt ctx.interpolate c.localization_result.timestamp_ns with
  | ready T_M_I =>
    simp only [hlook] at hbuf
    simp only [PoseLookupResult.ready.injEq, exists_eq_left', Option.isSome_some, true_and,
      FixedSizeQueue.size, hbuf, List.rtake, List.length_drop]
    exact and_congr_left fun _ => by omega
  | _ => simp

/-- **Step lemma**: a call leaves the handler localized exactly when it was localized
or the call initializes the baseframe. -/
theorem step_localized_iff {cs : List (Call Transformation Vector3 Vector2)}
    {s s' : OpenvinsLocalizationHandler Transformation Vector3 Vector2}
    {c : Call Transformation Vector3 Vector2} (hinv : Inv ctx cs s) (h : step ctx s c = .ok s') :
    s'.localization_state = .kLocalized ↔
      s.localization_state = .kLocalized ∨ c.Initializes ctx cs := by
  rcases processLocalizationResultInternal_cases h with ⟨hloc, _, hu⟩ | ⟨hnot, rfl⟩
  · obtain ⟨_, rfl⟩ := processAsUpdate_frame hu
    exact iff_of_true hloc (.inl hloc)
  · have hs := hinv.uninitialized_of_ne_kLocalized hnot
    rw [← initializeBaseframe_snd_iff_initializes c hinv hs]
    split <;> rename_i hinit
    · exact iff_of_true rfl (.inr hinit)
    · rw [initializeBaseframe_fst_localization_state]
      exact iff_of_false hnot (by simp [hs, hinit])

omit [MulAction Transformation Vector3] [Sub Vector2] in
/-- A run one call longer initialized the baseframe when the shorter one did or that
call does. -/
theorem initializedBy_append_singleton {cs : List (Call Transformation Vector3 Vector2)}
    {c : Call Transformation Vector3 Vector2} :
    InitializedBy ctx (cs ++ [c]) ↔ InitializedBy ctx cs ∨ c.Initializes ctx cs := by
  have hlast : ∀ pre c', pre ++ [c'] = cs ++ [c] ↔ pre = cs ∧ c' = c := fun _ _ => by
    rw [← List.concat_eq_append, ← List.concat_eq_append, List.concat_inj]
  simp only [InitializedBy, List.prefix_concat_iff, or_and_right, exists_or, hlast, and_assoc,
    exists_eq_left', exists_and_left, exists_eq_left]
  exact or_comm

/-- **Step lemma** for `LocalizedInv`. -/
theorem localizedInv_step {cs : List (Call Transformation Vector3 Vector2)}
    {s s' : OpenvinsLocalizationHandler Transformation Vector3 Vector2}
    {c : Call Transformation Vector3 Vector2} (hinv : LocalizedInv ctx cs s)
    (h : step ctx s c = .ok s') : LocalizedInv ctx (cs ++ [c]) s' where
  toInv := inv_step hinv.toInv h
  localized_iff := by
    rw [step_localized_iff hinv.toInv h, hinv.localized_iff, initializedBy_append_singleton, or_assoc]

/-- **Run lemma** for `LocalizedInv`, from any state that satisfies it. -/
theorem localizedInv_runCalls {cs cs' : List (Call Transformation Vector3 Vector2)}
    {s s' : OpenvinsLocalizationHandler Transformation Vector3 Vector2} (hinv : LocalizedInv ctx cs s)
    (h : runCalls ctx s cs' = .ok s') : LocalizedInv ctx (cs ++ cs') s' := by
  induction cs' using List.reverseRecOn generalizing s' with
  | nil =>
    cases h
    simpa using hinv
  | append_singleton cs' c ih =>
    obtain ⟨s₀, h₀, h⟩ := runCalls_append_singleton.mp h
    rw [← List.append_assoc]
    exact localizedInv_step (ih h₀) h

/-- **When a run has localized the handler**: in 6-DoF mode from the start; otherwise
exactly when one of its calls initialized the baseframe, given the calls before it. -/
theorem runCalls_localized_iff {cs : List (Call Transformation Vector3 Vector2)}
    {s : OpenvinsLocalizationHandler Transformation Vector3 Vector2}
    (h : runCalls ctx (init ctx) cs = .ok s) :
    s.localization_state = .kLocalized ↔
      ctx.flags.openvinsli_use_6dof_localization = true ∨
        ∃ pre c, pre ++ [c] <+: cs ∧ c.Initializes ctx pre :=
  (localizedInv_runCalls (localizedInv_init ctx) h).localized_iff

/-- Without 6-DoF mode, two calls on the line whose poses are buffered localize the handler:
the second one initializes the baseframe. -/
theorem runCalls_localized_iff_on_line :
    ∃ s, runCalls structureLineContext (init structureLineContext)
        [⟨⟨1000, 100, [(0, 1)], by decide⟩, ⟨2, [], by decide⟩, ⟨0, 1, [], []⟩, 0⟩,
          ⟨⟨1000, 100, [(0, 1)], by decide⟩, ⟨2, [], by decide⟩, ⟨0, 1, [], []⟩, 0⟩] = .ok s ∧
      s.localization_state = .kLocalized := by
  obtain ⟨s, h⟩ : ∃ s, runCalls structureLineContext (init structureLineContext)
      [⟨⟨1000, 100, [(0, 1)], by decide⟩, ⟨2, [], by decide⟩, ⟨0, 1, [], []⟩, 0⟩,
        ⟨⟨1000, 100, [(0, 1)], by decide⟩, ⟨2, [], by decide⟩, ⟨0, 1, [], []⟩, 0⟩] = .ok s :=
    ⟨_, by with_unfolding_all rfl⟩
  exact ⟨s, h, (runCalls_localized_iff h).mpr
    (.inr ⟨[_], _, List.prefix_refl _, by with_unfolding_all decide⟩)⟩

/-! ### How many estimates the initialization takes -/

omit [MulAction Transformation Vector3] [Sub Vector2] in
theorem lookedUpEstimates_append_singleton (cs : List (Call Transformation Vector3 Vector2))
    (c : Call Transformation Vector3 Vector2) :
    lookedUpEstimates ctx (cs ++ [c]) = lookedUpEstimates ctx cs ++ (c.estimate ctx).toList := by
  cases h : c.estimate ctx <;> simp [lookedUpEstimates, h]

omit [MulAction Transformation Vector3] [Sub Vector2] in
/-- A call that initializes the baseframe has found its pose, and `min_num` estimates
have been looked up by then. -/
theorem Call.Initializes.length_le {cs : List (Call Transformation Vector3 Vector2)}
    {c : Call Transformation Vector3 Vector2} (h : c.Initializes ctx cs) :
    max 1 ctx.flags.openvinsli_min_num_baseframe_estimates_before_init ≤
      (lookedUpEstimates ctx (cs ++ [c])).length := by
  obtain ⟨hready, hmin, -⟩ := h
  obtain ⟨e, he⟩ := Option.isSome_iff_exists.mp hready
  refine max_le ?_ hmin
  simp [lookedUpEstimates_append_singleton, he]

omit [MulAction Transformation Vector3] [Sub Vector2] in
theorem InitializedBy.length_le {cs : List (Call Transformation Vector3 Vector2)}
    (h : InitializedBy ctx cs) :
    max 1 ctx.flags.openvinsli_min_num_baseframe_estimates_before_init ≤
      (lookedUpEstimates ctx cs).length := by
  obtain ⟨pre, c, hpre, hinit⟩ := h
  exact hinit.length_le.trans (hpre.filterMap _).length_le

omit [MulAction Transformation Vector3] [Sub Vector2] in
/-- When RANSAC finds enough inliers among every `min_num` estimates, the call that
brings the looked-up estimates to `max 1 min_num` initializes the baseframe. -/
theorem initializedBy_of_length_le
    (hransac : ∀ buffer ransac_seed,
      buffer.length = ctx.flags.openvinsli_min_num_baseframe_estimates_before_init →
      ⌈(ctx.flags.openvinsli_min_num_baseframe_estimates_before_init : ℚ) *
          ctx.constants.kInitializationRansacInlierRatioThreshold⌉ ≤
        (ctx.transformationRansac buffer ctx.constants.kInitializationMaxNumRansacIterations
          ctx.constants.kInitializationRansacOrientationErrorThresholdRadians
          ctx.constants.kInitializationRansacPositionErrorThresholdMeters ransac_seed).2)
    {cs : List (Call Transformation Vector3 Vector2)}
    (h : max 1 ctx.flags.openvinsli_min_num_baseframe_estimates_before_init ≤
      (lookedUpEstimates ctx cs).length) : InitializedBy ctx cs := by
  induction cs using List.reverseRecOn with
  | nil => simp [lookedUpEstimates] at h
  | append_singleton cs c ih =>
    rw [initializedBy_append_singleton]
    by_cases hcs : max 1 ctx.flags.openvinsli_min_num_baseframe_estimates_before_init ≤
        (lookedUpEstimates ctx cs).length
    · exact .inl (ih hcs)
    · rw [lookedUpEstimates_append_singleton] at h
      cases he : c.estimate ctx with
      | none =>
        simp only [he, Option.toList_none, List.append_nil] at h
        exact absurd h hcs
      | some e =>
        simp only [he, Option.toList_some, List.length_append, List.length_singleton] at h
        have hmin := (le_max_right _ _).trans h
        refine .inr ⟨by simp [he], by simpa [lookedUpEstimates_append_singleton, he] using hmin,
          hransac _ _ ?_⟩
        simp only [List.rtake, List.length_drop, lookedUpEstimates_append_singleton, he,
          Option.toList_some, List.length_append, List.length_singleton]
        omega

/-- **The initialization takes `min_num` estimates.**  Without 6-DoF mode, a run from the
constructed handler has localized it only if at least `max 1 min_num` of its calls
found their pose; and, when RANSAC finds enough inliers among every `min_num`
estimates, as soon as that many have. -/
theorem runCalls_localized_iff_of_structure (h6 : ctx.flags.openvinsli_use_6dof_localization = false)
    {cs : List (Call Transformation Vector3 Vector2)}
    {s : OpenvinsLocalizationHandler Transformation Vector3 Vector2}
    (h : runCalls ctx (init ctx) cs = .ok s) :
    (s.localization_state = .kLocalized →
      max 1 ctx.flags.openvinsli_min_num_baseframe_estimates_before_init ≤
        (lookedUpEstimates ctx cs).length) ∧
    ((∀ buffer ransac_seed,
      buffer.length = ctx.flags.openvinsli_min_num_baseframe_estimates_before_init →
      ⌈(ctx.flags.openvinsli_min_num_baseframe_estimates_before_init : ℚ) *
          ctx.constants.kInitializationRansacInlierRatioThreshold⌉ ≤
        (ctx.transformationRansac buffer ctx.constants.kInitializationMaxNumRansacIterations
          ctx.constants.kInitializationRansacOrientationErrorThresholdRadians
          ctx.constants.kInitializationRansacPositionErrorThresholdMeters ransac_seed).2) →
      max 1 ctx.flags.openvinsli_min_num_baseframe_estimates_before_init ≤
        (lookedUpEstimates ctx cs).length → s.localization_state = .kLocalized) := by
  have hiff := (localizedInv_runCalls (localizedInv_init ctx) h).localized_iff
  simp only [h6, Bool.false_eq_true, false_or, List.nil_append] at hiff
  exact ⟨fun hs => (hiff.mp hs).length_le,
    fun hransac hlen => hiff.mpr (initializedBy_of_length_le hransac hlen)⟩

/-- Without 6-DoF mode, on the line, where RANSAC counts every estimate as an inlier,
the second call whose pose is buffered localizes the handler. -/
theorem runCalls_localized_iff_of_structure_on_line :
    ∃ s, runCalls structureLineContext (init structureLineContext)
        [⟨⟨1000, 100, [(0, 1)], by decide⟩, ⟨2, [], by decide⟩, ⟨0, 1, [], []⟩, 0⟩,
          ⟨⟨1000, 100, [(5, 1)], by decide⟩, ⟨2, [], by decide⟩, ⟨5, 1, [], []⟩, 0⟩] = .ok s ∧
      s.localization_state = .kLocalized := by
  obtain ⟨s, h⟩ : ∃ s, runCalls structureLineContext (init structureLineContext)
      [⟨⟨1000, 100, [(0, 1)], by decide⟩, ⟨2, [], by decide⟩, ⟨0, 1, [], []⟩, 0⟩,
        ⟨⟨1000, 100, [(5, 1)], by decide⟩, ⟨2, [], by decide⟩, ⟨5, 1, [], []⟩, 0⟩] = .ok s :=
    ⟨_, by with_unfolding_all rfl⟩
  refine ⟨s, h, (runCalls_localized_iff_of_structure rfl h).2 (fun buffer _ hlen => ?_) (by rfl)⟩
  have hlen : buffer.length = 2 := hlen
  show ⌈((2 : ℕ) : ℚ) * (1 / 2)⌉ ≤ ((buffer.length : ℕ) : ℤ)
  rw [hlen]
  norm_num

/-! ### Where a run aborts -/

/-- **Where a run aborts**: a run of calls from any state that fails a `CHECK` fails it in
`processAsUpdate`, on a call made while the handler was localized; the baseframe
initialization never aborts. -/
theorem runCalls_eq_error {s : OpenvinsLocalizationHandler Transformation Vector3 Vector2}
    {cs : List (Call Transformation Vector3 Vector2)} {e : CheckFailed}
    (h : runCalls ctx s cs = .error e) :
    ∃ pre c post s₀, cs = pre ++ c :: post ∧ runCalls ctx s pre = .ok s₀ ∧
      s₀.localization_state = .kLocalized ∧
      processAsUpdate ctx (c.before s₀) c.localization_result = .error e := by
  induction cs generalizing s with
  | nil => cases h
  | cons c cs ih =>
    rw [runCalls, List.foldlM_cons] at h
    cases hstep : step ctx s c with
    | error e' =>
      rw [hstep] at h
      cases h
      obtain ⟨hloc, hu⟩ := processLocalizationResultInternal_eq_error hstep
      exact ⟨[], c, cs, s, rfl, rfl, hloc, hu⟩
    | ok s₁ =>
      rw [hstep, ok_bind] at h
      obtain ⟨pre, c', post, s₀, rfl, hpre, hloc, hu⟩ := ih h
      exact ⟨c :: pre, c', post, s₀, rfl, by rwa [runCalls, List.foldlM_cons, hstep, ok_bind], hloc, hu⟩

/-- On the line in 6-DoF mode, a call whose localization is older than every buffered
pose aborts in `processAsUpdate`. -/
theorem runCalls_eq_error_on_line :
    runCalls lineContext (init lineContext)
        [⟨⟨1000, 100, [(100, 1), (200, 1)], by decide⟩, ⟨2, [], by decide⟩, ⟨50, 1, [], []⟩, 0⟩] =
        .error ⟨"result != vio_common::PoseLookupBuffer::ResultStatus::kFailedWillNeverSucceed"⟩ ∧
      ∃ pre c post s₀,
        [⟨⟨1000, 100, [(100, 1), (200, 1)], by decide⟩, ⟨2, [], by decide⟩, ⟨50, 1, [], []⟩, 0⟩] =
          pre ++ c :: post ∧ runCalls lineContext (init lineContext) pre = .ok s₀ ∧
        s₀.localization_state = .kLocalized ∧
        processAsUpdate lineContext (c.before s₀) c.localization_result =
          .error ⟨"result != vio_common::PoseLookupBuffer::ResultStatus::kFailedWillNeverSucceed"⟩ := by
  have h : runCalls lineContext (init lineContext)
      [⟨⟨1000, 100, [(100, 1), (200, 1)], by decide⟩, ⟨2, [], by decide⟩, ⟨50, 1, [], []⟩, 0⟩] =
      .error ⟨"result != vio_common::PoseLookupBuffer::ResultStatus::kFailedWillNeverSucceed"⟩ := by
    rfl
  exact ⟨h, runCalls_eq_error h⟩

end Openvinsli
