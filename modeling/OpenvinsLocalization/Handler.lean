/-
OpenvinsLocalization/Handler.lean

`OpenvinsLocalizationHandler`: its state, its constructor and its methods, as
functions of the state.

The state holds the members the methods touch, and two output channels: the
measurements handed to `openvins_interface_->feed_measurement_localization`, and the
warnings the reprojection check logs.  The queue `localization_buffer_`, guarded by
its own mutex, is touched only by the loop of `dealWithBufferedLocalizations`, which
takes it and returns it beside the state.  A method that may fail a glog `CHECK`
returns an `Except CheckFailed`.  The random device of `initializeBaseframe` is an
input: each call takes the seed it would draw.

Every method is followed by the lemmas later modules use instead of unfolding it:
which fields it leaves alone, and the ways a call can go: for `processAsUpdate` the three
of a successful update (`processAsUpdate_eq_ok`) and its failures, for
`processLocalizationResultInternal` update or initialization
(`processLocalizationResultInternal_cases`).  In
structure-constraint mode `processAsUpdate` checks and logs but never accepts
(`processAsUpdate_rejects_structure_constraints`).
-/
import OpenvinsLocalization.PoseLookupBuffer
import OpenvinsLocalization.Reprojection

namespace Openvinsli

variable {Transformation Vector3 Vector2 : Type}
variable [Group Transformation] [MulAction Transformation Vector3] [Sub Vector2]

/-- The members of `OpenvinsLocalizationHandler` that its methods read or write,
but the queue, and what it has handed to OpenVINS and to the log. -/
structure OpenvinsLocalizationHandler (Transformation Vector3 Vector2 : Type) where
  localization_state : LocalizationState
  T_M_I_buffer : PoseLookupBuffer Transformation
  T_G_M_filter_buffer : FixedSizeQueue Transformation
  T_G_M_loc_buffer : FixedSizeQueue Transformation
  openvins_measurements : List (LocalizationData Transformation)
  reprojection_warnings : List ReprojectionWarning

namespace OpenvinsLocalizationHandler

variable (ctx : Context Transformation Vector3 Vector2)

/-- The constructor: in 6-DoF mode the handler starts localized. -/
def init : OpenvinsLocalizationHandler Transformation Vector3 Vector2 where
  localization_state :=
    if ctx.flags.openvinsli_use_6dof_localization then .kLocalized else .kUninitialized
  T_M_I_buffer := .empty ctx.constants.kBufferPoseHistoryNs ctx.constants.kBufferMaxPropagationNs
  T_G_M_filter_buffer := .empty ctx.constants.kFilterBaseframeBufferSize
  T_G_M_loc_buffer := .empty ctx.flags.openvinsli_min_num_baseframe_estimates_before_init
  openvins_measurements := []
  reprojection_warnings := []

/-- `makeOpenvinsLocalizationData`: the localization as OpenVINS takes it, with a
fixed diagonal covariance. -/
def makeOpenvinsLocalizationData
    (localization_result : LocalizationResult Transformation Vector3 Vector2) :
    LocalizationData Transformation :=
  let loc_orientation_uncertainty : ℚ := 0.04
  let loc_position_uncertainty : ℚ := 0.8
  let loc_orientation_var := loc_orientation_uncertainty * loc_orientation_uncertainty
  let loc_position_var := loc_position_uncertainty * loc_position_uncertainty
  { timestamp := ctx.convertMaplabToOpenvinsTimestamp localization_result.timestamp_ns
    pose := localization_result.T_G_B
    qp_cov := Matrix.diagonal fun i => if i.val < 3 then loc_orientation_var else loc_position_var }

/-- `openvins_interface_->feed_measurement_localization(data)`. -/
def feedMeasurementLocalization (s : OpenvinsLocalizationHandler Transformation Vector3 Vector2)
    (data : LocalizationData Transformation) : OpenvinsLocalizationHandler Transformation Vector3 Vector2 :=
  { s with openvins_measurements := s.openvins_measurements ++ [data] }

/-- `processLocalizationResult`: the public entry point hands the localization to
OpenVINS directly (its buffering is commented out in this revision). -/
def processLocalizationResult (s : OpenvinsLocalizationHandler Transformation Vector3 Vector2)
    (localization_result : LocalizationResult Transformation Vector3 Vector2) :
    OpenvinsLocalizationHandler Transformation Vector3 Vector2 :=
  s.feedMeasurementLocalization (makeOpenvinsLocalizationData ctx localization_result)

/-- `initializeBaseframe`, with the seed the random device yields. -/
def initializeBaseframe (ransac_seed : Int) (s : OpenvinsLocalizationHandler Transformation Vector3 Vector2)
    (localization_result : LocalizationResult Transformation Vector3 Vector2) :
    OpenvinsLocalizationHandler Transformation Vector3 Vector2 × Bool :=
  match s.T_M_I_buffer.getPoseAt ctx.interpolate localization_result.timestamp_ns with
  | .kFailedNotYetAvailable => (s, false)
  | .kFailedWillNeverSucceed => (s, false)
  | .ready T_M_I =>
    let T_G_M_lc_estimate := localization_result.T_G_B * T_M_I⁻¹
    let s := { s with T_G_M_loc_buffer := s.T_G_M_loc_buffer.insert T_G_M_lc_estimate }
    if s.T_G_M_loc_buffer.size < ctx.flags.openvinsli_min_num_baseframe_estimates_before_init then
      (s, false)
    else
      let kNumInliersThreshold : Int :=
        ⌈(ctx.flags.openvinsli_min_num_baseframe_estimates_before_init : ℚ) *
          ctx.constants.kInitializationRansacInlierRatioThreshold⌉
      let (_, num_inliers) := ctx.transformationRansac s.T_G_M_loc_buffer.buffer
        ctx.constants.kInitializationMaxNumRansacIterations
        ctx.constants.kInitializationRansacOrientationErrorThresholdRadians
        ctx.constants.kInitializationRansacPositionErrorThresholdMeters ransac_seed
      if num_inliers < kNumInliersThreshold then (s, false) else (s, true)

/-- `processAsUpdate`: the accepted flag.  In 6-DoF mode the localization goes to
OpenVINS; otherwise (not implemented for OpenVINS) its matches are checked and
logged, and the update is never accepted. -/
def processAsUpdate (s : OpenvinsLocalizationHandler Transformation Vector3 Vector2)
    (localization_result : LocalizationResult Transformation Vector3 Vector2) :
    Except CheckFailed (OpenvinsLocalizationHandler Transformation Vector3 Vector2 × Bool) := do
  let result := s.T_M_I_buffer.getPoseAt ctx.interpolate localization_result.timestamp_ns
  check (result.status ≠ .kFailedNotYetAvailable)
    "result != vio_common::PoseLookupBuffer::ResultStatus::kFailedNotYetAvailable"
  check (result.status ≠ .kFailedWillNeverSucceed)
    "result != vio_common::PoseLookupBuffer::ResultStatus::kFailedWillNeverSucceed"
  let T_M_I_filter : Transformation := match result with
    | .ready T_M_I => T_M_I
    | _ => 1
  if ctx.flags.openvinsli_use_6dof_localization then
    return (s.feedMeasurementLocalization (makeOpenvinsLocalizationData ctx localization_result),
      true)
  else
    let mapping := ctx.maplab_to_openvins_cam_indices_mapping
    let num_cameras := localization_result.G_landmarks_per_camera.length
    let num_valid_matches := countValidMatches mapping 0 0 localization_result.G_landmarks_per_camera
    if num_valid_matches = 0 then
      -- both branches reject: the 6-DoF update of inactive cameras is a todo
      if ctx.flags.openvinsli_use_6dof_localization_for_inactive_cameras then
        return (s, false)
      else return (s, false)
    else do
      check (s.T_G_M_filter_buffer.buffer.isEmpty = false) "!T_G_M_filter_buffer_.buffer().empty()"
      let T_G_M_filter := s.T_G_M_filter_buffer.buffer.getLastD 1
      let T_G_I_filter := T_G_M_filter * T_M_I_filter
      let (reprojection_success_rate, lc_reprojection_errors, filter_reprojection_errors) ←
        getLocalizationReprojectionErrors ctx localization_result T_G_I_filter
      let c := checkReprojection ctx.flags reprojection_success_rate lc_reprojection_errors
        filter_reprojection_errors
      let s := { s with reprojection_warnings := s.reprojection_warnings ++ (c.warning ctx.flags).toList }
      let measurement_accepted := (List.range num_cameras).foldl
        (fun accepted maplab_cam_idx => match mapping.getRight maplab_cam_idx with
          | none => accepted
          | some _ => accepted && false) true
      return (s, measurement_accepted)

/-- `processLocalizationResultInternal`. -/
def processLocalizationResultInternal (ransac_seed : Int)
    (s : OpenvinsLocalizationHandler Transformation Vector3 Vector2)
    (localization_result : LocalizationResult Transformation Vector3 Vector2) :
    Except CheckFailed (OpenvinsLocalizationHandler Transformation Vector3 Vector2) :=
  match s.localization_state with
  | .kUninitialized | .kNotLocalized =>
    let (s, success) := initializeBaseframe ctx ransac_seed s localization_result
    pure (if success then { s with localization_state := .kLocalized } else s)
  | .kLocalized => do
    let (s, _) ← processAsUpdate ctx s localization_result
    pure s

/-- The `while (1)` loop of `dealWithBufferedLocalizations` over the queue
`localization_buffer_`: stop at an empty queue or at a localization newer than
`newest_TMI_timestamp_ns`, otherwise pop it and process it with the next seed.
Returns the state and the queue. -/
def drainLocalizationBuffer (newest_TMI_timestamp_ns : Int) :
    (Nat → Int) → OpenvinsLocalizationHandler Transformation Vector3 Vector2 →
    List (LocalizationResult Transformation Vector3 Vector2) →
    Except CheckFailed (OpenvinsLocalizationHandler Transformation Vector3 Vector2 ×
      List (LocalizationResult Transformation Vector3 Vector2))
  | _, s, [] => pure (s, [])
  | ransac_seeds, s, localization_result :: rest =>
    if localization_result.timestamp_ns > newest_TMI_timestamp_ns then
      pure (s, localization_result :: rest)
    else do
      let s ← processLocalizationResultInternal ctx (ransac_seeds 0) s localization_result
      drainLocalizationBuffer newest_TMI_timestamp_ns (fun k => ransac_seeds (k + 1)) s rest

/-- `dealWithBufferedLocalizations` on the state and the queue `localization_buffer_`,
with the seeds of the random devices of the successive dispatches. -/
def dealWithBufferedLocalizations (ransac_seeds : Nat → Int)
    (s : OpenvinsLocalizationHandler Transformation Vector3 Vector2)
    (localization_buffer : List (LocalizationResult Transformation Vector3 Vector2)) :
    Except CheckFailed (OpenvinsLocalizationHandler Transformation Vector3 Vector2 ×
      List (LocalizationResult Transformation Vector3 Vector2)) :=
  match s.T_M_I_buffer.getNewestTimestampOfAvailablePose with
  | none => pure (s, localization_buffer)
  | some newest_TMI_timestamp_ns =>
    drainLocalizationBuffer ctx newest_TMI_timestamp_ns ransac_seeds s localization_buffer

/-! ### What each method changes -/

variable {ctx}

omit [MulAction Transformation Vector3] [Sub Vector2] in
theorem initializeBaseframe_fst (ransac_seed : Int)
    (s : OpenvinsLocalizationHandler Transformation Vector3 Vector2)
    (r : LocalizationResult Transformation Vector3 Vector2) :
    (initializeBaseframe ctx ransac_seed s r).1 =
      { s with T_G_M_loc_buffer :=
          match s.T_M_I_buffer.getPoseAt ctx.interpolate r.timestamp_ns with
          | .ready T_M_I => s.T_G_M_loc_buffer.insert (r.T_G_B * T_M_I⁻¹)
          | _ => s.T_G_M_loc_buffer } := by
  unfold initializeBaseframe
  split <;> simp_all [apply_ite Prod.fst]

omit [MulAction Transformation Vector3] [Sub Vector2] in
@[simp] theorem initializeBaseframe_fst_localization_state (ransac_seed : Int)
    (s : OpenvinsLocalizationHandler Transformation Vector3 Vector2)
    (r : LocalizationResult Transformation Vector3 Vector2) :
    (initializeBaseframe ctx ransac_seed s r).1.localization_state = s.localization_state := by
  rw [initializeBaseframe_fst]

omit [MulAction Transformation Vector3] [Sub Vector2] in
@[simp] theorem initializeBaseframe_fst_capacity (ransac_seed : Int)
    (s : OpenvinsLocalizationHandler Transformation Vector3 Vector2)
    (r : LocalizationResult Transformation Vector3 Vector2) :
    (initializeBaseframe ctx ransac_seed s r).1.T_G_M_loc_buffer.capacity =
      s.T_G_M_loc_buffer.capacity := by
  rw [initializeBaseframe_fst]
  split <;> simp

omit [MulAction Transformation Vector3] [Sub Vector2] in
/-- **`initializeBaseframe` succeeds exactly when** the pose lookup is ready, the
alignment buffer is full after the insertion, and RANSAC finds enough inliers. -/
theorem initializeBaseframe_snd_eq_true_iff (ransac_seed : Int)
    (s : OpenvinsLocalizationHandler Transformation Vector3 Vector2)
    (r : LocalizationResult Transformation Vector3 Vector2) :
    (initializeBaseframe ctx ransac_seed s r).2 = true ↔
      ∃ T_M_I, s.T_M_I_buffer.getPoseAt ctx.interpolate r.timestamp_ns = .ready T_M_I ∧
        let q := s.T_G_M_loc_buffer.insert (r.T_G_B * T_M_I⁻¹)
        ctx.flags.openvinsli_min_num_baseframe_estimates_before_init ≤ q.size ∧
        ⌈(ctx.flags.openvinsli_min_num_baseframe_estimates_before_init : ℚ) *
            ctx.constants.kInitializationRansacInlierRatioThreshold⌉ ≤
          (ctx.transformationRansac q.buffer ctx.constants.kInitializationMaxNumRansacIterations
            ctx.constants.kInitializationRansacOrientationErrorThresholdRadians
            ctx.constants.kInitializationRansacPositionErrorThresholdMeters ransac_seed).2 := by
  unfold initializeBaseframe
  split <;> simp only [reduceCtorEq, false_iff, not_exists, not_and, imp_false,
    PoseLookupResult.ready.injEq, exists_eq_left', *]
  · intro; simp_all
  · intro; simp_all
  · split <;> (try split) <;> simp_all

omit [MulAction Transformation Vector3] [Sub Vector2] in
/-- After a successful initialization the alignment buffer is full, and RANSAC found
enough inliers among its estimates. -/
theorem initializeBaseframe_fst_of_snd {ransac_seed : Int}
    {s : OpenvinsLocalizationHandler Transformation Vector3 Vector2}
    {r : LocalizationResult Transformation Vector3 Vector2}
    (hok : (initializeBaseframe ctx ransac_seed s r).2 = true)
    (hcap : s.T_G_M_loc_buffer.capacity = ctx.flags.openvinsli_min_num_baseframe_estimates_before_init) :
    ∃ T_M_I, s.T_M_I_buffer.getPoseAt ctx.interpolate r.timestamp_ns = .ready T_M_I ∧
      (initializeBaseframe ctx ransac_seed s r).1.T_G_M_loc_buffer.size =
        ctx.flags.openvinsli_min_num_baseframe_estimates_before_init ∧
      ⌈(ctx.flags.openvinsli_min_num_baseframe_estimates_before_init : ℚ) *
          ctx.constants.kInitializationRansacInlierRatioThreshold⌉ ≤
        (ctx.transformationRansac (initializeBaseframe ctx ransac_seed s r).1.T_G_M_loc_buffer.buffer
          ctx.constants.kInitializationMaxNumRansacIterations
          ctx.constants.kInitializationRansacOrientationErrorThresholdRadians
          ctx.constants.kInitializationRansacPositionErrorThresholdMeters ransac_seed).2 := by
  obtain ⟨T_M_I, hlook, hsize, hinliers⟩ := (initializeBaseframe_snd_eq_true_iff _ _ _).mp hok
  have hq : (initializeBaseframe ctx ransac_seed s r).1.T_G_M_loc_buffer =
      s.T_G_M_loc_buffer.insert (r.T_G_B * T_M_I⁻¹) := by
    rw [initializeBaseframe_fst]
    simp only [hlook]
  have hle := (s.T_G_M_loc_buffer.insert (r.T_G_B * T_M_I⁻¹)).length_le
  rw [FixedSizeQueue.insert_capacity, hcap] at hle
  exact ⟨T_M_I, hlook, hq ▸ le_antisymm hle hsize, hq ▸ hinliers⟩

/-- `processAsUpdate` writes only to OpenVINS and to the log, and feeds OpenVINS the
localization in 6-DoF mode and nothing otherwise. -/
theorem processAsUpdate_frame {s s' : OpenvinsLocalizationHandler Transformation Vector3 Vector2}
    {r : LocalizationResult Transformation Vector3 Vector2} {accepted : Bool}
    (h : processAsUpdate ctx s r = .ok (s', accepted)) :
    ∃ warnings, s' =
      { s with
        openvins_measurements := s.openvins_measurements ++
          if ctx.flags.openvinsli_use_6dof_localization then [makeOpenvinsLocalizationData ctx r]
          else []
        reprojection_warnings := warnings } := by
  unfold processAsUpdate at h
  obtain ⟨_, -, h⟩ := bind_eq_ok.mp h
  obtain ⟨_, -, h⟩ := bind_eq_ok.mp h
  dsimp only at h
  split at h <;> rename_i h6
  · cases h
    exact ⟨_, by rw [if_pos h6]; rfl⟩
  · split at h
    · split at h <;> cases h <;> exact ⟨_, by rw [if_neg h6, List.append_nil]⟩
    · obtain ⟨_, -, h⟩ := bind_eq_ok.mp h
      obtain ⟨_, -, h⟩ := bind_eq_ok.mp h
      cases h
      exact ⟨_, by rw [if_neg h6, List.append_nil]⟩

/-- The shape of the acceptance loop of `processAsUpdate`: a fold that ands a flag
with a verdict per index ends with the flag and the verdicts of all indices. -/
theorem foldl_eq_and_all (f : Bool → Nat → Bool) (p : Nat → Bool)
    (hf : ∀ b i, f b i = (b && p i)) (l : List Nat) (b : Bool) :
    l.foldl f b = (b && l.all p) := by
  induction l generalizing b with
  | nil => simp
  | cons i l ih => rw [List.foldl_cons, ih, hf, List.all_cons, Bool.and_assoc]

/-- **In structure-constraint mode no localization is accepted**: whatever the
reprojection check decides, `processAsUpdate` returns false, the update of the
cameras that OpenVINS uses being a todo of the source. -/
theorem processAsUpdate_rejects_structure_constraints
    {s s' : OpenvinsLocalizationHandler Transformation Vector3 Vector2}
    {r : LocalizationResult Transformation Vector3 Vector2} {accepted : Bool}
    (h6 : ctx.flags.openvinsli_use_6dof_localization = false)
    (h : processAsUpdate ctx s r = .ok (s', accepted)) : accepted = false := by
  unfold processAsUpdate at h
  obtain ⟨_, -, h⟩ := bind_eq_ok.mp h
  obtain ⟨_, -, h⟩ := bind_eq_ok.mp h
  dsimp only at h
  rw [if_neg (by simp [h6])] at h
  split at h
  · split at h <;> cases h <;> rfl
  · rename_i hvalid
    obtain ⟨_, -, h⟩ := bind_eq_ok.mp h
    obtain ⟨_, -, h⟩ := bind_eq_ok.mp h
    cases h
    obtain ⟨j, -, hj, hactive⟩ :=
      exists_active_of_countValidMatches_pos _ 0 _ (Nat.pos_of_ne_zero hvalid)
    rw [foldl_eq_and_all _ fun i => (ctx.maplab_to_openvins_cam_indices_mapping.getRight i).isNone]
    · simp only [Bool.true_and, List.all_eq_false, List.mem_range]
      exact ⟨j, by omega, by simpa [Option.isNone_iff_eq_none, Option.isSome_iff_ne_none] using hactive⟩
    · intro b i
      dsimp only
      cases ctx.maplab_to_openvins_cam_indices_mapping.getRight i <;> simp

/-- On the line, in structure-constraint mode, a localized handler with a baseframe in
its filter checks the reprojection of a localization with one match, logs that most
matches cannot be reprojected, and does not accept it. -/
theorem processAsUpdate_rejects_structure_constraints_on_line :
    ∃ s' accepted, processAsUpdate structureLineContext
        { init structureLineContext with
          localization_state := .kLocalized
          T_M_I_buffer := ⟨1000, 100, [(0, 1)], by decide⟩
          T_G_M_filter_buffer := ⟨2, [1], by decide⟩ } ⟨0, 1, [[5]], [[5]]⟩ = .ok (s', accepted) ∧
      s'.reprojection_warnings = [.mostMatchesCannotBeReprojected] ∧ accepted = false := by
  obtain ⟨⟨s', accepted⟩, h, hlog⟩ : ∃ p, processAsUpdate structureLineContext
      { init structureLineContext with
        localization_state := .kLocalized
        T_M_I_buffer := ⟨1000, 100, [(0, 1)], by decide⟩
        T_G_M_filter_buffer := ⟨2, [1], by decide⟩ } ⟨0, 1, [[5]], [[5]]⟩ = .ok p ∧
      p.1.reprojection_warnings = [.mostMatchesCannotBeReprojected] :=
    ⟨_, by with_unfolding_all rfl, by with_unfolding_all rfl⟩
  exact ⟨s', accepted, h, hlog, processAsUpdate_rejects_structure_constraints rfl h⟩

/-- In 6-DoF mode, with the pose at the localization's time available, `processAsUpdate`
hands OpenVINS the localization and accepts it. -/
theorem processAsUpdate_of_ready (h6 : ctx.flags.openvinsli_use_6dof_localization = true)
    {s : OpenvinsLocalizationHandler Transformation Vector3 Vector2}
    {r : LocalizationResult Transformation Vector3 Vector2} {T_M_I : Transformation}
    (hlook : s.T_M_I_buffer.getPoseAt ctx.interpolate r.timestamp_ns = .ready T_M_I) :
    processAsUpdate ctx s r =
      .ok (s.feedMeasurementLocalization (makeOpenvinsLocalizationData ctx r), true) := by
  simp [processAsUpdate, hlook, h6, PoseLookupResult.status]
  rfl

/-- A localization whose pose will never be available fails the second timing check. -/
theorem processAsUpdate_of_kFailedWillNeverSucceed
    {s : OpenvinsLocalizationHandler Transformation Vector3 Vector2}
    {r : LocalizationResult Transformation Vector3 Vector2}
    (hlook : s.T_M_I_buffer.getPoseAt ctx.interpolate r.timestamp_ns = .kFailedWillNeverSucceed) :
    processAsUpdate ctx s r =
      .error ⟨"result != vio_common::PoseLookupBuffer::ResultStatus::kFailedWillNeverSucceed"⟩ := by
  simp [processAsUpdate, hlook, PoseLookupResult.status]
  rfl

/-- A localization whose pose is not yet available fails the first timing check. -/
theorem processAsUpdate_of_kFailedNotYetAvailable
    {s : OpenvinsLocalizationHandler Transformation Vector3 Vector2}
    {r : LocalizationResult Transformation Vector3 Vector2}
    (hlook : s.T_M_I_buffer.getPoseAt ctx.interpolate r.timestamp_ns = .kFailedNotYetAvailable) :
    processAsUpdate ctx s r =
      .error ⟨"result != vio_common::PoseLookupBuffer::ResultStatus::kFailedNotYetAvailable"⟩ := by
  unfold processAsUpdate
  rw [hlook]
  rfl

/-- In 6-DoF mode `processAsUpdate` fails only its two timing checks, each on the pose
lookup it names. -/
theorem processAsUpdate_eq_error_of_6dof (h6 : ctx.flags.openvinsli_use_6dof_localization = true)
    {s : OpenvinsLocalizationHandler Transformation Vector3 Vector2}
    {r : LocalizationResult Transformation Vector3 Vector2} {e : CheckFailed}
    (h : processAsUpdate ctx s r = .error e) :
    (s.T_M_I_buffer.getPoseAt ctx.interpolate r.timestamp_ns = .kFailedWillNeverSucceed ∧
      e = ⟨"result != vio_common::PoseLookupBuffer::ResultStatus::kFailedWillNeverSucceed"⟩) ∨
    (s.T_M_I_buffer.getPoseAt ctx.interpolate r.timestamp_ns = .kFailedNotYetAvailable ∧
      e = ⟨"result != vio_common::PoseLookupBuffer::ResultStatus::kFailedNotYetAvailable"⟩) := by
  cases hlook : s.T_M_I_buffer.getPoseAt ctx.interpolate r.timestamp_ns with
  | ready T_M_I => cases (processAsUpdate_of_ready h6 hlook).symm.trans h
  | kFailedNotYetAvailable =>
    cases (processAsUpdate_of_kFailedNotYetAvailable hlook).symm.trans h
    exact .inr ⟨rfl, rfl⟩
  | kFailedWillNeverSucceed =>
    cases (processAsUpdate_of_kFailedWillNeverSucceed hlook).symm.trans h
    exact .inl ⟨rfl, rfl⟩

/-- **The two ways of a call**: localized, the localization is an update; otherwise
it feeds the baseframe initialization, and the handler is localized when that
succeeds. -/
theorem processLocalizationResultInternal_cases {ransac_seed : Int}
    {s s' : OpenvinsLocalizationHandler Transformation Vector3 Vector2}
    {r : LocalizationResult Transformation Vector3 Vector2}
    (h : processLocalizationResultInternal ctx ransac_seed s r = .ok s') :
    (s.localization_state = .kLocalized ∧ ∃ accepted, processAsUpdate ctx s r = .ok (s', accepted)) ∨
    (s.localization_state ≠ .kLocalized ∧
      s' = if (initializeBaseframe ctx ransac_seed s r).2 then
          { (initializeBaseframe ctx ransac_seed s r).1 with localization_state := .kLocalized }
        else (initializeBaseframe ctx ransac_seed s r).1) := by
  unfold processLocalizationResultInternal at h
  split at h <;> rename_i hstate
  · refine .inr ⟨by simp [hstate], ?_⟩
    cases h; rfl
  · refine .inr ⟨by simp [hstate], ?_⟩
    cases h; rfl
  · obtain ⟨⟨s₁, accepted⟩, hu, h⟩ := bind_eq_ok.mp h
    cases h
    exact .inl ⟨hstate, accepted, hu⟩

/-- Localized, a call is an update. -/
theorem processLocalizationResultInternal_of_localized (ransac_seed : Int)
    {s : OpenvinsLocalizationHandler Transformation Vector3 Vector2}
    (r : LocalizationResult Transformation Vector3 Vector2)
    (h : s.localization_state = .kLocalized) :
    processLocalizationResultInternal ctx ransac_seed s r = (processAsUpdate ctx s r).map Prod.fst := by
  unfold processLocalizationResultInternal
  rw [h]
  cases processAsUpdate ctx s r <;> rfl

/-- A call on a handler that is not localized runs the baseframe initialization, which
fails no `CHECK`. -/
theorem processLocalizationResultInternal_ne_error {ransac_seed : Int}
    {s : OpenvinsLocalizationHandler Transformation Vector3 Vector2}
    {r : LocalizationResult Transformation Vector3 Vector2}
    (h : s.localization_state ≠ .kLocalized) (e : CheckFailed) :
    processLocalizationResultInternal ctx ransac_seed s r ≠ .error e := by
  unfold processLocalizationResultInternal
  split <;> simp_all [pure, Except.pure]

/-- **A call aborts only as an update**: on a localized handler, in `processAsUpdate`. -/
theorem processLocalizationResultInternal_eq_error {ransac_seed : Int}
    {s : OpenvinsLocalizationHandler Transformation Vector3 Vector2}
    {r : LocalizationResult Transformation Vector3 Vector2} {e : CheckFailed}
    (h : processLocalizationResultInternal ctx ransac_seed s r = .error e) :
    s.localization_state = .kLocalized ∧ processAsUpdate ctx s r = .error e := by
  by_cases hloc : s.localization_state = .kLocalized
  · rw [processLocalizationResultInternal_of_localized _ _ hloc] at h
    refine ⟨hloc, ?_⟩
    cases hu : processAsUpdate ctx s r <;> simp_all [Except.map]
  · exact absurd h (processLocalizationResultInternal_ne_error hloc e)

/-- In 6-DoF mode a call on a localized handler keeps it localized and hands OpenVINS
its localization. -/
theorem processLocalizationResultInternal_of_6dof (h6 : ctx.flags.openvinsli_use_6dof_localization = true)
    {ransac_seed : Int} {s s' : OpenvinsLocalizationHandler Transformation Vector3 Vector2}
    {r : LocalizationResult Transformation Vector3 Vector2} (hloc : s.localization_state = .kLocalized)
    (h : processLocalizationResultInternal ctx ransac_seed s r = .ok s') :
    s'.localization_state = .kLocalized ∧
      s'.openvins_measurements = s.openvins_measurements ++ [makeOpenvinsLocalizationData ctx r] := by
  rcases processLocalizationResultInternal_cases h with ⟨-, _, hu⟩ | ⟨hnot, -⟩
  · obtain ⟨_, rfl⟩ := processAsUpdate_frame hu
    exact ⟨hloc, by simp [h6]⟩
  · exact absurd hloc hnot

/-- In structure-constraint mode a call hands OpenVINS nothing. -/
theorem processLocalizationResultInternal_openvins_measurements_of_structure
    (h6 : ctx.flags.openvinsli_use_6dof_localization = false) {ransac_seed : Int}
    {s s' : OpenvinsLocalizationHandler Transformation Vector3 Vector2}
    {r : LocalizationResult Transformation Vector3 Vector2}
    (h : processLocalizationResultInternal ctx ransac_seed s r = .ok s') :
    s'.openvins_measurements = s.openvins_measurements := by
  rcases processLocalizationResultInternal_cases h with ⟨-, _, hu⟩ | ⟨-, rfl⟩
  · obtain ⟨_, rfl⟩ := processAsUpdate_frame hu
    simp [h6]
  · split <;> simp [initializeBaseframe_fst]

/-- A call leaves alone the two buffers that other threads write. -/
theorem processLocalizationResultInternal_buffers {ransac_seed : Int}
    {s s' : OpenvinsLocalizationHandler Transformation Vector3 Vector2}
    {r : LocalizationResult Transformation Vector3 Vector2}
    (h : processLocalizationResultInternal ctx ransac_seed s r = .ok s') :
    s'.T_M_I_buffer = s.T_M_I_buffer ∧ s'.T_G_M_filter_buffer = s.T_G_M_filter_buffer := by
  rcases processLocalizationResultInternal_cases h with ⟨-, _, hu⟩ | ⟨-, rfl⟩
  · obtain ⟨_, rfl⟩ := processAsUpdate_frame hu
    exact ⟨rfl, rfl⟩
  · split <;> simp [initializeBaseframe_fst]

/-- **What a successful update does.**  The pose at the localization's time was
available; in 6-DoF mode the localization went to OpenVINS and was accepted; otherwise,
without valid matches the state is unchanged and nothing is accepted, and with them the
filter had a baseframe, the reprojection under its newest one and that pose returned, and
its check's warning, if any, was logged. -/
theorem processAsUpdate_eq_ok {s s' : OpenvinsLocalizationHandler Transformation Vector3 Vector2}
    {r : LocalizationResult Transformation Vector3 Vector2} {accepted : Bool}
    (h : processAsUpdate ctx s r = .ok (s', accepted)) :
    ∃ T_M_I, s.T_M_I_buffer.getPoseAt ctx.interpolate r.timestamp_ns = .ready T_M_I ∧
      ((ctx.flags.openvinsli_use_6dof_localization = true ∧
          s' = s.feedMeasurementLocalization (makeOpenvinsLocalizationData ctx r) ∧ accepted = true) ∨
        (ctx.flags.openvinsli_use_6dof_localization = false ∧
          countValidMatches ctx.maplab_to_openvins_cam_indices_mapping 0 0 r.G_landmarks_per_camera = 0 ∧
          s' = s ∧ accepted = false) ∨
        (ctx.flags.openvinsli_use_6dof_localization = false ∧
          countValidMatches ctx.maplab_to_openvins_cam_indices_mapping 0 0 r.G_landmarks_per_camera ≠ 0 ∧
          ∃ T_G_M, s.T_G_M_filter_buffer.buffer.getLast? = some T_G_M ∧ ∃ rate lc_errors filter_errors,
          getLocalizationReprojectionErrors ctx r (T_G_M * T_M_I) = .ok (rate, lc_errors, filter_errors) ∧
          s' = { s with reprojection_warnings := s.reprojection_warnings ++
            ((checkReprojection ctx.flags rate lc_errors filter_errors).warning ctx.flags).toList })) := by
  unfold processAsUpdate at h
  obtain ⟨_, hc₁, h⟩ := bind_eq_ok.mp h
  obtain ⟨_, hc₂, h⟩ := bind_eq_ok.mp h
  obtain ⟨T_M_I, hlook⟩ : ∃ T_M_I,
      s.T_M_I_buffer.getPoseAt ctx.interpolate r.timestamp_ns = .ready T_M_I := by
    cases hlook : s.T_M_I_buffer.getPoseAt ctx.interpolate r.timestamp_ns with
    | ready T_M_I => exact ⟨T_M_I, rfl⟩
    | kFailedNotYetAvailable =>
      exact (check_eq_ok hc₁ ((PoseLookupResult.status_eq_kFailedNotYetAvailable _).mpr hlook)).elim
    | kFailedWillNeverSucceed =>
      exact (check_eq_ok hc₂ ((PoseLookupResult.status_eq_kFailedWillNeverSucceed _).mpr hlook)).elim
  refine ⟨T_M_I, hlook, ?_⟩
  simp only [hlook] at h
  split at h <;> rename_i h6
  · cases h
    exact .inl ⟨h6, rfl, rfl⟩
  · rw [Bool.not_eq_true] at h6
    split at h <;> rename_i hvalid
    · split at h <;> cases h <;> exact .inr (.inl ⟨h6, hvalid, rfl, rfl⟩)
    · obtain ⟨_, hne, h⟩ := bind_eq_ok.mp h
      obtain ⟨⟨rate, lc_errors, filter_errors⟩, hrep, h⟩ := bind_eq_ok.mp h
      cases h
      have hne : s.T_G_M_filter_buffer.buffer ≠ [] := by simpa using check_eq_ok hne
      obtain ⟨T_G_M, hlast⟩ := Option.isSome_iff_exists.mp (List.getLast?_isSome.mpr hne)
      rw [List.getLastD_eq_getLast?, hlast, Option.getD_some] at hrep
      exact .inr (.inr ⟨h6, hvalid, T_G_M, hlast, rate, lc_errors, filter_errors, hrep, rfl⟩)

/-- `processAsUpdate` adds at most one warning to the log, the reprojection check's, and
none in 6-DoF mode. -/
theorem processAsUpdate_reprojection_warnings
    {s s' : OpenvinsLocalizationHandler Transformation Vector3 Vector2}
    {r : LocalizationResult Transformation Vector3 Vector2} {accepted : Bool}
    (h : processAsUpdate ctx s r = .ok (s', accepted)) :
    ∃ warning : Option ReprojectionWarning,
      s'.reprojection_warnings = s.reprojection_warnings ++ warning.toList ∧
      (ctx.flags.openvinsli_use_6dof_localization = true → warning = none) := by
  obtain ⟨-, -, ⟨-, rfl, -⟩ | ⟨-, -, rfl, -⟩ | ⟨h6, -, -, -, -, -, -, -, rfl⟩⟩ := processAsUpdate_eq_ok h
  · exact ⟨none, (List.append_nil _).symm, fun _ => rfl⟩
  · exact ⟨none, (List.append_nil _).symm, fun _ => rfl⟩
  · exact ⟨_, rfl, fun h6' => absurd (h6'.symm.trans h6) Bool.noConfusion⟩

/-- A call adds at most one warning to the log, and none in 6-DoF mode: the baseframe
initialization logs none. -/
theorem processLocalizationResultInternal_reprojection_warnings {ransac_seed : Int}
    {s s' : OpenvinsLocalizationHandler Transformation Vector3 Vector2}
    {r : LocalizationResult Transformation Vector3 Vector2}
    (h : processLocalizationResultInternal ctx ransac_seed s r = .ok s') :
    ∃ warning : Option ReprojectionWarning,
      s'.reprojection_warnings = s.reprojection_warnings ++ warning.toList ∧
      (ctx.flags.openvinsli_use_6dof_localization = true → warning = none) := by
  rcases processLocalizationResultInternal_cases h with ⟨-, _, hu⟩ | ⟨-, rfl⟩
  · exact processAsUpdate_reprojection_warnings hu
  · exact ⟨none, by split <;> simp [initializeBaseframe_fst], fun _ => rfl⟩

end OpenvinsLocalizationHandler

end Openvinsli
