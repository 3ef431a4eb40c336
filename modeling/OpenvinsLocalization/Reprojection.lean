/-
OpenvinsLocalization/Reprojection.lean

`getLocalizationReprojectionErrors` and the consistency check that
`processAsUpdate` builds on it.

For every match of every camera that is active in OpenVINS, the landmark is
reprojected twice: into the camera placed by the filter's pose `T_G_I_filter`, and
into the camera placed by the localization's `T_G_B`.  A match whose two
reprojections are both valid contributes one error to each list; note that the code
pushes the *filter* error to `lc_reprojection_errors` and the *localization* error
to `filter_reprojection_errors`.

The loops are written as the code runs them, with their accumulators: the loop over
the matches of one camera is `processMatches`, the loop over the cameras is
`processCameras`, and the count of `processAsUpdate` is `countValidMatches`.  The
facts proved here are the loop invariants (`processMatches_spec`,
`processCameras_spec`): each processed match is counted once, and the two error
lists grow together and never past the count; and the loops' equations
(`processMatches_eq`, `processCameras_eq`): each loop is the map of `reprojectMatch`
over the matches it visits (`activeMatches`), then the bookkeeping of each outcome.
-/
import OpenvinsLocalization.Types

namespace Openvinsli

variable {Transformation Vector3 Vector2 : Type}
variable [Group Transformation] [MulAction Transformation Vector3] [Sub Vector2]

/-! ### One landmark -/

/-- `getReprojectionErrorForGlobalLandmark`: the pixel error of the landmark `p_G`
seen by `camera` at `T_G_C`, or `none` where the code returns false. -/
def getReprojectionErrorForGlobalLandmark (norm : Vector2 → ℚ) (p_G : Vector3)
    (T_G_C : Transformation) (camera : Camera Vector3 Vector2) (measurement : Vector2) :
    Except CheckFailed (Option ℚ) := do
  let p_C := T_G_C⁻¹ • p_G
  let (status, reprojected_keypoint) := camera.project3 p_C
  check (status ≠ .uninitialized)
    "result.getDetailedStatus() != aslam::ProjectionResult::UNINITIALIZED"
  if status = .pointBehindCamera ∨ status = .projectionInvalid then
    return none
  return some (norm (reprojected_keypoint - measurement))

/-! ### The loops -/

/-- The out-parameters and the counter of `getLocalizationReprojectionErrors`. -/
structure ReprojectionErrors where
  lc_reprojection_errors : List ℚ
  filter_reprojection_errors : List ℚ
  num_matches_processed : Nat

/-- The reprojections of one match `(p_G, keypoint)` into the camera at `T_G_C_filter`,
then, if that one is valid, at `T_G_C_lc`: the two errors when both are valid. -/
def reprojectMatch (norm : Vector2 → ℚ) (camera : Camera Vector3 Vector2)
    (T_G_C_filter T_G_C_lc : Transformation) (m : Vector3 × Vector2) :
    Except CheckFailed (Option (ℚ × ℚ)) := do
  let (p_G, keypoint) := m
  let reproj_error_sq_filter ←
    getReprojectionErrorForGlobalLandmark norm p_G T_G_C_filter camera keypoint
  let reproj_error_sq_lc ← match reproj_error_sq_filter with
    | some _ => getReprojectionErrorForGlobalLandmark norm p_G T_G_C_lc camera keypoint
    | none => pure none
  return match reproj_error_sq_filter, reproj_error_sq_lc with
    | some e_filter, some e_lc => some (e_filter, e_lc)
    | _, _ => none

/-- The bookkeeping after one match: `++num_matches_processed`, and, when both
reprojections were valid, the crossed `push_back` of the two errors. -/
def ReprojectionErrors.record (acc : ReprojectionErrors) : Option (ℚ × ℚ) → ReprojectionErrors
  | none => { acc with num_matches_processed := acc.num_matches_processed + 1 }
  | some (e_filter, e_lc) =>
    { lc_reprojection_errors := acc.lc_reprojection_errors ++ [e_filter]
      filter_reprojection_errors := acc.filter_reprojection_errors ++ [e_lc]
      num_matches_processed := acc.num_matches_processed + 1 }

/-- The loop over the matches of one camera. -/
def processMatches (norm : Vector2 → ℚ) (camera : Camera Vector3 Vector2)
    (T_G_C_filter T_G_C_lc : Transformation) :
    ReprojectionErrors → List (Vector3 × Vector2) → Except CheckFailed ReprojectionErrors
  | acc, [] => pure acc
  | acc, m :: rest => do
    let errors ← reprojectMatch norm camera T_G_C_filter T_G_C_lc m
    processMatches norm camera T_G_C_filter T_G_C_lc (acc.record errors) rest

/-- The loop over the cameras, from index `cam_idx`: per camera its landmarks, its
keypoints, and its extrinsics and projection. -/
def processCameras (ctx : Context Transformation Vector3 Vector2) (T_G_B T_G_I_filter : Transformation) :
    Nat → ReprojectionErrors →
    List (List Vector3 × List Vector2 × (Transformation × Camera Vector3 Vector2)) →
    Except CheckFailed ReprojectionErrors
  | _, acc, [] => pure acc
  | cam_idx, acc, (landmarks, keypoints, (T_C_B, camera)) :: cameras => do
    check (landmarks.length = keypoints.length)
      "localization_result.G_landmarks_per_camera[cam_idx].cols() == localization_result.keypoint_measurements_per_camera[cam_idx].cols()"
    let openvins_cam_idx := ctx.maplab_to_openvins_cam_indices_mapping.getRight cam_idx
    let num_matches := landmarks.length
    if num_matches = 0 then
      processCameras ctx T_G_B T_G_I_filter (cam_idx + 1) acc cameras
    else match openvins_cam_idx with
      | none => processCameras ctx T_G_B T_G_I_filter (cam_idx + 1) acc cameras
      | some _ => do
        let T_G_C_filter := (T_C_B * T_G_I_filter⁻¹)⁻¹
        let T_G_C_lc := (T_C_B * T_G_B⁻¹)⁻¹
        let acc ← processMatches ctx.norm camera T_G_C_filter T_G_C_lc acc
          (landmarks.zip keypoints)
        processCameras ctx T_G_B T_G_I_filter (cam_idx + 1) acc cameras

/-- The first part of `getLocalizationReprojectionErrors`: the size checks and the
loop over the cameras. -/
def collectReprojectionErrors (ctx : Context Transformation Vector3 Vector2)
    (localization_result : LocalizationResult Transformation Vector3 Vector2)
    (T_G_I_filter : Transformation) : Except CheckFailed ReprojectionErrors := do
  let G_landmarks_per_camera := localization_result.G_landmarks_per_camera
  let keypoint_measurements_per_camera := localization_result.keypoint_measurements_per_camera
  check (G_landmarks_per_camera.length = keypoint_measurements_per_camera.length)
    "localization_result.G_landmarks_per_camera.size() == localization_result.keypoint_measurements_per_camera.size()"
  let num_cameras := G_landmarks_per_camera.length
  check (num_cameras = ctx.camera_calibration.numCameras)
    "num_cameras == static_cast<int>(camera_calibration_.numCameras())"
  processCameras ctx localization_result.T_G_B T_G_I_filter 0 ⟨[], [], 0⟩
    (G_landmarks_per_camera.zip
      (keypoint_measurements_per_camera.zip ctx.camera_calibration.cameras))

/-- `getLocalizationReprojectionErrors`: the success rate, `lc_reprojection_errors`
and `filter_reprojection_errors`. -/
def getLocalizationReprojectionErrors (ctx : Context Transformation Vector3 Vector2)
    (localization_result : LocalizationResult Transformation Vector3 Vector2)
    (T_G_I_filter : Transformation) : Except CheckFailed (ℚ × List ℚ × List ℚ) := do
  let acc ← collectReprojectionErrors ctx localization_result T_G_I_filter
  check (acc.lc_reprojection_errors.length = acc.filter_reprojection_errors.length)
    "lc_reprojection_errors->size() == filter_reprojection_errors->size()"
  check (0 < acc.num_matches_processed) "num_matches_processed > 0"
  return ((acc.lc_reprojection_errors.length : ℚ) / acc.num_matches_processed,
    acc.lc_reprojection_errors, acc.filter_reprojection_errors)

/-- The loop of `processAsUpdate` counting `num_valid_matches`, from camera
`maplab_cam_idx` on, over `G_landmarks_per_camera`. -/
def countValidMatches (mapping : BidirectionalMap) :
    Nat → Nat → List (List Vector3) → Nat
  | _, num_valid_matches, [] => num_valid_matches
  | maplab_cam_idx, num_valid_matches, landmarks :: rest =>
    match mapping.getRight maplab_cam_idx with
    | none => countValidMatches mapping (maplab_cam_idx + 1) num_valid_matches rest
    | some _ =>
      countValidMatches mapping (maplab_cam_idx + 1) (num_valid_matches + landmarks.length) rest

/-! ### Loop invariants -/

namespace ReprojectionErrors

/-- The two error lists have the same length, at most the number of matches
processed. -/
def Balanced (acc : ReprojectionErrors) : Prop :=
  acc.lc_reprojection_errors.length = acc.filter_reprojection_errors.length ∧
    acc.lc_reprojection_errors.length ≤ acc.num_matches_processed

@[simp] theorem record_num_matches_processed (acc : ReprojectionErrors) (e : Option (ℚ × ℚ)) :
    (acc.record e).num_matches_processed = acc.num_matches_processed + 1 := by
  cases e <;> rfl

theorem Balanced.record {acc : ReprojectionErrors} (h : acc.Balanced) (e : Option (ℚ × ℚ)) :
    (acc.record e).Balanced := by
  obtain ⟨h₁, h₂⟩ := h
  cases e with
  | none => exact ⟨h₁, by simp only [ReprojectionErrors.record]; omega⟩
  | some p =>
    simp only [Balanced, ReprojectionErrors.record, List.length_append, List.length_singleton]
    omega

end ReprojectionErrors

variable {ctx : Context Transformation Vector3 Vector2} {norm : Vector2 → ℚ}
  {camera : Camera Vector3 Vector2}

/-- Each match is counted once, and the error lists stay balanced. -/
theorem processMatches_spec {T₁ T₂ : Transformation} {acc acc' : ReprojectionErrors}
    {ms : List (Vector3 × Vector2)} (h : processMatches norm camera T₁ T₂ acc ms = .ok acc') :
    acc'.num_matches_processed = acc.num_matches_processed + ms.length ∧
      (acc.Balanced → acc'.Balanced) := by
  induction ms generalizing acc with
  | nil =>
    cases h
    exact ⟨rfl, id⟩
  | cons m rest ih =>
    obtain ⟨e, -, hrest⟩ := bind_eq_ok.mp h
    obtain ⟨hn, hb⟩ := ih hrest
    exact ⟨by simp [hn]; omega, fun hacc => hb (hacc.record e)⟩

theorem countValidMatches_eq_add (mapping : BidirectionalMap) (i n : Nat)
    (Gs : List (List Vector3)) :
    countValidMatches mapping i n Gs = n + countValidMatches mapping i 0 Gs := by
  induction Gs generalizing i n with
  | nil => rfl
  | cons l rest ih =>
    unfold countValidMatches
    split
    · exact ih _ _
    · rw [ih _ (n + _), ih _ (0 + _)]
      omega

theorem countValidMatches_cons (mapping : BidirectionalMap) (i : Nat) (l : List Vector3)
    (rest : List (List Vector3)) :
    countValidMatches mapping i 0 (l :: rest) =
      (if (mapping.getRight i).isSome then l.length else 0) +
        countValidMatches mapping (i + 1) 0 rest := by
  simp only [countValidMatches]
  split <;> simp_all [countValidMatches_eq_add _ _ l.length]

/-- A positive count has an active camera among the ones counted. -/
theorem exists_active_of_countValidMatches_pos (mapping : BidirectionalMap) (i : Nat)
    (Gs : List (List Vector3)) (h : 0 < countValidMatches mapping i 0 Gs) :
    ∃ j, i ≤ j ∧ j < i + Gs.length ∧ (mapping.getRight j).isSome := by
  induction Gs generalizing i with
  | nil => simp [countValidMatches] at h
  | cons l rest ih =>
    rw [countValidMatches_cons] at h
    by_cases ha : (mapping.getRight i).isSome
    · exact ⟨i, le_rfl, by simp, ha⟩
    · obtain ⟨j, hij, hj, hs⟩ := ih (i + 1) (by simpa [ha] using h)
      exact ⟨j, by omega, by simp only [List.length_cons]; omega, hs⟩

/-- **The two counting loops agree**: the cameras' loop counts exactly the matches of
the active cameras, as `processAsUpdate`'s loop does, and keeps the error lists
balanced. -/
theorem processCameras_spec {T_G_B T_G_I_filter : Transformation} {i : Nat}
    {acc acc' : ReprojectionErrors}
    {cams : List (List Vector3 × List Vector2 × (Transformation × Camera Vector3 Vector2))}
    (h : processCameras ctx T_G_B T_G_I_filter i acc cams = .ok acc') :
    acc'.num_matches_processed = acc.num_matches_processed +
        countValidMatches ctx.maplab_to_openvins_cam_indices_mapping i 0 (cams.map Prod.fst) ∧
      (acc.Balanced → acc'.Balanced) := by
  induction cams generalizing i acc with
  | nil =>
    cases h
    exact ⟨rfl, id⟩
  | cons cam rest ih =>
    obtain ⟨landmarks, keypoints, T_C_B, camera⟩ := cam
    obtain ⟨_, hc, h⟩ := bind_eq_ok.mp h
    have hlen : landmarks.length = keypoints.length := check_eq_ok hc
    rw [List.map_cons, countValidMatches_cons]
    dsimp only at h
    split at h
    · -- no matches in this camera
      rename_i hzero
      obtain ⟨hn, hb⟩ := ih h
      exact ⟨by simp [hn, hzero], hb⟩
    · split at h
      · -- the camera is inactive in OpenVINS
        rename_i hnone
        obtain ⟨hn, hb⟩ := ih h
        exact ⟨by simp [hn, hnone], hb⟩
      · -- the camera is active: all its matches are processed
        rename_i hsome
        obtain ⟨acc₁, hm, hrest⟩ := bind_eq_ok.mp h
        obtain ⟨hn₁, hb₁⟩ := processMatches_spec hm
        obtain ⟨hn, hb⟩ := ih hrest
        refine ⟨?_, fun hacc => hb (hb₁ hacc)⟩
        simp only [hn, hn₁, hsome, List.length_zip, hlen, Option.isSome_some, if_true, min_self]
        omega

/-! ### What the loops compute -/

/-- The matches of the cameras active in OpenVINS, from camera `cam_idx` on, in order,
each with its camera and the camera's poses placed by the filter and by the
localization. -/
def activeMatches (ctx : Context Transformation Vector3 Vector2) (T_G_B T_G_I_filter : Transformation) :
    Nat → List (List Vector3 × List Vector2 × (Transformation × Camera Vector3 Vector2)) →
    List (Camera Vector3 Vector2 × Transformation × Transformation × (Vector3 × Vector2))
  | _, [] => []
  | cam_idx, (landmarks, keypoints, (T_C_B, camera)) :: cameras =>
    (if (ctx.maplab_to_openvins_cam_indices_mapping.getRight cam_idx).isSome then
      (landmarks.zip keypoints).map fun m =>
        (camera, (T_C_B * T_G_I_filter⁻¹)⁻¹, (T_C_B * T_G_B⁻¹)⁻¹, m)
    else []) ++ activeMatches ctx T_G_B T_G_I_filter (cam_idx + 1) cameras

omit [Group Transformation] [MulAction Transformation Vector3] [Sub Vector2] in
theorem mapM_map_comp {α β γ ε : Type} (f : β → Except ε γ) (g : α → β) (l : List α) :
    (l.map g).mapM f = l.mapM (f ∘ g) := by
  induction l with
  | nil => rfl
  | cons a l ih => rw [List.map_cons, List.mapM_cons, List.mapM_cons, ih]; rfl

/-- The loop over the matches of a camera is the map of `reprojectMatch` over them,
then the bookkeeping of each outcome in turn. -/
theorem processMatches_eq (T_G_C_filter T_G_C_lc : Transformation) (acc : ReprojectionErrors)
    (ms : List (Vector3 × Vector2)) :
    processMatches norm camera T_G_C_filter T_G_C_lc acc ms =
      (ms.mapM (reprojectMatch norm camera T_G_C_filter T_G_C_lc)).map
        (·.foldl ReprojectionErrors.record acc) := by
  induction ms generalizing acc with
  | nil => rfl
  | cons m ms ih =>
    rw [processMatches, List.mapM_cons]
    cases reprojectMatch norm camera T_G_C_filter T_G_C_lc m with
    | error e => rfl
    | ok o =>
      rw [ok_bind, ok_bind, ih]
      cases ms.mapM (reprojectMatch norm camera T_G_C_filter T_G_C_lc) <;> rfl

/-- For cameras with as many landmarks as keypoints, the loop over the cameras is the
map of `reprojectMatch` over the matches of the active cameras, then the bookkeeping
of each outcome in turn. -/
theorem processCameras_eq (T_G_B T_G_I_filter : Transformation) (cam_idx : Nat)
    (acc : ReprojectionErrors)
    (cams : List (List Vector3 × List Vector2 × (Transformation × Camera Vector3 Vector2)))
    (hcols : ∀ cam ∈ cams, cam.1.length = cam.2.1.length) :
    processCameras ctx T_G_B T_G_I_filter cam_idx acc cams =
      ((activeMatches ctx T_G_B T_G_I_filter cam_idx cams).mapM
          fun m => reprojectMatch ctx.norm m.1 m.2.1 m.2.2.1 m.2.2.2).map
        (·.foldl ReprojectionErrors.record acc) := by
  induction cams generalizing cam_idx acc with
  | nil => rfl
  | cons cam cams ih =>
    obtain ⟨landmarks, keypoints, T_C_B, camera⟩ := cam
    have ih' := fun cam_idx acc => ih cam_idx acc fun c hc => hcols c (List.mem_cons_of_mem _ hc)
    have hlen : landmarks.length = keypoints.length := hcols _ (List.mem_cons_self _ _)
    rw [processCameras, check_of_pos hlen, pure_bind, activeMatches, List.mapM_append]
    dsimp only
    by_cases hzero : landmarks.length = 0
    · have hnil : landmarks = [] := List.length_eq_zero.mp hzero
      subst hnil
      rw [if_pos hzero, ih']
      simp only [List.zip_nil_left, List.map_nil, ite_self, List.mapM_nil, pure_bind, List.nil_append,
        bind_pure]
    · rw [if_neg hzero]
      cases hsome : ctx.maplab_to_openvins_cam_indices_mapping.getRight cam_idx with
      | none =>
        simp only [Option.isSome_none, Bool.false_eq_true, if_false, List.mapM_nil, pure_bind,
          List.nil_append, bind_pure]
        exact ih' _ _
      | some _ =>
        simp only [Option.isSome_some, if_true, mapM_map_comp, Function.comp_def, processMatches_eq]
        cases (landmarks.zip keypoints).mapM (reprojectMatch ctx.norm camera (T_C_B * T_G_I_filter⁻¹)⁻¹
            (T_C_B * T_G_B⁻¹)⁻¹) with
        | error e => rfl
        | ok a =>
          show processCameras ctx T_G_B T_G_I_filter (cam_idx + 1) (a.foldl ReprojectionErrors.record acc) cams = _
          rw [ih']
          cases (activeMatches ctx T_G_B T_G_I_filter (cam_idx + 1) cams).mapM
            (fun m => reprojectMatch ctx.norm m.1 m.2.1 m.2.2.1 m.2.2.2) with
          | error e => rfl
          | ok b => simp [Except.map, List.foldl_append]
/-! ### The consistency check -/

/-- `aslam::common::mean`. -/
def mean (l : List ℚ) : ℚ := l.sum / l.length

/-- `std::numeric_limits<double>::max()`. -/
def doubleMax : ℚ := (2 ^ 53 - 1) * 2 ^ 971

/-- `kMinReprojectionSuccessRate`. -/
def kMinReprojectionSuccessRate : ℚ := 0.5

/-- What `processAsUpdate` computes from the reprojection errors. -/
structure ReprojectionCheck where
  reprojection_success : Bool
  mean_reprojection_error_diff : ℚ
  deriving DecidableEq, Repr

/-- The reprojection check of `processAsUpdate`. -/
def checkReprojection (flags : Flags) (reprojection_success_rate : ℚ)
    (lc_reprojection_errors filter_reprojection_errors : List ℚ) : ReprojectionCheck :=
  let num_accepted_localization_constraints : Int := lc_reprojection_errors.length
  let reprojection_success := decide (reprojection_success_rate > kMinReprojectionSuccessRate ∧
    num_accepted_localization_constraints > flags.openvinsli_min_number_of_structure_constraints)
  { reprojection_success
    mean_reprojection_error_diff :=
      if reprojection_success then
        |mean filter_reprojection_errors - mean lc_reprojection_errors|
      else doubleMax }

/-- The warnings `processAsUpdate` logs after the reprojection check. -/
inductive ReprojectionWarning
  | meanReprojectionErrorLargerThanThreshold (mean_reprojection_error_diff : ℚ)
  | mostMatchesCannotBeReprojected
  deriving DecidableEq, Repr

/-- The warning of a reprojection check: `none` when the check passes. -/
def ReprojectionCheck.warning (flags : Flags) (c : ReprojectionCheck) :
    Option ReprojectionWarning :=
  if !c.reprojection_success ||
      decide (c.mean_reprojection_error_diff >
        flags.openvinsli_max_mean_localization_reprojection_error_px) then
    some (if c.reprojection_success then
      .meanReprojectionErrorLargerThanThreshold c.mean_reprojection_error_diff
    else .mostMatchesCannotBeReprojected)
  else none

/-- The gate passes: the localization reprojects well enough and its mean error is
within the threshold of the filter's. -/
def ReprojectionCheck.passes (flags : Flags) (c : ReprojectionCheck) : Prop :=
  c.reprojection_success = true ∧
    c.mean_reprojection_error_diff ≤ flags.openvinsli_max_mean_localization_reprojection_error_px

end Openvinsli
