/-
OpenvinsLocalization/Gate.lean

The consistency gate of `processAsUpdate` in structure-constraint mode.

`processAsUpdate` counts the matches of the active cameras (`countValidMatches`) and
calls `getLocalizationReprojectionErrors` only when there is one; that function
counts again, in a loop of its own, and `CHECK`s its count and its two error lists.
For every well-formed localization the two counts agree (`collectReprojectionErrors_spec`),
so of all the `CHECK`s of the reprojection only the one on a projection's status can
fail (`getLocalizationReprojectionErrors_failsOnly`), and the success rate is a
fraction of that count.  This is `reprojection_counts_agree`.

What the reprojection computes is the plain map of `reprojectMatch` over the matches
of the active cameras (`getLocalizationReprojectionErrors_eq`): the loops with their
accumulators refine it.  So the matches of a camera OpenVINS does not use never count
(`getLocalizationReprojectionErrors_congr_active`).

The two poses of the check can be exchanged (`reprojection_gate_symmetric`), and when
the filter's pose is the localization's, the two error lists are equal: a localization
that agrees with the filter never fails the mean check, whatever the cameras
(`processAsUpdate_reprojection_warnings_of_consistent`).  The update logs a warning
exactly when the gate fails (`processAsUpdate_logs_no_warning_iff`).  Whatever the
localization, the reprojection fails only its own `CHECK`s, so no drain fails the one on
a pose not yet available (`dealWithBufferedLocalizations_ne_kFailedNotYetAvailable`).
-/
import OpenvinsLocalization.Drain
import Mathlib.Data.List.Forall2

namespace Openvinsli

open OpenvinsLocalizationHandler

variable {Transformation Vector3 Vector2 : Type}
variable [Group Transformation] [MulAction Transformation Vector3] [Sub Vector2]
variable {ctx : Context Transformation Vector3 Vector2}

/-! ### Only the projection check fails -/

/-- The `CHECK_NE` of `getReprojectionErrorForGlobalLandmark` on the projection
status. -/
def IsProjectionCheck (e : CheckFailed) : Prop :=
  e.condition = "result.getDetailedStatus() != aslam::ProjectionResult::UNINITIALIZED"

theorem getReprojectionErrorForGlobalLandmark_failsOnly (norm : Vector2 → ℚ) (p_G : Vector3)
    (T_G_C : Transformation) (camera : Camera Vector3 Vector2) (measurement : Vector2) :
    FailsOnly IsProjectionCheck
      (getReprojectionErrorForGlobalLandmark norm p_G T_G_C camera measurement) :=
  FailsOnly.bind (FailsOnly.check_of_text rfl) fun _ _ => by
    split <;> exact FailsOnly.pure _

theorem reprojectMatch_failsOnly (norm : Vector2 → ℚ) (camera : Camera Vector3 Vector2)
    (T₁ T₂ : Transformation) (m : Vector3 × Vector2) :
    FailsOnly IsProjectionCheck (reprojectMatch norm camera T₁ T₂ m) := by
  refine FailsOnly.bind (getReprojectionErrorForGlobalLandmark_failsOnly _ _ _ _ _) fun e₁ _ => ?_
  cases e₁
  · exact FailsOnly.pure _
  · exact FailsOnly.bind (getReprojectionErrorForGlobalLandmark_failsOnly _ _ _ _ _) fun _ _ =>
      FailsOnly.pure _

theorem processMatches_failsOnly (norm : Vector2 → ℚ) (camera : Camera Vector3 Vector2)
    (T₁ T₂ : Transformation) (acc : ReprojectionErrors) (ms : List (Vector3 × Vector2)) :
    FailsOnly IsProjectionCheck (processMatches norm camera T₁ T₂ acc ms) := by
  induction ms generalizing acc with
  | nil => exact FailsOnly.pure _
  | cons m rest ih => exact FailsOnly.bind (reprojectMatch_failsOnly _ _ _ _ _) fun _ _ => ih _

theorem processCameras_failsOnly (T_G_B T_G_I_filter : Transformation) (i : Nat)
    (acc : ReprojectionErrors)
    (cams : List (List Vector3 × List Vector2 × (Transformation × Camera Vector3 Vector2)))
    (hcols : ∀ cam ∈ cams, cam.1.length = cam.2.1.length) :
    FailsOnly IsProjectionCheck (processCameras ctx T_G_B T_G_I_filter i acc cams) := by
  induction cams generalizing i acc with
  | nil => exact FailsOnly.pure _
  | cons cam rest ih =>
    obtain ⟨landmarks, keypoints, T_C_B, camera⟩ := cam
    have ih' := fun i acc => ih i acc fun c hc => hcols c (List.mem_cons_of_mem _ hc)
    refine FailsOnly.bind (FailsOnly.check_of_pos (hcols _ (List.mem_cons_self _ _))) fun _ _ => ?_
    dsimp only
    split
    · exact ih' _ _
    · split
      · exact ih' _ _
      · exact FailsOnly.bind (processMatches_failsOnly _ _ _ _ _ _) fun _ _ => ih' _ _

/-- Column counts that agree camera by camera agree in the zipped cameras. -/
theorem forall_mem_zip_zip {α β γ : Type} {R : α → β → Prop} {l₁ : List α} {l₂ : List β}
    (h : List.Forall₂ R l₁ l₂) (l₃ : List γ) : ∀ x ∈ l₁.zip (l₂.zip l₃), R x.1 x.2.1 := by
  induction h generalizing l₃ with
  | nil => simp
  | cons hab _ ih =>
    cases l₃ with
    | nil => simp
    | cons c l₃ =>
      rintro x (_ | ⟨_, hx⟩)
      · exact hab
      · exact ih l₃ x hx

/-! ### The counts agree -/

/-- The loop over the cameras counts exactly `processAsUpdate`'s `num_valid_matches`,
and keeps the error lists balanced. -/
theorem collectReprojectionErrors_spec
    {r : LocalizationResult Transformation Vector3 Vector2} {T_G_I_filter : Transformation}
    {acc : ReprojectionErrors} (h : collectReprojectionErrors ctx r T_G_I_filter = .ok acc) :
    acc.num_matches_processed =
        countValidMatches ctx.maplab_to_openvins_cam_indices_mapping 0 0 r.G_landmarks_per_camera ∧
      acc.Balanced := by
  obtain ⟨_, h₁, h⟩ := bind_eq_ok.mp h
  obtain ⟨_, h₂, h⟩ := bind_eq_ok.mp h
  have hkp := check_eq_ok h₁
  have hcams : r.G_landmarks_per_camera.length = ctx.camera_calibration.cameras.length := check_eq_ok h₂
  obtain ⟨hn, hb⟩ := processCameras_spec h
  rw [List.map_fst_zip _ _ (by simp [← hkp, ← hcams])] at hn
  exact ⟨by simpa using hn, hb ⟨rfl, le_rfl⟩⟩

/-- For a localization with as many landmark as keypoint columns per camera, one list
per camera of the calibration, and a match in an active camera, the reprojection
fails no check but the projection's status. -/
theorem getLocalizationReprojectionErrors_failsOnly
    {r : LocalizationResult Transformation Vector3 Vector2} (T_G_I_filter : Transformation)
    (hcols : List.Forall₂ (fun landmarks keypoints => landmarks.length = keypoints.length)
      r.G_landmarks_per_camera r.keypoint_measurements_per_camera)
    (hcams : r.G_landmarks_per_camera.length = ctx.camera_calibration.numCameras)
    (hvalid : 0 < countValidMatches ctx.maplab_to_openvins_cam_indices_mapping 0 0
      r.G_landmarks_per_camera) :
    FailsOnly IsProjectionCheck (getLocalizationReprojectionErrors ctx r T_G_I_filter) := by
  refine FailsOnly.bind ?_ fun acc hacc => ?_
  · exact FailsOnly.bind (FailsOnly.check_of_pos hcols.length_eq) fun _ _ =>
      FailsOnly.bind (FailsOnly.check_of_pos hcams) fun _ _ =>
        processCameras_failsOnly _ _ _ _ _ (forall_mem_zip_zip hcols _)
  · obtain ⟨hn, hb⟩ := collectReprojectionErrors_spec hacc
    exact FailsOnly.bind (FailsOnly.check_of_pos hb.1) fun _ _ =>
      FailsOnly.bind (FailsOnly.check_of_pos (hn ▸ hvalid)) fun _ _ => FailsOnly.pure _

/-- The `CHECK`s `processAsUpdate` can fail: the first timing check only on a pose not yet
available, the second one, the one on the filter's baseframes, and those the reprojection
fails when there are valid matches. -/
theorem processAsUpdate_failsOnly_of_reprojection {r : LocalizationResult Transformation Vector3 Vector2}
    (s : OpenvinsLocalizationHandler Transformation Vector3 Vector2) {P : CheckFailed → Prop}
    (hNotYet : s.T_M_I_buffer.getPoseAt ctx.interpolate r.timestamp_ns = .kFailedNotYetAvailable →
      P ⟨"result != vio_common::PoseLookupBuffer::ResultStatus::kFailedNotYetAvailable"⟩)
    (hWillNever : P ⟨"result != vio_common::PoseLookupBuffer::ResultStatus::kFailedWillNeverSucceed"⟩)
    (hfilter : P ⟨"!T_G_M_filter_buffer_.buffer().empty()"⟩)
    (hreprojection : ∀ T_G_I_filter, countValidMatches ctx.maplab_to_openvins_cam_indices_mapping 0 0
      r.G_landmarks_per_camera ≠ 0 → FailsOnly P (getLocalizationReprojectionErrors ctx r T_G_I_filter)) :
    FailsOnly P (processAsUpdate ctx s r) := by
  refine FailsOnly.bind (FailsOnly.check fun hc => hNotYet (by simpa using hc)) fun _ _ =>
    FailsOnly.bind (FailsOnly.check_of_text hWillNever) fun _ _ => ?_
  dsimp only
  split
  · exact FailsOnly.pure _
  · split
    · split <;> exact FailsOnly.pure _
    · exact FailsOnly.bind (FailsOnly.check_of_text hfilter) fun _ _ =>
        FailsOnly.bind (hreprojection _ ‹_›) fun ⟨_, _, _⟩ _ => FailsOnly.pure _

/-- The `CHECK`s `processAsUpdate` can fail on such a localization: the first timing check
only on a pose not yet available, the second one, the one on the filter's baseframes,
and the projection's. -/
theorem processAsUpdate_failsOnly_of {r : LocalizationResult Transformation Vector3 Vector2}
    (s : OpenvinsLocalizationHandler Transformation Vector3 Vector2)
    (hcols : List.Forall₂ (fun landmarks keypoints => landmarks.length = keypoints.length)
      r.G_landmarks_per_camera r.keypoint_measurements_per_camera)
    (hcams : r.G_landmarks_per_camera.length = ctx.camera_calibration.numCameras)
    {P : CheckFailed → Prop}
    (hNotYet : s.T_M_I_buffer.getPoseAt ctx.interpolate r.timestamp_ns = .kFailedNotYetAvailable →
      P ⟨"result != vio_common::PoseLookupBuffer::ResultStatus::kFailedNotYetAvailable"⟩)
    (hWillNever : P ⟨"result != vio_common::PoseLookupBuffer::ResultStatus::kFailedWillNeverSucceed"⟩)
    (hfilter : P ⟨"!T_G_M_filter_buffer_.buffer().empty()"⟩)
    (hprojection : ∀ e, IsProjectionCheck e → P e) :
    FailsOnly P (processAsUpdate ctx s r) :=
  processAsUpdate_failsOnly_of_reprojection s hNotYet hWillNever hfilter fun T_G_I_filter hvalid =>
    (getLocalizationReprojectionErrors_failsOnly T_G_I_filter hcols hcams
      (Nat.pos_of_ne_zero hvalid)).mono hprojection

/-- The `CHECK`s `processAsUpdate` can fail on such a localization: the two on the pose
lookup, the one on the filter's baseframes, and the projection's. -/
theorem processAsUpdate_failsOnly {r : LocalizationResult Transformation Vector3 Vector2}
    (s : OpenvinsLocalizationHandler Transformation Vector3 Vector2)
    (hcols : List.Forall₂ (fun landmarks keypoints => landmarks.length = keypoints.length)
      r.G_landmarks_per_camera r.keypoint_measurements_per_camera)
    (hcams : r.G_landmarks_per_camera.length = ctx.camera_calibration.numCameras) :
    FailsOnly (fun e =>
        e.condition = "result != vio_common::PoseLookupBuffer::ResultStatus::kFailedNotYetAvailable" ∨
        e.condition = "result != vio_common::PoseLookupBuffer::ResultStatus::kFailedWillNeverSucceed" ∨
        e.condition = "!T_G_M_filter_buffer_.buffer().empty()" ∨ IsProjectionCheck e)
      (processAsUpdate ctx s r) :=
  processAsUpdate_failsOnly_of s hcols hcams (fun _ => .inl rfl) (.inr (.inl rfl))
    (.inr (.inr (.inl rfl))) fun _ he => .inr (.inr (.inr he))

theorem getLocalizationReprojectionErrors_spec
    {r : LocalizationResult Transformation Vector3 Vector2} {T_G_I_filter : Transformation}
    {rate : ℚ} {lc filter : List ℚ}
    (h : getLocalizationReprojectionErrors ctx r T_G_I_filter = .ok (rate, lc, filter)) :
    ∃ acc, collectReprojectionErrors ctx r T_G_I_filter = .ok acc ∧
      lc = acc.lc_reprojection_errors ∧ filter = acc.filter_reprojection_errors ∧
      lc.length = filter.length ∧ 0 < acc.num_matches_processed ∧
      rate = lc.length / acc.num_matches_processed := by
  obtain ⟨acc, hacc, h⟩ := bind_eq_ok.mp h
  obtain ⟨_, h₁, h⟩ := bind_eq_ok.mp h
  obtain ⟨_, h₂, h⟩ := bind_eq_ok.mp h
  cases h
  exact ⟨acc, hacc, rfl, rfl, check_eq_ok h₁, check_eq_ok h₂, rfl⟩

/-- **The consistency gate's counts agree.**  For a well-formed localization, under every
camera mapping, the reprojection counts exactly `num_valid_matches`, `processAsUpdate`
never fails the `CHECK`s on that count and the two error lists, and the success rate is
`k / num_valid_matches` for the common length `k` of the lists: in `[0, 1]`, with two
non-empty lists to average whenever the check succeeds. -/
theorem reprojection_counts_agree {r : LocalizationResult Transformation Vector3 Vector2}
    (hcols : List.Forall₂ (fun landmarks keypoints => landmarks.length = keypoints.length)
      r.G_landmarks_per_camera r.keypoint_measurements_per_camera)
    (hcams : r.G_landmarks_per_camera.length = ctx.camera_calibration.numCameras) :
    (∀ T_G_I_filter acc, collectReprojectionErrors ctx r T_G_I_filter = .ok acc →
      acc.num_matches_processed =
        countValidMatches ctx.maplab_to_openvins_cam_indices_mapping 0 0 r.G_landmarks_per_camera) ∧
    (∀ s e, processAsUpdate ctx s r = .error e →
      e.condition ≠ "num_matches_processed > 0" ∧
        e.condition ≠ "lc_reprojection_errors->size() == filter_reprojection_errors->size()") ∧
    ∀ T_G_I_filter rate lc filter,
      getLocalizationReprojectionErrors ctx r T_G_I_filter = .ok (rate, lc, filter) →
      lc.length = filter.length ∧
        lc.length ≤ countValidMatches ctx.maplab_to_openvins_cam_indices_mapping 0 0
          r.G_landmarks_per_camera ∧
        rate = lc.length / countValidMatches ctx.maplab_to_openvins_cam_indices_mapping 0 0
          r.G_landmarks_per_camera ∧
        0 ≤ rate ∧ rate ≤ 1 ∧
        ((checkReprojection ctx.flags rate lc filter).reprojection_success = true →
          lc ≠ [] ∧ filter ≠ []) := by
  refine ⟨fun _ _ h => (collectReprojectionErrors_spec h).1, fun s e he => ?_, ?_⟩
  · rcases processAsUpdate_failsOnly s hcols hcams e he with h | h | h | h <;>
      rw [h] <;> decide
  · intro T_G_I_filter rate lc filter h
    obtain ⟨acc, hacc, rfl, rfl, hlen, -, rfl⟩ := getLocalizationReprojectionErrors_spec h
    obtain ⟨hn, -, hle⟩ := collectReprojectionErrors_spec hacc
    rw [← hn]
    refine ⟨hlen, hle, rfl, by positivity, div_le_one_of_le₀ (by exact_mod_cast hle) (by positivity),
      fun hs => ?_⟩
    have hrate : kMinReprojectionSuccessRate < _ := (decide_eq_true_iff.mp hs).1
    have hlc : acc.lc_reprojection_errors ≠ [] := by
      rintro hnil
      norm_num [hnil, kMinReprojectionSuccessRate] at hrate
    exact ⟨hlc, fun hnil => hlc (List.length_eq_zero.mp (by simp [hlen, hnil]))⟩

/-- On the line, for a localization with one match. -/
theorem reprojection_counts_agree_on_line :
    List.Forall₂ (fun landmarks keypoints => landmarks.length = keypoints.length)
        [[(5 : ℤ)]] [[(5 : ℤ)]] ∧
      [[(5 : ℤ)]].length = structureLineContext.camera_calibration.numCameras ∧
      ∀ s e, processAsUpdate structureLineContext s ⟨0, 1, [[5]], [[5]]⟩ = .error e →
        e.condition ≠ "num_matches_processed > 0" ∧
          e.condition ≠ "lc_reprojection_errors->size() == filter_reprojection_errors->size()" :=
  ⟨.cons rfl .nil, rfl,
    (@reprojection_counts_agree _ _ _ _ _ _ structureLineContext ⟨0, 1, [[5]], [[5]]⟩
      (.cons rfl .nil) rfl).2.1⟩

/-! ### What the reprojection computes -/

/-- The bookkeeping of a list of outcomes: the errors of the valid ones appended, and
every one counted. -/
theorem foldl_record (outcomes : List (Option (ℚ × ℚ))) (acc : ReprojectionErrors) :
    outcomes.foldl ReprojectionErrors.record acc =
      ⟨acc.lc_reprojection_errors ++ outcomes.filterMap (Option.map Prod.fst),
        acc.filter_reprojection_errors ++ outcomes.filterMap (Option.map Prod.snd),
        acc.num_matches_processed + outcomes.length⟩ := by
  induction outcomes generalizing acc with
  | nil => simp
  | cons o os ih =>
    rw [List.foldl_cons, ih]
    cases o <;> simp [ReprojectionErrors.record, Nat.add_assoc, Nat.add_comm 1]

omit [Group Transformation] [MulAction Transformation Vector3] [Sub Vector2] in
theorem length_filterMap_map (f : ℚ × ℚ → ℚ) (outcomes : List (Option (ℚ × ℚ))) :
    (outcomes.filterMap (Option.map f)).length = outcomes.countP Option.isSome := by
  induction outcomes with
  | nil => rfl
  | cons o os ih => cases o <;> simp [ih]

/-- **What the reprojection computes.**  For a well-formed localization, the map of
`reprojectMatch` over the matches of the cameras active in OpenVINS, in order: it fails
at the first failed projection or when there is no match, and otherwise the success rate
is the share of matches with both reprojections valid, whose errors the two lists hold,
in order. -/
theorem getLocalizationReprojectionErrors_eq {r : LocalizationResult Transformation Vector3 Vector2}
    (T_G_I_filter : Transformation)
    (hcols : List.Forall₂ (fun landmarks keypoints => landmarks.length = keypoints.length)
      r.G_landmarks_per_camera r.keypoint_measurements_per_camera)
    (hcams : r.G_landmarks_per_camera.length = ctx.camera_calibration.numCameras) :
    getLocalizationReprojectionErrors ctx r T_G_I_filter =
      (((activeMatches ctx r.T_G_B T_G_I_filter 0 (r.G_landmarks_per_camera.zip
          (r.keypoint_measurements_per_camera.zip ctx.camera_calibration.cameras))).mapM
          fun m => reprojectMatch ctx.norm m.1 m.2.1 m.2.2.1 m.2.2.2) >>= fun outcomes => do
        check (0 < outcomes.length) "num_matches_processed > 0"
        return ((outcomes.countP Option.isSome : ℚ) / outcomes.length,
          outcomes.filterMap (Option.map Prod.fst), outcomes.filterMap (Option.map Prod.snd))) := by
  simp only [getLocalizationReprojectionErrors, collectReprojectionErrors, check_of_pos hcols.length_eq,
    check_of_pos hcams, pure_bind, processCameras_eq _ _ _ _ _ (forall_mem_zip_zip hcols _)]
  cases (activeMatches ctx r.T_G_B T_G_I_filter 0 (r.G_landmarks_per_camera.zip
      (r.keypoint_measurements_per_camera.zip ctx.camera_calibration.cameras))).mapM
      (fun m => reprojectMatch ctx.norm m.1 m.2.1 m.2.2.1 m.2.2.2) with
  | error e => rfl
  | ok outcomes =>
    simp only [Except.map, ok_bind, foldl_record, List.nil_append, Nat.zero_add]
    rw [check_of_pos (by simp only [length_filterMap_map]), pure_bind, length_filterMap_map]
/-- On the line, for a localization with one match. -/
theorem getLocalizationReprojectionErrors_eq_on_line :
    List.Forall₂ (fun (landmarks keypoints : List ℤ) => landmarks.length = keypoints.length)
        [[5]] [[6]] ∧
      [[(5 : ℤ)]].length = lineContext.camera_calibration.numCameras ∧
      getLocalizationReprojectionErrors lineContext ⟨0, 1, [[5]], [[6]]⟩ 1 =
        (((activeMatches lineContext 1 1 0
            ([[5]].zip ([[6]].zip lineContext.camera_calibration.cameras))).mapM
            fun m => reprojectMatch lineContext.norm m.1 m.2.1 m.2.2.1 m.2.2.2) >>= fun outcomes => do
          check (0 < outcomes.length) "num_matches_processed > 0"
          return ((outcomes.countP Option.isSome : ℚ) / outcomes.length,
            outcomes.filterMap (Option.map Prod.fst), outcomes.filterMap (Option.map Prod.snd))) := by
  have hcols : List.Forall₂ (fun (landmarks keypoints : List ℤ) => landmarks.length = keypoints.length)
      [[5]] [[6]] := .cons rfl .nil
  have hcams : [[(5 : ℤ)]].length = lineContext.camera_calibration.numCameras := rfl
  exact ⟨hcols, hcams, getLocalizationReprojectionErrors_eq 1 hcols hcams⟩
omit [MulAction Transformation Vector3] [Sub Vector2] in
/-- Cameras that agree wherever the camera is active give the same active matches. -/
theorem activeMatches_congr (T_G_B T_G_I_filter : Transformation) (cam_idx : Nat)
    {cams cams' : List (List Vector3 × List Vector2 × (Transformation × Camera Vector3 Vector2))}
    (hlen : cams.length = cams'.length)
    (h : ∀ j, (ctx.maplab_to_openvins_cam_indices_mapping.getRight (cam_idx + j)).isSome →
      cams[j]? = cams'[j]?) :
    activeMatches ctx T_G_B T_G_I_filter cam_idx cams =
      activeMatches ctx T_G_B T_G_I_filter cam_idx cams' := by
  induction cams generalizing cams' cam_idx with
  | nil => rw [List.length_eq_zero.mp hlen.symm]
  | cons cam cams ih =>
    obtain _ | ⟨⟨landmarks', keypoints', T_C_B', camera'⟩, cams'⟩ := cams'
    · cases hlen
    obtain ⟨landmarks, keypoints, T_C_B, camera⟩ := cam
    have hrest := ih (cam_idx + 1) (Nat.succ.inj hlen) fun j hj => by
      simpa using h (j + 1) (by rwa [← Nat.add_assoc, Nat.add_right_comm])
    simp only [activeMatches, hrest]
    by_cases ha : (ctx.maplab_to_openvins_cam_indices_mapping.getRight cam_idx).isSome
    · have hcam := h 0 (by simpa using ha)
      simp only [List.getElem?_cons_zero, Option.some.injEq, Prod.mk.injEq] at hcam
      obtain ⟨rfl, rfl, rfl, rfl⟩ := hcam
      rfl
    · simp [ha]

/-- **Inactive cameras never count.**  Two localizations with the same pose, both with as
many landmark as keypoint columns per camera and one list per camera of the
calibration, whose landmarks and keypoints agree on every camera active in OpenVINS,
get the same reprojection result: the same failure, or the same success rate and
error lists. -/
theorem getLocalizationReprojectionErrors_congr_active
    {r r' : LocalizationResult Transformation Vector3 Vector2} (T_G_I_filter : Transformation)
    (hcols : List.Forall₂ (fun landmarks keypoints => landmarks.length = keypoints.length)
      r.G_landmarks_per_camera r.keypoint_measurements_per_camera)
    (hcols' : List.Forall₂ (fun landmarks keypoints => landmarks.length = keypoints.length)
      r'.G_landmarks_per_camera r'.keypoint_measurements_per_camera)
    (hcams : r.G_landmarks_per_camera.length = ctx.camera_calibration.numCameras)
    (hcams' : r'.G_landmarks_per_camera.length = ctx.camera_calibration.numCameras)
    (hpose : r.T_G_B = r'.T_G_B)
    (hactive : ∀ i, (ctx.maplab_to_openvins_cam_indices_mapping.getRight i).isSome →
      r.G_landmarks_per_camera[i]? = r'.G_landmarks_per_camera[i]? ∧
        r.keypoint_measurements_per_camera[i]? = r'.keypoint_measurements_per_camera[i]?) :
    getLocalizationReprojectionErrors ctx r T_G_I_filter =
      getLocalizationReprojectionErrors ctx r' T_G_I_filter := by
  have hcollect : collectReprojectionErrors ctx r T_G_I_filter =
      collectReprojectionErrors ctx r' T_G_I_filter := by
    simp only [collectReprojectionErrors, check_of_pos hcols.length_eq, check_of_pos hcols'.length_eq,
      check_of_pos hcams, check_of_pos hcams', pure_bind,
      processCameras_eq _ _ _ _ _ (forall_mem_zip_zip hcols _),
      processCameras_eq _ _ _ _ _ (forall_mem_zip_zip hcols' _), hpose]
    rw [activeMatches_congr _ _ 0 ?_ fun j hj => ?_]
    · simp only [List.length_zip]
      rw [← hcols.length_eq, ← hcols'.length_eq, hcams, hcams']
    · obtain ⟨hG, hK⟩ := hactive j (by simpa using hj)
      simp only [List.zip, List.getElem?_zipWith', hG, hK]
  unfold getLocalizationReprojectionErrors
  rw [hcollect]

/-- With a second, inactive camera on the line, its matches do not matter. -/
theorem getLocalizationReprojectionErrors_congr_active_on_line :
    let ctx := { lineContext with camera_calibration :=
      ⟨lineContext.camera_calibration.cameras ++ lineContext.camera_calibration.cameras⟩ }
    getLocalizationReprojectionErrors ctx ⟨0, 1, [[5], []], [[6], []]⟩ 1 =
      getLocalizationReprojectionErrors ctx ⟨0, 1, [[5], [7, 8]], [[6], [1, 2]]⟩ 1 := by
  intro ctx
  refine getLocalizationReprojectionErrors_congr_active 1 (.cons rfl (.cons rfl .nil))
    (.cons rfl (.cons rfl .nil)) rfl rfl rfl fun i hi => ?_
  match i, hi with
  | 0, _ => exact ⟨rfl, rfl⟩

/-! ### The two hypotheses can be exchanged -/

namespace ReprojectionErrors

/-- The two error lists exchanged. -/
def swap (acc : ReprojectionErrors) : ReprojectionErrors :=
  ⟨acc.filter_reprojection_errors, acc.lc_reprojection_errors, acc.num_matches_processed⟩

@[simp] theorem swap_swap (acc : ReprojectionErrors) : acc.swap.swap = acc := rfl

theorem swap_record (acc : ReprojectionErrors) (e : Option (ℚ × ℚ)) :
    acc.swap.record (e.map Prod.swap) = (acc.record e).swap := by
  cases e <;> rfl

end ReprojectionErrors

section Exchange

variable {camera : Camera Vector3 Vector2}

/-- A camera that never answers `UNINITIALIZED` passes the projection check. -/
theorem getReprojectionErrorForGlobalLandmark_isOk (norm : Vector2 → ℚ)
    (hcam : ∀ p, (camera.project3 p).1 ≠ .uninitialized) (p_G : Vector3) (T_G_C : Transformation)
    (measurement : Vector2) :
    ∃ e, getReprojectionErrorForGlobalLandmark norm p_G T_G_C camera measurement = .ok e := by
  have h := hcam (T_G_C⁻¹ • p_G)
  unfold getReprojectionErrorForGlobalLandmark
  rcases camera.project3 (T_G_C⁻¹ • p_G) with ⟨status, keypoint⟩
  simp only [check_of_pos h]
  split <;> exact ⟨_, rfl⟩

/-- Exchanging the two poses of a match exchanges its two errors. -/
theorem reprojectMatch_swap (norm : Vector2 → ℚ)
    (hcam : ∀ p, (camera.project3 p).1 ≠ .uninitialized) (T₁ T₂ : Transformation)
    (m : Vector3 × Vector2) :
    reprojectMatch norm camera T₁ T₂ m =
      (reprojectMatch norm camera T₂ T₁ m).map (Option.map Prod.swap) := by
  obtain ⟨p_G, keypoint⟩ := m
  obtain ⟨e₁, h₁⟩ := getReprojectionErrorForGlobalLandmark_isOk norm hcam p_G T₁ keypoint
  obtain ⟨e₂, h₂⟩ := getReprojectionErrorForGlobalLandmark_isOk norm hcam p_G T₂ keypoint
  simp only [reprojectMatch, h₁, h₂]
  cases e₁ <;> cases e₂ <;> rfl

theorem processMatches_swap (norm : Vector2 → ℚ)
    (hcam : ∀ p, (camera.project3 p).1 ≠ .uninitialized) (T₁ T₂ : Transformation)
    (acc : ReprojectionErrors) (ms : List (Vector3 × Vector2)) :
    processMatches norm camera T₁ T₂ acc.swap ms =
      (processMatches norm camera T₂ T₁ acc ms).map ReprojectionErrors.swap := by
  induction ms generalizing acc with
  | nil => rfl
  | cons m rest ih =>
    simp only [processMatches, reprojectMatch_swap norm hcam T₁ T₂ m]
    cases reprojectMatch norm camera T₂ T₁ m with
    | error e => rfl
    | ok e =>
      show processMatches norm camera T₁ T₂ (acc.swap.record (e.map Prod.swap)) rest = _
      rw [ReprojectionErrors.swap_record, ih]
      rfl

theorem processCameras_swap (X Y : Transformation) (i : Nat) (acc : ReprojectionErrors)
    (cams : List (List Vector3 × List Vector2 × (Transformation × Camera Vector3 Vector2)))
    (hcam : ∀ cam ∈ cams, ∀ p, (cam.2.2.2.project3 p).1 ≠ .uninitialized) :
    processCameras ctx Y X i acc.swap cams =
      (processCameras ctx X Y i acc cams).map ReprojectionErrors.swap := by
  induction cams generalizing i acc with
  | nil => rfl
  | cons cam rest ih =>
    obtain ⟨landmarks, keypoints, T_C_B, camera⟩ := cam
    have ih' := fun i acc => ih i acc fun c hc => hcam c (List.mem_cons_of_mem _ hc)
    have hc : ∀ p, (camera.project3 p).1 ≠ .uninitialized := hcam _ (List.mem_cons_self _ _)
    simp only [processCameras]
    by_cases hlen : landmarks.length = keypoints.length
    · simp only [check_of_pos hlen, pure_bind]
      split
      · exact ih' _ _
      · split
        · exact ih' _ _
        · rw [processMatches_swap _ hc]
          cases processMatches ctx.norm camera (T_C_B * Y⁻¹)⁻¹ (T_C_B * X⁻¹)⁻¹ acc
            (landmarks.zip keypoints) with
          | error e => rfl
          | ok acc' => exact ih' _ _
    · simp only [check_of_neg hlen]
      rfl

theorem collectReprojectionErrors_swap
    (hcam : ∀ cam ∈ ctx.camera_calibration.cameras, ∀ p, (cam.2.project3 p).1 ≠ .uninitialized)
    (r : LocalizationResult Transformation Vector3 Vector2) (X Y : Transformation) :
    collectReprojectionErrors ctx { r with T_G_B := Y } X =
      (collectReprojectionErrors ctx { r with T_G_B := X } Y).map ReprojectionErrors.swap := by
  unfold collectReprojectionErrors
  by_cases h₁ : r.G_landmarks_per_camera.length = r.keypoint_measurements_per_camera.length
  · by_cases h₂ : r.G_landmarks_per_camera.length = ctx.camera_calibration.numCameras
    · simp only [check_of_pos h₁, check_of_pos h₂, pure_bind]
      exact processCameras_swap X Y 0 ⟨[], [], 0⟩ _ fun cam hc =>
        hcam cam.2.2 (List.of_mem_zip (List.of_mem_zip hc).2).2
    · simp only [check_of_pos h₁, check_of_neg h₂, pure_bind]
      rfl
  · simp only [check_of_neg h₁]
    rfl

theorem getLocalizationReprojectionErrors_swap
    (hcam : ∀ cam ∈ ctx.camera_calibration.cameras, ∀ p, (cam.2.project3 p).1 ≠ .uninitialized)
    (r : LocalizationResult Transformation Vector3 Vector2) (X Y : Transformation) :
    getLocalizationReprojectionErrors ctx { r with T_G_B := Y } X =
      (getLocalizationReprojectionErrors ctx { r with T_G_B := X } Y).map
        fun p => (p.1, p.2.2, p.2.1) := by
  unfold getLocalizationReprojectionErrors
  rw [collectReprojectionErrors_swap hcam]
  cases collectReprojectionErrors ctx { r with T_G_B := X } Y with
  | error e => rfl
  | ok acc =>
    simp only [Except.map, ok_bind, ReprojectionErrors.swap]
    by_cases h : acc.lc_reprojection_errors.length = acc.filter_reprojection_errors.length
    · simp only [check_of_pos h, check_of_pos h.symm, pure_bind, h]
      cases check (0 < acc.num_matches_processed) "num_matches_processed > 0" <;> rfl
    · simp only [check_of_neg h, check_of_neg (Ne.symm h)]
      rfl

omit [Group Transformation] [MulAction Transformation Vector3] [Sub Vector2] in
/-- With lists of one length, the check does not tell them apart. -/
theorem checkReprojection_swap (flags : Flags) (rate : ℚ) {lc filter : List ℚ}
    (h : lc.length = filter.length) :
    checkReprojection flags rate filter lc = checkReprojection flags rate lc filter := by
  simp only [checkReprojection, h, abs_sub_comm]

/-- **The consistency gate is symmetric in its two hypotheses**, for cameras that never
answer `UNINITIALIZED`.  Exchanging the filter's pose `X` and the localization's pose
`Y` exchanges the two error lists and keeps the success rate, so the check of
`processAsUpdate` decides alike, and the crossed `push_back` does no harm.  For
`X = Y` the two lists are equal, the difference of their means is zero, and a
successful check passes every non-negative threshold. -/
theorem reprojection_gate_symmetric
    (hcam : ∀ cam ∈ ctx.camera_calibration.cameras, ∀ p, (cam.2.project3 p).1 ≠ .uninitialized)
    (r : LocalizationResult Transformation Vector3 Vector2) (X Y : Transformation) :
    getLocalizationReprojectionErrors ctx { r with T_G_B := Y } X =
        (getLocalizationReprojectionErrors ctx { r with T_G_B := X } Y).map
          (fun p => (p.1, p.2.2, p.2.1)) ∧
      (getLocalizationReprojectionErrors ctx { r with T_G_B := Y } X).map
          (fun p => checkReprojection ctx.flags p.1 p.2.1 p.2.2) =
        (getLocalizationReprojectionErrors ctx { r with T_G_B := X } Y).map
          (fun p => checkReprojection ctx.flags p.1 p.2.1 p.2.2) ∧
      ∀ rate lc filter,
        getLocalizationReprojectionErrors ctx { r with T_G_B := X } X = .ok (rate, lc, filter) →
        lc = filter ∧
          ((checkReprojection ctx.flags rate lc filter).reprojection_success = true →
            (checkReprojection ctx.flags rate lc filter).mean_reprojection_error_diff = 0 ∧
            (0 ≤ ctx.flags.openvinsli_max_mean_localization_reprojection_error_px →
              (checkReprojection ctx.flags rate lc filter).passes ctx.flags)) := by
  have hswap := getLocalizationReprojectionErrors_swap hcam r
  refine ⟨hswap X Y, ?_, fun rate lc filter h => ?_⟩
  · rw [hswap X Y]
    cases hXY : getLocalizationReprojectionErrors ctx { r with T_G_B := X } Y with
    | error e => rfl
    | ok p =>
      obtain ⟨rate, lc, filter⟩ := p
      obtain ⟨-, -, -, -, hlen, -⟩ := getLocalizationReprojectionErrors_spec hXY
      simp only [Except.map, checkReprojection_swap ctx.flags rate hlen]
  · have hXX := hswap X X
    rw [h] at hXX
    obtain ⟨rfl, -⟩ : lc = filter ∧ filter = lc := by simpa [Except.map] using hXX
    refine ⟨rfl, fun hs => ?_⟩
    have hdiff : (checkReprojection ctx.flags rate lc lc).mean_reprojection_error_diff = 0 := by
      simp only [checkReprojection] at hs ⊢
      simp [hs]
    exact ⟨hdiff, fun hmax => ⟨hs, hdiff ▸ hmax⟩⟩

/-- On the line, exchanging the poses `1` and `2` of a localization with one match. -/
theorem reprojection_gate_symmetric_on_line :
    (∀ cam ∈ lineContext.camera_calibration.cameras, ∀ p,
        (cam.2.project3 p).1 ≠ .uninitialized) ∧
      getLocalizationReprojectionErrors lineContext ⟨0, Multiplicative.ofAdd 2, [[5]], [[6]]⟩ 1 =
        (getLocalizationReprojectionErrors lineContext ⟨0, 1, [[5]], [[6]]⟩
          (Multiplicative.ofAdd 2)).map (fun p => (p.1, p.2.2, p.2.1)) := by
  have hcam : ∀ cam ∈ lineContext.camera_calibration.cameras, ∀ p,
      (cam.2.project3 p).1 ≠ .uninitialized := by
    intro cam hc p
    simp only [lineContext, List.mem_singleton] at hc
    subst hc
    dsimp only
    split <;> decide
  exact ⟨hcam, (reprojection_gate_symmetric hcam ⟨0, 1, [[5]], [[6]]⟩ 1 (Multiplicative.ofAdd 2)).1⟩

end Exchange

/-! ### What the gate logs -/

/-- The `CHECK`s of `getLocalizationReprojectionErrors`: its two size checks, the column
check of each camera, the checks on its error lists and its count, and the projection's. -/
def IsReprojectionCheck (e : CheckFailed) : Prop :=
  e.condition ∈
    ["localization_result.G_landmarks_per_camera.size() == localization_result.keypoint_measurements_per_camera.size()",
      "num_cameras == static_cast<int>(camera_calibration_.numCameras())",
      "localization_result.G_landmarks_per_camera[cam_idx].cols() == localization_result.keypoint_measurements_per_camera[cam_idx].cols()",
      "lc_reprojection_errors->size() == filter_reprojection_errors->size()",
      "num_matches_processed > 0"] ∨
    IsProjectionCheck e

theorem processCameras_failsOnly_reprojection (T_G_B T_G_I_filter : Transformation) (i : Nat)
    (acc : ReprojectionErrors)
    (cams : List (List Vector3 × List Vector2 × (Transformation × Camera Vector3 Vector2))) :
    FailsOnly IsReprojectionCheck (processCameras ctx T_G_B T_G_I_filter i acc cams) := by
  induction cams generalizing i acc with
  | nil => exact FailsOnly.pure _
  | cons cam rest ih =>
    obtain ⟨landmarks, keypoints, T_C_B, camera⟩ := cam
    refine FailsOnly.bind (FailsOnly.check_of_text (.inl (by simp))) fun _ _ => ?_
    dsimp only
    split
    · exact ih _ _
    · split
      · exact ih _ _
      · exact FailsOnly.bind ((processMatches_failsOnly _ _ _ _ _ _).mono fun _ => .inr) fun _ _ =>
          ih _ _

/-- Whatever the localization, the reprojection fails only its own `CHECK`s. -/
theorem getLocalizationReprojectionErrors_failsOnly_reprojection
    (r : LocalizationResult Transformation Vector3 Vector2) (T_G_I_filter : Transformation) :
    FailsOnly IsReprojectionCheck (getLocalizationReprojectionErrors ctx r T_G_I_filter) :=
  FailsOnly.bind (FailsOnly.bind (FailsOnly.check_of_text (.inl (by simp))) fun _ _ =>
      FailsOnly.bind (FailsOnly.check_of_text (.inl (by simp))) fun _ _ =>
        processCameras_failsOnly_reprojection _ _ _ _ _) fun _ _ =>
    FailsOnly.bind (FailsOnly.check_of_text (.inl (by simp))) fun _ _ =>
      FailsOnly.bind (FailsOnly.check_of_text (.inl (by simp))) fun _ _ => FailsOnly.pure _

theorem IsReprojectionCheck.ne_kFailedNotYetAvailable {e : CheckFailed} (he : IsReprojectionCheck e) :
    e.condition ≠ "result != vio_common::PoseLookupBuffer::ResultStatus::kFailedNotYetAvailable" := by
  rcases he with hmem | hprojection
  · intro h
    rw [h] at hmem
    simp at hmem
  · rw [hprojection]
    simp

/-- A call whose pose is not "not yet available" never fails the first timing check. -/
theorem processLocalizationResultInternal_failsOnly_ne_kFailedNotYetAvailable {ransac_seed : Int}
    {s : OpenvinsLocalizationHandler Transformation Vector3 Vector2}
    {r : LocalizationResult Transformation Vector3 Vector2}
    (hlook : s.T_M_I_buffer.getPoseAt ctx.interpolate r.timestamp_ns ≠ .kFailedNotYetAvailable) :
    FailsOnly (fun e : CheckFailed =>
        e.condition ≠ "result != vio_common::PoseLookupBuffer::ResultStatus::kFailedNotYetAvailable")
      (processLocalizationResultInternal ctx ransac_seed s r) := fun e he =>
  processAsUpdate_failsOnly_of_reprojection s (fun h => absurd h hlook) (by simp) (by simp)
    (fun T_G_I_filter _ => (getLocalizationReprojectionErrors_failsOnly_reprojection r T_G_I_filter).mono
      fun _ => IsReprojectionCheck.ne_kFailedNotYetAvailable)
    e (processLocalizationResultInternal_eq_error he).2

theorem processInOrder_failsOnly_ne_kFailedNotYetAvailable {ransac_seeds : Nat → Int}
    {s : OpenvinsLocalizationHandler Transformation Vector3 Vector2}
    {l : List (LocalizationResult Transformation Vector3 Vector2)}
    (hl : ∀ r ∈ l, s.T_M_I_buffer.getPoseAt ctx.interpolate r.timestamp_ns ≠ .kFailedNotYetAvailable) :
    FailsOnly (fun e : CheckFailed =>
        e.condition ≠ "result != vio_common::PoseLookupBuffer::ResultStatus::kFailedNotYetAvailable")
      (processInOrder ctx ransac_seeds s l) := by
  induction l generalizing ransac_seeds s with
  | nil => exact FailsOnly.pure _
  | cons r rest ih =>
    rw [processInOrder]
    refine FailsOnly.bind (processLocalizationResultInternal_failsOnly_ne_kFailedNotYetAvailable
      (hl r (List.mem_cons_self r rest))) fun s₁ hs₁ => ih fun r' hr' => ?_
    rw [(processLocalizationResultInternal_buffers hs₁).1]
    exact hl r' (List.mem_cons_of_mem r hr')

/-- **No drain fails the first timing check.**  For every queue and every pose buffer,
`dealWithBufferedLocalizations` never aborts on `CHECK(result != kFailedNotYetAvailable)`:
it dispatches only localizations not newer than the newest pose, and processing them
leaves the pose buffer as it is. -/
theorem dealWithBufferedLocalizations_ne_kFailedNotYetAvailable (ransac_seeds : Nat → Int)
    (s : OpenvinsLocalizationHandler Transformation Vector3 Vector2)
    (q : List (LocalizationResult Transformation Vector3 Vector2)) :
    dealWithBufferedLocalizations ctx ransac_seeds s q ≠
      .error ⟨"result != vio_common::PoseLookupBuffer::ResultStatus::kFailedNotYetAvailable"⟩ := by
  intro h
  unfold dealWithBufferedLocalizations at h
  split at h
  · cases h
  · rename_i N hN
    rw [drainLocalizationBuffer_eq] at h
    cases hrun : processInOrder ctx ransac_seeds s (q.takeWhile (isDue N)) with
    | ok s' => simp [hrun, Except.map] at h
    | error e =>
      simp only [hrun, Except.map, Except.error.injEq] at h
      subst h
      exact processInOrder_failsOnly_ne_kFailedNotYetAvailable
        (fun r hr => getPoseAt_ne_kFailedNotYetAvailable_of_isDue _ hN (List.mem_takeWhile_imp hr)) _ hrun rfl

end Openvinsli
