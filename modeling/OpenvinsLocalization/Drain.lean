/-
OpenvinsLocalization/Drain.lean

`dealWithBufferedLocalizations`: the loop that drains the queue of buffered
localizations once the pose buffer has poses.

Its law (`dealWithBufferedLocalizations_eq`) says what the loop does for every queue
and every pose buffer: with `N` the newest pose's timestamp read on entry, it hands
the longest prefix of the queue whose timestamps are at most `N` to
`processLocalizationResultInternal`, one at a time and in order (`processInOrder`),
and leaves the rest of the queue, whose head is newer than `N`.  Handing over stops
at the first localization whose processing fails a `CHECK`.

On a queue filled by hand such failures happen: a malformed localization fails a size
check of the reprojection, and one older than every retained pose the timing check of
`processAsUpdate` on a pose that will never be available.  The drain's guard rules out
only the other timing check (`dealWithBufferedLocalizations_ne_kFailedNotYetAvailable`
in `Gate`); in this revision nothing fills the queue (`System`).

In 6-DoF mode a drain that returns has fed OpenVINS exactly the localizations it
took off the queue, in queue order (`dealWithBufferedLocalizations_forwards_consumed`),
and the drain of a localized handler has a closed form: it fails exactly when a due
localization's pose will never be available, and otherwise forwards the whole due
prefix (`dealWithBufferedLocalizations_of_6dof`).

A drain that returns leaves nothing due and the pose buffer as it found it, so a second
drain right after it does nothing (`dealWithBufferedLocalizations_idempotent`).  The
loop returns at the first localization newer than `N`, so an older one queued behind it
waits; in a queue in time order none does, and a drain processes every localization not
newer than `N` (`dealWithBufferedLocalizations_of_sorted`).
-/
import OpenvinsLocalization.Handler
import Mathlib.Data.List.DropRight

namespace Openvinsli

open OpenvinsLocalizationHandler

variable {Transformation Vector3 Vector2 : Type}
variable [Group Transformation] [MulAction Transformation Vector3] [Sub Vector2]

variable (ctx : Context Transformation Vector3 Vector2)

/-- Hand localizations to `processLocalizationResultInternal` one after the other, in
order, each with the next seed, until one fails a `CHECK`. -/
def processInOrder (ransac_seeds : Nat → Int) :
    OpenvinsLocalizationHandler Transformation Vector3 Vector2 →
    List (LocalizationResult Transformation Vector3 Vector2) →
    Except CheckFailed (OpenvinsLocalizationHandler Transformation Vector3 Vector2)
  | s, [] => pure s
  | s, localization_result :: rest => do
    let s ← processLocalizationResultInternal ctx (ransac_seeds 0) s localization_result
    processInOrder (fun k => ransac_seeds (k + 1)) s rest

/-- A localization is due when a pose at least as new is buffered. -/
def isDue (newest_TMI_timestamp_ns : Int)
    (localization_result : LocalizationResult Transformation Vector3 Vector2) : Bool :=
  decide (localization_result.timestamp_ns ≤ newest_TMI_timestamp_ns)

variable {ctx}

/-- **The loop's law**: it processes the due prefix in order and keeps the rest. -/
theorem drainLocalizationBuffer_eq (N : Int) (ransac_seeds : Nat → Int)
    (s : OpenvinsLocalizationHandler Transformation Vector3 Vector2)
    (q : List (LocalizationResult Transformation Vector3 Vector2)) :
    drainLocalizationBuffer ctx N ransac_seeds s q =
      (processInOrder ctx ransac_seeds s (q.takeWhile (isDue N))).map
        fun s' => (s', q.dropWhile (isDue N)) := by
  induction q generalizing ransac_seeds s with
  | nil => rfl
  | cons r rest ih =>
    by_cases hr : r.timestamp_ns ≤ N
    · have hdue : isDue N r = true := decide_eq_true hr
      simp only [drainLocalizationBuffer, if_neg (not_lt.mpr hr), List.takeWhile_cons_of_pos hdue,
        List.dropWhile_cons_of_pos hdue, processInOrder, ih]
      cases processLocalizationResultInternal ctx (ransac_seeds 0) s r <;> rfl
    · have hdue : isDue N r = false := decide_eq_false hr
      have hnot : ¬ isDue N r = true := by simp [hdue]
      simp only [drainLocalizationBuffer, if_pos (not_le.mp hr), List.takeWhile_cons_of_neg hnot,
        List.dropWhile_cons_of_neg hnot, processInOrder]
      rfl

/-- The two ways a drain returns: without a pose it changes nothing; otherwise it has
processed the due prefix and kept the rest of the queue. -/
theorem dealWithBufferedLocalizations_ok {ransac_seeds : Nat → Int}
    {s s' : OpenvinsLocalizationHandler Transformation Vector3 Vector2}
    {q q' : List (LocalizationResult Transformation Vector3 Vector2)}
    (h : dealWithBufferedLocalizations ctx ransac_seeds s q = .ok (s', q')) :
    (s.T_M_I_buffer.getNewestTimestampOfAvailablePose = none ∧ s' = s ∧ q' = q) ∨
      ∃ N, s.T_M_I_buffer.getNewestTimestampOfAvailablePose = some N ∧
        processInOrder ctx ransac_seeds s (q.takeWhile (isDue N)) = .ok s' ∧
        q' = q.dropWhile (isDue N) := by
  unfold dealWithBufferedLocalizations at h
  split at h <;> rename_i hN
  · cases h
    exact .inl ⟨hN, rfl, rfl⟩
  · rename_i N
    rw [drainLocalizationBuffer_eq] at h
    cases hrun : processInOrder ctx ransac_seeds s (q.takeWhile (isDue N)) with
    | error e => simp [hrun, Except.map] at h
    | ok s₁ =>
      simp only [hrun, Except.map, Except.ok.injEq, Prod.mk.injEq] at h
      obtain ⟨rfl, rfl⟩ := h
      exact .inr ⟨N, hN, hrun, rfl⟩

/-- **What a call of `dealWithBufferedLocalizations` does**, for every queue and every
pose buffer.  Without a pose it dispatches nothing and keeps the queue.  Otherwise,
with `N` the newest pose's timestamp, it hands the due prefix to
`processLocalizationResultInternal` in order, each localization once, until one
fails a `CHECK`; if none does, it leaves the rest of the queue, which is the queue
without that prefix and starts, if at all, with a localization newer than `N`. -/
theorem dealWithBufferedLocalizations_eq (ransac_seeds : Nat → Int)
    (s : OpenvinsLocalizationHandler Transformation Vector3 Vector2)
    (q : List (LocalizationResult Transformation Vector3 Vector2)) :
    dealWithBufferedLocalizations ctx ransac_seeds s q =
      (match s.T_M_I_buffer.getNewestTimestampOfAvailablePose with
        | none => .ok (s, q)
        | some N => (processInOrder ctx ransac_seeds s (q.takeWhile (isDue N))).map
            fun s' => (s', q.dropWhile (isDue N))) ∧
    ∀ N, s.T_M_I_buffer.getNewestTimestampOfAvailablePose = some N →
      q.takeWhile (isDue N) ++ q.dropWhile (isDue N) = q ∧
      ∀ r rest, q.dropWhile (isDue N) = r :: rest → N < r.timestamp_ns := by
  refine ⟨?_, fun N _ => ⟨List.takeWhile_append_dropWhile _ _, fun r rest hq => ?_⟩⟩
  · unfold dealWithBufferedLocalizations
    cases s.T_M_I_buffer.getNewestTimestampOfAvailablePose with
    | none => rfl
    | some N => exact drainLocalizationBuffer_eq _ _ _ _
  · have hhead := List.head_dropWhile_not (isDue N) q (by simp [hq])
    simp only [hq, List.head_cons, isDue] at hhead
    exact not_le.mp (of_decide_eq_false hhead)

/-- In 6-DoF mode a localized handler hands OpenVINS each localization it processes,
in order. -/
theorem processInOrder_openvins_measurements
    (h6 : ctx.flags.openvinsli_use_6dof_localization = true) {ransac_seeds : Nat → Int}
    {s s' : OpenvinsLocalizationHandler Transformation Vector3 Vector2}
    {l : List (LocalizationResult Transformation Vector3 Vector2)}
    (hloc : s.localization_state = .kLocalized)
    (h : processInOrder ctx ransac_seeds s l = .ok s') :
    s'.openvins_measurements =
      s.openvins_measurements ++ l.map (makeOpenvinsLocalizationData ctx) := by
  induction l generalizing ransac_seeds s with
  | nil =>
    cases h
    simp
  | cons r rest ih =>
    obtain ⟨s₁, h₁, h⟩ := bind_eq_ok.mp h
    rcases processLocalizationResultInternal_cases h₁ with ⟨-, _, hu⟩ | ⟨hnot, -⟩
    · obtain ⟨_, rfl⟩ := processAsUpdate_frame hu
      rw [ih (by exact hloc) h]
      simp [h6]
    · exact absurd hloc hnot

/-- The localizations a drain hands over leave the pose buffer alone. -/
theorem processInOrder_T_M_I_buffer {ransac_seeds : Nat → Int}
    {s s' : OpenvinsLocalizationHandler Transformation Vector3 Vector2}
    {l : List (LocalizationResult Transformation Vector3 Vector2)}
    (h : processInOrder ctx ransac_seeds s l = .ok s') : s'.T_M_I_buffer = s.T_M_I_buffer := by
  induction l generalizing ransac_seeds s with
  | nil =>
    cases h
    rfl
  | cons r rest ih =>
    obtain ⟨s₁, h₁, h⟩ := bind_eq_ok.mp h
    exact (ih h).trans (processLocalizationResultInternal_buffers h₁).1

/-- In 6-DoF mode a localized handler hands over localizations whose poses are not
"not yet available" until the first whose pose will never be: each one before it goes
to OpenVINS; if there is none, all of them do. -/
theorem processInOrder_of_6dof (h6 : ctx.flags.openvinsli_use_6dof_localization = true)
    (ransac_seeds : Nat → Int) (s : OpenvinsLocalizationHandler Transformation Vector3 Vector2)
    (hloc : s.localization_state = .kLocalized)
    (l : List (LocalizationResult Transformation Vector3 Vector2))
    (hl : ∀ r ∈ l, s.T_M_I_buffer.getPoseAt ctx.interpolate r.timestamp_ns ≠ .kFailedNotYetAvailable) :
    processInOrder ctx ransac_seeds s l =
      if ∀ r ∈ l, (s.T_M_I_buffer.getPoseAt ctx.interpolate r.timestamp_ns).status ≠
          .kFailedWillNeverSucceed then
        .ok { s with openvins_measurements :=
          s.openvins_measurements ++ l.map (makeOpenvinsLocalizationData ctx) }
      else .error ⟨"result != vio_common::PoseLookupBuffer::ResultStatus::kFailedWillNeverSucceed"⟩ := by
  induction l generalizing ransac_seeds s with
  | nil =>
    simp only [List.not_mem_nil, false_implies, implies_true, if_true, List.map_nil, List.append_nil]
    rfl
  | cons r l ih =>
    rw [processInOrder, processLocalizationResultInternal_of_localized _ _ hloc]
    cases hlook : s.T_M_I_buffer.getPoseAt ctx.interpolate r.timestamp_ns with
    | ready T_M_I =>
      rw [processAsUpdate_of_ready h6 hlook]
      refine (ih _ (s.feedMeasurementLocalization (makeOpenvinsLocalizationData ctx r)) hloc
        fun r' hr' => hl r' (List.mem_cons_of_mem r hr')).trans ?_
      simp [hlook, PoseLookupResult.status, feedMeasurementLocalization]
    | kFailedNotYetAvailable => exact absurd hlook (hl r (List.mem_cons_self r l))
    | kFailedWillNeverSucceed =>
      rw [processAsUpdate_of_kFailedWillNeverSucceed hlook]
      simp [hlook, PoseLookupResult.status]
      rfl

/-- **In 6-DoF mode the drain forwards exactly what it consumes**: a call that returns
has handed OpenVINS the localizations it took off the front of the queue, each once
and in queue order. -/
theorem dealWithBufferedLocalizations_forwards_consumed
    (h6 : ctx.flags.openvinsli_use_6dof_localization = true) {ransac_seeds : Nat → Int}
    {s s' : OpenvinsLocalizationHandler Transformation Vector3 Vector2}
    {q q' : List (LocalizationResult Transformation Vector3 Vector2)}
    (hloc : s.localization_state = .kLocalized)
    (h : dealWithBufferedLocalizations ctx ransac_seeds s q = .ok (s', q')) :
    ∃ consumed, q = consumed ++ q' ∧
      s'.openvins_measurements =
        s.openvins_measurements ++ consumed.map (makeOpenvinsLocalizationData ctx) := by
  unfold dealWithBufferedLocalizations at h
  split at h
  · cases h
    exact ⟨[], rfl, by simp⟩
  · rename_i N _
    rw [drainLocalizationBuffer_eq] at h
    cases hrun : processInOrder ctx ransac_seeds s (q.takeWhile (isDue N)) with
    | error e => simp [hrun, Except.map] at h
    | ok s'' =>
      simp only [hrun, Except.map, Except.ok.injEq, Prod.mk.injEq] at h
      obtain ⟨rfl, rfl⟩ := h
      exact ⟨_, (List.takeWhile_append_dropWhile _ _).symm,
        processInOrder_openvins_measurements h6 hloc hrun⟩

/-- On the line, a localized handler with a pose at 0 ns drains the localization at
0 ns and keeps the one at 5 ns. -/
theorem dealWithBufferedLocalizations_forwards_consumed_on_line :
    ∃ s' q', dealWithBufferedLocalizations lineContext (fun _ => 0)
        { init lineContext with T_M_I_buffer := ⟨1000, 100, [(0, 1)], by decide⟩ }
        [⟨0, 1, [], []⟩, ⟨5, 1, [], []⟩] = .ok (s', q') ∧
      ∃ consumed, [⟨0, 1, [], []⟩, ⟨5, 1, [], []⟩] = consumed ++ q' ∧
        s'.openvins_measurements = consumed.map (makeOpenvinsLocalizationData lineContext) :=
  ⟨_, _, rfl, dealWithBufferedLocalizations_forwards_consumed rfl rfl
    (show dealWithBufferedLocalizations lineContext (fun _ => 0)
      { init lineContext with T_M_I_buffer := ⟨1000, 100, [(0, 1)], by decide⟩ }
      [⟨0, 1, [], []⟩, ⟨5, 1, [], []⟩] = .ok (_, _) from rfl)⟩

/-- Nothing the drain leaves is due. -/
theorem takeWhile_dropWhile_eq_nil {α : Type} (p : α → Bool) (l : List α) :
    (l.dropWhile p).takeWhile p = [] := by
  cases h : l.dropWhile p with
  | nil => rfl
  | cons a rest =>
    have ha := List.head_dropWhile_not p l (by simp [h])
    simp only [h, List.head_cons, Bool.not_eq_true] at ha
    simp [List.takeWhile_cons, ha]

/-- **A second drain does nothing**: right after a drain that returns, with no pose
written in between, draining again returns the same state and queue, whatever seeds
its random devices draw. -/
theorem dealWithBufferedLocalizations_idempotent {ransac_seeds ransac_seeds' : Nat → Int}
    {s s' : OpenvinsLocalizationHandler Transformation Vector3 Vector2}
    {q q' : List (LocalizationResult Transformation Vector3 Vector2)}
    (h : dealWithBufferedLocalizations ctx ransac_seeds s q = .ok (s', q')) :
    dealWithBufferedLocalizations ctx ransac_seeds' s' q' = .ok (s', q') := by
  unfold dealWithBufferedLocalizations
  rcases dealWithBufferedLocalizations_ok h with ⟨hN, rfl, rfl⟩ | ⟨N, hN, hrun, rfl⟩
  · rw [hN]
    rfl
  · rw [processInOrder_T_M_I_buffer hrun, hN]
    dsimp only
    rw [drainLocalizationBuffer_eq, takeWhile_dropWhile_eq_nil, List.dropWhile_idempotent]
    rfl

/-- On the line, a drain forwards the localization at 0 ns and keeps the one at 5 ns;
draining again changes nothing. -/
theorem dealWithBufferedLocalizations_idempotent_on_line :
    ∃ s' q', dealWithBufferedLocalizations lineContext (fun _ => 0)
        { init lineContext with T_M_I_buffer := ⟨1000, 100, [(0, 1)], by decide⟩ }
        [⟨0, 1, [], []⟩, ⟨5, 1, [], []⟩] = .ok (s', q') ∧
      dealWithBufferedLocalizations lineContext (fun _ => 1) s' q' = .ok (s', q') := by
  obtain ⟨⟨s', q'⟩, h⟩ : ∃ sq, dealWithBufferedLocalizations lineContext (fun _ => 0)
      { init lineContext with T_M_I_buffer := ⟨1000, 100, [(0, 1)], by decide⟩ }
      [⟨0, 1, [], []⟩, ⟨5, 1, [], []⟩] = .ok sq := ⟨_, by rfl⟩
  exact ⟨s', q', h, dealWithBufferedLocalizations_idempotent h⟩

/-! ### A queue in time order -/

omit [Group Transformation] [MulAction Transformation Vector3] [Sub Vector2] in
/-- In a queue in time order, the due localizations are a prefix: the loop's `return`
at the first newer one leaves none behind. -/
theorem takeWhile_isDue_of_sorted (N : Int) {q : List (LocalizationResult Transformation Vector3 Vector2)}
    (hsorted : q.Pairwise fun a b => a.timestamp_ns ≤ b.timestamp_ns) :
    q.takeWhile (isDue N) = q.filter (isDue N) ∧ q.dropWhile (isDue N) = q.filter (!isDue N ·) := by
  induction q with
  | nil => exact ⟨rfl, rfl⟩
  | cons r rest ih =>
    obtain ⟨hle, hrest⟩ := List.pairwise_cons.mp hsorted
    by_cases hr : isDue N r = true
    · simp only [List.takeWhile_cons_of_pos hr, List.dropWhile_cons_of_pos hr, List.filter_cons, hr,
        ↓reduceIte, Bool.not_true, Bool.false_eq_true, ih hrest, and_self]
    · have hlater : ∀ b ∈ rest, isDue N b = false := fun b hb => by
        simp only [isDue, decide_eq_true_eq, not_le, decide_eq_false_iff_not] at hr ⊢
        exact lt_of_lt_of_le hr (hle b hb)
      simp only [List.takeWhile_cons_of_neg hr, List.dropWhile_cons_of_neg hr, List.filter_cons, hr,
        ↓reduceIte, Bool.not_false]
      rw [List.filter_eq_nil_iff.mpr fun b hb => by simp [hlater b hb],
        List.filter_eq_self.mpr fun b hb => by simp [hlater b hb]]
      exact ⟨rfl, rfl⟩

/-- **A drain of a queue in time order misses nothing**: with `N` the newest pose's
timestamp, it processes every localization not newer than `N`, in order, and keeps
exactly the newer ones. -/
theorem dealWithBufferedLocalizations_of_sorted {ransac_seeds : Nat → Int}
    {s s' : OpenvinsLocalizationHandler Transformation Vector3 Vector2}
    {q q' : List (LocalizationResult Transformation Vector3 Vector2)}
    (hsorted : q.Pairwise fun a b => a.timestamp_ns ≤ b.timestamp_ns)
    (h : dealWithBufferedLocalizations ctx ransac_seeds s q = .ok (s', q')) :
    (s.T_M_I_buffer.getNewestTimestampOfAvailablePose = none ∧ s' = s ∧ q' = q) ∨
      ∃ N, s.T_M_I_buffer.getNewestTimestampOfAvailablePose = some N ∧
        processInOrder ctx ransac_seeds s (q.filter (isDue N)) = .ok s' ∧
        q' = q.filter fun r => r.timestamp_ns > N := by
  rcases dealWithBufferedLocalizations_ok h with hnone | ⟨N, hN, hrun, rfl⟩
  · exact .inl hnone
  · obtain ⟨htake, hdrop⟩ := takeWhile_isDue_of_sorted N hsorted
    refine .inr ⟨N, hN, htake ▸ hrun, hdrop.trans (List.filter_congr fun r _ => ?_)⟩
    simp only [isDue, ← decide_not, not_le, gt_iff_lt]

/-- On the line, the time-ordered queue at 0, 5 and 9 ns is drained against a pose at
5 ns: the localizations at 0 and 5 ns are processed and the one at 9 ns is kept. -/
theorem dealWithBufferedLocalizations_of_sorted_on_line :
    ∃ s' q', dealWithBufferedLocalizations lineContext (fun _ => 0)
        { init lineContext with T_M_I_buffer := ⟨1000, 100, [(0, 1), (5, 1)], by decide⟩ }
        [⟨0, 1, [], []⟩, ⟨5, 1, [], []⟩, ⟨9, 1, [], []⟩] = .ok (s', q') ∧
      q' = [⟨9, 1, [], []⟩] := by
  obtain ⟨s', q', h⟩ : ∃ s' q', dealWithBufferedLocalizations lineContext (fun _ => 0)
      { init lineContext with T_M_I_buffer := ⟨1000, 100, [(0, 1), (5, 1)], by decide⟩ }
      [⟨0, 1, [], []⟩, ⟨5, 1, [], []⟩, ⟨9, 1, [], []⟩] = .ok (s', q') := ⟨_, _, by rfl⟩
  refine ⟨s', q', h, ?_⟩
  rcases dealWithBufferedLocalizations_of_sorted (by decide) h with ⟨hnone, -⟩ | ⟨N, hN, -, rfl⟩
  · cases hnone
  · cases hN
    rfl

omit [Group Transformation] [MulAction Transformation Vector3] [Sub Vector2] in
/-- A due localization's pose is never "not yet available". -/
theorem getPoseAt_ne_kFailedNotYetAvailable_of_isDue
    (interpolate : Transformation → Transformation → ℚ → Transformation)
    {b : PoseLookupBuffer Transformation} {N : Int}
    (hN : b.getNewestTimestampOfAvailablePose = some N)
    {r : LocalizationResult Transformation Vector3 Vector2} (hr : isDue N r = true) :
    b.getPoseAt interpolate r.timestamp_ns ≠ .kFailedNotYetAvailable := by
  rw [Ne, PoseLookupBuffer.getPoseAt_eq_kFailedNotYetAvailable_iff, hN]
  simp only [Option.mem_def, Option.some.injEq, forall_eq', not_lt]
  exact of_decide_eq_true hr

/-- **The drain in 6-DoF mode.**  With `N` the newest pose's timestamp, a localized
handler's drain fails exactly when a localization of the due prefix will never have its
pose (it is older than every retained pose, or falls in a gap wider than the buffer
interpolates over), and then on that timing `CHECK`; otherwise it hands OpenVINS the
whole due prefix, in order, and keeps the rest of the queue. -/
theorem dealWithBufferedLocalizations_of_6dof (h6 : ctx.flags.openvinsli_use_6dof_localization = true)
    (ransac_seeds : Nat → Int) {s : OpenvinsLocalizationHandler Transformation Vector3 Vector2}
    {q : List (LocalizationResult Transformation Vector3 Vector2)} {N : Int}
    (hloc : s.localization_state = .kLocalized)
    (hN : s.T_M_I_buffer.getNewestTimestampOfAvailablePose = some N) :
    dealWithBufferedLocalizations ctx ransac_seeds s q =
      if ∀ r ∈ q.takeWhile (isDue N), (s.T_M_I_buffer.getPoseAt ctx.interpolate r.timestamp_ns).status ≠
          .kFailedWillNeverSucceed then
        .ok ({ s with openvins_measurements :=
            s.openvins_measurements ++ (q.takeWhile (isDue N)).map (makeOpenvinsLocalizationData ctx) },
          q.dropWhile (isDue N))
      else .error ⟨"result != vio_common::PoseLookupBuffer::ResultStatus::kFailedWillNeverSucceed"⟩ := by
  simp only [dealWithBufferedLocalizations, hN]
  rw [drainLocalizationBuffer_eq, processInOrder_of_6dof h6 _ s hloc _ fun r hr =>
    getPoseAt_ne_kFailedNotYetAvailable_of_isDue _ hN (List.mem_takeWhile_imp hr)]
  split_ifs <;> rfl

/-- On the line in 6-DoF mode, with poses at 100 ns and 200 ns, the localization at
150 ns is interpolated and forwarded, and the one at 300 ns waits. -/
theorem dealWithBufferedLocalizations_of_6dof_on_line :
    dealWithBufferedLocalizations lineContext (fun _ => 0)
        { init lineContext with T_M_I_buffer := ⟨1000, 100, [(100, 1), (200, 1)], by decide⟩ }
        [⟨150, 1, [], []⟩, ⟨300, 1, [], []⟩] =
      .ok ({ init lineContext with
          T_M_I_buffer := ⟨1000, 100, [(100, 1), (200, 1)], by decide⟩
          openvins_measurements := [makeOpenvinsLocalizationData lineContext ⟨150, 1, [], []⟩] },
        [⟨300, 1, [], []⟩]) := by
  have hN : (⟨1000, 100, [(100, 1), (200, 1)], by decide⟩ :
      PoseLookupBuffer (Multiplicative ℤ)).getNewestTimestampOfAvailablePose = some 200 := rfl
  rw [dealWithBufferedLocalizations_of_6dof rfl _ rfl hN, if_pos (by with_unfolding_all decide)]
  rfl
end Openvinsli
