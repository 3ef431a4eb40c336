/-
OpenvinsLocalization/PoseLookupBuffer.lean

The handler's `T_M_I_buffer_`, a vio-common `PoseLookupBuffer`.  Its code is not
under src/, so it is modelled from the spec's Pose History Buffer (§4.1): samples of
`T_M_I` with strictly increasing timestamps, and a query that answers

* `kFailedNotYetAvailable` (NotYetAvailable) when nothing is buffered or the query
  is newer than the newest sample;
* `kFailedWillNeverSucceed` (NeverAvailable) when the query is older than the oldest
  retained sample, or the two samples around it are further apart than the
  maximum propagation span;
* `ready` with the sample at the query's time, or the interpolation between the two
  samples around it, otherwise.

The handler only ever asks which of the three the answer is, so the main results
here are the contract lemmas `getPoseAt_eq_kFailedNotYetAvailable_iff` and
`getPoseAt_of_lt_oldest`, and `exists_getPoseAt_eq`: every answer is the answer of
some buffer, so a statement over every buffer state is one over every answer.
-/
import OpenvinsLocalization.Types

namespace Openvinsli

/-- `vio_common::PoseLookupBuffer::ResultStatus`: the spec's Ready, NotYetAvailable
and NeverAvailable. -/
inductive ResultStatus
  | kSuccess
  | kFailedNotYetAvailable
  | kFailedWillNeverSucceed
  deriving DecidableEq, Repr

/-- What `getPoseAt` answers: its status, with the pose it writes to its
out-parameter on success. -/
inductive PoseLookupResult (Transformation : Type)
  | ready (T_M_I : Transformation)
  | kFailedNotYetAvailable
  | kFailedWillNeverSucceed
  deriving DecidableEq, Repr

/-- The status of an answer. -/
def PoseLookupResult.status {Transformation : Type} :
    PoseLookupResult Transformation → ResultStatus
  | .ready _ => .kSuccess
  | .kFailedNotYetAvailable => .kFailedNotYetAvailable
  | .kFailedWillNeverSucceed => .kFailedWillNeverSucceed

@[simp] theorem PoseLookupResult.status_eq_kFailedNotYetAvailable {Transformation : Type}
    (a : PoseLookupResult Transformation) :
    a.status = .kFailedNotYetAvailable ↔ a = .kFailedNotYetAvailable := by
  cases a <;> simp [status]

@[simp] theorem PoseLookupResult.status_eq_kFailedWillNeverSucceed {Transformation : Type}
    (a : PoseLookupResult Transformation) :
    a.status = .kFailedWillNeverSucceed ↔ a = .kFailedWillNeverSucceed := by
  cases a <;> simp [status]

/-- Modelled from the spec: vio-common's `PoseLookupBuffer` is not under src/.
The retained samples of `T_M_I`, oldest first, with strictly increasing
timestamps. -/
structure PoseLookupBuffer (Transformation : Type) where
  buffer_length_ns : Nat
  max_propagation_ns : Nat
  samples : List (Int × Transformation)
  sorted : samples.Pairwise fun a b => a.1 < b.1

namespace PoseLookupBuffer

variable {Transformation : Type}

/-- The buffer the handler's constructor builds: nothing buffered yet. -/
def empty (buffer_length_ns max_propagation_ns : Nat) : PoseLookupBuffer Transformation :=
  ⟨buffer_length_ns, max_propagation_ns, [], List.Pairwise.nil⟩

/-- Modelled from the spec: `getNewestTimestampOfAvailablePose`, `none` when it
returns false. -/
def getNewestTimestampOfAvailablePose (b : PoseLookupBuffer Transformation) : Option Int :=
  b.samples.getLast?.map Prod.fst

/-- Modelled from the spec: the answer between the oldest and the newest sample,
found by walking the consecutive pairs of samples to the first one that brackets
`t`. -/
def interpolateBetween (interpolate : Transformation → Transformation → ℚ → Transformation)
    (max_propagation_ns : Nat) (t : Int) : List (Int × Transformation) →
    PoseLookupResult Transformation
  | [] => .kFailedWillNeverSucceed
  | [s] => if t = s.1 then .ready s.2 else .kFailedWillNeverSucceed
  | s :: s' :: rest =>
    if t = s.1 then .ready s.2
    else if t < s'.1 then
      if (max_propagation_ns : Int) < s'.1 - s.1 then .kFailedWillNeverSucceed
      else .ready (interpolate s.2 s'.2 ((t - s.1 : Int) / (s'.1 - s.1 : Int)))
    else interpolateBetween interpolate max_propagation_ns t (s' :: rest)

/-- Modelled from the spec: `getPoseAt(timestamp_ns, &T_M_I)`. -/
def getPoseAt (interpolate : Transformation → Transformation → ℚ → Transformation)
    (b : PoseLookupBuffer Transformation) (t : Int) : PoseLookupResult Transformation :=
  match b.samples with
  | [] => .kFailedNotYetAvailable
  | oldest :: rest =>
    if ((oldest :: rest).getLast (List.cons_ne_nil _ _)).1 < t then .kFailedNotYetAvailable
    else if t < oldest.1 then .kFailedWillNeverSucceed
    else interpolateBetween interpolate b.max_propagation_ns t (oldest :: rest)

variable (interpolate : Transformation → Transformation → ℚ → Transformation)

/-! ### The query's contract -/

theorem interpolateBetween_ne_kFailedNotYetAvailable (max : Nat) (t : Int)
    (l : List (Int × Transformation)) :
    interpolateBetween interpolate max t l ≠ .kFailedNotYetAvailable := by
  induction l using interpolateBetween.induct interpolate max t with
  | case7 s s' rest h hlt ih => rwa [interpolateBetween, if_neg h, if_neg hlt]
  | _ => simp [interpolateBetween, *]

/-- The oldest sample is not newer than the newest one. -/
theorem head_le_getLast (b : PoseLookupBuffer Transformation) {oldest : Int × Transformation}
    {rest : List (Int × Transformation)} (h : b.samples = oldest :: rest) :
    oldest.1 ≤ ((oldest :: rest).getLast (List.cons_ne_nil _ _)).1 := by
  have hs := b.sorted
  rw [h, List.pairwise_cons] at hs
  rcases List.mem_cons.mp (List.getLast_mem (List.cons_ne_nil oldest rest)) with he | he
  · rw [he]
  · exact (hs.1 _ he).le

/-- **NotYetAvailable is exactly "newer than the newest sample"** (or nothing
buffered yet). -/
theorem getPoseAt_eq_kFailedNotYetAvailable_iff (b : PoseLookupBuffer Transformation) (t : Int) :
    b.getPoseAt interpolate t = .kFailedNotYetAvailable ↔
      ∀ newest ∈ b.getNewestTimestampOfAvailablePose, newest < t := by
  unfold getPoseAt getNewestTimestampOfAvailablePose
  cases b.samples with
  | nil => simp
  | cons oldest rest =>
    simp only [List.getLast?_eq_getLast (oldest :: rest) (List.cons_ne_nil _ _), Option.map_some',
      Option.mem_def, Option.some.injEq, forall_eq']
    split_ifs with h₁ <;> simp [h₁, interpolateBetween_ne_kFailedNotYetAvailable]

/-- **NeverAvailable below the oldest sample**: a query older than every retained
sample can never succeed. -/
theorem getPoseAt_of_lt_oldest (b : PoseLookupBuffer Transformation) {t : Int}
    {oldest : Int × Transformation} {rest : List (Int × Transformation)}
    (h : b.samples = oldest :: rest) (ht : t < oldest.1) :
    b.getPoseAt interpolate t = .kFailedWillNeverSucceed := by
  have hle := head_le_getLast b h
  unfold getPoseAt
  simp only [h]
  rw [if_neg (by omega), if_pos ht]

/-- Every answer is the answer of some buffer: a single sample at the query's time,
none, or a single sample after it. -/
theorem exists_getPoseAt_eq [Inhabited Transformation] (L M : Nat) (t : Int)
    (a : PoseLookupResult Transformation) :
    ∃ b : PoseLookupBuffer Transformation, b.buffer_length_ns = L ∧
      b.max_propagation_ns = M ∧ b.getPoseAt interpolate t = a := by
  cases a with
  | ready T => exact ⟨⟨L, M, [(t, T)], by simp⟩, rfl, rfl, by simp [getPoseAt, interpolateBetween]⟩
  | kFailedNotYetAvailable => exact ⟨⟨L, M, [], by simp⟩, rfl, rfl, rfl⟩
  | kFailedWillNeverSucceed =>
    exact ⟨⟨L, M, [(t + 1, default)], by simp⟩, rfl, rfl, by simp [getPoseAt]⟩

end PoseLookupBuffer

end Openvinsli
