/-
OpenvinsLocalization/Common.lean

The pieces of glog and maplab-common that the localization handler is built on.

* glog's `CHECK` family aborts the process.  A computation that may abort is an
  `Except CheckFailed`, and the error carries the text of the condition that
  failed, as glog prints it.
* maplab-common's `FixedSizeQueue` and `BidirectionalMap` are not under src/.
  They are modelled from the spec: the queue is the "ordered, size-bounded
  collection" of the spec's CandidateAlignmentBuffer, and the map is the
  "two-way lookup table" between maplab and OpenVINS camera indices, "absence
  meaning inactive camera".

The one fact the handler needs of the queue is `FixedSizeQueue.insert_buffer`:
after an insertion the queue holds the last `capacity` items ever inserted, in
order.
-/
import Mathlib.Data.List.DropRight

namespace Openvinsli

/-! ### glog checks -/

/-- A failed glog `CHECK`: the process aborts and prints the condition. -/
structure CheckFailed where
  condition : String
  deriving DecidableEq, Repr

/-- glog's `CHECK(condition)`, with the condition's source text. -/
def check (condition : Prop) [Decidable condition] (text : String) :
    Except CheckFailed Unit :=
  if condition then pure () else throw ⟨text⟩

@[simp] theorem check_of_pos {c : Prop} [Decidable c] (h : c) (text : String) :
    check c text = pure () := if_pos h

@[simp] theorem check_of_neg {c : Prop} [Decidable c] (h : ¬ c) (text : String) :
    check c text = throw ⟨text⟩ := if_neg h

theorem check_eq_error {c : Prop} [Decidable c] {text : String} {e : CheckFailed}
    (h : check c text = .error e) : ¬ c ∧ e = ⟨text⟩ := by
  by_cases hc : c
  · simp [hc, pure, Except.pure] at h
  · simp only [check_of_neg hc, throw, throwThe, MonadExceptOf.throw, Except.error.injEq] at h
    exact ⟨hc, h.symm⟩

theorem check_eq_ok {c : Prop} [Decidable c] {text : String} {u : Unit}
    (h : check c text = .ok u) : c := by
  by_contra hc
  simp [hc, throw, throwThe, MonadExceptOf.throw] at h

@[simp] theorem ok_bind {ε α β : Type} (a : α) (f : α → Except ε β) :
    (Except.ok a >>= f) = f a :=
  rfl

theorem bind_eq_ok {ε α β : Type} {x : Except ε α} {f : α → Except ε β} {b : β} :
    x >>= f = .ok b ↔ ∃ a, x = .ok a ∧ f a = .ok b := by
  cases x <;> simp [bind, Except.bind]

theorem bind_eq_error {ε α β : Type} {x : Except ε α} {f : α → Except ε β} {e : ε} :
    x >>= f = .error e ↔ x = .error e ∨ ∃ a, x = .ok a ∧ f a = .error e := by
  cases x <;> simp [bind, Except.bind]

/-- Every failure of `x` satisfies `P`: the checks `x` may fail are among those `P`
allows. -/
def FailsOnly {ε α : Type} (P : ε → Prop) (x : Except ε α) : Prop :=
  ∀ e, x = .error e → P e

namespace FailsOnly

variable {ε α β : Type} {P : ε → Prop}

theorem pure (a : α) : FailsOnly P (pure a : Except ε α) := by
  intro e h; cases h

theorem bind {x : Except ε α} {f : α → Except ε β} (hx : FailsOnly P x)
    (hf : ∀ a, x = .ok a → FailsOnly P (f a)) : FailsOnly P (x >>= f) := by
  intro e h
  rcases bind_eq_error.mp h with h | ⟨a, ha, h⟩
  · exact hx e h
  · exact hf a ha e h

theorem check_of_pos {c : Prop} [Decidable c] {text : String} {P : CheckFailed → Prop}
    (h : c) : FailsOnly P (Openvinsli.check c text) := by
  rw [Openvinsli.check_of_pos h]
  exact FailsOnly.pure ()

theorem check_of_text {c : Prop} [Decidable c] {text : String} {P : CheckFailed → Prop}
    (h : P ⟨text⟩) : FailsOnly P (Openvinsli.check c text) := by
  intro e he
  obtain ⟨-, rfl⟩ := check_eq_error he
  exact h

/-- A check fails only with its own text, and only when its condition is false. -/
theorem check {c : Prop} [Decidable c] {text : String} {P : CheckFailed → Prop}
    (h : ¬ c → P ⟨text⟩) : FailsOnly P (Openvinsli.check c text) := by
  by_cases hc : c
  · exact check_of_pos hc
  · exact check_of_text (h hc)

theorem mono {Q : ε → Prop} {x : Except ε α} (hx : FailsOnly P x) (hPQ : ∀ e, P e → Q e) :
    FailsOnly Q x :=
  fun e he => hPQ e (hx e he)

end FailsOnly

/-! ### FixedSizeQueue -/

/-- Modelled from the spec: maplab-common's `FixedSizeQueue` is not under src/.
An ordered collection of at most `capacity` items, oldest first. -/
structure FixedSizeQueue (α : Type) where
  capacity : Nat
  buffer : List α
  length_le : buffer.length ≤ capacity

namespace FixedSizeQueue

variable {α : Type}

/-- The empty queue of a given capacity. -/
def empty (capacity : Nat) : FixedSizeQueue α := ⟨capacity, [], Nat.zero_le _⟩

/-- `size()`: the number of items held. -/
def size (q : FixedSizeQueue α) : Nat := q.buffer.length

/-- Modelled from the spec: `insert(item)` appends `item`, first dropping the oldest
item when the queue is full. -/
def insert (q : FixedSizeQueue α) (item : α) : FixedSizeQueue α :=
  if h : q.buffer.length < q.capacity then
    ⟨q.capacity, q.buffer ++ [item], by simp; omega⟩
  else
    ⟨q.capacity, (q.buffer ++ [item]).tail, by simp; have := q.length_le; omega⟩

@[simp] theorem empty_buffer (capacity : Nat) : (empty capacity : FixedSizeQueue α).buffer = [] :=
  rfl

@[simp] theorem insert_capacity (q : FixedSizeQueue α) (item : α) :
    (q.insert item).capacity = q.capacity := by
  unfold insert; split <;> rfl

/-- The queue holds the last `capacity` items of its contents followed by `item`. -/
theorem insert_buffer (q : FixedSizeQueue α) (item : α) :
    (q.insert item).buffer = (q.buffer ++ [item]).rtake q.capacity := by
  have hle := q.length_le
  unfold insert List.rtake
  split
  · have : (q.buffer ++ [item]).length - q.capacity = 0 := by simp; omega
    rw [this, List.drop_zero]
  · have : (q.buffer ++ [item]).length - q.capacity = 1 := by simp; omega
    rw [this, List.drop_one]

/-- Taking the last `n` items forgets nothing the next `rtake n` keeps. -/
theorem rtake_append_rtake (l : List α) (x : α) (n : Nat) :
    (l.rtake n ++ [x]).rtake n = (l ++ [x]).rtake n := by
  cases n with
  | zero => simp
  | succ n =>
    rw [List.rtake_concat_succ, List.rtake_concat_succ]
    simp only [List.rtake_eq_reverse_take_reverse, List.reverse_reverse, List.take_take,
      Nat.min_eq_left (Nat.le_succ n)]

/-- **A run of insertions.**  A queue that holds the last `capacity` items of `l`
holds, after inserting `item`, the last `capacity` items of `l ++ [item]`. -/
theorem insert_buffer_rtake (q : FixedSizeQueue α) (l : List α) (item : α)
    (h : q.buffer = l.rtake q.capacity) :
    (q.insert item).buffer = (l ++ [item]).rtake q.capacity := by
  rw [insert_buffer, h, rtake_append_rtake]

theorem size_insert_of_le (q : FixedSizeQueue α) (item : α) (h : q.capacity ≤ q.size + 1) :
    (q.insert item).size = q.capacity := by
  have hle := q.length_le
  simp only [size, insert_buffer, List.rtake, List.length_drop, List.length_append,
    List.length_singleton] at h ⊢
  omega

end FixedSizeQueue

/-! ### BidirectionalMap -/

/-- Modelled from the spec: maplab-common's `BidirectionalMap` is not under src/.
A two-way lookup table between maplab (left) and OpenVINS (right) camera indices. -/
structure BidirectionalMap where
  pairs : List (Nat × Nat)
  left_nodup : (pairs.map Prod.fst).Nodup
  right_nodup : (pairs.map Prod.snd).Nodup

/-- `getRight(left)`: the OpenVINS index of a maplab camera; `none` is the null
pointer of a camera inactive in OpenVINS. -/
def BidirectionalMap.getRight (m : BidirectionalMap) (left : Nat) : Option Nat :=
  (m.pairs.find? fun p => p.1 == left).map Prod.snd

end Openvinsli
