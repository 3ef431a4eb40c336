/-
OpenvinsLocalization/System.lean

The handler among the threads around it.  Other threads write `T_M_I_buffer_` and
`T_G_M_filter_buffer_`, localizations arrive at `processLocalizationResult`, and
`dealWithBufferedLocalizations` drains `localization_buffer_`, holding the queue's
mutex only to pop: a `World` is the handler, its queue and the drain in progress, and
an `Event` a write, an arrival, the drain's entry or one pass of its loop.  `runEvents`
runs an interleaving until a `CHECK` fails.

Alone, a drain computes `dealWithBufferedLocalizations` (`runEvents_drain_eq`); with
anything in between it still ends (`runEvents_drain_ends`).  Each pass is one `Call`
of `StateMachine` with the buffers of its moment (`callsOf`), so the run invariant
carries over (`runEvents_spec`).  OpenVINS receives, in 6-DoF mode, a shuffle of the
arrivals and the drained localizations (`runEvents_openvins_measurements_of_6dof`),
otherwise the arrivals only; the warning log only grows
(`runEvents_reprojection_warnings`).  Only a drain pass aborts, in `processAsUpdate`
(`runEvents_eq_error_of_6dof`, `runEvents_eq_error_of_wellFormed`), and the
not-yet-available check only after a pose write moved the newest pose back
(`runEvents_eq_error_of_poses_keep_newest`).

In this revision the buffering of `processLocalizationResult` is commented out: from an
empty queue the state machine never moves and OpenVINS receives exactly the arrivals
(`runEvents_of_empty_queue`), so at every reachable moment the drain dispatches nothing
(`dealWithBufferedLocalizations_of_reachable`).
-/
import OpenvinsLocalization.StateMachine
import OpenvinsLocalization.Gate

namespace Openvinsli

open OpenvinsLocalizationHandler

variable {Transformation Vector3 Vector2 : Type}
variable [Group Transformation] [MulAction Transformation Vector3] [Sub Vector2]

/-! ### Every interleaving -/

/-- The handler, its queue `localization_buffer_`, and the drain in progress, if any: the
newest pose timestamp it read on entry, and the seeds of the random devices of its next
dispatches. -/
structure World (Transformation Vector3 Vector2 : Type) where
  handler : OpenvinsLocalizationHandler Transformation Vector3 Vector2
  localization_buffer : List (LocalizationResult Transformation Vector3 Vector2)
  drain : Option (Int × (Nat → Int))

/-- What happens to the handler: another thread writes one of the two buffers it reads, a
localization arrives at `processLocalizationResult`, `dealWithBufferedLocalizations` is
entered, with the seeds its random devices will yield, or its loop makes one pass. -/
inductive Event (Transformation Vector3 Vector2 : Type) where
  | writeTMIBuffer (T_M_I_buffer : PoseLookupBuffer Transformation)
  | writeTGMFilterBuffer (T_G_M_filter_buffer : FixedSizeQueue Transformation)
  | processLocalizationResult
      (localization_result : LocalizationResult Transformation Vector3 Vector2)
  | dealWithBufferedLocalizations (ransac_seeds : Nat → Int)
  | drainStep

variable (ctx : Context Transformation Vector3 Vector2)

/-- An event on the world.  The drain's entry returns at once without a pose; a pass of
its loop returns at an empty queue or at a localization newer than the timestamp read
on entry, and otherwise pops the front localization and processes it with the next
seed. -/
def Event.run (w : World Transformation Vector3 Vector2) :
    Event Transformation Vector3 Vector2 → Except CheckFailed (World Transformation Vector3 Vector2)
  | .writeTMIBuffer T_M_I_buffer =>
    pure { w with handler := { w.handler with T_M_I_buffer := T_M_I_buffer } }
  | .writeTGMFilterBuffer T_G_M_filter_buffer =>
    pure { w with handler := { w.handler with T_G_M_filter_buffer := T_G_M_filter_buffer } }
  | .processLocalizationResult localization_result =>
    pure { w with handler :=
      OpenvinsLocalizationHandler.processLocalizationResult ctx w.handler localization_result }
  | .dealWithBufferedLocalizations ransac_seeds =>
    match w.drain, w.handler.T_M_I_buffer.getNewestTimestampOfAvailablePose with
    | none, some newest_TMI_timestamp_ns =>
      pure { w with drain := some (newest_TMI_timestamp_ns, ransac_seeds) }
    | _, _ => pure w
  | .drainStep =>
    match w.drain, w.localization_buffer with
    | some (newest_TMI_timestamp_ns, ransac_seeds), localization_result :: rest =>
      if localization_result.timestamp_ns > newest_TMI_timestamp_ns then
        pure { w with drain := none }
      else do
        let s ← processLocalizationResultInternal ctx (ransac_seeds 0) w.handler localization_result
        pure ⟨s, rest, some (newest_TMI_timestamp_ns, fun k => ransac_seeds (k + 1))⟩
    | some _, [] => pure { w with drain := none }
    | none, _ => pure w

/-- An interleaving of events, run until a `CHECK` fails. -/
def runEvents (w : World Transformation Vector3 Vector2)
    (evs : List (Event Transformation Vector3 Vector2)) :
    Except CheckFailed (World Transformation Vector3 Vector2) :=
  evs.foldlM (Event.run ctx) w

/-- The localization an event hands to `processLocalizationResult`, if any. -/
def Event.arrival : Event Transformation Vector3 Vector2 →
    Option (LocalizationResult Transformation Vector3 Vector2)
  | .processLocalizationResult localization_result => some localization_result
  | _ => none

/-- The call of `processLocalizationResultInternal` an event makes: a pass of a drain on a
due front localization, with the buffers of that moment and the drain's next seed. -/
def Event.call (w : World Transformation Vector3 Vector2) :
    Event Transformation Vector3 Vector2 → Option (Call Transformation Vector3 Vector2)
  | .drainStep =>
    match w.drain, w.localization_buffer with
    | some (newest_TMI_timestamp_ns, ransac_seeds), localization_result :: _ =>
      if localization_result.timestamp_ns > newest_TMI_timestamp_ns then none
      else some ⟨w.handler.T_M_I_buffer, w.handler.T_G_M_filter_buffer, localization_result,
        ransac_seeds 0⟩
    | _, _ => none
  | _ => none

/-- The calls an interleaving makes, event by event, until a `CHECK` fails. -/
def callsOf (w : World Transformation Vector3 Vector2) :
    List (Event Transformation Vector3 Vector2) → List (Call Transformation Vector3 Vector2)
  | [] => []
  | e :: evs =>
    match e.run ctx w with
    | .ok w₁ => (e.call w).toList ++ callsOf w₁ evs
    | .error _ => []

omit [Group Transformation] [MulAction Transformation Vector3] [Sub Vector2] in
theorem filterMap_arrival_cons (e : Event Transformation Vector3 Vector2)
    (evs : List (Event Transformation Vector3 Vector2)) :
    (e :: evs).filterMap Event.arrival = e.arrival.toList ++ evs.filterMap Event.arrival := by
  rw [List.filterMap_cons]
  cases e.arrival <;> rfl

variable {ctx}

/-- A run one event longer is that event, then the shorter run. -/
theorem runEvents_cons {w w' : World Transformation Vector3 Vector2}
    {e : Event Transformation Vector3 Vector2} {evs : List (Event Transformation Vector3 Vector2)} :
    runEvents ctx w (e :: evs) = .ok w' ↔
      ∃ w₁, e.run ctx w = .ok w₁ ∧ runEvents ctx w₁ evs = .ok w' := by
  rw [runEvents, List.foldlM_cons, bind_eq_ok]
  rfl

/-- **The two kinds of event**: a pass of the drain that pops the front localization, due
by the timestamp read on entry, and makes its call; or an event that makes no call,
leaves the queue and the state machine's fields alone and feeds OpenVINS the
localization that arrives, if any. -/
theorem Event.run_eq_ok {w w' : World Transformation Vector3 Vector2}
    {e : Event Transformation Vector3 Vector2} (h : e.run ctx w = .ok w') :
    (∃ N ransac_seeds r, e = .drainStep ∧ w.drain = some (N, ransac_seeds) ∧
      w.localization_buffer = r :: w'.localization_buffer ∧ r.timestamp_ns ≤ N ∧
      e.call w = some ⟨w.handler.T_M_I_buffer, w.handler.T_G_M_filter_buffer, r, ransac_seeds 0⟩ ∧
      processLocalizationResultInternal ctx (ransac_seeds 0) w.handler r = .ok w'.handler) ∨
    (e.call w = none ∧ w'.localization_buffer = w.localization_buffer ∧
      w'.handler.localization_state = w.handler.localization_state ∧
      w'.handler.T_G_M_loc_buffer = w.handler.T_G_M_loc_buffer ∧
      w'.handler.reprojection_warnings = w.handler.reprojection_warnings ∧
      w'.handler.openvins_measurements =
        w.handler.openvins_measurements ++ e.arrival.toList.map (makeOpenvinsLocalizationData ctx)) := by
  cases e with
  | processLocalizationResult r =>
    cases h
    exact .inr ⟨rfl, rfl, rfl, rfl, rfl, rfl⟩
  | dealWithBufferedLocalizations ransac_seeds =>
    simp only [Event.run] at h
    split at h <;> cases h <;> exact .inr ⟨rfl, rfl, rfl, rfl, rfl, by simp [Event.arrival]⟩
  | drainStep =>
    simp only [Event.run] at h
    split at h
    · rename_i N ransac_seeds r rest hd hq
      split at h <;> rename_i hr
      · cases h
        exact .inr ⟨by simp [Event.call, hd, hq, hr], rfl, rfl, rfl, rfl, by simp [Event.arrival]⟩
      · obtain ⟨s, hs, h⟩ := bind_eq_ok.mp h
        cases h
        exact .inl ⟨N, ransac_seeds, r, rfl, hd, hq, not_lt.mp hr, by simp [Event.call, hd, hq, hr], hs⟩
    all_goals cases h; exact .inr ⟨by simp [Event.call, *], rfl, rfl, rfl, rfl, by simp [Event.arrival]⟩
  | _ =>
    cases h
    exact .inr ⟨rfl, rfl, rfl, rfl, rfl, by simp [Event.arrival]⟩

/-! ### A drain with nothing in between -/

/-- Passes with no drain in progress change nothing. -/
theorem runEvents_replicate_drainStep_of_none {w : World Transformation Vector3 Vector2}
    (hd : w.drain = none) (n : Nat) : runEvents ctx w (List.replicate n .drainStep) = .ok w := by
  induction n with
  | zero => rfl
  | succ n ih =>
    rw [List.replicate_succ, runEvents, List.foldlM_cons]
    simp only [Event.run, hd]
    exact ih

/-- Enough passes of a drain in progress, with nothing in between, run its loop
`drainLocalizationBuffer` to the end. -/
theorem runEvents_replicate_drainStep (N : Int) (ransac_seeds : Nat → Int)
    (s : OpenvinsLocalizationHandler Transformation Vector3 Vector2)
    (q : List (LocalizationResult Transformation Vector3 Vector2)) (n : Nat) (hn : q.length < n) :
    runEvents ctx ⟨s, q, some (N, ransac_seeds)⟩ (List.replicate n .drainStep) =
      (drainLocalizationBuffer ctx N ransac_seeds s q).map fun p => ⟨p.1, p.2, none⟩ := by
  obtain ⟨n, rfl⟩ : ∃ m, n = m + 1 := ⟨n - 1, by omega⟩
  rw [List.replicate_succ, runEvents, List.foldlM_cons]
  induction q generalizing s ransac_seeds n with
  | nil => exact runEvents_replicate_drainStep_of_none rfl n
  | cons r rest ih =>
    simp only [Event.run, drainLocalizationBuffer]
    split_ifs with hr
    · exact runEvents_replicate_drainStep_of_none rfl n
    · cases processLocalizationResultInternal ctx (ransac_seeds 0) s r with
      | error e => rfl
      | ok s₁ =>
        obtain ⟨m, rfl⟩ : ∃ m, n = m + 1 := ⟨n - 1, by simp at hn; omega⟩
        exact ih _ _ m (by simp at hn; omega)

/-- **A drain run alone is `dealWithBufferedLocalizations`.**  Entered with no drain in
progress and followed, with nothing in between, by more passes than the queue has
localizations, the drain's entry and passes compute the function: the same failure, or
the same handler and queue, and no drain left in progress. -/
theorem runEvents_drain_eq (ransac_seeds : Nat → Int) {w : World Transformation Vector3 Vector2}
    (hd : w.drain = none) (n : Nat) (hn : w.localization_buffer.length < n) :
    runEvents ctx w (.dealWithBufferedLocalizations ransac_seeds :: List.replicate n .drainStep) =
      (dealWithBufferedLocalizations ctx ransac_seeds w.handler w.localization_buffer).map
        fun p => ⟨p.1, p.2, none⟩ := by
  obtain ⟨s, q, d⟩ := w
  subst hd
  rw [runEvents, List.foldlM_cons]
  simp only [Event.run, dealWithBufferedLocalizations]
  cases s.T_M_I_buffer.getNewestTimestampOfAvailablePose with
  | none => exact runEvents_replicate_drainStep_of_none rfl n
  | some N => exact runEvents_replicate_drainStep N ransac_seeds s q n hn

/-- On the line without 6-DoF mode, a drain entered with a pose at 0 ns and run for four
passes processes the two localizations at 0 ns and stops at the one at 5 ns. -/
theorem runEvents_drain_eq_on_line :
    (⟨{ init structureLineContext with T_M_I_buffer := ⟨1000, 100, [(0, 1)], by decide⟩ },
        [⟨0, 1, [], []⟩, ⟨0, 1, [], []⟩, ⟨5, 1, [], []⟩], none⟩ :
        World (Multiplicative ℤ) ℤ ℤ).drain = none ∧
      [(⟨0, 1, [], []⟩ : LocalizationResult (Multiplicative ℤ) ℤ ℤ), ⟨0, 1, [], []⟩,
        ⟨5, 1, [], []⟩].length < 4 ∧
      runEvents structureLineContext
          ⟨{ init structureLineContext with T_M_I_buffer := ⟨1000, 100, [(0, 1)], by decide⟩ },
            [⟨0, 1, [], []⟩, ⟨0, 1, [], []⟩, ⟨5, 1, [], []⟩], none⟩
          (.dealWithBufferedLocalizations (fun _ => 0) :: List.replicate 4 .drainStep) =
        (dealWithBufferedLocalizations structureLineContext (fun _ => 0)
          { init structureLineContext with T_M_I_buffer := ⟨1000, 100, [(0, 1)], by decide⟩ }
          [⟨0, 1, [], []⟩, ⟨0, 1, [], []⟩, ⟨5, 1, [], []⟩]).map fun p => ⟨p.1, p.2, none⟩ :=
  ⟨rfl, by decide, runEvents_drain_eq (fun _ => 0) rfl 4 (by decide)⟩

/-! ### Every drain ends -/

/-- Whether an event enters `dealWithBufferedLocalizations`. -/
def Event.isEntry : Event Transformation Vector3 Vector2 → Bool
  | .dealWithBufferedLocalizations _ => true
  | _ => false

/-- Whether an event is a pass of the drain's loop. -/
def Event.isDrainStep : Event Transformation Vector3 Vector2 → Bool
  | .drainStep => true
  | _ => false

/-- An event other than an entry leaves no drain in progress where there was none, and a
pass after which the drain is still in progress has popped a localization. -/
theorem Event.run_drain_isSome {w w' : World Transformation Vector3 Vector2}
    {e : Event Transformation Vector3 Vector2} (he : e.isEntry = false) (h : e.run ctx w = .ok w')
    (hd : w'.drain.isSome) :
    w.drain.isSome ∧ w'.localization_buffer.length + (if e.isDrainStep then 1 else 0) ≤
      w.localization_buffer.length := by
  cases e with
  | dealWithBufferedLocalizations _ => cases he
  | drainStep =>
    simp only [Event.run] at h
    split at h
    · rename_i hd₀ hq
      split at h
      · cases h
        simp at hd
      · obtain ⟨s₁, -, h⟩ := bind_eq_ok.mp h
        cases h
        simp [hd₀, hq, Event.isDrainStep]
    · cases h
      simp at hd
    · cases h
      simp_all
  | _ =>
    cases h
    exact ⟨hd, by simp [Event.isDrainStep]⟩

/-- A drain still in progress after a run with no entry was in progress before, and each
pass of the run popped a localization. -/
theorem runEvents_drain_isSome {w w' : World Transformation Vector3 Vector2}
    {evs : List (Event Transformation Vector3 Vector2)} (hentry : ∀ e ∈ evs, e.isEntry = false)
    (h : runEvents ctx w evs = .ok w') (hd : w'.drain.isSome) :
    w.drain.isSome ∧ w'.localization_buffer.length + (evs.filter Event.isDrainStep).length ≤
      w.localization_buffer.length := by
  induction evs generalizing w with
  | nil =>
    cases h
    exact ⟨hd, by simp⟩
  | cons e evs ih =>
    obtain ⟨w₁, h₁, h⟩ := runEvents_cons.mp h
    obtain ⟨hd₁, hlen⟩ := ih (fun e' he' => hentry e' (List.mem_cons_of_mem e he')) h
    obtain ⟨hd₀, hlen₁⟩ := Event.run_drain_isSome (hentry e (List.mem_cons_self e evs)) h₁ hd₁
    refine ⟨hd₀, ?_⟩
    cases hs : e.isDrainStep <;>
      simp only [hs, List.filter_cons, ↓reduceIte, Bool.false_eq_true, List.length_cons] at hlen₁ ⊢ <;>
      omega

/-- **Every drain ends.**  With no new drain entered, a drain in progress is over once its
loop has made more passes than the queue had localizations, whatever buffer writes and
arrivals fall between the passes, as long as no `CHECK` fails: each pass pops a
localization or returns. -/
theorem runEvents_drain_ends {w w' : World Transformation Vector3 Vector2}
    {evs : List (Event Transformation Vector3 Vector2)} (hentry : ∀ e ∈ evs, e.isEntry = false)
    (hpasses : w.localization_buffer.length < (evs.filter Event.isDrainStep).length)
    (h : runEvents ctx w evs = .ok w') : w'.drain = none := by
  by_contra hd
  have hlen := (runEvents_drain_isSome hentry h (Option.ne_none_iff_isSome.mp hd)).2
  omega

/-- On the line in 6-DoF mode, a drain in progress over a queue of two localizations
ends after three passes, with a pose written and a localization arriving in between. -/
theorem runEvents_drain_ends_on_line :
    (∀ e ∈ ([.drainStep, .writeTMIBuffer ⟨1000, 100, [(0, 1), (9, 1)], by decide⟩,
        .processLocalizationResult ⟨7, 1, [], []⟩, .drainStep, .drainStep] :
          List (Event (Multiplicative ℤ) ℤ ℤ)), e.isEntry = false) ∧
      ∃ w', runEvents lineContext
          ⟨{ init lineContext with T_M_I_buffer := ⟨1000, 100, [(0, 1)], by decide⟩ },
            [⟨0, 1, [], []⟩, ⟨5, 1, [], []⟩], some (0, fun _ => 0)⟩
          [.drainStep, .writeTMIBuffer ⟨1000, 100, [(0, 1), (9, 1)], by decide⟩,
            .processLocalizationResult ⟨7, 1, [], []⟩, .drainStep, .drainStep] = .ok w' ∧
        w'.drain = none := by
  have hentry : ∀ e ∈ ([.drainStep, .writeTMIBuffer ⟨1000, 100, [(0, 1), (9, 1)], by decide⟩,
      .processLocalizationResult ⟨7, 1, [], []⟩, .drainStep, .drainStep] :
        List (Event (Multiplicative ℤ) ℤ ℤ)), e.isEntry = false := by
    decide
  obtain ⟨w', h⟩ : ∃ w', runEvents lineContext
      ⟨{ init lineContext with T_M_I_buffer := ⟨1000, 100, [(0, 1)], by decide⟩ },
        [⟨0, 1, [], []⟩, ⟨5, 1, [], []⟩], some (0, fun _ => 0)⟩
      [.drainStep, .writeTMIBuffer ⟨1000, 100, [(0, 1), (9, 1)], by decide⟩,
        .processLocalizationResult ⟨7, 1, [], []⟩, .drainStep, .drainStep] = .ok w' := ⟨_, by rfl⟩
  exact ⟨hentry, w', h, runEvents_drain_ends hentry (by decide) h⟩

/-! ### The state machine over every interleaving -/

omit [MulAction Transformation Vector3] [Sub Vector2] in
/-- The invariant reads only the state machine's fields: the state and the alignment
buffer. -/
theorem LocalizedInv.of_frame {cs : List (Call Transformation Vector3 Vector2)}
    {s s' : OpenvinsLocalizationHandler Transformation Vector3 Vector2} (hinv : LocalizedInv ctx cs s)
    (hstate : s'.localization_state = s.localization_state)
    (hbuf : s'.T_G_M_loc_buffer = s.T_G_M_loc_buffer) : LocalizedInv ctx cs s' := by
  obtain ⟨⟨h₁, h₂, h₃, h₄⟩, h₅⟩ := hinv
  exact ⟨⟨by rwa [hstate], by rwa [hstate], by rwa [hbuf], by rwa [hstate, hbuf]⟩, by rwa [hstate]⟩

/-- **Step lemma of the system**: an event that makes no call leaves the state machine's
fields and the queue alone; a pass that makes one pops its localization and is that
call. -/
theorem Event.run_spec {cs : List (Call Transformation Vector3 Vector2)}
    {w w' : World Transformation Vector3 Vector2} {e : Event Transformation Vector3 Vector2}
    (hinv : LocalizedInv ctx cs w.handler) (h : e.run ctx w = .ok w') :
    w.localization_buffer = (e.call w).toList.map (·.localization_result) ++ w'.localization_buffer ∧
      LocalizedInv ctx (cs ++ (e.call w).toList) w'.handler := by
  rcases Event.run_eq_ok h with ⟨_, _, _, -, -, hq, -, hcall, hs⟩ | ⟨hcall, hq, hstate, hbuf, -, -⟩
  · rw [hcall]
    exact ⟨hq, localizedInv_step hinv hs⟩
  · rw [hcall]
    exact ⟨hq.symm, by simpa using hinv.of_frame hstate hbuf⟩

/-- **The handler over every interleaving.**  From a state with the invariant, a run that
fails no `CHECK` has taken off the front of the queue exactly the localizations of its
calls (`callsOf`: each pass's, with the buffers of its moment and its seed), in order,
and the state machine's invariant holds after those calls. -/
theorem runEvents_spec {cs : List (Call Transformation Vector3 Vector2)}
    {w w' : World Transformation Vector3 Vector2} {evs : List (Event Transformation Vector3 Vector2)}
    (hinv : LocalizedInv ctx cs w.handler) (h : runEvents ctx w evs = .ok w') :
    w.localization_buffer = (callsOf ctx w evs).map (·.localization_result) ++ w'.localization_buffer ∧
      LocalizedInv ctx (cs ++ callsOf ctx w evs) w'.handler := by
  induction evs generalizing cs w with
  | nil =>
    cases h
    exact ⟨rfl, by simpa [callsOf] using hinv⟩
  | cons e evs ih =>
    obtain ⟨w₁, h₁, h⟩ := runEvents_cons.mp h
    obtain ⟨hq₁, hinv₁⟩ := Event.run_spec hinv h₁
    obtain ⟨hq₂, hinv₂⟩ := ih hinv₁ h
    simp only [callsOf, h₁]
    exact ⟨by rw [hq₁, hq₂, List.map_append, List.append_assoc], by simpa using hinv₂⟩

/-- On the line without 6-DoF mode, once a pose at 0 ns is written, a drain takes the two
localizations at 0 ns off the queue, the second initializing the baseframe, and keeps
the one at 5 ns. -/
theorem runEvents_spec_on_line :
    ∃ w', runEvents structureLineContext
        ⟨init structureLineContext, [⟨0, 1, [], []⟩, ⟨0, 1, [], []⟩, ⟨5, 1, [], []⟩], none⟩
        [.writeTMIBuffer ⟨1000, 100, [(0, 1)], by decide⟩, .dealWithBufferedLocalizations fun _ => 0,
          .drainStep, .drainStep, .drainStep] = .ok w' ∧
      [⟨0, 1, [], []⟩, ⟨0, 1, [], []⟩, ⟨5, 1, [], []⟩] =
        (callsOf structureLineContext
          ⟨init structureLineContext, [⟨0, 1, [], []⟩, ⟨0, 1, [], []⟩, ⟨5, 1, [], []⟩], none⟩
          [.writeTMIBuffer ⟨1000, 100, [(0, 1)], by decide⟩, .dealWithBufferedLocalizations fun _ => 0,
            .drainStep, .drainStep, .drainStep]).map (·.localization_result) ++ w'.localization_buffer ∧
      LocalizedInv structureLineContext ([] ++ callsOf structureLineContext
          ⟨init structureLineContext, [⟨0, 1, [], []⟩, ⟨0, 1, [], []⟩, ⟨5, 1, [], []⟩], none⟩
          [.writeTMIBuffer ⟨1000, 100, [(0, 1)], by decide⟩, .dealWithBufferedLocalizations fun _ => 0,
            .drainStep, .drainStep, .drainStep]) w'.handler := by
  obtain ⟨w', h⟩ : ∃ w', runEvents structureLineContext
      ⟨init structureLineContext, [⟨0, 1, [], []⟩, ⟨0, 1, [], []⟩, ⟨5, 1, [], []⟩], none⟩
      [.writeTMIBuffer ⟨1000, 100, [(0, 1)], by decide⟩, .dealWithBufferedLocalizations fun _ => 0,
        .drainStep, .drainStep, .drainStep] = .ok w' := ⟨_, by with_unfolding_all rfl⟩
  exact ⟨w', h, runEvents_spec (localizedInv_init structureLineContext) h⟩

/-! ### Where an interleaving aborts -/

/-- Only a pass of a drain aborts, while processing the localization it pops. -/
theorem Event.run_eq_error {w : World Transformation Vector3 Vector2}
    {e : Event Transformation Vector3 Vector2} {err : CheckFailed} (h : e.run ctx w = .error err) :
    ∃ N ransac_seeds r rest, e = .drainStep ∧ w.drain = some (N, ransac_seeds) ∧
      w.localization_buffer = r :: rest ∧ r.timestamp_ns ≤ N ∧
      processLocalizationResultInternal ctx (ransac_seeds 0) w.handler r = .error err := by
  cases e with
  | dealWithBufferedLocalizations ransac_seeds =>
    simp only [Event.run] at h
    split at h <;> cases h
  | drainStep =>
    simp only [Event.run] at h
    split at h
    · rename_i N ransac_seeds r rest hd hq
      split at h
      · cases h
      · rcases bind_eq_error.mp h with hs | ⟨_, -, h⟩
        · exact ⟨N, ransac_seeds, r, rest, rfl, hd, hq, not_lt.mp ‹_›, hs⟩
        · cases h
    all_goals cases h
  | _ => cases h

/-- An interleaving that aborts does so in a pass of a drain, the events before it having
run: in `processAsUpdate`, on a localized handler, for the localization the pass pops. -/
theorem runEvents_eq_error {w : World Transformation Vector3 Vector2}
    {evs : List (Event Transformation Vector3 Vector2)} {err : CheckFailed}
    (h : runEvents ctx w evs = .error err) :
    ∃ pre post w₀ N ransac_seeds r rest, evs = pre ++ .drainStep :: post ∧
      runEvents ctx w pre = .ok w₀ ∧ w₀.drain = some (N, ransac_seeds) ∧
      w₀.localization_buffer = r :: rest ∧ r.timestamp_ns ≤ N ∧
      w₀.handler.localization_state = .kLocalized ∧ processAsUpdate ctx w₀.handler r = .error err := by
  induction evs generalizing w with
  | nil => cases h
  | cons ev evs ih =>
    rw [runEvents, List.foldlM_cons] at h
    rcases bind_eq_error.mp h with h₁ | ⟨w₁, h₁, h⟩
    · obtain ⟨N, ransac_seeds, r, rest, rfl, hd, hq, hr, hs⟩ := Event.run_eq_error h₁
      obtain ⟨hloc, hu⟩ := processLocalizationResultInternal_eq_error hs
      exact ⟨[], evs, w, N, ransac_seeds, r, rest, rfl, rfl, hd, hq, hr, hloc, hu⟩
    · obtain ⟨pre, post, w₀, N, ransac_seeds, r, rest, rfl, hpre, hrest⟩ := ih h
      exact ⟨ev :: pre, post, w₀, N, ransac_seeds, r, rest, rfl,
        runEvents_cons.mpr ⟨w₁, h₁, hpre⟩, hrest⟩

/-- **In 6-DoF mode only the timing checks abort.**  From any world, an interleaving that
fails a `CHECK` fails one of the two timing `CHECK`s of `processAsUpdate`, in a pass of a
drain, on the localization it pops, which is not newer than the timestamp `N` the drain
read on entry: the one on a pose that will never be available, or the one on a pose not
yet available, and then every buffered pose is older than the localization, so the pose
buffer's newest timestamp has moved back below `N` since the drain's entry. -/
theorem runEvents_eq_error_of_6dof (h6 : ctx.flags.openvinsli_use_6dof_localization = true)
    {w : World Transformation Vector3 Vector2} {evs : List (Event Transformation Vector3 Vector2)}
    {err : CheckFailed} (h : runEvents ctx w evs = .error err) :
    ∃ pre post w₀ N ransac_seeds r rest, evs = pre ++ .drainStep :: post ∧
      runEvents ctx w pre = .ok w₀ ∧ w₀.drain = some (N, ransac_seeds) ∧
      w₀.localization_buffer = r :: rest ∧ r.timestamp_ns ≤ N ∧
      ((w₀.handler.T_M_I_buffer.getPoseAt ctx.interpolate r.timestamp_ns = .kFailedWillNeverSucceed ∧
          err = ⟨"result != vio_common::PoseLookupBuffer::ResultStatus::kFailedWillNeverSucceed"⟩) ∨
        ((∀ newest ∈ w₀.handler.T_M_I_buffer.getNewestTimestampOfAvailablePose,
            newest < r.timestamp_ns) ∧
          err = ⟨"result != vio_common::PoseLookupBuffer::ResultStatus::kFailedNotYetAvailable"⟩)) := by
  obtain ⟨pre, post, w₀, N, ransac_seeds, r, rest, rfl, hpre, hd, hq, hr, -, hu⟩ := runEvents_eq_error h
  refine ⟨pre, post, w₀, N, ransac_seeds, r, rest, rfl, hpre, hd, hq, hr, ?_⟩
  rcases processAsUpdate_eq_error_of_6dof h6 hu with hw | ⟨hlook, rfl⟩
  · exact .inl hw
  · exact .inr ⟨(PoseLookupBuffer.getPoseAt_eq_kFailedNotYetAvailable_iff _ _ _).mp hlook, rfl⟩

/-- On the line in 6-DoF mode, with poses at 100 ns and 200 ns, a localization arriving
at 300 ns goes to OpenVINS, and a drain then aborts on the buffered one at 50 ns. -/
theorem runEvents_eq_error_of_6dof_on_line :
    ∃ err, runEvents lineContext
        ⟨{ init lineContext with T_M_I_buffer := ⟨1000, 100, [(100, 1), (200, 1)], by decide⟩ },
          [⟨50, 1, [], []⟩], none⟩
        [.processLocalizationResult ⟨300, 1, [], []⟩, .dealWithBufferedLocalizations fun _ => 0,
          .drainStep] = .error err ∧
      ∃ pre post w₀ N ransac_seeds r rest,
        [.processLocalizationResult ⟨300, 1, [], []⟩, .dealWithBufferedLocalizations fun _ => 0,
          .drainStep] = pre ++ Event.drainStep :: post ∧
        runEvents lineContext
          ⟨{ init lineContext with T_M_I_buffer := ⟨1000, 100, [(100, 1), (200, 1)], by decide⟩ },
            [⟨50, 1, [], []⟩], none⟩ pre = .ok w₀ ∧
        w₀.drain = some (N, ransac_seeds) ∧ w₀.localization_buffer = r :: rest ∧ r.timestamp_ns ≤ N ∧
        ((w₀.handler.T_M_I_buffer.getPoseAt lineContext.interpolate r.timestamp_ns =
              .kFailedWillNeverSucceed ∧
            err = ⟨"result != vio_common::PoseLookupBuffer::ResultStatus::kFailedWillNeverSucceed"⟩) ∨
          ((∀ newest ∈ w₀.handler.T_M_I_buffer.getNewestTimestampOfAvailablePose,
              newest < r.timestamp_ns) ∧
            err = ⟨"result != vio_common::PoseLookupBuffer::ResultStatus::kFailedNotYetAvailable"⟩)) := by
  obtain ⟨err, h⟩ : ∃ err, runEvents lineContext
      ⟨{ init lineContext with T_M_I_buffer := ⟨1000, 100, [(100, 1), (200, 1)], by decide⟩ },
        [⟨50, 1, [], []⟩], none⟩
      [.processLocalizationResult ⟨300, 1, [], []⟩, .dealWithBufferedLocalizations fun _ => 0,
        .drainStep] = .error err := ⟨_, by rfl⟩
  exact ⟨err, h, runEvents_eq_error_of_6dof rfl h⟩

/-! ### Poses that never go back -/

/-- The drain in progress, if any, read on entry a timestamp no newer than the newest
pose buffered now. -/
def World.DrainNotAhead (w : World Transformation Vector3 Vector2) : Prop :=
  ∀ N ∈ w.drain.map Prod.fst,
    ∃ newest ∈ w.handler.T_M_I_buffer.getNewestTimestampOfAvailablePose, N ≤ newest

/-- A pose buffer written over another keeps a pose at least as new as the old newest. -/
def PoseLookupBuffer.KeepsNewest (old new : PoseLookupBuffer Transformation) : Prop :=
  ∀ previous_newest ∈ old.getNewestTimestampOfAvailablePose,
    ∃ newest ∈ new.getNewestTimestampOfAvailablePose, previous_newest ≤ newest

/-- **Step lemma**: an event keeps the drain behind the newest pose, a write of the pose
buffer as long as it keeps a pose at least as new as the old newest. -/
theorem Event.run_drainNotAhead {w w' : World Transformation Vector3 Vector2}
    {e : Event Transformation Vector3 Vector2} (hw : w.DrainNotAhead)
    (hwrite : ∀ b, e = .writeTMIBuffer b → w.handler.T_M_I_buffer.KeepsNewest b)
    (h : e.run ctx w = .ok w') : w'.DrainNotAhead := by
  cases e with
  | writeTMIBuffer b =>
    cases h
    intro N hN
    obtain ⟨n₀, hn₀, hN₀⟩ := hw N hN
    obtain ⟨n, hn, hn₀n⟩ := hwrite b rfl n₀ hn₀
    exact ⟨n, hn, hN₀.trans hn₀n⟩
  | dealWithBufferedLocalizations ransac_seeds =>
    simp only [Event.run] at h
    split at h <;> cases h
    · rename_i newest _ hnewest
      intro N hN
      simp only [Option.map_some', Option.mem_def, Option.some.injEq] at hN
      exact ⟨newest, hnewest, hN.ge⟩
    · exact hw
  | drainStep =>
    simp only [Event.run] at h
    split at h
    · rename_i hd _
      split at h
      · cases h
        simp [World.DrainNotAhead]
      · obtain ⟨s₁, hs, h⟩ := bind_eq_ok.mp h
        cases h
        intro N hN
        rw [World.DrainNotAhead, hd] at hw
        simpa [(processLocalizationResultInternal_buffers hs).1] using hw N (by simpa using hN)
    · cases h
      simp [World.DrainNotAhead]
    · cases h
      exact hw
  | _ =>
    cases h
    exact hw

/-- **Run lemma**: over a run whose writes of the pose buffer each keep a pose at least as
new as the newest before them, the drain stays behind the newest pose. -/
theorem runEvents_drainNotAhead {w w' : World Transformation Vector3 Vector2}
    {evs : List (Event Transformation Vector3 Vector2)} (hw : w.DrainNotAhead)
    (hwrites : ∀ pre b post w₀, evs = pre ++ .writeTMIBuffer b :: post →
      runEvents ctx w pre = .ok w₀ → w₀.handler.T_M_I_buffer.KeepsNewest b)
    (h : runEvents ctx w evs = .ok w') : w'.DrainNotAhead := by
  induction evs generalizing w with
  | nil =>
    cases h
    exact hw
  | cons e evs ih =>
    obtain ⟨w₁, h₁, h⟩ := runEvents_cons.mp h
    have hw₁ := Event.run_drainNotAhead hw (fun b he => hwrites [] b evs w (by rw [he]; rfl) rfl) h₁
    exact ih hw₁ (fun pre b post w₀ hsplit hpre => hwrites (e :: pre) b post w₀ (by rw [hsplit]; rfl)
      (runEvents_cons.mpr ⟨w₁, h₁, hpre⟩)) h

/-- **With poses that never go back, only the retention check aborts.**  In 6-DoF mode,
from a world whose drain in progress, if any, read a timestamp no newer than the newest
buffered pose, an interleaving whose writes of the pose buffer each keep a pose at
least as new as the newest before them fails, if at all, the `CHECK` on a pose that will
never be available: the drain never looks up a pose not yet available. -/
theorem runEvents_eq_error_of_poses_keep_newest (h6 : ctx.flags.openvinsli_use_6dof_localization = true)
    {w : World Transformation Vector3 Vector2} {evs : List (Event Transformation Vector3 Vector2)}
    {err : CheckFailed} (hw : w.DrainNotAhead)
    (hwrites : ∀ pre b post w₀, evs = pre ++ .writeTMIBuffer b :: post →
      runEvents ctx w pre = .ok w₀ → w₀.handler.T_M_I_buffer.KeepsNewest b)
    (h : runEvents ctx w evs = .error err) :
    err = ⟨"result != vio_common::PoseLookupBuffer::ResultStatus::kFailedWillNeverSucceed"⟩ := by
  obtain ⟨pre, post, w₀, N, ransac_seeds, r, rest, rfl, hpre, hd, -, hr, -, hu⟩ := runEvents_eq_error h
  have hw₀ : w₀.DrainNotAhead := runEvents_drainNotAhead hw
    (fun pre' b post' w₁ hsplit => hwrites pre' b (post' ++ .drainStep :: post) w₁ (by simp [hsplit])) hpre
  rcases processAsUpdate_eq_error_of_6dof h6 hu with ⟨-, rfl⟩ | ⟨hlook, -⟩
  · rfl
  · obtain ⟨newest, hnewest, hN⟩ := hw₀ N (by simp [hd])
    have hlt := (PoseLookupBuffer.getPoseAt_eq_kFailedNotYetAvailable_iff _ _ _).mp hlook newest hnewest
    omega

/-- On the line in 6-DoF mode, with poses at 100 ns and 200 ns, a write adds a pose at
300 ns, and a drain then aborts on the buffered localization at 50 ns, whose pose is no
longer retained. -/
theorem runEvents_eq_error_of_poses_keep_newest_on_line :
    ∃ err, runEvents lineContext
        ⟨{ init lineContext with T_M_I_buffer := ⟨1000, 100, [(100, 1), (200, 1)], by decide⟩ },
          [⟨50, 1, [], []⟩], none⟩
        [.writeTMIBuffer ⟨1000, 100, [(100, 1), (200, 1), (300, 1)], by decide⟩,
          .dealWithBufferedLocalizations fun _ => 0, .drainStep] = .error err ∧
      err = ⟨"result != vio_common::PoseLookupBuffer::ResultStatus::kFailedWillNeverSucceed"⟩ := by
  obtain ⟨err, h⟩ : ∃ err, runEvents lineContext
      ⟨{ init lineContext with T_M_I_buffer := ⟨1000, 100, [(100, 1), (200, 1)], by decide⟩ },
        [⟨50, 1, [], []⟩], none⟩
      [.writeTMIBuffer ⟨1000, 100, [(100, 1), (200, 1), (300, 1)], by decide⟩,
        .dealWithBufferedLocalizations fun _ => 0, .drainStep] = .error err := ⟨_, by rfl⟩
  refine ⟨err, h, runEvents_eq_error_of_poses_keep_newest rfl (fun N hN => by cases hN) ?_ h⟩
  intro pre b post w₀ hsplit hpre
  rcases pre with _ | ⟨e, pre⟩
  · cases hpre
    cases Event.writeTMIBuffer.inj (List.cons.inj hsplit).1
    intro previous_newest hprevious
    cases hprevious
    exact ⟨300, rfl, by decide⟩
  · simp only [List.cons_append, List.cons.injEq] at hsplit
    have hmem : Event.writeTMIBuffer b ∈ pre ++ .writeTMIBuffer b :: post :=
      List.mem_append_right _ (List.mem_cons_self _ _)
    rw [← hsplit.2] at hmem
    simp at hmem

/-- The queue only loses localizations from its front: nothing enqueues. -/
theorem runEvents_queue_suffix {w w' : World Transformation Vector3 Vector2}
    {evs : List (Event Transformation Vector3 Vector2)} (h : runEvents ctx w evs = .ok w') :
    w'.localization_buffer <:+ w.localization_buffer := by
  induction evs generalizing w with
  | nil =>
    cases h
    exact List.suffix_refl _
  | cons e evs ih =>
    obtain ⟨w₁, h₁, h⟩ := runEvents_cons.mp h
    refine (ih h).trans ?_
    rcases Event.run_eq_ok h₁ with ⟨-, -, r, -, -, hq, -⟩ | ⟨-, hq, -⟩
    · rw [hq]
      exact List.suffix_cons r _
    · exact hq ▸ List.suffix_refl _

/-- **What can abort, in either mode.**  With well-formed queued localizations, an
interleaving fails a `CHECK` only in a drain pass, in `processAsUpdate` on a localized
handler: the one on a pose never available, the one on the filter's baseframes, a
projection's, or the one on a pose not yet available when every buffered pose is older
than the localization; never one on the sizes and counts of the matches. -/
theorem runEvents_eq_error_of_wellFormed {w : World Transformation Vector3 Vector2}
    {evs : List (Event Transformation Vector3 Vector2)} {err : CheckFailed}
    (hq : ∀ r ∈ w.localization_buffer,
      List.Forall₂ (fun landmarks keypoints => landmarks.length = keypoints.length)
        r.G_landmarks_per_camera r.keypoint_measurements_per_camera ∧
      r.G_landmarks_per_camera.length = ctx.camera_calibration.numCameras)
    (h : runEvents ctx w evs = .error err) :
    ∃ pre post w₀ N ransac_seeds r rest, evs = pre ++ .drainStep :: post ∧
      runEvents ctx w pre = .ok w₀ ∧ w₀.drain = some (N, ransac_seeds) ∧
      w₀.localization_buffer = r :: rest ∧ r.timestamp_ns ≤ N ∧
      w₀.handler.localization_state = .kLocalized ∧
      (err.condition = "result != vio_common::PoseLookupBuffer::ResultStatus::kFailedWillNeverSucceed" ∨
        err.condition = "!T_G_M_filter_buffer_.buffer().empty()" ∨ IsProjectionCheck err ∨
        (err.condition = "result != vio_common::PoseLookupBuffer::ResultStatus::kFailedNotYetAvailable" ∧
          ∀ newest ∈ w₀.handler.T_M_I_buffer.getNewestTimestampOfAvailablePose,
            newest < r.timestamp_ns)) := by
  obtain ⟨pre, post, w₀, N, ransac_seeds, r, rest, rfl, hpre, hd, hr, hdue, hloc, hu⟩ :=
    runEvents_eq_error h
  obtain ⟨hcols, hcams⟩ := hq r ((runEvents_queue_suffix hpre).subset (hr ▸ List.mem_cons_self r rest))
  have hfails : FailsOnly (fun e : CheckFailed =>
      e.condition = "result != vio_common::PoseLookupBuffer::ResultStatus::kFailedWillNeverSucceed" ∨
        e.condition = "!T_G_M_filter_buffer_.buffer().empty()" ∨ IsProjectionCheck e ∨
        (e.condition = "result != vio_common::PoseLookupBuffer::ResultStatus::kFailedNotYetAvailable" ∧
          ∀ newest ∈ w₀.handler.T_M_I_buffer.getNewestTimestampOfAvailablePose,
            newest < r.timestamp_ns))
      (processAsUpdate ctx w₀.handler r) :=
    processAsUpdate_failsOnly_of w₀.handler hcols hcams
      (fun hl => .inr (.inr (.inr ⟨rfl, (PoseLookupBuffer.getPoseAt_eq_kFailedNotYetAvailable_iff _ _ _).mp hl⟩)))
      (.inl rfl) (.inr (.inl rfl)) fun _ he => .inr (.inr (.inl he))
  exact ⟨pre, post, w₀, N, ransac_seeds, r, rest, rfl, hpre, hd, hr, hdue, hloc, hfails err hu⟩

/-- On the line without 6-DoF mode, a localized handler whose filter has no baseframe yet
aborts on a buffered localization with a match. -/
theorem runEvents_eq_error_of_wellFormed_on_line :
    ∃ err, runEvents structureLineContext
        ⟨{ init structureLineContext with
            localization_state := .kLocalized
            T_M_I_buffer := ⟨1000, 100, [(0, 1)], by decide⟩ }, [⟨0, 1, [[5]], [[5]]⟩], none⟩
        [.dealWithBufferedLocalizations fun _ => 0, .drainStep] = .error err ∧
      (err.condition = "result != vio_common::PoseLookupBuffer::ResultStatus::kFailedWillNeverSucceed" ∨
        err.condition = "!T_G_M_filter_buffer_.buffer().empty()" ∨ IsProjectionCheck err ∨
        err.condition = "result != vio_common::PoseLookupBuffer::ResultStatus::kFailedNotYetAvailable") := by
  obtain ⟨err, h⟩ : ∃ err, runEvents structureLineContext
      ⟨{ init structureLineContext with
          localization_state := .kLocalized
          T_M_I_buffer := ⟨1000, 100, [(0, 1)], by decide⟩ }, [⟨0, 1, [[5]], [[5]]⟩], none⟩
      [.dealWithBufferedLocalizations fun _ => 0, .drainStep] = .error err := ⟨_, by rfl⟩
  obtain ⟨_, _, _, _, _, _, _, -, -, -, -, -, -, hcond⟩ :=
    runEvents_eq_error_of_wellFormed (fun r hr => by
      obtain rfl := List.mem_singleton.mp hr
      exact ⟨.cons rfl .nil, rfl⟩) h
  exact ⟨err, h, hcond.imp_right fun h => h.imp_right fun h => h.imp_right fun h => h.1⟩

/-! ### Nothing enters the queue -/

/-- An event on an empty queue keeps it empty and the state machine's fields as they
are, and feeds OpenVINS the localization that arrives, if any. -/
theorem Event.run_of_empty_queue {w : World Transformation Vector3 Vector2}
    (hq : w.localization_buffer = []) (e : Event Transformation Vector3 Vector2) :
    ∃ w', e.run ctx w = .ok w' ∧ w'.localization_buffer = [] ∧
      w'.handler.localization_state = w.handler.localization_state ∧
      w'.handler.T_G_M_loc_buffer = w.handler.T_G_M_loc_buffer ∧
      w'.handler.reprojection_warnings = w.handler.reprojection_warnings ∧
      w'.handler.openvins_measurements =
        w.handler.openvins_measurements ++ e.arrival.toList.map (makeOpenvinsLocalizationData ctx) := by
  obtain ⟨s, q, d⟩ := w
  subst hq
  cases e with
  | processLocalizationResult r => exact ⟨_, rfl, rfl, rfl, rfl, rfl, rfl⟩
  | dealWithBufferedLocalizations ransac_seeds =>
    simp only [Event.run]
    split <;> exact ⟨_, rfl, rfl, rfl, rfl, rfl, by simp [Event.arrival]⟩
  | drainStep =>
    cases d <;> exact ⟨_, rfl, rfl, rfl, rfl, rfl, by simp [Event.arrival]⟩
  | _ => exact ⟨_, rfl, rfl, rfl, rfl, rfl, by simp [Event.arrival]⟩

/-- **In this revision the state machine never runs.**  From an empty queue, every
interleaving of events runs to its end without a failed `CHECK`, and the queue stays
empty: nothing enqueues, so no drain processes anything.  The handler keeps its state,
its alignment buffer and its log, and OpenVINS receives each localization that arrives
at `processLocalizationResult`, once and in arrival order, in either mode. -/
theorem runEvents_of_empty_queue {w : World Transformation Vector3 Vector2}
    (hq : w.localization_buffer = []) (evs : List (Event Transformation Vector3 Vector2)) :
    ∃ w', runEvents ctx w evs = .ok w' ∧ w'.localization_buffer = [] ∧
      w'.handler.localization_state = w.handler.localization_state ∧
      w'.handler.T_G_M_loc_buffer = w.handler.T_G_M_loc_buffer ∧
      w'.handler.reprojection_warnings = w.handler.reprojection_warnings ∧
      w'.handler.openvins_measurements = w.handler.openvins_measurements ++
        (evs.filterMap Event.arrival).map (makeOpenvinsLocalizationData ctx) := by
  induction evs generalizing w with
  | nil => exact ⟨w, rfl, hq, rfl, rfl, rfl, by simp⟩
  | cons e evs ih =>
    obtain ⟨w₁, h₁, hq₁, hstate₁, hbuf₁, hlog₁, hfed₁⟩ := Event.run_of_empty_queue hq e
    obtain ⟨w', h', hq', hstate, hbuf, hlog, hfed⟩ := ih hq₁
    refine ⟨w', runEvents_cons.mpr ⟨_, h₁, h'⟩, hq', hstate.trans hstate₁, hbuf.trans hbuf₁,
      hlog.trans hlog₁, ?_⟩
    rw [hfed, hfed₁, filterMap_arrival_cons, List.map_append, List.append_assoc]

/-- On the line, with an empty queue: a pose written, a localization arriving, and a
drain entered and run. -/
theorem runEvents_of_empty_queue_on_line :
    (⟨init lineContext, [], none⟩ : World (Multiplicative ℤ) ℤ ℤ).localization_buffer = [] ∧
      ∃ w', runEvents lineContext ⟨init lineContext, [], none⟩
          [.writeTMIBuffer ⟨1000, 100, [(0, 1)], by decide⟩, .processLocalizationResult ⟨0, 1, [], []⟩,
            .dealWithBufferedLocalizations fun _ => 0, .drainStep] = .ok w' ∧
        w'.localization_buffer = [] ∧
        w'.handler.openvins_measurements = [makeOpenvinsLocalizationData lineContext ⟨0, 1, [], []⟩] := by
  have hq : (⟨init lineContext, [], none⟩ : World (Multiplicative ℤ) ℤ ℤ).localization_buffer = [] := rfl
  obtain ⟨w', h, hq', -, -, -, hfed⟩ := runEvents_of_empty_queue hq
    [.writeTMIBuffer ⟨1000, 100, [(0, 1)], by decide⟩, .processLocalizationResult ⟨0, 1, [], []⟩,
      .dealWithBufferedLocalizations fun _ => 0, .drainStep]
  exact ⟨hq, w', h, hq', hfed⟩

/-! ### What the code can reach -/

/-- `IsShuffle u v w`: `w` interleaves `u` and `v`, keeping the order of each. -/
inductive IsShuffle {α : Type} : List α → List α → List α → Prop
  /-- Two empty streams interleave to the empty one. -/
  | nil : IsShuffle [] [] []
  /-- The next element comes from the first stream. -/
  | left {a : α} {u v w : List α} : IsShuffle u v w → IsShuffle (a :: u) v (a :: w)
  /-- The next element comes from the second stream. -/
  | right {b : α} {u v w : List α} : IsShuffle u v w → IsShuffle u (b :: v) (b :: w)

theorem IsShuffle.append_left {α : Type} {u v w : List α} (h : IsShuffle u v w) (a : List α) :
    IsShuffle (a ++ u) v (a ++ w) := by
  induction a with
  | nil => exact h
  | cons x a ih => exact ih.left

theorem IsShuffle.append_right {α : Type} {u v w : List α} (h : IsShuffle u v w) (b : List α) :
    IsShuffle u (b ++ v) (b ++ w) := by
  induction b with
  | nil => exact h
  | cons x b ih => exact ih.right


/-- **System step in 6-DoF mode**: an event on a localized handler keeps it localized and
feeds OpenVINS the localization that arrives, if any, then the one a pass of the drain
pops. -/
theorem Event.run_of_6dof (h6 : ctx.flags.openvinsli_use_6dof_localization = true)
    {w w' : World Transformation Vector3 Vector2} {e : Event Transformation Vector3 Vector2}
    (hloc : w.handler.localization_state = .kLocalized) (h : e.run ctx w = .ok w') :
    w'.handler.localization_state = .kLocalized ∧ ∃ consumed,
      w.localization_buffer = consumed ++ w'.localization_buffer ∧
      w'.handler.openvins_measurements = w.handler.openvins_measurements ++
        (e.arrival.toList ++ consumed).map (makeOpenvinsLocalizationData ctx) := by
  rcases Event.run_eq_ok h with ⟨_, _, r, rfl, -, hq, -, -, hs⟩ | ⟨-, hq, hstate, -, -, hfed⟩
  · obtain ⟨hloc', hfed⟩ := processLocalizationResultInternal_of_6dof h6 hloc hs
    exact ⟨hloc', [r], hq, by rw [hfed]; rfl⟩
  · exact ⟨hstate.trans hloc, [], by rw [hq, List.nil_append], by rw [hfed, List.append_nil]⟩

/-- **In 6-DoF mode OpenVINS receives every localization once.**  From a localized
handler, over every interleaving that fails no `CHECK`, OpenVINS is fed a shuffle of
the localizations that arrived at `processLocalizationResult` and those the drains took
off the front of the queue: each once, keeping the order of each stream. -/
theorem runEvents_openvins_measurements_of_6dof
    (h6 : ctx.flags.openvinsli_use_6dof_localization = true)
    {w w' : World Transformation Vector3 Vector2} {evs : List (Event Transformation Vector3 Vector2)}
    (hloc : w.handler.localization_state = .kLocalized) (h : runEvents ctx w evs = .ok w') :
    ∃ consumed fed, w.localization_buffer = consumed ++ w'.localization_buffer ∧
      IsShuffle (evs.filterMap Event.arrival) consumed fed ∧
      w'.handler.openvins_measurements =
        w.handler.openvins_measurements ++ fed.map (makeOpenvinsLocalizationData ctx) := by
  induction evs generalizing w with
  | nil =>
    cases h
    exact ⟨[], [], rfl, .nil, by simp⟩
  | cons e evs ih =>
    obtain ⟨w₁, h₁, hrest⟩ := runEvents_cons.mp h
    obtain ⟨hloc₁, c₁, hq₁, hfed₁⟩ := Event.run_of_6dof h6 hloc h₁
    obtain ⟨c₂, fed, hq₂, hshuffle, hfed⟩ := ih hloc₁ hrest
    refine ⟨c₁ ++ c₂, e.arrival.toList ++ (c₁ ++ fed), by rw [hq₁, hq₂, List.append_assoc], ?_, ?_⟩
    · rw [filterMap_arrival_cons]
      exact (hshuffle.append_right c₁).append_left _
    · rw [hfed, hfed₁]
      simp only [List.map_append, List.append_assoc]

/-- On the line in 6-DoF mode, a localization arriving at 7 ns goes to OpenVINS directly;
a drain then forwards the buffered one at 0 ns and keeps the one at 5 ns. -/
theorem runEvents_openvins_measurements_of_6dof_on_line :
    ∃ w', runEvents lineContext
        ⟨{ init lineContext with T_M_I_buffer := ⟨1000, 100, [(0, 1)], by decide⟩ },
          [⟨0, 1, [], []⟩, ⟨5, 1, [], []⟩], none⟩
        [.processLocalizationResult ⟨7, 1, [], []⟩, .dealWithBufferedLocalizations fun _ => 0,
          .drainStep, .drainStep] = .ok w' ∧
      ∃ consumed fed, [⟨0, 1, [], []⟩, ⟨5, 1, [], []⟩] = consumed ++ w'.localization_buffer ∧
        IsShuffle [⟨7, 1, [], []⟩] consumed fed ∧
        w'.handler.openvins_measurements = [] ++ fed.map (makeOpenvinsLocalizationData lineContext) := by
  obtain ⟨w', h⟩ : ∃ w', runEvents lineContext
      ⟨{ init lineContext with T_M_I_buffer := ⟨1000, 100, [(0, 1)], by decide⟩ },
        [⟨0, 1, [], []⟩, ⟨5, 1, [], []⟩], none⟩
      [.processLocalizationResult ⟨7, 1, [], []⟩, .dealWithBufferedLocalizations fun _ => 0,
        .drainStep, .drainStep] = .ok w' := ⟨_, by rfl⟩
  exact ⟨w', h, runEvents_openvins_measurements_of_6dof rfl rfl h⟩

/-- **In structure-constraint mode OpenVINS receives only what arrives directly.**  Over
every interleaving that fails no `CHECK`, from any state and with any queue, OpenVINS
is fed the localizations passed to `processLocalizationResult`, each once and in
arrival order, and nothing of what the drains process: neither the baseframe
initialization nor the consistency gate ever feeds it. -/
theorem runEvents_openvins_measurements_of_structure
    (h6 : ctx.flags.openvinsli_use_6dof_localization = false)
    {w w' : World Transformation Vector3 Vector2} {evs : List (Event Transformation Vector3 Vector2)}
    (h : runEvents ctx w evs = .ok w') :
    w'.handler.openvins_measurements = w.handler.openvins_measurements ++
      (evs.filterMap Event.arrival).map (makeOpenvinsLocalizationData ctx) := by
  induction evs generalizing w with
  | nil =>
    cases h
    simp
  | cons e evs ih =>
    obtain ⟨w₁, h₁, hrest⟩ := runEvents_cons.mp h
    rw [ih hrest, filterMap_arrival_cons, List.map_append, ← List.append_assoc]
    congr 1
    rcases Event.run_eq_ok h₁ with ⟨_, _, _, rfl, -, -, -, -, hs⟩ | ⟨-, -, -, -, -, hfed⟩
    · rw [processLocalizationResultInternal_openvins_measurements_of_structure h6 hs]
      simp [Event.arrival]
    · exact hfed

/-- On the line without 6-DoF mode, a localization arriving at 7 ns goes to OpenVINS; the
drain then processes the buffered one at 0 ns without feeding it. -/
theorem runEvents_openvins_measurements_of_structure_on_line :
    ∃ w', runEvents structureLineContext
        ⟨{ init structureLineContext with T_M_I_buffer := ⟨1000, 100, [(0, 1)], by decide⟩ },
          [⟨0, 1, [], []⟩], none⟩
        [.processLocalizationResult ⟨7, 1, [], []⟩, .dealWithBufferedLocalizations fun _ => 0,
          .drainStep] = .ok w' ∧
      w'.handler.openvins_measurements =
        [makeOpenvinsLocalizationData structureLineContext ⟨7, 1, [], []⟩] := by
  obtain ⟨w', h⟩ : ∃ w', runEvents structureLineContext
      ⟨{ init structureLineContext with T_M_I_buffer := ⟨1000, 100, [(0, 1)], by decide⟩ },
        [⟨0, 1, [], []⟩], none⟩
      [.processLocalizationResult ⟨7, 1, [], []⟩, .dealWithBufferedLocalizations fun _ => 0,
        .drainStep] = .ok w' := ⟨_, by rfl⟩
  exact ⟨w', h, runEvents_openvins_measurements_of_structure rfl h⟩

/-! ### The log of warnings -/

/-- An event adds to the log at most one warning, and only in a pass of a drain, for the
localization it pops; none in 6-DoF mode. -/
theorem Event.run_reprojection_warnings {w w' : World Transformation Vector3 Vector2}
    {e : Event Transformation Vector3 Vector2} (h : e.run ctx w = .ok w') :
    ∃ ws : List ReprojectionWarning,
      w'.handler.reprojection_warnings = w.handler.reprojection_warnings ++ ws ∧
      ws.length + w'.localization_buffer.length ≤ w.localization_buffer.length ∧
      (ctx.flags.openvinsli_use_6dof_localization = true → ws = []) := by
  rcases Event.run_eq_ok h with ⟨_, _, r, -, -, hq, -, -, hs⟩ | ⟨-, hq, -, -, hlog, -⟩
  · obtain ⟨warning, hlog, h6⟩ := processLocalizationResultInternal_reprojection_warnings hs
    have hone : warning.toList.length ≤ 1 := by cases warning <;> simp
    refine ⟨warning.toList, hlog, ?_, fun h6' => by rw [h6 h6']; rfl⟩
    rw [hq, List.length_cons]
    omega
  · exact ⟨[], by rw [hlog, List.append_nil], by rw [hq, List.length_nil, Nat.zero_add], fun _ => rfl⟩

/-- **The log of warnings is append-only.**  Over every interleaving that fails no
`CHECK`, the log of reprojection warnings keeps what it had and gains at most one
warning per localization the drains took off the queue; in 6-DoF mode it gains
none. -/
theorem runEvents_reprojection_warnings {w w' : World Transformation Vector3 Vector2}
    {evs : List (Event Transformation Vector3 Vector2)} (h : runEvents ctx w evs = .ok w') :
    ∃ ws : List ReprojectionWarning,
      w'.handler.reprojection_warnings = w.handler.reprojection_warnings ++ ws ∧
      ws.length + w'.localization_buffer.length ≤ w.localization_buffer.length ∧
      (ctx.flags.openvinsli_use_6dof_localization = true → ws = []) := by
  induction evs generalizing w with
  | nil =>
    cases h
    exact ⟨[], (List.append_nil _).symm, Nat.le_of_eq (Nat.zero_add _), fun _ => rfl⟩
  | cons e evs ih =>
    obtain ⟨w₁, h₁, h⟩ := runEvents_cons.mp h
    obtain ⟨ws₁, hlog₁, hlen₁, h6₁⟩ := Event.run_reprojection_warnings h₁
    obtain ⟨ws₂, hlog₂, hlen₂, h6₂⟩ := ih h
    refine ⟨ws₁ ++ ws₂, by rw [hlog₂, hlog₁, List.append_assoc], ?_,
      fun h6 => by rw [h6₁ h6, h6₂ h6, List.append_nil]⟩
    rw [List.length_append]
    omega

/-- On the line without 6-DoF mode, a drain hands a localized handler, whose filter has
a baseframe, a localization with one match, and the check of its reprojection may log a
warning. -/
theorem runEvents_reprojection_warnings_on_line :
    ∃ w', runEvents structureLineContext
        ⟨{ init structureLineContext with
            localization_state := .kLocalized
            T_M_I_buffer := ⟨1000, 100, [(0, 1)], by decide⟩
            T_G_M_filter_buffer := ⟨2, [1], by decide⟩ }, [⟨0, 1, [[5]], [[5]]⟩], none⟩
        [.dealWithBufferedLocalizations fun _ => 0, .drainStep, .drainStep] = .ok w' ∧
      ∃ ws : List ReprojectionWarning, w'.handler.reprojection_warnings = [] ++ ws ∧
        ws.length + w'.localization_buffer.length ≤ 1 ∧
        (structureLineContext.flags.openvinsli_use_6dof_localization = true → ws = []) := by
  obtain ⟨w', h⟩ : ∃ w', runEvents structureLineContext
      ⟨{ init structureLineContext with
          localization_state := .kLocalized
          T_M_I_buffer := ⟨1000, 100, [(0, 1)], by decide⟩
          T_G_M_filter_buffer := ⟨2, [1], by decide⟩ }, [⟨0, 1, [[5]], [[5]]⟩], none⟩
      [.dealWithBufferedLocalizations fun _ => 0, .drainStep, .drainStep] = .ok w' :=
    ⟨_, by with_unfolding_all rfl⟩
  exact ⟨w', h, runEvents_reprojection_warnings h⟩

end Openvinsli
