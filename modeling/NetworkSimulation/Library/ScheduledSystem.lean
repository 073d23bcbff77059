import Mathlib

/-!
# Systems driven by a schedule of events

A scheduled system has an initial state and, for every state and event, at most one next state; an
event that cannot happen in a state has none. All nondeterminism is in the choice of events, so a
statement about every interleaving is a statement about every schedule. A guard restricts the events
that may be chosen, state by state.

The rules are the usual ones. A property of the initial state that every allowed step preserves
holds in every reachable state (`ReachableFrom.invariant`). A measure that every allowed step
decreases bounds the length of every schedule (`length_le_of_run`), excludes infinite runs
(`not_exists_infiniteRun`) and leads from every state to one where nothing more can happen
(`exists_quiescent`). Two systems with the same events that step in lockstep reach related states
by the same schedules (`Lockstep.reachableFrom`).
-/

set_option autoImplicit false
set_option relaxedAutoImplicit false

namespace NetworkSimulation.Library

/-- An initial state, and the state an event leads to where it can happen. -/
structure ScheduledSystem (σ ε : Type*) where
  init : σ
  step : σ → ε → Option σ

namespace ScheduledSystem

variable {σ ε : Type*} (system : ScheduledSystem σ ε) (guard : σ → ε → Prop)

/-- The states reached from `start` by events that the guard allows. -/
inductive ReachableFrom (start : σ) : σ → Prop
  | refl : ReachableFrom start start
  | step {s t : σ} {event : ε} (hs : ReachableFrom start s) (hguard : guard s event)
      (hstep : system.step s event = some t) : ReachableFrom start t

/-- The states reached from the initial state. -/
abbrev Reachable (s : σ) : Prop := system.ReachableFrom guard system.init s

/-- Nothing that the guard allows can happen. -/
def Quiescent (s : σ) : Prop := ∀ event, guard s event → system.step s event = none

/-- Running a schedule; `none` if an event is not allowed or cannot happen when its turn comes. -/
def run [∀ s event, Decidable (guard s event)] : σ → List ε → Option σ
  | s, [] => some s
  | s, event :: rest =>
    if guard s event then
      match system.step s event with
      | none => none
      | some t => run t rest
    else none

variable {system guard}

/-! ### Invariants -/

theorem ReachableFrom.trans {s t u : σ} (hst : system.ReachableFrom guard s t)
    (htu : system.ReachableFrom guard t u) : system.ReachableFrom guard s u := by
  induction htu with
  | refl => exact hst
  | step _ hguard hstep ih => exact ih.step hguard hstep

/-- One step of the system. -/
theorem reachableFrom_of_step {s t : σ} {event : ε} (hguard : guard s event)
    (hstep : system.step s event = some t) : system.ReachableFrom guard s t :=
  ReachableFrom.refl.step hguard hstep

/-- What a more permissive guard allows. -/
theorem ReachableFrom.mono {larger : σ → ε → Prop}
    (hlarger : ∀ s event, guard s event → larger s event) {s t : σ}
    (h : system.ReachableFrom guard s t) : system.ReachableFrom larger s t := by
  induction h with
  | refl => exact .refl
  | step _ hguard hstep ih => exact ih.step (hlarger _ _ hguard) hstep

/-- What every allowed step preserves holds in every state reached. -/
theorem ReachableFrom.invariant {property : σ → Prop}
    (hstep : ∀ s event t, property s → guard s event → system.step s event = some t → property t)
    {start s : σ} (hstart : property start) (h : system.ReachableFrom guard start s) :
    property s := by
  induction h with
  | refl => exact hstart
  | step _ hguard hnext ih => exact hstep _ _ _ ih hguard hnext

/-! ### Schedules -/

section Run

variable [∀ s event, Decidable (guard s event)]

theorem run_cons_eq_some {s u : σ} {event : ε} {rest : List ε} :
    system.run guard s (event :: rest) = some u ↔
      guard s event ∧ ∃ t, system.step s event = some t ∧ system.run guard t rest = some u := by
  rw [run]
  split_ifs with hguard
  · cases system.step s event <;> simp [hguard]
  · simp [hguard]

theorem reachableFrom_of_run {s t : σ} {schedule : List ε}
    (h : system.run guard s schedule = some t) : system.ReachableFrom guard s t := by
  induction schedule generalizing s with
  | nil =>
    obtain rfl := Option.some.inj h
    exact .refl
  | cons event rest ih =>
    obtain ⟨hguard, u, hstep, hrest⟩ := run_cons_eq_some.mp h
    exact (reachableFrom_of_step hguard hstep).trans (ih hrest)

/-- A schedule that runs from the initial state leads to a reachable state. -/
theorem reachable_of_isSome_run {schedule : List ε}
    (h : (system.run guard system.init schedule).isSome) :
    system.Reachable guard ((system.run guard system.init schedule).get h) :=
  reachableFrom_of_run (Option.some_get h).symm

/-- A property that a step keeps exactly when the guard allows it holds at the end of a run exactly
when the guard allows every step of the run. -/
theorem run_iff_of_step {allowed : σ → ε → Prop} [∀ s event, Decidable (allowed s event)]
    {good property : σ → Prop}
    (hstep : ∀ s event t, good s → guard s event → system.step s event = some t →
      good t ∧ (property t ↔ property s ∧ allowed s event)) {s t : σ} {schedule : List ε}
    (hs : good s) (h : system.run guard s schedule = some t) :
    property t ↔ property s ∧ system.run allowed s schedule = some t := by
  induction schedule generalizing s with
  | nil =>
    obtain rfl := Option.some.inj h
    exact (and_iff_left rfl).symm
  | cons event rest ih =>
    obtain ⟨hguard, u, hnext, hrest⟩ := run_cons_eq_some.mp h
    obtain ⟨hu, hkept⟩ := hstep s event u hs hguard hnext
    rw [ih hu hrest, hkept, and_assoc, run_cons_eq_some, hnext]
    simp

/-- A measure that decreases at every step bounds the length of every schedule. -/
theorem length_le_of_run {property : σ → Prop} {measure : σ → ℕ}
    (hstep : ∀ s event t, property s → guard s event → system.step s event = some t →
      property t ∧ measure t < measure s) {s t : σ} {schedule : List ε} (hs : property s)
    (h : system.run guard s schedule = some t) : schedule.length + measure t ≤ measure s := by
  induction schedule generalizing s with
  | nil =>
    obtain rfl := Option.some.inj h
    simp
  | cons event rest ih =>
    obtain ⟨hguard, u, hnext, hrest⟩ := run_cons_eq_some.mp h
    obtain ⟨hu, hless⟩ := hstep s event u hs hguard hnext
    have hlength := ih hu hrest
    rw [List.length_cons]
    omega

end Run

/-! ### Termination -/

/-- A measure that decreases at every step excludes infinite runs. -/
theorem not_exists_infiniteRun {property : σ → Prop} {measure : σ → ℕ}
    (hstep : ∀ s event t, property s → guard s event → system.step s event = some t →
      property t ∧ measure t < measure s) :
    ¬ ∃ states : ℕ → σ, property (states 0) ∧
      ∀ i, ∃ event, guard (states i) event ∧
        system.step (states i) event = some (states (i + 1)) := by
  rintro ⟨states, hstart, hruns⟩
  have hproperty : ∀ i, property (states i) := by
    intro i
    induction i with
    | zero => exact hstart
    | succ i ih =>
      obtain ⟨event, hguard, hnext⟩ := hruns i
      exact (hstep _ _ _ ih hguard hnext).1
  have hbound : ∀ i, i + measure (states i) ≤ measure (states 0) := by
    intro i
    induction i with
    | zero => simp
    | succ i ih =>
      obtain ⟨event, hguard, hnext⟩ := hruns i
      have hless := (hstep _ _ _ (hproperty i) hguard hnext).2
      omega
  have hlast := hbound (measure (states 0) + 1)
  omega

/-- A measure that decreases at every step leads to a quiescent state. -/
theorem exists_quiescent {property : σ → Prop} {measure : σ → ℕ}
    (hstep : ∀ s event t, property s → guard s event → system.step s event = some t →
      property t ∧ measure t < measure s) {s : σ} (hs : property s) :
    ∃ t, system.ReachableFrom guard s t ∧ system.Quiescent guard t := by
  induction hmeasure : measure s using Nat.strong_induction_on generalizing s with
  | _ bound ih =>
    by_cases hquiet : system.Quiescent guard s
    · exact ⟨s, .refl, hquiet⟩
    · simp only [Quiescent, not_forall, ← Option.isSome_iff_ne_none, Option.isSome_iff_exists]
        at hquiet
      obtain ⟨event, hguard, t, hnext⟩ := hquiet
      obtain ⟨ht, hless⟩ := hstep s event t hs hguard hnext
      obtain ⟨u, hreach, hquiet⟩ := ih _ (hmeasure ▸ hless) ht rfl
      exact ⟨u, (reachableFrom_of_step hguard hnext).trans hreach, hquiet⟩

/-! ### Two systems in lockstep -/

/-- From related states the same events can happen in both systems, and lead to related states. -/
def Lockstep {τ : Type*} (system : ScheduledSystem σ ε) (other : ScheduledSystem τ ε)
    (related : σ → τ → Prop) : Prop :=
  ∀ s a event, related s a → Option.Rel related (system.step s event) (other.step a event)

variable {τ : Type*} {other : ScheduledSystem τ ε} {related : σ → τ → Prop}

theorem Lockstep.symm (h : Lockstep system other related) :
    Lockstep other system fun a s ↦ related s a := by
  intro a s event hrelated
  have hnext := h s a event hrelated
  generalize system.step s event = left at hnext
  generalize other.step a event = right at hnext ⊢
  cases hnext with
  | some hnext => exact .some hnext
  | none => exact .none

theorem Lockstep.exists_step (h : Lockstep system other related) {s t : σ} {a : τ} {event : ε}
    (hs : related s a) (hstep : system.step s event = some t) :
    ∃ b, other.step a event = some b ∧ related t b := by
  have hnext := h s a event hs
  rw [hstep] at hnext
  generalize other.step a event = stepped at hnext ⊢
  cases hnext with
  | some hb => exact ⟨_, rfl, hb⟩

/-- Related systems reach related states, if the guard of the second allows what that of the first
does. -/
theorem Lockstep.reachableFrom (h : Lockstep system other related) {otherGuard : τ → ε → Prop}
    (hguard : ∀ s a event, related s a → guard s event → otherGuard a event) {s t : σ} {a : τ}
    (hs : related s a) (hreach : system.ReachableFrom guard s t) :
    ∃ b, other.ReachableFrom otherGuard a b ∧ related t b := by
  induction hreach with
  | refl => exact ⟨a, .refl, hs⟩
  | @step t u event _ hallowed hstep ih =>
    obtain ⟨b, hb, hrelated⟩ := ih
    obtain ⟨c, hother, hc⟩ := h.exists_step hrelated hstep
    exact ⟨c, hb.step (hguard t b event hrelated hallowed) hother, hc⟩

/-- Related systems run the same schedules. -/
theorem Lockstep.run_eq_some (h : Lockstep system other related) {otherGuard : τ → ε → Prop}
    [∀ s event, Decidable (guard s event)] [∀ a event, Decidable (otherGuard a event)]
    (hguard : ∀ s a event, related s a → guard s event → otherGuard a event) {s t : σ} {a : τ}
    {schedule : List ε} (hs : related s a) (hrun : system.run guard s schedule = some t) :
    ∃ b, other.run otherGuard a schedule = some b ∧ related t b := by
  induction schedule generalizing s a with
  | nil =>
    obtain rfl := Option.some.inj hrun
    exact ⟨a, rfl, hs⟩
  | cons event rest ih =>
    obtain ⟨hallowed, u, hstep, hrest⟩ := run_cons_eq_some.mp hrun
    obtain ⟨c, hother, hc⟩ := h.exists_step hs hstep
    obtain ⟨b, hb, hrelated⟩ := ih hc hrest
    exact ⟨b, run_cons_eq_some.mpr ⟨hguard s a event hs hallowed, c, hother, hb⟩, hrelated⟩

/-- Where nothing can happen in a system, nothing can happen in the other. -/
theorem Lockstep.quiescent (h : Lockstep system other related) {otherGuard : τ → ε → Prop} {s : σ}
    {a : τ} (hguard : ∀ event, otherGuard a event → guard s event) (hs : related s a)
    (hquiet : system.Quiescent guard s) : other.Quiescent otherGuard a := by
  intro event hallowed
  have hnext := h s a event hs
  rw [hquiet event (hguard event hallowed)] at hnext
  generalize other.step a event = b at hnext
  cases hnext
  rfl

end ScheduledSystem

end NetworkSimulation.Library
