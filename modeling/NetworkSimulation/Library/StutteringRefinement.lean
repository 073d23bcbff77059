import NetworkSimulation.Library.ScheduledSystem

/-!
# A finer system inside a coarser one

What a coarser system does in one step, a finer one does in several, most of which the coarser one
does not notice; and one step of the finer system may be several of the coarser one. An abstraction
takes the states of the finer system to those of the coarser. If every step of the finer system
leads to a state whose abstraction the coarser system reaches from the abstraction of the state
before (`Refines`), then abstractions of reachable states are reachable, and every invariant of the
coarser system is one of the finer.

Termination needs more, since the steps that are not noticed could go on for ever. A rank in a
well-founded order that every step decreases excludes infinite runs and leads from every state to
one where nothing can happen. The ranks that come up are pairs: a measure of the abstraction, and a
measure of what the abstraction does not see. Where the abstraction is a relation, a state has a
rank for each state that it represents (`not_exists_infiniteRun_of_ranks`).
-/

set_option autoImplicit false
set_option relaxedAutoImplicit false

namespace NetworkSimulation.Library.ScheduledSystem

variable {σ ε τ δ : Type*} {system : ScheduledSystem σ ε} {coarse : ScheduledSystem τ δ}
  {guard : σ → ε → Prop} {coarseGuard : τ → δ → Prop}

/-! ### Abstraction -/

/-- Every step of the system from a reachable state whose abstraction is reachable is some steps, or
none, of the coarser system. -/
structure Refines (system : ScheduledSystem σ ε) (guard : σ → ε → Prop)
    (coarse : ScheduledSystem τ δ) (coarseGuard : τ → δ → Prop) (abstraction : σ → τ) : Prop where
  init : coarse.Reachable coarseGuard (abstraction system.init)
  step : ∀ s event t, system.Reachable guard s → coarse.Reachable coarseGuard (abstraction s) →
    guard s event → system.step s event = some t →
      coarse.ReachableFrom coarseGuard (abstraction s) (abstraction t)

/-- The abstraction of a reachable state is reachable. -/
theorem Refines.reachable {abstraction : σ → τ}
    (h : Refines system guard coarse coarseGuard abstraction) {s : σ}
    (hs : system.Reachable guard s) : coarse.Reachable coarseGuard (abstraction s) := by
  induction hs with
  | refl => exact h.init
  | step hs hguard hstep ih => exact ih.trans (h.step _ _ _ hs ih hguard hstep)

/-! ### Ranks -/

section Rank

variable {ρ : Type*} [LT ρ] [WellFoundedLT ρ]

/-- A state may have several ranks. Where every allowed step leads from each of them to a smaller
one, no run is infinite. -/
theorem not_exists_infiniteRun_of_ranks {ranks : σ → ρ → Prop}
    (hstep : ∀ s bound event t, ranks s bound → guard s event → system.step s event = some t →
      ∃ less < bound, ranks t less) :
    ¬ ∃ states : ℕ → σ, (∃ bound, ranks (states 0) bound) ∧
      ∀ i, ∃ event, guard (states i) event ∧
        system.step (states i) event = some (states (i + 1)) := by
  rintro ⟨states, ⟨bound, hstart⟩, hruns⟩
  have hnone : ∀ (bound : ρ) i, ¬ ranks (states i) bound := by
    intro bound
    induction bound using WellFoundedLT.induction with
    | ind bound ih =>
      intro i hbound
      obtain ⟨event, hguard, hnext⟩ := hruns i
      obtain ⟨less, hless, hranks⟩ := hstep _ _ _ _ hbound hguard hnext
      exact ih less hless (i + 1) hranks
  exact hnone bound 0 hstart

variable {property : σ → Prop} {rank : σ → ρ}

/-- A rank that every allowed step decreases excludes infinite runs. -/
theorem not_exists_infiniteRun_of_rank
    (hstep : ∀ s event t, property s → guard s event → system.step s event = some t →
      property t ∧ rank t < rank s) :
    ¬ ∃ states : ℕ → σ, property (states 0) ∧
      ∀ i, ∃ event, guard (states i) event ∧
        system.step (states i) event = some (states (i + 1)) := by
  rintro ⟨states, hstart, hruns⟩
  have hranks : ∀ s bound event t, (property s ∧ rank s = bound) → guard s event →
      system.step s event = some t → ∃ less < bound, property t ∧ rank t = less := by
    rintro s bound event t ⟨hs, rfl⟩ hguard hnext
    obtain ⟨ht, hless⟩ := hstep s event t hs hguard hnext
    exact ⟨_, hless, ht, rfl⟩
  exact not_exists_infiniteRun_of_ranks hranks ⟨states, ⟨_, hstart, rfl⟩, hruns⟩

/-- A rank that every allowed step decreases leads to a state where nothing that is allowed can
happen. -/
theorem exists_quiescent_of_rank
    (hstep : ∀ s event t, property s → guard s event → system.step s event = some t →
      property t ∧ rank t < rank s) {s : σ} (hs : property s) :
    ∃ t, system.ReachableFrom guard s t ∧ system.Quiescent guard t := by
  induction hrank : rank s using WellFoundedLT.induction generalizing s with
  | ind bound ih =>
    by_cases hquiet : system.Quiescent guard s
    · exact ⟨s, .refl, hquiet⟩
    · simp only [Quiescent, not_forall, ← Option.isSome_iff_ne_none, Option.isSome_iff_exists]
        at hquiet
      obtain ⟨event, hguard, t, hnext⟩ := hquiet
      obtain ⟨ht, hless⟩ := hstep s event t hs hguard hnext
      obtain ⟨u, hreach, hquiet⟩ := ih _ (hrank ▸ hless) ht rfl
      exact ⟨u, (reachableFrom_of_step hguard hnext).trans hreach, hquiet⟩

end Rank

end NetworkSimulation.Library.ScheduledSystem
