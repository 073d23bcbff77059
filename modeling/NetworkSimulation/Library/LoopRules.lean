import Mathlib

/-!
# Loops run for a number of rounds

A `while` loop of a program is its body, which from the state before a round either fails, ends the
loop with a result or leaves the state for another round. `loop body rounds` runs it for at most so
many rounds. The loop of the program ends where some number of rounds gives a result; it does not
end where no number does.

An invariant with a measure that every further round decreases gives the result (`exists_loop`). An
invariant alone says what the loop can end with, where its rounds do not fail (`loop_eq_or`) and
where they may (`of_loop_eq_ok`). An invariant under which every round is followed by another
excludes that the loop ends (`loop_diverges`).
-/

set_option autoImplicit false
set_option relaxedAutoImplicit false

namespace NetworkSimulation.Library

/-- How a round of a loop ends: with the state for another round, or with the result of the loop. -/
inductive Round (σ ρ : Type*)
  | again (state : σ)
  | done (result : ρ)
  deriving DecidableEq

/-- Why a loop has no result: it was not given enough rounds, or a round failed. -/
inductive Stop (ε : Type*)
  | outOfRounds
  | fault (error : ε)
  deriving DecidableEq

variable {σ ρ ε : Type*}

/-- A loop, run for at most so many rounds. -/
def loop (body : σ → Except (Stop ε) (Round σ ρ)) : ℕ → σ → Except (Stop ε) ρ
  | 0, _ => .error .outOfRounds
  | rounds + 1, state =>
    match body state with
    | .error stop => .error stop
    | .ok (.again next) => loop body rounds next
    | .ok (.done result) => .ok result

section Rules

variable {body : σ → Except (Stop ε) (Round σ ρ)} {invariant : σ → Prop} {post : ρ → Prop}
  {state : σ}

/-- Every round that starts in the invariant ends the loop as promised, or keeps the invariant and
decreases the measure. -/
def Decreases (body : σ → Except (Stop ε) (Round σ ρ)) (invariant : σ → Prop) (measure : σ → ℕ)
    (post : ρ → Prop) : Prop :=
  ∀ state, invariant state →
    (∃ next, body state = .ok (.again next) ∧ invariant next ∧ measure next < measure state) ∨
      ∃ result, body state = .ok (.done result) ∧ post result

/-- Every round that starts in the invariant ends the loop as promised, keeps the invariant, or runs
out of rounds itself, in a loop inside it. -/
def Keeps (body : σ → Except (Stop ε) (Round σ ρ)) (invariant : σ → Prop) (post : ρ → Prop) :
    Prop :=
  ∀ state, invariant state →
    body state = .error .outOfRounds ∨
      (∃ next, body state = .ok (.again next) ∧ invariant next) ∨
        ∃ result, body state = .ok (.done result) ∧ post result

theorem Decreases.keeps {measure : σ → ℕ} (h : Decreases body invariant measure post) :
    Keeps body invariant post := by
  intro state hinvariant
  rcases h state hinvariant with ⟨next, hbody, hnext, -⟩ | ⟨result, hbody, hpost⟩
  · exact .inr (.inl ⟨next, hbody, hnext⟩)
  · exact .inr (.inr ⟨result, hbody, hpost⟩)

/-- Total correctness: more rounds than the measure give a result. -/
theorem exists_loop {measure : σ → ℕ} (h : Decreases body invariant measure post)
    (hinvariant : invariant state) {rounds : ℕ} (hrounds : measure state < rounds) :
    ∃ result, loop body rounds state = .ok result ∧ post result := by
  induction rounds generalizing state with
  | zero => exact absurd hrounds (Nat.not_lt_zero _)
  | succ rounds ih =>
    rw [loop]
    rcases h state hinvariant with ⟨next, hbody, hnext, hless⟩ | ⟨result, hbody, hpost⟩
    · rw [hbody]
      exact ih hnext (by omega)
    · rw [hbody]
      exact ⟨result, rfl, hpost⟩

/-- Partial correctness: however many rounds the loop is given, it only ends as promised, and it
never fails. -/
theorem loop_eq_or (h : Keeps body invariant post) (hinvariant : invariant state) (rounds : ℕ) :
    loop body rounds state = .error .outOfRounds ∨
      ∃ result, loop body rounds state = .ok result ∧ post result := by
  induction rounds generalizing state with
  | zero => exact .inl rfl
  | succ rounds ih =>
    rw [loop]
    rcases h state hinvariant with hstop | ⟨next, hbody, hnext⟩ | ⟨result, hbody, hpost⟩
    · rw [hstop]
      exact .inl rfl
    · rw [hbody]
      exact ih hnext
    · rw [hbody]
      exact .inr ⟨result, rfl, hpost⟩

/-- A result, of a loop that may also fail, is as promised. -/
theorem of_loop_eq_ok
    (hagain : ∀ state next, invariant state → body state = .ok (.again next) → invariant next)
    (hdone : ∀ state result, invariant state → body state = .ok (.done result) → post result)
    (hinvariant : invariant state) {rounds : ℕ} {result : ρ}
    (hloop : loop body rounds state = .ok result) : post result := by
  induction rounds generalizing state with
  | zero => cases hloop
  | succ rounds ih =>
    rw [loop] at hloop
    cases hbody : body state with
    | error stop =>
      rw [hbody] at hloop
      cases hloop
    | ok round =>
      rw [hbody] at hloop
      cases round with
      | again next => exact ih (hagain state next hinvariant hbody) hloop
      | done last =>
        cases hloop
        exact hdone state _ hinvariant hbody

/-- A loop in which every round is followed by another has no result. -/
theorem loop_diverges
    (h : ∀ state, invariant state → ∃ next, body state = .ok (.again next) ∧ invariant next)
    (hinvariant : invariant state) (rounds : ℕ) :
    loop body rounds state = .error .outOfRounds := by
  induction rounds generalizing state with
  | zero => rfl
  | succ rounds ih =>
    obtain ⟨next, hbody, hnext⟩ := h state hinvariant
    rw [loop, hbody]
    exact ih hnext

end Rules

end NetworkSimulation.Library
