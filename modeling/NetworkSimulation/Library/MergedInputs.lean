import Mathlib

/-!
# A machine fed by several sources

A machine takes one input after the other; some of them are from the source one looks at. What the
others send is harmless if it leads from a state to one that is alike. When alike states stay alike
under the inputs of the source (`Unwinding`), two sequences with the same inputs of the source, and
harmless ones otherwise, lead to alike states (`Unwinding.alike_foldl`) and make the machine stop
after equally many inputs of the source (`Unwinding.seenUntil_eq`).
-/

set_option autoImplicit false
set_option relaxedAutoImplicit false

namespace NetworkSimulation.Library.MergedInputs

variable {σ ε : Type*} (step : σ → ε → σ) (seen : ε → Prop) [DecidablePred seen]

section Definitions

variable (stop : σ → Prop) [DecidablePred stop]

/-- How many inputs of the source the machine has taken when it stops; `none` if it does not. -/
def seenUntil : σ → List ε → Option ℕ
  | s, [] => if stop s then some 0 else none
  | s, input :: rest =>
    if stop s then some 0
    else (seenUntil (step s input) rest).map (· + if seen input then 1 else 0)

/-- Every input that is not from the source is harmless where it arrives. -/
def Harmless (harmless : σ → ε → Prop) : σ → List ε → Prop
  | _, [] => True
  | s, input :: rest => (seen input ∨ harmless s input) ∧ Harmless harmless (step s input) rest

instance decidableHarmless (harmless : σ → ε → Prop) [∀ s input, Decidable (harmless s input)] :
    ∀ s inputs, Decidable (Harmless step seen harmless s inputs)
  | _, [] => .isTrue trivial
  | s, input :: rest =>
    have := decidableHarmless harmless (step s input) rest
    inferInstanceAs (Decidable ((seen input ∨ harmless s input) ∧ _))

/-- What the machine does to alike states. -/
structure Unwinding (good : σ → Prop) (alike : σ → σ → Prop) (harmless : σ → ε → Prop) : Prop where
  equivalence : Equivalence alike
  keeps : ∀ s input, good s → good (step s input)
  stops : ∀ s t, alike s t → (stop s ↔ stop t)
  follows : ∀ s t input, good s → good t → alike s t → alike (step s input) (step t input)
  ignores : ∀ s input, good s → harmless s input → alike (step s input) s

end Definitions

variable {step seen} {stop good : σ → Prop} [DecidablePred stop] {alike : σ → σ → Prop}
  {harmless : σ → ε → Prop} {s t : σ} {inputs : List ε}

theorem seenUntil_of_stop (h : stop s) : seenUntil step seen stop s inputs = some 0 := by
  cases inputs with
  | nil => rw [seenUntil, if_pos h]
  | cons input rest => rw [seenUntil, if_pos h]

namespace Unwinding

variable (h : Unwinding step stop good alike harmless)
include h

/-- Harmless inputs can be left out. -/
theorem filter (hs : good s) (ht : good t) (halike : alike s t)
    (hinputs : Harmless step seen harmless s inputs) :
    alike (inputs.foldl step s) ((inputs.filter seen).foldl step t) ∧
      seenUntil step seen stop s inputs = seenUntil step seen stop t (inputs.filter seen) := by
  induction inputs generalizing s t with
  | nil =>
    refine ⟨halike, ?_⟩
    simp only [List.filter_nil, seenUntil, h.stops s t halike]
  | cons input rest ih =>
    obtain ⟨hinput, hrest⟩ := hinputs
    by_cases hseen : seen input
    · obtain ⟨hend, hcount⟩ := ih (h.keeps s input hs) (h.keeps t input ht)
        (h.follows s t input hs ht halike) hrest
      rw [List.filter_cons_of_pos (by simpa using hseen)]
      refine ⟨hend, ?_⟩
      simp only [seenUntil, h.stops s t halike, hcount]
    · obtain ⟨hend, hcount⟩ := ih (h.keeps s input hs) ht
        (h.equivalence.trans (h.ignores s input hs (hinput.resolve_left hseen)) halike) hrest
      rw [List.filter_cons_of_neg (by simpa using hseen)]
      refine ⟨hend, ?_⟩
      rw [seenUntil, hcount, if_neg hseen]
      split_ifs with hstop
      · rw [seenUntil_of_stop ((h.stops s t halike).mp hstop)]
      · exact Option.map_id'

variable {others : List ε} (hs : good s) (hsame : inputs.filter seen = others.filter seen)
  (hinputs : Harmless step seen harmless s inputs) (hothers : Harmless step seen harmless s others)
include hs hsame hinputs hothers

theorem alike_foldl : alike (inputs.foldl step s) (others.foldl step s) := by
  have hleft := (h.filter hs hs (h.equivalence.refl s) hinputs).1
  have hright := (h.filter hs hs (h.equivalence.refl s) hothers).1
  rw [hsame] at hleft
  exact h.equivalence.trans hleft (h.equivalence.symm hright)

theorem seenUntil_eq : seenUntil step seen stop s inputs = seenUntil step seen stop s others := by
  rw [(h.filter hs hs (h.equivalence.refl s) hinputs).2, hsame,
    (h.filter hs hs (h.equivalence.refl s) hothers).2]

end Unwinding

end NetworkSimulation.Library.MergedInputs
