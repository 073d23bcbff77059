import NetworkSimulation.Library.Duplex

/-!
# One party and a stream of messages

A `Feed` is a party with the messages that are still to come to it, in the order they come in, and
the messages it has sent. The party acts as long as it can; where it cannot, it takes the next
message. Nothing else is chosen, so of two feeds that are reached from the same one the first
reached leads to the other (`Reaches.comparable`), and one can say at which message of the stream
something happens.

Messages that a party answers, and then waits as before, are skipped (`reaches_skip`). A phase that
is never left begins after every waiting point outside it, by a message that was still to come there
(`length_unread_lt_of_closed`).
-/

set_option autoImplicit false
set_option relaxedAutoImplicit false

namespace NetworkSimulation.Library

open Relation

/-- A party's state, the messages it has not read yet and the messages it has sent. -/
structure Feed (σ incoming outgoing : Type*) where
  state : σ
  unread : List incoming
  sent : List outgoing

theorem eq_true_of_dropWhile_eq_cons {α : Type*} {p : α → Bool} {list rest : List α} {first : α}
    (h : list.dropWhile (fun other ↦ !p other) = first :: rest) : p first = true := by
  have hhead := List.head?_dropWhile_not (fun other ↦ !p other) list
  rw [h] at hhead
  simpa using hhead

/-- Dropping up to the first match drops at most up to any given one. -/
theorem exists_dropWhile_eq_cons {α : Type*} {p : α → Bool} {a : α} (ha : p a = true)
    (earlier later : List α) :
    ∃ first rest, (earlier ++ a :: later).dropWhile (fun other ↦ !p other) = first :: rest ∧
      p first = true ∧ later <:+ rest := by
  induction earlier with
  | nil => exact ⟨a, later, List.dropWhile_cons_of_neg (by simp [ha]), ha, List.suffix_rfl⟩
  | cons other earlier ih =>
    rw [List.cons_append]
    cases hother : p other with
    | false =>
      rw [List.dropWhile_cons_of_pos (by simp [hother])]
      exact ih
    | true =>
      rw [List.dropWhile_cons_of_neg (by simp [hother])]
      exact ⟨other, _, rfl, hother, (List.suffix_cons a later).trans (List.suffix_append _ _)⟩

/-- What is among the first to pass a test comes after fewer that pass it. -/
theorem exists_split_of_mem_take_filter {α : Type*} {p : α → Bool} {a : α} {list : List α} {n : ℕ}
    (h : a ∈ (list.filter p).take n) :
    ∃ earlier later, list = earlier ++ a :: later ∧ (earlier.filter p).length < n := by
  induction list generalizing n with
  | nil =>
    rw [List.filter_nil, List.take_nil] at h
    cases h
  | cons first list ih =>
    cases n with
    | zero =>
      rw [List.take_zero] at h
      cases h
    | succ n =>
      cases hfirst : p first with
      | false =>
        rw [List.filter_cons_of_neg (by simp [hfirst])] at h
        obtain ⟨earlier, later, rfl, hfew⟩ := ih h
        refine ⟨first :: earlier, later, rfl, ?_⟩
        rwa [List.filter_cons_of_neg (by simp [hfirst])]
      | true =>
        rw [List.filter_cons_of_pos hfirst, List.take_succ_cons] at h
        rcases List.mem_cons.mp h with rfl | hlater
        · exact ⟨[], list, rfl, Nat.succ_pos n⟩
        · obtain ⟨earlier, later, rfl, hfew⟩ := ih hlater
          refine ⟨first :: earlier, later, rfl, ?_⟩
          rw [List.filter_cons_of_pos hfirst, List.length_cons]
          exact Nat.succ_lt_succ hfew

namespace Feed

variable {σ incoming outgoing : Type*} (party : Party σ incoming outgoing)

def advance (feed : Feed σ incoming outgoing) : Option (Feed σ incoming outgoing) :=
  match party.act feed.state with
  | some (acted, message) => some { feed with state := acted, sent := feed.sent ++ message.toList }
  | none =>
    match feed.unread with
    | [] => none
    | message :: rest =>
      (party.take feed.state message).map fun taken ↦ { feed with state := taken, unread := rest }

/-- One feed is reached from another by some number of steps. -/
def Reaches : Feed σ incoming outgoing → Feed σ incoming outgoing → Prop :=
  ReflTransGen fun first second ↦ first.advance party = some second

variable {party} {state next : σ} {message : incoming} {rest : List incoming}
  {sent : List outgoing} {feed first second : Feed σ incoming outgoing}

theorem advance_of_act {output : Option outgoing} (h : party.act state = some (next, output)) :
    advance party ⟨state, rest, sent⟩ = some ⟨next, rest, sent ++ output.toList⟩ := by
  simp only [advance, h]

theorem advance_of_take (hact : party.act state = none)
    (h : party.take state message = some next) :
    advance party ⟨state, message :: rest, sent⟩ = some ⟨next, rest, sent⟩ := by
  simp only [advance, hact, h, Option.map_some]

/-- A step is one of the party on its own or, where there is none, a message taken. -/
theorem advance_eq_some (h : first.advance party = some second) :
    (∃ acted output, party.act first.state = some (acted, output) ∧
      second = { first with state := acted, sent := first.sent ++ output.toList }) ∨
    party.act first.state = none ∧ ∃ message rest taken, first.unread = message :: rest ∧
      party.take first.state message = some taken ∧
        second = { first with state := taken, unread := rest } := by
  unfold advance at h
  cases hact : party.act first.state with
  | some acted =>
    simp only [hact, Option.some.injEq] at h
    exact .inl ⟨acted.1, acted.2, rfl, h.symm⟩
  | none =>
    simp only [hact] at h
    cases hunread : first.unread with
    | nil => simp only [hunread, reduceCtorEq] at h
    | cons message rest =>
      simp only [hunread, Option.map_eq_some_iff] at h
      obtain ⟨taken, htaken, rfl⟩ := h
      exact .inr ⟨rfl, message, rest, taken, rfl, htaken, rfl⟩

theorem Reaches.refl : feed.Reaches party feed := ReflTransGen.refl

theorem Reaches.trans {third : Feed σ incoming outgoing} (h : first.Reaches party second)
    (h' : second.Reaches party third) : first.Reaches party third := ReflTransGen.trans h h'

theorem Reaches.of_act {output : Option outgoing} (h : party.act state = some (next, output)) :
    Reaches party ⟨state, rest, sent⟩ ⟨next, rest, sent ++ output.toList⟩ :=
  ReflTransGen.single (advance_of_act h)

theorem Reaches.of_take (hact : party.act state = none)
    (h : party.take state message = some next) :
    Reaches party ⟨state, message :: rest, sent⟩ ⟨next, rest, sent⟩ :=
  ReflTransGen.single (advance_of_take hact h)

/-- Messages after each of which the party waits as before, having sent its answer to it. -/
theorem reaches_skip {α : Type*} {deliver : α → incoming} {skipped : α → Bool}
    {answer : α → List outgoing} {arrivals : List α} (sent : List outgoing)
    (h : ∀ arrival ∈ arrivals.takeWhile skipped, ∀ rest sent,
      Reaches party ⟨state, deliver arrival :: rest, sent⟩
        ⟨state, rest, sent ++ answer arrival⟩) :
    Reaches party ⟨state, arrivals.map deliver, sent⟩
      ⟨state, (arrivals.dropWhile skipped).map deliver,
        sent ++ (arrivals.takeWhile skipped).flatMap answer⟩ := by
  induction arrivals generalizing sent with
  | nil =>
    rw [List.takeWhile_nil, List.flatMap_nil, List.append_nil]
    exact .refl
  | cons arrival arrivals ih =>
    by_cases hskipped : skipped arrival
    · rw [List.takeWhile_cons_of_pos hskipped] at h ⊢
      rw [List.dropWhile_cons_of_pos hskipped, List.flatMap_cons, ← List.append_assoc]
      have hfirst := h arrival List.mem_cons_self (arrivals.map deliver) sent
      exact hfirst.trans (ih _ fun other hother ↦ h other (List.mem_cons_of_mem _ hother))
    · rw [List.takeWhile_cons_of_neg hskipped, List.dropWhile_cons_of_neg hskipped,
        List.flatMap_nil, List.append_nil]
      exact .refl

/-! ### One run -/

/-- What every step preserves holds in every feed reached. -/
theorem Reaches.invariant {property : Feed σ incoming outgoing → Prop}
    (hstep : ∀ feed next, property feed → feed.advance party = some next → property next)
    (hfirst : property first) (h : first.Reaches party second) : property second := by
  induction h with
  | refl => exact hfirst
  | tail _ hadvance ih => exact hstep _ _ ih hadvance

/-- What the party keeps, whether it acts or takes a message, every step keeps. -/
theorem state_of_advance {kept : σ → Prop}
    (hact : ∀ state next output, kept state → party.act state = some (next, output) → kept next)
    (htake : ∀ state message next, kept state → party.take state message = some next → kept next)
    (feed next : Feed σ incoming outgoing) (hkept : kept feed.state)
    (h : feed.advance party = some next) : kept next.state := by
  rcases advance_eq_some h with ⟨acted, output, hacted, rfl⟩ | ⟨-, _, _, taken, -, htaken, rfl⟩
  · exact hact _ _ _ hkept hacted
  · exact htake _ _ _ hkept htaken

/-- There is one run: of two feeds on it, one comes after the other. -/
theorem Reaches.comparable (h : feed.Reaches party first) (h' : feed.Reaches party second) :
    first.Reaches party second ∨ second.Reaches party first :=
  ReflTransGen.total_of_right_unique
    (fun _ _ _ hone hother ↦ Option.some.inj (hone.symm.trans hother)) h h'

/-- A step leaves the messages to come as they are or takes the first, and sends one at most. -/
theorem grows_of_advance (h : first.advance party = some second) :
    second.unread <:+ first.unread ∧ first.sent <+: second.sent := by
  rcases advance_eq_some h with ⟨acted, output, -, rfl⟩ | ⟨-, message, rest, _, hunread, -, rfl⟩
  · exact ⟨List.suffix_rfl, List.prefix_append _ _⟩
  · rw [hunread]
    exact ⟨List.suffix_cons message rest, List.prefix_rfl⟩

/-- A party that does not act goes on only by a message. -/
theorem length_unread_lt_of_advance (hact : party.act first.state = none)
    (h : first.advance party = some second) : second.unread.length < first.unread.length := by
  rcases advance_eq_some h with ⟨acted, output, hacted, -⟩ | ⟨-, _, rest, _, hunread, -, rfl⟩
  · rw [hact] at hacted
    cases hacted
  · rw [hunread]
    exact Nat.lt_succ_self _

theorem Reaches.grows (h : first.Reaches party second) :
    second.unread <:+ first.unread ∧ first.sent <+: second.sent := by
  induction h with
  | refl => exact ⟨List.suffix_rfl, List.prefix_rfl⟩
  | tail _ hadvance ih =>
    have hstep := grows_of_advance hadvance
    exact ⟨hstep.1.trans ih.1, ih.2.trans hstep.2⟩

theorem Reaches.eq_or_length_unread_lt (hact : party.act first.state = none)
    (h : first.Reaches party second) :
    first = second ∨ second.unread.length < first.unread.length := by
  rcases ReflTransGen.cases_head h with heq | ⟨next, hadvance, hrest⟩
  · exact .inl heq
  · exact .inr
      ((Reaches.grows hrest).1.length_le.trans_lt (length_unread_lt_of_advance hact hadvance))

/-- A set of feeds that is never left is entered after a waiting point outside it, and therefore
with fewer messages to come. -/
theorem length_unread_lt_of_closed {entered : Feed σ incoming outgoing → Prop}
    (hclosed : ∀ feed next, entered feed → feed.advance party = some next → entered next)
    (hfirst : entered first) (hreached : feed.Reaches party first) (hsecond : ¬ entered second)
    (hact : party.act second.state = none) (h : feed.Reaches party second) :
    first.unread.length < second.unread.length := by
  rcases hreached.comparable h with hafter | hbefore
  · exact absurd (hafter.invariant hclosed hfirst) hsecond
  · rcases hbefore.eq_or_length_unread_lt hact with heq | hless
    · exact absurd (heq ▸ hfirst) hsecond
    · exact hless

end Feed

end NetworkSimulation.Library
