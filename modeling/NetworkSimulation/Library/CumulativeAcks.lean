import Mathlib

/-!
# Cumulative acknowledgements

A receiver accepts spans of a stream in order. It answers every span with the position up to which
it has accepted the stream, and stops when that is the end (`answers`). A sender that hears nothing
but these answers, and sends more only when it hears one, has an `Outlook`: the answers on their
way, and those that the spans under way will draw.

The outlook is hopeless (`Outlook.Hopeless`) when nothing more will be heard, or when the end will
not be heard of and no answer will be repeated either, so that the sender never learns that a span
has to be sent again. Nothing here depends on what positions are: an outlook can be mapped along a
strictly monotone function (`Outlook.hopeless_map`).
-/

set_option autoImplicit false
set_option relaxedAutoImplicit false

namespace NetworkSimulation.Library

section Answers

variable {α β : Type*} [DecidableEq α] [DecidableEq β]

/-- The position up to which the stream is accepted after a span. -/
def acceptSpan (accepted : α) (span : α × α) : α := if span.1 = accepted then span.2 else accepted

/-- The answers to spans that arrive in this order. -/
def answers (final : α) : α → List (α × α) → List α
  | _, [] => []
  | accepted, span :: rest =>
    if accepted = final then []
    else acceptSpan accepted span :: answers final (acceptSpan accepted span) rest

variable {final accepted : α} {span : α × α} {rest : List (α × α)}

@[simp]
theorem answers_nil : answers final accepted [] = [] := rfl

/-- A receiver at the end of the stream answers nothing. -/
@[simp]
theorem answers_final (spans : List (α × α)) : answers final final spans = [] := by
  cases spans with
  | nil => rfl
  | cons span rest => rw [answers, if_pos rfl]

theorem answers_cons (h : accepted ≠ final) :
    answers final accepted (span :: rest) =
      acceptSpan accepted span :: answers final (acceptSpan accepted span) rest := by
  rw [answers, if_neg h]

theorem acceptSpan_map {f : α → β} {S : Set α} (hinj : Set.InjOn f S) (haccepted : accepted ∈ S)
    (hstart : span.1 ∈ S) :
    acceptSpan (f accepted) (Prod.map f f span) = f (acceptSpan accepted span) := by
  have hsame : (Prod.map f f span).1 = f accepted ↔ span.1 = accepted :=
    hinj.eq_iff hstart haccepted
  by_cases hnext : span.1 = accepted
  · rw [acceptSpan, acceptSpan, if_pos (hsame.mpr hnext), if_pos hnext, Prod.map_snd]
  · rw [acceptSpan, acceptSpan, if_neg (mt hsame.mp hnext), if_neg hnext]

theorem acceptSpan_mem {S : Set α} (haccepted : accepted ∈ S) (hstop : span.2 ∈ S) :
    acceptSpan accepted span ∈ S := by
  rw [acceptSpan]
  split_ifs
  · exact hstop
  · exact haccepted

variable {S : Set α} {spans : List (α × α)}

theorem answers_mem (haccepted : accepted ∈ S) (hspans : ∀ span ∈ spans, span.1 ∈ S ∧ span.2 ∈ S) :
    ∀ answer ∈ answers final accepted spans, answer ∈ S := by
  induction spans generalizing accepted with
  | nil =>
    intro answer hanswer
    cases hanswer
  | cons span rest ih =>
    have hnext := acceptSpan_mem haccepted (hspans span List.mem_cons_self).2
    rw [answers]
    split_ifs
    · intro answer hanswer
      cases hanswer
    · intro answer hanswer
      rcases List.mem_cons.mp hanswer with rfl | hlater
      · exact hnext
      · exact ih hnext (fun other hother ↦ hspans other (List.mem_cons_of_mem _ hother)) answer hlater

/-- The answers depend only on which positions are equal. -/
theorem answers_map {f : α → β} (hinj : Set.InjOn f S) (hfinal : final ∈ S) (haccepted : accepted ∈ S)
    (hspans : ∀ span ∈ spans, span.1 ∈ S ∧ span.2 ∈ S) :
    answers (f final) (f accepted) (spans.map (Prod.map f f)) =
      (answers final accepted spans).map f := by
  induction spans generalizing accepted with
  | nil => rfl
  | cons span rest ih =>
    obtain ⟨hstart, hstop⟩ := hspans span List.mem_cons_self
    have hrest := ih (acceptSpan_mem haccepted hstop) fun other hother ↦
      hspans other (List.mem_cons_of_mem _ hother)
    by_cases hend : accepted = final
    · rw [hend, answers_final, answers_final, List.map_nil]
    · have hopen : f accepted ≠ f final := mt (hinj.eq_iff haccepted hfinal).mp hend
      rw [List.map_cons, answers_cons hopen, answers_cons hend, List.map_cons,
        acceptSpan_map hinj haccepted hstart, hrest]

end Answers

/-- What a sender can expect to hear: the position at which the stream ends, the position up to
which the sender knows it to be accepted and up to which it is, the answers on their way, the spans
that are under way or sent before the sender listens again, and with them all spans it has not sent
yet. -/
@[ext]
structure Outlook (α : Type*) where
  final : α
  last : α
  accepted : α
  acks : List α
  outgoing : List (α × α)
  upcoming : List (α × α)

namespace Outlook

variable {α β : Type*} [LinearOrder α] [LinearOrder β] (outlook : Outlook α)

/-- What the sender hears if the receiver gets these spans. -/
def prospects (spans : List (α × α)) : List α :=
  outlook.acks ++ answers outlook.final outlook.accepted spans

/-- The sender hears nothing more; or it hears neither of the end nor, from a receiver that still
answers, the same position twice. -/
def Hopeless : Prop :=
  outlook.prospects outlook.outgoing = [] ∨
    outlook.final ∉ outlook.prospects outlook.upcoming ∧
      (outlook.accepted = outlook.final ∨
        (outlook.last :: outlook.prospects outlook.upcoming).IsChain (· < ·))

instance : Decidable outlook.Hopeless :=
  inferInstanceAs (Decidable (_ ∨ _ ∧ (_ ∨ _)))

/-- An outlook in other positions. -/
def map (f : α → β) : Outlook β where
  final := f outlook.final
  last := f outlook.last
  accepted := f outlook.accepted
  acks := outlook.acks.map f
  outgoing := outlook.outgoing.map (Prod.map f f)
  upcoming := outlook.upcoming.map (Prod.map f f)

/-- All positions of an outlook are in a set. -/
structure Within (S : Set α) : Prop where
  final : outlook.final ∈ S
  last : outlook.last ∈ S
  accepted : outlook.accepted ∈ S
  acks : ∀ ack ∈ outlook.acks, ack ∈ S
  outgoing : ∀ span ∈ outlook.outgoing, span.1 ∈ S ∧ span.2 ∈ S
  upcoming : ∀ span ∈ outlook.upcoming, span.1 ∈ S ∧ span.2 ∈ S

variable {outlook} {f : α → β} {S : Set α}

theorem prospects_map (hinj : Set.InjOn f S) (h : outlook.Within S) {spans : List (α × α)}
    (hspans : ∀ span ∈ spans, span.1 ∈ S ∧ span.2 ∈ S) :
    (outlook.map f).prospects (spans.map (Prod.map f f)) = (outlook.prospects spans).map f := by
  rw [prospects, prospects, List.map_append, ← answers_map hinj h.final h.accepted hspans]
  rfl

omit [LinearOrder α] [LinearOrder β] in
/-- Positions that are mapped back are those of the outlook. -/
theorem map_map_of_leftInverse {g : β → α} (h : outlook.Within S)
    (hinverse : ∀ x ∈ S, g (f x) = x) : (outlook.map f).map g = outlook := by
  have hspans (spans : List (α × α)) (hmem : ∀ span ∈ spans, span.1 ∈ S ∧ span.2 ∈ S) :
      (spans.map (Prod.map f f)).map (Prod.map g g) = spans := by
    rw [List.map_map, List.map_congr_left (g := id), List.map_id]
    intro span hspan
    obtain ⟨hstart, hstop⟩ := hmem span hspan
    exact Prod.ext (hinverse _ hstart) (hinverse _ hstop)
  have hacks : (outlook.acks.map f).map g = outlook.acks := by
    rw [List.map_map, List.map_congr_left (g := id), List.map_id]
    exact fun ack hack ↦ hinverse ack (h.acks ack hack)
  ext1
  · exact hinverse _ h.final
  · exact hinverse _ h.last
  · exact hinverse _ h.accepted
  · exact hacks
  · exact hspans _ h.outgoing
  · exact hspans _ h.upcoming

theorem prospects_mem (h : outlook.Within S) {spans : List (α × α)}
    (hspans : ∀ span ∈ spans, span.1 ∈ S ∧ span.2 ∈ S) :
    ∀ answer ∈ outlook.prospects spans, answer ∈ S := by
  intro answer hanswer
  rcases List.mem_append.mp hanswer with hack | hlater
  · exact h.acks answer hack
  · exact answers_mem h.accepted hspans answer hlater

theorem isChain_map_iff (hf : StrictMonoOn f S) {list : List α} (hlist : ∀ x ∈ list, x ∈ S) :
    (list.map f).IsChain (· < ·) ↔ list.IsChain (· < ·) := by
  induction list with
  | nil => simp
  | cons first rest ih =>
    cases rest with
    | nil => simp
    | cons second rest =>
      have hrest := ih fun x hx ↦ hlist x (List.mem_cons_of_mem _ hx)
      have hless := hf.lt_iff_lt (hlist first List.mem_cons_self)
        (hlist second (List.mem_cons_of_mem _ List.mem_cons_self))
      rw [List.map_cons] at hrest
      rw [List.map_cons, List.map_cons, List.isChain_cons_cons, List.isChain_cons_cons, hrest, hless]

/-- Whether an outlook is hopeless does not depend on what positions are. -/
theorem hopeless_map (hf : StrictMonoOn f S) (h : outlook.Within S) :
    (outlook.map f).Hopeless ↔ outlook.Hopeless := by
  have hinj := hf.injOn
  have hupcoming := prospects_mem h h.upcoming
  have hfinal : f outlook.final ∈ (outlook.prospects outlook.upcoming).map f ↔
      outlook.final ∈ outlook.prospects outlook.upcoming := by
    rw [List.mem_map]
    constructor
    · rintro ⟨answer, hanswer, heq⟩
      rwa [← hinj (hupcoming answer hanswer) h.final heq]
    · intro hmem
      exact ⟨_, hmem, rfl⟩
  have hpositions : ∀ position ∈ outlook.last :: outlook.prospects outlook.upcoming, position ∈ S :=
    List.forall_mem_cons.mpr ⟨h.last, hupcoming⟩
  have hchain := isChain_map_iff hf hpositions
  have hend := hinj.eq_iff h.accepted h.final
  rw [List.map_cons] at hchain
  rw [Hopeless, Hopeless]
  change ((outlook.map f).prospects (outlook.outgoing.map (Prod.map f f)) = [] ∨
    f outlook.final ∉ (outlook.map f).prospects (outlook.upcoming.map (Prod.map f f)) ∧
      (f outlook.accepted = f outlook.final ∨
        (f outlook.last ::
          (outlook.map f).prospects (outlook.upcoming.map (Prod.map f f))).IsChain (· < ·))) ↔ _
  rw [prospects_map hinj h h.outgoing, prospects_map hinj h h.upcoming, List.map_eq_nil_iff, hfinal,
    hend, hchain]

/-! ### What changes an outlook -/

/-- An answer to a span under way changes nothing. -/
theorem hopeless_answered {span : α × α} {outgoing upcoming : List (α × α)}
    (hopen : outlook.accepted ≠ outlook.final) (houtgoing : outlook.outgoing = span :: outgoing)
    (hupcoming : outlook.upcoming = span :: upcoming) :
    Hopeless
      { outlook with
        accepted := acceptSpan outlook.accepted span
        acks := outlook.acks ++ [acceptSpan outlook.accepted span], outgoing, upcoming } ↔
      outlook.Hopeless := by
  have hprospects : ∀ spans,
      (outlook.acks ++ [acceptSpan outlook.accepted span]) ++
          answers outlook.final (acceptSpan outlook.accepted span) spans =
        outlook.acks ++ answers outlook.final outlook.accepted (span :: spans) := by
    intro spans
    rw [answers_cons hopen, List.append_assoc, List.singleton_append]
  rw [Hopeless, Hopeless, houtgoing, hupcoming]
  simp only [prospects, hprospects]
  refine or_congr_right (and_congr_right fun hfinal ↦ or_congr_left ?_)
  refine iff_of_false (fun haccepted ↦ hfinal ?_) hopen
  rw [answers_cons hopen, haccepted]
  exact List.mem_append_right _ List.mem_cons_self

/-- An answer that tells the sender something new, but is not the last, changes nothing. -/
theorem hopeless_heard {ack : α} {acks : List α} {outgoing : List (α × α)}
    (hacks : outlook.acks = ack :: acks) (hmore : outlook.last < ack) (hopen : ack ≠ outlook.final)
    (hrest : outgoing = [] → outlook.upcoming = []) :
    Hopeless { outlook with last := ack, acks, outgoing } ↔ outlook.Hopeless := by
  have hprospects : outlook.prospects outlook.upcoming =
      ack :: (acks ++ answers outlook.final outlook.accepted outlook.upcoming) := by
    rw [prospects, hacks, List.cons_append]
  have hsome : outlook.prospects outlook.outgoing ≠ [] := by
    rw [prospects, hacks]
    exact List.cons_ne_nil _ _
  have hchain : ∀ list : List α, (outlook.last :: ack :: list).IsChain (· < ·) ↔
      (ack :: list).IsChain (· < ·) :=
    fun list ↦ List.isChain_cons_cons.trans (and_iff_right hmore)
  have hfinal : ∀ list : List α, outlook.final ∉ ack :: list ↔ outlook.final ∉ list := by
    intro list
    rw [List.mem_cons, not_or, and_iff_right hopen.symm]
  rw [Hopeless, Hopeless, or_iff_right hsome, hprospects, hchain, hfinal]
  refine or_iff_right_of_imp fun hnothing ↦ ?_
  obtain ⟨hnone, hanswers⟩ := List.append_eq_nil_iff.mp hnothing
  by_cases haccepted : outlook.accepted = outlook.final
  · refine ⟨?_, Or.inl haccepted⟩
    change outlook.final ∉ acks ++ answers outlook.final outlook.accepted outlook.upcoming
    rw [haccepted, answers_final, List.append_nil, show acks = [] from hnone]
    exact List.not_mem_nil
  · have hupcoming : outlook.upcoming = [] := by
      refine hrest ?_
      cases outgoing with
      | nil => rfl
      | cons span rest =>
        change answers outlook.final outlook.accepted (span :: rest) = [] at hanswers
        rw [answers_cons haccepted] at hanswers
        cases hanswers
    change outlook.final ∉ acks ++ answers outlook.final outlook.accepted outlook.upcoming ∧ (_ ∨
      (ack :: (acks ++ answers outlook.final outlook.accepted outlook.upcoming)).IsChain (· < ·))
    rw [hupcoming, answers_nil, List.append_nil, show acks = [] from hnone]
    exact ⟨List.not_mem_nil, Or.inr (List.isChain_singleton _)⟩

/-- There is hope while the receiver still answers and the sender hears an answer again. -/
theorem not_hopeless_of_repeated {ack : α} {acks : List α} (hacks : outlook.acks = ack :: acks)
    (hold : ack ≤ outlook.last) (hopen : outlook.accepted ≠ outlook.final) :
    ¬ outlook.Hopeless := by
  rintro (hnothing | ⟨-, haccepted | hchain⟩)
  · rw [prospects, hacks] at hnothing
    cases hnothing
  · exact hopen haccepted
  · rw [prospects, hacks, List.cons_append, List.isChain_cons_cons] at hchain
    exact hold.not_gt hchain.1

/-- Once everything is accepted, only answers on their way matter. -/
theorem hopeless_iff_of_accepted (haccepted : outlook.accepted = outlook.final) :
    outlook.Hopeless ↔ outlook.final ∉ outlook.acks := by
  have hprospects : ∀ spans, outlook.prospects spans = outlook.acks := by
    intro spans
    rw [prospects, haccepted, answers_final, List.append_nil]
  rw [Hopeless, hprospects, hprospects]
  constructor
  · rintro (hnothing | ⟨hfinal, -⟩)
    · rw [hnothing]
      exact List.not_mem_nil
    · exact hfinal
  · intro hfinal
    exact Or.inr ⟨hfinal, Or.inl haccepted⟩

/-- There is hope while the answer for the end is on its way. -/
theorem not_hopeless_of_final_mem (hfinal : outlook.final ∈ outlook.acks) : ¬ outlook.Hopeless := by
  rintro (hnothing | ⟨hnever, -⟩)
  · rw [(List.append_eq_nil_iff.mp hnothing).1] at hfinal
    cases hfinal
  · exact hnever (List.mem_append_left _ hfinal)

/-- There is hope when the spans that are still to come, and of which some are under way, reach the
end. -/
theorem not_hopeless_of_mem (hopen : outlook.accepted ≠ outlook.final)
    (houtgoing : outlook.outgoing ≠ [])
    (hfinal : outlook.final ∈ answers outlook.final outlook.accepted outlook.upcoming) :
    ¬ outlook.Hopeless := by
  rintro (hnothing | ⟨hnever, -⟩)
  · obtain ⟨span, rest, hspans⟩ := List.exists_cons_of_ne_nil houtgoing
    rw [prospects, hspans, answers_cons hopen] at hnothing
    exact List.append_ne_nil_of_right_ne_nil _ (List.cons_ne_nil _ _) hnothing
  · exact hnever (List.mem_append_right _ hfinal)

end Outlook

/-! ### Unit spans -/

/-- The spans of one position each, from one position up to another. -/
def unitSpans (first next : ℕ) : List (ℕ × ℕ) :=
  (List.range' first (next - first)).map fun i ↦ (i, i + 1)

theorem unitSpans_of_le {first next : ℕ} (h : next ≤ first) : unitSpans first next = [] := by
  rw [unitSpans, Nat.sub_eq_zero_of_le h]
  rfl

theorem unitSpans_cons {first next : ℕ} (h : first < next) :
    unitSpans first next = (first, first + 1) :: unitSpans (first + 1) next := by
  have hlength : next - first = next - (first + 1) + 1 := by omega
  rw [unitSpans, hlength, List.range'_succ]
  rfl

/-- Spans from an accepted position on reach the end. -/
theorem final_mem_answers_unitSpans {first accepted final : ℕ} (hfirst : first ≤ accepted)
    (haccepted : accepted < final) : final ∈ answers final accepted (unitSpans first final) := by
  induction hleft : final - first generalizing first accepted with
  | zero => omega
  | succ left ih =>
    rw [unitSpans_cons (hfirst.trans_lt haccepted), answers_cons haccepted.ne]
    rcases hfirst.eq_or_lt with rfl | hless
    · rw [acceptSpan, if_pos rfl]
      rcases (Nat.succ_le_of_lt haccepted).eq_or_lt with hend | hmore
      · exact List.mem_cons.mpr (Or.inl hend.symm)
      · exact List.mem_cons_of_mem _ (ih le_rfl hmore (by omega))
    · rw [acceptSpan, if_neg hless.ne]
      exact List.mem_cons_of_mem _ (ih hless haccepted (by omega))

/-- Whatever is under way before them. -/
theorem final_mem_answers_append {first accepted final : ℕ} {before : List (ℕ × ℕ)}
    (hbefore : ∀ span ∈ before, span.1 ≤ span.2 ∧ span.2 ≤ span.1 + 1) (hfirst : first ≤ accepted)
    (haccepted : accepted < final) :
    final ∈ answers final accepted (before ++ unitSpans first final) := by
  induction before generalizing accepted with
  | nil => exact final_mem_answers_unitSpans hfirst haccepted
  | cons span rest ih =>
    obtain ⟨hgrows, hone⟩ := hbefore span List.mem_cons_self
    rw [List.cons_append, answers_cons haccepted.ne]
    have hnext : accepted ≤ acceptSpan accepted span ∧ acceptSpan accepted span ≤ final := by
      rw [acceptSpan]
      split_ifs <;> omega
    rcases hnext.2.eq_or_lt with hend | hmore
    · exact List.mem_cons.mpr (Or.inl hend.symm)
    · exact List.mem_cons_of_mem _
        (ih (fun other hother ↦ hbefore other (List.mem_cons_of_mem _ hother))
          (hfirst.trans hnext.1) hmore)

end NetworkSimulation.Library
