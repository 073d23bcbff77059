import NetworkSimulation.Library.CumulativeAcks

/-!
# Senders that their answers outrun

A sender whose spans are numbered sends up to `window` of them on every answer. On an answer for
more than it knew to be accepted it goes on where it is; on one that repeats what it knew it starts
again from there. A sender that has started again can be outrun by answers to what it had sent
before: it then knows spans to be accepted that it is about to send.

Whether that will happen is decided by the answers on their way and the one after them
(`Outlook.Outrun`). Either an answer is further ahead than the windows up to it take the sender, or
two answers are the same and one after them is further ahead of these than the windows between. Any
later answer is at most one further than the one before it, so it outruns no sender that the one
before has not (`outrun_answered`).
-/

set_option autoImplicit false
set_option relaxedAutoImplicit false

namespace NetworkSimulation.Library

/-- One of the answers is ahead of a sender that is at `next` and sends a window on each of them.
There are `final` spans, and the answer for all of them ends the transfer. -/
def Outruns (window final : ℕ) : ℕ → List ℕ → Prop
  | _, [] => False
  | next, answer :: later =>
    next < answer ∧ answer ≠ final ∨ Outruns window final (min final (next + window)) later

/-- One of the answers is ahead of a sender that starts again from an answer that is repeated. -/
def OutrunsRestart (window final : ℕ) : List ℕ → Prop
  | [] => False
  | [_] => False
  | first :: second :: later =>
    second = first ∧ Outruns window final (min final (first + window)) later ∨
      OutrunsRestart window final (second :: later)

/-- The first span that a sender at `next` sends on these answers; `last` is what it knows to be
accepted. -/
def firstSent (final : ℕ) : ℕ → ℕ → List ℕ → Option ℕ
  | _, _, [] => none
  | next, last, answer :: later =>
    if answer ≤ last then some last
    else if next < final then some next
    else firstSent final next answer later

instance (window final : ℕ) : ∀ next answers, Decidable (Outruns window final next answers)
  | _, [] => .isFalse id
  | next, _ :: later =>
    have := instDecidableOutruns window final (min final (next + window)) later
    inferInstanceAs (Decidable (_ ∨ _))

instance (window final : ℕ) : ∀ answers, Decidable (OutrunsRestart window final answers)
  | [] => .isFalse id
  | [_] => .isFalse id
  | _ :: second :: later =>
    have := instDecidableOutrunsRestart window final (second :: later)
    inferInstanceAs (Decidable (_ ∨ _))

section Answers

variable {window final next : ℕ} {answers : List ℕ}

/-- A sender that is further on is outrun by no more answers. -/
theorem outruns_anti {before : ℕ} (hle : before ≤ next) (h : Outruns window final next answers) :
    Outruns window final before answers := by
  induction answers generalizing before next with
  | nil => exact h
  | cons answer later ih =>
    rcases h with ⟨hahead, hmore⟩ | hlater
    · exact Or.inl ⟨hle.trans_lt hahead, hmore⟩
    · exact Or.inr (ih (by omega) hlater)

theorem not_outruns_of_final (h : ∀ answer ∈ answers, answer = final) :
    ¬ Outruns window final next answers := by
  induction answers generalizing next with
  | nil => exact id
  | cons answer later ih =>
    rintro (⟨-, hmore⟩ | hlater)
    · exact hmore (h answer List.mem_cons_self)
    · exact ih (fun other hother ↦ h other (List.mem_cons_of_mem _ hother)) hlater

theorem not_outrunsRestart_of_final {first : ℕ} (h : ∀ answer ∈ answers, answer = final) :
    ¬ OutrunsRestart window final (first :: answers) := by
  induction answers generalizing first with
  | nil => exact id
  | cons answer later ih =>
    have hlater : ∀ other ∈ later, other = final :=
      fun other hother ↦ h other (List.mem_cons_of_mem _ hother)
    rintro (⟨-, hoverrun⟩ | hrest)
    · exact not_outruns_of_final hlater hoverrun
    · exact ih hlater hrest

variable {answer following : ℕ}

/-- An answer that is at most one further than the one before outruns nothing new. -/
theorem outruns_append (hwindow : 0 < window) (hnext : following ≤ answer + 1)
    (hgrows : answer ≤ following) (hbound : following ≤ final) :
    Outruns window final next (answers ++ [answer] ++ [following]) ↔
      Outruns window final next (answers ++ [answer]) := by
  induction answers generalizing next with
  | nil =>
    simp only [List.nil_append, List.singleton_append, Outruns, or_false]
    omega
  | cons first later ih => exact or_congr_right ih

theorem outrunsRestart_append (hwindow : 0 < window) (hnext : following ≤ answer + 1)
    (hgrows : answer ≤ following) (hbound : following ≤ final) :
    OutrunsRestart window final (answers ++ [answer] ++ [following]) ↔
      OutrunsRestart window final (answers ++ [answer]) := by
  induction answers with
  | nil =>
    simp only [List.nil_append, List.singleton_append, OutrunsRestart, Outruns, and_false, or_false]
  | cons first later ih =>
    cases later with
    | nil =>
      have hnone : ¬ (answer = first ∧
          Outruns window final (min final (first + window)) [following]) := by
        simp only [Outruns, or_false]
        omega
      exact or_congr (iff_of_false hnone And.right) ih
    | cons second later =>
      exact or_congr (and_congr_right fun _ ↦ outruns_append hwindow hnext hgrows hbound) ih

end Answers

namespace Outlook

variable (outlook : Outlook ℕ)

/-- The answers on their way and the next after them, to the first span that is outgoing or that the
sender sends on these answers. -/
def heard (next : ℕ) : List ℕ :=
  outlook.acks ++ (answers outlook.final outlook.accepted (outlook.outgoing ++
    (firstSent outlook.final next outlook.last outlook.acks).toList.map
      fun index ↦ (index, index + 1))).take 1

/-- The sender will know spans to be accepted that it has not come to. -/
def Outrun (window next : ℕ) : Prop :=
  Outruns window outlook.final next (outlook.heard next) ∨
    OutrunsRestart window outlook.final (outlook.last :: outlook.heard next)

instance (window next : ℕ) : Decidable (outlook.Outrun window next) :=
  inferInstanceAs (Decidable (_ ∨ _))

variable {outlook} {window next : ℕ}

/-- A receiver that has accepted everything answers nothing more. -/
theorem heard_of_accepted (h : outlook.accepted = outlook.final) :
    outlook.heard next = outlook.acks := by
  rw [heard, h, answers_final, List.take_nil, List.append_nil]

theorem outrun_iff_of_accepted (h : outlook.accepted = outlook.final) :
    outlook.Outrun window next ↔ Outruns window outlook.final next outlook.acks ∨
      OutrunsRestart window outlook.final (outlook.last :: outlook.acks) := by
  rw [Outrun, heard_of_accepted h]

/-- With nothing on its way, only the next answer can outrun the sender. -/
theorem outrun_iff_of_acks (h : outlook.acks = []) :
    outlook.Outrun window next ↔ ∃ span rest, outlook.outgoing = span :: rest ∧
      outlook.accepted ≠ outlook.final ∧ next < acceptSpan outlook.accepted span ∧
        acceptSpan outlook.accepted span ≠ outlook.final := by
  have hheard : outlook.heard next =
      (answers outlook.final outlook.accepted outlook.outgoing).take 1 := by
    rw [heard, h, List.nil_append, firstSent, Option.toList_none, List.map_nil, List.append_nil]
  have hnone : ¬ ∃ span rest, ([] : List (ℕ × ℕ)) = span :: rest ∧
      outlook.accepted ≠ outlook.final ∧ next < acceptSpan outlook.accepted span ∧
        acceptSpan outlook.accepted span ≠ outlook.final := by simp
  rw [Outrun, hheard]
  cases houtgoing : outlook.outgoing with
  | nil => exact iff_of_false (or_self_iff.mp ·) hnone
  | cons span rest =>
    rcases eq_or_ne outlook.accepted outlook.final with hend | hopen
    · rw [hend, answers_final]
      exact iff_of_false (or_self_iff.mp ·) fun ⟨_, _, _, hopen, _⟩ ↦ hopen rfl
    · rw [answers_cons hopen]
      change (_ ∧ _ ∨ False) ∨ (_ ∧ False ∨ False) ↔ _
      rw [and_false, or_false, or_false, or_false]
      constructor
      · exact fun ⟨hahead, hmore⟩ ↦ ⟨span, rest, rfl, hopen, hahead, hmore⟩
      · rintro ⟨other, others, hsame, -, hahead, hmore⟩
        obtain ⟨rfl, -⟩ := List.cons.inj hsame
        exact ⟨hahead, hmore⟩

theorem take_answers_of_head {α : Type*} [DecidableEq α] {final accepted : α}
    {spans others : List (α × α)} (h : spans.head? = others.head?) :
    (answers final accepted spans).take 1 = (answers final accepted others).take 1 := by
  cases spans with
  | nil => rw [List.head?_eq_none_iff.mp h.symm]
  | cons span rest =>
    obtain ⟨others, rfl⟩ := List.head?_eq_some_iff.mp h.symm
    rw [answers, answers]
    split_ifs <;> rfl

/-- The first span of a sender that starts somewhere and then goes on by a window. -/
theorem head_firstSent {answer start last : ℕ} {acks : List ℕ} {final : ℕ} (hwindow : 0 < window)
    (hopen : last < final) (hnext : next ≤ final)
    (hstart : start = if last < answer then next else last) :
    ((firstSent final next last (answer :: acks)).toList.map
        fun index ↦ (index, index + 1)).head? =
      ((unitSpans start final).take window ++
        (firstSent final (min final (start + window)) answer acks).toList.map
          fun index ↦ (index, index + 1)).head? := by
  obtain ⟨more, rfl⟩ := Nat.exists_eq_add_one.mpr hwindow
  rw [firstSent]
  split_ifs with hold hroom
  · rw [if_neg (not_lt.mpr hold)] at hstart
    rw [hstart, unitSpans_cons hopen]
    rfl
  · rw [if_pos (not_le.mp hold)] at hstart
    rw [hstart, unitSpans_cons hroom]
    rfl
  · -- all spans have been sent, so the sender sends nothing until an answer is repeated
    rw [if_pos (not_le.mp hold)] at hstart
    have hall : min final (start + (more + 1)) = next := by omega
    rw [hall, hstart, unitSpans_of_le (not_lt.mp hroom)]
    rfl

/-- When the first outgoing span is answered, nothing changes. -/
theorem outrun_answered {span : ℕ × ℕ} {outgoing upcoming : List (ℕ × ℕ)} (hwindow : 0 < window)
    (hopen : outlook.accepted ≠ outlook.final)
    (houtgoing : outlook.outgoing = span :: outgoing)
    (hbound : acceptSpan outlook.accepted span ≤ outlook.final)
    (hunits : ∀ other ∈ outgoing, other.1 ≤ other.2 ∧ other.2 ≤ other.1 + 1) :
    ({ outlook with
        accepted := acceptSpan outlook.accepted span
        acks := outlook.acks ++ [acceptSpan outlook.accepted span]
        outgoing
        upcoming } : Outlook ℕ).Outrun window next ↔ outlook.Outrun window next := by
  have hheard : outlook.heard next = outlook.acks ++ [acceptSpan outlook.accepted span] := by
    rw [heard, houtgoing, List.cons_append, answers_cons hopen]
    rfl
  set answer := acceptSpan outlook.accepted span with hanswer
  rw [Outrun, Outrun, hheard, heard]
  dsimp only
  generalize hsent : outgoing ++ (firstSent outlook.final next outlook.last
    (outlook.acks ++ [answer])).toList.map (fun index ↦ (index, index + 1)) = sent
  rcases eq_or_ne answer outlook.final with hend | hmore
  · rw [hend, answers_final, List.take_nil, List.append_nil]
  · cases sent with
    | nil => rw [answers_nil, List.take_nil, List.append_nil]
    | cons other rest =>
      have hunit : other.1 ≤ other.2 ∧ other.2 ≤ other.1 + 1 := by
        have hother : other ∈ outgoing ++ _ := hsent ▸ List.mem_cons_self
        rcases List.mem_append.mp hother with hold | hnew
        · exact hunits other hold
        · obtain ⟨index, -, rfl⟩ := List.mem_map.mp hnew
          exact ⟨Nat.le_succ _, le_rfl⟩
      have hgrows : answer ≤ acceptSpan answer other ∧ acceptSpan answer other ≤ answer + 1 := by
        rw [acceptSpan]
        split_ifs <;> omega
      have hroom : acceptSpan answer other ≤ outlook.final := by omega
      rw [answers_cons hmore]
      change Outruns _ _ _ (outlook.acks ++ [answer] ++ [acceptSpan answer other]) ∨
        OutrunsRestart _ _ (outlook.last :: (outlook.acks ++ [answer] ++
          [acceptSpan answer other])) ↔ _
      rw [outruns_append hwindow hgrows.2 hgrows.1 hroom, ← List.cons_append, ← List.cons_append,
        outrunsRestart_append hwindow hgrows.2 hgrows.1 hroom]

/-- A sender that has heard the first answer will still be outrun where it was to be, unless it is
outrun by this one. -/
theorem outrun_heard {answer : ℕ} {acks : List ℕ} {upcoming : List (ℕ × ℕ)} (hwindow : 0 < window)
    (hacks : outlook.acks = answer :: acks) (hlast : outlook.last ≤ answer)
    (hopen : outlook.last < outlook.final) (hmore : answer ≠ outlook.final)
    (hbehind : outlook.last ≤ next) (hnext : next ≤ outlook.final) {start : ℕ}
    (hstart : start = if outlook.last < answer then next else outlook.last) :
    outlook.Outrun window next ↔ next < answer ∨
      ({ outlook with
          last := answer
          acks
          outgoing := outlook.outgoing ++ (unitSpans start outlook.final).take window
          upcoming } : Outlook ℕ).Outrun window (min outlook.final (start + window)) := by
  have hheard : outlook.heard next = answer :: ({ outlook with
      last := answer
      acks
      outgoing := outlook.outgoing ++ (unitSpans start outlook.final).take window
      upcoming } : Outlook ℕ).heard (min outlook.final (start + window)) := by
    rw [heard, heard, hacks, List.cons_append]
    refine congrArg (answer :: acks ++ ·) (take_answers_of_head ?_)
    dsimp only
    rw [List.append_assoc, List.head?_append, List.head?_append,
      head_firstSent hwindow hopen hnext hstart]
  rw [Outrun, Outrun, hheard]
  generalize ({ outlook with
      last := answer
      acks
      outgoing := outlook.outgoing ++ (unitSpans start outlook.final).take window
      upcoming } : Outlook ℕ).heard (min outlook.final (start + window)) = later
  change (next < answer ∧ answer ≠ outlook.final ∨
      Outruns window outlook.final (min outlook.final (next + window)) later) ∨
    (answer = outlook.last ∧
      Outruns window outlook.final (min outlook.final (outlook.last + window)) later ∨
      OutrunsRestart window outlook.final (answer :: later)) ↔ next < answer ∨
    (Outruns window outlook.final (min outlook.final (start + window)) later ∨
      OutrunsRestart window outlook.final (answer :: later))
  rcases hlast.eq_or_lt with hold | hnew
  · -- the sender starts again, behind where it would have gone on
    rw [if_neg (by omega)] at hstart
    have hnot : ¬ next < answer := by omega
    have hfurther : Outruns window outlook.final (min outlook.final (next + window)) later →
        Outruns window outlook.final (min outlook.final (outlook.last + window)) later :=
      outruns_anti (by omega)
    subst hstart
    tauto
  · rw [if_pos hnew] at hstart
    have hother : answer ≠ outlook.last := hnew.ne'
    subst hstart
    tauto

end Outlook

end NetworkSimulation.Library
