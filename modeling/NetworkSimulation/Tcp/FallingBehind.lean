import NetworkSimulation.Library.OutrunSender
import NetworkSimulation.Tcp.Stranding

/-!
# Clients that fall behind

The client's two indices are moved independently: an ACK that it had before takes
`next_segment_index` back to `last_unACKd_index`, and a later one takes `last_unACKd_index` on
without a look at the other. A client falls behind if an ACK comes for segments that it has not come
to again.

As the server's answers grow and the channels keep the order, an ACK that the client takes repeats
what it knows or is for more (`InSequence`). So a client that has not fallen behind yet is a sender
that starts again where an answer is repeated, and `FallsBehind` says that the answers on their way
outrun it. Apart from drops no step makes a client fall behind that was not to, and one that is to
fall behind stays so until it has (`fallsBehind_step`). And it will, if nothing more is dropped
(`exists_behind`).
-/

set_option autoImplicit false
set_option relaxedAutoImplicit false

namespace NetworkSimulation.Tcp.AckClocked

open Library

/-- The client sends no segment from its loop that it knows to be acknowledged. -/
def Client.KeepsUp (client : Client) : Prop :=
  client.point.InLoop → client.last ≤ client.next

/-- No segment is beyond the last, and the ACKs are on their way in the order of what they
acknowledge. -/
structure InSequence (count : ℕ) (s : State) : Prop where
  next_le : s.client.next ≤ count
  sorted : s.client.point.InLoop → (s.client.last :: (outlook count s).acks).Pairwise (· ≤ ·)

/-- The ACKs will outrun the client, which sends two segments on each of them. -/
def FallsBehind (count : ℕ) (s : State) : Prop :=
  s.client.point.InLoop ∧
    (outlook count s).Outrun 2 (min count (s.client.next + s.client.point.sends))

section Steps

variable {count : ℕ} {s t : State}

theorem fallsBehind_iff_of_inLoop (hloop : s.client.point.InLoop) :
    FallsBehind count s ↔
      (outlook count s).Outrun 2 (min count (s.client.next + s.client.point.sends)) :=
  and_iff_right hloop

/-- What is acknowledged has been accepted. -/
theorem Safe.acks_le (hs : Safe count s) (hloop : s.client.point.InLoop) :
    ∀ ack ∈ (outlook count s).acks, ack ≤ s.server.accepted := by
  intro ack hack
  rcases List.mem_append.mp hack with hflight | hprepared
  · obtain ⟨message, hmessage, rfl⟩ := List.mem_map.mp hflight
    rcases hs.of_inLoop hloop with htransfer | ⟨-, -, hdown⟩
    · obtain ⟨accepted, hle, rfl⟩ := htransfer.toClient message hmessage
      exact hle
    · rw [hdown] at hmessage
      cases hmessage
  · split_ifs at hprepared
    · rw [List.mem_singleton.mp hprepared, hs.accepted_reply hloop]
    · cases hprepared

theorem le_acceptSpan {accepted : ℕ} {span : ℕ × ℕ} (h : span.1 ≤ span.2) :
    accepted ≤ acceptSpan accepted span := by
  rw [acceptSpan]
  split_ifs <;> omega

/-! ### The order of the ACKs -/

/-- An ACK that the client takes is for no less than it knew. -/
theorem InSequence.last_le {message : Down} {rest : List Down} (h : InSequence count s)
    (hloop : s.client.point.InLoop) (hfront : s.toClient = message :: rest) :
    s.client.last ≤ message.accepted := by
  refine List.rel_of_pairwise_cons (h.sorted hloop) ?_
  rw [outlook, hfront]
  exact List.mem_cons_self

theorem InSequence.dropToServer (h : InSequence count s) (i : ℕ) :
    InSequence count { s with toServer := s.toServer.eraseIdx i } where
  next_le := h.next_le
  sorted := h.sorted

theorem InSequence.dropToClient (h : InSequence count s) (i : ℕ) :
    InSequence count { s with toClient := s.toClient.eraseIdx i } where
  next_le := h.next_le
  sorted hloop := by
    refine (h.sorted hloop).sublist (List.Sublist.cons_cons _ ?_)
    exact ((List.eraseIdx_sublist s.toClient i).map Down.accepted).append (List.Sublist.refl _)

theorem next_sendSegment_le {client : Client} (point : ClientPoint) (hnext : client.next ≤ count) :
    (client.sendSegment count point).1.next ≤ count := by
  rw [Client.sendSegment]
  split_ifs with hmore
  · exact hmore
  · exact hnext

theorem last_sendSegment (client : Client) (point : ClientPoint) :
    (client.sendSegment count point).1.last = client.last := by
  rw [Client.sendSegment]
  split_ifs <;> rfl

theorem InSequence.sendSegment (h : InSequence count s) (hloop : s.client.point.InLoop)
    (point : ClientPoint) :
    InSequence count { s with
      client := (s.client.sendSegment count point).1
      toServer := s.toServer ++ (s.client.sendSegment count point).2.toList
      clientSent := s.clientSent ++ (s.client.sendSegment count point).2.toList } where
  next_le := next_sendSegment_le point h.next_le
  sorted _ := by
    rw [last_sendSegment]
    exact h.sorted hloop

/-- Nothing has been acknowledged when the client is about to complete the handshake. -/
theorem Safe.toClient_of_sendACK (hs : Safe count s) (hpoint : s.client.point = .sendACK) :
    s.toClient = [] := by
  cases hs with
  | opening _ _ _ hdown => exact hdown
  | synSent _ _ _ hdown => exact hdown
  | synTaken _ _ _ hdown => exact hdown
  | synackSent hclient => simp [hclient] at hpoint
  | synackTaken _ _ _ hdown => exact hdown
  | firstSegment _ _ _ hdown => exact hdown
  | transfer htransfer => rcases htransfer.clientPoint with h | h | h | h <;> simp [h] at hpoint

theorem inSequence_clientActs (hs : Safe count s) (hseq : InSequence count s)
    (h : Duplex.step (client count) (server count) s .clientActs = some t) :
    InSequence count t := by
  obtain ⟨acted, sent, hacts, rfl⟩ := Duplex.step_clientActs h
  cases Client.acts_of_act hacts with
  | sendSYN hpoint =>
    refine ⟨hseq.next_le, ?_⟩
    rintro (hloop | hloop | hloop) <;> cases hloop
  | sendACK hpoint =>
    obtain ⟨-, hserver, -⟩ := hs.of_sendACK hpoint
    refine ⟨hseq.next_le, fun _ ↦ ?_⟩
    rw [outlook, hserver, hs.toClient_of_sendACK hpoint]
    exact List.pairwise_singleton _ _
  | loopTop hpoint hmore => exact hseq.sendSegment (Or.inl hpoint) _
  | finish hpoint hdone =>
    refine ⟨hseq.next_le, ?_⟩
    rintro (hloop | hloop | hloop) <;> cases hloop
  | sendAnother hpoint => exact hseq.sendSegment (Or.inr (Or.inr hpoint)) _

theorem inSequence_serverActs (hs : Safe count s) (hseq : InSequence count s)
    (h : Duplex.step (client count) (server count) s .serverActs = some t) :
    InSequence count t := by
  obtain ⟨acted, sent, hacts, rfl⟩ := Duplex.step_serverActs h
  refine ⟨hseq.next_le, fun hloop ↦ ?_⟩
  have hserver := hs.server_of_inLoop hloop
  cases Server.acts_of_act hacts with
  | sendSYNACK hpoint => simp [hpoint] at hserver
  | resendSYNACK hpoint => simp [hpoint] at hserver
  | sendReply hpoint =>
    rw [outlook_sendReply hpoint]
    exact hseq.sorted hloop

theorem inSequence_clientTakes (hs : Safe count s) (hseq : InSequence count s)
    (h : Duplex.step (client count) (server count) s (.clientTakes 0) = some t) :
    InSequence count t := by
  obtain ⟨message, taken, hmessage, htakes, rfl⟩ := Duplex.step_clientTakes h
  have hfront := Duplex.eq_cons_of_getElem?_zero hmessage
  cases Client.takes_of_take htakes with
  | waitSYNACK hpoint =>
    refine ⟨hseq.next_le, ?_⟩
    rintro (hloop | hloop | hloop) <;> simp only at hloop <;> split_ifs at hloop
  | waitACK hpoint =>
    have hloop : s.client.point.InLoop := Or.inr (Or.inl hpoint)
    constructor
    · change (if s.client.last < message.accepted then s.client.next else s.client.last) ≤ count
      split_ifs
      · exact hseq.next_le
      · exact hs.last_le_accepted.trans hs.accepted_le
    · intro _
      have hsorted := hseq.sorted hloop
      rw [outlook, hfront] at hsorted
      change List.Pairwise _ (max s.client.last message.accepted :: _)
      rw [max_eq_right (hseq.last_le hloop hfront)]
      exact hsorted.of_cons
  | returned hpoint =>
    refine ⟨hseq.next_le, fun hloop ↦ ?_⟩
    simp [hpoint, ClientPoint.InLoop] at hloop

theorem inSequence_serverTakes (hs : Safe count s) (hseq : InSequence count s)
    (h : Duplex.step (client count) (server count) s (.serverTakes 0) = some t) :
    InSequence count t := by
  obtain ⟨message, taken, hmessage, htakes, rfl⟩ := Duplex.step_serverTakes h
  refine ⟨hseq.next_le, fun hloop ↦ ?_⟩
  have hserver := hs.server_of_inLoop hloop
  have hsorted := hseq.sorted hloop
  cases Server.takes_of_take htakes with
  | waitSYN hpoint => simp [hpoint] at hserver
  | waitACK hpoint =>
    obtain ⟨-, hfirst⟩ := hs.eq_ack_or_segment_zero hpoint (List.mem_of_getElem? hmessage)
    have hnotSyn : message ≠ .syn := by rcases hfirst with rfl | rfl <;> simp
    rw [outlook, hpoint] at hsorted
    rw [if_neg hnotSyn]
    exact hsorted
  | waitSegment hpoint =>
    rw [outlook_answered hpoint (hs.accepted_reply hloop)]
    have hunit : message.span.1 ≤ message.span.2 :=
      (span_bounds [message] _ (List.mem_singleton_self _)).1
    have hgrows : s.server.accepted ≤ acceptSpan s.server.accepted message.span :=
      le_acceptSpan hunit
    change ((s.client.last :: (outlook count s).acks) ++ [_]).Pairwise (· ≤ ·)
    refine List.pairwise_append.mpr ⟨hsorted, List.pairwise_singleton _ _, ?_⟩
    intro ack hack _ hlast
    rw [List.mem_singleton.mp hlast]
    rcases List.mem_cons.mp hack with rfl | hack
    · exact hs.last_le_accepted.trans hgrows
    · exact (hs.acks_le hloop ack hack).trans hgrows
  | returned hpoint => exact hsorted

theorem inSequence_step (event : Duplex.Event) (hs : Safe count s)
    (hseq : InSequence count s) (hguard : Duplex.inOrder s event)
    (h : Duplex.step (client count) (server count) s event = some t) : InSequence count t := by
  cases event with
  | clientActs => exact inSequence_clientActs hs hseq h
  | serverActs => exact inSequence_serverActs hs hseq h
  | clientTakes position =>
    obtain rfl : position = 0 := hguard
    exact inSequence_clientTakes hs hseq h
  | serverTakes position =>
    obtain rfl : position = 0 := hguard
    exact inSequence_serverTakes hs hseq h
  | dropToServer position =>
    rw [Duplex.step_dropToServer h]
    exact hseq.dropToServer position
  | dropToClient position =>
    rw [Duplex.step_dropToClient h]
    exact hseq.dropToClient position

/-! ### Steps without losses -/

/-- A client that is not in its loop neither falls behind nor is behind. -/
theorem not_behind_of_elsewhere (hloop : ¬ s.client.point.InLoop) :
    ¬ (FallsBehind count s ∨ ¬ s.client.KeepsUp) := by
  rintro (⟨hstill, -⟩ | hbehind)
  · exact hloop hstill
  · exact hbehind fun hstill ↦ absurd hstill hloop

theorem keepsUp_sendSegment (hkeeps : s.client.KeepsUp) (hloop : s.client.point.InLoop)
    (point : ClientPoint) : (s.client.sendSegment count point).1.KeepsUp := by
  intro _
  rw [last_sendSegment, Client.sendSegment]
  split_ifs
  · exact (hkeeps hloop).trans (Nat.le_succ _)
  · exact hkeeps hloop

/-- A client that is about to send a segment falls behind before that as after. -/
theorem fallsBehind_sendSegment {point : ClientPoint} (hseq : InSequence count s)
    (hloop : s.client.point.InLoop) (hpoint : point.InLoop)
    (hsends : s.client.point.sends = point.sends + 1) :
    FallsBehind count { s with
      client := (s.client.sendSegment count point).1
      toServer := s.toServer ++ (s.client.sendSegment count point).2.toList
      clientSent := s.clientSent ++ (s.client.sendSegment count point).2.toList } ↔
      FallsBehind count s := by
  have hnext : min count ((s.client.sendSegment count point).1.next + point.sends) =
      min count (s.client.next + s.client.point.sends) := by
    have hbound := hseq.next_le
    rw [Client.sendSegment, hsends]
    split_ifs with hmore
    · exact congrArg (min count) (by dsimp only; omega)
    · dsimp only
      omega
  rw [fallsBehind_iff_of_inLoop hloop, fallsBehind_iff_of_inLoop, outlook_sendSegment hsends,
    point_sendSegment, hnext]
  exact (point_sendSegment s.client point).symm ▸ hpoint

theorem fallsBehind_clientActs (hcount : 0 < count) (hs : Safe count s) (hseq : InSequence count s)
    (hkeeps : s.client.KeepsUp)
    (h : Duplex.step (client count) (server count) s .clientActs = some t) :
    FallsBehind count s ↔ FallsBehind count t ∨ ¬ t.client.KeepsUp := by
  obtain ⟨acted, sent, hacts, rfl⟩ := Duplex.step_clientActs h
  cases Client.acts_of_act hacts with
  | sendSYN hpoint =>
    have helsewhere : ¬ s.client.point.InLoop := by simp [hpoint, ClientPoint.InLoop]
    exact iff_of_false (mt And.left helsewhere)
      (not_behind_of_elsewhere (by simp [ClientPoint.InLoop]))
  | sendACK hpoint =>
    obtain ⟨hclient, hserver, hup⟩ := hs.of_sendACK hpoint
    have hdown := hs.toClient_of_sendACK hpoint
    have helsewhere : ¬ s.client.point.InLoop := by simp [hpoint, ClientPoint.InLoop]
    have hspans : unitSpans 0 count = (0, 1) :: unitSpans 1 count := unitSpans_cons hcount
    refine iff_of_false (mt And.left helsewhere) ?_
    rintro (⟨-, houtrun⟩ | hbehind)
    · -- the first answer is that the first segment has been accepted
      rw [Outlook.outrun_iff_of_acks (by rw [outlook, hserver, hdown]; rfl)] at houtrun
      obtain ⟨span, rest, houtgoing, -, hahead, -⟩ := houtrun
      rw [outlook, hserver, hclient, hup, hspans] at houtgoing
      obtain ⟨rfl, -⟩ : (0, 1) = span ∧ [] = rest := List.cons.inj houtgoing
      rw [hclient, outlook, hserver] at hahead
      change min count (0 + 1) < 1 at hahead
      omega
    · rw [hclient] at hbehind
      exact hbehind fun _ ↦ le_rfl
  | loopTop hpoint hmore =>
    have hloop : s.client.point.InLoop := Or.inl hpoint
    rw [fallsBehind_sendSegment hseq hloop (Or.inr (Or.inl rfl)) (by rw [hpoint]; rfl)]
    exact (or_iff_left (not_not.mpr (keepsUp_sendSegment hkeeps hloop _))).symm
  | finish hpoint hdone => exact absurd (hs.last_lt hcount (Or.inl hpoint)) hdone
  | sendAnother hpoint =>
    have hloop : s.client.point.InLoop := Or.inr (Or.inr hpoint)
    rw [fallsBehind_sendSegment hseq hloop (Or.inl rfl) (by rw [hpoint]; rfl)]
    exact (or_iff_left (not_not.mpr (keepsUp_sendSegment hkeeps hloop _))).symm

theorem fallsBehind_serverActs (hs : Safe count s) (hkeeps : s.client.KeepsUp)
    (h : Duplex.step (client count) (server count) s .serverActs = some t) :
    FallsBehind count s ↔ FallsBehind count t ∨ ¬ t.client.KeepsUp := by
  obtain ⟨acted, sent, hacts, rfl⟩ := Duplex.step_serverActs h
  refine Iff.trans ?_ (or_iff_left (not_not.mpr hkeeps)).symm
  refine and_congr_right fun hloop ↦ ?_
  have hserver := hs.server_of_inLoop hloop
  cases Server.acts_of_act hacts with
  | sendSYNACK hpoint => simp [hpoint] at hserver
  | resendSYNACK hpoint => simp [hpoint] at hserver
  | sendReply hpoint => rw [outlook_sendReply hpoint]

/-- No answer outruns a client that is about to take the ACK for all segments. -/
theorem not_outrun_of_final (hs : Safe count s) (hseq : InSequence count s)
    (hloop : s.client.point.InLoop) {rest : List Down} (hfront : s.toClient = .upTo count :: rest)
    (next : ℕ) : ¬ (outlook count s).Outrun 2 next := by
  have hfirst : (outlook count s).acks = count :: (rest.map Down.accepted ++
      if s.server.point = .sendReply then [s.server.reply.accepted] else []) := by
    rw [outlook, hfront]
    rfl
  have hend : s.server.accepted = count :=
    hs.accepted_le.antisymm (hs.acks_le hloop count (hfirst ▸ List.mem_cons_self))
  have hheard : (outlook count s).heard next = (outlook count s).acks := by
    rw [Outlook.heard]
    change (outlook count s).acks ++ (answers count s.server.accepted _).take 1 = _
    rw [hend, answers_final, List.take_nil, List.append_nil]
  have hall : ∀ ack ∈ (outlook count s).heard next, ack = count := by
    intro ack hack
    rw [hheard] at hack
    refine ((hs.acks_le hloop ack hack).trans hs.accepted_le).antisymm ?_
    have hsorted := (hseq.sorted hloop).of_cons
    rw [hfirst] at hsorted hack
    rcases List.mem_cons.mp hack with rfl | hlater
    · exact le_rfl
    · exact List.rel_of_pairwise_cons hsorted hlater
  rintro (houtrun | houtrun)
  · exact not_outruns_of_final hall houtrun
  · exact not_outrunsRestart_of_final hall houtrun

/-- The client is behind after an ACK exactly if it is for segments that it had not come to. -/
theorem not_keepsUp_takeACK {client : Client} {accepted : ℕ} (hle : client.last ≤ client.next)
    (hknown : client.last ≤ accepted) (hmore : accepted ≠ count) :
    ¬ (client.takeACK count accepted).KeepsUp ↔ client.next < accepted := by
  have hstill : (client.takeACK count accepted).point.InLoop := by
    simp [Client.takeACK, hmore, ClientPoint.InLoop]
  rw [Client.KeepsUp, imp_iff_right hstill, Client.takeACK]
  dsimp only
  split_ifs <;> omega

/-- What the client expects after an ACK: it sends two segments, from where it goes on or from where
it starts again. -/
theorem outlook_takeACK {accepted start : ℕ} (hpoint : s.client.point = .waitACK)
    (hknown : s.client.last ≤ accepted) (hmore : accepted ≠ count)
    (hanswering : s.server.point.unanswered = 0)
    (hstart : start = if s.client.last < accepted then s.client.next else s.client.last) :
    outlook count { s with
      client := s.client.takeACK count accepted, toClient := s.toClient.eraseIdx 0 } =
      { outlook count s with
        last := accepted
        acks := (s.toClient.eraseIdx 0).map Down.accepted ++
          if s.server.point = .sendReply then [s.server.reply.accepted] else []
        outgoing := (outlook count s).outgoing ++ (unitSpans start count).take 2
        upcoming := s.toServer.map Up.span ++ unitSpans start count } := by
  rw [hstart, Client.takeACK, if_neg hmore, max_eq_right hknown, outlook, outlook, hanswering, hpoint]
  simp only [List.drop_zero, ClientPoint.sends, List.take_zero, List.append_nil]

theorem fallsBehind_clientTakes (hs : Safe count s) (hseq : InSequence count s)
    (hkeeps : s.client.KeepsUp)
    (h : Duplex.step (client count) (server count) s (.clientTakes 0) = some t) :
    FallsBehind count s ↔ FallsBehind count t ∨ ¬ t.client.KeepsUp := by
  obtain ⟨message, taken, hmessage, htakes, rfl⟩ := Duplex.step_clientTakes h
  have hfront := Duplex.eq_cons_of_getElem?_zero hmessage
  have hmember := List.mem_of_getElem? hmessage
  cases Client.takes_of_take htakes with
  | waitSYNACK hpoint =>
    have helsewhere : ¬ s.client.point.InLoop := by simp [hpoint, ClientPoint.InLoop]
    refine iff_of_false (mt And.left helsewhere) (not_behind_of_elsewhere ?_)
    rw [hs.eq_synack hpoint hmember]
    simp [ClientPoint.InLoop]
  | waitACK hpoint =>
    have hloop : s.client.point.InLoop := Or.inr (Or.inl hpoint)
    obtain ⟨hlast, accepted, hbound, rfl⟩ := hs.eq_upTo hpoint hmember
    have hknown : s.client.last ≤ accepted := hseq.last_le hloop hfront
    rw [fallsBehind_iff_of_inLoop hloop]
    rcases eq_or_ne accepted count with rfl | hmore
    · refine iff_of_false (not_outrun_of_final hs hseq hloop hfront _)
        (not_behind_of_elsewhere ?_)
      simp [Client.takeACK, Down.accepted, ClientPoint.InLoop]
    · have hanswering := hs.unanswered_eq hloop hmember
      have hstill : (s.client.takeACK count accepted).point.InLoop := by
        simp [Client.takeACK, hmore, ClientPoint.InLoop]
      have hbehind := not_keepsUp_takeACK (hkeeps hloop) hknown hmore
      have hwindow : min count (s.client.next + s.client.point.sends) = s.client.next := by
        rw [hpoint]
        exact min_eq_right hseq.next_le
      have hsends : (s.client.takeACK count accepted).point.sends = 2 := by
        rw [Client.takeACK, if_neg hmore]
        rfl
      rw [fallsBehind_iff_of_inLoop hstill, or_comm]
      change _ ↔ ¬ (s.client.takeACK count accepted).KeepsUp ∨ Outlook.Outrun _ 2 (min count
        ((s.client.takeACK count accepted).next + (s.client.takeACK count accepted).point.sends))
      rw [hbehind, hwindow, hsends]
      change _ ↔ _ ∨ (outlook count { s with
        client := s.client.takeACK count accepted, toClient := s.toClient.eraseIdx 0 }).Outrun 2 _
      rw [outlook_takeACK hpoint hknown hmore hanswering rfl]
      refine Outlook.outrun_heard (Nat.succ_pos 1) ?_ hknown hlast hmore (hkeeps hloop) hseq.next_le
        rfl
      rw [outlook, hfront]
      rfl
  | returned hpoint =>
    have helsewhere : ¬ s.client.point.InLoop := by simp [hpoint, ClientPoint.InLoop]
    exact iff_of_false (fun hfalls ↦ helsewhere hfalls.1) (not_behind_of_elsewhere helsewhere)

theorem fallsBehind_serverTakes (hcount : 0 < count) (hs : Safe count s)
    (hkeeps : s.client.KeepsUp)
    (h : Duplex.step (client count) (server count) s (.serverTakes 0) = some t) :
    FallsBehind count s ↔ FallsBehind count t ∨ ¬ t.client.KeepsUp := by
  obtain ⟨message, taken, hmessage, htakes, rfl⟩ := Duplex.step_serverTakes h
  have hfront := Duplex.eq_cons_of_getElem?_zero hmessage
  have hmember := List.mem_of_getElem? hmessage
  refine Iff.trans ?_ (or_iff_left (not_not.mpr hkeeps)).symm
  refine and_congr_right fun hloop ↦ ?_
  have hserver := hs.server_of_inLoop hloop
  cases Server.takes_of_take htakes with
  | waitSYN hpoint => simp [hpoint] at hserver
  | waitACK hpoint =>
    obtain ⟨-, hfirst⟩ := hs.eq_ack_or_segment_zero hpoint hmember
    have hnotSyn : message ≠ .syn := by rcases hfirst with rfl | rfl <;> simp
    rw [if_neg hnotSyn, outlook_handshake hpoint hfront]
  | waitSegment hpoint =>
    obtain ⟨hroom, -⟩ := hs.eq_ack_or_segment hcount hpoint hmember
    have houtgoing : (outlook count s).outgoing = message.span ::
        ((s.toServer.eraseIdx 0).map Up.span ++
          (unitSpans s.client.next count).take s.client.point.sends) := by
      rw [outlook, hpoint, hfront]
      rfl
    have hwithin := outlook_within hcount hs hloop
    have hbound : acceptSpan s.server.accepted message.span ∈ Set.Iic count :=
      acceptSpan_mem hwithin.accepted
        (hwithin.outgoing _ (houtgoing ▸ List.mem_cons_self)).2
    rw [outlook_answered hpoint (hs.accepted_reply hloop)]
    refine (Outlook.outrun_answered (Nat.succ_pos 1) hroom.ne houtgoing hbound ?_).symm
    intro span hspan
    rcases List.mem_append.mp hspan with hflight | hnext
    · exact span_bounds _ span hflight
    · obtain ⟨index, -, rfl⟩ := List.mem_map.mp (List.mem_of_mem_take hnext)
      exact ⟨Nat.le_succ _, le_rfl⟩
  | returned hpoint =>
    have hend := hs.accepted_eq_of_returned (Or.inr hpoint)
    rw [Outlook.outrun_iff_of_accepted hend, Outlook.outrun_iff_of_accepted hend]
    rfl

/-- Without a loss a step makes a client fall behind, now or later, only if it was to. -/
theorem fallsBehind_step (hcount : 0 < count) (event : Duplex.Event) (hs : Safe count s)
    (hseq : InSequence count s) (hkeeps : s.client.KeepsUp)
    (hguard : Duplex.losslessInOrder s event)
    (h : Duplex.step (client count) (server count) s event = some t) :
    FallsBehind count s ↔ FallsBehind count t ∨ ¬ t.client.KeepsUp := by
  cases event with
  | clientActs => exact fallsBehind_clientActs hcount hs hseq hkeeps h
  | serverActs => exact fallsBehind_serverActs hs hkeeps h
  | clientTakes position =>
    obtain rfl : position = 0 := hguard
    exact fallsBehind_clientTakes hs hseq hkeeps h
  | serverTakes position =>
    obtain rfl : position = 0 := hguard
    exact fallsBehind_serverTakes hcount hs hkeeps h
  | dropToServer position => exact hguard.elim
  | dropToClient position => exact hguard.elim

end Steps

/-! ### Runs -/

/-- The client keeps up, but will not for long. -/
structure Doomed (count : ℕ) (s : State) : Prop where
  safe : Safe count s
  inSequence : InSequence count s
  keepsUp : s.client.KeepsUp
  fallsBehind : FallsBehind count s

section Runs

variable {count : ℕ} {s t : State}

theorem Doomed.step (hcount : 0 < count) (hs : Doomed count s) {event : Duplex.Event}
    (hguard : Duplex.losslessInOrder s event) (h : (protocol count).step s event = some t)
    (hkeeps : t.client.KeepsUp) : Doomed count t where
  safe := safe_step hcount event hs.safe h
  inSequence :=
    inSequence_step event hs.safe hs.inSequence (Duplex.inOrder_of_losslessInOrder hguard) h
  keepsUp := hkeeps
  fallsBehind := ((fallsBehind_step hcount event hs.safe hs.inSequence hs.keepsUp hguard h).mp
    hs.fallsBehind).resolve_right (not_not.mpr hkeeps)

/-- The step of a client that sends a segment from its loop. -/
theorem step_sendSegment {point : ClientPoint}
    (hacts : Client.act count s.client = some (s.client.sendSegment count point)) :
    (protocol count).step s .clientActs = some { s with
      client := (s.client.sendSegment count point).1
      toServer := s.toServer ++ (s.client.sendSegment count point).2.toList
      clientSent := s.clientSent ++ (s.client.sendSegment count point).2.toList } := by
  change (Client.act count s.client).map _ = _
  rw [hacts]
  rfl

/-- The step of a client that takes the first ACK on its way. -/
theorem step_takeACK (count : ℕ) (hpoint : s.client.point = .waitACK) {message : Down}
    {rest : List Down} (hfront : s.toClient = message :: rest) :
    (protocol count).step s (.clientTakes 0) = some { s with
      client := s.client.takeACK count message.accepted, toClient := rest } := by
  change s.toClient[0]?.bind (fun message ↦ (Client.take count s.client message).map _) = _
  rw [hfront]
  simp only [Client.take, hpoint, List.getElem?_cons_zero, Option.bind_some, Option.map_some,
    List.eraseIdx_cons_zero]

/-- The step of a server that replies. -/
theorem step_sendReply (count : ℕ) (hpoint : s.server.point = .sendReply) :
    (protocol count).step s .serverActs = some { s with
      server :=
        { s.server with point := if s.server.accepted = count then .returned else .waitSegment }
      toClient := s.toClient ++ (some s.server.reply).toList
      serverSent := s.serverSent ++ (some s.server.reply).toList } := by
  change (Server.act count s.server).map _ = _
  simp only [Server.act, hpoint, Option.map_some]

/-- The step of a server that takes the first segment on its way. -/
theorem step_takeSegment (count : ℕ) (hpoint : s.server.point = .waitSegment) {message : Up}
    {rest : List Up} (hfront : s.toServer = message :: rest) :
    (protocol count).step s (.serverTakes 0) =
      some { s with server := s.server.takeSegment message, toServer := rest } := by
  change s.toServer[0]?.bind (fun message ↦ (Server.take s.server message).map _) = _
  rw [hfront]
  simp only [Server.take, hpoint, List.getElem?_cons_zero, Option.bind_some, Option.map_some,
    List.eraseIdx_cons_zero]

/-- The client sends what it sends on an ACK, and waits for the next. -/
theorem Doomed.exists_waits (hcount : 0 < count) (hs : Doomed count s) :
    ∃ t, (protocol count).ReachableFrom Duplex.losslessInOrder s t ∧ Doomed count t ∧
      t.client.point = .waitACK ∧ (outlook count t).acks = (outlook count s).acks := by
  have hloop := hs.fallsBehind.1
  induction hsends : s.client.point.sends generalizing s with
  | zero =>
    refine ⟨s, .refl, hs, ?_, rfl⟩
    rcases hloop with hpoint | hpoint | hpoint
    · simp [hpoint, ClientPoint.sends] at hsends
    · exact hpoint
    · simp [hpoint, ClientPoint.sends] at hsends
  | succ sends ih =>
    have hlast := hs.safe.last_lt hcount hloop
    obtain ⟨point, hpoint, hacts⟩ : ∃ point : ClientPoint, point.sends = sends ∧
        Client.act count s.client = some (s.client.sendSegment count point) := by
      rcases hloop with hpoint | hpoint | hpoint
      · refine ⟨.waitACK, ?_, ?_⟩
        · rw [hpoint] at hsends
          exact Nat.succ.inj hsends
        · simp only [Client.act, hpoint, if_pos hlast]
      · simp [hpoint, ClientPoint.sends] at hsends
      · refine ⟨.loopTop, ?_, ?_⟩
        · rw [hpoint] at hsends
          exact Nat.succ.inj hsends
        · simp only [Client.act, hpoint]
    have hstep := step_sendSegment hacts
    have hguard : Duplex.losslessInOrder s .clientActs := trivial
    have hnext := hs.step hcount hguard hstep (keepsUp_sendSegment hs.keepsUp hloop point)
    obtain ⟨t, hreach, ht, hwaits, hacks⟩ := ih hnext hnext.fallsBehind.1
      ((congrArg ClientPoint.sends (point_sendSegment _ _)).trans hpoint)
    exact ⟨t, (ScheduledSystem.reachableFrom_of_step hguard hstep).trans hreach, ht, hwaits, hacks⟩

/-- With no ACK on its way, a client that is to fall behind does so on the answer to the next
segment, so the server waits for a segment. -/
theorem Doomed.exists_front (hs : Doomed count s) (hpoint : s.client.point = .waitACK)
    (hacks : (outlook count s).acks = []) :
    s.server.point = .waitSegment ∧ ∃ message rest, s.toServer = message :: rest ∧
      s.client.next < acceptSpan s.server.accepted message.span ∧
        acceptSpan s.server.accepted message.span ≠ count := by
  obtain ⟨hloop, houtrun⟩ := hs.fallsBehind
  rw [Outlook.outrun_iff_of_acks hacks] at houtrun
  obtain ⟨span, rest, houtgoing, hopen, hahead, hmore⟩ := houtrun
  have hnext : min count (s.client.next + s.client.point.sends) = s.client.next := by
    rw [hpoint]
    exact min_eq_right hs.inSequence.next_le
  rw [hnext] at hahead
  have hflight : (s.toServer.map Up.span).drop s.server.point.unanswered = span :: rest := by
    rw [← houtgoing, outlook, hpoint]
    simp only [ClientPoint.sends, List.take_zero, List.append_nil]
  rcases hs.safe.server_of_inLoop hloop with hserver | hserver | hserver | hserver
  · -- before the server has answered a segment there is only the first one to answer
    exfalso
    cases hs.safe with
    | opening hclient => simp [hclient] at hpoint
    | synSent hclient => simp [hclient] at hpoint
    | synTaken hclient => simp [hclient] at hpoint
    | synackSent hclient => simp [hclient] at hpoint
    | synackTaken hclient => simp [hclient] at hpoint
    | firstSegment hclient hopened hup =>
      obtain ⟨message, hmessage, rfl⟩ :=
        List.mem_map.mp (List.mem_of_mem_drop (hflight ▸ List.mem_cons_self))
      have hclient := hclient.resolve_left fun hloopTop ↦ by simp [hloopTop] at hpoint
      have haccepted : s.server.accepted = 0 := by
        rcases hopened with hopened | hopened <;> rw [hopened]
      change s.client.next < acceptSpan s.server.accepted message.span at hahead
      rw [hclient, haccepted] at hahead
      rcases hup message hmessage with rfl | rfl
      · exact absurd hahead (by decide)
      · exact absurd hahead (by decide)
    | transfer htransfer =>
      rcases htransfer.serverPoint with ⟨h, -⟩ | h | ⟨h, -⟩ <;> simp [h] at hserver
  · refine ⟨hserver, ?_⟩
    rw [hserver] at hflight
    obtain ⟨message, later, hfront, rfl, -⟩ := List.map_eq_cons_iff.mp hflight
    exact ⟨message, later, hfront, hahead, hmore⟩
  · exact absurd hacks (by simp [outlook, hserver])
  · exact absurd (hs.safe.accepted_eq_of_returned (Or.inr hserver)) hopen

/-- With no ACK on its way, the server answers the next segment and the client takes the answer. -/
theorem Doomed.exists_of_waits (hs : Doomed count s) (hpoint : s.client.point = .waitACK)
    (hacks : (outlook count s).acks = []) :
    ∃ t, (protocol count).ReachableFrom Duplex.losslessInOrder s t ∧ ¬ t.client.KeepsUp := by
  obtain ⟨hserver, message, rest, hfront, hahead, hmore⟩ := hs.exists_front hpoint hacks
  have hloop := hs.fallsBehind.1
  obtain ⟨hreplies, -, hanswer⟩ :=
    takeSegment_spec message (hs.safe.accepted_reply hloop)
  have hdown : s.toClient = [] := List.map_eq_nil_iff.mp (List.append_eq_nil_iff.mp hacks).1
  have hle := hs.keepsUp hloop
  let answering : State := { s with server := s.server.takeSegment message, toServer := rest }
  have hanswering : answering.server.point = .sendReply := hreplies
  have htakes : (protocol count).step s (.serverTakes 0) = some answering :=
    step_takeSegment count hserver hfront
  let answered : State := { answering with
    server :=
      { answering.server with
        point := if answering.server.accepted = count then .returned else .waitSegment }
    toClient := answering.toClient ++ (some answering.server.reply).toList
    serverSent := answering.serverSent ++ (some answering.server.reply).toList }
  have hsends : (protocol count).step answering .serverActs = some answered :=
    step_sendReply count hanswering
  have hsent : answered.toClient = [(s.server.takeSegment message).reply] := by
    change s.toClient ++ [_] = _
    rw [hdown, List.nil_append]
  have hhears := step_takeACK count (s := answered) hpoint hsent
  have hfirst : Duplex.losslessInOrder s (.serverTakes 0) := rfl
  have hsecond : Duplex.losslessInOrder answering .serverActs := trivial
  have hthird : Duplex.losslessInOrder answered (.clientTakes 0) := rfl
  refine ⟨_, ((ScheduledSystem.reachableFrom_of_step hfirst htakes).step hsecond hsends).step
    hthird hhears, ?_⟩
  change ¬ (s.client.takeACK count (s.server.takeSegment message).reply.accepted).KeepsUp
  rw [hanswer, not_keepsUp_takeACK hle (hle.trans hahead.le) hmore]
  exact hahead

/-- Without a further loss, a client that is to fall behind does so. -/
theorem Doomed.exists_behind (hcount : 0 < count) (hs : Doomed count s) :
    ∃ t, (protocol count).ReachableFrom Duplex.losslessInOrder s t ∧ ¬ t.client.KeepsUp := by
  induction hlength : (outlook count s).acks.length generalizing s with
  | zero =>
    obtain ⟨waiting, hreach, hwaiting, hpoint, hacks⟩ := hs.exists_waits hcount
    have hnone := List.length_eq_zero_iff.mp ((congrArg List.length hacks).trans hlength)
    obtain ⟨t, hrest, hbehind⟩ := hwaiting.exists_of_waits hpoint hnone
    exact ⟨t, hreach.trans hrest, hbehind⟩
  | succ length ih =>
    obtain ⟨waiting, hreach, hwaiting, hpoint, hacks⟩ := hs.exists_waits hcount
    have hlonger : (outlook count waiting).acks.length = length + 1 :=
      (congrArg List.length hacks).trans hlength
    -- the client takes the next ACK as soon as the server has sent it
    have htaken : ∀ u : State, Doomed count u → u.client.point = .waitACK →
        (outlook count u).acks.length = length + 1 → u.toClient ≠ [] →
          ∃ t, (protocol count).ReachableFrom Duplex.losslessInOrder u t ∧ ¬ t.client.KeepsUp := by
      intro u hu hpoint hlonger hdown
      obtain ⟨message, rest, hfront⟩ := List.exists_cons_of_ne_nil hdown
      have hstep := step_takeACK count hpoint hfront
      have hguard : Duplex.losslessInOrder u (.clientTakes 0) := rfl
      by_cases hkeeps : (u.client.takeACK count message.accepted).KeepsUp
      · have hnext := hu.step hcount hguard hstep hkeeps
        rw [outlook, hfront] at hlonger
        obtain ⟨t, hrest, hbehind⟩ := ih hnext (Nat.succ.inj hlonger)
        exact ⟨t, (ScheduledSystem.reachableFrom_of_step hguard hstep).trans hrest, hbehind⟩
      · exact ⟨_, ScheduledSystem.reachableFrom_of_step hguard hstep, hkeeps⟩
    by_cases hdown : waiting.toClient = []
    · have hserver : waiting.server.point = .sendReply := by
        by_contra hother
        rw [outlook, hdown, if_neg hother] at hlonger
        cases hlonger
      have hstep := step_sendReply count hserver
      have hguard : Duplex.losslessInOrder waiting .serverActs := trivial
      have hnext := hwaiting.step hcount hguard hstep hwaiting.keepsUp
      rw [← outlook_sendReply hserver] at hlonger
      obtain ⟨t, hrest, hbehind⟩ := htaken _ hnext hpoint hlonger (by simp)
      exact ⟨t, hreach.trans ((ScheduledSystem.reachableFrom_of_step hguard hstep).trans hrest), hbehind⟩
    · obtain ⟨t, hrest, hbehind⟩ := htaken waiting hwaiting hpoint hlonger hdown
      exact ⟨t, hreach.trans hrest, hbehind⟩

end Runs

end NetworkSimulation.Tcp.AckClocked
