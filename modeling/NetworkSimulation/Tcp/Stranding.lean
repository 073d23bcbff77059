import NetworkSimulation.Library.CumulativeAcks
import NetworkSimulation.Tcp.AckClocked

/-!
# Transfers that a loss strands

Nothing in either function waits for a limited time, so a client that waits for a frame goes on only
if one comes. A state is `Stranded` if what is left cannot bring the transfer to its end: in the
handshake, if the SYN or the SYNACK is gone; afterwards, if the client's outlook is hopeless.

Apart from drops no step strands a transfer, and none saves one that is stranded (`stranded_step`).
Sending a segment, sending a reply and answering a segment do not change what the client will hear.
Taking an ACK that says something new keeps its outlook hopeless or not. Any other ACK makes it
start again, and from there the end can be reached as long as the server still answers.
-/

set_option autoImplicit false
set_option relaxedAutoImplicit false

namespace NetworkSimulation.Tcp

open Library

/-- The client is in its loop over the segments. -/
def ClientPoint.InLoop (point : ClientPoint) : Prop :=
  point = .loopTop ∨ point = .waitACK ∨ point = .sendAnother

instance (point : ClientPoint) : Decidable point.InLoop :=
  inferInstanceAs (Decidable (_ ∨ _ ∨ _))

/-- The number of segments, if there are as many, that the client sends before it waits again. -/
def ClientPoint.sends : ClientPoint → ℕ
  | .loopTop => 1
  | .sendAnother => 2
  | .sendSYN | .waitSYNACK | .sendACK | .waitACK | .returned | .outOfRange => 0

/-- The number of frames that the server takes without an answer: the one that completes the
handshake. -/
def ServerPoint.unanswered : ServerPoint → ℕ
  | .waitACK => 1
  | .waitSYN | .sendSYNACK | .resendSYNACK | .waitSegment | .sendReply | .returned | .outOfRange => 0

namespace AckClocked

/-- What a message stands for in the stream of segments; the ACK is an empty span at its start. -/
def Up.span : Up → ℕ × ℕ
  | .syn | .ack => (0, 0)
  | .segment index => (index, index + 1)

/-- What the client can expect to hear. -/
def outlook (count : ℕ) (s : State) : Outlook ℕ where
  final := count
  last := s.client.last
  accepted := s.server.accepted
  acks := s.toClient.map Down.accepted ++
    if s.server.point = .sendReply then [s.server.reply.accepted] else []
  outgoing := (s.toServer.map Up.span ++
    (unitSpans s.client.next count).take s.client.point.sends).drop s.server.point.unanswered
  upcoming := (s.toServer.map Up.span ++ unitSpans s.client.next count).drop
    s.server.point.unanswered

/-- The transfer cannot come to its end without a further frame. -/
def Stranded (count : ℕ) (s : State) : Prop :=
  s.client.point = .waitSYNACK ∧ s.toServer = [] ∧ s.toClient = [] ∧ s.server.point ≠ .sendSYNACK ∨
    s.client.point.InLoop ∧ (outlook count s).Hopeless

section Steps

variable {count : ℕ} {s t : State}

theorem stranded_iff_of_inLoop (hloop : s.client.point.InLoop) :
    Stranded count s ↔ (outlook count s).Hopeless := by
  have hlater : s.client.point ≠ .waitSYNACK := by rcases hloop with h | h | h <;> simp [h]
  exact (or_iff_right fun hwaits ↦ hlater hwaits.1).trans (and_iff_right hloop)

/-- A client that is not about to wait is not stranded. -/
theorem not_stranded_of_elsewhere (hwaits : s.client.point ≠ .waitSYNACK)
    (hloop : ¬ s.client.point.InLoop) : ¬ Stranded count s := by
  rintro (hhandshake | hlater)
  · exact hwaits hhandshake.1
  · exact hloop hlater.1

/-! ### Where the parties are -/

/-- A client in its loop is in the transfer, or the server has not answered a segment yet. -/
theorem Safe.of_inLoop (hs : Safe count s) (hloop : s.client.point.InLoop) :
    Transfer count s ∨
      (s.server = ⟨.waitACK, 0, .synack⟩ ∨ s.server = ⟨.waitSegment, 0, .synack⟩) ∧
        (∀ message ∈ s.toServer, message = .ack ∨ message = .segment 0) ∧ s.toClient = [] := by
  cases hs with
  | opening hclient => simp [hclient, ClientPoint.InLoop] at hloop
  | synSent hclient => simp [hclient, ClientPoint.InLoop] at hloop
  | synTaken hclient => simp [hclient, ClientPoint.InLoop] at hloop
  | synackSent hclient => simp [hclient, ClientPoint.InLoop] at hloop
  | synackTaken hclient => simp [hclient, ClientPoint.InLoop] at hloop
  | firstSegment _ hserver hup hdown => exact Or.inr ⟨hserver, hup, hdown⟩
  | transfer htransfer => exact Or.inl htransfer

/-- A client that waits for the SYNACK has sent nothing else than the SYN. -/
theorem Safe.of_waitSYNACK (hs : Safe count s) (hpoint : s.client.point = .waitSYNACK) :
    s.server.point = .waitSYN ∨
      s.toServer = [] ∧ (s.server.point = .sendSYNACK ∨ s.server.point = .waitACK) := by
  cases hs with
  | opening hclient => simp [hclient] at hpoint
  | synSent _ hserver => exact Or.inl (by rw [hserver])
  | synTaken _ hserver hup => exact Or.inr ⟨hup, Or.inl (by rw [hserver])⟩
  | synackSent _ hserver hup => exact Or.inr ⟨hup, Or.inr (by rw [hserver])⟩
  | synackTaken hclient => simp [hclient] at hpoint
  | firstSegment hclient => rcases hclient with hclient | hclient <;> simp [hclient] at hpoint
  | transfer htransfer => rcases htransfer.clientPoint with h | h | h | h <;> simp [h] at hpoint

theorem Safe.last_lt (hcount : 0 < count) (hs : Safe count s) (hloop : s.client.point.InLoop) :
    s.client.last < count := by
  rcases hs.transfer_or_early with htransfer | ⟨hlast, -⟩
  · exact htransfer.unfinished (by rcases hloop with h | h | h <;> simp [h])
  · rw [hlast]
    exact hcount

/-- In the client's loop, a server that acts replies to a segment. -/
theorem Safe.server_of_inLoop (hs : Safe count s) (hloop : s.client.point.InLoop) :
    s.server.point = .waitACK ∨ s.server.point = .waitSegment ∨ s.server.point = .sendReply ∨
      s.server.point = .returned := by
  rcases hs.of_inLoop hloop with htransfer | ⟨hserver, -⟩
  · rcases htransfer.serverPoint with ⟨hpoint, -⟩ | hpoint | ⟨hpoint, -⟩ <;> simp [hpoint]
  · rcases hserver with hserver | hserver <;> simp [hserver]

/-- A server that has answered a segment answers every frame. -/
theorem Safe.unanswered_eq (hs : Safe count s) (hloop : s.client.point.InLoop) {message : Down}
    (hmessage : message ∈ s.toClient) : s.server.point.unanswered = 0 := by
  rcases hs.of_inLoop hloop with htransfer | ⟨-, -, hdown⟩
  · rcases htransfer.serverPoint with ⟨h, -⟩ | h | ⟨h, -⟩ <;> rw [h] <;> rfl
  · rw [hdown] at hmessage
    cases hmessage

/-- The reply to a frame that is not accepted is what has been accepted. -/
theorem Safe.accepted_reply (hs : Safe count s) (hloop : s.client.point.InLoop) :
    s.server.reply.accepted = s.server.accepted := by
  rcases hs.of_inLoop hloop with htransfer | ⟨hserver, -⟩
  · rw [htransfer.reply]
    rfl
  · rcases hserver with hserver | hserver <;> rw [hserver] <;> rfl

/-- Nothing but the ACK and segments is in flight to the server once the client is in its loop. -/
theorem Safe.up_of_inLoop (hcount : 0 < count) (hs : Safe count s) (hloop : s.client.point.InLoop) :
    ∀ message ∈ s.toServer, message = .ack ∨ ∃ i < count, message = .segment i := by
  rcases hs.of_inLoop hloop with htransfer | ⟨-, hup, -⟩
  · exact htransfer.toServer
  · exact fun message hmessage ↦ (hup message hmessage).imp_right fun hzero ↦ ⟨0, hcount, hzero⟩

/-! ### What a step does to the outlook -/

/-- Sending a segment that the client was about to send does not change what it expects. -/
theorem outlook_sendSegment {point : ClientPoint}
    (hsends : s.client.point.sends = point.sends + 1) :
    outlook count { s with
      client := (s.client.sendSegment count point).1
      toServer := s.toServer ++ (s.client.sendSegment count point).2.toList
      clientSent := s.clientSent ++ (s.client.sendSegment count point).2.toList } =
      outlook count s := by
  rw [Client.sendSegment]
  split_ifs with hmore
  · rw [outlook, outlook, hsends, unitSpans_cons hmore, List.take_succ_cons]
    simp only [Option.toList_some, List.map_append, List.map_singleton, List.append_assoc,
      List.singleton_append, Up.span]
  · rw [outlook, outlook, unitSpans_of_le (not_lt.mp hmore)]
    simp only [Option.toList_none, List.append_nil, List.take_nil]

/-- What the client expects after an ACK for more than it knew. -/
theorem outlook_heard {accepted : ℕ} (hmore : accepted ≠ count) (hnew : s.client.last < accepted) :
    outlook count { s with
      client := s.client.takeACK count accepted, toClient := s.toClient.eraseIdx 0 } =
      { outlook count s with
        last := accepted
        acks := (s.toClient.eraseIdx 0).map Down.accepted ++
          if s.server.point = .sendReply then [s.server.reply.accepted] else []
        outgoing := (s.toServer.map Up.span ++ (unitSpans s.client.next count).take 2).drop
          s.server.point.unanswered } := by
  rw [Client.takeACK, if_neg hmore, if_pos hnew, max_eq_right hnew.le]
  rfl

/-- What the client expects after an ACK for no more than it knew. -/
theorem outlook_repeated {accepted : ℕ} (hmore : accepted ≠ count)
    (hold : accepted ≤ s.client.last) :
    outlook count { s with
      client := s.client.takeACK count accepted, toClient := s.toClient.eraseIdx 0 } =
      { outlook count s with
        acks := (s.toClient.eraseIdx 0).map Down.accepted ++
          if s.server.point = .sendReply then [s.server.reply.accepted] else []
        outgoing := (s.toServer.map Up.span ++ (unitSpans s.client.last count).take 2).drop
          s.server.point.unanswered
        upcoming := (s.toServer.map Up.span ++ unitSpans s.client.last count).drop
          s.server.point.unanswered } := by
  rw [Client.takeACK, if_neg hmore, if_neg (not_lt.mpr hold), max_eq_left hold]
  rfl

theorem span_bounds (messages : List Up) :
    ∀ span ∈ messages.map Up.span, span.1 ≤ span.2 ∧ span.2 ≤ span.1 + 1 := by
  intro span hspan
  obtain ⟨message, -, rfl⟩ := List.mem_map.mp hspan
  cases message <;> exact ⟨by simp [Up.span], by simp [Up.span]⟩

theorem point_takeSegment (server : Server) (message : Up) :
    (server.takeSegment message).point = .sendReply := by
  cases message with
  | syn => rfl
  | ack =>
    rw [Server.takeSegment]
    split_ifs <;> rfl
  | segment index =>
    rw [Server.takeSegment]
    split_ifs <;> rfl

/-- A server that waits for a segment accepts its span, and answers with what it has accepted. -/
theorem takeSegment_spec {server : Server} (message : Up)
    (hreply : server.reply.accepted = server.accepted) :
    (server.takeSegment message).point = .sendReply ∧
      (server.takeSegment message).accepted = acceptSpan server.accepted message.span ∧
      (server.takeSegment message).reply.accepted = acceptSpan server.accepted message.span := by
  have hempty : acceptSpan server.accepted (0, 0) = server.accepted := by
    rw [acceptSpan]
    split_ifs with hzero
    · exact hzero
    · rfl
  cases message with
  | syn => exact ⟨rfl, hempty.symm, hreply.trans hempty.symm⟩
  | ack =>
    rw [Server.takeSegment, Up.span, hempty]
    split_ifs with hzero
    · exact ⟨rfl, rfl, hzero.symm⟩
    · exact ⟨rfl, rfl, hreply⟩
  | segment index =>
    rw [Server.takeSegment, Up.span, acceptSpan]
    split_ifs with hnext
    · rw [hnext]
      exact ⟨rfl, rfl, rfl⟩
    · exact ⟨rfl, rfl, hreply⟩

/-- What the client expects when a frame that it expected an answer to is answered. -/
theorem outlook_answered {message : Up} {rest : List Up} (hpoint : s.server.point = .waitSegment)
    (hreply : s.server.reply.accepted = s.server.accepted) :
    outlook count { s with server := s.server.takeSegment message, toServer := rest } =
      { outlook count s with
        accepted := acceptSpan s.server.accepted message.span
        acks := (outlook count s).acks ++ [acceptSpan s.server.accepted message.span]
        outgoing := rest.map Up.span ++ (unitSpans s.client.next count).take s.client.point.sends
        upcoming := rest.map Up.span ++ unitSpans s.client.next count } := by
  obtain ⟨hnext, haccepted, hanswer⟩ := takeSegment_spec message hreply
  have hreplying : ServerPoint.sendReply.unanswered = 0 := rfl
  have hwaits : ServerPoint.waitSegment ≠ .sendReply := by simp
  rw [outlook, outlook]
  simp only [hnext, haccepted, hanswer, hpoint, hreplying, if_true, if_neg hwaits, List.drop_zero,
    List.append_nil]

/-- Nothing that the client expects is beyond the last segment. -/
theorem outlook_within (hcount : 0 < count) (hs : Safe count s) (hloop : s.client.point.InLoop) :
    (outlook count s).Within (Set.Iic count) := by
  have haccepted := hs.accepted_le
  have hup : ∀ span ∈ s.toServer.map Up.span, span.1 ∈ Set.Iic count ∧ span.2 ∈ Set.Iic count := by
    intro span hspan
    obtain ⟨message, hmessage, rfl⟩ := List.mem_map.mp hspan
    rcases hs.up_of_inLoop hcount hloop message hmessage with rfl | ⟨i, hi, rfl⟩
    · exact ⟨Nat.zero_le _, Nat.zero_le _⟩
    · exact ⟨hi.le, hi⟩
  have hunsent : ∀ span ∈ unitSpans s.client.next count,
      span.1 ∈ Set.Iic count ∧ span.2 ∈ Set.Iic count := by
    intro span hspan
    obtain ⟨i, hi, rfl⟩ := List.mem_map.mp hspan
    obtain ⟨hfirst, hbound⟩ := List.mem_range'_1.mp hi
    exact ⟨show i ≤ count by omega, show i + 1 ≤ count by omega⟩
  refine ⟨le_refl count, hs.last_le_accepted.trans haccepted, haccepted, ?_, ?_, ?_⟩
  · intro ack hack
    rcases List.mem_append.mp hack with hflight | hprepared
    · obtain ⟨message, hmessage, rfl⟩ := List.mem_map.mp hflight
      rcases hs.of_inLoop hloop with htransfer | ⟨-, -, hdown⟩
      · obtain ⟨accepted, hle, rfl⟩ := htransfer.toClient message hmessage
        exact hle.trans haccepted
      · rw [hdown] at hmessage
        cases hmessage
    · split_ifs at hprepared
      · rw [List.mem_singleton.mp hprepared, hs.accepted_reply hloop]
        exact haccepted
      · cases hprepared
  · intro span hspan
    rcases List.mem_append.mp (List.mem_of_mem_drop hspan) with hflight | hnext
    · exact hup span hflight
    · exact hunsent span (List.mem_of_mem_take hnext)
  · intro span hspan
    rcases List.mem_append.mp (List.mem_of_mem_drop hspan) with hflight | hnext
    · exact hup span hflight
    · exact hunsent span hnext

/-! ### Steps without losses -/

/-- A client that has sent its ACK is about to send the first segment. -/
theorem not_stranded_of_ack (hcount : 0 < count) (hclient : s.client = ⟨.loopTop, 0, 0⟩)
    (hserver : s.server = ⟨.waitACK, 0, .synack⟩) (hup : s.toServer = [.ack]) :
    ¬ Stranded count s := by
  rintro (⟨hpoint, -⟩ | ⟨-, hhopeless⟩)
  · rw [hclient] at hpoint
    cases hpoint
  · have hspans : unitSpans 0 count = (0, 1) :: unitSpans 1 count := unitSpans_cons hcount
    refine Outlook.not_hopeless_of_mem ?_ ?_ ?_ hhopeless
    · rw [outlook, hserver]
      exact hcount.ne
    · rw [outlook, hserver, hclient, hup, hspans]
      exact List.cons_ne_nil _ _
    · rw [outlook, hserver, hclient, hup]
      exact final_mem_answers_unitSpans le_rfl hcount

theorem point_sendSegment (client : Client) (point : ClientPoint) :
    (client.sendSegment count point).1.point = point := by
  rw [Client.sendSegment]
  split_ifs <;> rfl

/-- A client that is about to send a segment is stranded before that as after. -/
theorem stranded_sendSegment {point : ClientPoint} (hloop : s.client.point.InLoop)
    (hpoint : point.InLoop) (hsends : s.client.point.sends = point.sends + 1) :
    Stranded count { s with
      client := (s.client.sendSegment count point).1
      toServer := s.toServer ++ (s.client.sendSegment count point).2.toList
      clientSent := s.clientSent ++ (s.client.sendSegment count point).2.toList } ↔
      Stranded count s := by
  rw [stranded_iff_of_inLoop hloop, stranded_iff_of_inLoop, outlook_sendSegment hsends]
  exact (point_sendSegment s.client point).symm ▸ hpoint

theorem stranded_clientActs (hcount : 0 < count) (hs : Safe count s)
    (h : Duplex.step (client count) (server count) s .clientActs = some t) :
    Stranded count t ↔ Stranded count s := by
  obtain ⟨acted, sent, hacts, rfl⟩ := Duplex.step_clientActs h
  cases Client.acts_of_act hacts with
  | sendSYN hpoint =>
    refine iff_of_false ?_ (not_stranded_of_elsewhere (by simp [hpoint])
      (by simp [hpoint, ClientPoint.InLoop]))
    rintro (⟨-, hup, -⟩ | ⟨hloop, -⟩)
    · exact List.append_ne_nil_of_right_ne_nil _ (List.cons_ne_nil _ _) hup
    · rcases hloop with hloop | hloop | hloop <;> cases hloop
  | sendACK hpoint =>
    obtain ⟨hclient, hserver, hup⟩ := hs.of_sendACK hpoint
    exact iff_of_false
      (not_stranded_of_ack hcount (by rw [hclient]) hserver (by rw [hup]; rfl))
      (not_stranded_of_elsewhere (by simp [hpoint]) (by simp [hpoint, ClientPoint.InLoop]))
  | loopTop hpoint =>
    exact stranded_sendSegment (Or.inl hpoint) (Or.inr (Or.inl rfl)) (by rw [hpoint]; rfl)
  | finish hpoint hdone => exact absurd (hs.last_lt hcount (Or.inl hpoint)) hdone
  | sendAnother hpoint =>
    exact stranded_sendSegment (Or.inr (Or.inr hpoint)) (Or.inl rfl) (by rw [hpoint]; rfl)

/-- A reply that is sent is still on its way. -/
theorem outlook_sendReply (hpoint : s.server.point = .sendReply) :
    outlook count { s with
      server :=
        { s.server with point := if s.server.accepted = count then .returned else .waitSegment }
      toClient := s.toClient ++ (some s.server.reply).toList
      serverSent := s.serverSent ++ (some s.server.reply).toList } = outlook count s := by
  have hnext : (if s.server.accepted = count then ServerPoint.returned else .waitSegment) ≠
      .sendReply := by split_ifs <;> simp
  have hanswered : (if s.server.accepted = count then ServerPoint.returned
      else .waitSegment).unanswered = 0 := by split_ifs <;> rfl
  have hreplying : ServerPoint.sendReply.unanswered = 0 := rfl
  rw [outlook, outlook]
  simp only [hnext, hanswered, hpoint, hreplying, if_true, if_false, List.map_append,
    List.map_singleton, List.append_nil, Option.toList_some]

theorem stranded_serverActs (hs : Safe count s)
    (h : Duplex.step (client count) (server count) s .serverActs = some t) :
    Stranded count t ↔ Stranded count s := by
  obtain ⟨acted, sent, hacts, rfl⟩ := Duplex.step_serverActs h
  by_cases hloop : s.client.point.InLoop
  · have hserver := hs.server_of_inLoop hloop
    cases Server.acts_of_act hacts with
    | sendSYNACK hpoint => simp [hpoint] at hserver
    | resendSYNACK hpoint => simp [hpoint] at hserver
    | sendReply hpoint =>
      refine Iff.trans (stranded_iff_of_inLoop hloop)
        (Iff.trans ?_ (stranded_iff_of_inLoop hloop).symm)
      rw [outlook_sendReply hpoint]
  · by_cases hwaits : s.client.point = .waitSYNACK
    · have hserver := hs.of_waitSYNACK hwaits
      cases Server.acts_of_act hacts with
      | sendSYNACK hpoint =>
        refine iff_of_false ?_ ?_
        · rintro (⟨-, -, hdown, -⟩ | ⟨hstill, -⟩)
          · exact List.append_ne_nil_of_right_ne_nil _ (List.cons_ne_nil _ _) hdown
          · exact hloop hstill
        · rintro (⟨-, -, -, hidle⟩ | ⟨hstill, -⟩)
          · exact hidle hpoint
          · exact hloop hstill
      | resendSYNACK hpoint => simp [hpoint] at hserver
      | sendReply hpoint => simp [hpoint] at hserver
    · exact iff_of_false (not_stranded_of_elsewhere hwaits hloop)
        (not_stranded_of_elsewhere hwaits hloop)

/-- What the client's take of an ACK does to its outlook. -/
theorem hopeless_takeACK (hs : Safe count s) (hpoint : s.client.point = .waitACK)
    (hlast : s.client.last < count) {accepted : ℕ}
    (hfront : s.toClient = .upTo accepted :: s.toClient.eraseIdx 0) (hmore : accepted ≠ count) :
    (outlook count { s with
      client := s.client.takeACK count accepted, toClient := s.toClient.eraseIdx 0 }).Hopeless ↔
      (outlook count s).Hopeless := by
  have hloop : s.client.point.InLoop := Or.inr (Or.inl hpoint)
  have hanswering : s.server.point.unanswered = 0 :=
    hs.unanswered_eq hloop (hfront ▸ List.mem_cons_self)
  have hacks : (outlook count s).acks = accepted :: ((s.toClient.eraseIdx 0).map Down.accepted ++
      if s.server.point = .sendReply then [s.server.reply.accepted] else []) := by
    rw [outlook, hfront]
    rfl
  rcases lt_or_ge s.client.last accepted with hnew | hold
  · rw [outlook_heard hmore hnew]
    refine Outlook.hopeless_heard hacks hnew hmore fun hnothing ↦ ?_
    rw [hanswering, List.drop_zero] at hnothing
    obtain ⟨hup, hunsent⟩ := List.append_eq_nil_iff.mp hnothing
    have hnone : unitSpans s.client.next count = [] :=
      (List.take_eq_nil_iff.mp hunsent).resolve_left (by simp)
    rw [outlook, hanswering, hup, hnone]
    rfl
  · rw [outlook_repeated hmore hold]
    rcases hs.accepted_le.eq_or_lt with hend | hroom
    · rw [Outlook.hopeless_iff_of_accepted hend, Outlook.hopeless_iff_of_accepted hend, hacks]
      change count ∉ _ ↔ count ∉ _
      rw [List.mem_cons, not_or, and_iff_right hmore.symm]
    · refine iff_of_false (Outlook.not_hopeless_of_mem hroom.ne ?_ ?_)
        (Outlook.not_hopeless_of_repeated hacks hold hroom.ne)
      · change ((s.toServer.map Up.span ++ (unitSpans s.client.last count).take 2).drop
          s.server.point.unanswered) ≠ []
        rw [hanswering, List.drop_zero, unitSpans_cons hlast]
        exact List.append_ne_nil_of_right_ne_nil _ (List.cons_ne_nil _ _)
      · change count ∈ answers count s.server.accepted
          ((s.toServer.map Up.span ++ unitSpans s.client.last count).drop
            s.server.point.unanswered)
        rw [hanswering, List.drop_zero]
        exact final_mem_answers_append (span_bounds s.toServer) hs.last_le_accepted hroom

theorem stranded_clientTakes (hs : Safe count s)
    (h : Duplex.step (client count) (server count) s (.clientTakes 0) = some t) :
    Stranded count t ↔ Stranded count s := by
  obtain ⟨message, taken, hmessage, htakes, rfl⟩ := Duplex.step_clientTakes h
  have hfront := Duplex.eq_cons_of_getElem?_zero hmessage
  have hmember := List.mem_of_getElem? hmessage
  cases Client.takes_of_take htakes with
  | waitSYNACK hpoint =>
    obtain rfl := hs.eq_synack hpoint hmember
    refine iff_of_false (not_stranded_of_elsewhere (by simp) (by simp [ClientPoint.InLoop])) ?_
    rintro (⟨-, -, hdown, -⟩ | ⟨hloop, -⟩)
    · exact List.ne_nil_of_mem hmember hdown
    · simp [hpoint, ClientPoint.InLoop] at hloop
  | waitACK hpoint =>
    obtain ⟨hlast, accepted, -, rfl⟩ := hs.eq_upTo hpoint hmember
    have hloop : s.client.point.InLoop := Or.inr (Or.inl hpoint)
    rw [stranded_iff_of_inLoop hloop]
    by_cases hend : accepted = count
    · refine iff_of_false (not_stranded_of_elsewhere ?_ ?_) (Outlook.not_hopeless_of_final_mem ?_)
      · simp [Client.takeACK, Down.accepted, hend]
      · simp [Client.takeACK, Down.accepted, hend, ClientPoint.InLoop]
      · exact List.mem_append_left _ (hend ▸ List.mem_map_of_mem hmember)
    · have hstill : (s.client.takeACK count accepted).point.InLoop := by
        simp [Client.takeACK, hend, ClientPoint.InLoop]
      exact (stranded_iff_of_inLoop hstill).trans (hopeless_takeACK hs hpoint hlast hfront hend)
  | returned hpoint =>
    have helsewhere : s.client.point ≠ .waitSYNACK ∧ ¬ s.client.point.InLoop := by
      simp [hpoint, ClientPoint.InLoop]
    exact iff_of_false (not_stranded_of_elsewhere helsewhere.1 helsewhere.2)
      (not_stranded_of_elsewhere helsewhere.1 helsewhere.2)

/-- The frame that completes the handshake was not expected to be answered. -/
theorem outlook_handshake {message : Up} (hpoint : s.server.point = .waitACK)
    (hfront : s.toServer = message :: s.toServer.eraseIdx 0) :
    outlook count { s with
      server := { s.server with point := .waitSegment }
      toServer := s.toServer.eraseIdx 0 } = outlook count s := by
  rw [outlook, outlook, hpoint, hfront]
  rfl

/-- What the server's take of a frame does to the client's outlook. -/
theorem hopeless_serverTakes (hcount : 0 < count) (hs : Safe count s)
    (hloop : s.client.point.InLoop) {message : Up} {taken : Server}
    (hfront : s.toServer = message :: s.toServer.eraseIdx 0)
    (htakes : s.server.take message = some taken) :
    (outlook count { s with server := taken, toServer := s.toServer.eraseIdx 0 }).Hopeless ↔
      (outlook count s).Hopeless := by
  have hmember : message ∈ s.toServer := hfront ▸ List.mem_cons_self
  cases Server.takes_of_take htakes with
  | waitSYN hpoint =>
    have hserver := hs.server_of_inLoop hloop
    simp [hpoint] at hserver
  | waitACK hpoint =>
    obtain ⟨-, hfirst⟩ := hs.eq_ack_or_segment_zero hpoint hmember
    have hnotSyn : message ≠ .syn := by rcases hfirst with rfl | rfl <;> simp
    rw [if_neg hnotSyn, outlook_handshake hpoint hfront]
  | waitSegment hpoint =>
    obtain ⟨hroom, -⟩ := hs.eq_ack_or_segment hcount hpoint hmember
    rw [outlook_answered hpoint (hs.accepted_reply hloop)]
    refine Outlook.hopeless_answered hroom.ne ?_ ?_
    · rw [outlook, hpoint, hfront]
      rfl
    · rw [outlook, hpoint, hfront]
      rfl
  | returned hpoint =>
    have hend := hs.accepted_eq_of_returned (Or.inr hpoint)
    rw [Outlook.hopeless_iff_of_accepted hend, Outlook.hopeless_iff_of_accepted hend]
    rfl

theorem stranded_serverTakes (hcount : 0 < count) (hs : Safe count s)
    (h : Duplex.step (client count) (server count) s (.serverTakes 0) = some t) :
    Stranded count t ↔ Stranded count s := by
  obtain ⟨message, taken, hmessage, htakes, rfl⟩ := Duplex.step_serverTakes h
  have hfront := Duplex.eq_cons_of_getElem?_zero hmessage
  have hmember := List.mem_of_getElem? hmessage
  by_cases hloop : s.client.point.InLoop
  · refine Iff.trans (stranded_iff_of_inLoop hloop)
      (Iff.trans ?_ (stranded_iff_of_inLoop hloop).symm)
    exact hopeless_serverTakes hcount hs hloop hfront htakes
  · by_cases hwaits : s.client.point = .waitSYNACK
    · have hpoint : s.server.point = .waitSYN :=
        (hs.of_waitSYNACK hwaits).resolve_right fun hlater ↦ List.ne_nil_of_mem hmember hlater.1
      obtain rfl := hs.eq_syn hpoint hmember
      change Server.take s.server .syn = _ at htakes
      simp only [Server.take, hpoint, if_true] at htakes
      cases htakes
      refine iff_of_false ?_ ?_
      · rintro (⟨-, -, -, hidle⟩ | ⟨hstill, -⟩)
        · exact hidle rfl
        · exact hloop hstill
      · rintro (⟨-, hup, -⟩ | ⟨hstill, -⟩)
        · exact List.ne_nil_of_mem hmember hup
        · exact hloop hstill
    · exact iff_of_false (not_stranded_of_elsewhere hwaits hloop)
        (not_stranded_of_elsewhere hwaits hloop)

/-- Only a drop strands a transfer, and nothing else saves one that is stranded. -/
theorem stranded_step (hcount : 0 < count) (event : Duplex.Event) (hs : Safe count s)
    (hguard : Duplex.losslessInOrder s event)
    (h : Duplex.step (client count) (server count) s event = some t) :
    Stranded count t ↔ Stranded count s := by
  cases event with
  | clientActs => exact stranded_clientActs hcount hs h
  | serverActs => exact stranded_serverActs hs h
  | clientTakes position =>
    obtain rfl : position = 0 := hguard
    exact stranded_clientTakes hs h
  | serverTakes position =>
    obtain rfl : position = 0 := hguard
    exact stranded_serverTakes hcount hs h
  | dropToServer position => exact hguard.elim
  | dropToClient position => exact hguard.elim

theorem not_stranded_init (count : ℕ) : ¬ Stranded count (protocol count).init :=
  not_stranded_of_elsewhere (by simp [protocol, Duplex.system])
    (by simp [protocol, Duplex.system, ClientPoint.InLoop])

end Steps

end AckClocked

end NetworkSimulation.Tcp
