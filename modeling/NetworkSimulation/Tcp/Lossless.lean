import NetworkSimulation.Tcp.Refinement
import NetworkSimulation.Tcp.Work

/-!
# A transfer without losses

When nothing is dropped and frames arrive in the order they were sent in, what is in flight is known
exactly (`Flow`): the segments from the first that the server has not accepted up to the last sent,
and the acknowledgements from the first that the client has not taken up to the last sent. So every
acknowledgement is the one that the client waits for, and a client that waits has sent more than was
acknowledged to it. Hence the client never goes back (`Exact.ahead`), every step leaves less work,
and no state is stuck before both parties have returned (`returned_of_quiescent`).
-/

set_option autoImplicit false
set_option relaxedAutoImplicit false

namespace NetworkSimulation.Tcp

open Stack Library

namespace AckClocked

/-! ### What is in flight -/

/-- The segments from one index up to another. -/
def segmentsFrom (first next : ℕ) : List Up := (List.range' first (next - first)).map .segment

/-- The acknowledgements that follow one up to another. -/
def upTosAfter (last replied : ℕ) : List Down := (List.range' (last + 1) (replied - last)).map .upTo

theorem segmentsFrom_self (first : ℕ) : segmentsFrom first first = [] := by
  rw [segmentsFrom, Nat.sub_self]
  rfl

theorem segmentsFrom_succ {first next : ℕ} (h : first ≤ next) :
    segmentsFrom first (next + 1) = segmentsFrom first next ++ [.segment next] := by
  rw [segmentsFrom, segmentsFrom, Nat.succ_sub h, List.range'_1_concat, List.map_append,
    Nat.add_sub_cancel' h]
  rfl

theorem segmentsFrom_cons {first next : ℕ} (h : first < next) :
    segmentsFrom first next = .segment first :: segmentsFrom (first + 1) next := by
  have hlength : next - first = next - (first + 1) + 1 := by omega
  rw [segmentsFrom, hlength, List.range'_succ]
  rfl

theorem upTosAfter_self (last : ℕ) : upTosAfter last last = [] := by
  rw [upTosAfter, Nat.sub_self]
  rfl

theorem upTosAfter_succ {last replied : ℕ} (h : last ≤ replied) :
    upTosAfter last (replied + 1) = upTosAfter last replied ++ [.upTo (replied + 1)] := by
  have hlast : last + 1 + (replied - last) = replied + 1 := by omega
  rw [upTosAfter, upTosAfter, Nat.succ_sub h, List.range'_1_concat, List.map_append, hlast]
  rfl

theorem upTosAfter_cons {last replied : ℕ} (h : last < replied) :
    upTosAfter last replied = .upTo (last + 1) :: upTosAfter (last + 1) replied := by
  have hlength : replied - last = replied - (last + 1) + 1 := by omega
  rw [upTosAfter, hlength, List.range'_succ]
  rfl

/-- A lossless transfer in which the server has sent `replied` acknowledgements. -/
structure Flow (count replied : ℕ) (s : State) : Prop where
  clientPoint : s.client.point = .loopTop ∨ s.client.point = .waitACK ∧ s.client.last < s.client.next ∨
    s.client.point = .sendAnother ∨ s.client.point = .returned
  running : s.client.point ≠ .returned → s.client.last < count
  finished : s.client.point = .returned → s.client.last = count
  serverPoint : s.server.point = .waitSegment ∧ s.server.accepted = replied ∧ replied < count ∨
    s.server.point = .sendReply ∧ s.server.accepted = replied + 1 ∧
      s.server.reply = .upTo (replied + 1) ∨
    s.server.point = .returned ∧ s.server.accepted = replied ∧ replied = count
  last_le : s.client.last ≤ replied
  accepted_le : s.server.accepted ≤ s.client.next
  next_le : s.client.next ≤ count
  toServer : s.toServer = segmentsFrom s.server.accepted s.client.next
  toClient : s.toClient = upTosAfter s.client.last replied
  clientSent : s.clientSent = .syn :: .ack :: segmentsFrom 0 s.client.next
  serverSent : s.serverSent = .synack :: upTosAfter 0 replied

namespace Flow

variable {count replied : ℕ} {s : State} (h : Flow count replied s)

include h

theorem replied_le_accepted : replied ≤ s.server.accepted := by
  rcases h.serverPoint with ⟨-, haccepted, -⟩ | ⟨-, haccepted, -⟩ | ⟨-, haccepted, -⟩
  · exact haccepted.ge
  · exact haccepted ▸ Nat.le_succ replied
  · exact haccepted.ge

theorem last_le_next : s.client.last ≤ s.client.next :=
  h.last_le.trans (h.replied_le_accepted.trans h.accepted_le)

theorem replied_le : replied ≤ count :=
  h.replied_le_accepted.trans (h.accepted_le.trans h.next_le)

theorem of_sendReply (hpoint : s.server.point = .sendReply) :
    s.server.accepted = replied + 1 ∧ s.server.reply = .upTo (replied + 1) := by
  rcases h.serverPoint with ⟨hwaits, -⟩ | ⟨-, haccepted, hreply⟩ | ⟨hreturned, -⟩
  · simp [hwaits] at hpoint
  · exact ⟨haccepted, hreply⟩
  · simp [hreturned] at hpoint

theorem of_waitSegment (hpoint : s.server.point = .waitSegment) : s.server.accepted = replied := by
  rcases h.serverPoint with ⟨-, haccepted, -⟩ | ⟨hreplies, -⟩ | ⟨hreturned, -⟩
  · exact haccepted
  · simp [hreplies] at hpoint
  · simp [hreturned] at hpoint

end Flow

/-- The stages of a run without losses. -/
inductive Exact (count : ℕ) (s : State) : Prop
  | opening (hclient : s.client = ⟨.sendSYN, 0, 0⟩) (hserver : s.server = ⟨.waitSYN, 0, .synack⟩)
    (hup : s.toServer = []) (hdown : s.toClient = []) (hclientSent : s.clientSent = [])
    (hserverSent : s.serverSent = [])
  | synSent (hclient : s.client = ⟨.waitSYNACK, 0, 0⟩)
    (hserver : s.server = ⟨.waitSYN, 0, .synack⟩) (hup : s.toServer = [.syn])
    (hdown : s.toClient = []) (hclientSent : s.clientSent = [.syn]) (hserverSent : s.serverSent = [])
  | synTaken (hclient : s.client = ⟨.waitSYNACK, 0, 0⟩)
    (hserver : s.server = ⟨.sendSYNACK, 0, .synack⟩) (hup : s.toServer = [])
    (hdown : s.toClient = []) (hclientSent : s.clientSent = [.syn]) (hserverSent : s.serverSent = [])
  | synackSent (hclient : s.client = ⟨.waitSYNACK, 0, 0⟩)
    (hserver : s.server = ⟨.waitACK, 0, .synack⟩) (hup : s.toServer = [])
    (hdown : s.toClient = [.synack]) (hclientSent : s.clientSent = [.syn])
    (hserverSent : s.serverSent = [.synack])
  | synackTaken (hclient : s.client = ⟨.sendACK, 0, 0⟩)
    (hserver : s.server = ⟨.waitACK, 0, .synack⟩) (hup : s.toServer = []) (hdown : s.toClient = [])
    (hclientSent : s.clientSent = [.syn]) (hserverSent : s.serverSent = [.synack])
  | ackSent (hclient : s.client = ⟨.loopTop, 0, 0⟩ ∨ s.client = ⟨.waitACK, 1, 0⟩)
    (hserver : s.server = ⟨.waitACK, 0, .synack⟩)
    (hup : s.toServer = .ack :: segmentsFrom 0 s.client.next) (hdown : s.toClient = [])
    (hclientSent : s.clientSent = .syn :: .ack :: segmentsFrom 0 s.client.next)
    (hserverSent : s.serverSent = [.synack])
  | flow (replied : ℕ) (h : Flow count replied s)

section Steps

variable {count replied : ℕ} {s t : State}

/-- Sending the next segment, if there is one, keeps the flow. -/
theorem Flow.sendSegment (h : Flow count replied s) (hrunning : s.client.point ≠ .returned)
    {point : ClientPoint} (hpoint : point = .waitACK ∨ point = .loopTop) :
    Flow count replied { s with
      client := (s.client.sendSegment count point).1
      toServer := s.toServer ++ (s.client.sendSegment count point).2.toList
      clientSent := s.clientSent ++ (s.client.sendSegment count point).2.toList } := by
  have hlast := h.running hrunning
  have hopen : point ≠ .returned := by rcases hpoint with rfl | rfl <;> simp
  have hlastLe : s.client.last ≤ s.client.next := h.last_le_next
  rw [Client.sendSegment]
  split_ifs with hmore
  · refine ⟨?_, fun _ ↦ hlast, fun hreturned ↦ absurd hreturned hopen, h.serverPoint, h.last_le,
      h.accepted_le.trans (Nat.le_succ _), hmore, ?_, h.toClient, ?_, h.serverSent⟩
    · rcases hpoint with rfl | rfl
      · exact Or.inr (Or.inl ⟨rfl, Nat.lt_succ_of_le hlastLe⟩)
      · exact Or.inl rfl
    · change _ ++ [_] = _
      rw [h.toServer, segmentsFrom_succ h.accepted_le]
    · change _ ++ [_] = _
      rw [h.clientSent, segmentsFrom_succ (Nat.zero_le _)]
      rfl
  · rw [Option.toList_none, List.append_nil, List.append_nil]
    refine ⟨?_, fun _ ↦ hlast, fun hreturned ↦ absurd hreturned hopen, h.serverPoint, h.last_le,
      h.accepted_le, h.next_le, h.toServer, h.toClient, h.clientSent, h.serverSent⟩
    rcases hpoint with rfl | rfl
    · exact Or.inr (Or.inl ⟨rfl, hlast.trans_le (not_lt.mp hmore)⟩)
    · exact Or.inl rfl

theorem exact_clientActs (hcount : 0 < count) (hs : Exact count s)
    (h : Duplex.step (client count) (server count) s .clientActs = some t) :
    Exact count t := by
  obtain ⟨acted, sent, hacts, rfl⟩ := Duplex.step_clientActs h
  change Client.act count s.client = _ at hacts
  cases hs with
  | opening hclient hserver hup hdown hclientSent hserverSent =>
    rw [hclient] at hacts
    cases hacts
    exact .synSent rfl hserver (by rw [hup]; rfl) hdown (by rw [hclientSent]; rfl) hserverSent
  | synSent hclient =>
    rw [hclient] at hacts
    cases hacts
  | synTaken hclient =>
    rw [hclient] at hacts
    cases hacts
  | synackSent hclient =>
    rw [hclient] at hacts
    cases hacts
  | synackTaken hclient hserver hup hdown hclientSent hserverSent =>
    rw [hclient] at hacts
    cases hacts
    exact .ackSent (Or.inl rfl) hserver (by rw [hup]; rfl) hdown (by rw [hclientSent]; rfl)
      hserverSent
  | ackSent hclient hserver hup hdown hclientSent hserverSent =>
    rcases hclient with hclient | hclient
    · rw [hclient, Client.act, if_pos hcount, Client.sendSegment, if_pos hcount] at hacts
      cases hacts
      refine .ackSent (Or.inr rfl) hserver ?_ hdown ?_ hserverSent
      · rw [hup, hclient]
        rfl
      · rw [hclientSent, hclient]
        rfl
    · rw [hclient] at hacts
      cases hacts
  | flow replied hflow =>
    have hpoint := hflow.clientPoint
    cases Client.acts_of_act hacts with
    | sendSYN hacting => simp [hacting] at hpoint
    | sendACK hacting => simp [hacting] at hpoint
    | loopTop hacting =>
      exact .flow replied (hflow.sendSegment (by simp [hacting]) (Or.inl rfl))
    | finish hacting hdone => exact absurd (hflow.running (by simp [hacting])) hdone
    | sendAnother hacting =>
      exact .flow replied (hflow.sendSegment (by simp [hacting]) (Or.inr rfl))

/-- A reply goes out after the ones before it. -/
theorem Flow.sendReply (h : Flow count replied s) (hpoint : s.server.point = .sendReply) :
    Flow count (replied + 1) { s with
      server := { s.server with
        point := if s.server.accepted = count then .returned else .waitSegment }
      toClient := s.toClient ++ [s.server.reply]
      serverSent := s.serverSent ++ [s.server.reply] } := by
  obtain ⟨haccepted, hreply⟩ := h.of_sendReply hpoint
  have hroom : replied + 1 ≤ count := haccepted ▸ h.accepted_le.trans h.next_le
  refine ⟨h.clientPoint, h.running, h.finished, ?_, h.last_le.trans (Nat.le_succ _),
    h.accepted_le, h.next_le, h.toServer, ?_, h.clientSent, ?_⟩
  · change (if _ then _ else _) = _ ∧ _ ∨ (if _ then _ else _) = _ ∧ _ ∨
      (if _ then _ else _) = _ ∧ _
    split_ifs with hend
    · exact Or.inr (Or.inr ⟨rfl, haccepted, haccepted ▸ hend⟩)
    · exact Or.inl ⟨rfl, haccepted, lt_of_le_of_ne hroom (haccepted ▸ hend)⟩
  · change _ ++ [_] = _
    rw [h.toClient, hreply, upTosAfter_succ h.last_le]
  · change _ ++ [_] = _
    rw [h.serverSent, hreply, upTosAfter_succ (Nat.zero_le _)]
    rfl

theorem exact_serverActs (hs : Exact count s)
    (h : Duplex.step (client count) (server count) s .serverActs = some t) :
    Exact count t := by
  obtain ⟨acted, sent, hacts, rfl⟩ := Duplex.step_serverActs h
  change Server.act count s.server = _ at hacts
  cases hs with
  | opening _ hserver =>
    rw [hserver] at hacts
    cases hacts
  | synSent _ hserver =>
    rw [hserver] at hacts
    cases hacts
  | synTaken hclient hserver hup hdown hclientSent hserverSent =>
    rw [hserver] at hacts
    cases hacts
    exact .synackSent hclient rfl hup (by rw [hdown]; rfl) hclientSent (by rw [hserverSent]; rfl)
  | synackSent _ hserver =>
    rw [hserver] at hacts
    cases hacts
  | synackTaken _ hserver =>
    rw [hserver] at hacts
    cases hacts
  | ackSent _ hserver =>
    rw [hserver] at hacts
    cases hacts
  | flow replied hflow =>
    have hpoint := hflow.serverPoint
    cases Server.acts_of_act hacts with
    | sendSYNACK hacting => simp [hacting] at hpoint
    | resendSYNACK hacting => simp [hacting] at hpoint
    | sendReply hacting =>
      exact .flow (replied + 1) (hflow.sendReply hacting)

/-- The next acknowledgement is for one segment more than the last: the client does not go back. -/
theorem Flow.takeACK (h : Flow count replied s) (hrunning : s.client.point ≠ .returned)
    (hless : s.client.last < replied)
    (hrest : s.toClient.eraseIdx 0 = upTosAfter (s.client.last + 1) replied) :
    Flow count replied { s with
      client := s.client.takeACK count (s.client.last + 1), toClient := s.toClient.eraseIdx 0 } := by
  have hahead : s.client.last < s.client.last + 1 := Nat.lt_succ_self _
  have hroom := h.running hrunning
  have hpoint := s.client.takeACK_point_cases count (s.client.last + 1)
  have hreturns := s.client.takeACK_point_eq_returned_iff count (s.client.last + 1)
  have htaken : s.client.takeACK count (s.client.last + 1) =
      { point := (s.client.takeACK count (s.client.last + 1)).point
        next := s.client.next
        last := s.client.last + 1 } := by
    rw [Client.takeACK, if_pos hahead, max_eq_right hahead.le]
  rw [htaken]
  exact ⟨Or.inr (Or.inr hpoint), fun hgoesOn ↦ lt_of_le_of_ne hroom (mt hreturns.mpr hgoesOn),
    hreturns.mp, h.serverPoint, hless, h.accepted_le, h.next_le, h.toServer, hrest, h.clientSent,
    h.serverSent⟩

theorem exact_clientTakes (hs : Exact count s)
    (h : Duplex.step (client count) (server count) s (.clientTakes 0) = some t) :
    Exact count t := by
  obtain ⟨message, taken, hmessage, htakes, rfl⟩ := Duplex.step_clientTakes h
  have hfront := Duplex.eq_cons_of_getElem?_zero hmessage
  change Client.take count s.client message = _ at htakes
  cases hs with
  | opening _ _ _ hdown =>
    rw [hdown] at hmessage
    cases hmessage
  | synSent _ _ _ hdown =>
    rw [hdown] at hmessage
    cases hmessage
  | synTaken _ _ _ hdown =>
    rw [hdown] at hmessage
    cases hmessage
  | synackSent hclient hserver hup hdown hclientSent hserverSent =>
    rw [hdown] at hmessage
    cases hmessage
    rw [hclient] at htakes
    cases htakes
    exact .synackTaken rfl hserver hup (by rw [hdown]; rfl) hclientSent hserverSent
  | synackTaken _ _ _ hdown =>
    rw [hdown] at hmessage
    cases hmessage
  | ackSent _ _ _ hdown =>
    rw [hdown] at hmessage
    cases hmessage
  | flow replied hflow =>
    have hless : s.client.last < replied := by
      refine lt_of_le_of_ne hflow.last_le fun hsame ↦ ?_
      rw [hflow.toClient, ← hsame, upTosAfter_self] at hmessage
      cases hmessage
    have hcons := hflow.toClient
    rw [upTosAfter_cons hless] at hcons
    obtain ⟨rfl, hrest⟩ := List.cons.inj (hfront.symm.trans hcons)
    have hpoint := hflow.clientPoint
    cases Client.takes_of_take htakes with
    | waitSYNACK hwaiting => simp [hwaiting] at hpoint
    | waitACK hwaiting =>
      exact .flow replied (hflow.takeACK (by simp [hwaiting]) hless hrest)
    | returned hreturned =>
      have hend := hflow.finished hreturned
      have hreplied := hflow.replied_le
      omega

/-- The server takes the ACK of the handshake, and waits for the first segment. -/
theorem flow_of_ackSent (hcount : 0 < count)
    (hclient : s.client = ⟨.loopTop, 0, 0⟩ ∨ s.client = ⟨.waitACK, 1, 0⟩)
    (hup : s.toServer.eraseIdx 0 = segmentsFrom 0 s.client.next) (hdown : s.toClient = [])
    (hclientSent : s.clientSent = .syn :: .ack :: segmentsFrom 0 s.client.next)
    (hserverSent : s.serverSent = [.synack]) :
    Flow count 0 { s with
      server := ⟨.waitSegment, 0, .synack⟩, toServer := s.toServer.eraseIdx 0 } := by
  refine ⟨?_, ?_, ?_, Or.inl ⟨rfl, rfl, hcount⟩, ?_, Nat.zero_le _, ?_, hup, ?_, hclientSent,
    hserverSent⟩
  · rcases hclient with hclient | hclient <;> simp [hclient]
  · rcases hclient with hclient | hclient <;> simp [hclient, hcount]
  · rcases hclient with hclient | hclient <;> simp [hclient]
  · rcases hclient with hclient | hclient <;> simp [hclient]
  · rcases hclient with hclient | hclient <;> simp [hclient, hcount, Nat.succ_le_iff]
  · have hlast : s.client.last = 0 := by rcases hclient with hclient | hclient <;> rw [hclient]
    change s.toClient = upTosAfter s.client.last 0
    rw [hdown, hlast, upTosAfter_self]

/-- The next segment is the one that the server waits for. -/
theorem Flow.takeSegment (h : Flow count replied s) (hwaiting : s.server.point = .waitSegment)
    (hless : s.server.accepted < s.client.next)
    (hrest : s.toServer.eraseIdx 0 = segmentsFrom (s.server.accepted + 1) s.client.next) :
    Flow count replied { s with
      server := s.server.takeSegment (.segment s.server.accepted)
      toServer := s.toServer.eraseIdx 0 } := by
  have haccepted := h.of_waitSegment hwaiting
  have htaken : s.server.takeSegment (.segment s.server.accepted) =
      ⟨.sendReply, s.server.accepted + 1, .upTo (s.server.accepted + 1)⟩ := by
    rw [Server.takeSegment, if_pos rfl]
  rw [htaken]
  refine ⟨h.clientPoint, h.running, h.finished, Or.inr (Or.inl ⟨rfl, ?_, ?_⟩), h.last_le, hless,
    h.next_le, hrest, h.toClient, h.clientSent, h.serverSent⟩
  · change s.server.accepted + 1 = replied + 1
    rw [haccepted]
  · change Down.upTo (s.server.accepted + 1) = .upTo (replied + 1)
    rw [haccepted]

theorem exact_serverTakes (hcount : 0 < count) (hs : Exact count s)
    (h : Duplex.step (client count) (server count) s (.serverTakes 0) = some t) :
    Exact count t := by
  obtain ⟨message, taken, hmessage, htakes, rfl⟩ := Duplex.step_serverTakes h
  have hfront := Duplex.eq_cons_of_getElem?_zero hmessage
  change Server.take s.server message = _ at htakes
  cases hs with
  | opening _ _ hup =>
    rw [hup] at hmessage
    cases hmessage
  | synSent hclient hserver hup hdown hclientSent hserverSent =>
    rw [hup] at hmessage
    cases hmessage
    rw [hserver] at htakes
    cases htakes
    exact .synTaken hclient rfl (by rw [hup]; rfl) hdown hclientSent hserverSent
  | synTaken _ _ hup =>
    rw [hup] at hmessage
    cases hmessage
  | synackSent _ _ hup =>
    rw [hup] at hmessage
    cases hmessage
  | synackTaken _ _ hup =>
    rw [hup] at hmessage
    cases hmessage
  | ackSent hclient hserver hup hdown hclientSent hserverSent =>
    obtain ⟨rfl, hrest⟩ := List.cons.inj (hfront.symm.trans hup)
    rw [hserver] at htakes
    cases htakes
    exact .flow 0 (flow_of_ackSent hcount hclient hrest hdown hclientSent hserverSent)
  | flow replied hflow =>
    have hless : s.server.accepted < s.client.next := by
      refine lt_of_le_of_ne hflow.accepted_le fun hsame ↦ ?_
      rw [hflow.toServer, ← hsame, segmentsFrom_self] at hmessage
      cases hmessage
    have hcons := hflow.toServer
    rw [segmentsFrom_cons hless] at hcons
    obtain ⟨rfl, hrest⟩ := List.cons.inj (hfront.symm.trans hcons)
    have hpoint := hflow.serverPoint
    cases Server.takes_of_take htakes with
    | waitSYN hwaiting => simp [hwaiting] at hpoint
    | waitACK hwaiting => simp [hwaiting] at hpoint
    | waitSegment hwaiting =>
      exact .flow replied (hflow.takeSegment hwaiting hless hrest)
    | returned hreturned =>
      simp only [hreturned, reduceCtorEq, false_and, true_and, false_or] at hpoint
      have hnext := hflow.next_le
      omega

theorem exact_step (hcount : 0 < count) (event : Duplex.Event) (hs : Exact count s)
    (hguard : Duplex.losslessInOrder s event)
    (h : Duplex.step (client count) (server count) s event = some t) : Exact count t := by
  cases event with
  | clientActs => exact exact_clientActs hcount hs h
  | serverActs => exact exact_serverActs hs h
  | clientTakes position =>
    obtain rfl : position = 0 := hguard
    exact exact_clientTakes hs h
  | serverTakes position =>
    obtain rfl : position = 0 := hguard
    exact exact_serverTakes hcount hs h
  | dropToServer position => exact hguard.elim
  | dropToClient position => exact hguard.elim

theorem exact_init (count : ℕ) : Exact count (protocol count).init :=
  .opening rfl rfl rfl rfl rfl rfl

/-- The client never goes back. -/
theorem Exact.ahead (hs : Exact count s) : Ahead s := by
  intro message hmessage hpoint
  cases hs with
  | opening _ _ _ hdown => simp [hdown] at hmessage
  | synSent _ _ _ hdown => simp [hdown] at hmessage
  | synTaken _ _ _ hdown => simp [hdown] at hmessage
  | synackSent hclient => simp [hclient] at hpoint
  | synackTaken _ _ _ hdown => simp [hdown] at hmessage
  | ackSent _ _ _ hdown => simp [hdown] at hmessage
  | flow replied hflow =>
    rw [hflow.toClient] at hmessage
    rcases hflow.last_le.eq_or_lt with hsame | hless
    · rw [← hsame, upTosAfter_self] at hmessage
      cases hmessage
    · rw [upTosAfter_cons hless] at hmessage
      cases hmessage
      exact Nat.lt_succ_self _

/-- When the client has returned, so has the server, after one reply for each segment. -/
theorem Flow.of_returned (h : Flow count replied s) (hreturned : s.client.point = .returned) :
    s.server.point = .returned ∧ s.client.next = count ∧ replied = count := by
  have hend := h.finished hreturned
  have hlast := h.last_le
  have haccepted := h.accepted_le
  have hnext := h.next_le
  rcases h.serverPoint with ⟨-, -, hroom⟩ | ⟨-, hmore, -⟩ | ⟨hpoint, hsame, hreplied⟩
  · omega
  · omega
  · exact ⟨hpoint, by omega, hreplied⟩

theorem Exact.flow_of_returned (h : Exact count s) (hreturned : s.client.point = .returned) :
    ∃ replied, Flow count replied s := by
  cases h with
  | opening hclient => simp [hclient] at hreturned
  | synSent hclient => simp [hclient] at hreturned
  | synTaken hclient => simp [hclient] at hreturned
  | synackSent hclient => simp [hclient] at hreturned
  | synackTaken hclient => simp [hclient] at hreturned
  | ackSent hclient => rcases hclient with hclient | hclient <;> simp [hclient] at hreturned
  | flow replied hflow => exact ⟨replied, hflow⟩

/-- While the client waits, an acknowledgement or a segment is on its way, or a reply is due. -/
theorem Flow.served (h : Flow count replied s) (hlast : s.client.last < count)
    (hless : s.client.last < s.client.next) :
    (∃ message rest, s.toClient = message :: rest) ∨ s.server.point = .sendReply ∨
      s.server.point = .waitSegment ∧ ∃ message rest, s.toServer = message :: rest := by
  rcases h.last_le.eq_or_lt with hreplied | hahead
  · rcases h.serverPoint with ⟨hserver, haccepted, -⟩ | ⟨hserver, -⟩ | ⟨-, -, hend⟩
    · have hmore : s.server.accepted < s.client.next := by
        rw [haccepted, ← hreplied]
        exact hless
      exact Or.inr (Or.inr ⟨hserver, _, _, h.toServer.trans (segmentsFrom_cons hmore)⟩)
    · exact Or.inr (Or.inl hserver)
    · exact absurd (hreplied.trans hend) hlast.ne
  · exact Or.inl ⟨_, _, h.toClient.trans (upTosAfter_cons hahead)⟩

/-- No state is stuck before both parties have returned. -/
theorem returned_of_quiescent (hs : Exact count s)
    (hquiet : (protocol count).Quiescent Duplex.losslessInOrder s) :
    s.client.point = .returned ∧ s.server.point = .returned := by
  obtain ⟨hclientActs, hserverActs, hclientTakes, hserverTakes⟩ := Duplex.none_of_quiescent hquiet
  change Client.act count s.client = none at hclientActs
  change Server.act count s.server = none at hserverActs
  change ∀ message rest, s.toClient = message :: rest →
    Client.take count s.client message = none at hclientTakes
  change ∀ message rest, s.toServer = message :: rest →
    Server.take s.server message = none at hserverTakes
  cases hs with
  | opening hclient =>
    rw [hclient] at hclientActs
    cases hclientActs
  | synSent _ hserver hup =>
    have hnone := hserverTakes _ _ hup
    rw [hserver] at hnone
    cases hnone
  | synTaken _ hserver =>
    rw [hserver] at hserverActs
    cases hserverActs
  | synackSent hclient _ _ hdown =>
    have hnone := hclientTakes _ _ hdown
    rw [hclient] at hnone
    cases hnone
  | synackTaken hclient =>
    rw [hclient] at hclientActs
    cases hclientActs
  | ackSent _ hserver hup =>
    have hnone := hserverTakes _ _ hup
    rw [hserver] at hnone
    cases hnone
  | flow replied hflow =>
    rcases hflow.clientPoint with hpoint | ⟨hpoint, hless⟩ | hpoint | hpoint
    · have hlast := hflow.running (by simp [hpoint])
      simp only [Client.act, hpoint, if_pos hlast, reduceCtorEq] at hclientActs
    · have hlast := hflow.running (by simp [hpoint])
      rcases hflow.served hlast hless with ⟨message, rest, hdown⟩ | hserver |
        ⟨hserver, message, rest, hup⟩
      · have hnone := hclientTakes _ _ hdown
        simp only [Client.take, hpoint, reduceCtorEq] at hnone
      · simp only [Server.act, hserver, reduceCtorEq] at hserverActs
      · have hnone := hserverTakes _ _ hup
        simp only [Server.take, hserver, reduceCtorEq] at hnone
    · simp only [Client.act, hpoint, reduceCtorEq] at hclientActs
    · exact ⟨hpoint, (hflow.of_returned hpoint).1⟩

end Steps

end AckClocked

/-! ### What is sent -/

section Sent

variable {segments : List TCP}

/-- What stands for all segments is the segments. -/
theorem eq_segments {sent : List TCP}
    (h : List.Forall₂ (UpSegment segments) sent (AckClocked.segmentsFrom 0 segments.length)) :
    sent = segments := by
  rw [AckClocked.segmentsFrom, Nat.sub_zero, List.forall₂_map_right_iff] at h
  have hlength : sent.length = segments.length := h.length_eq.trans List.length_range'
  refine List.ext_getElem hlength fun i hsent hi ↦ ?_
  have hindex : i < (List.range' 0 segments.length).length := by rwa [List.length_range']
  have hstands : segments[(List.range' 0 segments.length)[i]]? = some sent[i] := h.get hsent hindex
  rw [List.getElem_range', Nat.zero_add, Nat.one_mul, List.getElem?_eq_getElem hi] at hstands
  exact (Option.some.inj hstands).symm

/-- There is one acknowledgement for each segment, of everything up to its end. -/
theorem map_ackNumber_eq {file : List UInt8} {maximumBytes : ℕ}
    (hsegments : IsSegmentation maximumBytes file segments) {acks : List TCP}
    (h : List.Forall₂ (DownSegment segments) acks (AckClocked.upTosAfter 0 segments.length)) :
    acks.map TCP.ackNumber =
      segments.map fun segment ↦ segment.sequenceNumber + UInt32.ofNat segment.payload.length := by
  rw [AckClocked.upTosAfter, Nat.sub_zero, List.forall₂_map_right_iff] at h
  have hlength : acks.length = segments.length := h.length_eq.trans List.length_range'
  refine List.ext_getElem (by rw [List.length_map, List.length_map, hlength]) fun i hack hi ↦ ?_
  rw [List.length_map] at hack hi
  have hindex : i < (List.range' (0 + 1) segments.length).length := by rwa [List.length_range']
  have hstands : acks[i].ackNumber =
      UInt32.ofNat (boundary segments (List.range' (0 + 1) segments.length)[i]) :=
    (h.get hack hindex).2
  rw [List.getElem_range', Nat.one_mul, Nat.add_comm, boundary_succ hi, UInt32.ofNat_add,
    ← hsegments.sequenceNumber i hi] at hstands
  rw [List.getElem_map, List.getElem_map, hstands]

end Sent

/-- What a transfer leaves behind: the client has sent the SYN, the ACK and every segment once and
in order; the server has sent the SYNACK and one ACK for each segment, and has written the file. -/
structure Session.Completed (session : Session) (s : Duplex Client Server MPDU MPDU) : Prop where
  clientSent : ∃ syn ack : TCP,
    s.clientSent.map MPDU.tcpSegment = some syn :: some ack :: session.segmentsToSend.map some ∧
      syn.details = TCP_SYN ∧ syn.payload = [] ∧ ack.details = TCP_ACK ∧ ack.payload = []
  serverSent : ∃ (synack : TCP) (acks : List TCP),
    s.serverSent.map MPDU.tcpSegment = some synack :: acks.map some ∧
      synack.details = TCP_SYNACK ∧
      acks.map TCP.ackNumber = session.segmentsToSend.map fun segment ↦
        segment.sequenceNumber + UInt32.ofNat segment.payload.length
  written : s.server.written = session.file

/-- A session is completed when the protocol's client has returned after a flow. -/
theorem Session.completed_of_flow {session : Session} (hfile : session.file ≠ [])
    {s : Duplex Client Server MPDU MPDU} {a : AckClocked.State} (hrel : session.Represents s a)
    {replied : ℕ} (hflow : AckClocked.Flow session.segmentsToSend.length replied a)
    (hreturned : a.client.point = .returned) : session.Completed s := by
  obtain ⟨hrelated, hsafe⟩ := hrel
  have hsegments := session.isSegmentation hfile
  obtain ⟨-, hnext, rfl⟩ := hflow.of_returned hreturned
  obtain ⟨sent, hsent, hstands⟩ := exists_segments hrelated.clientSent
  obtain ⟨replies, hreplies, hanswers⟩ := exists_segments hrelated.serverSent
  rw [hflow.clientSent, hnext] at hstands
  rw [hflow.serverSent] at hanswers
  cases hstands with
  | @cons syn _ _ _ hsyn hrest =>
    cases hrest with
    | @cons ack _ data _ hack hdata =>
      cases hanswers with
      | @cons synack _ acks _ hsynack hacks =>
        refine ⟨⟨syn, ack, ?_, hsyn.1, hsyn.2.2, hack.1, hack.2.2.2⟩,
          ⟨synack, acks, hreplies, hsynack.1, map_ackNumber_eq hsegments hacks⟩, ?_⟩
        · rw [hsent, eq_segments hdata]
          rfl
        · have haccepted := hsafe.accepted_eq_of_returned (Or.inl hreturned)
          rw [hrelated.server.written, haccepted, List.take_length, hsegments.payloadBytes]

/-- Without losses and in order, every run is finite, with a bound on its length; no state is stuck
before both functions have returned; and when they have, every segment has been sent once and in
order, with one ACK for each, and the output is the file. -/
theorem lossless_transfer {session : Session} (hfile : session.file ≠ [])
    (hsize : session.file.length < 2 ^ 31) :
    (∀ schedule s,
      session.connection.run Duplex.losslessInOrder session.connection.init schedule = some s →
        schedule.length ≤ 5 * session.segmentsToSend.length + 11) ∧
    ∀ s, session.connection.Reachable Duplex.losslessInOrder s →
      (session.connection.Quiescent Duplex.losslessInOrder s →
        s.client.point = .returned ∧ s.server.point = .returned) ∧
      (s.client.point = .returned → s.server.point = .returned ∧ session.Completed s) := by
  have hcount := Session.length_pos hfile
  have hlockstep := Session.lockstep hfile hsize
  have hguard : ∀ (s : Duplex Client Server MPDU MPDU) (a : AckClocked.State) event,
      session.Represents s a → Duplex.losslessInOrder s event → Duplex.losslessInOrder a event :=
    fun _ a _ _ hallowed ↦ Duplex.losslessInOrder_transfer a hallowed
  have hdecreases : ∀ (s : AckClocked.State) event t,
      AckClocked.Safe session.segmentsToSend.length s ∧
          AckClocked.Exact session.segmentsToSend.length s →
        Duplex.losslessInOrder s event →
          (AckClocked.protocol session.segmentsToSend.length).step s event = some t →
            (AckClocked.Safe session.segmentsToSend.length t ∧
              AckClocked.Exact session.segmentsToSend.length t) ∧
            AckClocked.State.work session.segmentsToSend.length t <
              AckClocked.State.work session.segmentsToSend.length s := by
    rintro s event t ⟨hsafe, hexact⟩ hallowed hstep
    exact ⟨⟨AckClocked.safe_step hcount event hsafe hstep,
      AckClocked.exact_step hcount event hexact hallowed hstep⟩,
      AckClocked.work_lt event hsafe hexact.ahead hallowed hstep⟩
  have hinit := And.intro (AckClocked.safe_init session.segmentsToSend.length)
    (AckClocked.exact_init session.segmentsToSend.length)
  refine ⟨fun schedule s hrun ↦ ?_, fun s hreach ↦ ?_⟩
  · obtain ⟨b, hb, -⟩ := hlockstep.run_eq_some hguard Session.represents_init hrun
    have hbound := ScheduledSystem.length_le_of_run hdecreases hinit hb
    rw [AckClocked.work_init] at hbound
    exact (Nat.le_add_right _ _).trans hbound
  · obtain ⟨a, ha, hrel⟩ := Session.exists_represented hfile hsize hguard hreach
    obtain ⟨-, hexact⟩ := ha.invariant (fun s event t hs hallowed hstep ↦
      (hdecreases s event t hs hallowed hstep).1) hinit
    refine ⟨fun hquiet ↦ ?_, fun hreturned ↦ ?_⟩
    · have hstuck : (AckClocked.protocol session.segmentsToSend.length).Quiescent
          Duplex.losslessInOrder a :=
        hlockstep.quiescent (fun _ hallowed ↦ Duplex.losslessInOrder_transfer _ hallowed) hrel hquiet
      rw [hrel.1.client.point, hrel.1.server.point]
      exact AckClocked.returned_of_quiescent hexact hstuck
    · have hpoint := hrel.1.client.point.symm.trans hreturned
      obtain ⟨replied, hflow⟩ := hexact.flow_of_returned hpoint
      rw [hrel.1.server.point]
      exact ⟨(hflow.of_returned hpoint).1, Session.completed_of_flow hfile hrel hflow hpoint⟩

/-- Three segments, two of them after the first ACK. -/
theorem lossless_transfer_witness :
    ∃ h : (threeSegments.connection.run Duplex.losslessInOrder threeSegments.connection.init
        [.clientActs, .serverTakes 0, .serverActs, .clientTakes 0, .clientActs, .clientActs,
          .serverTakes 0, .serverTakes 0, .serverActs, .clientTakes 0, .clientActs, .clientActs,
          .serverTakes 0, .serverActs, .serverTakes 0, .serverActs, .clientTakes 0, .clientActs,
          .clientActs, .clientTakes 0]).isSome,
      (Option.get _ h).server.point = .returned ∧ threeSegments.Completed (Option.get _ h) :=
  ⟨by decide +kernel, ((lossless_transfer (by decide +kernel) (by decide +kernel)).2 _
    (ScheduledSystem.reachable_of_isSome_run _)).2 (by decide +kernel)⟩

end NetworkSimulation.Tcp
