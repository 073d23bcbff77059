import NetworkSimulation.Tcp.Refinement
import NetworkSimulation.Tcp.Stranding
import NetworkSimulation.Tcp.Work

/-!
# Deadlocks of a TCP transfer

A transfer that is stranded ends in a deadlock if nothing more is dropped: the client never goes
back while the server still lacks a segment, and the server never answers once it has all, so the
work left gets less (`strandedWork_lt`), and where nothing can happen any more both parties wait
(`blocked_of_quiescent`).

The functions are stranded where the protocol is, in sequence numbers instead of indices
(`stranded_iff`). So a network that drops a frame only where the state it leaves is not stranded
never brings them to a deadlock, and any other drop leads to one without a further drop
(`deadlock_freedom`). Dropping the SYN is such a drop (`not_deadlock_free`).
-/

set_option autoImplicit false
set_option relaxedAutoImplicit false

namespace NetworkSimulation.Tcp

open Stack Library

/-- The client waits for a frame, and the server waits for one or has returned. -/
def Blocked (client : ClientPoint) (server : ServerPoint) : Prop :=
  (client = .waitSYNACK ∨ client = .waitACK) ∧
    (server = .returned ∨ server = .waitSYN ∨ server = .waitACK ∨ server = .waitSegment)

instance (client : ClientPoint) (server : ServerPoint) : Decidable (Blocked client server) :=
  inferInstanceAs (Decidable (_ ∧ _))

namespace AckClocked

section Steps

variable {count : ℕ} {s t : State}

/-- When everything is accepted but the client is stranded, the server has returned. -/
theorem returned_of_stranded (hcount : 0 < count) (hs : Safe count s) (hstranded : Stranded count s)
    (hend : s.server.accepted = count) :
    s.client.point.InLoop ∧ s.server.point = .returned := by
  have hloop : s.client.point.InLoop := by
    rcases hstranded with ⟨hwaits, -⟩ | ⟨hloop, -⟩
    · rcases hs.transfer_or_early with htransfer | ⟨-, haccepted, -⟩
      · rcases htransfer.clientPoint with h | h | h | h <;> simp [h] at hwaits
      · omega
    · exact hloop
  refine ⟨hloop, ?_⟩
  rw [stranded_iff_of_inLoop hloop, Outlook.hopeless_iff_of_accepted hend] at hstranded
  rcases hs.of_inLoop hloop with htransfer | ⟨hserver, -⟩
  · rcases htransfer.serverPoint with ⟨-, hroom⟩ | hpoint | ⟨hpoint, -⟩
    · exact absurd hend hroom.ne
    · refine absurd ?_ hstranded
      rw [outlook, hpoint, if_pos rfl, hs.accepted_reply hloop, hend]
      exact List.mem_append_right _ (List.mem_singleton_self _)
    · exact hpoint
  · rcases hserver with hserver | hserver <;> rw [hserver] at hend <;> exact absurd hend hcount.ne

/-- A step that ends with everything accepted and the server returned begins so. -/
theorem accepted_eq_of_step {event : Duplex.Event} (hguard : Duplex.losslessInOrder s event)
    (h : Duplex.step (client count) (server count) s event = some t)
    (hreturned : t.server.point = .returned) : s.server.accepted = t.server.accepted := by
  cases event with
  | clientActs =>
    obtain ⟨acted, sent, -, rfl⟩ := Duplex.step_clientActs h
    rfl
  | serverActs =>
    obtain ⟨acted, sent, hacts, rfl⟩ := Duplex.step_serverActs h
    cases Server.acts_of_act hacts <;> rfl
  | clientTakes position =>
    obtain ⟨message, taken, -, -, rfl⟩ := Duplex.step_clientTakes h
    rfl
  | serverTakes position =>
    obtain ⟨message, taken, -, htakes, rfl⟩ := Duplex.step_serverTakes h
    cases Server.takes_of_take htakes with
    | waitSYN hpoint =>
      split_ifs <;> rfl
    | waitACK hpoint => rfl
    | waitSegment hpoint =>
      exact absurd ((point_takeSegment s.server message).symm.trans hreturned) (by simp)
    | returned hpoint => rfl
  | dropToServer position => exact hguard.elim
  | dropToClient position => exact hguard.elim

/-- The work left once the server has returned: an ACK may send the client back by all segments. -/
def workAfterReturn (count : ℕ) (s : State) : ℕ :=
  clientWork s.client.point + (count - s.client.next) + s.toServer.length +
    (count + 3) * s.toClient.length

/-- The work left in a stranded transfer. -/
def strandedWork (count : ℕ) (s : State) : ℕ :=
  if s.server.accepted = count then workAfterReturn count s else State.work count s

theorem workAfterReturn_sendSegment {point : ClientPoint}
    (hless : clientWork point < clientWork s.client.point) :
    workAfterReturn count { s with
      client := (s.client.sendSegment count point).1
      toServer := s.toServer ++ (s.client.sendSegment count point).2.toList
      clientSent := s.clientSent ++ (s.client.sendSegment count point).2.toList } <
      workAfterReturn count s := by
  rw [Client.sendSegment]
  split_ifs with hmore
  · simp only [workAfterReturn, Option.toList_some, List.length_append, List.length_singleton]
    omega
  · simp only [workAfterReturn, Option.toList_none, List.append_nil]
    omega

/-- Once the server has returned, every step leaves less work and the server as it is. -/
theorem workAfterReturn_lt (hcount : 0 < count) (event : Duplex.Event) (hs : Safe count s)
    (hloop : s.client.point.InLoop) (hpoint : s.server.point = .returned)
    (hguard : Duplex.losslessInOrder s event)
    (h : Duplex.step (client count) (server count) s event = some t) :
    t.server = s.server ∧ workAfterReturn count t < workAfterReturn count s := by
  cases event with
  | clientActs =>
    obtain ⟨acted, sent, hacts, rfl⟩ := Duplex.step_clientActs h
    refine ⟨rfl, ?_⟩
    cases Client.acts_of_act hacts with
    | sendSYN hclient => simp [hclient, ClientPoint.InLoop] at hloop
    | sendACK hclient => simp [hclient, ClientPoint.InLoop] at hloop
    | loopTop hclient => exact workAfterReturn_sendSegment (by simp [hclient, clientWork])
    | finish hclient hdone => exact absurd (hs.last_lt hcount hloop) hdone
    | sendAnother hclient => exact workAfterReturn_sendSegment (by simp [hclient, clientWork])
  | serverActs =>
    obtain ⟨acted, sent, hacts, rfl⟩ := Duplex.step_serverActs h
    cases Server.acts_of_act hacts with
    | sendSYNACK hacting => simp [hacting] at hpoint
    | resendSYNACK hacting => simp [hacting] at hpoint
    | sendReply hacting => simp [hacting] at hpoint
  | clientTakes position =>
    obtain rfl : position = 0 := hguard
    obtain ⟨message, taken, hmessage, htakes, rfl⟩ := Duplex.step_clientTakes h
    have hlength := congrArg List.length (Duplex.eq_cons_of_getElem?_zero hmessage)
    rw [List.length_cons] at hlength
    refine ⟨rfl, ?_⟩
    cases Client.takes_of_take htakes with
    | waitSYNACK hclient => simp [hclient, ClientPoint.InLoop] at hloop
    | waitACK hclient =>
      have hbound : clientWork (s.client.takeACK count message.accepted).point ≤ 2 := by
        rw [Client.takeACK]
        split_ifs <;> simp [clientWork]
      simp only [workAfterReturn, hlength, Nat.mul_succ]
      omega
    | returned hclient => simp [hclient, ClientPoint.InLoop] at hloop
  | serverTakes position =>
    obtain rfl : position = 0 := hguard
    obtain ⟨message, taken, hmessage, htakes, rfl⟩ := Duplex.step_serverTakes h
    have hlength := congrArg List.length (Duplex.eq_cons_of_getElem?_zero hmessage)
    rw [List.length_cons] at hlength
    cases Server.takes_of_take htakes with
    | waitSYN hwaiting => simp [hwaiting] at hpoint
    | waitACK hwaiting => simp [hwaiting] at hpoint
    | waitSegment hwaiting => simp [hwaiting] at hpoint
    | returned =>
      refine ⟨rfl, ?_⟩
      simp only [workAfterReturn, hlength]
      omega
  | dropToServer position => exact hguard.elim
  | dropToClient position => exact hguard.elim

/-- While the server lacks a segment, a stranded client does not go back. -/
theorem ahead_of_stranded (hstranded : Stranded count s)
    (hopen : s.server.accepted ≠ count) : Ahead s := by
  intro message hmessage hpoint
  obtain ⟨rest, hfront⟩ := List.head?_eq_some_iff.mp hmessage
  rw [stranded_iff_of_inLoop (Or.inr (Or.inl hpoint))] at hstranded
  by_contra hold
  have hacks : (outlook count s).acks = message.accepted :: (rest.map Down.accepted ++
      if s.server.point = .sendReply then [s.server.reply.accepted] else []) := by
    rw [outlook, hfront]
    rfl
  exact Outlook.not_hopeless_of_repeated hacks (not_lt.mp hold) hopen hstranded

/-- Without a further loss every step of a stranded transfer leaves less work. -/
theorem strandedWork_lt (hcount : 0 < count) (event : Duplex.Event) (hs : Safe count s)
    (hstranded : Stranded count s) (hguard : Duplex.losslessInOrder s event)
    (h : Duplex.step (client count) (server count) s event = some t) :
    strandedWork count t < strandedWork count s := by
  by_cases hend : s.server.accepted = count
  · obtain ⟨hloop, hpoint⟩ := returned_of_stranded hcount hs hstranded hend
    obtain ⟨hserver, hless⟩ := workAfterReturn_lt hcount event hs hloop hpoint hguard h
    rw [strandedWork, strandedWork, hserver, if_pos hend, if_pos hend]
    exact hless
  · have hopen : t.server.accepted ≠ count := by
      intro hreached
      have hsafe := safe_step hcount event hs h
      have hstill := (stranded_step hcount event hs hguard h).mpr hstranded
      obtain ⟨-, hreturned⟩ := returned_of_stranded hcount hsafe hstill hreached
      exact hend ((accepted_eq_of_step hguard h hreturned).trans hreached)
    rw [strandedWork, strandedWork, if_neg hopen, if_neg hend]
    exact work_lt event hs (ahead_of_stranded hstranded hend) hguard h

/-- A stranded transfer in which nothing can happen is a deadlock. -/
theorem blocked_of_quiescent (hs : Safe count s) (hstranded : Stranded count s)
    (hquiet : (protocol count).Quiescent Duplex.losslessInOrder s) :
    s.toServer = [] ∧ s.toClient = [] ∧ Blocked s.client.point s.server.point := by
  obtain ⟨hclientActs, hserverActs, hclientTakes, hserverTakes⟩ := Duplex.none_of_quiescent hquiet
  change Client.act count s.client = none at hclientActs
  change Server.act count s.server = none at hserverActs
  rcases hstranded with ⟨hwaits, hup, hdown, hidle⟩ | ⟨hloop, -⟩
  · refine ⟨hup, hdown, Or.inl hwaits, ?_⟩
    rcases hs.of_waitSYNACK hwaits with hpoint | ⟨-, hpoint | hpoint⟩
    · exact Or.inr (Or.inl hpoint)
    · exact absurd hpoint hidle
    · exact Or.inr (Or.inr (Or.inl hpoint))
  have hclient : s.client.point = .waitACK := by
    rcases hloop with hpoint | hpoint | hpoint
    · simp only [Client.act, hpoint] at hclientActs
      split_ifs at hclientActs
    · exact hpoint
    · simp only [Client.act, hpoint, reduceCtorEq] at hclientActs
  have hserver : s.server.point = .returned ∨ s.server.point = .waitSYN ∨
      s.server.point = .waitACK ∨ s.server.point = .waitSegment := by
    rcases hs.server_of_inLoop hloop with hpoint | hpoint | hpoint | hpoint
    · exact Or.inr (Or.inr (Or.inl hpoint))
    · exact Or.inr (Or.inr (Or.inr hpoint))
    · simp only [Server.act, hpoint, reduceCtorEq] at hserverActs
    · exact Or.inl hpoint
  refine ⟨?_, ?_, Or.inr hclient, hserver⟩
  · refine List.eq_nil_iff_forall_not_mem.mpr fun message hmessage ↦ ?_
    obtain ⟨front, rest, hfront⟩ := List.exists_cons_of_ne_nil (List.ne_nil_of_mem hmessage)
    have hnone : Server.take s.server front = none := hserverTakes front rest hfront
    rcases hserver with hpoint | hpoint | hpoint | hpoint <;>
      simp only [Server.take, hpoint, reduceCtorEq] at hnone
  · refine List.eq_nil_iff_forall_not_mem.mpr fun message hmessage ↦ ?_
    obtain ⟨front, rest, hfront⟩ := List.exists_cons_of_ne_nil (List.ne_nil_of_mem hmessage)
    have hnone : Client.take count s.client front = none := hclientTakes front rest hfront
    simp only [Client.take, hclient, reduceCtorEq] at hnone

/-- Without a further loss, a stranded transfer ends in a deadlock. -/
theorem exists_blocked_of_stranded (hcount : 0 < count) (hs : Safe count s)
    (hstranded : Stranded count s) :
    ∃ t, (protocol count).ReachableFrom Duplex.losslessInOrder s t ∧
      t.toServer = [] ∧ t.toClient = [] ∧ Blocked t.client.point t.server.point := by
  have hstep : ∀ (s : State) event t, Safe count s ∧ Stranded count s →
      Duplex.losslessInOrder s event → (protocol count).step s event = some t →
        (Safe count t ∧ Stranded count t) ∧ strandedWork count t < strandedWork count s := by
    rintro s event t ⟨hs, hstranded⟩ hguard h
    exact ⟨⟨safe_step hcount event hs h, (stranded_step hcount event hs hguard h).mpr hstranded⟩,
      strandedWork_lt hcount event hs hstranded hguard h⟩
  obtain ⟨t, hreach, hquiet⟩ := ScheduledSystem.exists_quiescent hstep ⟨hs, hstranded⟩
  obtain ⟨hsafe, hstill⟩ := hreach.invariant
    (fun s event t hs hguard h ↦ (hstep s event t hs hguard h).1) ⟨hs, hstranded⟩
  exact ⟨t, hreach, blocked_of_quiescent hsafe hstill hquiet⟩

end Steps

end AckClocked

/-! ### The functions -/

/-- The sequence numbers that a segment takes up. -/
def segmentSpan (segment : TCP) : ℕ × ℕ :=
  (segment.sequenceNumber.toNat, segment.sequenceNumber.toNat + segment.payload.length)

/-- What the client of a session can expect to hear, in sequence numbers. -/
def Session.outlook (session : Session) (s : Duplex Client Server MPDU MPDU) : Outlook ℕ where
  final := 1 + session.file.length
  last := boundary session.segmentsToSend s.client.lastUnACKdIndex
  accepted := 1 + s.server.written.length
  acks := (s.toClient.filterMap MPDU.tcpSegment).map (fun segment ↦ segment.ackNumber.toNat) ++
    if s.server.point = .sendReply then [s.server.txSegment.ackNumber.toNat] else []
  outgoing := ((s.toServer.filterMap MPDU.tcpSegment ++
    (session.segmentsToSend.drop s.client.nextSegmentIndex).take s.client.point.sends).drop
      s.server.point.unanswered).map segmentSpan
  upcoming := ((s.toServer.filterMap MPDU.tcpSegment ++
    session.segmentsToSend.drop s.client.nextSegmentIndex).drop
      s.server.point.unanswered).map segmentSpan

/-- In the handshake: the SYN or the SYNACK is gone. Later: the client waits, and neither hears of
the end of the file nor hears an ACK twice. -/
def Session.Stranded (session : Session) (s : Duplex Client Server MPDU MPDU) : Prop :=
  s.client.point = .waitSYNACK ∧ s.toServer = [] ∧ s.toClient = [] ∧ s.server.point ≠ .sendSYNACK ∨
    s.client.point.InLoop ∧ (session.outlook s).Hopeless

instance (session : Session) (s : Duplex Client Server MPDU MPDU) :
    Decidable (session.Stranded s) :=
  inferInstanceAs (Decidable (_ ∧ _ ∧ _ ∧ _ ∨ _ ∧ _))

section Correspondence

variable {session : Session} {s : Duplex Client Server MPDU MPDU} {a : AckClocked.State}

theorem filterMap_tcpSegment {frames : List MPDU} {sent : List TCP}
    (h : frames.map MPDU.tcpSegment = sent.map some) : frames.filterMap MPDU.tcpSegment = sent := by
  have hsome := congrArg (List.filterMap id) h
  rw [List.filterMap_map, List.filterMap_map] at hsome
  exact hsome.trans List.filterMap_some

/-- A reply acknowledges the boundary that it stands for. -/
theorem ackNumber_eq {segments : List TCP} {file : List UInt8} {segment : TCP}
    {message : AckClocked.Down} (hsegments : IsSegmentation maximumPayloadBytes file segments)
    (hsize : file.length < 2 ^ 31) (h : DownSegment segments segment message) :
    segment.ackNumber.toNat = boundary segments message.accepted := by
  cases message with
  | synack =>
    rw [h.2.2]
    rfl
  | upTo accepted =>
    rw [h.2, toNat_boundary hsegments hsize]
    rfl

theorem segmentSpan_eq {segments : List TCP} {file : List UInt8} {index : ℕ}
    (hsegments : IsSegmentation maximumPayloadBytes file segments) (hsize : file.length < 2 ^ 31)
    (hindex : index < segments.length) :
    segmentSpan segments[index] = (boundary segments index, boundary segments (index + 1)) := by
  rw [segmentSpan, hsegments.sequenceNumber index hindex, toNat_boundary hsegments hsize,
    boundary_succ hindex]

theorem map_eq_map_of_forall₂ {α β γ : Type*} {f : α → γ} {g : β → γ} {list : List α}
    {other : List β} (h : List.Forall₂ (fun x y ↦ f x = g y) list other) :
    list.map f = other.map g := by
  rw [← List.forall₂_eq_eq_eq, List.forall₂_map_left_iff, List.forall₂_map_right_iff]
  exact h

/-- The ACK numbers in flight are the boundaries of what is acknowledged. -/
theorem acks_in_flight {segments : List TCP} {file : List UInt8} {frames : List MPDU}
    {messages : List AckClocked.Down} (hsegments : IsSegmentation maximumPayloadBytes file segments)
    (hsize : file.length < 2 ^ 31) (h : List.Forall₂ (CarriesDown segments) frames messages) :
    (frames.filterMap MPDU.tcpSegment).map (fun segment ↦ segment.ackNumber.toNat) =
      (messages.map AckClocked.Down.accepted).map (boundary segments) := by
  obtain ⟨sent, hsent, hstands⟩ := exists_segments h
  rw [filterMap_tcpSegment hsent, List.map_map]
  refine map_eq_map_of_forall₂ (hstands.imp fun segment message hdown ↦ ?_)
  exact ackNumber_eq hsegments hsize hdown

/-- The segments in flight take up the sequence numbers between boundaries. -/
theorem spans_in_flight {segments : List TCP} {file : List UInt8} {frames : List MPDU}
    {messages : List AckClocked.Up} (hsegments : IsSegmentation maximumPayloadBytes file segments)
    (hsize : file.length < 2 ^ 31)
    (hup : ∀ message ∈ messages, message = .ack ∨ ∃ i < segments.length, message = .segment i)
    (h : List.Forall₂ (CarriesUp segments) frames messages) :
    (frames.filterMap MPDU.tcpSegment).map segmentSpan =
      (messages.map AckClocked.Up.span).map (Prod.map (boundary segments) (boundary segments)) := by
  obtain ⟨sent, hsent, hstands⟩ := exists_segments h
  rw [filterMap_tcpSegment hsent]
  clear hsent h
  induction hstands with
  | nil => rfl
  | @cons segment message _ _ hfirst _ ih =>
    have hspan : segmentSpan segment =
        Prod.map (boundary segments) (boundary segments) message.span := by
      rcases hup message List.mem_cons_self with rfl | ⟨i, hi, rfl⟩
      · obtain ⟨-, hSN, -, hpayload⟩ := hfirst
        rw [segmentSpan, hSN, hpayload]
        rfl
      · obtain ⟨hbound, rfl⟩ := List.getElem?_eq_some_iff.mp hfirst
        exact segmentSpan_eq hsegments hsize hbound
    rw [List.map_cons, List.map_cons, List.map_cons, hspan,
      ih fun other hother ↦ hup other (List.mem_cons_of_mem _ hother)]

/-- The segments that have not been sent take up the sequence numbers from the next on. -/
theorem spans_unsent {segments : List TCP} {file : List UInt8}
    (hsegments : IsSegmentation maximumPayloadBytes file segments) (hsize : file.length < 2 ^ 31)
    (next : ℕ) :
    (segments.drop next).map segmentSpan =
      (unitSpans next segments.length).map
        (Prod.map (boundary segments) (boundary segments)) := by
  refine List.ext_getElem ?_ fun i hleft hright ↦ ?_
  · rw [unitSpans, List.length_map, List.length_map, List.length_map, List.length_range',
      List.length_drop]
  · rw [List.length_map, List.length_drop] at hleft
    have hbound : next + i < segments.length := by omega
    rw [List.getElem_map, List.getElem_map, List.getElem_drop]
    simp only [unitSpans, List.getElem_map, List.getElem_range', Nat.one_mul]
    exact segmentSpan_eq hsegments hsize hbound

/-- What a client expects is what the protocol's client expects. -/
theorem outlook_eq (hfile : session.file ≠ []) (hsize : session.file.length < 2 ^ 31)
    (hrel : session.Represents s a) (hloop : a.client.point.InLoop) :
    session.outlook s = (AckClocked.outlook session.segmentsToSend.length a).map
      (boundary session.segmentsToSend) := by
  obtain ⟨hrelated, hsafe⟩ := hrel
  have hsegments := session.isSegmentation hfile
  have hcount := Session.length_pos hfile
  have hflight := spans_in_flight hsegments hsize (hsafe.up_of_inLoop hcount hloop)
    hrelated.toServer
  have hunsent := spans_unsent hsegments hsize a.client.next
  have hclient := hrelated.client
  have hserver := hrelated.server
  ext1
  · change 1 + session.file.length =
      boundary session.segmentsToSend session.segmentsToSend.length
    rw [boundary_length, hsegments.payloadBytes]
  · exact congrArg (boundary session.segmentsToSend) hclient.last
  · change 1 + s.server.written.length = boundary _ _
    rw [boundary, hserver.written]
    rfl
  · change _ ++ (if s.server.point = .sendReply then _ else _) =
      List.map _ (_ ++ if a.server.point = .sendReply then _ else _)
    rw [hserver.point, List.map_append, acks_in_flight hsegments hsize hrelated.toClient]
    by_cases hpoint : a.server.point = .sendReply
    · obtain ⟨-, hdown⟩ := hserver.reply (by simp [hpoint])
      rw [if_pos hpoint, if_pos hpoint, ackNumber_eq hsegments hsize hdown, List.map_singleton]
    · rw [if_neg hpoint, if_neg hpoint, List.map_nil]
  · change List.map segmentSpan (List.drop _ _) = List.map (Prod.map _ _) (List.drop _ _)
    rw [hclient.next, hclient.point, hserver.point, List.map_drop, List.map_append, List.map_take,
      hflight, hunsent, List.map_drop, List.map_append, List.map_take]
  · change List.map segmentSpan (List.drop _ _) = List.map (Prod.map _ _) (List.drop _ _)
    rw [hclient.next, hserver.point, List.map_drop, List.map_append, hflight, hunsent,
      List.map_drop, List.map_append]

/-- A state of a session is stranded exactly if the protocol's state is. -/
theorem stranded_iff (hfile : session.file ≠ []) (hsize : session.file.length < 2 ^ 31)
    (hrel : session.Represents s a) :
    session.Stranded s ↔ AckClocked.Stranded session.segmentsToSend.length a := by
  have hsegments := session.isSegmentation hfile
  have hcount := Session.length_pos hfile
  have hmono : StrictMonoOn (boundary session.segmentsToSend)
      (Set.Iic session.segmentsToSend.length) :=
    fun first _ second hsecond hless ↦ boundary_lt_boundary hsegments hless hsecond
  have hnil : ∀ {α β : Type} {related : α → β → Prop} {list : List α} {other : List β},
      List.Forall₂ related list other → (list = [] ↔ other = []) := by
    intro α β related list other hall
    rw [← List.length_eq_zero_iff, hall.length_eq, List.length_eq_zero_iff]
  have hwaits : (s.client.point = .waitSYNACK ∧ s.toServer = [] ∧ s.toClient = [] ∧
      s.server.point ≠ .sendSYNACK) ↔ (a.client.point = .waitSYNACK ∧ a.toServer = [] ∧
        a.toClient = [] ∧ a.server.point ≠ .sendSYNACK) := by
    rw [hrel.1.client.point, hrel.1.server.point, hnil hrel.1.toServer, hnil hrel.1.toClient]
  have hlater : (s.client.point.InLoop ∧ (session.outlook s).Hopeless) ↔ (a.client.point.InLoop ∧
      (AckClocked.outlook session.segmentsToSend.length a).Hopeless) := by
    rw [hrel.1.client.point]
    refine and_congr_right fun hloop ↦ ?_
    rw [outlook_eq hfile hsize hrel hloop]
    exact Outlook.hopeless_map hmono (AckClocked.outlook_within hcount hrel.2 hloop)
  exact or_congr hwaits hlater

end Correspondence

/-! ### Deadlocks -/

/-- Nothing is in flight, the client has not returned, and both parties that have not returned wait
for a frame. -/
def Deadlock (s : Duplex Client Server MPDU MPDU) : Prop :=
  s.toServer = [] ∧ s.toClient = [] ∧ Blocked s.client.point s.server.point

instance (s : Duplex Client Server MPDU MPDU) : Decidable (Deadlock s) :=
  inferInstanceAs (Decidable (_ ∧ _ ∧ _))

/-- Frames are taken in the order they were sent in, and one is dropped only where the state that is
left is not stranded. -/
def Session.sparing (session : Session) (s : Duplex Client Server MPDU MPDU) :
    Duplex.Event → Prop
  | .clientTakes position | .serverTakes position => position = 0
  | .dropToServer position =>
    ¬ session.Stranded { s with toServer := s.toServer.eraseIdx position }
  | .dropToClient position =>
    ¬ session.Stranded { s with toClient := s.toClient.eraseIdx position }
  | .clientActs | .serverActs => True

instance (session : Session) (s : Duplex Client Server MPDU MPDU) :
    ∀ event, Decidable (session.sparing s event)
  | .clientTakes position | .serverTakes position => inferInstanceAs (Decidable (position = 0))
  | .dropToServer _ | .dropToClient _ => inferInstanceAs (Decidable (¬ _))
  | .clientActs | .serverActs => .isTrue trivial

section Sparing

variable {session : Session} {s t : Duplex Client Server MPDU MPDU}

/-- A deadlock is stranded. -/
theorem stranded_of_deadlock (h : Deadlock s) : session.Stranded s := by
  obtain ⟨hup, hdown, hclient, hserver⟩ := h
  rcases hclient with hclient | hclient
  · refine Or.inl ⟨hclient, hup, hdown, ?_⟩
    rcases hserver with hserver | hserver | hserver | hserver <;> simp [hserver]
  · refine Or.inr ⟨Or.inr (Or.inl hclient), Or.inl ?_⟩
    have hsends : ClientPoint.waitACK.sends = 0 := rfl
    have hidle : s.server.point ≠ .sendReply := by
      rcases hserver with hserver | hserver | hserver | hserver <;> simp [hserver]
    rw [Outlook.prospects, Session.outlook]
    simp only [hup, hdown, hclient, hsends, if_neg hidle, List.filterMap_nil, List.map_nil,
      List.take_zero, List.append_nil, List.drop_nil, answers_nil]

/-- Without a loss a step neither strands a transfer nor saves one that is stranded. -/
theorem stranded_step (hfile : session.file ≠ []) (hsize : session.file.length < 2 ^ 31)
    {a : AckClocked.State} {event : Duplex.Event} (hrel : session.Represents s a)
    (hguard : Duplex.losslessInOrder a event)
    (hstep : session.connection.step s event = some t) :
    ∃ b, session.Represents t b ∧ (session.Stranded t ↔ session.Stranded s) := by
  obtain ⟨b, hother, hb⟩ := (Session.lockstep hfile hsize).exists_step hrel hstep
  refine ⟨b, hb, ?_⟩
  rw [stranded_iff hfile hsize hrel, stranded_iff hfile hsize hb]
  exact AckClocked.stranded_step (Session.length_pos hfile) event hrel.2 hguard hother

/-- No state that a sparing network leads to is stranded. -/
theorem not_stranded_of_sparing (hfile : session.file ≠ []) (hsize : session.file.length < 2 ^ 31)
    (h : session.connection.Reachable session.sparing s) : ¬ session.Stranded s := by
  have hstep : ∀ s event t, (∃ a, session.Represents s a ∧ ¬ session.Stranded s) →
      session.sparing s event → session.connection.step s event = some t →
        ∃ b, session.Represents t b ∧ ¬ session.Stranded t := by
    rintro s event t ⟨a, hrel, hopen⟩ hguard hstep
    have hlossless : Duplex.losslessInOrder a event →
        ∃ b, session.Represents t b ∧ ¬ session.Stranded t := by
      intro hallowed
      obtain ⟨b, hb, hsame⟩ := stranded_step hfile hsize hrel hallowed hstep
      exact ⟨b, hb, mt hsame.mp hopen⟩
    obtain ⟨b, -, hb⟩ := (Session.lockstep hfile hsize).exists_step hrel hstep
    change Duplex.step (session.client.TCPClient session.segmentsToSend) session.server.TCPServer
      s event = some t at hstep
    cases event with
    | clientActs => exact hlossless trivial
    | serverActs => exact hlossless trivial
    | clientTakes position => exact hlossless hguard
    | serverTakes position => exact hlossless hguard
    | dropToServer position =>
      obtain rfl := Duplex.step_dropToServer hstep
      exact ⟨b, hb, hguard⟩
    | dropToClient position =>
      obtain rfl := Duplex.step_dropToClient hstep
      exact ⟨b, hb, hguard⟩
  have hinit : ¬ session.Stranded session.connection.init := by
    rw [stranded_iff hfile hsize Session.represents_init]
    exact AckClocked.not_stranded_init _
  obtain ⟨-, -, hopen⟩ :=
    ScheduledSystem.ReachableFrom.invariant hstep ⟨_, Session.represents_init, hinit⟩ h
  exact hopen

/-- A deadlock that is reached without a loss was bound to come. -/
theorem stranded_of_lossless (hfile : session.file ≠ []) (hsize : session.file.length < 2 ^ 31)
    {a : AckClocked.State} (hrel : session.Represents s a)
    (h : session.connection.ReachableFrom Duplex.losslessInOrder s t)
    (hdeadlock : Deadlock t) : session.Stranded s := by
  have hstep : ∀ u event v,
      (∃ b, session.Represents u b ∧ (session.Stranded u ↔ session.Stranded s)) →
        Duplex.losslessInOrder u event → session.connection.step u event = some v →
          ∃ c, session.Represents v c ∧ (session.Stranded v ↔ session.Stranded s) := by
    rintro u event v ⟨b, hb, hsame⟩ hguard hstep
    have hallowed := Duplex.losslessInOrder_transfer b hguard
    obtain ⟨c, hc, hnext⟩ := stranded_step hfile hsize hb hallowed hstep
    exact ⟨c, hc, hnext.trans hsame⟩
  obtain ⟨-, -, hsame⟩ := ScheduledSystem.ReachableFrom.invariant hstep ⟨a, hrel, Iff.rfl⟩ h
  exact hsame.mp (stranded_of_deadlock hdeadlock)

/-- Without a further loss, a session that is stranded ends in a deadlock. -/
theorem exists_deadlock_of_stranded (hfile : session.file ≠ [])
    (hsize : session.file.length < 2 ^ 31) {a : AckClocked.State} (hrel : session.Represents s a)
    (hstranded : session.Stranded s) :
    ∃ t, session.connection.ReachableFrom Duplex.losslessInOrder s t ∧ Deadlock t := by
  rw [stranded_iff hfile hsize hrel] at hstranded
  obtain ⟨b, hreach, hup, hdown, hblocked⟩ :=
    AckClocked.exists_blocked_of_stranded (Session.length_pos hfile) hrel.2 hstranded
  obtain ⟨t, ht, hb⟩ := Session.exists_lossless_run hfile hsize hrel hreach
  refine ⟨t, ht, ?_, ?_, ?_⟩
  · have hall := hb.1.toServer
    rw [hup] at hall
    exact List.forall₂_nil_right_iff.mp hall
  · have hall := hb.1.toClient
    rw [hdown] at hall
    exact List.forall₂_nil_right_iff.mp hall
  · rw [hb.1.client.point, hb.1.server.point]
    exact hblocked

/-- If every drop leaves a state that is not stranded, no state reached is a deadlock. And the
condition is exact: a state reached in any way is stranded if and only if a deadlock can follow
without a further drop. -/
theorem deadlock_freedom (hfile : session.file ≠ []) (hsize : session.file.length < 2 ^ 31) :
    (∀ s, session.connection.Reachable session.sparing s → ¬ Deadlock s) ∧
    ∀ s, session.connection.Reachable Duplex.inOrder s →
      (session.Stranded s ↔
        ∃ t, session.connection.ReachableFrom Duplex.losslessInOrder s t ∧ Deadlock t) := by
  refine ⟨fun s h hdeadlock ↦ ?_, fun s h ↦ ?_⟩
  · exact not_stranded_of_sparing hfile hsize h (stranded_of_deadlock hdeadlock)
  · obtain ⟨a, -, hrel⟩ := Session.exists_represented hfile hsize (fun _ a _ _ _ ↦ trivial) h
    constructor
    · exact exists_deadlock_of_stranded hfile hsize hrel
    · rintro ⟨t, ht, hdeadlock⟩
      exact stranded_of_lossless hfile hsize hrel ht hdeadlock

/-- The second segment is dropped, but the third will make the server repeat an ACK. -/
theorem deadlock_freedom_witness :
    ∃ h : (threeSegments.connection.run threeSegments.sparing threeSegments.connection.init
        [.clientActs, .serverTakes 0, .serverActs, .clientTakes 0, .clientActs, .clientActs,
          .serverTakes 0, .serverTakes 0, .serverActs, .clientTakes 0, .clientActs, .clientActs,
          .dropToServer 0, .serverTakes 0, .serverActs, .clientTakes 0]).isSome,
      ¬ Deadlock (Option.get _ h) :=
  ⟨by decide +kernel, (deadlock_freedom (by decide +kernel) (by decide +kernel)).1 _
    (ScheduledSystem.reachable_of_isSome_run _)⟩

/-- A network that drops the SYN leaves both functions waiting. -/
theorem not_deadlock_free :
    ¬ ∀ s, threeBytes.connection.Reachable Duplex.inOrder s → ¬ Deadlock s := by
  obtain ⟨hrun, hdeadlock⟩ : ∃ h : (threeBytes.connection.run Duplex.inOrder
      threeBytes.connection.init [.clientActs, .dropToServer 0]).isSome,
      Deadlock (Option.get _ h) := ⟨by decide +kernel, by decide +kernel⟩
  exact fun hnever ↦ hnever _ (ScheduledSystem.reachable_of_isSome_run hrun) hdeadlock

end Sparing

end NetworkSimulation.Tcp
