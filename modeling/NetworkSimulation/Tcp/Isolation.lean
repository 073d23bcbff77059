import NetworkSimulation.Library.MergedInputs
import NetworkSimulation.Stack.Demultiplexing
import NetworkSimulation.Tcp.Parties

/-!
# A server whose socket gets frames of other hosts

`process_frame` finds the socket of `TCP_server` by protocol and destination port, and the server
looks at no address of a segment either, so any host can speak for its client. Once the connection
is established the server goes by the sequence number alone: a segment of another host is harmless
if that is not the one expected next, or if there is nothing in the segment (`Harmless`). Such
segments do not change what is written nor which segment of the client ends the loop
(`segments_isolated`).
-/

set_option autoImplicit false
set_option relaxedAutoImplicit false

namespace NetworkSimulation.Tcp

open Stack Library

/-- The socket of the call. -/
def ServerCall.socket (call : ServerCall) : Socket := ⟨call.thisPort, IP_PROTOCOL_TCP⟩

/-- A frame that reaches the socket, and the host it comes from. -/
structure Arrival (H : Type*) (call : ServerCall) where
  origin : H
  frame : MPDU
  arrives : processFrame [call.socket] frame = some (.sockets [call.socket])

namespace ServerCall

variable {H : Type*} (call : ServerCall)

/-- The server gets a frame and runs to where it waits for the next one. It waits for none while it
resends the SYNACK, nor after it has returned. -/
def serve (server : Server) (arrival : Arrival H call) : Server :=
  match call.take server arrival.frame with
  | none => server
  | some server =>
    match call.act server with
    | none => server
    | some (server, _) => server

/-- The receive loop has ended. -/
def Ended (server : Server) : Prop := server.point = .returned

instance : DecidablePred Ended := fun server ↦ inferInstanceAs (Decidable (server.point = .returned))

/-- A frame is harmless once the connection is established, unless it carries the sequence number
that is expected next, and data or the FIN flag. -/
def HarmlessSegment (server : Server) (arrival : Arrival H call) : Prop :=
  server.connectionEstablished = true ∧ (server.point = .waitSegment →
    ∀ rxSegment ∈ arrival.frame.tcpSegment, rxSegment.sequenceNumber = server.nextSN →
      rxSegment.payload = [] ∧ rxSegment.details &&& TCP_FIN = 0)

instance (server : Server) (arrival : Arrival H call) :
    Decidable (call.HarmlessSegment server arrival) :=
  inferInstanceAs (Decidable (_ ∧ (_ → ∀ rxSegment ∈ arrival.frame.tcpSegment, _)))

end ServerCall

/-- A server that waits; in the receive loop the FIN flag has not been sent yet. -/
structure Server.Waits (server : Server) : Prop where
  established : server.connectionEstablished = true → server.point = .waitSegment ∨
    server.point = .returned ∨ server.point = .outOfRange
  waitACK : server.point = .waitACK → server.txSegment.details &&& TCP_FIN = 0
  waitSegment : server.point = .waitSegment → server.txSegment.details &&& TCP_FIN = 0

/-- Servers that are the same, or have a connection and expect and have written the same. -/
def Server.Alike (server other : Server) : Prop :=
  server = other ∨ server.connectionEstablished = true ∧ other.connectionEstablished = true ∧
    server.point = other.point ∧ server.nextSN = other.nextSN ∧ server.written = other.written

section Serve

variable {H : Type*} {call : ServerCall} {server other : Server} {arrival : Arrival H call}

/-- A frame that reaches the socket carries a segment. -/
theorem Arrival.decodeFrame_eq (arrival : Arrival H call) :
    ∃ rxPacket rxSegment, decodeFrame arrival.frame = some (rxPacket, rxSegment) ∧
      arrival.frame.tcpSegment = some rxSegment := by
  obtain ⟨-, packet, hpacket, -, hfor⟩ :=
    isFor_of_processFrame arrival.arrives (List.mem_singleton_self _)
  rcases hfor with hicmp | ⟨-, hport⟩ | ⟨hudp, -⟩
  · cases hicmp
  · obtain ⟨segment, hsegment, -⟩ := Option.map_eq_some_iff.mp hport
    exact ⟨packet, segment, by simp [decodeFrame, hpacket, hsegment],
      by simp [MPDU.tcpSegment, hpacket, hsegment]⟩
  · cases hudp

theorem Server.alike_equivalence : Equivalence Server.Alike where
  refl server := .inl rfl
  symm h := by
    rcases h with rfl | ⟨hserver, hother, hpoint, hnext, hwritten⟩
    · exact .inl rfl
    · exact .inr ⟨hother, hserver, hpoint.symm, hnext.symm, hwritten.symm⟩
  trans h h' := by
    rcases h with rfl | ⟨hserver, hother, hpoint, hnext, hwritten⟩
    · exact h'
    · rcases h' with rfl | ⟨-, hlast, hpoint', hnext', hwritten'⟩
      · exact .inr ⟨hserver, hother, hpoint, hnext, hwritten⟩
      · exact .inr ⟨hserver, hlast, hpoint.trans hpoint', hnext.trans hnext',
          hwritten.trans hwritten'⟩

/-- Setting the ACK flag leaves the FIN flag as it is. -/
theorem details_or_ack (details : UInt16) :
    (details ||| TCP_ACK) &&& TCP_FIN = details &&& TCP_FIN := by
  have hflags : TCP_ACK.toBitVec &&& TCP_FIN.toBitVec = 0#16 := by decide
  apply UInt16.toBitVec_inj.mp
  rw [UInt16.toBitVec_and, UInt16.toBitVec_or, BitVec.and_or_distrib_right, hflags,
    BitVec.or_zero, UInt16.toBitVec_and]

/-! ### One frame -/

/-- A round of the receive loop. -/
theorem serve_waitSegment {rxPacket : IP} {rxSegment : TCP} (hpoint : server.point = .waitSegment)
    (hdecode : decodeFrame arrival.frame = some (rxPacket, rxSegment)) :
    call.serve server arrival =
      { server.takeSegment arrival.frame rxSegment with
        point :=
          if (server.takeSegment arrival.frame rxSegment).txSegment.details &&& TCP_FIN ≠ 0 then
            .returned
          else .waitSegment } := by
  have hreply : (server.takeSegment arrival.frame rxSegment).point = .sendReply := by
    rw [Server.takeSegment]
    split_ifs <;> rfl
  simp only [ServerCall.serve, ServerCall.take, hpoint, hdecode, ServerCall.act, hreply]

/-- A segment that is not the next one is answered, and the server waits again. -/
theorem serve_other {rxPacket : IP} {rxSegment : TCP} (hpoint : server.point = .waitSegment)
    (hdetails : server.txSegment.details &&& TCP_FIN = 0)
    (hdecode : decodeFrame arrival.frame = some (rxPacket, rxSegment))
    (hother : rxSegment.sequenceNumber ≠ server.nextSN) :
    call.serve server arrival = { server with rxSourceMac := arrival.frame.sourceMac } := by
  rw [serve_waitSegment hpoint hdecode, Server.takeSegment, if_neg hother]
  simp only [hdetails, ne_eq, not_true_eq_false, if_false, ← hpoint]

/-- The next segment is written, and ends the loop if it has the FIN flag. -/
theorem serve_next {rxPacket : IP} {rxSegment : TCP} (hpoint : server.point = .waitSegment)
    (hdecode : decodeFrame arrival.frame = some (rxPacket, rxSegment))
    (hnext : rxSegment.sequenceNumber = server.nextSN) :
    (call.serve server arrival).connectionEstablished = server.connectionEstablished ∧
      (call.serve server arrival).point =
        (if rxSegment.details &&& TCP_FIN ≠ 0 then .returned else .waitSegment) ∧
      (call.serve server arrival).nextSN =
        rxSegment.sequenceNumber + UInt32.ofNat rxSegment.payload.length ∧
      (call.serve server arrival).written = server.written ++ rxSegment.payload := by
  rw [serve_waitSegment hpoint hdecode, Server.takeSegment, if_pos hnext]
  refine ⟨rfl, ?_, rfl, rfl⟩
  simp only [details_or_ack]

/-- After the loop nothing is read. -/
theorem serve_stopped (hpoint : server.point = .returned ∨ server.point = .outOfRange) :
    call.serve server arrival = server := by
  rcases hpoint with hpoint | hpoint
  · simp only [ServerCall.serve, ServerCall.take, hpoint, ServerCall.act]
  · simp only [ServerCall.serve, ServerCall.take, hpoint]

theorem Server.Waits.serve (h : server.Waits) : (call.serve server arrival).Waits := by
  obtain ⟨rxPacket, rxSegment, hdecode, -⟩ := arrival.decodeFrame_eq
  cases hpoint : server.point with
  | waitSYN =>
    have hclosed : server.connectionEstablished ≠ true := fun hestablished ↦ by
      simpa [hpoint] using h.established hestablished
    by_cases hsyn : rxSegment.details &&& TCP_SYN = 0
    · have hsame : call.serve server arrival = server := by
        simp only [ServerCall.serve, ServerCall.take, hpoint, hdecode, ServerCall.takeSYN, if_pos hsyn,
          ServerCall.act]
      rwa [hsame]
    · have hflags : TCP_SYNACK &&& TCP_FIN = 0 := by decide
      simp only [ServerCall.serve, ServerCall.take, hpoint, hdecode, ServerCall.takeSYN, if_neg hsyn,
        ServerCall.act]
      exact ⟨fun hestablished ↦ absurd hestablished hclosed, fun _ ↦ hflags, nofun⟩
  | waitACK =>
    have hclosed : server.connectionEstablished ≠ true := fun hestablished ↦ by
      simpa [hpoint] using h.established hestablished
    simp only [ServerCall.serve, ServerCall.take, hpoint, hdecode, Server.takeACK]
    split_ifs with hrefused
    · exact ⟨fun hestablished ↦ absurd hestablished hclosed, nofun, nofun⟩
    · exact ⟨fun _ ↦ .inl rfl, nofun, fun _ ↦ h.waitACK hpoint⟩
  | waitSegment =>
    rw [serve_waitSegment hpoint hdecode]
    split_ifs with hfin
    · exact ⟨fun _ ↦ .inr (.inl rfl), nofun, nofun⟩
    · exact ⟨fun _ ↦ .inl rfl, nofun, fun _ ↦ not_not.mp hfin⟩
  | sendSYNACK | resendSYNACK | sendReply =>
    have hsame : call.serve server arrival = server := by
      simp only [ServerCall.serve, ServerCall.take, hpoint]
    rwa [hsame]
  | returned => rwa [serve_stopped (.inl hpoint)]
  | outOfRange => rwa [serve_stopped (.inr hpoint)]

/-- Alike servers deal alike with a frame. -/
theorem Server.Alike.serve (hserver : server.Waits) (hother : other.Waits)
    (h : server.Alike other) : (call.serve server arrival).Alike (call.serve other arrival) := by
  obtain ⟨rxPacket, rxSegment, hdecode, -⟩ := arrival.decodeFrame_eq
  rcases h with rfl | ⟨hestablished, hestablished', hpoint, hnext, hwritten⟩
  · exact .inl rfl
  · rcases hserver.established hestablished with hwaits | hstopped
    · have hwaits' := hpoint.symm.trans hwaits
      by_cases hexpected : rxSegment.sequenceNumber = server.nextSN
      · obtain ⟨hkeeps, hends, hnew, hwrites⟩ := serve_next hwaits hdecode hexpected
        obtain ⟨hkeeps', hends', hnew', hwrites'⟩ :=
          serve_next hwaits' hdecode (hexpected.trans hnext)
        exact .inr ⟨hkeeps.trans hestablished, hkeeps'.trans hestablished', hends.trans hends'.symm,
          hnew.trans hnew'.symm, by rw [hwrites, hwrites', hwritten]⟩
      · rw [serve_other hwaits (hserver.waitSegment hwaits) hdecode hexpected,
          serve_other hwaits' (hother.waitSegment hwaits') hdecode (hnext ▸ hexpected)]
        exact .inr ⟨hestablished, hestablished', hpoint, hnext, hwritten⟩
    · have hstopped' : other.point = .returned ∨ other.point = .outOfRange := hpoint ▸ hstopped
      rw [serve_stopped hstopped, serve_stopped hstopped']
      exact .inr ⟨hestablished, hestablished', hpoint, hnext, hwritten⟩

/-- A server does not notice a harmless frame. -/
theorem Server.Waits.serve_harmless (h : server.Waits)
    (hharmless : call.HarmlessSegment server arrival) : (call.serve server arrival).Alike server := by
  obtain ⟨rxPacket, rxSegment, hdecode, hsegment⟩ := arrival.decodeFrame_eq
  obtain ⟨hestablished, hempty⟩ := hharmless
  rcases h.established hestablished with hwaits | hstopped
  · by_cases hexpected : rxSegment.sequenceNumber = server.nextSN
    · obtain ⟨hpayload, hfin⟩ := hempty hwaits rxSegment hsegment hexpected
      obtain ⟨hkeeps, hends, hnew, hwrites⟩ := serve_next hwaits hdecode hexpected
      refine .inr ⟨hkeeps.trans hestablished, hestablished, ?_, ?_, ?_⟩
      · rw [hends, if_neg (not_not.mpr hfin), hwaits]
      · rw [hnew, hexpected, hpayload]
        exact UInt32.add_zero _
      · rw [hwrites, hpayload, List.append_nil]
    · rw [serve_other hwaits (h.waitSegment hwaits) hdecode hexpected]
      exact .inr ⟨hestablished, hestablished, rfl, rfl, rfl⟩
  · rw [serve_stopped hstopped]
    exact .inl rfl

end Serve

/-! ### Sequences of frames -/

namespace ServerCall

variable {H : Type*} (call : ServerCall)

/-- The server after the frames that arrive. -/
def receive (server : Server) (arrivals : List (Arrival H call)) : Server :=
  arrivals.foldl call.serve server

/-- The server is waiting for a SYN and this frame is one. -/
def AcceptsSYN (server : Server) (arrival : Arrival H call) : Prop :=
  server.point = .waitSYN ∧ (call.serve server arrival).point = .waitACK

variable [DecidableEq H]

/-- The frames of one host. -/
def sentBy (client : H) (arrival : Arrival H call) : Prop := arrival.origin = client

instance (client : H) : DecidablePred (call.sentBy client) :=
  fun arrival ↦ inferInstanceAs (Decidable (arrival.origin = client))

/-- How many frames of the host the server has got when its receive loop ends. -/
def endsAt (client : H) (server : Server) (arrivals : List (Arrival H call)) : Option ℕ :=
  MergedInputs.seenUntil call.serve (call.sentBy client) Ended server arrivals

/-- Every frame that is not from the host is harmless where it arrives. -/
def OthersHarmless (client : H) (server : Server) (arrivals : List (Arrival H call)) : Prop :=
  MergedInputs.Harmless call.serve (call.sentBy client) call.HarmlessSegment server arrivals

instance (client : H) (server : Server) (arrivals : List (Arrival H call)) :
    Decidable (call.OthersHarmless client server arrivals) :=
  MergedInputs.decidableHarmless _ _ _ _ _

end ServerCall

section Isolation

variable {H : Type*} {call : ServerCall} {uninitialisedSegment : TCP}
  {uninitialisedPacket : IP} {uninitialisedSN : UInt32}

theorem waits_start :
    (Server.start uninitialisedSegment uninitialisedPacket uninitialisedSN).Waits :=
  ⟨nofun, nofun, nofun⟩

theorem Server.Waits.receive {server : Server} (h : server.Waits)
    (arrivals : List (Arrival H call)) : (call.receive server arrivals).Waits := by
  induction arrivals generalizing server with
  | nil => exact h
  | cons arrival rest ih => exact ih h.serve

theorem unwinding_serve (H : Type*) (call : ServerCall) :
    MergedInputs.Unwinding (call.serve (H := H)) ServerCall.Ended Server.Waits Server.Alike
      call.HarmlessSegment where
  equivalence := Server.alike_equivalence
  keeps _ _ h := h.serve
  stops server other h := by
    rcases h with rfl | ⟨-, -, hpoint, -⟩
    · rfl
    · rw [ServerCall.Ended, ServerCall.Ended, hpoint]
  follows _ _ _ hserver hother h := h.serve hserver hother
  ignores _ _ h hharmless := h.serve_harmless hharmless

/-- After the frames before, which brought a SYN of the client, frames of other hosts can be put in
and left out: if each of them arrives when the connection is established and is harmless there, the
file and the frame of the client that ends the loop stay the same. -/
theorem segments_isolated [DecidableEq H] (before : List (Arrival H call)) (client : H)
    {first second : List (Arrival H call)} {server : Server}
    (hserver : call.receive (Server.start uninitialisedSegment uninitialisedPacket uninitialisedSN)
      before = server)
    (hsame : first.filter (call.sentBy client) = second.filter (call.sentBy client))
    (hfirst : call.OthersHarmless client server first)
    (hsecond : call.OthersHarmless client server second) :
    (call.receive server first).written = (call.receive server second).written ∧
      call.endsAt client server first = call.endsAt client server second := by
  have hwaits : server.Waits := hserver ▸ waits_start.receive before
  have hunwinding := unwinding_serve H call
  refine ⟨?_, hunwinding.seenUntil_eq hwaits hsame hfirst hsecond⟩
  have halike : (call.receive server first).Alike (call.receive server second) :=
    hunwinding.alike_foldl hwaits hsame hfirst hsecond
  rcases halike with hequal | ⟨-, -, -, -, hwritten⟩
  · rw [hequal]
  · exact hwritten

end Isolation

/-! ### Two hosts that send to one socket -/

inductive Origin
  | client
  | stranger
  deriving DecidableEq

def segmentFrame (sequenceNumber ackNumber : UInt32) (details : UInt16) (payload : List UInt8) :
    MPDU :=
  MPDU.ofPacket (IP.encapTCP ⟨12, 0, 0, 1, 2, []⟩
    ⟨30000, 50000, sequenceNumber, ackNumber, details, 0, 0, payload⟩) [0, 0, 0, 0, 0, 1]
    [0, 0, 0, 0, 0, 2]

/-- The SYN, the final ACK of the handshake and the only data segment of the first host. -/
def clientSYN : Arrival Origin threeBytes.server :=
  ⟨.client, segmentFrame 0 0 TCP_SYN [], by decide +kernel⟩

def clientACK : Arrival Origin threeBytes.server :=
  ⟨.client, segmentFrame 1 1 TCP_ACK [], by decide +kernel⟩

def clientData : Arrival Origin threeBytes.server :=
  ⟨.client, segmentFrame 1 1 (TCP_ACK ||| TCP_FIN) [7], by decide +kernel⟩

/-- A segment of the second host. -/
def strangerData (sequenceNumber : UInt32) : MPDU := segmentFrame sequenceNumber 1 TCP_ACK [66]

def strangerAhead : Arrival Origin threeBytes.server := ⟨.stranger, strangerData 9, by decide +kernel⟩

def strangerNext : Arrival Origin threeBytes.server := ⟨.stranger, strangerData 1, by decide +kernel⟩

def serverStart : Server :=
  Server.start threeBytes.serverSegment threeBytes.serverPacket threeBytes.serverSN

/-- A segment of the other host that is ahead of what the server expects. -/
theorem segments_isolated_witness :
    (threeBytes.server.receive (threeBytes.server.receive serverStart [clientSYN])
        [clientACK, strangerAhead, clientData]).written =
      (threeBytes.server.receive (threeBytes.server.receive serverStart [clientSYN])
        [clientACK, clientData]).written ∧
      threeBytes.server.endsAt .client (threeBytes.server.receive serverStart [clientSYN])
          [clientACK, strangerAhead, clientData] =
        threeBytes.server.endsAt .client (threeBytes.server.receive serverStart [clientSYN])
          [clientACK, clientData] :=
  segments_isolated [clientSYN] .client rfl rfl (by decide +kernel) (by decide +kernel)

/-- With the sequence number that the server expects, the segment of the other host is written. -/
theorem not_segments_isolated : ¬ ∀ (call : ServerCall) (uninitialisedSegment : TCP)
    (uninitialisedPacket : IP) (uninitialisedSN : UInt32) (before : List (Arrival Origin call))
    (syn : Arrival Origin call) (first second : List (Arrival Origin call)) (server : Server),
    call.receive (Server.start uninitialisedSegment uninitialisedPacket uninitialisedSN) before =
        server →
      call.AcceptsSYN server syn →
      first.filter (call.sentBy syn.origin) = second.filter (call.sentBy syn.origin) →
        (call.receive (call.serve server syn) first).written =
            (call.receive (call.serve server syn) second).written ∧
          call.endsAt syn.origin (call.serve server syn) first =
            call.endsAt syn.origin (call.serve server syn) second := by
  intro h
  have hsame := (h threeBytes.server _ _ _ [] clientSYN [clientACK, clientData]
    [clientACK, strangerNext, clientData] serverStart rfl ⟨rfl, by decide +kernel⟩ rfl).1
  revert hsame
  decide +kernel

end NetworkSimulation.Tcp
