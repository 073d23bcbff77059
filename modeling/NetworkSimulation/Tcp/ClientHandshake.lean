import NetworkSimulation.Tcp.ServerHandshake

/-!
# The client's handshake on an arbitrary stream

`TCP_client` sends its SYN again for every segment until one establishes the connection, which is
meant to be a SYNACK with the ACK number after its SYN's (`EntersAtSYNACK`). The segment and the
packet it sends are the same each time, because encapsulating a segment again in the packet it is in
leaves the packet as it is (`reaches_resent`).

The client's test `details & TCP_SYNACK` is met by a segment with one of the two flags
(`accepted_eq`). It enters the data phase at the first segment that has the right ACK number and at
least one of them, and that is the SYNACK exactly when no segment before it has only one
(`entersAtSYNACK_iff`).
-/

set_option autoImplicit false
set_option relaxedAutoImplicit false

namespace NetworkSimulation.Tcp

open Stack Library

namespace Incoming

variable (incoming : Incoming)

/-- A segment that establishes the client's connection: a SYN and an ACK, of the number after its
initial one. -/
def establishes : Bool :=
  incoming.segment.ackNumber = TCP_INITIAL_SN + 1 ∧
    incoming.segment.details &&& TCP_SYN ≠ 0 ∧ incoming.segment.details &&& TCP_ACK ≠ 0

/-- A segment with the ACK number that establishes the connection and with only one of the flags. -/
def misleads : Bool :=
  incoming.segment.ackNumber = TCP_INITIAL_SN + 1 ∧
    (incoming.segment.details &&& TCP_SYN ≠ 0 ↔ incoming.segment.details &&& TCP_ACK = 0)

/-- The client's test for a SYNACK, while it has sent its SYN. -/
def accepted : Bool :=
  incoming.segment.ackNumber = TCP_INITIAL_SN + 1 ∧ incoming.segment.details &&& TCP_SYNACK ≠ 0

variable {incoming}

theorem details_and_synack_eq_zero_iff (details : UInt16) :
    details &&& TCP_SYNACK = 0 ↔ details &&& TCP_ACK = 0 ∧ details &&& TCP_SYN = 0 := by
  have hdistrib : details &&& (TCP_ACK ||| TCP_SYN) =
      (details &&& TCP_ACK) ||| (details &&& TCP_SYN) :=
    UInt16.toBitVec_inj.mp BitVec.and_or_distrib_left
  rw [TCP_SYNACK, hdistrib, UInt16.or_eq_zero_iff]

/-- The test is met by the segments that establish the connection and by those that mislead. -/
theorem accepted_eq : incoming.accepted = (incoming.establishes || incoming.misleads) := by
  rw [Bool.eq_iff_iff, Bool.or_eq_true]
  simp only [accepted, establishes, misleads, decide_eq_true_eq, ne_eq,
    details_and_synack_eq_zero_iff]
  tauto

end Incoming

/-! ### The stream and the handshake -/

/-- The segments before the one that establishes the connection. -/
def beforeSYNACK (stream : List Incoming) : List Incoming := stream.takeWhile fun incoming ↦
  !incoming.establishes

/-- The stream from the segment on that establishes the connection. -/
def fromSYNACK (stream : List Incoming) : List Incoming := stream.dropWhile fun incoming ↦
  !incoming.establishes

/-- The packet of the SYN. -/
def ClientCall.synPacket (call : ClientCall) (start : Client) : IP :=
  ((start.txPacket.encapTCP start.txSegment).setSourceIp call.ip).setDestinationIp call.destIp

def ClientCall.syn (call : ClientCall) (start : Client) : MPDU :=
  MPDU.ofPacket (call.synPacket start) call.mac call.destMac

/-- The client sends its SYN or waits for the answer to it. -/
def ClientPoint.synchronizing : ClientPoint → Bool
  | .sendSYN | .waitSYNACK => true
  | .sendACK | .loopTop | .waitACK | .sendAnother | .returned | .outOfRange => false

/-- The handshake as it is meant: before the segment that establishes the connection, or at the end
of a stream without one, the client still waits for it, having sent one SYN at first and the same
for each segment so far; it takes the segment, acknowledges it and enters the data phase; and it
ends its synchronizing by no segment before. -/
def ClientCall.EntersAtSYNACK (call : ClientCall) (segmentsToSend : List TCP) (start : Client)
    (stream : List Incoming) : Prop :=
  let party := call.TCPClient segmentsToSend
  let syns := List.replicate ((beforeSYNACK stream).length + 1) (call.syn start)
  ∃ waiting : Client, waiting.point = .waitSYNACK ∧
    Feed.Reaches party ⟨start, stream.map Incoming.frame, []⟩
      ⟨waiting, (fromSYNACK stream).map Incoming.frame, syns⟩ ∧
    (∀ synack after, fromSYNACK stream = synack :: after → ∃ established ack segment,
      Feed.Reaches party ⟨waiting, (fromSYNACK stream).map Incoming.frame, syns⟩
          ⟨established, after.map Incoming.frame, syns ++ [ack]⟩ ∧
        established.point = .loopTop ∧ ack.tcpSegment = some segment ∧
          segment.details = TCP_ACK ∧ segment.ackNumber = synack.segment.sequenceNumber + 1) ∧
    ∀ feed, Feed.Reaches party ⟨start, stream.map Incoming.frame, []⟩ feed →
      feed.state.point.synchronizing = false → feed.unread.length < (fromSYNACK stream).length

/-! ### What the client does -/

section Client

variable {call : ClientCall} {segmentsToSend : List TCP} {client : Client} {incoming : Incoming}
  {stream : List Incoming}

/-- The client that has sent its SYN. -/
def ClientCall.waiting (call : ClientCall) (start : Client) : Client :=
  { start with point := .waitSYNACK, txPacket := call.synPacket start }

/-- The SYN's packet is as it was when the same segment is encapsulated in it again. -/
theorem synPacket_again : call.synPacket { call.waiting client with point := .sendSYN } =
    call.synPacket client := by
  simp only [ClientCall.synPacket, ClientCall.waiting, IP.encapTCP, IP.encap, IP.setSourceIp,
    IP.setDestinationIp]

theorem waiting_again :
    call.waiting { call.waiting client with point := .sendSYN } = call.waiting client := by
  rw [ClientCall.waiting, synPacket_again]
  rfl

theorem syn_again : call.syn { call.waiting client with point := .sendSYN } = call.syn client := by
  rw [ClientCall.syn, synPacket_again, ClientCall.syn]

theorem act_sendSYN (hpoint : client.point = .sendSYN) :
    (call.TCPClient segmentsToSend).act client =
      some (call.waiting client, some (call.syn client)) := by
  simp only [ClientCall.TCPClient, ClientCall.act, hpoint]
  rfl

theorem act_waitSYNACK (hpoint : client.point = .waitSYNACK) :
    (call.TCPClient segmentsToSend).act client = none := by
  simp only [ClientCall.TCPClient, ClientCall.act, hpoint]

theorem take_waitSYNACK (hpoint : client.point = .waitSYNACK) :
    (call.TCPClient segmentsToSend).take client incoming.frame =
      some (call.takeSYNACK client incoming.segment) := by
  simp only [ClientCall.TCPClient, ClientCall.take, hpoint, incoming.decoded]

theorem takeSYNACK_of_not_accepted
    (hnumber : client.txSegment.sequenceNumber = TCP_INITIAL_SN)
    (h : incoming.accepted = false) :
    call.takeSYNACK client incoming.segment = { client with point := .sendSYN } := by
  have hnot := of_decide_eq_false h
  rw [ClientCall.takeSYNACK, hnumber, if_neg hnot]

/-- A segment that is not accepted is answered by the same SYN. -/
theorem reaches_resent (hnumber : client.txSegment.sequenceNumber = TCP_INITIAL_SN)
    (h : incoming.accepted = false) (rest sent : List MPDU) :
    Feed.Reaches (call.TCPClient segmentsToSend)
      ⟨call.waiting client, incoming.frame :: rest, sent⟩
      ⟨call.waiting client, rest, sent ++ [call.syn client]⟩ := by
  have htake : (call.TCPClient segmentsToSend).take (call.waiting client) incoming.frame =
      some { call.waiting client with point := .sendSYN } :=
    (take_waitSYNACK rfl).trans (congrArg some (takeSYNACK_of_not_accepted hnumber h))
  have hsend : (call.TCPClient segmentsToSend).act
      { call.waiting client with point := .sendSYN } =
        some (call.waiting client, some (call.syn client)) := by
    rw [act_sendSYN rfl, waiting_again, syn_again]
  exact (Feed.Reaches.of_take (act_waitSYNACK rfl) htake).trans (.of_act hsend)

/-- The client has sent its SYN once more than it has skipped segments. -/
theorem reaches_waiting (hpoint : client.point = .sendSYN)
    (hnumber : client.txSegment.sequenceNumber = TCP_INITIAL_SN) {skipped : Incoming → Bool}
    (h : ∀ incoming ∈ stream.takeWhile skipped, incoming.accepted = false) :
    Feed.Reaches (call.TCPClient segmentsToSend) ⟨client, stream.map Incoming.frame, []⟩
      ⟨call.waiting client, (stream.dropWhile skipped).map Incoming.frame,
        List.replicate ((stream.takeWhile skipped).length + 1) (call.syn client)⟩ := by
  have hskip : ∀ incoming ∈ stream.takeWhile skipped, ∀ rest sent,
      Feed.Reaches (call.TCPClient segmentsToSend)
        ⟨call.waiting client, incoming.frame :: rest, sent⟩
        ⟨call.waiting client, rest, sent ++ [call.syn client]⟩ :=
    fun incoming hincoming ↦ reaches_resent hnumber (h incoming hincoming)
  have hskips := Feed.reaches_skip [call.syn client] hskip
  rw [List.flatMap_def, List.map_const', List.flatten_replicate_singleton] at hskips
  exact Feed.Reaches.trans (.of_act (act_sendSYN hpoint)) hskips

/-- The segment and the packet of the final ACK. -/
def ackSegment (call : ClientCall) (client : Client) (synack : TCP) : TCP :=
  { client.txSegment with
    details := TCP_ACK, sequenceNumber := synack.ackNumber
    ackNumber := synack.sequenceNumber + 1, sourcePort := call.thisPort
    destinationPort := call.destPort }

theorem takeSYNACK_of_accepted (hnumber : client.txSegment.sequenceNumber = TCP_INITIAL_SN)
    (h : incoming.accepted = true) :
    call.takeSYNACK client incoming.segment =
      { client with
        point := .sendACK, txSegment := ackSegment call client incoming.segment } := by
  have haccepted := of_decide_eq_true h
  rw [ClientCall.takeSYNACK, hnumber, if_pos haccepted]
  rfl

theorem synchronizing_sendSegment {point : ClientPoint} (hpoint : point.synchronizing = false) :
    (call.sendSegment segmentsToSend client point).1.point.synchronizing = false := by
  unfold ClientCall.sendSegment
  split <;> exact hpoint

theorem synchronizing_takeACK (segment : TCP) :
    (client.takeACK segmentsToSend segment).point.synchronizing = false := by
  unfold Client.takeACK
  split
  · rfl
  · simp only
    split_ifs <;> rfl

theorem left_of_act {next : Client} {output : Option MPDU}
    (hleft : client.point.synchronizing = false)
    (h : (call.TCPClient segmentsToSend).act client = some (next, output)) :
    next.point.synchronizing = false := by
  simp only [ClientCall.TCPClient, ClientCall.act] at h
  cases hpoint : client.point with
  | sendSYN | waitSYNACK => simp [hpoint, ClientPoint.synchronizing] at hleft
  | sendACK =>
    simp only [hpoint, Option.some.injEq, Prod.mk.injEq] at h
    exact h.1 ▸ rfl
  | loopTop =>
    simp only [hpoint] at h
    split_ifs at h
    · have hnext : (call.sendSegment segmentsToSend client .waitACK).1 = next :=
        congrArg Prod.fst (Option.some.inj h)
      exact hnext ▸ synchronizing_sendSegment rfl
    · have hnext : { client with point := .returned } = next :=
        congrArg Prod.fst (Option.some.inj h)
      exact hnext ▸ rfl
  | sendAnother =>
    simp only [hpoint] at h
    have hnext : (call.sendSegment segmentsToSend client .loopTop).1 = next :=
      congrArg Prod.fst (Option.some.inj h)
    exact hnext ▸ synchronizing_sendSegment rfl
  | waitACK | returned | outOfRange => simp [hpoint] at h

theorem left_of_take {next : Client} {frame : MPDU} (hleft : client.point.synchronizing = false)
    (h : (call.TCPClient segmentsToSend).take client frame = some next) :
    next.point.synchronizing = false := by
  simp only [ClientCall.TCPClient, ClientCall.take] at h
  cases hpoint : client.point with
  | sendSYN | waitSYNACK => simp [hpoint, ClientPoint.synchronizing] at hleft
  | waitACK =>
    simp only [hpoint] at h
    split at h
    · exact Option.some.inj h ▸ rfl
    · exact Option.some.inj h ▸ synchronizing_takeACK _
  | returned =>
    simp only [hpoint] at h
    exact Option.some.inj h ▸ hleft
  | sendACK | loopTop | sendAnother | outOfRange => simp [hpoint] at h

/-- Once the client has stopped synchronizing, it does not start again. -/
theorem left_of_advance (feed next : Feed Client MPDU MPDU)
    (hleft : feed.state.point.synchronizing = false)
    (h : feed.advance (call.TCPClient segmentsToSend) = some next) :
    next.state.point.synchronizing = false :=
  Feed.state_of_advance (fun _ _ _ ↦ left_of_act) (fun _ _ _ ↦ left_of_take) feed next hleft h

/-- The client that has accepted a segment, before it acknowledges it. -/
def ClientCall.acknowledging (call : ClientCall) (client : Client) (synack : Incoming) : Client :=
  { call.waiting client with
    point := .sendACK, txSegment := ackSegment call (call.waiting client) synack.segment }

theorem reaches_acknowledging (hnumber : client.txSegment.sequenceNumber = TCP_INITIAL_SN)
    (h : incoming.accepted = true) (rest sent : List MPDU) :
    Feed.Reaches (call.TCPClient segmentsToSend)
      ⟨call.waiting client, incoming.frame :: rest, sent⟩
      ⟨call.acknowledging client incoming, rest, sent⟩ :=
  .of_take (act_waitSYNACK rfl)
    ((take_waitSYNACK rfl).trans (congrArg some (takeSYNACK_of_accepted hnumber h)))

/-- The segment that is accepted is acknowledged, and the client enters the data phase. -/
theorem reaches_loopTop (hnumber : client.txSegment.sequenceNumber = TCP_INITIAL_SN)
    (hpayload : client.txSegment.payload = []) (h : incoming.accepted = true)
    (rest sent : List MPDU) :
    ∃ established ack segment,
      Feed.Reaches (call.TCPClient segmentsToSend)
          ⟨call.waiting client, incoming.frame :: rest, sent⟩
          ⟨established, rest, sent ++ [ack]⟩ ∧
        established.point = .loopTop ∧ ack.tcpSegment = some segment ∧
          segment.details = TCP_ACK ∧
            segment.ackNumber = incoming.segment.sequenceNumber + 1 := by
  let segment := ackSegment call (call.waiting client) incoming.segment
  let packet := (call.acknowledging client incoming).txPacket.encapTCP segment
  have hact : (call.TCPClient segmentsToSend).act (call.acknowledging client incoming) =
      some ({ call.acknowledging client incoming with point := .loopTop, txPacket := packet },
        some (MPDU.ofPacket packet call.mac call.destMac)) := rfl
  have hlength : packet.headerLength.toNat + (TCP_HEADER_SIZE + segment.payload.length) ≤
      65535 := by
    have hheader := packet.headerLength.toNat_lt
    have hempty : segment.payload = [] := hpayload
    rw [hempty, List.length_nil]
    change packet.headerLength.toNat + (18 + 0) ≤ 65535
    omega
  exact ⟨_, _, segment, (reaches_acknowledging hnumber h rest sent).trans (.of_act hact), rfl,
    tcpSegment_ofPacket (IP.carries_encapTCP _ _) hlength _ _, rfl, rfl⟩

/-- A segment that misleads the client ends its synchronizing too early. -/
theorem misleads_eq_false_of_entersAtSYNACK (hpoint : client.point = .sendSYN)
    (hnumber : client.txSegment.sequenceNumber = TCP_INITIAL_SN)
    (h : call.EntersAtSYNACK segmentsToSend client stream) :
    ∀ incoming ∈ beforeSYNACK stream, incoming.misleads = false := by
  intro incoming hincoming
  by_contra hmisleads
  have haccepted : incoming.accepted = true := by
    rw [Incoming.accepted_eq, eq_true_of_ne_false hmisleads, Bool.or_true]
  obtain ⟨earlier, later, hbefore⟩ := List.append_of_mem hincoming
  have hsplit : stream = earlier ++ incoming :: (later ++ fromSYNACK stream) := by
    rw [← List.cons_append, ← List.append_assoc, ← hbefore]
    exact List.takeWhile_append_dropWhile.symm
  obtain ⟨first, rest, hdrop, hfirst, hsuffix⟩ :=
    exists_dropWhile_eq_cons haccepted earlier (later ++ fromSYNACK stream)
  rw [← hsplit] at hdrop
  have hskipped : ∀ skipped ∈ stream.takeWhile fun other ↦ !other.accepted,
      skipped.accepted = false := fun skipped hmem ↦ by simpa using List.mem_takeWhile_imp hmem
  have hwaits : Feed.Reaches (call.TCPClient segmentsToSend)
      ⟨client, stream.map Incoming.frame, []⟩ ⟨call.waiting client, _, _⟩ :=
    reaches_waiting hpoint hnumber hskipped
  rw [hdrop] at hwaits
  have hleft := hwaits.trans (reaches_acknowledging hnumber hfirst _ _)
  obtain ⟨_, _, _, _, hfew⟩ := h
  have hless := hfew _ hleft rfl
  have hlong := hsuffix.length_le
  rw [List.length_map] at hless
  rw [List.length_append] at hlong
  omega

/-- Where no segment before it misleads the client, it enters at the right one. -/
theorem entersAtSYNACK_of_misleads_eq_false (hpoint : client.point = .sendSYN)
    (hnumber : client.txSegment.sequenceNumber = TCP_INITIAL_SN)
    (hpayload : client.txSegment.payload = [])
    (h : ∀ incoming ∈ beforeSYNACK stream, incoming.misleads = false) :
    call.EntersAtSYNACK segmentsToSend client stream := by
  have hskipped : ∀ incoming ∈ beforeSYNACK stream, incoming.accepted = false := by
    intro incoming hincoming
    have hother : incoming.establishes = false := by
      simpa using List.mem_takeWhile_imp hincoming
    rw [Incoming.accepted_eq, hother, h incoming hincoming, Bool.or_false]
  have hwaits : Feed.Reaches (call.TCPClient segmentsToSend)
      ⟨client, stream.map Incoming.frame, []⟩
      ⟨call.waiting client, (fromSYNACK stream).map Incoming.frame,
        List.replicate ((beforeSYNACK stream).length + 1) (call.syn client)⟩ :=
    reaches_waiting hpoint hnumber hskipped
  refine ⟨call.waiting client, rfl, hwaits, fun synack after hfrom ↦ ?_, fun feed hfeed hleft ↦ ?_⟩
  · have haccepted : synack.accepted = true := by
      rw [Incoming.accepted_eq, eq_true_of_dropWhile_eq_cons hfrom, Bool.true_or]
    rw [hfrom]
    exact reaches_loopTop hnumber hpayload haccepted _ _
  · have hwaiting : (call.waiting client).point.synchronizing ≠ false := by
      simp [ClientCall.waiting, ClientPoint.synchronizing]
    have hless := Feed.length_unread_lt_of_closed left_of_advance hleft hfeed hwaiting
      (act_waitSYNACK rfl) hwaits
    rwa [List.length_map] at hless

end Client

/-- On every stream, the client enters the data phase at the SYNACK exactly when no segment before
it has the SYNACK's ACK number and only one of its flags. -/
theorem entersAtSYNACK_iff (call : ClientCall) (segmentsToSend : List TCP)
    (uninitialisedSegment : TCP) (uninitialisedPacket : IP) (stream : List Incoming) :
    call.EntersAtSYNACK segmentsToSend (call.start uninitialisedSegment uninitialisedPacket)
        stream ↔
      ∀ incoming ∈ beforeSYNACK stream, incoming.misleads = false :=
  ⟨misleads_eq_false_of_entersAtSYNACK rfl rfl,
    entersAtSYNACK_of_misleads_eq_false rfl rfl rfl⟩

/-- A plain ACK before the SYNACK is taken for it. -/
theorem plainACK_not_entersAtSYNACK : ¬ threeBytes.client.EntersAtSYNACK threeBytes.segmentsToSend
    (threeBytes.client.start threeBytes.clientSegment threeBytes.clientPacket)
    [.bare 5 1 TCP_ACK, .bare 0 1 TCP_SYNACK] := by
  intro henters
  have hnone := misleads_eq_false_of_entersAtSYNACK rfl rfl henters (.bare 5 1 TCP_ACK)
    (List.mem_of_getElem? (i := 0) rfl)
  exact absurd hnone (by decide)

end NetworkSimulation.Tcp
