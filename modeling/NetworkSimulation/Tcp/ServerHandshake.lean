import NetworkSimulation.Library.Feed
import NetworkSimulation.Tcp.Parties

/-!
# The server's handshake on an arbitrary stream

`TCP_server` waits for a SYN, answers it with a SYNACK and waits for a segment that completes the
sync. Anything may come before either of them. Segments before the SYN are read and nothing is sent
(`reaches_fromSYN`); the SYN is answered (`reaches_answered`). Every segment after it that does not
complete the sync is meant to be answered by the SYNACK again, until one completes it
(`CompletesHandshake`).

The loop for that does not read: it sends the SYNACK again and again for the first such segment
(`resending_of_advance`). So the handshake is as it is meant exactly when the segment after the SYN
completes the sync (`completesHandshake_iff`); a SYN that is sent twice is enough for it not to be
(`repeatedSYN_not_completesHandshake`).
-/

set_option autoImplicit false
set_option relaxedAutoImplicit false

namespace NetworkSimulation.Tcp

open Stack Library

/-- A frame that arrives at a socket, with the packet and the segment it is decoded to. -/
structure Incoming where
  frame : MPDU
  packet : IP
  segment : TCP
  decoded : decodeFrame frame = some (packet, segment)

/-- A segment is decoded from the frame around its packet as it went in. -/
theorem decodeFrame_ofPacket {packet : IP} {segment : TCP} (hcarries : packet.Carries segment.bytes)
    (h : packet.headerLength.toNat + (TCP_HEADER_SIZE + segment.payload.length) ≤ 65535)
    (sourceMac destinationMac : Mac) :
    decodeFrame (MPDU.ofPacket packet sourceMac destinationMac) = some (packet, segment) := by
  rw [← TCP.length_bytes] at h
  change (IP.generate (MPDU.encapIP ⟨[], [], 0, []⟩ packet).SDU).bind _ = _
  rw [generate_encapIP hcarries h, Option.bind_some, hcarries.data, generateTCP_bytes]
  rfl

namespace Incoming

variable (incoming : Incoming)

/-- The server's test for a SYN. -/
def isSYN : Bool := incoming.segment.details &&& TCP_SYN ≠ 0

/-- A segment that completes the server's sync: an ACK of the number after its initial one. -/
def completesSync : Bool :=
  incoming.segment.ackNumber = TCP_INITIAL_SN + 1 ∧ incoming.segment.details &&& TCP_ACK ≠ 0

end Incoming

/-! ### The stream and the handshake -/

/-- The stream from the first SYN on. -/
def fromSYN (stream : List Incoming) : List Incoming := stream.dropWhile fun incoming ↦
  !incoming.isSYN

/-- The segments after the first SYN and before the one that completes the sync. -/
def unacceptable (stream : List Incoming) : List Incoming :=
  (fromSYN stream).tail.takeWhile fun incoming ↦ !incoming.completesSync

/-- The stream from the segment on that completes the sync. -/
def fromACK (stream : List Incoming) : List Incoming :=
  (fromSYN stream).tail.dropWhile fun incoming ↦ !incoming.completesSync

/-- The SYNACK for a SYN, as sent in answer to any segment: to where that came from. -/
def ServerCall.synack (call : ServerCall) (start : Server) (syn answered : Incoming) : MPDU :=
  MPDU.ofPacket (call.takeSYN start syn.frame syn.packet syn.segment).txPacket call.mac
    answered.frame.sourceMac

/-- The handshake as it is meant: at the segment that completes the sync, the server is still
waiting for it and has sent one SYNACK for the SYN and one for each segment in between; it takes the
segment, and from its sequence number on it waits for data. -/
def ServerCall.CompletesHandshake (call : ServerCall) (start : Server) (stream : List Incoming) :
    Prop :=
  ∃ syn final after waiting established,
    (fromSYN stream).head? = some syn ∧ fromACK stream = final :: after ∧
      let answers := (syn :: unacceptable stream).map (call.synack start syn)
      Feed.Reaches call.TCPServer ⟨start, stream.map Incoming.frame, []⟩
          ⟨waiting, (fromACK stream).map Incoming.frame, answers⟩ ∧
        waiting.point = .waitACK ∧ waiting.connectionEstablished = false ∧
        Feed.advance call.TCPServer ⟨waiting, (fromACK stream).map Incoming.frame, answers⟩ =
          some ⟨established, after.map Incoming.frame, answers⟩ ∧
        established.point = .waitSegment ∧ established.connectionEstablished = true ∧
        established.lastRxSN = final.segment.sequenceNumber

/-! ### What the server does -/

section Server

variable {call : ServerCall} {server : Server} {incoming : Incoming} {stream : List Incoming}

theorem act_waitSYN (hpoint : server.point = .waitSYN) : call.TCPServer.act server = none := by
  simp only [ServerCall.TCPServer, ServerCall.act, hpoint]

theorem act_waitACK (hpoint : server.point = .waitACK) : call.TCPServer.act server = none := by
  simp only [ServerCall.TCPServer, ServerCall.act, hpoint]

theorem take_waitSYN (hpoint : server.point = .waitSYN) :
    call.TCPServer.take server incoming.frame =
      some (call.takeSYN server incoming.frame incoming.packet incoming.segment) := by
  simp only [ServerCall.TCPServer, ServerCall.take, hpoint, incoming.decoded]

theorem take_waitACK (hpoint : server.point = .waitACK) :
    call.TCPServer.take server incoming.frame =
      some (server.takeACK incoming.frame incoming.segment) := by
  simp only [ServerCall.TCPServer, ServerCall.take, hpoint, incoming.decoded]

theorem takeSYN_of_not_isSYN (h : incoming.isSYN = false) (call : ServerCall)
    (server : Server) :
    call.takeSYN server incoming.frame incoming.packet incoming.segment = server := by
  have hflag : incoming.segment.details &&& TCP_SYN = 0 := by simpa [Incoming.isSYN] using h
  rw [ServerCall.takeSYN, if_pos hflag]

/-- Before the SYN, everything is read and nothing is sent. -/
theorem reaches_fromSYN (hpoint : server.point = .waitSYN) (stream : List Incoming) :
    Feed.Reaches call.TCPServer ⟨server, stream.map Incoming.frame, []⟩
      ⟨server, (fromSYN stream).map Incoming.frame, []⟩ := by
  have hskips : ∀ incoming ∈ stream.takeWhile fun incoming ↦ !incoming.isSYN, ∀ rest sent,
      Feed.Reaches call.TCPServer ⟨server, incoming.frame :: rest, sent⟩
        ⟨server, rest, sent ++ []⟩ := by
    intro incoming hincoming rest sent
    have hother : incoming.isSYN = false := by simpa using List.mem_takeWhile_imp hincoming
    have htake : call.TCPServer.take server incoming.frame = some _ := take_waitSYN hpoint
    rw [takeSYN_of_not_isSYN hother] at htake
    rw [List.append_nil]
    exact .of_take (act_waitSYN hpoint) htake
  have hreaches := Feed.reaches_skip [] hskips
  rwa [List.flatMap_eq_nil_iff.mpr fun _ _ ↦ rfl] at hreaches

/-- The server that has sent its SYNACK for a SYN. -/
def ServerCall.answered (call : ServerCall) (server : Server) (syn : Incoming) : Server :=
  { call.takeSYN server syn.frame syn.packet syn.segment with point := .waitACK }

theorem takeSYN_of_isSYN {syn : Incoming} (hsyn : syn.isSYN) (call : ServerCall)
    (server : Server) :
    let taken := call.takeSYN server syn.frame syn.packet syn.segment
    taken.point = .sendSYNACK ∧ taken.txSegment.sequenceNumber = TCP_INITIAL_SN ∧
      taken.rxSourceMac = syn.frame.sourceMac ∧
        taken.connectionEstablished = server.connectionEstablished := by
  have hflag : ¬ syn.segment.details &&& TCP_SYN = 0 := of_decide_eq_true hsyn
  simp only [ServerCall.takeSYN, if_neg hflag, and_self]

/-- The SYN is answered with its SYNACK. -/
theorem reaches_answered {syn : Incoming} (hsyn : syn.isSYN) (hpoint : server.point = .waitSYN)
    (rest : List MPDU) :
    Feed.Reaches call.TCPServer ⟨server, syn.frame :: rest, []⟩
      ⟨call.answered server syn, rest, [call.synack server syn syn]⟩ := by
  obtain ⟨hsend, -, hmac, -⟩ := takeSYN_of_isSYN hsyn call server
  have hsends : call.TCPServer.act (call.takeSYN server syn.frame syn.packet syn.segment) =
      some (call.answered server syn, some (call.synack server syn syn)) := by
    simp only [ServerCall.TCPServer, ServerCall.act, hsend, hmac, ServerCall.answered,
      ServerCall.synack]
  exact (Feed.Reaches.of_take (act_waitSYN hpoint) (take_waitSYN hpoint)).trans (.of_act hsends)

theorem takeACK_of_completesSync (hnumber : server.txSegment.sequenceNumber = TCP_INITIAL_SN)
    (h : incoming.completesSync) :
    server.takeACK incoming.frame incoming.segment =
      { server with
        point := .waitSegment
        lastRxSN := incoming.segment.sequenceNumber
        connectionEstablished := true } := by
  obtain ⟨hack, hflag⟩ := of_decide_eq_true h
  rw [Server.takeACK, hnumber, if_neg (not_or.mpr ⟨not_not.mpr hack, hflag⟩)]

theorem takeACK_of_not_completesSync
    (hnumber : server.txSegment.sequenceNumber = TCP_INITIAL_SN)
    (h : incoming.completesSync = false) :
    (server.takeACK incoming.frame incoming.segment).point = .resendSYNACK := by
  have hnot := of_decide_eq_false h
  rw [Server.takeACK, hnumber, if_pos (not_and_or.mp hnot |>.imp_right not_not.mp)]

/-- The loop that resends the SYNACK is never left. -/
theorem resending_of_advance (feed next : Feed Server MPDU MPDU)
    (hpoint : feed.state.point = .resendSYNACK)
    (h : feed.advance call.TCPServer = some next) : next.state.point = .resendSYNACK := by
  have hact : ∀ server next output, server.point = .resendSYNACK →
      call.TCPServer.act server = some (next, output) → next.point = .resendSYNACK := by
    intro server next output hresends hact
    simp only [ServerCall.TCPServer, ServerCall.act, hresends, Option.some.injEq,
      Prod.mk.injEq] at hact
    exact hact.1 ▸ hresends
  have htake : ∀ server frame next, server.point = .resendSYNACK →
      call.TCPServer.take server frame = some next → next.point = .resendSYNACK := by
    intro server frame next hresends htake
    simp only [ServerCall.TCPServer, ServerCall.take, hresends, reduceCtorEq] at htake
  exact Feed.state_of_advance hact htake feed next hpoint h

/-- A stream with a SYN and, later, a segment that completes the sync. -/
def SYNThenACK (stream : List Incoming) : Prop :=
  ∃ earlier syn middle ack later, stream = earlier ++ syn :: (middle ++ ack :: later) ∧
    syn.isSYN = true ∧ ack.completesSync = true

/-- Such a stream has a first SYN and, after it, a first segment that completes the sync. -/
theorem SYNThenACK.exists_first (h : SYNThenACK stream) :
    ∃ syn rest final after, fromSYN stream = syn :: rest ∧ syn.isSYN = true ∧
      fromACK stream = final :: after ∧ final.completesSync = true := by
  obtain ⟨earlier, syn, middle, ack, later, rfl, hsyn, hack⟩ := h
  obtain ⟨first, rest, hfrom, hfirst, hsuffix⟩ :=
    exists_dropWhile_eq_cons hsyn earlier (middle ++ ack :: later)
  obtain ⟨before, rfl⟩ := hsuffix
  obtain ⟨final, after, hfromACK, hfinal, -⟩ :=
    exists_dropWhile_eq_cons hack (before ++ middle) later
  refine ⟨first, _, final, after, hfrom, hfirst, ?_, hfinal⟩
  rw [fromACK, fromSYN, hfrom, List.tail_cons, ← List.append_assoc]
  exact hfromACK

/-- After a segment that does not complete the sync, the server never reads again. -/
theorem unacceptable_eq_nil_of_completesHandshake (hpoint : server.point = .waitSYN)
    (h : SYNThenACK stream) (hcompletes : call.CompletesHandshake server stream) :
    unacceptable stream = [] := by
  obtain ⟨syn, rest, -, -, hfrom, hsyn, -, -⟩ := h.exists_first
  obtain ⟨_, _, _, waiting, _, _, _, hwaits, hwaiting, _⟩ := hcompletes
  cases hbetween : unacceptable stream with
  | nil => rfl
  | cons bad more =>
    exfalso
    have hbad : bad.completesSync = false := by
      have hmem : bad ∈ unacceptable stream := hbetween ▸ List.mem_cons_self
      simpa using List.mem_takeWhile_imp hmem
    have hrest : rest = bad :: (more ++ fromACK stream) := by
      rw [← List.cons_append, ← hbetween, unacceptable, fromACK, hfrom]
      exact List.takeWhile_append_dropWhile.symm
    have hanswered : Feed.Reaches call.TCPServer
        ⟨server, (syn :: bad :: (more ++ fromACK stream)).map Incoming.frame, []⟩
        ⟨call.answered server syn, (bad :: (more ++ fromACK stream)).map Incoming.frame,
          [call.synack server syn syn]⟩ := reaches_answered hsyn hpoint _
    rw [← hrest, ← hfrom, hrest] at hanswered
    have htake : call.TCPServer.take (call.answered server syn) bad.frame =
        some ((call.answered server syn).takeACK bad.frame bad.segment) := take_waitACK rfl
    have hresends : ((call.answered server syn).takeACK bad.frame bad.segment).point =
        .resendSYNACK := takeACK_of_not_completesSync (takeSYN_of_isSYN hsyn call server).2.1 hbad
    have htrapped := ((reaches_fromSYN hpoint stream).trans hanswered).trans (.of_take rfl htake)
    have hwaits' : waiting.point ≠ .resendSYNACK := by simp [hwaiting]
    have hless := Feed.length_unread_lt_of_closed resending_of_advance hresends htrapped hwaits'
      (act_waitACK hwaiting) hwaits
    simp only [List.length_map, List.length_append] at hless
    omega

/-- Where the first segment after the SYN completes the sync, the handshake is as it is meant. -/
theorem completesHandshake_of_unacceptable_eq_nil (hpoint : server.point = .waitSYN)
    (hestablished : server.connectionEstablished = false) (h : SYNThenACK stream)
    (hnone : unacceptable stream = []) : call.CompletesHandshake server stream := by
  obtain ⟨syn, rest, final, after, hfrom, hsyn, hfromACK, hfinal⟩ := h.exists_first
  obtain ⟨-, hnumber, -, hkept⟩ := takeSYN_of_isSYN hsyn call server
  have hrest : rest = fromACK stream := by
    have hsplit : unacceptable stream ++ fromACK stream = (fromSYN stream).tail :=
      List.takeWhile_append_dropWhile
    rw [hnone, hfrom] at hsplit
    exact hsplit.symm
  have hanswered : Feed.Reaches call.TCPServer
      ⟨server, (fromSYN stream).map Incoming.frame, []⟩
      ⟨call.answered server syn, (fromACK stream).map Incoming.frame,
        [call.synack server syn syn]⟩ := by
    rw [hfrom, hrest]
    exact reaches_answered hsyn hpoint _
  have htake : call.TCPServer.take (call.answered server syn) final.frame =
      some { call.answered server syn with
        point := .waitSegment
        lastRxSN := final.segment.sequenceNumber
        connectionEstablished := true } :=
    (take_waitACK rfl).trans (congrArg some (takeACK_of_completesSync hnumber hfinal))
  refine ⟨syn, final, after, call.answered server syn,
    { call.answered server syn with
      point := .waitSegment
      lastRxSN := final.segment.sequenceNumber
      connectionEstablished := true },
    by rw [hfrom, List.head?_cons], hfromACK, ?_, rfl, hkept.trans hestablished, ?_, rfl, rfl, rfl⟩
  · rw [hnone]
    exact (reaches_fromSYN hpoint stream).trans hanswered
  · rw [hfromACK]
    exact Feed.advance_of_take (act_waitACK rfl) htake

end Server

/-- On a stream with a SYN and, later, a segment that completes the sync, the handshake is as it is
meant exactly when the segment after the SYN completes the sync. -/
theorem completesHandshake_iff (call : ServerCall) (uninitialisedSegment : TCP)
    (uninitialisedPacket : IP) (uninitialisedSN : UInt32) {stream : List Incoming}
    (h : SYNThenACK stream) :
    call.CompletesHandshake (Server.start uninitialisedSegment uninitialisedPacket uninitialisedSN)
        stream ↔
      unacceptable stream = [] :=
  ⟨unacceptable_eq_nil_of_completesHandshake rfl h,
    completesHandshake_of_unacceptable_eq_nil rfl rfl h⟩

/-- A segment with given numbers and flags, with no data, as a frame brings it. -/
def Incoming.bare (sequenceNumber ackNumber : UInt32) (details : UInt16) : Incoming where
  frame := MPDU.ofPacket ((IP.new ⟨0, 0, 0, 2, 1, []⟩).encapTCP
    ⟨50000, 30000, sequenceNumber, ackNumber, details, 0, 0, []⟩) [0, 0, 0, 0, 0, 2]
    [0, 0, 0, 0, 0, 1]
  packet := (IP.new ⟨0, 0, 0, 2, 1, []⟩).encapTCP
    ⟨50000, 30000, sequenceNumber, ackNumber, details, 0, 0, []⟩
  segment := ⟨50000, 30000, sequenceNumber, ackNumber, details, 0, 0, []⟩
  decoded := by
    refine decodeFrame_ofPacket (IP.carries_encapTCP _ _) ?_ _ _
    change (12 : UInt8).toNat + (18 + 0) ≤ 65535
    decide

/-- A SYN and the ACK of its SYNACK complete the handshake. -/
theorem synThenACK_completesHandshake : threeBytes.server.CompletesHandshake
    (Server.start threeBytes.serverSegment threeBytes.serverPacket threeBytes.serverSN)
    [.bare 0 0 TCP_SYN, .bare 1 1 TCP_ACK] :=
  (completesHandshake_iff _ _ _ _
    ⟨[], .bare 0 0 TCP_SYN, [], .bare 1 1 TCP_ACK, [], rfl, by decide, by decide⟩).mpr rfl

/-- A SYN that is sent twice before the ACK. -/
def repeatedSYN : List Incoming :=
  [.bare 0 0 TCP_SYN, .bare 0 0 TCP_SYN, .bare 1 1 TCP_ACK]

theorem synThenACK_repeatedSYN : SYNThenACK repeatedSYN :=
  ⟨[], .bare 0 0 TCP_SYN, [.bare 0 0 TCP_SYN], .bare 1 1 TCP_ACK, [], rfl, by decide, by decide⟩

/-- The second SYN holds the server up for ever. -/
theorem repeatedSYN_not_completesHandshake : SYNThenACK repeatedSYN ∧
    ¬ threeBytes.server.CompletesHandshake
      (Server.start threeBytes.serverSegment threeBytes.serverPacket threeBytes.serverSN)
      repeatedSYN := by
  refine ⟨synThenACK_repeatedSYN, fun hcompletes ↦ ?_⟩
  have hnone := unacceptable_eq_nil_of_completesHandshake rfl synThenACK_repeatedSYN hcompletes
  have hsome : (unacceptable repeatedSYN).length = 1 := by decide
  rw [hnone] at hsome
  exact absurd hsome (by decide)

end NetworkSimulation.Tcp
