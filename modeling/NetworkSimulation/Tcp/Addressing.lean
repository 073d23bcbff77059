import NetworkSimulation.Library.RelayedDuplex
import NetworkSimulation.Tcp.Parties

/-!
# Where the frames of a transfer go

Every frame of `TCP_client` has the address of its host and the one that was resolved for the
destination, and the ports of the call; every frame of `TCP_server` goes back to where the segment
that it answers came from. So in a session each call sends frames for the socket of the other only
(`isSegmentFrame_of_reachable`), whatever happens to the frames.
-/

set_option autoImplicit false
set_option relaxedAutoImplicit false

namespace NetworkSimulation.Tcp

open Stack Library

/-- A frame with a TCP segment that is decoded. -/
structure IsSegmentFrame (sourceMac destinationMac : Mac) (sourcePort destinationPort : UInt16)
    (frame : MPDU) : Prop where
  source : frame.sourceMac = sourceMac
  destination : frame.destinationMac = destinationMac
  type : frame.SDUType = MPDU_IP_TYPE
  segment : ∃ packet segment, IP.generate frame.SDU = some packet ∧
    packet.protocol = IP_PROTOCOL_TCP ∧ generateTCP packet.SDU = some segment ∧
      segment.sourcePort = sourcePort ∧ segment.destinationPort = destinationPort

/-- A packet that `encap_SDU` has filled with a segment. -/
structure IsFilled (packet : IP) (segment : TCP) : Prop where
  headerLength : packet.headerLength = 12
  protocol : packet.protocol = IP_PROTOCOL_TCP
  carries : packet.Carries segment.bytes

theorem isFilled_encapTCP {packet : IP} (hheader : packet.headerLength = 12) (segment : TCP) :
    IsFilled (packet.encapTCP segment) segment := ⟨hheader, rfl, IP.carries_encapTCP packet segment⟩

theorem IsFilled.addressed {packet : IP} {segment : TCP} (h : IsFilled packet segment)
    (sourceIp destinationIp : UInt32) :
    IsFilled ((packet.setSourceIp sourceIp).setDestinationIp destinationIp) segment :=
  ⟨h.headerLength, h.protocol, h.carries.addressed sourceIp destinationIp⟩

theorem IsFilled.isSegmentFrame {packet : IP} {segment : TCP} (h : IsFilled packet segment)
    (hsize : segment.payload.length ≤ maximumPayloadBytes) (sourceMac destinationMac : Mac) :
    IsSegmentFrame sourceMac destinationMac segment.sourcePort segment.destinationPort
      (MPDU.ofPacket packet sourceMac destinationMac) where
  source := rfl
  destination := rfl
  type := rfl
  segment := by
    have hmaximum : maximumPayloadBytes = 1458 := rfl
    have htwelve : packet.headerLength.toNat = 12 := by rw [h.headerLength]; rfl
    have hfits : packet.headerLength.toNat + segment.bytes.length ≤ 65535 := by
      rw [htwelve, TCP.length_bytes, TCP_HEADER_SIZE]
      omega
    have hpacket : IP.generate (MPDU.encapIP ⟨[], [], 0, []⟩ packet).SDU = some packet :=
      generate_encapIP h.carries hfits
    exact ⟨packet, segment, hpacket, h.protocol, by rw [h.carries.data, generateTCP_bytes], rfl, rfl⟩

theorem IsSegmentFrame.decodeFrame {sourceMac destinationMac : Mac}
    {sourcePort destinationPort : UInt16} {frame : MPDU}
    (h : IsSegmentFrame sourceMac destinationMac sourcePort destinationPort frame) :
    ∃ packet segment, Tcp.decodeFrame frame = some (packet, segment) ∧
      segment.sourcePort = sourcePort := by
  obtain ⟨packet, segment, hpacket, -, hsegment, hsource, -⟩ := h.segment
  refine ⟨packet, segment, ?_, hsource⟩
  rw [Tcp.decodeFrame, hpacket, Option.bind_some, hsegment]
  rfl

/-! ### The segments of a file -/

/-- The ports are those that `file_to_TCP_segments` was called with. -/
theorem ports_of_loadTCPSegments {maximumBytes rounds : ℕ} {srcPort destPort : UInt16}
    {segments : List TCP} : ∀ {rest : List UInt8} {txSegment : TCP} {result : List TCP},
      txSegment.sourcePort = srcPort ∧ txSegment.destinationPort = destPort →
        (∀ segment ∈ result, segment.sourcePort = srcPort ∧ segment.destinationPort = destPort) →
          loadTCPSegments maximumBytes rounds rest txSegment result = some segments →
            ∀ segment ∈ segments,
              segment.sourcePort = srcPort ∧ segment.destinationPort = destPort := by
  induction rounds with
  | zero =>
    intro rest txSegment result _ _ hload
    cases hload
  | succ rounds ih =>
    intro rest txSegment result hports hresult hload
    simp only [loadTCPSegments] at hload
    by_cases hfin : txSegment.details &&& TCP_FIN ≠ 0
    · rw [if_pos hfin] at hload
      obtain rfl := Option.some.inj hload
      exact hresult
    · rw [if_neg hfin] at hload
      cases hpayload : loadPayload maximumBytes rest [] with
      | none =>
        rw [hpayload] at hload
        cases hload
      | some loaded =>
        rw [hpayload] at hload
        refine ih ?_ ?_ hload
        · exact hports
        · exact List.forall_mem_append.mpr ⟨hresult, List.forall_mem_singleton.mpr hports⟩

namespace Session

variable {session : Session}

/-- The segments to send have the ports of the call, and fit into a frame. -/
theorem ports_of_mem (hfile : session.file ≠ []) {segment : TCP}
    (hsegment : segment ∈ session.segmentsToSend) :
    (segment.sourcePort = session.client.thisPort ∧
      segment.destinationPort = session.client.destPort) ∧
        segment.payload.length ≤ maximumPayloadBytes := by
  refine ⟨?_, ((session.isSegmentation hfile).length_payload segment hsegment).2⟩
  cases hload : fileToTCPSegments session.fileSegment session.file session.client.thisPort
      session.client.destPort maximumPayloadBytes with
  | none =>
    rw [segmentsToSend, hload] at hsegment
    cases hsegment
  | some segments =>
    rw [segmentsToSend, hload] at hsegment
    exact ports_of_loadTCPSegments ⟨rfl, rfl⟩ (List.forall_mem_nil _) hload segment hsegment

/-! ### The client -/

/-- The client fills its packets with segments that have its ports. -/
structure ClientAddressed (session : Session) (client : Client) : Prop where
  headerLength : client.txPacket.headerLength = 12
  sourcePort : client.txSegment.sourcePort = session.client.thisPort
  destinationPort : client.txSegment.destinationPort = session.client.destPort
  length_payload : client.txSegment.payload.length ≤ maximumPayloadBytes

/-- A frame of the client. -/
def IsUp (session : Session) (frame : MPDU) : Prop :=
  IsSegmentFrame session.client.mac session.client.destMac session.client.thisPort
    session.client.destPort frame

variable {client : Client}

theorem ClientAddressed.isUp (h : session.ClientAddressed client) {packet : IP}
    (hfilled : IsFilled packet client.txSegment) :
    session.IsUp (MPDU.ofPacket packet session.client.mac session.client.destMac) := by
  have hframe := hfilled.isSegmentFrame h.length_payload session.client.mac session.client.destMac
  rwa [h.sourcePort, h.destinationPort] at hframe

theorem ClientAddressed.sendSegment (hfile : session.file ≠ [])
    (h : session.ClientAddressed client) (point : ClientPoint) :
    session.ClientAddressed
        (session.client.sendSegment session.segmentsToSend client point).1 ∧
      ∀ frame ∈ (session.client.sendSegment session.segmentsToSend client point).2,
        session.IsUp frame := by
  rw [ClientCall.sendSegment]
  cases hnext : session.segmentsToSend[client.nextSegmentIndex]? with
  | none => exact ⟨⟨h.1, h.2, h.3, h.4⟩, fun _ hframe ↦ by cases hframe⟩
  | some segment =>
    obtain ⟨⟨hsource, hdestination⟩, hsize⟩ := ports_of_mem hfile (List.mem_of_getElem? hnext)
    have hsent : session.ClientAddressed
        ⟨point, segment, client.txPacket.encapTCP segment, client.nextSegmentIndex + 1,
          client.lastUnACKdIndex⟩ := ⟨h.headerLength, hsource, hdestination, hsize⟩
    refine ⟨hsent, fun frame hframe ↦ ?_⟩
    obtain rfl := Option.some.inj hframe
    exact hsent.isUp (isFilled_encapTCP h.headerLength segment)

theorem ClientAddressed.act (hfile : session.file ≠ []) {acted : Client} {sent : Option MPDU}
    (h : session.ClientAddressed client)
    (hact : session.client.act session.segmentsToSend client = some (acted, sent)) :
    session.ClientAddressed acted ∧ ∀ frame ∈ sent, session.IsUp frame := by
  have hsends (point : ClientPoint) (hsend : some (session.client.sendSegment
      session.segmentsToSend client point) = some (acted, sent)) :
      session.ClientAddressed acted ∧ ∀ frame ∈ sent, session.IsUp frame := by
    have hboth := h.sendSegment hfile point
    rwa [Option.some.inj hsend] at hboth
  have hfills (packet : IP) (hfilled : IsFilled packet client.txSegment) (point : ClientPoint)
      (hsend : some ({ client with point, txPacket := packet },
        some (MPDU.ofPacket packet session.client.mac session.client.destMac)) =
          some (acted, sent)) :
      session.ClientAddressed acted ∧ ∀ frame ∈ sent, session.IsUp frame := by
    obtain ⟨rfl, rfl⟩ := Prod.mk.inj (Option.some.inj hsend)
    refine ⟨⟨hfilled.headerLength, h.sourcePort, h.destinationPort, h.length_payload⟩, ?_⟩
    intro frame hframe
    obtain rfl := Option.some.inj hframe
    exact h.isUp hfilled
  rw [ClientCall.act] at hact
  cases hpoint : client.point with
  | sendSYN =>
    rw [hpoint] at hact
    exact hfills _ ((isFilled_encapTCP h.headerLength _).addressed _ _) _ hact
  | sendACK =>
    rw [hpoint] at hact
    exact hfills _ (isFilled_encapTCP h.headerLength _) _ hact
  | loopTop =>
    rw [hpoint] at hact
    dsimp only at hact
    split_ifs at hact
    · exact hsends _ hact
    · obtain ⟨rfl, rfl⟩ := Prod.mk.inj (Option.some.inj hact)
      exact ⟨⟨h.1, h.2, h.3, h.4⟩, fun _ hframe ↦ by cases hframe⟩
  | sendAnother =>
    rw [hpoint] at hact
    exact hsends _ hact
  | waitSYNACK => simp [hpoint] at hact
  | waitACK => simp [hpoint] at hact
  | returned => simp [hpoint] at hact
  | outOfRange => simp [hpoint] at hact

theorem ClientAddressed.take (h : session.ClientAddressed client) {frame : MPDU} {taken : Client}
    (htake : session.client.take session.segmentsToSend client frame = some taken) :
    session.ClientAddressed taken := by
  have hpoint (point : ClientPoint) : session.ClientAddressed { client with point } :=
    ⟨h.1, h.2, h.3, h.4⟩
  rw [ClientCall.take] at htake
  cases hwhere : client.point with
  | waitSYNACK =>
    rw [hwhere] at htake
    dsimp only at htake
    cases hdecode : decodeFrame frame with
    | none =>
      rw [hdecode] at htake
      exact Option.some.inj htake ▸ hpoint _
    | some decoded =>
      rw [hdecode] at htake
      obtain rfl := Option.some.inj htake
      rw [ClientCall.takeSYNACK]
      split_ifs
      · exact ⟨h.headerLength, rfl, rfl, h.length_payload⟩
      · exact hpoint _
  | waitACK =>
    rw [hwhere] at htake
    dsimp only at htake
    cases hdecode : decodeFrame frame with
    | none =>
      rw [hdecode] at htake
      exact Option.some.inj htake ▸ hpoint _
    | some decoded =>
      rw [hdecode] at htake
      obtain rfl := Option.some.inj htake
      rw [Client.takeACK]
      cases indicesAfterACK session.segmentsToSend client.nextSegmentIndex client.lastUnACKdIndex
          decoded.2.ackNumber with
      | none => exact hpoint _
      | some indices => exact ⟨h.1, h.2, h.3, h.4⟩
  | returned =>
    rw [hwhere] at htake
    exact Option.some.inj htake ▸ h
  | sendSYN => simp [hwhere] at htake
  | sendACK => simp [hwhere] at htake
  | loopTop => simp [hwhere] at htake
  | sendAnother => simp [hwhere] at htake
  | outOfRange => simp [hwhere] at htake

/-! ### The server -/

/-- Once it has a SYN, the server fills its packets with segments for the port that it came from,
and sends them to the host that it came from. -/
structure ServerAddressed (session : Session) (server : Server) : Prop where
  headerLength : server.txPacket.headerLength = 12
  payload : server.txSegment.payload = []
  source : server.point ≠ .waitSYN → server.rxSourceMac = session.client.mac
  sourcePort : server.point ≠ .waitSYN → server.txSegment.sourcePort = session.server.thisPort
  destinationPort : server.point ≠ .waitSYN →
    server.txSegment.destinationPort = session.client.thisPort
  filled : server.point ≠ .waitSYN → IsFilled server.txPacket server.txSegment

/-- A frame of the server. -/
def IsDown (session : Session) (frame : MPDU) : Prop :=
  IsSegmentFrame session.server.mac session.client.mac session.server.thisPort
    session.client.thisPort frame

variable {server : Server}

theorem ServerAddressed.isDown (h : session.ServerAddressed server)
    (hpoint : server.point ≠ .waitSYN) :
    session.IsDown (MPDU.ofPacket server.txPacket session.server.mac server.rxSourceMac) := by
  have hsize : server.txSegment.payload.length ≤ maximumPayloadBytes := by
    rw [h.payload]
    exact Nat.zero_le _
  have hframe := (h.filled hpoint).isSegmentFrame hsize session.server.mac server.rxSourceMac
  rw [h.sourcePort hpoint, h.destinationPort hpoint, h.source hpoint] at hframe
  rw [h.source hpoint]
  exact hframe

/-- Where the server is changes nothing for its frames. -/
theorem ServerAddressed.withPoint (h : session.ServerAddressed server) (point : ServerPoint)
    (hpoint : server.point ≠ .waitSYN) : session.ServerAddressed { server with point } :=
  ⟨h.headerLength, h.payload, fun _ ↦ h.source hpoint, fun _ ↦ h.sourcePort hpoint,
    fun _ ↦ h.destinationPort hpoint, fun _ ↦ h.filled hpoint⟩

theorem ServerAddressed.act {acted : Server} {sent : Option MPDU}
    (h : session.ServerAddressed server)
    (hact : session.server.act server = some (acted, sent)) :
    session.ServerAddressed acted ∧ ∀ frame ∈ sent, session.IsDown frame := by
  have hsends (point : ServerPoint) (hpoint : server.point ≠ .waitSYN)
      (hsend : some ({ server with point },
        some (MPDU.ofPacket server.txPacket session.server.mac server.rxSourceMac)) =
          some (acted, sent)) :
      session.ServerAddressed acted ∧ ∀ frame ∈ sent, session.IsDown frame := by
    obtain ⟨rfl, rfl⟩ := Prod.mk.inj (Option.some.inj hsend)
    refine ⟨h.withPoint point hpoint, fun frame hframe ↦ ?_⟩
    obtain rfl := Option.some.inj hframe
    exact h.isDown hpoint
  rw [ServerCall.act] at hact
  cases hpoint : server.point with
  | sendSYNACK =>
    simp only [hpoint] at hact
    exact hsends _ (by simp [hpoint]) hact
  | resendSYNACK =>
    simp only [hpoint] at hact
    exact hsends server.point (by simp [hpoint]) hact
  | sendReply =>
    simp only [hpoint] at hact
    exact hsends _ (by simp [hpoint]) hact
  | waitSYN => simp [hpoint] at hact
  | waitACK => simp [hpoint] at hact
  | waitSegment => simp [hpoint] at hact
  | returned => simp [hpoint] at hact
  | outOfRange => simp [hpoint] at hact

theorem ServerAddressed.take (h : session.ServerAddressed server) {frame : MPDU} {taken : Server}
    (hup : session.IsUp frame) (htake : session.server.take server frame = some taken) :
    session.ServerAddressed taken := by
  obtain ⟨packet, segment, hdecode, hport⟩ := hup.decodeFrame
  rw [ServerCall.take] at htake
  cases hwhere : server.point with
  | waitSYN =>
    simp only [hwhere, hdecode] at htake
    obtain rfl := Option.some.inj htake
    rw [ServerCall.takeSYN]
    split_ifs
    · exact h
    · exact ⟨h.headerLength, h.payload, fun _ ↦ hup.source, fun _ ↦ rfl, fun _ ↦ hport,
        fun _ ↦ (isFilled_encapTCP h.headerLength _).addressed _ _⟩
  | waitACK =>
    have hlater : server.point ≠ .waitSYN := by simp [hwhere]
    simp only [hwhere, hdecode] at htake
    obtain rfl := Option.some.inj htake
    rw [Server.takeACK]
    split_ifs
    · exact ⟨h.headerLength, h.payload, fun _ ↦ hup.source, fun _ ↦ h.sourcePort hlater,
        fun _ ↦ h.destinationPort hlater, fun _ ↦ h.filled hlater⟩
    · exact ⟨h.headerLength, h.payload, fun _ ↦ h.source hlater, fun _ ↦ h.sourcePort hlater,
        fun _ ↦ h.destinationPort hlater, fun _ ↦ h.filled hlater⟩
  | waitSegment =>
    have hlater : server.point ≠ .waitSYN := by simp [hwhere]
    simp only [hwhere, hdecode] at htake
    obtain rfl := Option.some.inj htake
    rw [Server.takeSegment]
    split_ifs
    · exact ⟨h.headerLength, h.payload, fun _ ↦ hup.source, fun _ ↦ h.sourcePort hlater,
        fun _ ↦ h.destinationPort hlater, fun _ ↦ isFilled_encapTCP h.headerLength _⟩
    · exact ⟨h.headerLength, h.payload, fun _ ↦ hup.source, fun _ ↦ h.sourcePort hlater,
        fun _ ↦ h.destinationPort hlater, fun _ ↦ h.filled hlater⟩
  | returned =>
    simp only [hwhere] at htake
    exact Option.some.inj htake ▸ h
  | sendSYNACK => simp [hwhere] at htake
  | resendSYNACK => simp [hwhere] at htake
  | sendReply => simp [hwhere] at htake
  | outOfRange => simp [hwhere] at htake

/-! ### Both -/

/-- Whatever is dropped, and in whatever order frames are delivered, each call sends frames for the
socket of the other. -/
theorem isSegmentFrame_of_reachable (hfile : session.file ≠ [])
    {guard : Duplex Client Server MPDU MPDU → Duplex.Event → Prop}
    {s : Duplex Client Server MPDU MPDU} (h : session.connection.Reachable guard s) :
    (∀ frame ∈ s.toServer, session.IsUp frame) ∧ ∀ frame ∈ s.toClient, session.IsDown frame := by
  have hstart : session.ServerAddressed
      (Server.start session.serverSegment session.serverPacket session.serverSN) :=
    ⟨rfl, rfl, fun hlater ↦ absurd rfl hlater, fun hlater ↦ absurd rfl hlater,
      fun hlater ↦ absurd rfl hlater, fun hlater ↦ absurd rfl hlater⟩
  have hholds : Duplex.Holds session.ClientAddressed session.ServerAddressed session.IsUp
      session.IsDown s :=
    Duplex.holds_of_reachable ⟨rfl, rfl, rfl, Nat.zero_le _⟩ hstart
      (fun _ _ _ hclient hact ↦ hclient.act hfile hact) (fun _ _ _ hserver hact ↦ hserver.act hact)
      (fun _ _ _ hclient _ htake ↦ hclient.take htake)
      (fun _ _ _ hserver hup htake ↦ hserver.take hup htake) h
  exact ⟨hholds.toServer, hholds.toClient⟩

end Session

end NetworkSimulation.Tcp
