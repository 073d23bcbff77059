import NetworkSimulation.Monitor.FrameDetails
import NetworkSimulation.Icmp.Replies

/-!
# The monitor and the decoders

The numbers that the monitor shows of ARP, of the IP addresses, of TCP and of UDP are those of the
decoders for every value of every byte. The identifier and the sequence number of an ICMP message
never are: where a byte should be shifted up it is compared with eight (`comparedWord16_ne`). A
frame is therefore shown as it is decoded exactly where it carries no ICMP message
(`shownAsDecoded_iff`).
-/

set_option autoImplicit false
set_option relaxedAutoImplicit false

namespace NetworkSimulation.Monitor

open Stack Dhcp Icmp Library.WordBytes

/-! ### The spellings of the monitor and of the decoders -/

theorem promotedWord16_eq (high low : UInt8) :
    promotedWord16 high low = (word16 high low).toNat := by
  rw [promotedWord16, toNat_word16, Nat.shiftLeft_eq]

/-- A comparison is at most one, and a high byte that is not zero counts at least 256. -/
theorem comparedWord16_ne (high low : UInt8) :
    comparedWord16 high low ≠ (word16 high low).toNat := by
  rw [comparedWord16, toNat_word16]
  split_ifs with hsmall
  · omega
  · have hhigh : 8 ≤ high.toNat := UInt8.le_iff_toNat_le.mp (UInt8.not_lt.mp hsmall)
    omega

/-! ### Agreement with the decoders -/

/-- The numbers shown are those that the decoder for the message returns, if it returns. -/
def Transport.Agrees (data : List UInt8) : Transport → Prop
  | icmp _ id seq => ∀ message, generateICMP data = some message →
    id = message.identifier.toNat ∧ seq = message.sequenceNumber.toNat
  | tcp sourcePort destinationPort sequenceNumber ackNumber =>
    ∀ segment, generateTCP data = some segment →
      sourcePort = segment.sourcePort.toNat ∧ destinationPort = segment.destinationPort.toNat ∧
        sequenceNumber = segment.sequenceNumber ∧ ackNumber = segment.ackNumber
  | dhcp opcode => ∀ segment message, generateUDP data = some segment →
    generateDHCP segment.payload = some message → opcode = message.opcode
  | udp sourcePort destinationPort => ∀ segment, generateUDP data = some segment →
    sourcePort = segment.sourcePort.toNat ∧ destinationPort = segment.destinationPort.toNat
  | other => True

/-- The numbers shown of a frame are those that the decoders return for it. -/
def Details.Agrees (frame : MPDU) : Details → Prop
  | arpRequest targetIp senderIp => ∀ message, generateARP frame.SDU = some message →
    targetIp = bytes32 message.targetIp ∧ senderIp = bytes32 message.senderIp
  | arpReply senderIp senderMac => ∀ message, generateARP frame.SDU = some message →
    senderIp = bytes32 message.senderIp ∧ senderMac = message.senderMac
  | packet sourceIp destinationIp transport => ∀ packet, IP.generate frame.SDU = some packet →
    sourceIp = packet.sourceIp ∧ destinationIp = packet.destinationIp ∧
      transport.Agrees packet.SDU
  | arpOther | other => True

/-- A decoded packet is made of the twelve bytes of the header; its data are what follows, or some
of it. -/
theorem exists_of_generateIP {bytes : List UInt8} {packet : IP}
    (h : IP.generate bytes = some packet) :
    ∃ b0 b1 b2 b3 b4 b5 b6 b7 b8 b9 b10 b11 rest,
      bytes = b0 :: b1 :: b2 :: b3 :: b4 :: b5 :: b6 :: b7 :: b8 :: b9 :: b10 :: b11 ::
        (packet.SDU ++ rest) ∧
      packet.protocol = b3 ∧ packet.sourceIp = word32 b4 b5 b6 b7 ∧
      packet.destinationIp = word32 b8 b9 b10 b11 := by
  unfold IP.generate at h
  split at h
  · rename_i b0 b1 b2 b3 b4 b5 b6 b7 b8 b9 b10 b11 rest
    dsimp only at h
    split_ifs at h
    obtain rfl := Option.some.inj h
    refine ⟨b0, b1, b2, b3, b4, b5, b6, b7, b8, b9, b10, b11,
      rest.drop ((word16 b1 b2).toNat - b0.toNat), ?_, rfl, ?_, ?_⟩
    · simp only [List.take_append_drop]
    · exact createIp_eq_word32 b4 b5 b6 b7
    · exact createIp_eq_word32 b8 b9 b10 b11
  · cases h

section Reads

variable {payload data rest : List UInt8}

/-- Behind the header the payload of a frame is read as the data are. -/
theorem portAt_header (h : ∀ i, payload[IP_HEADER_SIZE + i]? = (data ++ rest)[i]?) (i : ℕ) :
    portAt payload (IP_HEADER_SIZE + i) = portAt (data ++ rest) i := by
  rw [portAt, portAt, add_assoc, h, h]

theorem numberAt_header (h : ∀ i, payload[IP_HEADER_SIZE + i]? = (data ++ rest)[i]?) (i : ℕ) :
    numberAt payload (IP_HEADER_SIZE + i) = numberAt (data ++ rest) i := by
  rw [numberAt, numberAt, add_assoc, add_assoc, add_assoc, h, h, h, h]

theorem comparedAt_header (h : ∀ i, payload[IP_HEADER_SIZE + i]? = (data ++ rest)[i]?) (i : ℕ) :
    comparedAt payload (IP_HEADER_SIZE + i) = comparedAt (data ++ rest) i := by
  rw [comparedAt, comparedAt, add_assoc, h, h]

/-- The ports and the numbers of a TCP segment are shown as they are decoded. -/
theorem agrees_of_tcp (h : ∀ i, payload[IP_HEADER_SIZE + i]? = (data ++ rest)[i]?)
    {transport : Transport} (hshown : transportDetails payload IP_PROTOCOL_TCP = some transport) :
    transport.Agrees data := by
  have hother : IP_PROTOCOL_TCP ≠ IP_PROTOCOL_ICMP := by decide
  rw [transportDetails, if_neg hother, if_pos rfl] at hshown
  simp only [Option.bind_eq_bind, Option.bind_eq_some_iff, Option.some.injEq] at hshown
  obtain ⟨sourcePort, hsource, destinationPort, hdestination, sequenceNumber, hsequence, ackNumber,
    hack, rfl⟩ := hshown
  intro segment hsegment
  unfold generateTCP at hsegment
  split at hsegment
  · obtain rfl := Option.some.inj hsegment
    rw [← add_zero IP_HEADER_SIZE, portAt_header h] at hsource
    rw [portAt_header h] at hdestination
    rw [numberAt_header h] at hsequence hack
    simp only [maskedWord16_eq, maskedWord32_eq, ← promotedWord16_eq]
    exact ⟨Option.some.inj hsource.symm, Option.some.inj hdestination.symm,
      Option.some.inj hsequence.symm, Option.some.inj hack.symm⟩
  · cases hsegment

/-- The ports of a UDP segment are shown as they are decoded, and so is the opcode of a message from
one of the two ports of DHCP. -/
theorem agrees_of_udp (h : ∀ i, payload[IP_HEADER_SIZE + i]? = (data ++ rest)[i]?)
    {transport : Transport} (hshown : transportDetails payload IP_PROTOCOL_UDP = some transport) :
    transport.Agrees data := by
  have hicmp : IP_PROTOCOL_UDP ≠ IP_PROTOCOL_ICMP := by decide
  have htcp : IP_PROTOCOL_UDP ≠ IP_PROTOCOL_TCP := by decide
  rw [transportDetails, if_neg hicmp, if_neg htcp, if_pos rfl] at hshown
  obtain ⟨sourcePort, hsource, hshown⟩ := Option.bind_eq_some_iff.mp hshown
  by_cases hbootp : sourcePort = BOOTP_CLIENT_PORT.toNat ∨ sourcePort = BOOTP_SERVER_PORT.toNat
  · rw [if_pos hbootp] at hshown
    obtain ⟨opcode, hopcode, hshown⟩ := Option.bind_eq_some_iff.mp hshown
    obtain rfl := Option.some.inj hshown
    intro segment message hsegment hmessage
    unfold generateUDP at hsegment
    split at hsegment
    · obtain rfl := Option.some.inj hsegment
      dsimp only at hmessage
      unfold generateDHCP at hmessage
      split at hmessage
      · obtain rfl := Option.some.inj hmessage
        rw [h] at hopcode
        exact Option.some.inj hopcode.symm
      · cases hmessage
    · cases hsegment
  · rw [if_neg hbootp] at hshown
    obtain ⟨destinationPort, hdestination, hshown⟩ := Option.bind_eq_some_iff.mp hshown
    obtain rfl := Option.some.inj hshown
    intro segment hsegment
    unfold generateUDP at hsegment
    split at hsegment
    · obtain rfl := Option.some.inj hsegment
      rw [← add_zero IP_HEADER_SIZE, portAt_header h] at hsource
      rw [portAt_header h] at hdestination
      simp only [maskedWord16_eq, ← promotedWord16_eq]
      exact ⟨Option.some.inj hsource.symm, Option.some.inj hdestination.symm⟩
    · cases hsegment

/-- The identifier of an ICMP message is never shown as it is decoded. -/
theorem not_agrees_of_icmp (h : ∀ i, payload[IP_HEADER_SIZE + i]? = (data ++ rest)[i]?)
    {message : ICMP} (hmessage : generateICMP data = some message) {transport : Transport}
    (hshown : transportDetails payload IP_PROTOCOL_ICMP = some transport) :
    ¬ transport.Agrees data := by
  rw [transportDetails, if_pos rfl] at hshown
  simp only [Option.bind_eq_bind, Option.bind_eq_some_iff, Option.some.injEq] at hshown
  obtain ⟨type, -, id, hid, seq, -, rfl⟩ := hshown
  intro hagrees
  obtain ⟨hsame, -⟩ := hagrees message hmessage
  unfold generateICMP at hmessage
  split at hmessage
  · obtain rfl := Option.some.inj hmessage
    rw [comparedAt_header h] at hid
    simp only [maskedWord16_eq] at hsame
    exact comparedWord16_ne _ _ ((Option.some.inj hid).trans hsame)
  · cases hmessage

/-- Where no ICMP message is decoded, there is nothing to agree with. -/
theorem agrees_of_generateICMP_eq_none (hnone : generateICMP data = none) {transport : Transport}
    (hshown : transportDetails payload IP_PROTOCOL_ICMP = some transport) :
    transport.Agrees data := by
  rw [transportDetails, if_pos rfl] at hshown
  simp only [Option.bind_eq_bind, Option.bind_eq_some_iff, Option.some.injEq] at hshown
  obtain ⟨type, -, id, -, seq, -, rfl⟩ := hshown
  intro message hmessage
  rw [hnone] at hmessage
  cases hmessage

theorem agrees_of_transport (h : ∀ i, payload[IP_HEADER_SIZE + i]? = (data ++ rest)[i]?)
    {protocol : UInt8} (hnone : protocol = IP_PROTOCOL_ICMP → generateICMP data = none)
    {transport : Transport} (hshown : transportDetails payload protocol = some transport) :
    transport.Agrees data := by
  by_cases hicmp : protocol = IP_PROTOCOL_ICMP
  · rw [hicmp] at hshown
    exact agrees_of_generateICMP_eq_none (hnone hicmp) hshown
  by_cases htcp : protocol = IP_PROTOCOL_TCP
  · rw [htcp] at hshown
    exact agrees_of_tcp h hshown
  by_cases hudp : protocol = IP_PROTOCOL_UDP
  · rw [hudp] at hshown
    exact agrees_of_udp h hshown
  · rw [transportDetails, if_neg hicmp, if_neg htcp, if_neg hudp] at hshown
    obtain rfl := Option.some.inj hshown
    trivial

end Reads

/-- The bytes of a decoded ARP message that stand at the places where the addresses are read. -/
theorem bytesAt_of_generateARP {bytes : List UInt8} {message : ARP}
    (h : generateARP bytes = some message) :
    bytesAt bytes 2 6 = some message.senderMac ∧
      bytesAt bytes 8 4 = some (bytes32 message.senderIp) ∧
      bytesAt bytes 18 4 = some (bytes32 message.targetIp) := by
  unfold generateARP at h
  split at h
  · obtain rfl := Option.some.inj h
    simp only [arpWord32_eq, bytes32_word32]
    refine ⟨?_, ?_, ?_⟩ <;> simp [bytesAt]
  · cases h

/-- The addresses of an ARP message are shown as they are decoded. -/
theorem agrees_of_arp {frame : MPDU} (htype : frame.SDUType = MPDU_ARP_TYPE) {details : Details}
    (hshown : frameDetails frame = some details) : details.Agrees frame := by
  rw [frameDetails, if_pos htype] at hshown
  obtain ⟨opcode, -, hshown⟩ := Option.bind_eq_some_iff.mp hshown
  by_cases hrequest : opcode.toUInt16 = ARP_REQUEST
  · simp only [if_pos hrequest, Option.bind_eq_bind, Option.bind_eq_some_iff,
      Option.some.injEq] at hshown
    obtain ⟨targetIp, htarget, senderIp, hsender, rfl⟩ := hshown
    intro message hmessage
    obtain ⟨-, hsenderIp, htargetIp⟩ := bytesAt_of_generateARP hmessage
    exact ⟨Option.some.inj (htarget.symm.trans htargetIp),
      Option.some.inj (hsender.symm.trans hsenderIp)⟩
  by_cases hreply : opcode.toUInt16 = ARP_REPLY
  · simp only [if_neg hrequest, if_pos hreply, Option.bind_eq_bind, Option.bind_eq_some_iff,
      Option.some.injEq] at hshown
    obtain ⟨senderIp, hip, senderMac, hmac, rfl⟩ := hshown
    intro message hmessage
    obtain ⟨hsenderMac, hsenderIp, -⟩ := bytesAt_of_generateARP hmessage
    exact ⟨Option.some.inj (hip.symm.trans hsenderIp),
      Option.some.inj (hmac.symm.trans hsenderMac)⟩
  · rw [if_neg hrequest, if_neg hreply] at hshown
    obtain rfl := Option.some.inj hshown
    trivial

theorem exists_eq_packet {frame : MPDU} (htype : frame.SDUType = MPDU_IP_TYPE) {details : Details}
    (hshown : frameDetails frame = some details) :
    ∃ sourceIp destinationIp transport, details = .packet sourceIp destinationIp transport := by
  have hother : MPDU_IP_TYPE ≠ MPDU_ARP_TYPE := by decide
  rw [frameDetails, htype, if_neg hother, if_pos rfl] at hshown
  simp only [Option.bind_eq_bind, Option.bind_eq_some_iff, Option.some.injEq] at hshown
  obtain ⟨sourceIp, -, destinationIp, -, _, -, transport, -, rfl⟩ := hshown
  exact ⟨sourceIp, destinationIp, transport, rfl⟩

/-- What is shown of an IP packet that is decoded: its addresses, and what its data are read as. -/
theorem exists_of_packet {frame : MPDU} (htype : frame.SDUType = MPDU_IP_TYPE) {packet : IP}
    (hpacket : IP.generate frame.SDU = some packet) {details : Details}
    (hshown : frameDetails frame = some details) :
    ∃ transport rest, details = .packet packet.sourceIp packet.destinationIp transport ∧
      transportDetails frame.SDU packet.protocol = some transport ∧
      ∀ i, frame.SDU[IP_HEADER_SIZE + i]? = (packet.SDU ++ rest)[i]? := by
  have hother : MPDU_IP_TYPE ≠ MPDU_ARP_TYPE := by decide
  obtain ⟨b0, b1, b2, b3, b4, b5, b6, b7, b8, b9, b10, b11, rest, hbytes, hprotocol, hsource,
    hdestination⟩ := exists_of_generateIP hpacket
  rw [frameDetails, htype, if_neg hother, if_pos rfl] at hshown
  simp only [Option.bind_eq_bind, Option.bind_eq_some_iff, Option.some.injEq] at hshown
  obtain ⟨sourceIp, hshownSource, destinationIp, hshownDestination, protocol, hshownProtocol,
    transport, htransport, rfl⟩ := hshown
  refine ⟨transport, rest, ?_, ?_, fun i ↦ ?_⟩
  · rw [hbytes] at hshownSource hshownDestination
    have hfirst : sourceIp = packet.sourceIp :=
      (Option.some.inj hshownSource).symm.trans hsource.symm
    have hsecond : destinationIp = packet.destinationIp :=
      (Option.some.inj hshownDestination).symm.trans hdestination.symm
    rw [hfirst, hsecond]
  · rw [hbytes] at hshownProtocol
    have hthird : protocol = packet.protocol :=
      (Option.some.inj hshownProtocol).symm.trans hprotocol.symm
    rw [← hthird, htransport]
  · rw [hbytes, add_comm]
    rfl

/-- The numbers shown of a frame are those of the decoders exactly where it does not carry an ICMP
message. -/
theorem agrees_iff {frame : MPDU} {details : Details} (hshown : frameDetails frame = some details) :
    details.Agrees frame ↔ ¬ ∃ message, CarriesICMP frame message := by
  constructor
  · rintro hagrees ⟨message, htype, packet, hpacket, hprotocol, hmessage⟩
    obtain ⟨transport, rest, rfl, htransport, hreads⟩ := exists_of_packet htype hpacket hshown
    rw [hprotocol] at htransport
    exact not_agrees_of_icmp hreads hmessage htransport (hagrees packet hpacket).2.2
  · intro hnone
    by_cases harp : frame.SDUType = MPDU_ARP_TYPE
    · exact agrees_of_arp harp hshown
    by_cases hip : frame.SDUType = MPDU_IP_TYPE
    · obtain ⟨sourceIp, destinationIp, transport, rfl⟩ := exists_eq_packet hip hshown
      intro packet hpacket
      obtain ⟨transport, rest, hsame, htransport, hreads⟩ := exists_of_packet hip hpacket hshown
      obtain ⟨rfl, rfl, rfl⟩ := Details.packet.inj hsame
      refine ⟨rfl, rfl, agrees_of_transport hreads (fun hicmp ↦ ?_) htransport⟩
      by_contra hdecoded
      obtain ⟨message, hmessage⟩ := Option.ne_none_iff_exists'.mp hdecoded
      exact hnone ⟨message, hip, packet, hpacket, hicmp, hmessage⟩
    · rw [frameDetails, if_neg harp, if_neg hip] at hshown
      obtain rfl := Option.some.inj hshown
      trivial

/-! ### Frames of the encoders are shown -/

section Encoded

variable {payload rest : List UInt8}

theorem exists_transportDetails {message : Message}
    (h : ∀ i, payload[IP_HEADER_SIZE + i]? = (message.bytes ++ rest)[i]?)
    (hopcode : ∀ segment, message = .udp segment → segment.payload ≠ []) :
    ∃ transport, transportDetails payload message.protocol = some transport := by
  cases message with
  | icmp message =>
    rw [Message.protocol, transportDetails, if_pos rfl, comparedAt_header h, comparedAt_header h,
      ← add_zero IP_HEADER_SIZE, h]
    exact ⟨_, rfl⟩
  | tcp segment =>
    have hother : IP_PROTOCOL_TCP ≠ IP_PROTOCOL_ICMP := by decide
    rw [Message.protocol, transportDetails, if_neg hother, if_pos rfl, portAt_header h,
      numberAt_header h, numberAt_header h, ← add_zero IP_HEADER_SIZE, portAt_header h]
    exact ⟨_, rfl⟩
  | udp segment =>
    have hicmp : IP_PROTOCOL_UDP ≠ IP_PROTOCOL_ICMP := by decide
    have htcp : IP_PROTOCOL_UDP ≠ IP_PROTOCOL_TCP := by decide
    obtain ⟨first, others, hpayload⟩ := List.exists_cons_of_ne_nil (hopcode segment rfl)
    have hread : payload[IP_HEADER_SIZE + UDP_HEADER_SIZE]? = some first := by
      rw [h, Message.bytes, UDP.bytes, hpayload]
      rfl
    have hsource : portAt payload IP_HEADER_SIZE =
        some (promotedWord16 (byte16 segment.sourcePort 1) (byte16 segment.sourcePort 0)) :=
      portAt_header h 0
    rw [Message.protocol, transportDetails, if_neg hicmp, if_neg htcp, if_pos rfl, portAt_header h,
      hread, hsource]
    simp only [Option.bind_eq_bind, Option.bind_some]
    split_ifs
    · exact ⟨_, rfl⟩
    · exact ⟨_, rfl⟩

/-- The monitor shows every frame from which a message is recovered. A UDP segment may come from a
port of DHCP, where the first byte of its payload is read. -/
theorem exists_getFrameDetails {message : Message} {frame : MPDU} {sourceIp destinationIp : UInt32}
    (htype : frame.SDUType = MPDU_IP_TYPE) (h : message.Recovered sourceIp destinationIp frame)
    (hsource : 6 ≤ frame.sourceMac.length) (hdestination : 6 ≤ frame.destinationMac.length)
    (hopcode : ∀ segment, message = .udp segment → segment.payload ≠ []) :
    ∃ text, getFrameDetails frame = some text := by
  have hother : MPDU_IP_TYPE ≠ MPDU_ARP_TYPE := by decide
  obtain ⟨packet, hpacket, hprotocol, -, -, hmessage⟩ := h
  obtain ⟨b0, b1, b2, b3, b4, b5, b6, b7, b8, b9, b10, b11, rest, hbytes, hthird, -, -⟩ :=
    exists_of_generateIP hpacket
  have hreads (i : ℕ) : frame.SDU[IP_HEADER_SIZE + i]? = (message.bytes ++ rest)[i]? := by
    rw [Message.bytes_of_generate hmessage, hbytes, add_comm]
    rfl
  obtain ⟨transport, htransport⟩ := exists_transportDetails hreads hopcode
  rw [← hprotocol, hthird] at htransport
  have hdetails : frameDetails frame = some (.packet (signedWord32 b4 b5 b6 b7).toUInt32
      (signedWord32 b8 b9 b10 b11).toUInt32 transport) := by
    rw [frameDetails, htype, if_neg hother, if_pos rfl]
    rw [hbytes] at htransport ⊢
    simp only [addressAt, Option.bind_eq_bind, List.getElem?_cons_succ, List.getElem?_cons_zero,
      Option.bind_some, htransport]
  rw [getFrameDetails, if_pos ⟨hsource, hdestination⟩, hdetails]
  exact ⟨_, rfl⟩

end Encoded

/-! ### Shown as decoded -/

/-- The frames that the encoders of the stack make. -/
inductive Encoded : MPDU → Prop
  | arp (frame : MPDU) (message : ARP) : Encoded (frame.encapARP message)
  | message (frame : MPDU) (packet : IP) (message : Message) (sourceIp destinationIp : UInt32) :
    Encoded (frame.encapIP
      (((message.encapIn packet).setSourceIp sourceIp).setDestinationIp destinationIp))

/-- The text is made of numbers that are those of the decoders. -/
def ShownAsDecoded (frame : MPDU) (text : String) : Prop :=
  ∃ details, frameDetails frame = some details ∧ text = details.text frame ∧ details.Agrees frame

/-- The monitor shows what the decoders return exactly where a frame does not carry an ICMP
message. -/
theorem shownAsDecoded_iff {frame : MPDU} {text : String} (h : getFrameDetails frame = some text) :
    ShownAsDecoded frame text ↔ ¬ ∃ message, CarriesICMP frame message := by
  rw [getFrameDetails] at h
  split_ifs at h
  obtain ⟨details, hdetails, rfl⟩ := Option.map_eq_some_iff.mp h
  rw [← agrees_iff hdetails]
  constructor
  · rintro ⟨shown, hshown, -, hagrees⟩
    rw [hdetails, Option.some.injEq] at hshown
    rwa [hshown]
  · exact fun hagrees ↦ ⟨details, hdetails, rfl, hagrees⟩

/-- A packet from one host to another with the message given. -/
def frameBetween (message : Message) : MPDU :=
  { (MPDU.encapIP ⟨[], [], 0, []⟩ (((message.encapIn (IP.new ⟨0, 0, 0, 0, 0, []⟩)).setSourceIp
      (createIp 192 168 1 1)).setDestinationIp (createIp 192 168 1 2))) with
    sourceMac := createUniformMac 0x11
    destinationMac := createUniformMac 0x22 }

/-- A TCP segment with the top bit set in its numbers. -/
theorem shownAsDecoded_witness :
    let frame := frameBetween (.tcp ⟨20, 4000, 0xFFFFFFFF, 0x80000000, TCP_ACK, 0, 0, [0xAB]⟩)
    ∃ text, getFrameDetails frame = some text ∧ ShownAsDecoded frame text := by
  intro frame
  refine ⟨_, rfl, (shownAsDecoded_iff rfl).mpr ?_⟩
  rintro ⟨message, -, packet, hpacket, hprotocol, -⟩
  have htcp : (IP.generate frame.SDU).map IP.protocol = some IP_PROTOCOL_TCP := by decide
  rw [hpacket, Option.map_some, hprotocol] at htcp
  exact absurd htcp (by decide)

/-- The first request of a ping with identifier 7 is shown with identifier 8. -/
theorem not_forall_shownAsDecoded : ¬ ∀ frame, Encoded frame → ∀ text,
    getFrameDetails frame = some text → ShownAsDecoded frame text := by
  intro hall
  let frame := frameBetween (.icmp ⟨ICMP_ECHO_REQUEST, 0, 0, 7, 1, pingPayload⟩)
  have hencoded : Encoded frame := .message ⟨_, _, 0, []⟩ _ _ _ _
  obtain ⟨details, hdetails, -, hagrees⟩ := hall frame hencoded _ rfl
  obtain rfl : _ = details := Option.some.inj hdetails
  obtain ⟨-, -, htransport⟩ := hagrees _ rfl
  obtain ⟨hid, -⟩ := htransport _ rfl
  revert hid
  decide

end NetworkSimulation.Monitor
