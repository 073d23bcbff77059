import NetworkSimulation.Icmp.Ping
import NetworkSimulation.Stack.Encapsulation

/-!
# The reply to an echo request

`process_ICMP_message` decodes a request through three layers, changes its type and sends it back
through the same layers in a new packet and a new frame. The message comes back as it was, up to the
type, while the packet fits in 65535 bytes (`processICMPMessage_encoded`): that is a payload of up
to 65515 bytes, after 12 bytes of IP header and 8 of ICMP header.
-/

set_option autoImplicit false
set_option relaxedAutoImplicit false

namespace NetworkSimulation.Icmp

open Library Stack

/-! ### Messages in frames -/

/-- The frame is an IP frame of protocol ICMP with this message. -/
structure CarriesICMP (frame : MPDU) (message : ICMP) : Prop where
  type : frame.SDUType = MPDU_IP_TYPE
  decodes : ∃ packet, IP.generate frame.SDU = some packet ∧ packet.protocol = IP_PROTOCOL_ICMP ∧
    generateICMP packet.SDU = some message

/-- The type of the ICMP message in a frame. -/
def icmpType (frame : MPDU) : Option UInt8 :=
  if frame.SDUType = MPDU_IP_TYPE then frame.icmpMessage.map ICMP.type else none

section Messages

variable {frame : MPDU} {message : ICMP}

theorem CarriesICMP.icmpMessage (h : CarriesICMP frame message) :
    frame.icmpMessage = some message := by
  obtain ⟨packet, hpacket, -, hmessage⟩ := h.decodes
  rw [MPDU.icmpMessage, hpacket, Option.bind_some, hmessage]

theorem CarriesICMP.icmpType (h : CarriesICMP frame message) {kind : UInt8}
    (hkind : message.type = kind) : icmpType frame = some kind := by
  rw [Icmp.icmpType, if_pos h.type, h.icmpMessage, Option.map_some, hkind]

theorem icmpType_of_arp (h : frame.SDUType = MPDU_ARP_TYPE) : icmpType frame = none := by
  have hother : MPDU_ARP_TYPE ≠ MPDU_IP_TYPE := by decide
  rw [icmpType, h, if_neg hother]

/-- A recovered ICMP message, in terms of the decoders. -/
theorem exists_of_recovered {sourceIp destinationIp : UInt32}
    (h : (Message.icmp message).Recovered sourceIp destinationIp frame) :
    ∃ packet, IP.generate frame.SDU = some packet ∧ packet.protocol = IP_PROTOCOL_ICMP ∧
      packet.sourceIp = sourceIp ∧ packet.destinationIp = destinationIp ∧
        generateICMP packet.SDU = some message := by
  obtain ⟨packet, hpacket, hprotocol, hsource, hdestination, hmessage⟩ := h
  obtain ⟨decoded, hdecoded, hsame⟩ := Option.map_eq_some_iff.mp hmessage
  rw [Message.icmp.inj hsame] at hdecoded
  exact ⟨packet, hpacket, hprotocol, hsource, hdestination, hdecoded⟩

/-- An ICMP message is recovered from the frame around a packet made for it. -/
theorem recovered_ofPacket (uninitialised : IP) (sourceIp destinationIp : UInt32)
    (hlength : message.payload.length ≤ 65515) (sourceMac destinationMac : Mac) :
    (Message.icmp message).Recovered sourceIp destinationIp
      (MPDU.ofPacket ((((IP.new uninitialised).setSourceIp sourceIp).setDestinationIp
        destinationIp).encapICMP message) sourceMac destinationMac) := by
  refine (Message.recovered_iff ⟨[], [], 0, []⟩ (IP.new uninitialised) (.icmp message) sourceIp
    destinationIp).mpr ?_
  change 12 + (8 + message.payload.length) ≤ 65535
  omega

theorem carriesICMP_of_recovered {sourceIp destinationIp : UInt32}
    (htype : frame.SDUType = MPDU_IP_TYPE)
    (h : (Message.icmp message).Recovered sourceIp destinationIp frame) :
    CarriesICMP frame message := by
  obtain ⟨packet, hpacket, hprotocol, -, -, hmessage⟩ := exists_of_recovered h
  exact ⟨htype, packet, hpacket, hprotocol, hmessage⟩

theorem CarriesICMP.exists_recovered (h : CarriesICMP frame message) :
    ∃ sourceIp destinationIp, (Message.icmp message).Recovered sourceIp destinationIp frame := by
  obtain ⟨packet, hpacket, hprotocol, hmessage⟩ := h.decodes
  refine ⟨packet.sourceIp, packet.destinationIp, packet, hpacket, hprotocol, rfl, rfl, ?_⟩
  rw [Message.generate, hmessage, Option.map_some]

theorem carriesICMP_ofPacket {packet : IP} (hheader : packet.headerLength = 12)
    (hlength : message.payload.length ≤ 65515) (sourceMac destinationMac : Mac) :
    CarriesICMP (MPDU.ofPacket (packet.encapICMP message) sourceMac destinationMac) message := by
  have hpacket : packet.encapICMP message =
      (((IP.new packet).setSourceIp packet.sourceIp).setDestinationIp
        packet.destinationIp).encapICMP message := by
    simp only [IP.encapICMP, IP.encap, IP.setSourceIp, IP.setDestinationIp, IP.new, hheader]
  have hrecovered : (Message.icmp message).Recovered packet.sourceIp packet.destinationIp
      (MPDU.ofPacket (packet.encapICMP message) sourceMac destinationMac) := by
    rw [hpacket]
    exact recovered_ofPacket packet _ _ hlength sourceMac destinationMac
  exact carriesICMP_of_recovered rfl hrecovered

end Messages

/-! ### What a host answers -/

/-- The frame answers a message that came from the given addresses. -/
structure Answers (host : Arp.HostAddress) (sourceMac : Mac) (sourceIp : UInt32) (message : ICMP)
    (reply : MPDU) : Prop where
  source : reply.sourceMac = host.mac
  destination : reply.destinationMac = sourceMac
  type : reply.SDUType = MPDU_IP_TYPE
  recovered : (Message.icmp { message with type := ICMP_ECHO_REPLY }).Recovered host.ip sourceIp
    reply

section Process

variable {frame : MPDU} {message : ICMP} {sourceIp destinationIp : UInt32}
  (host : Arp.HostAddress) (uninitialised : IP)

/-- A request is answered, and any other message is not. -/
theorem processICMPMessage_of_recovered
    (h : (Message.icmp message).Recovered sourceIp destinationIp frame)
    (hlength : message.payload.length ≤ 65515) :
    ∃ reply, Answers host frame.sourceMac sourceIp message reply ∧
      processICMPMessage host uninitialised frame =
        some (if message.type = ICMP_ECHO_REQUEST then some reply else none) := by
  obtain ⟨packet, hpacket, -, rfl, -, hmessage⟩ := exists_of_recovered h
  let answer : ICMP := { message with type := ICMP_ECHO_REPLY }
  let reply := MPDU.ofPacket ((((IP.new uninitialised).setSourceIp host.ip).setDestinationIp
    packet.sourceIp).encapICMP answer) host.mac frame.sourceMac
  have hpayload : answer.payload.length ≤ 65515 := hlength
  have hanswer : (Message.icmp answer).Recovered host.ip packet.sourceIp reply :=
    recovered_ofPacket uninitialised _ _ hpayload host.mac frame.sourceMac
  refine ⟨reply, ⟨rfl, rfl, rfl, hanswer⟩, ?_⟩
  simp only [processICMPMessage, hpacket, hmessage]
  split_ifs <;> rfl

theorem processICMPMessage_eq (hcarries : CarriesICMP frame message)
    (hlength : message.payload.length ≤ 65515) :
    ∃ reply, CarriesICMP reply { message with type := ICMP_ECHO_REPLY } ∧
      reply.sourceMac = host.mac ∧ reply.destinationMac = frame.sourceMac ∧
        processICMPMessage host uninitialised frame =
          some (if message.type = ICMP_ECHO_REQUEST then some reply else none) := by
  obtain ⟨sourceIp, destinationIp, hrecovered⟩ := hcarries.exists_recovered
  obtain ⟨reply, hanswers, hprocess⟩ :=
    processICMPMessage_of_recovered host uninitialised hrecovered hlength
  exact ⟨reply, carriesICMP_of_recovered hanswers.type hanswers.recovered, hanswers.source,
    hanswers.destination, hprocess⟩

end Process

/-- A request that the stack encoded is answered by one frame, which goes back to where the request
came from with the same message in a reply; a reply that the stack encoded is not answered. -/
theorem processICMPMessage_encoded (host : Arp.HostAddress) (uninitialised uninitialised' : IP)
    (message : ICMP) (sourceIp destinationIp : UInt32) (sourceMac destinationMac : Mac)
    (hlength : message.payload.length ≤ 65515) :
    let frame := MPDU.ofPacket ((((IP.new uninitialised').setSourceIp sourceIp).setDestinationIp
      destinationIp).encapICMP message) sourceMac destinationMac
    (message.type = ICMP_ECHO_REQUEST → ∃ reply,
      processICMPMessage host uninitialised frame = some (some reply) ∧
        reply.sourceMac = host.mac ∧ reply.destinationMac = sourceMac ∧
        reply.SDUType = MPDU_IP_TYPE ∧ ∃ packet, IP.generate reply.SDU = some packet ∧
          packet.protocol = IP_PROTOCOL_ICMP ∧ packet.sourceIp = host.ip ∧
          packet.destinationIp = sourceIp ∧
          generateICMP packet.SDU = some { message with type := ICMP_ECHO_REPLY }) ∧
    (message.type = ICMP_ECHO_REPLY →
      processICMPMessage host uninitialised frame = some none) := by
  intro frame
  have hrecovered : (Message.icmp message).Recovered sourceIp destinationIp frame :=
    recovered_ofPacket uninitialised' sourceIp destinationIp hlength sourceMac destinationMac
  obtain ⟨reply, hanswers, hprocess⟩ :=
    processICMPMessage_of_recovered host uninitialised hrecovered hlength
  constructor
  · intro htype
    rw [if_pos htype] at hprocess
    exact ⟨reply, hprocess, hanswers.source, hanswers.destination, hanswers.type,
      exists_of_recovered hanswers.recovered⟩
  · intro htype
    have hother : message.type ≠ ICMP_ECHO_REQUEST := by
      rw [htype]
      decide
    rw [if_neg hother] at hprocess
    exact hprocess

/-- The longest payload there is. -/
theorem processICMPMessage_encoded_witness :
    65515 ≤ (List.replicate 65515 (0 : UInt8)).length ∧
    ∃ reply, processICMPMessage ⟨createUniformMac 0x22, createIp 192 168 1 2⟩ ⟨0, 0, 0, 0, 0, []⟩
        (MPDU.ofPacket ((((IP.new ⟨0, 0, 0, 0, 0, []⟩).setSourceIp (createIp 192 168 1
          1)).setDestinationIp (createIp 192 168 1 2)).encapICMP
            ⟨ICMP_ECHO_REQUEST, 0, 0, 7, 1, List.replicate 65515 0⟩)
          (createUniformMac 0x11) (createUniformMac 0x22)) = some (some reply) ∧
      reply.sourceMac = createUniformMac 0x22 ∧ reply.destinationMac = createUniformMac 0x11 := by
  refine ⟨List.length_replicate.ge, ?_⟩
  obtain ⟨reply, hprocess, hsource, hdestination, -⟩ :=
    (processICMPMessage_encoded ⟨createUniformMac 0x22, createIp 192 168 1 2⟩ ⟨0, 0, 0, 0, 0, []⟩
      ⟨0, 0, 0, 0, 0, []⟩ ⟨ICMP_ECHO_REQUEST, 0, 0, 7, 1, List.replicate 65515 0⟩
      (createIp 192 168 1 1) (createIp 192 168 1 2) (createUniformMac 0x11) (createUniformMac 0x22)
      List.length_replicate.le).1 rfl
  exact ⟨reply, hprocess, hsource, hdestination⟩

end NetworkSimulation.Icmp
