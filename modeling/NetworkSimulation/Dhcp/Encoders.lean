import NetworkSimulation.Dhcp.Client
import NetworkSimulation.Dhcp.Server

/-!
# Four encoders of one message, and the encoder of ARP

The nine bytes of a DHCP message are pushed by code that is written out four times: for the DISCOVER
and the REQUEST of the client, for the OFFER and for the ACK or NACK of the server. The four differ
in the ports they set and in whether they clear the payload first. One decoder reads them all
(`dhcpMessage_write`), and every frame of the two parties is made by one of them
(`discover_eq_write`, `request_eq_write`, `exists_write_of_process`).
-/

set_option autoImplicit false
set_option relaxedAutoImplicit false

namespace NetworkSimulation.Dhcp

open Stack Library.WordBytes

/-- The loop that pushes the bytes of an address. -/
def pushAddress (payload : List UInt8) (address : UInt32) : List UInt8 :=
  [3, 2, 1, 0].foldl (fun payload i ↦ payload ++ [byte32 address i]) payload

/-- The opcode is pushed, then one address after the other. -/
def pushMessage (payload : List UInt8) (message : DHCP) : List UInt8 :=
  pushAddress (pushAddress (payload ++ [message.opcode]) message.clientIp) message.yourIp

/-- Where a message is encoded. -/
inductive Encoder
  | discover
  | request
  | offer
  | answer
  deriving DecidableEq

/-- The segment after the encoder. -/
def Encoder.write : Encoder → UDP → DHCP → UDP
  | .discover, segment, message =>
    -- the payload of the new segment is empty
    { segment with
      sourcePort := BOOTP_CLIENT_PORT
      destinationPort := BOOTP_SERVER_PORT
      payload := pushMessage [] message }
  | .request, segment, message => { segment with payload := pushMessage [] message }
  | .offer, segment, message =>
    { segment with
      sourcePort := BOOTP_SERVER_PORT
      destinationPort := BOOTP_CLIENT_PORT
      payload := pushMessage [] message }
  | .answer, segment, message =>
    { segment with
      sourcePort := BOOTP_SERVER_PORT
      destinationPort := BOOTP_CLIENT_PORT
      payload := pushMessage [] message }

@[simp] theorem pushMessage_eq (payload : List UInt8) (message : DHCP) :
    pushMessage payload message = payload ++ message.bytes := by
  simp [pushMessage, pushAddress, DHCP.bytes, bytes32]

theorem Encoder.payload_write (encoder : Encoder) (segment : UDP) (message : DHCP) :
    (encoder.write segment message).payload = message.bytes := by
  cases encoder <;> simp [write]

/-! ### The frames of the two parties -/

section Parties

variable (mac : Mac) (client : Client)

theorem discover_eq_write : (client.discover mac).2 =
    [MPDU.ofPacket ((((IP.new client.txPacket).setSourceIp (createIp 0 0 0 0)).setDestinationIp
      createBroadcastIp).encapUDP (Encoder.discover.write client.txSegment
        { client.txMessage with opcode := DHCP_DISCOVER, clientIp := createIp 0 0 0 0 }))
      mac createBroadcastMac] := rfl

theorem request_eq_write (rxMessage : DHCP) : (client.request mac rxMessage).2 =
    [MPDU.ofPacket (client.txPacket.encapUDP (Encoder.request.write client.txSegment
      ⟨DHCP_REQUEST, rxMessage.yourIp, rxMessage.yourIp⟩)) mac createBroadcastMac] := rfl

/-- Whatever the server transmits was written by one of its two encoders. -/
theorem exists_write_of_process {server : DHCPServer} {table table' : Table}
    {uninitialised : UInt32} {rxFrame : MPDU} {frames : List MPDU}
    (h : server.process table uninitialised rxFrame = some (table', frames)) :
    ∀ frame ∈ frames, ∃ encoder, (encoder = Encoder.offer ∨ encoder = Encoder.answer) ∧
      ∃ (packet : IP) (segment : UDP) (message : DHCP) (destinationMac : Mac), frame =
        MPDU.ofPacket (packet.encapUDP (encoder.write segment message)) server.gwMac
          destinationMac := by
  obtain ⟨rxMessage, hmessage⟩ := DHCPServer.exists_of_process h
  obtain ⟨packet, segment, hpacket, hsegment, hdhcp⟩ := exists_of_dhcpMessage hmessage
  simp only [DHCPServer.process, hpacket, hsegment, hdhcp] at h
  intro frame hframe
  by_cases hdiscover : rxMessage.opcode = DHCP_DISCOVER
  · rw [if_pos hdiscover] at h
    obtain ⟨-, rfl⟩ := Prod.mk.inj (Option.some.inj h)
    rw [List.mem_singleton.mp hframe]
    exact ⟨.offer, .inl rfl, _, _, _, _, rfl⟩
  by_cases hrequest : rxMessage.opcode = DHCP_REQUEST
  · rw [if_neg hdiscover, if_pos hrequest] at h
    obtain ⟨-, rfl⟩ := Prod.mk.inj (Option.some.inj h)
    rw [List.mem_singleton.mp hframe]
    exact ⟨.answer, .inr rfl, _, _, _, _, rfl⟩
  · rw [if_neg hdiscover, if_neg hrequest] at h
    obtain ⟨-, rfl⟩ := Prod.mk.inj (Option.some.inj h)
    cases hframe

end Parties

/-! ### Reading the messages back -/

/-- A message comes out of the packet and the frame around what an encoder wrote. -/
theorem dhcpMessage_write (encoder : Encoder) (segment : UDP) (message : DHCP) (packet : IP)
    (sourceMac destinationMac : Mac) :
    dhcpMessage (MPDU.ofPacket (packet.encapUDP (encoder.write segment message)) sourceMac
      destinationMac) = some message :=
  dhcpMessage_ofPacket (IP.carries_encap packet _ _) (encoder.payload_write segment message)
    sourceMac destinationMac

/-- The codecs of ARP and of DHCP lose nothing: ARP in both directions, DHCP from each of its
encoders, from the payload itself and from the frame it is sent in. -/
theorem codecs_exact :
    (∀ (frame : MPDU) (message : ARP), message.senderMac.length = 6 →
      message.targetMac.length = 6 → generateARP (frame.encapARP message).SDU = some message) ∧
    (∀ bytes : List UInt8, bytes.length = 22 → ∃ message, generateARP bytes = some message ∧
      ∀ frame : MPDU, (frame.encapARP message).SDU = bytes) ∧
    ∀ (encoder : Encoder) (segment : UDP) (message : DHCP),
      (encoder.write segment message).payload.length = 9 ∧
      generateDHCP (encoder.write segment message).payload = some message ∧
      ∀ (packet : IP) (sourceMac destinationMac : Mac),
        dhcpMessage (MPDU.ofPacket (packet.encapUDP (encoder.write segment message)) sourceMac
          destinationMac) = some message := by
  refine ⟨fun frame message hsender htarget ↦ generateARP_bytes hsender htarget,
    fun bytes ↦ exists_generateARP, fun encoder segment message ↦ ⟨?_, ?_, ?_⟩⟩
  · rw [encoder.payload_write, DHCP.length_bytes]
  · rw [encoder.payload_write, generateDHCP_bytes]
  · exact dhcpMessage_write encoder segment message

/-- A reply between two uniform addresses, and its 22 bytes. -/
theorem codecs_exact_witness :
    generateARP ((⟨[], [], 0, []⟩ : MPDU).encapARP ⟨ARP_REPLY, createUniformMac 0x11,
      createIp 192 168 1 1, createUniformMac 0x22, createIp 192 168 1 2⟩).SDU =
        some ⟨ARP_REPLY, createUniformMac 0x11, createIp 192 168 1 1, createUniformMac 0x22,
          createIp 192 168 1 2⟩ ∧
    ∃ message, generateARP (List.replicate 22 0xC0) = some message ∧
      ∀ frame : MPDU, (frame.encapARP message).SDU = List.replicate 22 0xC0 :=
  ⟨codecs_exact.1 _ _ rfl rfl, codecs_exact.2.1 _ rfl⟩

end NetworkSimulation.Dhcp
