import NetworkSimulation.Stack.Encapsulation

/-!
DHCP messages. A message is the payload of a UDP segment: the opcode and two addresses. The client
and the server write these nine bytes in the same way, and `generate_DHCP` reads them back.
-/

set_option autoImplicit false
set_option relaxedAutoImplicit false

namespace NetworkSimulation.Dhcp

open Stack Library.WordBytes

def DHCP_NO_ENTRY : UInt8 := 0
def DHCP_DISCOVER : UInt8 := 1
def DHCP_OFFER : UInt8 := 2
def DHCP_REQUEST : UInt8 := 3
def DHCP_ACK : UInt8 := 5
def DHCP_NACK : UInt8 := 6
def BOOTP_SERVER_PORT : UInt16 := 67
def BOOTP_CLIENT_PORT : UInt16 := 68

structure DHCP where
  opcode : UInt8
  clientIp : UInt32
  yourIp : UInt32
  deriving DecidableEq

/-- `generate_DHCP`; `none` if the payload is shorter than the nine bytes it reads. -/
def generateDHCP : List UInt8 → Option DHCP
  | b0 :: b1 :: b2 :: b3 :: b4 :: b5 :: b6 :: b7 :: b8 :: _ =>
    some { opcode := b0, clientIp := word32 b1 b2 b3 b4, yourIp := word32 b5 b6 b7 b8 }
  | _ => none

/-- The bytes that the client and the server push. -/
def DHCP.bytes (message : DHCP) : List UInt8 :=
  [message.opcode] ++ bytes32 message.clientIp ++ bytes32 message.yourIp

/-- The DHCP message of a received frame, decoded layer by layer. -/
def dhcpMessage (frame : MPDU) : Option DHCP := frame.udpSegment.bind fun segment ↦
  generateDHCP segment.payload

def IsDiscover (frame : MPDU) : Prop := (dhcpMessage frame).map DHCP.opcode = some DHCP_DISCOVER

def IsRequest (frame : MPDU) : Prop := (dhcpMessage frame).map DHCP.opcode = some DHCP_REQUEST

instance (frame : MPDU) : Decidable (IsDiscover frame) := inferInstanceAs (Decidable (_ = _))

instance (frame : MPDU) : Decidable (IsRequest frame) := inferInstanceAs (Decidable (_ = _))

theorem isDiscover_iff {frame : MPDU} {message : DHCP} (h : dhcpMessage frame = some message) :
    IsDiscover frame ↔ message.opcode = DHCP_DISCOVER := by
  simp [IsDiscover, h]

theorem isRequest_iff {frame : MPDU} {message : DHCP} (h : dhcpMessage frame = some message) :
    IsRequest frame ↔ message.opcode = DHCP_REQUEST := by
  simp [IsRequest, h]

@[simp] theorem generateDHCP_bytes (message : DHCP) :
    generateDHCP message.bytes = some message := by
  simp [DHCP.bytes, generateDHCP, bytes32]

/-- The decoder adds signed integers and converts the sum to the type of the member; no sum
overflows. -/
theorem generateDHCP_signed (b0 b1 b2 b3 b4 b5 b6 b7 b8 : UInt8) (rest : List UInt8) :
    generateDHCP (b0 :: b1 :: b2 :: b3 :: b4 :: b5 :: b6 :: b7 :: b8 :: rest) =
      some
        { opcode := b0
          clientIp := (signedWord32 b1 b2 b3 b4).toUInt32
          yourIp := (signedWord32 b5 b6 b7 b8).toUInt32 } ∧
    (signedWord32 b1 b2 b3 b4).toInt =
      (promoted b1 <<< 24).toInt + b2.toNat * 65536 + b3.toNat * 256 + b4.toNat ∧
    (signedWord32 b5 b6 b7 b8).toInt =
      (promoted b5 <<< 24).toInt + b6.toNat * 65536 + b7.toNat * 256 + b8.toNat :=
  ⟨rfl, toInt_signedWord32 b1 b2 b3 b4, toInt_signedWord32 b5 b6 b7 b8⟩

@[simp] theorem DHCP.length_bytes (message : DHCP) : message.bytes.length = 9 := by
  simp [DHCP.bytes]

/-- A message comes out of a frame as it went in, whatever the header length of the packet is. -/
theorem udpSegment_of_dhcp {packet : IP} {segment : UDP} {message : DHCP}
    (hcarries : packet.Carries segment.bytes) (hpayload : segment.payload = message.bytes)
    (sourceMac destinationMac : Mac) :
    (MPDU.ofPacket packet sourceMac destinationMac).udpSegment = some segment := by
  refine udpSegment_ofPacket hcarries ?_ sourceMac destinationMac
  have hheader := packet.headerLength.toNat_lt
  rw [hpayload, DHCP.length_bytes, UDP_HEADER_SIZE]
  omega

theorem dhcpMessage_ofPacket {packet : IP} {segment : UDP} {message : DHCP}
    (hcarries : packet.Carries segment.bytes) (hpayload : segment.payload = message.bytes)
    (sourceMac destinationMac : Mac) :
    dhcpMessage (MPDU.ofPacket packet sourceMac destinationMac) = some message := by
  rw [dhcpMessage, udpSegment_of_dhcp hcarries hpayload, Option.bind_some, hpayload,
    generateDHCP_bytes]

/-- A frame with a message decodes layer by layer. -/
theorem exists_of_dhcpMessage {frame : MPDU} {message : DHCP}
    (h : dhcpMessage frame = some message) :
    ∃ packet segment, IP.generate frame.SDU = some packet ∧ generateUDP packet.SDU = some segment ∧
      generateDHCP segment.payload = some message := by
  obtain ⟨segment, hsegment, hmessage⟩ := Option.bind_eq_some_iff.mp h
  obtain ⟨packet, hpacket, hdata⟩ := Option.bind_eq_some_iff.mp hsegment
  exact ⟨packet, segment, hpacket, hdata, hmessage⟩

end NetworkSimulation.Dhcp
