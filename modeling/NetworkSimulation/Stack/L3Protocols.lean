import NetworkSimulation.Stack.L4Protocols

/-!
The network layer: ICMP messages and IP packets. The three overloads of `IP::encap_SDU` write the
members of a message byte by byte and recompute the total length; `generate_IP` reads a packet back
from bytes.

`generate_IP` has no result (`none`) in three cases: the vector is shorter than the twelve bytes
of the header, the declared total length is below the declared header length (`reserve` is then
asked for a negative size and throws), or the vector ends before the declared data does.
-/

set_option autoImplicit false
set_option relaxedAutoImplicit false

namespace NetworkSimulation.Stack

open Library.WordBytes

def IP_PROTOCOL_ICMP : UInt8 := 0x01
def IP_PROTOCOL_TCP : UInt8 := 0x06
def IP_PROTOCOL_UDP : UInt8 := 0x11
def IP_HEADER_SIZE : ℕ := 12
def ICMP_HEADER_SIZE : ℕ := 8

structure ICMP where
  type : UInt8
  code : UInt8
  checksum : UInt16
  identifier : UInt16
  sequenceNumber : UInt16
  payload : List UInt8
  deriving DecidableEq

structure IP where
  headerLength : UInt8
  totalLength : UInt16
  protocol : UInt8
  sourceIp : UInt32
  destinationIp : UInt32
  SDU : List UInt8
  deriving DecidableEq

def generateICMP : List UInt8 → Option ICMP
  | b0 :: b1 :: b2 :: b3 :: b4 :: b5 :: b6 :: b7 :: payload =>
    some
      { type := b0
        code := b1
        checksum := maskedWord16 b2 b3
        identifier := maskedWord16 b4 b5
        sequenceNumber := maskedWord16 b6 b7
        payload }
  | _ => none

namespace IP

/-- The default constructor: it sets the header length and leaves the rest uninitialised. -/
def new (uninitialised : IP) : IP := { uninitialised with headerLength := 12, SDU := [] }

/-- The constructor from bytes, which is all of `generate_IP`. -/
def generate : List UInt8 → Option IP
  | b0 :: b1 :: b2 :: b3 :: b4 :: b5 :: b6 :: b7 :: b8 :: b9 :: b10 :: b11 :: rest =>
    let totalLength := word16 b1 b2
    if totalLength.toNat < b0.toNat then none
    else if rest.length < totalLength.toNat - b0.toNat then none
    else
      some
        { headerLength := b0
          totalLength
          protocol := b3
          sourceIp := createIp b4 b5 b6 b7
          destinationIp := createIp b8 b9 b10 b11
          SDU := rest.take (totalLength.toNat - b0.toNat) }
  | _ => none

/-- What the overloads of `encap_SDU` share: the protocol and the bytes written are the only
differences between them. The total length is a 16-bit member. -/
def encap (packet : IP) (protocol : UInt8) (bytes : List UInt8) : IP :=
  { packet with
    protocol
    SDU := bytes
    totalLength := UInt16.ofNat (packet.headerLength.toNat + bytes.length) }

def setSourceIp (packet : IP) (sourceIp : UInt32) : IP := { packet with sourceIp }

def setDestinationIp (packet : IP) (destinationIp : UInt32) : IP := { packet with destinationIp }

/-- `get_SDU_length`: the size of the vector as a 16-bit word. -/
def getSDULength (packet : IP) : UInt16 := UInt16.ofNat packet.SDU.length

end IP

/-! ### The bytes of a message -/

def ICMP.bytes (message : ICMP) : List UInt8 :=
  [message.type, message.code] ++ bytes16 message.checksum ++ bytes16 message.identifier ++
    bytes16 message.sequenceNumber ++ message.payload

def TCP.bytes (segment : TCP) : List UInt8 :=
  bytes16 segment.sourcePort ++ bytes16 segment.destinationPort ++
    bytes32 segment.sequenceNumber ++ bytes32 segment.ackNumber ++ bytes16 segment.details ++
    bytes16 segment.receiveWindow ++ bytes16 segment.checksum ++ segment.payload

def UDP.bytes (segment : UDP) : List UInt8 :=
  bytes16 segment.sourcePort ++ bytes16 segment.destinationPort ++ bytes16 segment.length ++
    bytes16 segment.checksum ++ segment.payload

def IP.encapICMP (packet : IP) (message : ICMP) : IP := packet.encap IP_PROTOCOL_ICMP message.bytes

def IP.encapTCP (packet : IP) (segment : TCP) : IP := packet.encap IP_PROTOCOL_TCP segment.bytes

def IP.encapUDP (packet : IP) (segment : UDP) : IP := packet.encap IP_PROTOCOL_UDP segment.bytes

@[simp] theorem IP.headerLength_encapTCP (packet : IP) (segment : TCP) :
    (packet.encapTCP segment).headerLength = packet.headerLength := rfl

@[simp] theorem IP.headerLength_encapUDP (packet : IP) (segment : UDP) :
    (packet.encapUDP segment).headerLength = packet.headerLength := rfl

@[simp] theorem IP.headerLength_addressed (packet : IP) (sourceIp destinationIp : UInt32) :
    ((packet.setSourceIp sourceIp).setDestinationIp destinationIp).headerLength =
      packet.headerLength := rfl

@[simp] theorem ICMP.length_bytes (message : ICMP) :
    message.bytes.length = ICMP_HEADER_SIZE + message.payload.length := by
  simp only [ICMP.bytes, List.length_append, List.length_cons, List.length_nil, length_bytes16,
    ICMP_HEADER_SIZE]

@[simp] theorem TCP.length_bytes (segment : TCP) :
    segment.bytes.length = TCP_HEADER_SIZE + segment.payload.length := by
  simp only [TCP.bytes, List.length_append, length_bytes16, length_bytes32, TCP_HEADER_SIZE]

@[simp] theorem UDP.length_bytes (segment : UDP) :
    segment.bytes.length = UDP_HEADER_SIZE + segment.payload.length := by
  simp only [UDP.bytes, List.length_append, length_bytes16, UDP_HEADER_SIZE]

/-! ### A decoder reads back the bytes of its message -/

@[simp] theorem generateICMP_bytes (message : ICMP) :
    generateICMP message.bytes = some message := by
  simp [ICMP.bytes, generateICMP, bytes16]

@[simp] theorem generateTCP_bytes (segment : TCP) : generateTCP segment.bytes = some segment := by
  simp [TCP.bytes, generateTCP, bytes16, bytes32]

@[simp] theorem generateUDP_bytes (segment : UDP) : generateUDP segment.bytes = some segment := by
  simp [UDP.bytes, generateUDP, bytes16]

/-! ### The bytes a decoder read are those of its message -/

theorem bytes_of_generateICMP {bytes : List UInt8} {message : ICMP}
    (h : generateICMP bytes = some message) : message.bytes = bytes := by
  unfold generateICMP at h
  split at h
  · obtain rfl := Option.some.inj h
    simp [ICMP.bytes]
  · cases h

theorem bytes_of_generateTCP {bytes : List UInt8} {segment : TCP}
    (h : generateTCP bytes = some segment) : segment.bytes = bytes := by
  unfold generateTCP at h
  split at h
  · obtain rfl := Option.some.inj h
    simp [TCP.bytes]
  · cases h

theorem bytes_of_generateUDP {bytes : List UInt8} {segment : UDP}
    (h : generateUDP bytes = some segment) : segment.bytes = bytes := by
  unfold generateUDP at h
  split at h
  · obtain rfl := Option.some.inj h
    simp [UDP.bytes]
  · cases h

end NetworkSimulation.Stack
