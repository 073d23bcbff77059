import NetworkSimulation.Stack.Pdu

/-!
# Messages through the two layers below them

A message is encapsulated in an IP packet and the packet in a frame; a receiver decodes the frame's
data as a packet and the packet's data as a message. Two lengths are computed on the way, both in
16 bits: `IP::encap_SDU` sets the total length to the header length plus the size of the data, and
`MPDU::encap_SDU` copies as many bytes of data as `get_SDU_length` says. The decoder takes the data
from offset 12 and computes their size as the difference of the two declared lengths.

While header length and data fit in 65535 the packet comes back as it was
(`generate_encapIP`), whatever its header length is. Beyond that either the declared difference is
negative or fewer bytes were copied than the message has (`length_lt_of_generate_encapIP`), and no
decoder recovers the message. `recovered_iff` is the exact boundary for the three kinds of message.
-/

set_option autoImplicit false
set_option relaxedAutoImplicit false

namespace NetworkSimulation.Stack

open Library.WordBytes

/-! ### A packet in a frame -/

/-- The data a receiver sees when it decodes a frame built around a packet. -/
theorem generate_encapIP_eq (frame : MPDU) (packet : IP) :
    IP.generate (frame.encapIP packet).SDU =
      if packet.totalLength.toNat < packet.headerLength.toNat then none
      else if packet.getSDULength.toNat < packet.totalLength.toNat - packet.headerLength.toNat then
        none
      else some { packet with
        SDU := packet.SDU.take (packet.totalLength.toNat - packet.headerLength.toNat) } := by
  have hcopied : (packet.SDU.take packet.getSDULength.toNat).length =
      packet.getSDULength.toNat := by
    rw [List.length_take, IP.getSDULength, UInt16.toNat_ofNat']
    exact min_eq_left (Nat.mod_le _ _)
  simp only [MPDU.encapIP, bytes16, bytes32, List.map_cons, List.map_nil, List.cons_append,
    List.nil_append, IP.generate, word16_byte16, createIp_eq_word32, word32_byte32, hcopied]
  split_ifs with hnegative hshort
  · rfl
  · rfl
  · rw [List.take_take, min_eq_left (Nat.le_of_not_lt hshort)]

/-- A packet whose data and total length are those some `encap_SDU` wrote. -/
structure IP.Carries (packet : IP) (bytes : List UInt8) : Prop where
  data : packet.SDU = bytes
  totalLength : packet.totalLength = UInt16.ofNat (packet.headerLength.toNat + bytes.length)

theorem IP.carries_encap (packet : IP) (protocol : UInt8) (bytes : List UInt8) :
    (packet.encap protocol bytes).Carries bytes := ⟨rfl, rfl⟩

theorem IP.carries_encapTCP (packet : IP) (segment : TCP) :
    (packet.encapTCP segment).Carries segment.bytes := IP.carries_encap packet _ _

/-- The addresses are not part of what a packet carries. -/
theorem IP.Carries.addressed {packet : IP} {bytes : List UInt8} (h : packet.Carries bytes)
    (sourceIp destinationIp : UInt32) :
    ((packet.setSourceIp sourceIp).setDestinationIp destinationIp).Carries bytes :=
  ⟨h.data, h.totalLength⟩

section Packet

variable {frame : MPDU} {packet : IP} {bytes : List UInt8}

/-- A packet is decoded where its header length and the 16-bit size of its data fit in 16 bits, with
that many bytes of data. -/
theorem generate_encapIP_eq_ite (hcarries : packet.Carries bytes) :
    IP.generate (frame.encapIP packet).SDU =
      if packet.headerLength.toNat + bytes.length % 65536 ≤ 65535 then
        some { packet with SDU := bytes.take (bytes.length % 65536) }
      else none := by
  have htotal : packet.totalLength.toNat = (packet.headerLength.toNat + bytes.length) % 65536 := by
    rw [hcarries.totalLength, UInt16.toNat_ofNat']
  have hcopied : packet.getSDULength.toNat = bytes.length % 65536 := by
    rw [IP.getSDULength, hcarries.data, UInt16.toNat_ofNat']
  have hheader := packet.headerLength.toNat_lt
  rw [generate_encapIP_eq, htotal, hcopied, hcarries.data]
  by_cases hfits : packet.headerLength.toNat + bytes.length % 65536 ≤ 65535
  · have hdata : (packet.headerLength.toNat + bytes.length) % 65536 - packet.headerLength.toNat =
        bytes.length % 65536 := by omega
    rw [if_pos hfits, hdata, if_neg (by omega), if_neg (lt_irrefl _)]
  · rw [if_neg hfits, if_pos (by omega)]

/-- A packet whose header length and data fit in 16 bits is decoded to itself. -/
theorem generate_encapIP (hcarries : packet.Carries bytes)
    (h : packet.headerLength.toNat + bytes.length ≤ 65535) :
    IP.generate (frame.encapIP packet).SDU = some packet := by
  have hlength : bytes.length % 65536 = bytes.length := Nat.mod_eq_of_lt (by omega)
  rw [generate_encapIP_eq_ite hcarries, hlength, if_pos h, List.take_length, ← hcarries.data]

/-- Beyond the boundary, a packet that is decoded at all has lost data. -/
theorem length_lt_of_generate_encapIP (hcarries : packet.Carries bytes)
    (h : 65535 < packet.headerLength.toNat + bytes.length) {received : IP}
    (hreceived : IP.generate (frame.encapIP packet).SDU = some received) :
    received.SDU.length < bytes.length := by
  rw [generate_encapIP_eq_ite hcarries] at hreceived
  split_ifs at hreceived with hfits
  obtain rfl := Option.some.inj hreceived
  have htaken := List.length_take_le (bytes.length % 65536) bytes
  change (bytes.take _).length < bytes.length
  omega

end Packet

/-! ### Messages -/

/-- The messages `IP::encap_SDU` has an overload for. -/
inductive Message
  | icmp (message : ICMP)
  | tcp (segment : TCP)
  | udp (segment : UDP)
  deriving DecidableEq

namespace Message

def protocol : Message → UInt8
  | icmp _ => IP_PROTOCOL_ICMP
  | tcp _ => IP_PROTOCOL_TCP
  | udp _ => IP_PROTOCOL_UDP

/-- The overload of `IP::encap_SDU` for the message. -/
def encapIn (packet : IP) : Message → IP
  | icmp message => packet.encapICMP message
  | tcp segment => packet.encapTCP segment
  | udp segment => packet.encapUDP segment

/-- The decoder for messages of the same kind. -/
def generate : Message → List UInt8 → Option Message
  | icmp _, bytes => (generateICMP bytes).map icmp
  | tcp _, bytes => (generateTCP bytes).map tcp
  | udp _, bytes => (generateUDP bytes).map udp

def bytes : Message → List UInt8
  | icmp message => message.bytes
  | tcp segment => segment.bytes
  | udp segment => segment.bytes

/-- The number of bytes of the encoding: the header of the kind and the payload. -/
def encodedLength : Message → ℕ
  | icmp message => ICMP_HEADER_SIZE + message.payload.length
  | tcp segment => TCP_HEADER_SIZE + segment.payload.length
  | udp segment => UDP_HEADER_SIZE + segment.payload.length

theorem length_bytes (message : Message) : message.bytes.length = message.encodedLength := by
  cases message with
  | icmp message => exact message.length_bytes
  | tcp segment => exact segment.length_bytes
  | udp segment => exact segment.length_bytes

theorem generate_bytes (message : Message) : message.generate message.bytes = some message := by
  cases message <;> simp [generate, bytes]

theorem bytes_of_generate {message : Message} {received : List UInt8}
    (h : message.generate received = some message) : message.bytes = received := by
  cases message with
  | icmp message =>
    simp only [generate, Option.map_eq_some_iff, icmp.injEq] at h
    obtain ⟨_, hdecoded, rfl⟩ := h
    exact bytes_of_generateICMP hdecoded
  | tcp segment =>
    simp only [generate, Option.map_eq_some_iff, tcp.injEq] at h
    obtain ⟨_, hdecoded, rfl⟩ := h
    exact bytes_of_generateTCP hdecoded
  | udp segment =>
    simp only [generate, Option.map_eq_some_iff, udp.injEq] at h
    obtain ⟨_, hdecoded, rfl⟩ := h
    exact bytes_of_generateUDP hdecoded

/-- A receiver recovers the message from a frame: the protocol number of its kind, both addresses
and the message with every field and payload byte. -/
def Recovered (message : Message) (sourceIp destinationIp : UInt32) (frame : MPDU) : Prop :=
  ∃ packet, IP.generate frame.SDU = some packet ∧ packet.protocol = message.protocol ∧
    packet.sourceIp = sourceIp ∧ packet.destinationIp = destinationIp ∧
      message.generate packet.SDU = some message

theorem carries_encapIn (packet : IP) (message : Message) :
    (message.encapIn packet).Carries message.bytes := by
  cases message with
  | icmp message => exact IP.carries_encap packet _ _
  | tcp segment => exact IP.carries_encap packet _ _
  | udp segment => exact IP.carries_encap packet _ _

theorem protocol_encapIn (packet : IP) (message : Message) :
    (message.encapIn packet).protocol = message.protocol := by
  cases message with
  | icmp message => rfl
  | tcp segment => rfl
  | udp segment => rfl

theorem headerLength_encapIn (packet : IP) (message : Message) :
    (message.encapIn packet).headerLength = packet.headerLength := by
  cases message with
  | icmp message => rfl
  | tcp segment => rfl
  | udp segment => rfl

/-- Whatever IP object a message is encapsulated in, it is recovered from the frame exactly when
header length and encoding fit in 65535 bytes. -/
theorem recovered_iff (frame : MPDU) (packet : IP) (message : Message)
    (sourceIp destinationIp : UInt32) :
    message.Recovered sourceIp destinationIp
        (frame.encapIP
          (((message.encapIn packet).setSourceIp sourceIp).setDestinationIp destinationIp)) ↔
      packet.headerLength.toNat + message.encodedLength ≤ 65535 := by
  let addressed := ((message.encapIn packet).setSourceIp sourceIp).setDestinationIp destinationIp
  have hcarries : addressed.Carries message.bytes :=
    (message.carries_encapIn packet).addressed sourceIp destinationIp
  have hheader : addressed.headerLength = packet.headerLength := message.headerLength_encapIn packet
  have hprotocol : addressed.protocol = message.protocol := message.protocol_encapIn packet
  rw [← length_bytes, ← hheader]
  constructor
  · rintro ⟨received, hreceived, -, -, -, hmessage⟩
    by_contra hbeyond
    have hlost := length_lt_of_generate_encapIP hcarries (not_le.mp hbeyond) hreceived
    rw [bytes_of_generate hmessage] at hlost
    exact lt_irrefl _ hlost
  · intro hfits
    refine ⟨addressed, generate_encapIP hcarries hfits, hprotocol, rfl, rfl, ?_⟩
    rw [hcarries.data, generate_bytes]

end Message

/-! ### Frames of the senders -/

/-- A TCP segment comes out of the frame around its packet as it went in. -/
theorem tcpSegment_ofPacket {packet : IP} {segment : TCP} (hcarries : packet.Carries segment.bytes)
    (h : packet.headerLength.toNat + (TCP_HEADER_SIZE + segment.payload.length) ≤ 65535)
    (sourceMac destinationMac : Mac) :
    (MPDU.ofPacket packet sourceMac destinationMac).tcpSegment = some segment := by
  rw [← TCP.length_bytes] at h
  change (IP.generate (MPDU.encapIP ⟨[], [], 0, []⟩ packet).SDU).bind _ = _
  rw [generate_encapIP hcarries h, Option.bind_some, hcarries.data, generateTCP_bytes]

/-- A UDP segment comes out of the frame around its packet as it went in. -/
theorem udpSegment_ofPacket {packet : IP} {segment : UDP} (hcarries : packet.Carries segment.bytes)
    (h : packet.headerLength.toNat + (UDP_HEADER_SIZE + segment.payload.length) ≤ 65535)
    (sourceMac destinationMac : Mac) :
    (MPDU.ofPacket packet sourceMac destinationMac).udpSegment = some segment := by
  rw [← UDP.length_bytes] at h
  change (IP.generate (MPDU.encapIP ⟨[], [], 0, []⟩ packet).SDU).bind _ = _
  rw [generate_encapIP hcarries h, Option.bind_some, hcarries.data, generateUDP_bytes]

end NetworkSimulation.Stack
