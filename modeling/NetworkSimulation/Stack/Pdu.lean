import NetworkSimulation.Stack.L3Protocols

/-!
The frames that move around the network. A frame carries two addresses, the type of what it holds
and that as a vector of bytes.
-/

set_option autoImplicit false
set_option relaxedAutoImplicit false

namespace NetworkSimulation.Stack

open Library.WordBytes

def MPDU_IP_TYPE : UInt16 := 0x0800
def MPDU_HEADER_SIZE : ℕ := 12

/-- The largest frame a host is meant to send. -/
def MTU : ℕ := 1500

structure MPDU where
  sourceMac : Mac
  destinationMac : Mac
  SDUType : UInt16
  SDU : List UInt8
  deriving DecidableEq

namespace MPDU

def getSize (frame : MPDU) : ℕ := MPDU_HEADER_SIZE + frame.SDU.length

/-- `MPDU::encap_SDU(IP)`. The data of the packet are copied up to the 16-bit `get_SDU_length`. -/
def encapIP (frame : MPDU) (packet : IP) : MPDU :=
  { frame with
    SDUType := MPDU_IP_TYPE
    SDU :=
      [packet.headerLength] ++ bytes16 packet.totalLength ++ [packet.protocol] ++
        bytes32 packet.sourceIp ++ bytes32 packet.destinationIp ++
        packet.SDU.take packet.getSDULength.toNat }

/-- A new frame around a packet, with its addresses, as every sender of IP packets builds it. -/
def ofPacket (packet : IP) (sourceMac destinationMac : Mac) : MPDU :=
  { (encapIP ⟨[], [], 0, []⟩ packet) with sourceMac, destinationMac }

/-- The ICMP message of a received frame: `generate_IP` on its data, then `generate_ICMP`. -/
def icmpMessage (frame : MPDU) : Option ICMP := (IP.generate frame.SDU).bind fun packet ↦
  generateICMP packet.SDU

/-- The TCP segment of a received frame: `generate_IP` on its data, then `generate_TCP`. -/
def tcpSegment (frame : MPDU) : Option TCP := (IP.generate frame.SDU).bind fun packet ↦
  generateTCP packet.SDU

/-- The UDP segment of a received frame. -/
def udpSegment (frame : MPDU) : Option UDP := (IP.generate frame.SDU).bind fun packet ↦
  generateUDP packet.SDU

end MPDU

end NetworkSimulation.Stack
