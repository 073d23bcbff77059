import NetworkSimulation.Dhcp.Messages
import NetworkSimulation.Icmp.Ping

/-!
# What the monitor shows of a frame

`get_frame_details` does not use the decoders: it reads the bytes of a frame at fixed offsets and
puts its own numbers together, with bytes promoted to signed integers. First come the numbers
(`frameDetails`), then the text made of them (`getFrameDetails`).
-/

set_option autoImplicit false
set_option relaxedAutoImplicit false

namespace NetworkSimulation.Monitor

open Stack Dhcp Icmp Library.WordBytes

/-! ### Numbers -/

/-- What follows the addresses of an IP packet. -/
inductive Transport
  | icmp (type : UInt8) (id seq : ℕ)
  | tcp (sourcePort destinationPort : ℕ) (sequenceNumber ackNumber : UInt32)
  | dhcp (opcode : UInt8)
  | udp (sourcePort destinationPort : ℕ)
  | other
  deriving DecidableEq

/-- What is shown of a frame. An ARP message is shown by the bytes of its addresses. -/
inductive Details
  | arpRequest (targetIp senderIp : List UInt8)
  | arpReply (senderIp senderMac : List UInt8)
  | arpOther
  | packet (sourceIp destinationIp : UInt32) (transport : Transport)
  | other
  deriving DecidableEq

/-- `(high << 8) + low` in signed integers. -/
def promotedWord16 (high low : UInt8) : ℕ := (high.toNat <<< 8) + low.toNat

/-- `(high < 8) + low`: the result of the comparison is promoted, too. -/
def comparedWord16 (high low : UInt8) : ℕ := (if high < 8 then 1 else 0) + low.toNat

section Reads

variable (payload : List UInt8) (i : ℕ)

/-- The bytes of an address inside an ARP message. -/
def bytesAt (count : ℕ) : Option (List UInt8) :=
  if i + count ≤ payload.length then some ((payload.drop i).take count) else none

def addressAt : Option UInt32 := do
  some (signedWord32 (← payload[i]?) (← payload[i + 1]?) (← payload[i + 2]?)
    (← payload[i + 3]?)).toUInt32

def portAt : Option ℕ := do some (promotedWord16 (← payload[i]?) (← payload[i + 1]?))

/-- The bytes of a sequence number are converted to unsigned words before they are shifted. -/
def numberAt : Option UInt32 := do
  some (word32 (← payload[i]?) (← payload[i + 1]?) (← payload[i + 2]?) (← payload[i + 3]?))

def comparedAt : Option ℕ := do some (comparedWord16 (← payload[i]?) (← payload[i + 1]?))

end Reads

/-- The branches of the switch on the protocol; `none` if the payload is too short for one. -/
def transportDetails (payload : List UInt8) (protocol : UInt8) : Option Transport :=
  if protocol = IP_PROTOCOL_ICMP then do
    some (.icmp (← payload[IP_HEADER_SIZE]?) (← comparedAt payload (IP_HEADER_SIZE + 4))
      (← comparedAt payload (IP_HEADER_SIZE + 6)))
  else if protocol = IP_PROTOCOL_TCP then do
    some (.tcp (← portAt payload IP_HEADER_SIZE) (← portAt payload (IP_HEADER_SIZE + 2))
      (← numberAt payload (IP_HEADER_SIZE + 4)) (← numberAt payload (IP_HEADER_SIZE + 8)))
  else if protocol = IP_PROTOCOL_UDP then do
    let sourcePort ← portAt payload IP_HEADER_SIZE
    if sourcePort = BOOTP_CLIENT_PORT.toNat ∨ sourcePort = BOOTP_SERVER_PORT.toNat then
      some (.dhcp (← payload[IP_HEADER_SIZE + UDP_HEADER_SIZE]?))
    else some (.udp sourcePort (← portAt payload (IP_HEADER_SIZE + 2)))
  else some .other

/-- The branches of the switch on the type of the frame. The opcode of ARP is the second of its two
bytes. -/
def frameDetails (frame : MPDU) : Option Details :=
  let payload := frame.SDU
  if frame.SDUType = MPDU_ARP_TYPE then do
    let opcode ← payload[1]?
    if opcode.toUInt16 = ARP_REQUEST then
      some (.arpRequest (← bytesAt payload 18 4) (← bytesAt payload 8 4))
    else if opcode.toUInt16 = ARP_REPLY then
      some (.arpReply (← bytesAt payload 8 4) (← bytesAt payload 2 6))
    else some .arpOther
  else if frame.SDUType = MPDU_IP_TYPE then do
    some (.packet (← addressAt payload 4) (← addressAt payload 8)
      (← transportDetails payload (← payload[3]?)))
  else some .other

/-! ### Text -/

/-- A byte in hexadecimal, upper case, with a zero in front where it has one digit. -/
def hexByte (byte : UInt8) : String :=
  (if byte < 16 then "0" else "") ++
    String.ofList ((Nat.toDigits 16 byte.toNat).map Char.toUpper)

/-- `mac_to_string` -/
def macToString (mac : List UInt8) : String := ":".intercalate ((mac.take 6).map hexByte)

/-- `ip_to_string` on bytes -/
def bytesToString (bytes : List UInt8) : String :=
  ".".intercalate (bytes.map fun byte ↦ toString byte.toNat)

/-- `ip_to_string` on an address -/
def ipToString (ipAddr : UInt32) : String :=
  ".".intercalate ([3, 2, 1, 0].map fun i : UInt32 ↦
    toString ((ipAddr >>> (i * 8)) &&& 0x000000FF).toNat)

def dhcpText (opcode : UInt8) : String :=
  if opcode = DHCP_DISCOVER then "DHCP Discover\""
  else if opcode = DHCP_OFFER then "DHCP Offer\""
  else if opcode = DHCP_REQUEST then "DHCP Request\""
  else if opcode = DHCP_ACK then "DHCP ACK\""
  else if opcode = DHCP_NACK then "DHCP NACK\""
  else ""

def Transport.text (size : ℕ) : Transport → String
  | icmp type id seq =>
    " ICMP " ++ toString size ++ " \"Echo (ping) " ++
      (if type = ICMP_ECHO_REQUEST then "request\t"
        else if type = ICMP_ECHO_REPLY then "reply\t" else "") ++
      "id=" ++ toString id ++ ", seq=" ++ toString seq ++ "\""
  | tcp sourcePort destinationPort sequenceNumber ackNumber =>
    " TCP " ++ toString size ++ "\t\"" ++ toString sourcePort ++ "->" ++ toString destinationPort ++
      " " ++ "Seq=" ++ toString sequenceNumber.toNat ++ "\t" ++ "Ack=" ++
      toString ackNumber.toNat ++ "\""
  | dhcp opcode => " DHCP " ++ toString size ++ "\t\"" ++ dhcpText opcode
  | udp sourcePort destinationPort =>
    " UDP " ++ toString size ++ "\t\"" ++ "Source port: " ++ toString sourcePort ++ " " ++
      "Destination port: " ++ toString destinationPort ++ "\""
  | other => ""

def Details.text (frame : MPDU) : Details → String
  | arpRequest targetIp senderIp =>
    macs ++ " ARP " ++ toString frame.getSize ++ " " ++ "\"Who has " ++ bytesToString targetIp ++
      "? Tell " ++ bytesToString senderIp ++ "\""
  | arpReply senderIp senderMac =>
    macs ++ " ARP " ++ toString frame.getSize ++ " " ++ "\"" ++ bytesToString senderIp ++
      " is at " ++ macToString senderMac ++ "\""
  | arpOther => macs ++ " ARP " ++ toString frame.getSize ++ " "
  | packet sourceIp destinationIp transport =>
    ipToString sourceIp ++ " " ++ ipToString destinationIp ++ " " ++ transport.text frame.getSize
  | other => macs
where
  macs := macToString frame.sourceMac ++ " " ++ macToString frame.destinationMac

/-- `get_frame_details`; `none` if it reads out of range. The MAC addresses are read for every
frame. -/
def getFrameDetails (frame : MPDU) : Option String :=
  if 6 ≤ frame.sourceMac.length ∧ 6 ≤ frame.destinationMac.length then
    (frameDetails frame).map fun details ↦ details.text frame
  else none

end NetworkSimulation.Monitor
