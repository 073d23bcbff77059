import NetworkSimulation.Stack.Demultiplexing
import NetworkSimulation.Dhcp.Messages

/-!
# The DHCP client

`Host::DHCP_client` sends a DISCOVER, waits for an OFFER, asks for the address offered and adopts
the address of the ACK it gets. Both of its loops look at the source port and the opcode of a frame
and at nothing else.
-/

set_option autoImplicit false
set_option relaxedAutoImplicit false

namespace NetworkSimulation.Dhcp

open Stack

/-- Where a client is: before the call, in one of the two loops or after the call. -/
inductive ClientPoint
  | start
  | awaitsOffer
  | awaitsAck
  | returned
  deriving DecidableEq

/-- The address of the host and the local variables of the call. -/
structure Client where
  point : ClientPoint
  ip : UInt32
  txMessage : DHCP
  txSegment : UDP
  txPacket : IP
  deriving DecidableEq

/-- The socket that the call opens. -/
def dhcpSocket : Socket := ⟨BOOTP_CLIENT_PORT, IP_PROTOCOL_UDP⟩

namespace Client

variable (mac : Mac) (client : Client)

/-- The frame around `tx_packet`, as the client builds it each time. -/
def txFrame : MPDU := MPDU.ofPacket client.txPacket mac createBroadcastMac

/-- The call up to its first loop. The members that nothing is written to keep their values. -/
def discover : Client × List MPDU :=
  let txMessage := { client.txMessage with opcode := DHCP_DISCOVER, clientIp := createIp 0 0 0 0 }
  let txSegment := { client.txSegment with
    sourcePort := BOOTP_CLIENT_PORT
    destinationPort := BOOTP_SERVER_PORT
    payload := txMessage.bytes }
  let txPacket := (((IP.new client.txPacket).setSourceIp txMessage.clientIp).setDestinationIp
    createBroadcastIp).encapUDP txSegment
  let client := { client with point := .awaitsOffer, txMessage, txSegment, txPacket }
  (client, [client.txFrame mac])

/-- From the OFFER to the second loop. -/
def request (rxMessage : DHCP) : Client × List MPDU :=
  let txMessage : DHCP := ⟨DHCP_REQUEST, rxMessage.yourIp, rxMessage.yourIp⟩
  let txSegment := { client.txSegment with payload := txMessage.bytes }
  let txPacket := client.txPacket.encapUDP txSegment
  let client := { client with point := .awaitsAck, txMessage, txSegment, txPacket }
  (client, [client.txFrame mac])

/-- A round of the loop the client is in, on a frame from its socket; `none` if a decoder reads out
of range. -/
def receive (rxFrame : MPDU) : Option (Client × List MPDU) :=
  match rxFrame.udpSegment with
  | none => none
  | some rxSegment =>
    match client.point with
    | .awaitsOffer =>
      if rxSegment.sourcePort = BOOTP_SERVER_PORT then
        match generateDHCP rxSegment.payload with
        | none => none
        | some rxMessage =>
          if rxMessage.opcode = DHCP_OFFER then some (client.request mac rxMessage)
          else some (client, [])
      else some (client, [client.txFrame mac])
    | .awaitsAck =>
      if rxSegment.sourcePort = BOOTP_SERVER_PORT then
        match generateDHCP rxSegment.payload with
        | none => none
        | some rxMessage =>
          if rxMessage.opcode = DHCP_ACK then
            some ({ client with ip := rxMessage.yourIp, point := .returned }, [])
          else some (client, [])
      -- the frame is built here as in the first loop, but not sent
      else some (client, [])
    | .start | .returned => none

/-- The sockets of the host. -/
def openPorts : List Socket :=
  match client.point with
  | .awaitsOffer | .awaitsAck => [dhcpSocket]
  | .start | .returned => []

/-- A frame that the host accepts: `process_frame`, and the round of the call if its socket gets
the frame. -/
def takeFrame (rxFrame : MPDU) : Option (Client × List MPDU) :=
  match processFrame client.openPorts rxFrame with
  | some (.sockets [_]) => client.receive mac rxFrame
  | some _ => some (client, [])
  | none => none

variable {mac client} {rxFrame : MPDU} {segment : UDP} {message : DHCP}

/-- A frame from the client to the server: its source, its ports and its message. -/
structure Sends (mac : Mac) (frame : MPDU) (message : DHCP) : Prop where
  sourceMac : frame.sourceMac = mac
  message : dhcpMessage frame = some message
  ports : ∃ segment, frame.udpSegment = some segment ∧ segment.sourcePort = BOOTP_CLIENT_PORT ∧
    segment.destinationPort = BOOTP_SERVER_PORT

theorem sends_txFrame (hcarries : client.txPacket.Carries segment.bytes)
    (hpayload : segment.payload = message.bytes) (hsource : segment.sourcePort = BOOTP_CLIENT_PORT)
    (hdestination : segment.destinationPort = BOOTP_SERVER_PORT) :
    Sends mac (client.txFrame mac) message where
  sourceMac := rfl
  message := dhcpMessage_ofPacket hcarries hpayload mac _
  ports := ⟨segment, udpSegment_of_dhcp hcarries hpayload mac _, hsource, hdestination⟩

/-- The call begins with a DISCOVER. -/
theorem sends_discover (mac : Mac) (client : Client) : ∃ frame, (client.discover mac).2 = [frame] ∧
    Sends mac frame ⟨DHCP_DISCOVER, createIp 0 0 0 0, client.txMessage.yourIp⟩ :=
  ⟨_, rfl, sends_txFrame (IP.carries_encap _ _ _) rfl rfl rfl⟩

/-- The REQUEST names the address offered twice. -/
theorem sends_request (mac : Mac) (message : DHCP)
    (hsource : client.txSegment.sourcePort = BOOTP_CLIENT_PORT)
    (hdestination : client.txSegment.destinationPort = BOOTP_SERVER_PORT) :
    ∃ frame, (client.request mac message).2 = [frame] ∧
      Sends mac frame ⟨DHCP_REQUEST, message.yourIp, message.yourIp⟩ :=
  ⟨_, rfl, sends_txFrame (IP.carries_encap _ _ _) rfl hsource hdestination⟩

/-- Only a UDP segment to the port of the clients reaches the socket. -/
theorem destinationPort_of_processFrame (hsegment : rxFrame.udpSegment = some segment)
    {socket : Socket} (h : processFrame client.openPorts rxFrame = some (.sockets [socket])) :
    segment.destinationPort = BOOTP_CLIENT_PORT := by
  obtain ⟨hopen, packet, hpacket, -, hprotocol⟩ := isFor_of_processFrame h (List.mem_singleton_self _)
  have hsocket : socket = dhcpSocket := by
    rw [openPorts] at hopen
    cases hpoint : client.point <;> simp_all
  have hdata : generateUDP packet.SDU = some segment := by
    rwa [MPDU.udpSegment, hpacket] at hsegment
  rw [hsocket, hdata] at hprotocol
  rcases hprotocol with hicmp | ⟨htcp, -⟩ | ⟨-, hport⟩
  · cases hicmp
  · cases htcp
  · exact Option.some.inj hport

/-- A frame that does not reach the socket changes nothing. -/
theorem takeFrame_cases {outcome : Client × List MPDU}
    (h : client.takeFrame mac rxFrame = some outcome) :
    outcome = (client, []) ∨
      ∃ socket, processFrame client.openPorts rxFrame = some (.sockets [socket]) ∧
        client.receive mac rxFrame = some outcome := by
  rw [takeFrame] at h
  split at h
  · next socket hsocket => exact .inr ⟨socket, hsocket, h⟩
  · exact .inl (Option.some.inj h).symm
  · cases h

/-- What the loops make of a message from the server. -/
theorem receive_eq (hsegment : rxFrame.udpSegment = some segment)
    (hmessage : generateDHCP segment.payload = some message)
    (hsource : segment.sourcePort = BOOTP_SERVER_PORT) :
    client.receive mac rxFrame =
      match client.point with
      | .awaitsOffer =>
        some (if message.opcode = DHCP_OFFER then client.request mac message else (client, []))
      | .awaitsAck =>
        some (if message.opcode = DHCP_ACK then
          ({ client with ip := message.yourIp, point := .returned }, []) else (client, []))
      | .start | .returned => none := by
  rw [receive, hsegment]
  cases client.point with
  | start => rfl
  | returned => rfl
  | awaitsOffer =>
    simp only [if_pos hsource, hmessage]
    split_ifs <;> rfl
  | awaitsAck =>
    simp only [if_pos hsource, hmessage]
    split_ifs <;> rfl

end Client

end NetworkSimulation.Dhcp
