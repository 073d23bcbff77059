import NetworkSimulation.Stack.ArpMessages

/-!
What a host does with a frame it has accepted. A socket is found by the protocol of the packet and,
for TCP and UDP, by the destination port of the segment; nothing else of the frame is looked at, so
frames from any sender reach it.
-/

set_option autoImplicit false
set_option relaxedAutoImplicit false

namespace NetworkSimulation.Stack

/-- What `process_frame` tells sockets apart by. -/
structure Socket where
  port : UInt16
  protocol : UInt8
  deriving DecidableEq

/-- Where `process_frame` passes a frame on to. A frame that no socket is open for goes to none. -/
inductive Destination
  | receiveArp
  | sockets (found : List Socket)
  | processICMPMessage
  deriving DecidableEq

/-- `Host::process_frame`; `none` if a decoder reads out of range. -/
def processFrame (openPorts : List Socket) (frame : MPDU) : Option Destination :=
  if frame.SDUType = MPDU_ARP_TYPE then some .receiveArp
  else if frame.SDUType = MPDU_IP_TYPE then
    match IP.generate frame.SDU with
    | none => none
    | some packet =>
      if packet.protocol = IP_PROTOCOL_ICMP then
        let found := openPorts.filter fun socket ↦ socket.protocol = IP_PROTOCOL_ICMP
        some (if found = [] then .processICMPMessage else .sockets found)
      else if packet.protocol = IP_PROTOCOL_TCP then
        (generateTCP packet.SDU).map fun segment ↦
          .sockets (openPorts.filter fun socket ↦
            socket.protocol = IP_PROTOCOL_TCP ∧ socket.port = segment.destinationPort)
      else if packet.protocol = IP_PROTOCOL_UDP then
        (generateUDP packet.SDU).map fun segment ↦
          .sockets (openPorts.find? fun socket ↦
            socket.protocol = IP_PROTOCOL_UDP ∧ socket.port = segment.destinationPort).toList
      else some (.sockets [])
  else some (.sockets [])

/-- The socket is one for the message in the packet. -/
def Socket.IsFor (socket : Socket) (packet : IP) : Prop :=
  packet.protocol = socket.protocol ∧
    (socket.protocol = IP_PROTOCOL_ICMP ∨
      socket.protocol = IP_PROTOCOL_TCP ∧
        (generateTCP packet.SDU).map TCP.destinationPort = some socket.port ∨
      socket.protocol = IP_PROTOCOL_UDP ∧
        (generateUDP packet.SDU).map UDP.destinationPort = some socket.port)

/-- A socket that gets a frame is open, and is one for the message in it. -/
theorem isFor_of_processFrame {openPorts found : List Socket} {frame : MPDU}
    (h : processFrame openPorts frame = some (.sockets found)) {socket : Socket}
    (hsocket : socket ∈ found) :
    socket ∈ openPorts ∧ ∃ packet, IP.generate frame.SDU = some packet ∧ socket.IsFor packet := by
  rw [processFrame] at h
  split_ifs at h with harp hip
  · cases h
  · cases hpacket : IP.generate frame.SDU with
    | none =>
      rw [hpacket] at h
      cases h
    | some packet =>
      simp only [hpacket] at h
      split_ifs at h with hicmp hnone htcp hudp
      · cases h
      · rw [← Destination.sockets.inj (Option.some.inj h), List.mem_filter, decide_eq_true_iff]
          at hsocket
        exact ⟨hsocket.1, packet, rfl, hicmp.trans hsocket.2.symm, .inl hsocket.2⟩
      · obtain ⟨segment, hsegment, hfound⟩ := Option.map_eq_some_iff.mp h
        rw [← Destination.sockets.inj hfound, List.mem_filter, decide_eq_true_iff] at hsocket
        obtain ⟨hopen, hprotocol, hport⟩ := hsocket
        exact ⟨hopen, packet, rfl, htcp.trans hprotocol.symm,
          .inr (.inl ⟨hprotocol, by rw [hsegment, Option.map_some, hport]⟩)⟩
      · obtain ⟨segment, hsegment, hfound⟩ := Option.map_eq_some_iff.mp h
        rw [← Destination.sockets.inj hfound, Option.mem_toList] at hsocket
        have hfits := List.find?_some hsocket
        obtain ⟨hprotocol, hport⟩ := decide_eq_true_iff.mp hfits
        exact ⟨List.mem_of_find?_eq_some hsocket, packet, rfl, hudp.trans hprotocol.symm,
          .inr (.inr ⟨hprotocol, by rw [hsegment, Option.map_some, hport]⟩)⟩
      · cases h
        cases hsocket
  · cases h
    cases hsocket

end NetworkSimulation.Stack
