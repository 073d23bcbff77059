import NetworkSimulation.Stack.ArpMessages
import NetworkSimulation.Dhcp.Messages

/-!
# The gateway in front of the DHCP server

`Gateway::run` decodes every frame as a packet and its data as a UDP segment, and passes it to the
DHCP server by the two ports it reads there. `Host::process_frame` looks at the type of the frame
and at the protocol of the packet before it does so; the gateway does not, though the switches flood
frames of every kind to it.

The four bytes that it takes for the ports are the first four of any message (`passes_encapIP`).
`passes_eq_iff` is the exact condition under which it does right by a frame.
-/

set_option autoImplicit false
set_option relaxedAutoImplicit false

namespace NetworkSimulation.Dhcp

open Stack Library.WordBytes

/-- A round of `Gateway::run`: whether the frame is added to the DHCP queue or deleted; `none` if a
decoder reads out of range. -/
def passes (rxFrame : MPDU) : Option Bool :=
  match IP.generate rxFrame.SDU with
  | none => none
  | some rxPacket =>
    match generateUDP rxPacket.SDU with
    | none => none
    | some rxSegment =>
      if rxSegment.sourcePort = BOOTP_CLIENT_PORT ∧ rxSegment.destinationPort = BOOTP_SERVER_PORT then
        some true
      else some false

theorem passes_eq (rxFrame : MPDU) : passes rxFrame = rxFrame.udpSegment.map fun rxSegment ↦
    decide (rxSegment.sourcePort = BOOTP_CLIENT_PORT ∧
      rxSegment.destinationPort = BOOTP_SERVER_PORT) := by
  rw [passes, MPDU.udpSegment]
  cases IP.generate rxFrame.SDU with
  | none => rfl
  | some rxPacket =>
    cases hsegment : generateUDP rxPacket.SDU with
    | none => simp [hsegment]
    | some rxSegment =>
      simp only [hsegment, Option.bind_some, Option.map_some]
      split_ifs with hports
      · rw [decide_eq_true hports]
      · rw [decide_eq_false hports]

/-- What a host or the DHCP server puts in a frame. -/
inductive Sent
  | arp (message : ARP) (hopcode : message.opcode = ARP_REQUEST ∨ message.opcode = ARP_REPLY)
      (hsender : message.senderMac.length = 6) (htarget : message.targetMac.length = 6)
  | ip (packet : IP) (message : Message)

namespace Sent

def encapIn (frame : MPDU) : Sent → MPDU
  | arp message _ _ _ => frame.encapARP message
  | ip packet message => frame.encapIP (message.encapIn packet)

/-- An IP frame of protocol UDP, from the port of the clients to that of the server. -/
def FromClient : Sent → Prop
  | ip _ (.udp segment) =>
    segment.sourcePort = BOOTP_CLIENT_PORT ∧ segment.destinationPort = BOOTP_SERVER_PORT
  | _ => False

instance : DecidablePred FromClient
  | arp _ _ _ _ => .isFalse id
  | ip _ (.icmp _) => .isFalse id
  | ip _ (.tcp _) => .isFalse id
  | ip _ (.udp _) => inferInstanceAs (Decidable (_ ∧ _))

/-- The bytes of the two ports. -/
def portBytes : List UInt8 := [0, 68, 0, 67]

/-- An IP frame whose header length and data fit in 16 bits, with at least eight bytes of data after
reduction to 16 bits, and not of another protocol with the bytes of the two ports in front. -/
def Readable : Sent → Prop
  | arp _ _ _ _ => False
  | ip packet message =>
    packet.headerLength.toNat + message.encodedLength % 65536 ≤ 65535 ∧
      8 ≤ message.encodedLength % 65536 ∧
        (message.protocol = IP_PROTOCOL_UDP ∨ message.bytes.take 4 ≠ portBytes)

end Sent

/-! ### What the gateway reads -/

theorem isSome_generateUDP_iff {bytes : List UInt8} :
    (generateUDP bytes).isSome ↔ 8 ≤ bytes.length := by
  match bytes with
  | [] | [_] | [_, _] | [_, _, _] | [_, _, _, _] | [_, _, _, _, _] | [_, _, _, _, _, _]
  | [_, _, _, _, _, _, _] => simp [generateUDP]
  | _ :: _ :: _ :: _ :: _ :: _ :: _ :: _ :: _ => simp [generateUDP]

theorem bytes16_inj {word word' : UInt16} : bytes16 word = bytes16 word' ↔ word = word' := by
  refine ⟨fun h ↦ ?_, congrArg bytes16⟩
  simp only [bytes16, List.map_cons, List.map_nil, List.cons.injEq, and_true] at h
  rw [← word16_byte16 word, h.1, h.2, word16_byte16]

/-- The ports are the first four bytes. -/
theorem ports_iff (segment : UDP) :
    segment.sourcePort = BOOTP_CLIENT_PORT ∧ segment.destinationPort = BOOTP_SERVER_PORT ↔
      segment.bytes.take 4 = Sent.portBytes := by
  have htake : segment.bytes.take 4 =
      bytes16 segment.sourcePort ++ bytes16 segment.destinationPort :=
    rfl
  have hports : Sent.portBytes = bytes16 BOOTP_CLIENT_PORT ++ bytes16 BOOTP_SERVER_PORT := by decide
  rw [htake, hports]
  constructor
  · rintro ⟨hsource, hdestination⟩
    rw [hsource, hdestination]
  · intro hbytes
    obtain ⟨hsource, hdestination⟩ := List.append_inj hbytes rfl
    exact ⟨bytes16_inj.mp hsource, bytes16_inj.mp hdestination⟩

/-- Of a packet the gateway reads the first four bytes of data, whatever the protocol is. -/
theorem passes_encapIP {packet : IP} {bytes : List UInt8} (hcarries : packet.Carries bytes)
    (frame : MPDU) :
    passes (frame.encapIP packet) =
      if packet.headerLength.toNat + bytes.length % 65536 ≤ 65535 ∧ 8 ≤ bytes.length % 65536 then
        some (decide (bytes.take 4 = Sent.portBytes))
      else none := by
  rw [passes_eq, MPDU.udpSegment, generate_encapIP_eq_ite hcarries]
  have hlength : (bytes.take (bytes.length % 65536)).length = bytes.length % 65536 :=
    List.length_take_of_le (Nat.mod_le _ _)
  by_cases hfits : packet.headerLength.toNat + bytes.length % 65536 ≤ 65535
  · rw [if_pos hfits, Option.bind_some]
    by_cases hlong : 8 ≤ bytes.length % 65536
    · obtain ⟨segment, hsegment⟩ := Option.isSome_iff_exists.mp
        (isSome_generateUDP_iff.mpr (hlong.trans_eq hlength.symm))
      have hfirst : segment.bytes.take 4 = bytes.take 4 := by
        rw [bytes_of_generateUDP hsegment, List.take_take, min_eq_left (by omega)]
      rw [if_pos ⟨hfits, hlong⟩, hsegment, Option.map_some, ← hfirst, decide_eq_decide.mpr
        (ports_iff segment)]
    · have hshort := mt isSome_generateUDP_iff.mp (fun h ↦ hlong (h.trans_eq hlength))
      rw [if_neg fun h ↦ hlong h.2, Option.not_isSome_iff_eq_none.mp hshort, Option.map_none]
  · rw [if_neg hfits, if_neg fun h ↦ hfits h.1]
    rfl

/-- An ARP message is read as a packet of at least 256 bytes. -/
theorem passes_encapARP {message : ARP}
    (hopcode : message.opcode = ARP_REQUEST ∨ message.opcode = ARP_REPLY)
    (hsender : message.senderMac.length = 6) (htarget : message.targetMac.length = 6)
    (frame : MPDU) : passes (frame.encapARP message) = none := by
  have hpacket : IP.generate message.bytes = none := by
    obtain ⟨opcode, senderMac, senderIp, targetMac, targetIp⟩ := message
    obtain ⟨s0, s1, s2, s3, s4, s5, rfl⟩ := exists_bytes_of_length hsender
    obtain ⟨t0, t1, t2, t3, t4, t5, rfl⟩ := exists_bytes_of_length htarget
    have hlow : 1 ≤ (byte16 opcode 0).toNat := by
      rcases hopcode with rfl | rfl <;> decide
    have hhigh : byte16 opcode 1 = 0 := by
      rcases hopcode with rfl | rfl <;> decide
    -- the opcode and the first byte of the sender are read as the total length
    simp only [ARP.bytes, bytes16, bytes32, List.map_cons, List.map_nil, List.take_succ_cons,
      List.take_zero, List.cons_append, List.nil_append, IP.generate, toNat_word16, hhigh,
      List.length_cons, List.length_nil]
    rw [if_neg (by simp), if_pos (by simp; omega)]
  rw [passes, MPDU.encapARP, hpacket]

/-- The gateway reads within a frame and passes it on exactly if it is one from a client, when the
frame is readable, and only then. -/
theorem passes_eq_iff (frame : MPDU) (sent : Sent) :
    passes (sent.encapIn frame) = some (decide sent.FromClient) ↔ sent.Readable := by
  cases sent with
  | arp message hopcode hsender htarget =>
    rw [Sent.encapIn, passes_encapARP hopcode hsender htarget]
    exact iff_of_false nofun id
  | ip packet message =>
    have hfrom : (Sent.ip packet message).FromClient ↔
        message.protocol = IP_PROTOCOL_UDP ∧ message.bytes.take 4 = Sent.portBytes := by
      cases message with
      | icmp message =>
        have hother : IP_PROTOCOL_ICMP ≠ IP_PROTOCOL_UDP := by decide
        exact iff_of_false id fun h ↦ hother h.1
      | tcp segment =>
        have hother : IP_PROTOCOL_TCP ≠ IP_PROTOCOL_UDP := by decide
        exact iff_of_false id fun h ↦ hother h.1
      | udp segment => exact (ports_iff segment).trans (and_iff_right rfl).symm
    rw [Sent.encapIn, passes_encapIP (message.carries_encapIn packet), message.headerLength_encapIn,
      message.length_bytes, Sent.Readable, ← and_assoc]
    split_ifs with hread
    · rw [and_iff_right hread, Option.some_inj, decide_eq_decide, hfrom]
      tauto
    · exact iff_of_false nofun fun h ↦ hread h.1

/-- An ARP request of a host, which the switches flood to the gateway. -/
theorem not_passes_eq : ¬ ∀ (frame : MPDU) (sent : Sent),
    passes (sent.encapIn frame) = some (decide sent.FromClient) := by
  intro h
  have hrequest := h ⟨createUniformMac 0x11, createBroadcastMac, 0, []⟩
    (.arp ⟨ARP_REQUEST, createUniformMac 0x11, createIp 111 111 111 111, createUniformMac 0,
      createIp 222 222 222 222⟩ (.inl rfl) rfl rfl)
  revert hrequest
  decide +kernel

end NetworkSimulation.Dhcp
