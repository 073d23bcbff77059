import NetworkSimulation.Icmp.Ping
import NetworkSimulation.Links.WorkQueue
import NetworkSimulation.Stack.Encapsulation
import NetworkSimulation.Stack.Sockets

/-!
# Who owns a received frame

`Host::process_frame` gets a frame that nobody else will delete. It deletes ARP frames itself, gives
ICMP frames to every ICMP socket or, where there is none, to `process_ICMP_message`, which deletes
them, and gives TCP and UDP frames to the socket with their destination port. A socket adds a frame
to its queue, and the queue drops it without a word when it is full.

So a frame that is for no socket, or whose socket has no room, is left without an owner, unless it
is an ARP message or `process_ICMP_message` gets it; and a frame for two ICMP sockets with room has
two. `givesOneOwner_iff` is the exact condition. Where the ports are distinct, the dispatch
agrees with the one that only says where a frame goes (`exists_destination`).
-/

set_option autoImplicit false
set_option relaxedAutoImplicit false

namespace NetworkSimulation.Host

open Links Stack

/-- An open socket, with its queue. -/
structure OpenSocket where
  socket : Socket
  rxQueue : WorkQueue MPDU
  deriving DecidableEq

namespace OpenSocket

/-- `Socket::add_frame`. -/
def addFrame (openSocket : OpenSocket) (frame : MPDU) : OpenSocket :=
  { openSocket with rxQueue := openSocket.rxQueue.add frame }

def HasRoom (openSocket : OpenSocket) : Prop :=
  openSocket.rxQueue.queue.length < openSocket.rxQueue.maxEntries

instance (openSocket : OpenSocket) : Decidable openSocket.HasRoom :=
  inferInstanceAs (Decidable (_ < _))

theorem queue_addFrame {openSocket : OpenSocket} (h : openSocket.HasRoom) (frame : MPDU) :
    (openSocket.addFrame frame).rxQueue.queue = openSocket.rxQueue.queue ++ [frame] := by
  rw [addFrame, WorkQueue.add, if_neg (Nat.not_le.mpr h)]

/-- A socket changes by a frame exactly when it has room. -/
theorem addFrame_eq_self_iff {openSocket : OpenSocket} {frame : MPDU} :
    openSocket.addFrame frame = openSocket ↔ ¬ openSocket.HasRoom := by
  constructor
  · intro hsame hroom
    have hqueue := queue_addFrame hroom frame
    rw [hsame] at hqueue
    simp at hqueue
  · intro hfull
    rw [addFrame, WorkQueue.add, if_pos (Nat.not_lt.mp hfull)]

end OpenSocket

/-! ### The dispatch -/

/-- The loops over the sockets for ICMP and TCP. -/
def addToAll (test : Socket → Bool) (frame : MPDU) (openPorts : List OpenSocket) :
    List OpenSocket :=
  openPorts.map fun openSocket ↦
    if test openSocket.socket then openSocket.addFrame frame else openSocket

/-- The loop over the sockets for UDP, which the first match ends. -/
def addToFirst (test : Socket → Bool) (frame : MPDU) : List OpenSocket → List OpenSocket
  | [] => []
  | openSocket :: rest =>
    if test openSocket.socket then openSocket.addFrame frame :: rest
    else openSocket :: addToFirst test frame rest

/-- The cache and the sockets after `process_frame`, the frames it sends and how often it deletes
the frame it was given. -/
structure Outcome where
  cache : Arp.ARPCache
  openPorts : List OpenSocket
  sent : List MPDU
  deletions : ℕ
  deriving DecidableEq

/-- `Host::process_frame`; `none` if a decoder reads out of range. -/
def processFrame (host : Arp.HostAddress) (uninitialisedPacket : IP) (cache : Arp.ARPCache)
    (openPorts : List OpenSocket) (frame : MPDU) : Option Outcome :=
  if frame.SDUType = MPDU_ARP_TYPE then
    (host.receiveARP cache frame.SDU).map fun (cache, reply) ↦
      { cache, openPorts, sent := reply.toList, deletions := 1 }
  else if frame.SDUType = MPDU_IP_TYPE then
    match IP.generate frame.SDU with
    | none => none
    | some packet =>
      if packet.protocol = IP_PROTOCOL_ICMP then
        let isIcmp (socket : Socket) : Bool := socket.protocol = IP_PROTOCOL_ICMP
        let socketFound := openPorts.any fun openSocket ↦ isIcmp openSocket.socket
        let openPorts := addToAll isIcmp frame openPorts
        if socketFound then some { cache, openPorts, sent := [], deletions := 0 }
        else
          (Icmp.processICMPMessage host uninitialisedPacket frame).map fun reply ↦
            { cache, openPorts, sent := reply.toList, deletions := 1 }
      else if packet.protocol = IP_PROTOCOL_TCP then
        (generateTCP packet.SDU).map fun segment ↦
          { cache
            openPorts := addToAll (fun socket ↦
              socket.protocol = IP_PROTOCOL_TCP ∧ socket.port = segment.destinationPort) frame
                openPorts
            sent := []
            deletions := 0 }
      else if packet.protocol = IP_PROTOCOL_UDP then
        (generateUDP packet.SDU).map fun segment ↦
          { cache
            openPorts := addToFirst (fun socket ↦
              socket.protocol = IP_PROTOCOL_UDP ∧ socket.port = segment.destinationPort) frame
                openPorts
            sent := []
            deletions := 0 }
      else some { cache, openPorts, sent := [], deletions := 0 }
  else some { cache, openPorts, sent := [], deletions := 0 }

/-! ### Adding a frame to the sockets that match -/

section Add

variable {test : Socket → Bool} {frame : MPDU} {openPorts : List OpenSocket}

theorem addToAll_eq_self_iff : addToAll test frame openPorts = openPorts ↔
    ∀ openSocket ∈ openPorts, ¬ (test openSocket.socket ∧ openSocket.HasRoom) := by
  have hmap := List.map_inj_left (l := openPorts) (g := id) (f := fun openSocket ↦
    if test openSocket.socket then openSocket.addFrame frame else openSocket)
  rw [List.map_id] at hmap
  rw [addToAll, hmap]
  refine forall₂_congr fun openSocket _ ↦ ?_
  rw [id_eq]
  split_ifs with htest
  · rw [OpenSocket.addFrame_eq_self_iff, and_iff_right htest]
  · exact iff_of_true rfl fun h ↦ htest h.1

/-- Exactly one socket gets the frame where exactly one matching socket has room. -/
theorem addToAll_once_iff (test : Socket → Bool) (frame : MPDU) (openPorts : List OpenSocket) :
    (∃ front openSocket back, openPorts = front ++ openSocket :: back ∧
        addToAll test frame openPorts = front ++ openSocket.addFrame frame :: back ∧
          openSocket.HasRoom ∧ test openSocket.socket) ↔
      ∃ openSocket, openPorts.filter (fun openSocket ↦
        test openSocket.socket ∧ openSocket.HasRoom) = [openSocket] := by
  have hothers (openPorts : List OpenSocket) : addToAll test frame openPorts = openPorts ↔
      openPorts.filter (fun openSocket ↦ test openSocket.socket ∧ openSocket.HasRoom) = [] := by
    rw [addToAll_eq_self_iff, List.filter_eq_nil_iff]
    simp only [decide_eq_true_eq]
  constructor
  · rintro ⟨front, openSocket, back, rfl, hadded, hroom, htest⟩
    rw [addToAll, List.map_append, List.map_cons, if_pos htest] at hadded
    obtain ⟨hfront, hback⟩ := List.append_inj hadded (List.length_map _)
    have hmatch : decide (test openSocket.socket ∧ openSocket.HasRoom) = true :=
      decide_eq_true ⟨htest, hroom⟩
    refine ⟨openSocket, ?_⟩
    rw [List.filter_append, (hothers front).mp hfront, List.filter_cons, if_pos hmatch,
      (hothers back).mp (List.cons.inj hback).2, List.nil_append]
  · rintro ⟨openSocket, hfilter⟩
    obtain ⟨front, back, rfl, hfront, hmatch, hback⟩ := List.filter_eq_cons_iff.mp hfilter
    obtain ⟨htest, hroom⟩ := decide_eq_true_eq.mp hmatch
    refine ⟨front, openSocket, back, rfl, ?_, hroom, htest⟩
    have hnone := (hothers front).mpr (List.filter_eq_nil_iff.mpr hfront)
    rw [addToAll, List.map_append, List.map_cons, if_pos htest, ← addToAll, ← addToAll, hnone,
      (hothers back).mpr hback]

/-- Where no two sockets match, the loop that goes on and the loop that ends at the first match do
the same. -/
theorem addToFirst_eq_addToAll
    (h : openPorts.Pairwise fun first second ↦ ¬ (test first.socket ∧ test second.socket)) :
    addToFirst test frame openPorts = addToAll test frame openPorts := by
  induction openPorts with
  | nil => rfl
  | cons openSocket rest ih =>
    obtain ⟨hfirst, hrest⟩ := List.pairwise_cons.mp h
    rw [addToFirst, addToAll, List.map_cons]
    split_ifs with htest
    · rw [← addToAll, addToAll_eq_self_iff.mpr fun other hother hmatch ↦
        hfirst other hother ⟨htest, hmatch.1⟩]
    · rw [ih hrest, addToAll]

/-- No two sockets with distinct ports pass a test for one port. -/
theorem pairwise_not_both (hdistinct : DistinctPorts (openPorts.map OpenSocket.socket))
    {port : UInt16} (htest : ∀ socket, test socket → socket.port = port) :
    openPorts.Pairwise fun first second ↦ ¬ (test first.socket ∧ test second.socket) := by
  rw [DistinctPorts, List.map_map] at hdistinct
  refine (List.pairwise_map.mp hdistinct).imp fun hports hmatch ↦ ?_
  exact hports ((htest _ hmatch.1).trans (htest _ hmatch.2).symm)

end Add

/-! ### Frames of the four kinds -/

instance (socket : Socket) (packet : IP) : Decidable (socket.IsFor packet) :=
  inferInstanceAs (Decidable (_ ∧ _))

/-- An ARP message, or a packet with a message of one of the three protocols that is decoded. -/
inductive IsMessage (frame : MPDU) : Prop
  | arp (message : ARP) (htype : frame.SDUType = MPDU_ARP_TYPE)
      (hmessage : generateARP frame.SDU = some message)
  | ip (packet : IP) (message : Message) (htype : frame.SDUType = MPDU_IP_TYPE)
      (hpacket : IP.generate frame.SDU = some packet)
      (hprotocol : packet.protocol = message.protocol)
      (hmessage : message.generate packet.SDU = some message)

/-- The frame is deleted once and no socket gets it, or it is not deleted and one socket that is for
it takes it into its queue, while the others stay as they are. -/
def OneOwner (frame : MPDU) (before : List OpenSocket) (after : Outcome) : Prop :=
  after.deletions = 1 ∧ after.openPorts = before ∨
    after.deletions = 0 ∧ ∃ packet, IP.generate frame.SDU = some packet ∧
      ∃ front openSocket back, before = front ++ openSocket :: back ∧
        after.openPorts = front ++ openSocket.addFrame frame :: back ∧ openSocket.HasRoom ∧
          openSocket.socket.IsFor packet

/-- The frame is an ARP message, or an ICMP message while no ICMP socket is open, or exactly one
open socket that is for it has room. -/
def HasOneTaker (openPorts : List OpenSocket) (frame : MPDU) : Prop :=
  frame.SDUType = MPDU_ARP_TYPE ∨
    ∃ packet, IP.generate frame.SDU = some packet ∧
      (packet.protocol = IP_PROTOCOL_ICMP ∧
          (∀ openSocket ∈ openPorts, openSocket.socket.protocol ≠ IP_PROTOCOL_ICMP) ∨
        ∃ openSocket, openPorts.filter (fun openSocket ↦
          openSocket.socket.IsFor packet ∧ openSocket.HasRoom) = [openSocket])

section Dispatch

variable {host : Arp.HostAddress} {uninitialisedPacket packet : IP} {cache : Arp.ARPCache}
  {openPorts : List OpenSocket} {frame : MPDU}

theorem isFor_icmp_iff (hprotocol : packet.protocol = IP_PROTOCOL_ICMP) {socket : Socket} :
    socket.IsFor packet ↔ socket.protocol = IP_PROTOCOL_ICMP := by
  rw [Socket.IsFor, hprotocol]
  constructor
  · exact fun h ↦ h.1.symm
  · exact fun h ↦ ⟨h.symm, .inl h⟩

theorem isFor_tcp_iff (hprotocol : packet.protocol = IP_PROTOCOL_TCP) {segment : TCP}
    (hsegment : generateTCP packet.SDU = some segment) {socket : Socket} :
    socket.IsFor packet ↔
      socket.protocol = IP_PROTOCOL_TCP ∧ socket.port = segment.destinationPort := by
  have hicmp : IP_PROTOCOL_TCP ≠ IP_PROTOCOL_ICMP := by decide
  have hudp : IP_PROTOCOL_TCP ≠ IP_PROTOCOL_UDP := by decide
  rw [Socket.IsFor, hprotocol, hsegment, Option.map_some, Option.some.injEq]
  constructor
  · rintro ⟨hsame, h | h | h⟩
    · exact absurd (hsame.trans h) hicmp
    · exact ⟨h.1, h.2.symm⟩
    · exact absurd (hsame.trans h.1) hudp
  · exact fun h ↦ ⟨h.1.symm, .inr (.inl ⟨h.1, h.2.symm⟩)⟩

theorem isFor_udp_iff (hprotocol : packet.protocol = IP_PROTOCOL_UDP) {segment : UDP}
    (hsegment : generateUDP packet.SDU = some segment) {socket : Socket} :
    socket.IsFor packet ↔
      socket.protocol = IP_PROTOCOL_UDP ∧ socket.port = segment.destinationPort := by
  have hicmp : IP_PROTOCOL_UDP ≠ IP_PROTOCOL_ICMP := by decide
  have htcp : IP_PROTOCOL_UDP ≠ IP_PROTOCOL_TCP := by decide
  rw [Socket.IsFor, hprotocol, hsegment, Option.map_some, Option.some.injEq]
  constructor
  · rintro ⟨hsame, h | h | h⟩
    · exact absurd (hsame.trans h) hicmp
    · exact absurd (hsame.trans h.1) htcp
    · exact ⟨h.1, h.2.symm⟩
  · exact fun h ↦ ⟨h.1.symm, .inr (.inr ⟨h.1, h.2.symm⟩)⟩

/-- A frame that is not deleted has one owner exactly when one of the sockets it is for has room. -/
theorem oneOwner_added_iff (cache : Arp.ARPCache) (openPorts : List OpenSocket)
    (hpacket : IP.generate frame.SDU = some packet) :
    OneOwner frame openPorts
        { cache, openPorts := addToAll (fun socket ↦ socket.IsFor packet) frame openPorts,
          sent := [], deletions := 0 } ↔
      ∃ openSocket, openPorts.filter (fun openSocket ↦
        openSocket.socket.IsFor packet ∧ openSocket.HasRoom) = [openSocket] := by
  have honce := addToAll_once_iff (fun socket ↦ socket.IsFor packet) frame openPorts
  simp only [decide_eq_true_eq] at honce
  rw [← honce, OneOwner]
  constructor
  · rintro (⟨hdeleted, -⟩ | ⟨-, other, hother, h⟩)
    · cases hdeleted
    · cases hpacket.symm.trans hother
      exact h
  · exact fun h ↦ .inr ⟨rfl, packet, hpacket, h⟩

/-- Sockets for ICMP frames are found without looking into the message. -/
theorem processFrame_icmp (htype : frame.SDUType = MPDU_IP_TYPE)
    (hpacket : IP.generate frame.SDU = some packet)
    (hprotocol : packet.protocol = IP_PROTOCOL_ICMP) :
    processFrame host uninitialisedPacket cache openPorts frame =
      if ∀ openSocket ∈ openPorts, openSocket.socket.protocol ≠ IP_PROTOCOL_ICMP then
        (Icmp.processICMPMessage host uninitialisedPacket frame).map fun reply ↦
          { cache, openPorts, sent := reply.toList, deletions := 1 }
      else
        some { cache, openPorts := addToAll (fun socket ↦ socket.IsFor packet) frame openPorts,
               sent := [], deletions := 0 } := by
  have hother : MPDU_IP_TYPE ≠ MPDU_ARP_TYPE := by decide
  rw [processFrame, htype, if_neg hother, if_pos rfl, hpacket]
  simp only [hprotocol, if_true, isFor_icmp_iff hprotocol]
  by_cases hnone : ∀ openSocket ∈ openPorts, openSocket.socket.protocol ≠ IP_PROTOCOL_ICMP
  · have hfound : (openPorts.any fun openSocket ↦
        decide (openSocket.socket.protocol = IP_PROTOCOL_ICMP)) = false :=
      List.any_eq_false.mpr fun openSocket hopen ↦ by simpa using hnone openSocket hopen
    have hsame : addToAll (fun socket ↦ decide (socket.protocol = IP_PROTOCOL_ICMP)) frame
        openPorts = openPorts :=
      addToAll_eq_self_iff.mpr fun openSocket hopen hmatch ↦
        hnone openSocket hopen (decide_eq_true_eq.mp hmatch.1)
    rw [if_pos hnone, hfound, if_neg Bool.false_ne_true, hsame]
  · have hfound : (openPorts.any fun openSocket ↦
        decide (openSocket.socket.protocol = IP_PROTOCOL_ICMP)) = true := by
      push Not at hnone
      obtain ⟨openSocket, hopen, hicmp⟩ := hnone
      exact List.any_eq_true.mpr ⟨openSocket, hopen, decide_eq_true hicmp⟩
    rw [if_neg hnone, hfound, if_pos rfl]

/-- `process_ICMP_message` ends on every ICMP message. -/
theorem exists_processICMPMessage (host : Arp.HostAddress) (uninitialisedPacket : IP)
    (hpacket : IP.generate frame.SDU = some packet) (hicmp : packet.protocol = IP_PROTOCOL_ICMP)
    {message : Message} (hprotocol : packet.protocol = message.protocol)
    (hmessage : message.generate packet.SDU = some message) :
    ∃ reply, Icmp.processICMPMessage host uninitialisedPacket frame = some reply := by
  rw [hicmp] at hprotocol
  cases message with
  | icmp message =>
    obtain ⟨decoded, hdecoded, -⟩ := Option.map_eq_some_iff.mp hmessage
    simp only [Icmp.processICMPMessage, hpacket, hdecoded]
    split_ifs
    · exact ⟨_, rfl⟩
    · exact ⟨_, rfl⟩
  | tcp segment =>
    change IP_PROTOCOL_ICMP = IP_PROTOCOL_TCP at hprotocol
    exact absurd hprotocol (by decide)
  | udp segment =>
    change IP_PROTOCOL_ICMP = IP_PROTOCOL_UDP at hprotocol
    exact absurd hprotocol (by decide)

/-- A TCP or UDP frame goes to the socket with its destination port; for UDP because no two sockets
share a port. -/
theorem processFrame_segment (hdistinct : DistinctPorts (openPorts.map OpenSocket.socket))
    (htype : frame.SDUType = MPDU_IP_TYPE) (hpacket : IP.generate frame.SDU = some packet)
    {message : Message} (hprotocol : packet.protocol = message.protocol)
    (hmessage : message.generate packet.SDU = some message)
    (hnotIcmp : packet.protocol ≠ IP_PROTOCOL_ICMP) :
    processFrame host uninitialisedPacket cache openPorts frame =
      some { cache, openPorts := addToAll (fun socket ↦ socket.IsFor packet) frame openPorts,
             sent := [], deletions := 0 } := by
  have hother : MPDU_IP_TYPE ≠ MPDU_ARP_TYPE := by decide
  rw [processFrame, htype, if_neg hother, if_pos rfl, hpacket]
  simp only [if_neg hnotIcmp]
  cases message with
  | icmp message => exact absurd hprotocol hnotIcmp
  | tcp segment =>
    change packet.protocol = IP_PROTOCOL_TCP at hprotocol
    obtain ⟨decoded, hsegment, hsame⟩ := Option.map_eq_some_iff.mp hmessage
    cases hsame
    simp only [if_pos hprotocol, hsegment, Option.map_some, isFor_tcp_iff hprotocol hsegment]
  | udp segment =>
    change packet.protocol = IP_PROTOCOL_UDP at hprotocol
    have hnotTcp : packet.protocol ≠ IP_PROTOCOL_TCP := by
      rw [hprotocol]
      decide
    obtain ⟨decoded, hsegment, hsame⟩ := Option.map_eq_some_iff.mp hmessage
    cases hsame
    simp only [if_neg hnotTcp, if_pos hprotocol, hsegment, Option.map_some,
      isFor_udp_iff hprotocol hsegment]
    rw [addToFirst_eq_addToAll (pairwise_not_both hdistinct fun socket hmatch ↦
      (decide_eq_true_eq.mp hmatch).2)]

end Dispatch

/-! ### The dispatch without queues -/

/-- What becomes of a frame that `process_frame` passes on to a destination. -/
def Outcome.Follows (after : Outcome) (openPorts : List OpenSocket) (frame : MPDU) :
    Destination → Prop
  | .sockets found =>
    after.deletions = 0 ∧ after.openPorts = addToAll (fun socket ↦ socket ∈ found) frame openPorts
  | .receiveArp | .processICMPMessage => after.deletions = 1 ∧ after.openPorts = openPorts

/-- A frame added to the sockets that pass a test, where these are the sockets found. -/
theorem follows_sockets {test : Socket → Bool} {found : List Socket} {cache : Arp.ARPCache}
    {frame : MPDU} {openPorts : List OpenSocket}
    (h : ∀ socket ∈ openPorts.map OpenSocket.socket, socket ∈ found ↔ test socket) :
    Outcome.Follows ⟨cache, addToAll test frame openPorts, [], 0⟩ openPorts frame
      (.sockets found) := by
  refine ⟨rfl, List.map_congr_left fun openSocket hopen ↦ ?_⟩
  simp only [decide_eq_true_eq, h _ (List.mem_map_of_mem hopen)]

/-- The first match is the only one, where no two sockets share a port. -/
theorem mem_find_iff {sockets : List Socket} (hdistinct : DistinctPorts sockets)
    {test : Socket → Bool} {port : UInt16} (htest : ∀ socket, test socket → socket.port = port)
    {socket : Socket} (hsocket : socket ∈ sockets) :
    socket ∈ (sockets.find? test).toList ↔ test socket := by
  rw [Option.mem_toList]
  constructor
  · exact fun hfound ↦ List.find?_some hfound
  · intro hmatch
    cases hfound : sockets.find? test with
    | none => exact absurd hmatch (List.find?_eq_none.mp hfound socket hsocket)
    | some other =>
      have hport := (htest other (List.find?_some hfound)).trans (htest socket hmatch).symm
      rw [List.inj_on_of_nodup_map hdistinct (List.mem_of_find?_eq_some hfound) hsocket hport]

/-- The dispatch agrees with the one that only says where a frame goes. -/
theorem exists_destination {host : Arp.HostAddress} {uninitialisedPacket : IP}
    {cache : Arp.ARPCache} {openPorts : List OpenSocket} {frame : MPDU} {after : Outcome}
    (hdistinct : DistinctPorts (openPorts.map OpenSocket.socket))
    (h : processFrame host uninitialisedPacket cache openPorts frame = some after) :
    ∃ destination,
      Stack.processFrame (openPorts.map OpenSocket.socket) frame = some destination ∧
        after.Follows openPorts frame destination := by
  have hnone : addToAll (fun socket ↦ decide (socket ∈ ([] : List Socket))) frame openPorts =
      openPorts :=
    addToAll_eq_self_iff.mpr fun _ _ hmatch ↦ by simp at hmatch
  rw [processFrame] at h
  rw [Stack.processFrame]
  split_ifs at h ⊢ with harp hip
  · obtain ⟨received, -, rfl⟩ := Option.map_eq_some_iff.mp h
    exact ⟨_, rfl, rfl, rfl⟩
  · cases hpacket : IP.generate frame.SDU with
    | none =>
      rw [hpacket] at h
      cases h
    | some packet =>
      simp only [hpacket] at h ⊢
      split_ifs at h with hicmp hfound htcp hudp
      · cases h
        obtain ⟨openSocket, hopen, hmatch⟩ := List.any_eq_true.mp hfound
        have hsome : (openPorts.map OpenSocket.socket).filter
            (fun socket ↦ socket.protocol = IP_PROTOCOL_ICMP) ≠ [] :=
          List.ne_nil_of_mem (List.mem_filter.mpr ⟨List.mem_map_of_mem hopen, hmatch⟩)
        simp only [if_pos hicmp, if_neg hsome]
        refine ⟨_, rfl, follows_sockets fun socket hsocket ↦ ?_⟩
        rw [List.mem_filter, and_iff_right hsocket]
      · obtain ⟨reply, -, rfl⟩ := Option.map_eq_some_iff.mp h
        rw [Bool.not_eq_true, List.any_eq_false] at hfound
        have hempty : (openPorts.map OpenSocket.socket).filter
            (fun socket ↦ socket.protocol = IP_PROTOCOL_ICMP) = [] := by
          rw [List.filter_eq_nil_iff]
          exact List.forall_mem_map.mpr hfound
        simp only [if_pos hicmp, if_pos hempty]
        have hsame : addToAll (fun socket ↦ decide (socket.protocol = IP_PROTOCOL_ICMP)) frame
            openPorts = openPorts :=
          addToAll_eq_self_iff.mpr fun openSocket hopen hmatch ↦ hfound openSocket hopen hmatch.1
        exact ⟨_, rfl, rfl, hsame⟩
      · obtain ⟨segment, hsegment, rfl⟩ := Option.map_eq_some_iff.mp h
        simp only [if_neg hicmp, if_pos htcp, hsegment, Option.map_some]
        refine ⟨_, rfl, follows_sockets fun socket hsocket ↦ ?_⟩
        rw [List.mem_filter, and_iff_right hsocket]
      · obtain ⟨segment, hsegment, rfl⟩ := Option.map_eq_some_iff.mp h
        simp only [if_neg hicmp, if_neg htcp, if_pos hudp, hsegment, Option.map_some]
        have hport (socket : Socket) (hmatch : decide (socket.protocol = IP_PROTOCOL_UDP ∧
            socket.port = segment.destinationPort) = true) :
            socket.port = segment.destinationPort := (decide_eq_true_eq.mp hmatch).2
        rw [addToFirst_eq_addToAll (pairwise_not_both hdistinct hport)]
        exact ⟨_, rfl, follows_sockets fun socket hsocket ↦ mem_find_iff hdistinct hport hsocket⟩
      · cases h
        simp only [if_neg hicmp, if_neg htcp, if_neg hudp]
        exact ⟨_, rfl, rfl, hnone.symm⟩
  · cases h
    exact ⟨_, rfl, rfl, hnone.symm⟩

/-! ### One owner -/

/-- Processing the frame ends with the frame having one owner. -/
def GivesOneOwner (host : Arp.HostAddress) (uninitialisedPacket : IP) (cache : Arp.ARPCache)
    (openPorts : List OpenSocket) (frame : MPDU) : Prop :=
  ∃ after, processFrame host uninitialisedPacket cache openPorts frame = some after ∧
    OneOwner frame openPorts after

/-- A frame gets one owner exactly when it has one taker. -/
theorem givesOneOwner_iff (host : Arp.HostAddress) (uninitialisedPacket : IP)
    (cache : Arp.ARPCache) (openPorts : List OpenSocket) (frame : MPDU)
    (hdistinct : DistinctPorts (openPorts.map OpenSocket.socket)) (hframe : IsMessage frame) :
    GivesOneOwner host uninitialisedPacket cache openPorts frame ↔
      HasOneTaker openPorts frame := by
  cases hframe with
  | arp message htype hmessage =>
    obtain ⟨⟨later, reply⟩, hreceive⟩ : ∃ received,
        host.receiveARP cache frame.SDU = some received := by
      rw [Arp.receiveARP_eq hmessage]
      exact ⟨_, rfl⟩
    have hafter : processFrame host uninitialisedPacket cache openPorts frame =
        some { cache := later, openPorts, sent := reply.toList, deletions := 1 } := by
      rw [processFrame, if_pos htype, hreceive, Option.map_some]
    exact iff_of_true ⟨_, hafter, .inl ⟨rfl, rfl⟩⟩ (.inl htype)
  | ip packet message htype hpacket hprotocol hmessage =>
    have hnotArp : frame.SDUType ≠ MPDU_ARP_TYPE := by
      rw [htype]
      decide
    have hadded := oneOwner_added_iff cache openPorts hpacket
    rw [GivesOneOwner, HasOneTaker, or_iff_right hnotArp]
    simp only [hpacket, Option.some.injEq, exists_eq_left']
    by_cases hicmp : packet.protocol = IP_PROTOCOL_ICMP
    · rw [processFrame_icmp htype hpacket hicmp]
      split_ifs with hnone
      · obtain ⟨reply, hreply⟩ := exists_processICMPMessage host uninitialisedPacket hpacket hicmp
          hprotocol hmessage
        rw [hreply, Option.map_some]
        exact iff_of_true ⟨_, rfl, .inl ⟨rfl, rfl⟩⟩ (.inl ⟨hicmp, hnone⟩)
      · rw [or_iff_right fun h ↦ hnone h.2, ← hadded]
        simp only [Option.some.injEq, exists_eq_left']
    · rw [processFrame_segment hdistinct htype hpacket hprotocol hmessage hicmp,
        or_iff_right fun h ↦ hicmp h.1, ← hadded]
      simp only [Option.some.injEq, exists_eq_left']

/-- A TCP segment for port 50000. -/
def segmentFrame : MPDU where
  sourceMac := [2, 0, 0, 0, 0, 1]
  destinationMac := [2, 0, 0, 0, 0, 2]
  SDUType := MPDU_IP_TYPE
  SDU := [12, 0, 30, 6, 192, 168, 0, 1, 192, 168, 0, 2] ++
    [117, 48, 195, 80, 0, 0, 0, 1, 0, 0, 0, 1, 0, 16, 0, 0, 0, 0]

theorem isMessage_segmentFrame : IsMessage segmentFrame :=
  .ip _ (.tcp ⟨30000, 50000, 1, 1, TCP_ACK, 0, 0, []⟩) rfl rfl rfl rfl

theorem givesOneOwner_witness :
    GivesOneOwner ⟨[2, 0, 0, 0, 0, 2], 0xC0A80002⟩ ⟨0, 0, 0, 0, 0, []⟩ []
        [⟨⟨50000, IP_PROTOCOL_TCP⟩, .new MPDU MAX_QUEUE_LENGTH⟩] segmentFrame ↔
      HasOneTaker [⟨⟨50000, IP_PROTOCOL_TCP⟩, .new MPDU MAX_QUEUE_LENGTH⟩] segmentFrame :=
  givesOneOwner_iff ⟨[2, 0, 0, 0, 0, 2], 0xC0A80002⟩ ⟨0, 0, 0, 0, 0, []⟩ []
    [⟨⟨50000, IP_PROTOCOL_TCP⟩, .new MPDU MAX_QUEUE_LENGTH⟩] segmentFrame (List.nodup_singleton _)
    isMessage_segmentFrame

/-- A segment for a host without open sockets is neither deleted nor given to anybody. -/
theorem not_givesOneOwner_closed :
    ¬ GivesOneOwner ⟨[2, 0, 0, 0, 0, 2], 0xC0A80002⟩ ⟨0, 0, 0, 0, 0, []⟩ [] [] segmentFrame := by
  rintro ⟨after, hafter, howner⟩
  have hprocessed : processFrame ⟨[2, 0, 0, 0, 0, 2], 0xC0A80002⟩ ⟨0, 0, 0, 0, 0, []⟩ [] []
      segmentFrame = some ⟨[], [], [], 0⟩ := rfl
  obtain rfl := Option.some.inj (hprocessed.symm.trans hafter)
  rcases howner with ⟨hdeleted, -⟩ | ⟨-, packet, -, front, openSocket, back, hopen, -⟩
  · cases hdeleted
  · simp at hopen

end NetworkSimulation.Host
