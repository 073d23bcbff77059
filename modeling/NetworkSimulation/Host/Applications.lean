import NetworkSimulation.Arp.Resolution
import NetworkSimulation.Host.FrameOwnership

/-!
# Hosts that run anything

Any number of hosts, each with its ARP cache and its open sockets. Their programs may do what the
functions of `Host` let them do, at any time and in any order: ask for an address, open and close
sockets, read them, and send packets of any content to anybody. The demultiplexer of a host gives
the frames that the host accepts to `process_frame`. `create_socket`, from the test of the size of
`open_ports` to the new entry, is one step, and so is `process_frame`, from the search for a socket
to `add_frame`. The source takes no lock on `open_ports`, so it does not keep them apart.

Whatever the programs do, no cache ever holds a wrong pair, since only the functions for ARP make
ARP frames; no host ever has two sockets, since `create_socket` does not return where it finds one;
and what waits in a socket was made by a host, accepted by this one, and is for the socket
(`Orderly`).
-/

set_option autoImplicit false
set_option relaxedAutoImplicit false

namespace NetworkSimulation.Host

open Library Links Stack

/-- What changes in a host. -/
structure HostState where
  cache : Arp.ARPCache
  openPorts : List OpenSocket

/-- The hosts, and every frame made so far with the host that made it. No program reads the
latter. -/
structure Running (H : Type*) where
  states : H → HostState
  made : List (H × MPDU)

/-- What a program of a host does: `send_request_arp`, `create_socket` with so many rounds for its
search, `delete_socket`, `get_frame` on the socket at a position, or a frame around a packet for
`send_MPDU`. -/
inductive Action (H : Type*)
  | asks (host : H) (requestedIp : UInt32)
  | opens (host : H) (rounds : ℕ) (requestedPortNumber : UInt16) (protocolNumber : UInt8)
  | closes (host : H) (portNum : UInt16)
  | gets (host : H) (position : ℕ)
  | sends (host : H) (packet : IP) (destinationMac : Mac)

def Action.host {H : Type*} : Action H → H
  | .asks host _ | .opens host _ _ _ | .closes host _ | .gets host _ | .sends host _ _ => host

/-- `Socket::get_frame` on a socket whose queue is not empty. -/
def OpenSocket.getFrame (openSocket : OpenSocket) : Option OpenSocket :=
  if openSocket.rxQueue.queue = [] then none
  else some { openSocket with rxQueue := openSocket.rxQueue.takeFront }

section Parties

variable {H : Type*} [DecidableEq H] (hosts : Arp.Hosts H)

/-- A host after one of its programs has changed its sockets. -/
def Running.withSockets (core : Running H) (host : H) (openPorts : List OpenSocket) : Running H :=
  { core with
    states := Function.update core.states host { core.states host with openPorts } }

/-- A host makes frames. -/
def Running.making (core : Running H) (host : H) (frames : List MPDU) : Running H :=
  { core with made := core.made ++ frames.map fun frame ↦ (host, frame) }

/-- Each function is one step on the sockets of its host, though none of them takes a lock. The
demultiplexer of a host takes a frame. The second component of the receiver is what the
local variable of `process_ICMP_message` happens to hold. -/
def parties : Pool.Parties (Running H) (Arp.Flight H) (Action H) (H × IP) where
  act
    | .asks host requestedIp, core =>
      let frame := (hosts.address host).sendRequestARP requestedIp
      some (core.making host [frame], [⟨host, requestedIp, frame⟩])
    | .opens host rounds requestedPortNumber protocolNumber, core =>
      let openPorts := (core.states host).openPorts
      match (createSocket rounds (openPorts.map OpenSocket.socket) requestedPortNumber
          protocolNumber).toOption with
      | none => none
      | some (socket, _) =>
        some (core.withSockets host (openPorts ++ [⟨socket, .new MPDU MAX_QUEUE_LENGTH⟩]), [])
    | .closes host portNum, core =>
      some (core.withSockets host ((core.states host).openPorts.filter fun openSocket ↦
        openSocket.socket.port ≠ portNum), [])
    | .gets host position, core =>
      let openPorts := (core.states host).openPorts
      match openPorts[position]? with
      | none => none
      | some openSocket =>
        openSocket.getFrame.map fun openSocket ↦
          (core.withSockets host (openPorts.set position openSocket), [])
    | .sends host packet destinationMac, core =>
      let frame := MPDU.ofPacket packet (hosts.address host).mac destinationMac
      some (core.making host [frame], [⟨host, 0, frame⟩])
  take
    | (host, uninitialisedPacket), core, flight =>
      if Switching.accepts (hosts.address host).mac flight.frame then
        match processFrame (hosts.address host) uninitialisedPacket (core.states host).cache
            (core.states host).openPorts flight.frame with
        | none => none
        | some after =>
          let core : Running H := { core with
            states := Function.update core.states host ⟨after.cache, after.openPorts⟩ }
          some (core.making host after.sent,
            after.sent.map fun frame ↦ ⟨host, flight.requestedIp, frame⟩)
      else some (core, [])

/-- The hosts before their programs start. -/
def start : Running H := ⟨fun _ ↦ ⟨[], []⟩, []⟩

end Parties

/-! ### What `process_frame` changes -/

/-- A frame that `process_frame` gives to a socket, if it is open. -/
def Reaches (socket : Socket) (frame : MPDU) : Prop :=
  frame.SDUType = MPDU_IP_TYPE ∧ ∃ packet, IP.generate frame.SDU = some packet ∧ socket.IsFor packet

section Process

variable {host : Arp.HostAddress} {uninitialisedPacket : IP} {cache : Arp.ARPCache}
  {openPorts : List OpenSocket} {frame : MPDU} {after : Outcome}

/-- An ARP frame goes to `receive_arp`, and no socket gets it. -/
theorem of_processFrame_arp (htype : frame.SDUType = MPDU_ARP_TYPE)
    (h : processFrame host uninitialisedPacket cache openPorts frame = some after) :
    ∃ reply, host.receiveARP cache frame.SDU = some (after.cache, reply) ∧
      after.sent = reply.toList ∧ after.openPorts = openPorts := by
  rw [processFrame, if_pos htype] at h
  obtain ⟨⟨learned, reply⟩, hreceive, rfl⟩ := Option.map_eq_some_iff.mp h
  exact ⟨reply, hreceive, rfl, rfl⟩

/-- Any other frame leaves the cache as it is, and is answered with IP frames of the host, if at
all. -/
theorem of_processFrame_other (htype : frame.SDUType ≠ MPDU_ARP_TYPE)
    (h : processFrame host uninitialisedPacket cache openPorts frame = some after) :
    after.cache = cache ∧
      ∀ sent ∈ after.sent, sent.sourceMac = host.mac ∧ sent.SDUType = MPDU_IP_TYPE := by
  rw [processFrame, if_neg htype] at h
  split_ifs at h
  · cases hpacket : IP.generate frame.SDU with
    | none =>
      rw [hpacket] at h
      cases h
    | some packet =>
      simp only [hpacket] at h
      split_ifs at h
      · cases h
        exact ⟨rfl, List.forall_mem_nil _⟩
      · obtain ⟨reply, hreply, rfl⟩ := Option.map_eq_some_iff.mp h
        refine ⟨rfl, fun sent hsent ↦ ?_⟩
        simp only [Icmp.processICMPMessage, hpacket] at hreply
        cases hmessage : generateICMP packet.SDU with
        | none => simp only [hmessage, reduceCtorEq] at hreply
        | some message =>
          simp only [hmessage] at hreply
          split_ifs at hreply
          · cases hreply
            obtain rfl := List.mem_singleton.mp hsent
            exact ⟨rfl, rfl⟩
          · cases hreply
            cases hsent
      · obtain ⟨segment, -, rfl⟩ := Option.map_eq_some_iff.mp h
        exact ⟨rfl, List.forall_mem_nil _⟩
      · obtain ⟨segment, -, rfl⟩ := Option.map_eq_some_iff.mp h
        exact ⟨rfl, List.forall_mem_nil _⟩
      · cases h
        exact ⟨rfl, List.forall_mem_nil _⟩
  · cases h
    exact ⟨rfl, List.forall_mem_nil _⟩

/-- A host answers with its own address. -/
theorem sourceMac_of_processFrame
    (h : processFrame host uninitialisedPacket cache openPorts frame = some after) :
    ∀ sent ∈ after.sent, sent.sourceMac = host.mac := by
  by_cases htype : frame.SDUType = MPDU_ARP_TYPE
  · obtain ⟨reply, hreceive, hafter, -⟩ := of_processFrame_arp htype h
    intro sent hsent
    rw [hafter, Option.mem_toList] at hsent
    exact Arp.sourceMac_of_receiveARP (hreceive.trans (by rw [hsent]))
  · exact fun sent hsent ↦ ((of_processFrame_other htype h).2 sent hsent).1

/-- A socket stays as it is, or it is one for the frame and adds it to its queue. -/
theorem mem_openPorts_of_processFrame
    (hdistinct : DistinctPorts (openPorts.map OpenSocket.socket))
    (h : processFrame host uninitialisedPacket cache openPorts frame = some after)
    {later : OpenSocket} (hlater : later ∈ after.openPorts) :
    later ∈ openPorts ∨ ∃ before ∈ openPorts, later = before.addFrame frame ∧
      ∃ packet, IP.generate frame.SDU = some packet ∧ before.socket.IsFor packet := by
  obtain ⟨destination, hdestination, hfollows⟩ := exists_destination hdistinct h
  cases destination with
  | receiveArp =>
    rw [hfollows.2] at hlater
    exact .inl hlater
  | processICMPMessage =>
    rw [hfollows.2] at hlater
    exact .inl hlater
  | sockets found =>
    rw [hfollows.2, addToAll] at hlater
    obtain ⟨before, hbefore, rfl⟩ := List.mem_map.mp hlater
    split_ifs with hfound
    · exact .inr ⟨before, hbefore, rfl,
        (isFor_of_processFrame hdestination (of_decide_eq_true hfound)).2⟩
    · exact .inl hbefore

theorem length_openPorts_of_processFrame
    (hdistinct : DistinctPorts (openPorts.map OpenSocket.socket))
    (h : processFrame host uninitialisedPacket cache openPorts frame = some after) :
    after.openPorts.length = openPorts.length := by
  obtain ⟨destination, -, hfollows⟩ := exists_destination hdistinct h
  cases destination with
  | receiveArp => rw [hfollows.2]
  | processICMPMessage => rw [hfollows.2]
  | sockets found => rw [hfollows.2, addToAll, List.length_map]

/-- The only socket of a host gets the frames that reach it. -/
theorem processFrame_of_reaches {openSocket : OpenSocket}
    (h : Reaches openSocket.socket frame) :
    processFrame host uninitialisedPacket cache [openSocket] frame =
      some ⟨cache, [openSocket.addFrame frame], [], 0⟩ := by
  obtain ⟨htype, packet, hpacket, hprotocol, hfor⟩ := h
  have hip : MPDU_IP_TYPE ≠ MPDU_ARP_TYPE := by decide
  have htcp : IP_PROTOCOL_TCP ≠ IP_PROTOCOL_ICMP := by decide
  have hudp : IP_PROTOCOL_UDP ≠ IP_PROTOCOL_ICMP := by decide
  have hother : IP_PROTOCOL_UDP ≠ IP_PROTOCOL_TCP := by decide
  rw [processFrame, if_neg (by rw [htype]; exact hip), if_pos htype]
  simp only [hpacket]
  rcases hfor with hicmp | ⟨hsocket, hport⟩ | ⟨hsocket, hport⟩
  · rw [if_pos (hprotocol.trans hicmp), if_pos (by simp [hicmp])]
    simp [addToAll, hicmp]
  · obtain ⟨segment, hsegment, hsame⟩ := Option.map_eq_some_iff.mp hport
    have hpackets : packet.protocol = IP_PROTOCOL_TCP := hprotocol.trans hsocket
    rw [if_neg (by rw [hpackets]; exact htcp), if_pos hpackets, hsegment]
    simp [addToAll, hsocket, hsame]
  · obtain ⟨segment, hsegment, hsame⟩ := Option.map_eq_some_iff.mp hport
    have hpackets : packet.protocol = IP_PROTOCOL_UDP := hprotocol.trans hsocket
    rw [if_neg (by rw [hpackets]; exact hudp), if_neg (by rw [hpackets]; exact hother),
      if_pos hpackets, hsegment]
    simp [addToFirst, hsocket, hsame]

end Process

section Sources

variable {H : Type*} [DecidableEq H] {hosts : Arp.Hosts H} {core later : Running H}
  {messages : List (Arp.Flight H)}

/-- A program sends with the address of its host. -/
theorem sourceMac_of_act {action : Action H}
    (h : (parties hosts).act action core = some (later, messages)) :
    ∀ flight ∈ messages, flight.frame.sourceMac = (hosts.address action.host).mac := by
  cases action with
  | asks host requestedIp =>
    cases h
    exact List.forall_mem_singleton.mpr rfl
  | opens host rounds requestedPortNumber protocolNumber =>
    rw [parties] at h
    dsimp only at h
    split at h
    · cases h
    · cases h
      exact nofun
  | closes host portNum =>
    cases h
    exact nofun
  | gets host position =>
    rw [parties] at h
    dsimp only at h
    split at h
    · cases h
    · obtain ⟨read, -, hread⟩ := Option.map_eq_some_iff.mp h
      cases hread
      exact nofun
  | sends host packet destinationMac =>
    cases h
    exact List.forall_mem_singleton.mpr rfl

/-- So does the demultiplexer. -/
theorem sourceMac_of_take {receiver : H × IP} {flight : Arp.Flight H}
    (h : (parties hosts).take receiver core flight = some (later, messages)) :
    ∀ reply ∈ messages, reply.frame.sourceMac = (hosts.address receiver.1).mac := by
  rw [parties] at h
  dsimp only at h
  split_ifs at h with haccepts
  · cases hprocess : processFrame (hosts.address receiver.1) receiver.2
        (core.states receiver.1).cache (core.states receiver.1).openPorts flight.frame with
    | none =>
      rw [hprocess] at h
      cases h
    | some after =>
      rw [hprocess] at h
      cases h
      intro reply hreply
      obtain ⟨frame, hframe, rfl⟩ := List.mem_map.mp hreply
      exact sourceMac_of_processFrame hprocess frame hframe
  · cases h
    exact nofun

end Sources

/-! ### The invariant -/

section Invariant

variable {H : Type*}

/-- What waits in a socket was made by a host, accepted by this one and is for the socket, and there
is no more of it than the queue holds. -/
structure Waits (made : List (H × MPDU)) (mac : Mac) (openSocket : OpenSocket) : Prop where
  bound : openSocket.rxQueue.maxEntries = MAX_QUEUE_LENGTH
  length : openSocket.rxQueue.queue.length ≤ MAX_QUEUE_LENGTH
  frames : ∀ frame ∈ openSocket.rxQueue.queue, (∃ maker, (maker, frame) ∈ made) ∧
    Switching.accepts mac frame = true ∧
      ∃ packet, IP.generate frame.SDU = some packet ∧ openSocket.socket.IsFor packet

/-- True caches, frames with the address of their maker, at most one socket to a host, and in it
only what belongs there. -/
structure Orderly (hosts : Arp.Hosts H) (core : Running H) : Prop where
  caches : ∀ host, Arp.Sound hosts (core.states host).cache
  own : ∀ made ∈ core.made, made.2.sourceMac = (hosts.address made.1).mac
  single : ∀ host, (core.states host).openPorts.length ≤ 1
  waits : ∀ host, ∀ openSocket ∈ (core.states host).openPorts,
    Waits core.made (hosts.address host).mac openSocket

/-- A frame in flight was made by its maker, and if it is an ARP frame it tells the truth. -/
def Fits (hosts : Arp.Hosts H) (core : Running H) (flight : Arp.Flight H) : Prop :=
  (flight.maker, flight.frame) ∈ core.made ∧
    (flight.frame.SDUType = MPDU_ARP_TYPE →
      Arp.Fits hosts (fun host ↦ (core.states host).cache) flight)

variable {hosts : Arp.Hosts H} {core later : Running H} {made more : List (H × MPDU)} {mac : Mac}
  {openSocket : OpenSocket}

theorem Waits.mono (h : Waits made mac openSocket) (hmade : made ⊆ more) :
    Waits more mac openSocket where
  bound := h.bound
  length := h.length
  frames frame hframe :=
    let ⟨⟨maker, hmaker⟩, hrest⟩ := h.frames frame hframe
    ⟨⟨maker, hmade hmaker⟩, hrest⟩

theorem Fits.mono {flight : Arp.Flight H} (h : Fits hosts core flight)
    (hmade : core.made ⊆ later.made) : Fits hosts later flight :=
  ⟨hmade h.1, h.2⟩

theorem waits_new (socket : Socket) : Waits made mac ⟨socket, .new MPDU MAX_QUEUE_LENGTH⟩ :=
  ⟨rfl, Nat.zero_le _, fun _ hframe ↦ by cases hframe⟩

/-- A socket adds a frame that is for it, if it has room. -/
theorem Waits.addFrame (h : Waits made mac openSocket) {frame : MPDU} {maker : H} {packet : IP}
    (hmaker : (maker, frame) ∈ made) (haccepts : Switching.accepts mac frame = true)
    (hpacket : IP.generate frame.SDU = some packet) (hfor : openSocket.socket.IsFor packet) :
    Waits made mac (openSocket.addFrame frame) := by
  by_cases hroom : openSocket.HasRoom
  · have hqueue := OpenSocket.queue_addFrame hroom frame
    refine ⟨?_, ?_, ?_⟩
    · rw [OpenSocket.addFrame, WorkQueue.add, if_neg (Nat.not_le.mpr hroom)]
      exact h.bound
    · rw [hqueue, List.length_append, List.length_singleton, ← h.bound]
      exact hroom
    · rw [hqueue]
      intro held hheld
      rcases List.mem_append.mp hheld with hbefore | hnew
      · exact h.frames held hbefore
      · obtain rfl := List.mem_singleton.mp hnew
        exact ⟨⟨maker, hmaker⟩, haccepts, packet, hpacket, hfor⟩
  · rwa [OpenSocket.addFrame_eq_self_iff.mpr hroom]

/-- Reading a socket takes the front of its queue. -/
theorem Waits.getFrame (h : Waits made mac openSocket) {read : OpenSocket}
    (hread : openSocket.getFrame = some read) : Waits made mac read := by
  rw [OpenSocket.getFrame] at hread
  split_ifs at hread with hempty
  obtain rfl := Option.some.inj hread
  obtain ⟨front, rest, hqueue⟩ := List.exists_cons_of_ne_nil hempty
  have htaken : openSocket.rxQueue.takeFront.queue = rest := by
    rw [WorkQueue.takeFront, hqueue]
  have hbound : openSocket.rxQueue.takeFront.maxEntries = openSocket.rxQueue.maxEntries := by
    rw [WorkQueue.takeFront, hqueue]
  have hlength := h.length
  rw [hqueue, List.length_cons] at hlength
  refine ⟨hbound.trans h.bound, ?_, ?_⟩
  · change openSocket.rxQueue.takeFront.queue.length ≤ _
    rw [htaken]
    omega
  · change ∀ frame ∈ openSocket.rxQueue.takeFront.queue, _
    rw [htaken]
    exact fun frame hframe ↦ h.frames frame (by rw [hqueue]; exact List.mem_cons_of_mem _ hframe)

variable [DecidableEq H]

omit [DecidableEq H] in
theorem Orderly.making (h : Orderly hosts core) (host : H) {frames : List MPDU}
    (hframes : ∀ frame ∈ frames, frame.sourceMac = (hosts.address host).mac) :
    Orderly hosts (core.making host frames) where
  caches := h.caches
  own := by
    rintro made hmade
    rcases List.mem_append.mp hmade with hbefore | hnew
    · exact h.own made hbefore
    · obtain ⟨frame, hframe, rfl⟩ := List.mem_map.mp hnew
      exact hframes frame hframe
  single := h.single
  waits other openSocket hopen := (h.waits other openSocket hopen).mono (List.subset_append_left _ _)

theorem Orderly.update (h : Orderly hosts core) {host : H} {state : HostState}
    (hcache : Arp.Sound hosts state.cache) (hsingle : state.openPorts.length ≤ 1)
    (hwaits : ∀ openSocket ∈ state.openPorts, Waits core.made (hosts.address host).mac openSocket) :
    Orderly hosts { core with states := Function.update core.states host state } where
  caches := (Function.forall_update_iff core.states (p := fun _ state ↦
    Arp.Sound hosts state.cache)).mpr ⟨hcache, fun other _ ↦ h.caches other⟩
  own := h.own
  single := (Function.forall_update_iff core.states (p := fun _ state ↦
    state.openPorts.length ≤ 1)).mpr ⟨hsingle, fun other _ ↦ h.single other⟩
  waits := (Function.forall_update_iff core.states (p := fun host state ↦
    ∀ openSocket ∈ state.openPorts, Waits core.made (hosts.address host).mac openSocket)).mpr
      ⟨hwaits, fun other _ ↦ h.waits other⟩

/-- A program that changes the sockets of its host sends nothing. -/
theorem keeps_withSockets (h : Orderly hosts core) {host : H} {openPorts : List OpenSocket}
    (hsingle : openPorts.length ≤ 1)
    (hwaits : ∀ openSocket ∈ openPorts, Waits core.made (hosts.address host).mac openSocket) :
    Pool.Parties.Keeps (Orderly hosts) (Fits hosts) core (core.withSockets host openPorts, []) :=
  ⟨h.update (h.caches host) hsingle hwaits, fun _ hflight ↦ hflight.mono (List.Subset.refl _), nofun⟩

omit [DecidableEq H] in
/-- A frame that a host makes. -/
theorem fits_making {host : H} {frames : List MPDU} {frame : MPDU} {requestedIp : UInt32}
    (hframe : frame ∈ frames)
    (htrue : frame.SDUType = MPDU_ARP_TYPE →
      Arp.Fits hosts (fun host ↦ (core.states host).cache) ⟨host, requestedIp, frame⟩) :
    Fits hosts (core.making host frames) ⟨host, requestedIp, frame⟩ :=
  ⟨List.mem_append_right _ (List.mem_map_of_mem hframe), htrue⟩

/-- Whatever a program does. -/
theorem keeps_act (action : Action H) (core : Running H)
    (outcome : Running H × List (Arp.Flight H)) (h : Orderly hosts core)
    (hact : (parties hosts).act action core = some outcome) :
    Pool.Parties.Keeps (Orderly hosts) (Fits hosts) core outcome := by
  cases action with
  | asks host requestedIp =>
    obtain rfl := Option.some.inj hact
    refine ⟨h.making host (List.forall_mem_singleton.mpr rfl),
      fun _ hflight ↦ hflight.mono (List.subset_append_left _ _), ?_⟩
    exact List.forall_mem_singleton.mpr
      (fits_making (List.mem_singleton_self _) fun _ ↦ Arp.fits_request _ host requestedIp)
  | opens host rounds requestedPortNumber protocolNumber =>
    change (match (createSocket rounds ((core.states host).openPorts.map OpenSocket.socket)
      requestedPortNumber protocolNumber).toOption with
      | none => none
      | some (socket, _) => some (core.withSockets host ((core.states host).openPorts ++
          [⟨socket, .new MPDU MAX_QUEUE_LENGTH⟩]), [])) = some outcome at hact
    -- the call returns only where no socket is open
    by_cases hopen : (core.states host).openPorts = []
    · rw [hopen, List.map_nil, createSocket_nil] at hact
      obtain rfl := Option.some.inj hact
      exact keeps_withSockets h le_rfl (List.forall_mem_singleton.mpr (waits_new _))
    · rw [createSocket_diverges fun hnil ↦ hopen (List.map_eq_nil_iff.mp hnil)] at hact
      cases hact
  | closes host portNum =>
    obtain rfl := Option.some.inj hact
    exact keeps_withSockets h ((List.length_filter_le _ _).trans (h.single host))
      fun openSocket hopen ↦ h.waits host openSocket (List.mem_filter.mp hopen).1
  | gets host position =>
    change (match (core.states host).openPorts[position]? with
      | none => none
      | some openSocket => openSocket.getFrame.map fun openSocket ↦
          (core.withSockets host ((core.states host).openPorts.set position openSocket), [])) =
        some outcome at hact
    cases hsocket : (core.states host).openPorts[position]? with
    | none =>
      rw [hsocket] at hact
      cases hact
    | some openSocket =>
      rw [hsocket] at hact
      obtain ⟨read, hread, rfl⟩ := Option.map_eq_some_iff.mp hact
      refine keeps_withSockets h (by rw [List.length_set]; exact h.single host) ?_
      intro other hother
      rcases List.mem_or_eq_of_mem_set hother with hbefore | rfl
      · exact h.waits host other hbefore
      · exact (h.waits host openSocket (List.mem_of_getElem? hsocket)).getFrame hread
  | sends host packet destinationMac =>
    have hip : MPDU_IP_TYPE ≠ MPDU_ARP_TYPE := by decide
    obtain rfl := Option.some.inj hact
    refine ⟨h.making host (List.forall_mem_singleton.mpr rfl),
      fun _ hflight ↦ hflight.mono (List.subset_append_left _ _), ?_⟩
    exact List.forall_mem_singleton.mpr
      (fits_making (List.mem_singleton_self _) fun harp ↦ absurd harp hip)

/-- A true message leaves the cache true, and is answered truthfully. -/
theorem Orderly.of_process (h : Orderly hosts core) {host : H} {uninitialisedPacket : IP}
    {flight : Arp.Flight H} {after : Outcome} (hfits : Fits hosts core flight)
    (haccepts : Switching.accepts (hosts.address host).mac flight.frame = true)
    (hprocess : processFrame (hosts.address host) uninitialisedPacket (core.states host).cache
      (core.states host).openPorts flight.frame = some after) :
    Arp.Sound hosts after.cache ∧
      ∀ frame ∈ after.sent, frame.SDUType = MPDU_ARP_TYPE →
        Arp.Fits hosts (fun host ↦ (core.states host).cache) ⟨host, flight.requestedIp, frame⟩ := by
  by_cases harp : flight.frame.SDUType = MPDU_ARP_TYPE
  · obtain ⟨reply, hreceive, hsent, -⟩ := of_processFrame_arp harp hprocess
    have htake : (Arp.parties hosts).take host (fun host ↦ (core.states host).cache) flight =
        some (Function.update (fun host ↦ (core.states host).cache) host after.cache,
          reply.toList.map fun frame ↦ ⟨host, flight.requestedIp, frame⟩) := by
      rw [Arp.parties]
      dsimp only
      rw [if_pos haccepts, hreceive]
    obtain ⟨hcaches, -, hreplies⟩ :=
      Arp.keeps_take host _ flight _ h.caches (hfits.2 harp) htake
    have hcache : Arp.Sound hosts
        (Function.update (fun host ↦ (core.states host).cache) host after.cache host) :=
      hcaches host
    rw [Function.update_self] at hcache
    refine ⟨hcache, fun frame hframe _ ↦ hreplies _ (List.mem_map_of_mem ?_)⟩
    rwa [← hsent]
  · have hip : MPDU_IP_TYPE ≠ MPDU_ARP_TYPE := by decide
    obtain ⟨hcache, hsent⟩ := of_processFrame_other harp hprocess
    refine ⟨hcache ▸ h.caches host, fun frame hframe htype ↦ ?_⟩
    exact absurd ((hsent frame hframe).2.symm.trans htype) hip

/-- Whatever the demultiplexer takes. -/
theorem keeps_take (receiver : H × IP) (core : Running H) (flight : Arp.Flight H)
    (outcome : Running H × List (Arp.Flight H)) (h : Orderly hosts core)
    (hfits : Fits hosts core flight)
    (htake : (parties hosts).take receiver core flight = some outcome) :
    Pool.Parties.Keeps (Orderly hosts) (Fits hosts) core outcome := by
  obtain ⟨host, uninitialisedPacket⟩ := receiver
  rw [parties] at htake
  dsimp only at htake
  split_ifs at htake with haccepts
  · cases hprocess : processFrame (hosts.address host) uninitialisedPacket (core.states host).cache
        (core.states host).openPorts flight.frame with
    | none =>
      rw [hprocess] at htake
      cases htake
    | some after =>
      rw [hprocess] at htake
      obtain rfl := Option.some.inj htake
      have hdistinct : DistinctPorts ((core.states host).openPorts.map OpenSocket.socket) := by
        refine List.nodup_iff_injective_get.mpr fun first second _ ↦ ?_
        have hfirst := first.isLt
        have hsecond := second.isLt
        have hsingle := h.single host
        simp only [List.length_map] at hfirst hsecond
        ext
        omega
      have hwaits : ∀ openSocket ∈ after.openPorts,
          Waits core.made (hosts.address host).mac openSocket := by
        intro later hlater
        rcases mem_openPorts_of_processFrame hdistinct hprocess hlater with
          hbefore | ⟨before, hbefore, rfl, packet, hpacket, hfor⟩
        · exact h.waits host later hbefore
        · exact (h.waits host before hbefore).addFrame hfits.1 haccepts hpacket hfor
      have hsingle : after.openPorts.length ≤ 1 := by
        rw [length_openPorts_of_processFrame hdistinct hprocess]
        exact h.single host
      obtain ⟨hcache, hsent⟩ := h.of_process hfits haccepts hprocess
      refine ⟨(h.update hcache hsingle hwaits).making host (sourceMac_of_processFrame hprocess),
        fun _ hflight ↦ hflight.mono (List.subset_append_left _ _), ?_⟩
      intro reply hreply
      obtain ⟨frame, hframe, rfl⟩ := List.mem_map.mp hreply
      exact ⟨List.mem_append_right _ (List.mem_map_of_mem hframe), hsent frame hframe⟩
  · obtain rfl := Option.some.inj htake
    exact ⟨h, fun _ hflight ↦ hflight, nofun⟩

/-! ### Runs -/

/-- The hosts over a network that may lose, repeat, delay and reorder frames. -/
def network (hosts : Arp.Hosts H) :
    ScheduledSystem (Pool (Running H) (Arp.Flight H)) (Pool.Event (Action H) (H × IP)) :=
  (parties hosts).system start

omit [DecidableEq H] in
theorem orderly_start : Orderly hosts (start : Running H) where
  caches _ := ⟨nofun, List.nodup_nil⟩
  own _ hmade := by cases hmade
  single _ := Nat.zero_le _
  waits _ _ hopen := by cases hopen

end Invariant

end NetworkSimulation.Host
