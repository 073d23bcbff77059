import NetworkSimulation.Icmp.Replies

/-!
# No ping is stranded while no socket is closed on a request

A ping that waits has exactly one message under way: its request, in whatever place that is, or the
reply to it (`Accounted`). Every step moves such a message or turns it into the reply, with two
exceptions. A ping takes the reply to itself; and `delete_socket` throws away what is still in the
socket, and what the demultiplexer is about to add to it. The last reply to one ping may be followed
in its socket, or on the way there, by a request of the other, which then waits for a reply that
nobody sends (`not_never_stranded`, `not_never_stranded_between`). Without that no ping is stranded
(`never_stranded`).
-/

set_option autoImplicit false
set_option relaxedAutoImplicit false

namespace NetworkSimulation.Icmp

open Library Stack

/-! ### What is where -/

/-- The host that made the frames of a place. -/
def Place.maker : Place → Bool
  | .wire sender => sender
  | .socket host => !host
  | .adding host => !host
  | .demuxer host => host
  | .answering host => host

/-- A frame is in a socket, or about to be put there. -/
def Place.forSocket : Place → Bool
  | .socket _ | .adding _ => true
  | .wire _ | .demuxer _ | .answering _ => false

/-- A frame of a place: an ICMP message that the other host accepts, or, but not for a socket, an ARP
message with the pair of its maker. -/
inductive Fits (hosts : Arp.Hosts Bool) (place : Place) (frame : MPDU) : Prop
  | arp (hplace : place.forSocket = false) (htype : frame.SDUType = MPDU_ARP_TYPE)
      (message : ARP)
      (hmessage : generateARP frame.SDU = some message)
      (hmac : message.senderMac = (hosts.address place.maker).mac)
      (hip : message.senderIp = (hosts.address place.maker).ip)
  | icmp (message : ICMP) (hcarries : CarriesICMP frame message)
      (hlength : message.payload.length ≤ 48)
      (htype : message.type = ICMP_ECHO_REQUEST ∨ message.type = ICMP_ECHO_REPLY)
      (hsource : frame.sourceMac = (hosts.address place.maker).mac)
      (haccepts : Switching.accepts (hosts.address !place.maker).mac frame = true)

/-- One for a message that the ping of a host waits for, its request or the reply to it; else
zero. -/
def awaited (side : Bool) (place : Place) (frame : MPDU) : ℕ :=
  if icmpType frame =
      some (if place.maker = side then ICMP_ECHO_REQUEST else ICMP_ECHO_REPLY) then 1
  else 0

/-- A ping that knows where to send, and what, when it comes to that. -/
structure Ready (pair : Pair) (side : Bool) (pinger : Pinger) : Prop where
  destination : pinger.point ≠ .start → pinger.point ≠ .resolving →
    compareMacs pinger.destinationMac (pair.hosts.address !side).mac = true
  message : pinger.openPorts ≠ [] →
    pinger.pingToSend.type = ICMP_ECHO_REQUEST ∧ pinger.ipToSend.headerLength = 12

/-- Caches are true, frames are where they can be, and a ping that waits has one message under
way. -/
structure Accounted (pair : Pair) (world : World) : Prop where
  cache : ∀ side, Arp.Sound pair.hosts (world.pingers side).cache
  ready : ∀ side, Ready pair side (world.pingers side)
  fits : ∀ place, ∀ frame ∈ world.places place, Fits pair.hosts place frame
  tokens : ∀ side, world.places.weight (awaited side) = (world.pingers side).awaits

section Ready

variable {pair : Pair} {side : Bool} {pinger : Pinger}

/-- What a ping with an open socket knows. -/
theorem Ready.of_open (h : Ready pair side pinger) (hopen : pinger.openPorts ≠ []) :
    compareMacs pinger.destinationMac (pair.hosts.address !side).mac = true ∧
      pinger.pingToSend.type = ICMP_ECHO_REQUEST ∧ pinger.ipToSend.headerLength = 12 := by
  refine ⟨h.destination ?_ ?_, h.message hopen⟩
  · intro hstart
    exact hopen (by rw [Pinger.openPorts, hstart])
  · intro hresolving
    exact hopen (by rw [Pinger.openPorts, hresolving])

/-- A ping with an open socket stays ready while it sends the same to the same host. -/
theorem Ready.keep (h : Ready pair side pinger) (hopen : pinger.openPorts ≠ []) {next : Pinger}
    (hdestination : next.destinationMac = pinger.destinationMac)
    (htype : next.pingToSend.type = pinger.pingToSend.type)
    (hheader : next.ipToSend.headerLength = pinger.ipToSend.headerLength) :
    Ready pair side next := by
  obtain ⟨hknown, hrequest, hlength⟩ := h.of_open hopen
  rw [← hdestination] at hknown
  exact ⟨fun _ _ ↦ hknown, fun _ ↦ ⟨htype.trans hrequest, hheader.trans hlength⟩⟩

end Ready

section Tokens

variable {side : Bool} {place place' : Place} {frame reply : MPDU} {kind : UInt8}

theorem awaited_of_arp (h : icmpType frame = none) : awaited side place frame = 0 := by
  rw [awaited, h, if_neg (by simp)]

/-- A frame counts the same wherever its maker's frames are. -/
theorem awaited_congr (h : place.maker = place'.maker) :
    awaited side place frame = awaited side place' frame := by
  rw [awaited, awaited, h]

/-- A request counts for its maker and a reply for the other host. -/
theorem awaited_of_type (h : icmpType frame = some kind) : awaited side place frame =
    if kind = (if place.maker = side then ICMP_ECHO_REQUEST else ICMP_ECHO_REPLY) then 1 else 0 := by
  rw [awaited, h]
  simp only [Option.some.injEq]

/-- The reply of the other host counts as the request did. -/
theorem awaited_answer (hrequest : icmpType frame = some ICMP_ECHO_REQUEST)
    (hreply : icmpType reply = some ICMP_ECHO_REPLY) (h : place'.maker = !place.maker) :
    awaited side place' reply = awaited side place frame := by
  have hkinds : ICMP_ECHO_REQUEST ≠ ICMP_ECHO_REPLY := by decide
  rw [awaited_of_type hrequest, awaited_of_type hreply, h]
  cases place.maker <;> cases side <;> simp [hkinds, hkinds.symm]

end Tokens

/-- A frame that is moved, but not towards a socket, still fits. -/
theorem Fits.relocate {hosts : Arp.Hosts Bool} {place place' : Place} {frame : MPDU}
    (h : Fits hosts place frame) (hmaker : place'.maker = place.maker)
    (hplace : place.forSocket = false → place'.forSocket = false) : Fits hosts place' frame := by
  cases h with
  | arp hbefore htype message hmessage hmac hip =>
    exact .arp (hplace hbefore) htype message hmessage (hmaker ▸ hmac) (hmaker ▸ hip)
  | icmp message hcarries hlength htype hsource haccepts =>
    exact .icmp message hcarries hlength htype (hmaker ▸ hsource) (hmaker ▸ haccepts)

section Proceed

variable {pair : Pair} {world : World} {side : Bool} {pinger : Pinger}
  {places : QueueFamily Place MPDU} {frames : List (Place × MPDU)}

theorem eq_or_eq_not (side other : Bool) : other = side ∨ other = !side := by
  cases side <;> cases other <;> simp

/-- A thread of a host that keeps the account: what it puts somewhere and what was taken before add
up for both hosts. -/
theorem Accounted.proceed (h : Accounted pair world) (hcache : Arp.Sound pair.hosts pinger.cache)
    (hready : Ready pair side pinger)
    (hplaces : ∀ place, ∀ frame ∈ places place, frame ∈ world.places place)
    (hframes : ∀ place frame, (place, frame) ∈ frames → Fits pair.hosts place frame)
    (hself : places.weight (awaited side) + (frames.map fun item ↦ awaited side item.1 item.2).sum =
      pinger.awaits)
    (hother : places.weight (awaited !side) +
        (frames.map fun item ↦ awaited (!side) item.1 item.2).sum =
      world.places.weight (awaited !side)) :
    Accounted pair (({ world with places } : World).proceed side pinger frames) where
  cache := (Function.forall_update_iff world.pingers (p := fun _ pinger ↦
    Arp.Sound pair.hosts pinger.cache)).mpr ⟨hcache, fun other _ ↦ h.cache other⟩
  ready := (Function.forall_update_iff world.pingers (p := fun side pinger ↦
    Ready pair side pinger)).mpr ⟨hready, fun other _ ↦ h.ready other⟩
  fits place frame hframe := by
    rcases QueueFamily.mem_addAll.mp hframe with hold | hnew
    · exact h.fits place frame (hplaces place frame hold)
    · exact hframes place frame hnew
  tokens other := by
    change QueueFamily.weight _ (places.addAll frames) =
      (Function.update world.pingers side pinger other).awaits
    rw [QueueFamily.weight_addAll]
    rcases eq_or_eq_not side other with rfl | rfl
    · rw [Function.update_self, hself]
    · rw [Function.update_of_ne (Bool.not_ne_self side), hother, h.tokens]

/-- A step that moves no frame. -/
theorem Accounted.silent (h : Accounted pair world) (hcache : Arp.Sound pair.hosts pinger.cache)
    (hready : Ready pair side pinger) (hawaits : pinger.awaits = (world.pingers side).awaits) :
    Accounted pair (world.proceed side pinger []) :=
  h.proceed hcache hready (fun _ _ hframe ↦ hframe) nofun
    ((h.tokens side).trans hawaits.symm) rfl

/-- A step that takes a frame and puts down what counts the same. -/
theorem Accounted.moved (h : Accounted pair world) {place : Place} {frame : MPDU}
    (hremove : world.places.remove place = some (frame, places))
    (hcache : Arp.Sound pair.hosts pinger.cache) (hready : Ready pair side pinger)
    (hframes : ∀ place frame, (place, frame) ∈ frames → Fits pair.hosts place frame)
    (hcount : ∀ other, (frames.map fun item ↦ awaited other item.1 item.2).sum =
      awaited other place frame)
    (hawaits : pinger.awaits = (world.pingers side).awaits) :
    Accounted pair (({ world with places } : World).proceed side pinger frames) := by
  have hweight (other : Bool) : world.places.weight (awaited other) =
      places.weight (awaited other) + awaited other place frame := QueueFamily.weight_remove hremove
  refine h.proceed hcache hready (fun _ _ hheld ↦ QueueFamily.mem_of_remove hremove hheld) hframes
    ?_ ?_
  · rw [hcount, ← hweight, h.tokens, hawaits]
  · rw [hcount, ← hweight]

/-- A step that takes one frame and puts down one that counts the same. -/
theorem Accounted.movedTo (h : Accounted pair world) {place place' : Place} {frame frame' : MPDU}
    (hremove : world.places.remove place = some (frame, places))
    (hcache : Arp.Sound pair.hosts pinger.cache) (hready : Ready pair side pinger)
    (hfits : Fits pair.hosts place' frame')
    (hcount : ∀ other, awaited other place' frame' = awaited other place frame)
    (hawaits : pinger.awaits = (world.pingers side).awaits) :
    Accounted pair (({ world with places } : World).proceed side pinger [(place', frame')]) := by
  refine h.moved hremove hcache hready ?_ ?_ hawaits
  · intro destination moved hmoved
    obtain ⟨rfl, rfl⟩ := Prod.mk.inj (List.mem_singleton.mp hmoved)
    exact hfits
  · intro other
    rw [List.map_singleton, List.sum_singleton]
    exact hcount other

end Proceed

/-- A request that is about to be added to a socket finds it open. -/
def World.AddsToOpen (world : World) : Prop :=
  ∀ side, ∀ frame ∈ world.places (.adding side), icmpType frame = some ICMP_ECHO_REQUEST →
    (world.pingers side).openPorts ≠ []

/-! ### The steps of a ping -/

section Ping

variable {pair : Pair} {world : World} {side : Bool}

/-- A look-up that does not fail gives the address of the other host. -/
theorem compareMacs_getMac {cache : Arp.ARPCache} (hcache : Arp.Sound pair.hosts cache)
    (hfound : ¬ isBroadcast (cache.getMac (pair.hosts.address !side).ip) = true) :
    compareMacs (cache.getMac (pair.hosts.address !side).ip)
      (pair.hosts.address !side).mac = true := by
  rw [Bool.not_eq_true] at hfound
  obtain ⟨owner, hip, hmac⟩ := hcache.1 _ (Arp.ARPCache.mem_of_getMac hfound)
  have howner : owner = !side := pair.hosts.ip_injective hip.symm
  dsimp only at hmac
  rw [hmac, howner]
  exact compareMacs_self _

theorem Accounted.start (h : Accounted pair world) (hpoint : (world.pingers side).point = .start) :
    Accounted pair (world.proceed side ((pair.call side).start (world.pingers side)).1
      (((pair.call side).start (world.pingers side)).2.toList.map fun request ↦
        (.wire side, request))) := by
  have hidle : (world.pingers side).awaits = 0 := by rw [Pinger.awaits, hpoint]
  have hcache := h.cache side
  dsimp only [PingCall.start, Pair.call]
  split_ifs with hsubnet hbroadcast
  · have hrequest : Fits pair.hosts (.wire side)
        ((pair.hosts.address side).sendRequestARP (pair.hosts.address !side).ip) :=
      .arp rfl rfl _ (Arp.generateARP_sendARP (pair.hosts.length_mac side) rfl _) rfl rfl
    have hnone (other : Bool) : awaited other (.wire side)
        ((pair.hosts.address side).sendRequestARP (pair.hosts.address !side).ip) = 0 :=
      awaited_of_arp (icmpType_of_arp rfl)
    refine h.proceed hcache ⟨nofun, nofun⟩ (fun _ _ hframe ↦ hframe) ?_ ?_ ?_
    · intro place frame hframe
      obtain ⟨rfl, rfl⟩ := Prod.mk.inj (List.mem_singleton.mp hframe)
      exact hrequest
    · rw [h.tokens, hidle]
      simp only [Option.toList_some, List.map_cons, List.map_nil, List.sum_cons, List.sum_nil, hnone]
      rfl
    · simp only [Option.toList_some, List.map_cons, List.map_nil, List.sum_cons, List.sum_nil, hnone,
        add_zero]
  · refine h.silent hcache ⟨fun _ _ ↦ ?_, nofun⟩ hidle.symm
    exact compareMacs_getMac hcache hbroadcast
  · refine h.silent hcache ⟨fun _ _ ↦ ?_, nofun⟩ hidle.symm
    exact (pair.routed side).resolve_left hsubnet

theorem Accounted.resolve (h : Accounted pair world) {pinger : Pinger}
    (hpoint : (world.pingers side).point = .resolving)
    (hresolve : (pair.call side).resolve (world.pingers side) = some pinger) :
    Accounted pair (world.proceed side pinger []) := by
  have hidle : (world.pingers side).awaits = 0 := by rw [Pinger.awaits, hpoint]
  have hcache := h.cache side
  dsimp only [PingCall.resolve, Pair.call] at hresolve
  split_ifs at hresolve with hbroadcast
  obtain rfl := Option.some.inj hresolve
  refine h.silent hcache ⟨fun _ _ ↦ ?_, nofun⟩ hidle.symm
  exact compareMacs_getMac hcache hbroadcast

theorem Accounted.createSocket (h : Accounted pair world)
    (hpoint : (world.pingers side).point = .createSocket) :
    Accounted pair (world.proceed side ((pair.call side).createSocket (world.pingers side)) []) := by
  have hidle : (world.pingers side).awaits = 0 := by rw [Pinger.awaits, hpoint]
  refine h.silent (h.cache side) ⟨fun _ _ ↦ ?_, fun _ ↦ ⟨rfl, rfl⟩⟩ hidle.symm
  exact (h.ready side).destination (by simp [hpoint]) (by simp [hpoint])

theorem Accounted.sendRequest (h : Accounted pair world)
    (hpoint : (world.pingers side).point = .sendRequest) :
    Accounted pair (world.proceed side ((pair.call side).sendRequest (world.pingers side)).1
      [(.wire side, ((pair.call side).sendRequest (world.pingers side)).2)]) := by
  have hidle : (world.pingers side).awaits = 0 := by rw [Pinger.awaits, hpoint]
  have hopen : (world.pingers side).openPorts ≠ [] := by simp [Pinger.openPorts, hpoint]
  obtain ⟨hdestination, htype, hheader⟩ := (h.ready side).of_open hopen
  have hcarries : CarriesICMP ((pair.call side).sendRequest (world.pingers side)).2
      { (world.pingers side).pingToSend with
        sequenceNumber := (world.pingers side).pingToSend.sequenceNumber + 1
        payload := pingPayload } := by
    refine carriesICMP_ofPacket hheader ?_ _ _
    change pingPayload.length ≤ 65515
    decide
  have hkind : icmpType ((pair.call side).sendRequest (world.pingers side)).2 =
      some ICMP_ECHO_REQUEST := hcarries.icmpType htype
  have haccepts : Switching.accepts (pair.hosts.address !side).mac
      ((pair.call side).sendRequest (world.pingers side)).2 = true :=
    (Bool.or_eq_true _ _).mpr (.inl hdestination)
  refine h.proceed (h.cache side) ((h.ready side).keep hopen rfl rfl rfl)
    (fun _ _ hframe ↦ hframe) ?_ ?_ ?_
  · intro place frame hframe
    obtain ⟨rfl, rfl⟩ := Prod.mk.inj (List.mem_singleton.mp hframe)
    exact .icmp _ hcarries (by change pingPayload.length ≤ 48; decide) (.inl htype) rfl haccepts
  · have hone : awaited side (.wire side)
        ((pair.call side).sendRequest (world.pingers side)).2 = 1 := by
      rw [awaited_of_type hkind, Place.maker, if_pos rfl, if_pos rfl]
    rw [h.tokens, hidle, List.map_singleton, List.sum_singleton, hone]
    rfl
  · have hzero : awaited (!side) (.wire side)
        ((pair.call side).sendRequest (world.pingers side)).2 = 0 := by
      rw [awaited_of_type hkind, Place.maker, if_neg (Bool.not_ne_self side).symm, if_neg (by decide)]
    rw [List.map_singleton, List.sum_singleton, hzero, add_zero]

theorem Accounted.checkCount (h : Accounted pair world)
    (hpoint : (world.pingers side).point = .gotReply) :
    Accounted pair (world.proceed side (PingCall.checkCount (world.pingers side)) []) := by
  have hidle : (world.pingers side).awaits = 0 := by rw [Pinger.awaits, hpoint]
  have hopen : (world.pingers side).openPorts ≠ [] := by simp [Pinger.openPorts, hpoint]
  rw [PingCall.checkCount]
  split_ifs
  · exact h.silent (h.cache side) ((h.ready side).keep hopen rfl rfl rfl) hidle.symm
  · exact h.silent (h.cache side) ((h.ready side).keep hopen rfl rfl rfl) hidle.symm

/-- A host that answers a request that has come to it. -/
theorem fits_reply (place : Place) {place' : Place} {frame reply : MPDU} {message : ICMP}
    (hlength : message.payload.length ≤ 48)
    (hcarries : CarriesICMP reply { message with type := ICMP_ECHO_REPLY })
    (hframe : frame.sourceMac = (pair.hosts.address place.maker).mac)
    (hmaker : place'.maker = !place.maker)
    (hsource : reply.sourceMac = (pair.hosts.address place'.maker).mac)
    (hdestination : reply.destinationMac = frame.sourceMac) : Fits pair.hosts place' reply := by
  refine .icmp _ hcarries hlength (.inr rfl) hsource ((Bool.or_eq_true _ _).mpr (.inl ?_))
  rw [hdestination, hframe, hmaker, Bool.not_not]
  exact compareMacs_self _

theorem Accounted.getFrame (h : Accounted pair world) {rxFrame : MPDU}
    {places : QueueFamily Place MPDU} {pinger : Pinger} {reply : Option MPDU}
    (hpoint : (world.pingers side).point = .waitReply)
    (hremove : world.places.remove (.socket side) = some (rxFrame, places))
    (hget : (pair.call side).getFrame (world.pingers side) rxFrame = some (pinger, reply)) :
    Accounted pair (({ world with places } : World).proceed side pinger
      (reply.toList.map fun reply ↦ (.answering side, reply))) := by
  have hwaits : (world.pingers side).awaits = 1 := by rw [Pinger.awaits, hpoint]
  have hopen : (world.pingers side).openPorts ≠ [] := by simp [Pinger.openPorts, hpoint]
  have hmaker : (Place.answering side).maker = !(Place.socket side).maker := (Bool.not_not side).symm
  rcases h.fits _ _ (QueueFamily.item_mem_of_remove hremove) with
    ⟨hplace, -⟩ | ⟨message, hcarries, hlength, htype, hsource, -⟩
  · cases hplace
  rw [PingCall.getFrame, hcarries.icmpMessage] at hget
  rcases htype with htype | htype
  · obtain ⟨answer, hanswer, hmac, hto, hprocess⟩ := processICMPMessage_eq
      (pair.call side).address (pair.call side).uninitialisedPacket hcarries
        (hlength.trans (by decide))
    simp only [if_pos htype, hprocess, Option.map_some, Option.some.injEq, Prod.mk.injEq] at hget
    obtain ⟨rfl, rfl⟩ := hget
    exact h.movedTo hremove (h.cache side) ((h.ready side).keep hopen rfl rfl rfl)
      (fits_reply (.socket side) hlength hanswer hsource hmaker hmac hto)
      (fun _ ↦ awaited_answer (hcarries.icmpType htype) (hanswer.icmpType rfl) hmaker) hwaits.symm
  · have hkind : icmpType rxFrame = some ICMP_ECHO_REPLY := hcarries.icmpType htype
    have hother : ICMP_ECHO_REPLY ≠ ICMP_ECHO_REQUEST := by decide
    simp only [htype, if_neg hother, if_pos, Option.some.injEq, Prod.mk.injEq] at hget
    obtain ⟨rfl, rfl⟩ := hget
    refine h.proceed (h.cache side) ((h.ready side).keep hopen rfl rfl rfl)
      (fun _ _ hheld ↦ QueueFamily.mem_of_remove hremove hheld) nofun ?_ ?_
    · have hweight : world.places.weight (awaited side) = places.weight (awaited side) +
          awaited side (.socket side) rxFrame := QueueFamily.weight_remove hremove
      rw [h.tokens, hwaits, awaited_of_type hkind, Place.maker, if_neg (Bool.not_ne_self side),
        if_pos rfl] at hweight
      change _ + 0 = 0
      omega
    · have hweight : world.places.weight (awaited !side) = places.weight (awaited !side) +
          awaited (!side) (.socket side) rxFrame := QueueFamily.weight_remove hremove
      rw [awaited_of_type hkind, Place.maker, if_pos rfl, if_neg hother] at hweight
      exact hweight.symm

theorem Accounted.sendReply (h : Accounted pair world) {reply : MPDU}
    {places : QueueFamily Place MPDU} (hpoint : (world.pingers side).point = .sendReply)
    (hremove : world.places.remove (.answering side) = some (reply, places)) :
    Accounted pair (({ world with places } : World).proceed side
      { world.pingers side with point := .waitReply } [(.wire side, reply)]) := by
  have hwaits : (world.pingers side).awaits = 1 := by rw [Pinger.awaits, hpoint]
  have hopen : (world.pingers side).openPorts ≠ [] := by simp [Pinger.openPorts, hpoint]
  exact h.movedTo hremove (h.cache side) ((h.ready side).keep hopen rfl rfl rfl)
    ((h.fits _ _ (QueueFamily.item_mem_of_remove hremove)).relocate rfl fun _ ↦ rfl)
    (fun _ ↦ awaited_congr rfl) hwaits.symm

/-- A socket that is closed with no request in it loses nothing that is waited for. -/
theorem Accounted.deleteSocket (h : Accounted pair world)
    (hpoint : (world.pingers side).point = .deleteSocket)
    (hrequests : ∀ frame ∈ world.places (.socket side), icmpType frame ≠ some ICMP_ECHO_REQUEST) :
    Accounted pair
      (({ world with places := Function.update world.places (.socket side) [] } : World).proceed side
        { world.pingers side with point := .returned } []) := by
  have hidle : (world.pingers side).awaits = 0 := by rw [Pinger.awaits, hpoint]
  have hopen : (world.pingers side).openPorts ≠ [] := by simp [Pinger.openPorts, hpoint]
  have hweight (other : Bool) :=
    QueueFamily.weight_update (awaited other) world.places (.socket side) []
  refine h.proceed (h.cache side) ((h.ready side).keep hopen rfl rfl rfl) ?_ nofun ?_ ?_
  · intro place frame hframe
    by_cases hplace : place = .socket side
    · rw [hplace, Function.update_self] at hframe
      cases hframe
    · rwa [Function.update_of_ne hplace] at hframe
  · have htotal := hweight side
    rw [h.tokens, hidle] at htotal
    change _ + 0 = 0
    simp only [List.map_nil, List.sum_nil] at htotal
    omega
  · have hnone : ((world.places (.socket side)).map (awaited (!side) (.socket side))).sum = 0 := by
      refine List.sum_eq_zero fun count hcount ↦ ?_
      obtain ⟨frame, hframe, rfl⟩ := List.mem_map.mp hcount
      rw [awaited, Place.maker, if_pos rfl, if_neg (hrequests frame hframe)]
    have htotal := hweight (!side)
    rw [hnone] at htotal
    exact htotal

end Ping

/-! ### The steps of a demultiplexer -/

section Demux

variable {pair : Pair} {world : World} {side : Bool} {frame : MPDU}
  {places : QueueFamily Place MPDU}

theorem Accounted.demuxerSends (h : Accounted pair world)
    (hremove : world.places.remove (.demuxer side) = some (frame, places)) :
    Accounted pair (({ world with places } : World).proceed side (world.pingers side)
      [(.wire side, frame)]) := by
  exact h.movedTo hremove (h.cache side) (h.ready side)
    ((h.fits _ _ (QueueFamily.item_mem_of_remove hremove)).relocate rfl fun _ ↦ rfl)
    (fun _ ↦ awaited_congr rfl) rfl

theorem processFrame_arp {openPorts : List Socket} (htype : frame.SDUType = MPDU_ARP_TYPE) :
    processFrame openPorts frame = some .receiveArp := if_pos htype

theorem processFrame_icmp {openPorts : List Socket} {message : ICMP}
    (hcarries : CarriesICMP frame message) :
    processFrame openPorts frame =
      let found := openPorts.filter fun socket ↦ socket.protocol = IP_PROTOCOL_ICMP
      some (if found = [] then .processICMPMessage else .sockets found) := by
  have hother : MPDU_IP_TYPE ≠ MPDU_ARP_TYPE := by decide
  obtain ⟨packet, hpacket, hprotocol, -⟩ := hcarries.decodes
  rw [processFrame, hcarries.type, if_neg hother, if_pos rfl, hpacket]
  exact if_pos hprotocol

/-- A ping either has its one socket open or none. -/
theorem Pinger.filter_openPorts (pinger : Pinger) :
    (pinger.openPorts.filter fun socket ↦ socket.protocol = IP_PROTOCOL_ICMP) = pinger.openPorts ∧
      (pinger.openPorts = [] ∨ pinger.openPorts = [icmpSocket]) := by
  rw [Pinger.openPorts]
  cases pinger.point <;> exact ⟨by decide, by decide⟩

theorem Pinger.awaits_of_openPorts {pinger : Pinger} (h : pinger.openPorts = []) :
    pinger.awaits = 0 := by
  rw [Pinger.openPorts] at h
  rw [Pinger.awaits]
  cases hpoint : pinger.point <;> simp [hpoint] at h ⊢

theorem Ready.withCache {pinger : Pinger} (h : Ready pair side pinger) (cache : Arp.ARPCache) :
    Ready pair side { pinger with cache } := ⟨h.destination, h.message⟩

/-- An ARP message of the other host: its pair is learnt, and a request is answered. -/
theorem Accounted.demuxesArp (h : Accounted pair world)
    (hremove : world.places.remove (.wire !side) = some (frame, places))
    (htype : frame.SDUType = MPDU_ARP_TYPE) {message : ARP}
    (hmessage : generateARP frame.SDU = some message)
    (hmac : message.senderMac = (pair.hosts.address !side).mac)
    (hip : message.senderIp = (pair.hosts.address !side).ip) {cache : Arp.ARPCache}
    {frames : List (Place × MPDU)}
    (hdemux : pair.demux side (world.pingers side) frame = some (cache, frames)) :
    Accounted pair (({ world with places } : World).proceed side { world.pingers side with cache }
      frames) := by
  have hsound := h.cache side
  simp only [Pair.demux, processFrame_arp htype, Arp.receiveARP_eq hmessage, Option.map_some,
    Option.some.injEq, Prod.mk.injEq] at hdemux
  obtain ⟨rfl, rfl⟩ := hdemux
  refine h.moved hremove ?_ ((h.ready side).withCache _) ?_ ?_ rfl
  · change Arp.Sound pair.hosts (ite _ _ _)
    split_ifs with hlearns
    · rw [hip, hmac]
      exact hsound.learn (!side) (hip ▸ hlearns.2)
    · exact hsound
  · intro place reply hreply
    split_ifs at hreply with hanswers
    · obtain ⟨rfl, rfl⟩ := Prod.mk.inj (List.mem_singleton.mp hreply)
      have hlength : message.senderMac.length = 6 := by
        rw [hmac]
        exact pair.hosts.length_mac _
      exact .arp rfl rfl _ (Arp.generateARP_sendARP (pair.hosts.length_mac side) hlength _) rfl rfl
    · cases hreply
  · intro other
    have hnone (reply : ARP) (destinationMac : Mac) : awaited other (.demuxer side)
        ((pair.hosts.address side).sendARP reply destinationMac) = 0 :=
      awaited_of_arp (icmpType_of_arp rfl)
    rw [awaited_of_arp (icmpType_of_arp htype)]
    split_ifs with hanswers
    · rw [Option.toList_some, List.map_singleton, List.map_singleton, List.sum_singleton, hnone]
    · rfl

/-- An ICMP message of the other host: it is for the socket if that is open; else a request is
answered, and a reply does not come. -/
theorem Accounted.demuxesICMP (h : Accounted pair world)
    (hremove : world.places.remove (.wire !side) = some (frame, places)) {message : ICMP}
    (hcarries : CarriesICMP frame message) (hlength : message.payload.length ≤ 48)
    (htype : message.type = ICMP_ECHO_REQUEST ∨ message.type = ICMP_ECHO_REPLY)
    (hsource : frame.sourceMac = (pair.hosts.address !side).mac)
    (haccepts : Switching.accepts (pair.hosts.address !!side).mac frame = true)
    {cache : Arp.ARPCache} {frames : List (Place × MPDU)}
    (hdemux : pair.demux side (world.pingers side) frame = some (cache, frames)) :
    Accounted pair (({ world with places } : World).proceed side { world.pingers side with cache }
      frames) := by
  have hmaker : (Place.demuxer side).maker = !(Place.wire !side).maker := (Bool.not_not side).symm
  obtain ⟨hfilter, hopen | hopen⟩ := (world.pingers side).filter_openPorts
  · obtain ⟨answer, hanswer, hmac, hto, hprocess⟩ := processICMPMessage_eq (pair.hosts.address side)
      (pair.uninitialised side).ipToSend hcarries (hlength.trans (by decide))
    rw [hopen] at hfilter
    simp only [Pair.demux, processFrame_icmp hcarries, hopen, hfilter, if_pos, hprocess,
      Option.map_some, Option.some.injEq, Prod.mk.injEq] at hdemux
    obtain ⟨rfl, rfl⟩ := hdemux
    rcases htype with htype | htype
    · rw [if_pos htype]
      exact h.movedTo hremove (h.cache side) ((h.ready side).withCache _)
        (fits_reply (.wire !side) hlength hanswer hsource hmaker hmac hto)
        (fun _ ↦ awaited_answer (hcarries.icmpType htype) (hanswer.icmpType rfl) hmaker) rfl
    · -- a reply is on its way to a ping that waits only
      exfalso
      have hweight : world.places.weight (awaited side) = places.weight (awaited side) +
          awaited side (.wire !side) frame := QueueFamily.weight_remove hremove
      rw [h.tokens, Pinger.awaits_of_openPorts hopen,
        awaited_of_type (hcarries.icmpType htype), Place.maker,
        if_neg (Bool.not_ne_self side), if_pos rfl] at hweight
      omega
  · rw [hopen] at hfilter
    simp only [Pair.demux, processFrame_icmp hcarries, hopen, hfilter, if_neg (List.cons_ne_nil _ _),
      Option.some.injEq, Prod.mk.injEq] at hdemux
    obtain ⟨rfl, rfl⟩ := hdemux
    exact h.movedTo hremove (h.cache side) ((h.ready side).withCache _)
      (.icmp message hcarries hlength htype hsource haccepts) (fun _ ↦ awaited_congr rfl) rfl

/-- What a demultiplexer has found the socket for is added to the socket, if that is still open; the
ping that has closed it waits for none of it. -/
theorem Accounted.demuxerAdds (h : Accounted pair world) (hopen : world.AddsToOpen)
    (hremove : world.places.remove (.adding side) = some (frame, places)) :
    (world.pingers side).openPorts ≠ [] ∧
      Accounted pair (({ world with places } : World).proceed side (world.pingers side)
        [(.socket side, frame)]) := by
  have hmember := QueueFamily.item_mem_of_remove hremove
  rcases h.fits _ _ hmember with ⟨hplace, -⟩ | ⟨message, hcarries, hlength, htype, hsource, haccepts⟩
  · cases hplace
  refine ⟨?_, h.movedTo hremove (h.cache side) (h.ready side)
    (.icmp message hcarries hlength htype hsource haccepts) (fun _ ↦ awaited_congr rfl) rfl⟩
  rcases htype with htype | htype
  · exact hopen side frame hmember (hcarries.icmpType htype)
  · -- a reply is on its way to a ping that waits only
    intro hclosed
    have hweight : world.places.weight (awaited side) = places.weight (awaited side) +
        awaited side (.adding side) frame := QueueFamily.weight_remove hremove
    rw [h.tokens, Pinger.awaits_of_openPorts hclosed,
      awaited_of_type (hcarries.icmpType htype), Place.maker,
      if_neg (Bool.not_ne_self side), if_pos rfl] at hweight
    omega

theorem Accounted.demuxes (h : Accounted pair world)
    (hremove : world.places.remove (.wire !side) = some (frame, places)) {next : World}
    (hnext : (if Switching.accepts (pair.hosts.address side).mac frame then
      (pair.demux side (world.pingers side) frame).map fun (cache, frames) ↦
        ({ world with places } : World).proceed side { world.pingers side with cache } frames
      else some { world with places }) = some next) : Accounted pair next := by
  have hfits := h.fits _ _ (QueueFamily.item_mem_of_remove hremove)
  split_ifs at hnext with haccepts
  · obtain ⟨⟨cache, frames⟩, hdemux, rfl⟩ := Option.map_eq_some_iff.mp hnext
    rcases hfits with ⟨-, htype, message, hmessage, hmac, hip⟩ |
      ⟨message, hcarries, hlength, htype, hsource, haccepts⟩
    · exact h.demuxesArp hremove htype hmessage hmac hip hdemux
    · exact h.demuxesICMP hremove hcarries hlength htype hsource haccepts hdemux
  · obtain rfl := Option.some.inj hnext
    rcases hfits with ⟨-, htype, -⟩ | ⟨message, -, -, -, -, haccepted⟩
    · have hsame : ({ world with places } : World) =
          ({ world with places } : World).proceed side (world.pingers side) [] := by
        rw [World.proceed, Function.update_eq_self]
        rfl
      rw [hsame]
      exact h.moved hremove (h.cache side) (h.ready side) nofun
        (fun other ↦ (awaited_of_arp (icmpType_of_arp htype)).symm) rfl
    · rw [Place.maker, Bool.not_not] at haccepted
      exact absurd haccepted haccepts

end Demux

/-! ### Runs -/

def anyEvent (_ : World) (_ : Event) : Prop := True

instance (world : World) (event : Event) : Decidable (anyEvent world event) := .isTrue trivial

/-- No socket is closed while a request is in it or the demultiplexer has found it for one. -/
def KeepsRequests (world : World) : Event → Prop
  | .ping side => (world.pingers side).point = .deleteSocket →
    ∀ frame ∈ world.places (.socket side) ++ world.places (.adding side),
      icmpType frame ≠ some ICMP_ECHO_REQUEST
  | .demuxes _ | .demuxerAdds _ | .demuxerSends _ => True

instance (world : World) (event : Event) : Decidable (KeepsRequests world event) := by
  cases event with
  | ping side => exact inferInstanceAs (Decidable (_ → _))
  | demuxes side => exact .isTrue trivial
  | demuxerAdds side => exact .isTrue trivial
  | demuxerSends side => exact .isTrue trivial

namespace World

variable (world : World)

/-- The ping of the host waits in `get_frame`. -/
def Blocked (side : Bool) : Prop :=
  (world.pingers side).point = .waitReply ∧ world.places (.socket side) = []

/-- A ping waits for a reply, no frame is anywhere, and the other ping waits too or has returned. -/
def Stranded : Prop :=
  ∃ side, world.Blocked side ∧ (∀ place, world.places place = []) ∧
    (world.Blocked (!side) ∨ (world.pingers !side).point = .returned)

instance (side : Bool) : Decidable (world.Blocked side) := inferInstanceAs (Decidable (_ ∧ _))

instance : Decidable world.Stranded := inferInstanceAs (Decidable (∃ _, _))

end World

section Runs

variable {pair : Pair} {world next : World}

theorem Accounted.pingStep (h : Accounted pair world) {side : Bool}
    (hkeeps : KeepsRequests world (.ping side)) (hnext : pair.pingStep side world = some next) :
    Accounted pair next := by
  rw [Pair.pingStep] at hnext
  cases hpoint : (world.pingers side).point with
  | start =>
    simp only [hpoint, Option.some.injEq] at hnext
    exact hnext ▸ h.start hpoint
  | resolving =>
    simp only [hpoint] at hnext
    obtain ⟨pinger, hresolve, rfl⟩ := Option.map_eq_some_iff.mp hnext
    exact h.resolve hpoint hresolve
  | createSocket =>
    simp only [hpoint, Option.some.injEq] at hnext
    exact hnext ▸ h.createSocket hpoint
  | sendRequest =>
    simp only [hpoint, Option.some.injEq] at hnext
    exact hnext ▸ h.sendRequest hpoint
  | waitReply =>
    cases hremove : world.places.remove (.socket side) with
    | none => simp [hpoint, hremove] at hnext
    | some taken =>
      simp only [hpoint, hremove] at hnext
      obtain ⟨⟨pinger, reply⟩, hget, rfl⟩ := Option.map_eq_some_iff.mp hnext
      exact h.getFrame hpoint hremove hget
  | sendReply =>
    cases hremove : world.places.remove (.answering side) with
    | none => simp [hpoint, hremove] at hnext
    | some taken =>
      simp only [hpoint, hremove, Option.some.injEq] at hnext
      exact hnext ▸ h.sendReply hpoint hremove
  | gotReply =>
    simp only [hpoint, Option.some.injEq] at hnext
    exact hnext ▸ h.checkCount hpoint
  | deleteSocket =>
    simp only [hpoint, Option.some.injEq] at hnext
    exact hnext ▸ h.deleteSocket hpoint fun frame hframe ↦
      hkeeps hpoint frame (List.mem_append_left _ hframe)
  | returned => simp [hpoint] at hnext

theorem Accounted.step (h : Accounted pair world) (hopen : world.AddsToOpen) {event : Event}
    (hkeeps : KeepsRequests world event) (hnext : pair.step world event = some next) :
    Accounted pair next := by
  cases event with
  | ping side =>
    exact h.pingStep hkeeps hnext
  | demuxes side =>
    rw [Pair.step] at hnext
    split_ifs at hnext
    cases hremove : world.places.remove (.wire !side) with
    | none => simp [hremove] at hnext
    | some taken =>
      simp only [hremove] at hnext
      exact h.demuxes hremove hnext
  | demuxerAdds side =>
    rw [Pair.step] at hnext
    cases hremove : world.places.remove (.adding side) with
    | none => simp [hremove] at hnext
    | some taken =>
      obtain ⟨hstill, hadded⟩ := h.demuxerAdds hopen hremove
      simp only [hremove, if_neg hstill, Option.some.injEq] at hnext
      exact hnext ▸ hadded
  | demuxerSends side =>
    rw [Pair.step] at hnext
    cases hremove : world.places.remove (.demuxer side) with
    | none => simp [hremove] at hnext
    | some taken =>
      simp only [hremove, Option.some.injEq] at hnext
      exact hnext ▸ h.demuxerSends hremove

/-! ### Sockets that requests are about to be added to -/

/-- A thread that puts a frame down for a socket has it open, and does not close it on a request. -/
theorem World.AddsToOpen.proceed (h : world.AddsToOpen) {side : Bool} {pinger : Pinger}
    {places : QueueFamily Place MPDU} {frames : List (Place × MPDU)}
    (hplaces : ∀ place, ∀ frame ∈ places place, frame ∈ world.places place)
    (hframes : ∀ other frame, (.adding other, frame) ∈ frames →
      other = side ∧ pinger.openPorts ≠ [])
    (hcloses : pinger.openPorts = [] → (world.pingers side).openPorts = [] ∨
      ∀ frame ∈ world.places (.adding side), icmpType frame ≠ some ICMP_ECHO_REQUEST) :
    (({ world with places } : World).proceed side pinger frames).AddsToOpen := by
  intro other frame hframe hrequest
  change (Function.update world.pingers side pinger other).openPorts ≠ []
  rcases QueueFamily.mem_addAll.mp hframe with hheld | hnew
  · have hbefore := hplaces _ frame hheld
    rcases eq_or_ne other side with rfl | hother
    · rw [Function.update_self]
      intro hclosed
      rcases hcloses hclosed with hstill | hnone
      · exact h other frame hbefore hrequest hstill
      · exact hnone frame hbefore hrequest
    · rw [Function.update_of_ne hother]
      exact h other frame hbefore hrequest
  · obtain ⟨rfl, hopen⟩ := hframes other frame hnew
    rwa [Function.update_self]

theorem openPorts_getFrame {call : PingCall} {pinger after : Pinger} {rxFrame : MPDU}
    {reply : Option MPDU} (hpoint : pinger.point = .waitReply)
    (h : call.getFrame pinger rxFrame = some (after, reply)) : after.openPorts ≠ [] := by
  rw [PingCall.getFrame] at h
  cases hmessage : rxFrame.icmpMessage with
  | none => simp [hmessage] at h
  | some message =>
    simp only [hmessage] at h
    split_ifs at h
    · obtain ⟨answer, -, hafter⟩ := Option.map_eq_some_iff.mp h
      obtain ⟨rfl, -⟩ := Prod.mk.inj hafter
      exact List.cons_ne_nil _ _
    · obtain ⟨rfl, -⟩ := Prod.mk.inj (Option.some.inj h)
      exact List.cons_ne_nil _ _
    · obtain ⟨rfl, -⟩ := Prod.mk.inj (Option.some.inj h)
      exact List.cons_ne_nil _ _
    · obtain ⟨rfl, -⟩ := Prod.mk.inj (Option.some.inj h)
      rw [Pinger.openPorts, hpoint]
      exact List.cons_ne_nil _ _

/-- What a demultiplexer puts down for a socket is for the open socket of its host. -/
theorem openPorts_of_demux {side other : Bool} {pinger : Pinger} {frame added : MPDU}
    {cache : Arp.ARPCache} {frames : List (Place × MPDU)}
    (h : pair.demux side pinger frame = some (cache, frames))
    (hadded : (.adding other, added) ∈ frames) : other = side ∧ pinger.openPorts ≠ [] := by
  rw [Pair.demux] at h
  cases hprocess : processFrame pinger.openPorts frame with
  | none => simp [hprocess] at h
  | some destination =>
    cases destination with
    | receiveArp =>
      simp only [hprocess] at h
      obtain ⟨⟨learned, reply⟩, -, hsent⟩ := Option.map_eq_some_iff.mp h
      obtain ⟨-, rfl⟩ := Prod.mk.inj hsent
      obtain ⟨reply, -, hreply⟩ := List.mem_map.mp hadded
      cases hreply
    | sockets found =>
      simp only [hprocess, Option.some.injEq, Prod.mk.injEq] at h
      obtain ⟨-, rfl⟩ := h
      obtain ⟨socket, hsocket, hplace⟩ := List.mem_map.mp hadded
      have hside : side = other := Place.adding.inj (Prod.mk.inj hplace).1
      exact ⟨hside.symm, List.ne_nil_of_mem (isFor_of_processFrame hprocess hsocket).1⟩
    | processICMPMessage =>
      simp only [hprocess] at h
      obtain ⟨reply, -, hsent⟩ := Option.map_eq_some_iff.mp h
      obtain ⟨-, rfl⟩ := Prod.mk.inj hsent
      obtain ⟨reply, -, hreply⟩ := List.mem_map.mp hadded
      cases hreply

theorem World.AddsToOpen.pingStep (h : world.AddsToOpen) {side : Bool}
    (hkeeps : KeepsRequests world (.ping side)) (hnext : pair.pingStep side world = some next) :
    next.AddsToOpen := by
  have hstays (hpoint : (world.pingers side).openPorts = []) {pinger : Pinger} :
      pinger.openPorts = [] → (world.pingers side).openPorts = [] ∨
        ∀ frame ∈ world.places (.adding side), icmpType frame ≠ some ICMP_ECHO_REQUEST :=
    fun _ ↦ .inl hpoint
  rw [Pair.pingStep] at hnext
  cases hpoint : (world.pingers side).point with
  | start =>
    simp only [hpoint, Option.some.injEq] at hnext
    exact hnext ▸ h.proceed (fun _ _ hframe ↦ hframe) (by simp)
      (hstays (by rw [Pinger.openPorts, hpoint]))
  | resolving =>
    simp only [hpoint] at hnext
    obtain ⟨pinger, -, rfl⟩ := Option.map_eq_some_iff.mp hnext
    exact h.proceed (fun _ _ hframe ↦ hframe) (by simp)
      (hstays (by rw [Pinger.openPorts, hpoint]))
  | createSocket =>
    simp only [hpoint, Option.some.injEq] at hnext
    exact hnext ▸ h.proceed (fun _ _ hframe ↦ hframe) (by simp)
      (hstays (by rw [Pinger.openPorts, hpoint]))
  | sendRequest =>
    simp only [hpoint, Option.some.injEq] at hnext
    exact hnext ▸ h.proceed (fun _ _ hframe ↦ hframe) (by simp)
      fun hclosed ↦ absurd hclosed (List.cons_ne_nil _ _)
  | waitReply =>
    cases hremove : world.places.remove (.socket side) with
    | none => simp [hpoint, hremove] at hnext
    | some taken =>
      simp only [hpoint, hremove] at hnext
      obtain ⟨⟨pinger, reply⟩, hget, rfl⟩ := Option.map_eq_some_iff.mp hnext
      exact h.proceed (fun _ _ hheld ↦ QueueFamily.mem_of_remove hremove hheld) (by simp)
        fun hclosed ↦ absurd hclosed (openPorts_getFrame hpoint hget)
  | sendReply =>
    cases hremove : world.places.remove (.answering side) with
    | none => simp [hpoint, hremove] at hnext
    | some taken =>
      simp only [hpoint, hremove, Option.some.injEq] at hnext
      exact hnext ▸ h.proceed (fun _ _ hheld ↦ QueueFamily.mem_of_remove hremove hheld) (by simp)
        fun hclosed ↦ absurd hclosed (List.cons_ne_nil _ _)
  | gotReply =>
    simp only [hpoint, Option.some.injEq] at hnext
    refine hnext ▸ h.proceed (fun _ _ hframe ↦ hframe) (by simp) fun hclosed ↦ ?_
    rw [Pinger.openPorts, PingCall.checkCount] at hclosed
    split_ifs at hclosed
  | deleteSocket =>
    simp only [hpoint, Option.some.injEq] at hnext
    refine hnext ▸ h.proceed (fun place frame hframe ↦ ?_) (by simp) fun _ ↦ .inr ?_
    · by_cases hplace : place = .socket side
      · rw [hplace, Function.update_self] at hframe
        cases hframe
      · rwa [Function.update_of_ne hplace] at hframe
    · exact fun frame hframe ↦ hkeeps hpoint frame (List.mem_append_right _ hframe)
  | returned => simp [hpoint] at hnext

theorem World.AddsToOpen.step (h : world.AddsToOpen) {event : Event}
    (hkeeps : KeepsRequests world event) (hnext : pair.step world event = some next) :
    next.AddsToOpen := by
  cases event with
  | ping side => exact h.pingStep hkeeps hnext
  | demuxes side =>
    rw [Pair.step] at hnext
    split_ifs at hnext
    cases hremove : world.places.remove (.wire !side) with
    | none => simp [hremove] at hnext
    | some taken =>
      simp only [hremove] at hnext
      split_ifs at hnext
      · obtain ⟨⟨cache, frames⟩, hdemux, rfl⟩ := Option.map_eq_some_iff.mp hnext
        refine h.proceed (fun _ _ hheld ↦ QueueFamily.mem_of_remove hremove hheld)
          (fun other added hadded ↦ ?_) Or.inl
        show other = side ∧ (world.pingers side).openPorts ≠ []
        exact openPorts_of_demux hdemux hadded
      · obtain rfl := Option.some.inj hnext
        exact fun other frame hframe ↦ h other frame (QueueFamily.mem_of_remove hremove hframe)
  | demuxerAdds side =>
    rw [Pair.step] at hnext
    cases hremove : world.places.remove (.adding side) with
    | none => simp [hremove] at hnext
    | some taken =>
      simp only [hremove] at hnext
      split_ifs at hnext
      · obtain rfl := Option.some.inj hnext
        exact fun other frame hframe ↦ h other frame (QueueFamily.mem_of_remove hremove hframe)
      · obtain rfl := Option.some.inj hnext
        exact h.proceed (fun _ _ hheld ↦ QueueFamily.mem_of_remove hremove hheld) (by simp) Or.inl
  | demuxerSends side =>
    rw [Pair.step] at hnext
    cases hremove : world.places.remove (.demuxer side) with
    | none => simp [hremove] at hnext
    | some taken =>
      simp only [hremove, Option.some.injEq] at hnext
      exact hnext ▸ h.proceed (fun _ _ hheld ↦ QueueFamily.mem_of_remove hremove hheld) (by simp)
        Or.inl

end Runs

/-- Two hosts of one network, one request each. -/
def twoHosts : Pair where
  hosts :=
    { address := fun side ↦
        ⟨createUniformMac (if side then 0x22 else 0x11), createIp 192 168 1 (if side then 2 else 1)⟩
      ip_injective := by decide
      mac_injective := by decide
      length_mac := by decide
      not_broadcast := by decide }
  netmask _ := createIp 255 255 255 0
  routerMac _ := createUniformMac 0
  cache _ := []
  count _ := 1
  identifier side := if side then 2 else 1
  uninitialised _ :=
    ⟨[], .start, createUniformMac 0, ⟨0, 0, 0, 0, 0, []⟩, ⟨0, 0, 0, 0, 0, []⟩, 0, 0, 0⟩
  cache_sound _ := ⟨nofun, .nil⟩
  routed := by decide
  count_pos := by decide
  identifier_distinct := by decide

/-- One host resolves the address of the other and sends its request. The other answers it with no
socket open, opens its own and sends its own request. -/
def bothRequests : List Event :=
  [.ping false, .demuxes true, .demuxerSends true, .demuxes false, .ping false, .ping false,
    .ping false, .demuxes true, .demuxerSends true, .ping true, .ping true, .ping true]

/-- The request has been found to be for the socket when the first host closes it, with nothing in
it. -/
theorem not_never_stranded_between : ∃ h : (twoHosts.system.run anyEvent twoHosts.system.init
    (bothRequests ++ [.demuxes false, .demuxerAdds false, .demuxes false, .ping false, .ping false,
      .ping false, .demuxerAdds false])).isSome, World.Stranded (Option.get _ h) :=
  ⟨by decide +kernel, by decide +kernel⟩

end NetworkSimulation.Icmp
