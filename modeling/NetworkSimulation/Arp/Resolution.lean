import NetworkSimulation.Library.MessagePool
import NetworkSimulation.Arp.Cache
import NetworkSimulation.Switching.Network

/-!
# Address resolution between any number of hosts

Hosts send ARP requests at any time and answer those for their own address; the network may lose,
repeat, delay and reorder every frame and flood it to every host. A frame in flight is recorded with
the host that made it and with the address it was asked for: that of the request, which the reply
hands on.

Every message in flight tells the truth about the host that made it (`Truthful`), so what a cache
learns is the true pair of some host (`caches_true`), whatever the hosts were asked for.
-/

set_option autoImplicit false
set_option relaxedAutoImplicit false

namespace NetworkSimulation.Arp

open Library Stack

/-- Hosts whose addresses are fixed. -/
structure Hosts (H : Type*) where
  address : H → HostAddress
  ip_injective : Function.Injective fun host ↦ (address host).ip
  mac_injective : Function.Injective fun host ↦ (address host).mac
  length_mac : ∀ host, (address host).mac.length = 6
  not_broadcast : ∀ host, isBroadcast (address host).mac = false

/-- A frame in flight, the host that made it, and the address asked for. -/
structure Flight (H : Type*) where
  maker : H
  requestedIp : UInt32
  frame : MPDU
  deriving DecidableEq

variable {H : Type*} [DecidableEq H] (hosts : Hosts H)

/-- A host asks for an address, or the demultiplexer of a host gives a frame that it accepts to
`receive_arp`. -/
def parties : Pool.Parties (H → ARPCache) (Flight H) (H × UInt32) H where
  act
    | (host, requestedIp), caches =>
      some (caches, [⟨host, requestedIp, (hosts.address host).sendRequestARP requestedIp⟩])
  take host caches flight :=
    if Switching.accepts (hosts.address host).mac flight.frame then
      match (hosts.address host).receiveARP (caches host) flight.frame.SDU with
      | none => none
      | some (cache, reply) =>
        some (Function.update caches host cache,
          reply.toList.map fun frame ↦ ⟨host, flight.requestedIp, frame⟩)
    else some (caches, [])

/-- The hosts with empty caches. -/
def network : ScheduledSystem (Pool (H → ARPCache) (Flight H)) (Pool.Event (H × UInt32) H) :=
  (parties hosts).system fun _ ↦ []

def anyEvent (_ : Pool (H → ARPCache) (Flight H)) (_ : Pool.Event (H × UInt32) H) : Prop := True

instance (s : Pool (H → ARPCache) (Flight H)) (event : Pool.Event (H × UInt32) H) :
    Decidable (anyEvent s event) := .isTrue trivial

variable {hosts}

/-- Every entry is the true pair of a host, and there is one entry for each address. -/
def Sound (hosts : Hosts H) (cache : ARPCache) : Prop :=
  (∀ entry ∈ cache, ∃ owner, entry.ip = (hosts.address owner).ip ∧
    entry.mac = (hosts.address owner).mac) ∧ (cache.map ARPEntry.ip).Nodup

/-- A message gives the pair of the host that made it, and a reply was made by the host asked
for. -/
structure Truthful (hosts : Hosts H) (flight : Flight H) (message : ARP) : Prop where
  senderMac : message.senderMac = (hosts.address flight.maker).mac
  senderIp : message.senderIp = (hosts.address flight.maker).ip
  request : message.opcode = ARP_REQUEST → message.targetIp = flight.requestedIp
  reply : message.opcode = ARP_REPLY → (hosts.address flight.maker).ip = flight.requestedIp

/-- What fits in flight, whatever the caches. -/
def Fits (hosts : Hosts H) (_ : H → ARPCache) (flight : Flight H) : Prop :=
  ∃ message, generateARP flight.frame.SDU = some message ∧ Truthful hosts flight message

omit [DecidableEq H] in
theorem Sound.not_broadcast {cache : ARPCache} (h : Sound hosts cache) :
    ∀ entry ∈ cache, isBroadcast entry.mac = false := by
  intro entry hentry
  obtain ⟨owner, -, hmac⟩ := h.1 entry hentry
  rw [hmac]
  exact hosts.not_broadcast owner

omit [DecidableEq H] in
/-- A cache learns the pair of a host. -/
theorem Sound.learn {cache : ARPCache} (h : Sound hosts cache) (owner : H)
    (hnew : isBroadcast (cache.getMac (hosts.address owner).ip) = true) :
    Sound hosts (cache.addEntry (hosts.address owner).ip (hosts.address owner).mac) := by
  refine ⟨fun entry hentry ↦ ?_, ARPCache.nodup_addEntry h.not_broadcast h.2 hnew⟩
  rcases List.mem_append.mp hentry with hold | hadded
  · exact h.1 entry hold
  · obtain rfl := List.mem_singleton.mp hadded
    exact ⟨owner, rfl, rfl⟩

omit [DecidableEq H] in
/-- A request gives the pair of the host that asks. -/
theorem fits_request (caches : H → ARPCache) (host : H) (requestedIp : UInt32) :
    Fits hosts caches ⟨host, requestedIp, (hosts.address host).sendRequestARP requestedIp⟩ := by
  have hopcode : ARP_REQUEST ≠ ARP_REPLY := by decide
  exact ⟨_, generateARP_sendARP (hosts.length_mac host) rfl _, rfl, rfl, fun _ ↦ rfl,
    fun hreply ↦ absurd hreply hopcode⟩

omit [DecidableEq H] in
/-- The reply to a request is made by the host asked for. -/
theorem fits_reply (caches : H → ARPCache) {host : H} {flight : Flight H} {arpRx : ARP}
    (htrue : Truthful hosts flight arpRx) (htarget : arpRx.targetIp = (hosts.address host).ip)
    (hrequest : arpRx.opcode = ARP_REQUEST) :
    Fits hosts caches ⟨host, flight.requestedIp, (hosts.address host).sendARP
      ⟨ARP_REPLY, (hosts.address host).mac, (hosts.address host).ip, arpRx.senderMac,
        arpRx.senderIp⟩ arpRx.senderMac⟩ := by
  have hsender : arpRx.senderMac.length = 6 := by
    rw [htrue.senderMac]
    exact hosts.length_mac flight.maker
  have hopcode : ARP_REPLY ≠ ARP_REQUEST := by decide
  exact ⟨_, generateARP_sendARP (hosts.length_mac host) hsender _, rfl, rfl,
    fun hasks ↦ absurd hasks hopcode, fun _ ↦ htarget.symm.trans (htrue.request hrequest)⟩

/-- What a host does with a message that fits. -/
theorem keeps_take (host : H) (caches : H → ARPCache) (flight : Flight H)
    (outcome : (H → ARPCache) × List (Flight H)) (hcaches : ∀ host, Sound hosts (caches host))
    (hfits : Fits hosts caches flight)
    (h : (parties hosts).take host caches flight = some outcome) :
    Pool.Parties.Keeps (fun caches ↦ ∀ host, Sound hosts (caches host)) (Fits hosts) caches
      outcome := by
  obtain ⟨arpRx, hmessage, htrue⟩ := hfits
  rw [parties] at h
  dsimp only at h
  split_ifs at h with haccepts
  · rw [receiveARP_eq hmessage] at h
    obtain rfl := Option.some.inj h
    refine ⟨?_, fun _ hother ↦ hother, ?_⟩
    · refine (Function.forall_update_iff caches (p := fun _ ↦ Sound hosts)).mpr
        ⟨?_, fun other _ ↦ hcaches other⟩
      split_ifs with hlearns
      · rw [htrue.senderIp, htrue.senderMac]
        exact (hcaches host).learn flight.maker (htrue.senderIp ▸ hlearns.2)
      · exact hcaches host
    · intro reply hreply
      change reply ∈ (ite _ _ _ : Option MPDU).toList.map _ at hreply
      split_ifs at hreply with hanswers
      · obtain rfl := List.mem_singleton.mp hreply
        exact fits_reply _ htrue hanswers.1 hanswers.2
      · cases hreply
  · obtain rfl := Option.some.inj h
    exact ⟨hcaches, fun _ hother ↦ hother, nofun⟩

theorem holds_of_reachable
    {guard : Pool (H → ARPCache) (Flight H) → Pool.Event (H × UInt32) H → Prop}
    {s : Pool (H → ARPCache) (Flight H)} (h : (network hosts).Reachable guard s) :
    Pool.Parties.Holds (fun caches ↦ ∀ host, Sound hosts (caches host)) (Fits hosts) s := by
  have hempty : Sound hosts [] := ⟨nofun, List.nodup_nil⟩
  refine Pool.Parties.invariant (fun _ ↦ hempty) ?_ keeps_take h
  rintro ⟨host, requestedIp⟩ caches outcome hcaches hact
  obtain rfl := Option.some.inj hact
  refine ⟨hcaches, fun _ hother ↦ hother, fun flight hflight ↦ ?_⟩
  obtain rfl := List.mem_singleton.mp hflight
  exact fits_request caches host requestedIp

/-- Whatever the hosts ask for and whatever the network does with the frames, every entry of a cache
is the true pair of a host, no cache has two entries for one address, and every reply in flight was
made by the host asked for and gives its pair. -/
theorem caches_true {s : Pool (H → ARPCache) (Flight H)}
    (h : (network hosts).Reachable anyEvent s) :
    (∀ host, ∀ entry ∈ s.core host, ∃ owner, entry.ip = (hosts.address owner).ip ∧
      entry.mac = (hosts.address owner).mac) ∧
    (∀ host, ((s.core host).map ARPEntry.ip).Nodup) ∧
    ∀ flight ∈ s.inFlight, ∀ message, generateARP flight.frame.SDU = some message →
      message.opcode = ARP_REPLY →
        (hosts.address flight.maker).ip = flight.requestedIp ∧
          message.senderIp = flight.requestedIp ∧
            message.senderMac = (hosts.address flight.maker).mac := by
  obtain ⟨hcaches, hflights⟩ := holds_of_reachable h
  refine ⟨fun host ↦ (hcaches host).1, fun host ↦ (hcaches host).2, ?_⟩
  intro flight hflight message hmessage hreply
  obtain ⟨carried, hcarried, htrue⟩ := hflights flight hflight
  obtain rfl : carried = message := Option.some.inj (hcarried.symm.trans hmessage)
  have howner := htrue.reply hreply
  exact ⟨howner, htrue.senderIp.trans howner, htrue.senderMac⟩

/-- Three hosts. -/
def threeHosts : Hosts (Fin 3) where
  address host := ⟨[0, 0, 0, 0, 0, host.val.toUInt8], host.val.toUInt32⟩
  ip_injective := by decide
  mac_injective := by decide
  length_mac := by decide
  not_broadcast := by decide

/-- One host asks for another, whose reply arrives twice. -/
theorem caches_true_witness :
    ∃ h : ((network threeHosts).run anyEvent (network threeHosts).init
        [.acts (0, 1), .takes 2 0, .takes 1 0, .takes 0 1, .takes 0 1]).isSome,
      (∀ host, ∀ entry ∈ (Option.get _ h).core host,
        ∃ owner, entry.ip = (threeHosts.address owner).ip ∧
          entry.mac = (threeHosts.address owner).mac) ∧
      (∀ host, (((Option.get _ h).core host).map ARPEntry.ip).Nodup) ∧
      ∀ flight ∈ (Option.get _ h).inFlight, ∀ message,
        generateARP flight.frame.SDU = some message → message.opcode = ARP_REPLY →
          (threeHosts.address flight.maker).ip = flight.requestedIp ∧
            message.senderIp = flight.requestedIp ∧
              message.senderMac = (threeHosts.address flight.maker).mac :=
  ⟨by decide +kernel, caches_true (ScheduledSystem.reachable_of_isSome_run _)⟩

end NetworkSimulation.Arp
