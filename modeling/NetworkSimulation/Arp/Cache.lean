import NetworkSimulation.Stack.ArpMessages

/-!
The ARP cache of a host and the three functions that send and receive ARP messages. A host looks an
address up with `get_mac`, which gives the broadcast address for an address that is not there;
`receive_arp` tests for that before it adds an entry.
-/

set_option autoImplicit false
set_option relaxedAutoImplicit false

namespace NetworkSimulation.Arp

open Stack

structure ARPEntry where
  ip : UInt32
  mac : Mac
  deriving DecidableEq

abbrev ARPCache := List ARPEntry

namespace ARPCache

def getMac (cache : ARPCache) (ip : UInt32) : Mac :=
  match cache.find? fun entry ↦ compareIps ip entry.ip with
  | some entry => entry.mac
  | none => createBroadcastMac

def addEntry (cache : ARPCache) (ip : UInt32) (mac : Mac) : ARPCache := cache ++ [⟨ip, mac⟩]

end ARPCache

/-- The two addresses of a host. -/
structure HostAddress where
  mac : Mac
  ip : UInt32
  deriving DecidableEq

namespace HostAddress

variable (host : HostAddress)

def sendARP (txARP : ARP) (destinationMac : Mac) : MPDU :=
  { (MPDU.encapARP ⟨[], [], 0, []⟩ txARP) with sourceMac := host.mac, destinationMac }

def sendRequestARP (requestedIp : UInt32) : MPDU :=
  host.sendARP
    { opcode := ARP_REQUEST
      senderMac := host.mac
      senderIp := host.ip
      targetMac := createUniformMac 0
      targetIp := requestedIp }
    createBroadcastMac

/-- `receive_arp`: the cache afterwards and the reply, if there is one. The reply is the message
received with its members overwritten. -/
def receiveARP (cache : ARPCache) (arpU8 : List UInt8) : Option (ARPCache × Option MPDU) :=
  match generateARP arpU8 with
  | none => none
  | some arpRx =>
    if compareIps arpRx.targetIp host.ip then
      let cache :=
        if isBroadcast (cache.getMac arpRx.senderIp) then
          cache.addEntry arpRx.senderIp arpRx.senderMac
        else cache
      if arpRx.opcode = ARP_REQUEST then
        let arpRx := { arpRx with
          opcode := ARP_REPLY, targetMac := arpRx.senderMac, targetIp := arpRx.senderIp }
        let arpRx := { arpRx with senderMac := host.mac, senderIp := host.ip }
        some (cache, some (host.sendARP arpRx arpRx.targetMac))
      else some (cache, none)
    else some (cache, none)

end HostAddress

/-! ### A cache without broadcast addresses -/

namespace ARPCache

variable {cache : ARPCache} {ip : UInt32} {mac : Mac}

theorem isBroadcast_createBroadcastMac : isBroadcast createBroadcastMac = true := by decide

/-- What the loop of `get_mac` stops at is an entry for the address. -/
theorem of_find_eq_some {entry : ARPEntry}
    (h : cache.find? (fun entry ↦ compareIps ip entry.ip) = some entry) :
    entry ∈ cache ∧ entry.ip = ip := by
  refine ⟨List.mem_of_find?_eq_some h, ?_⟩
  have hip := List.find?_some h
  exact (compareIps_iff.mp hip).symm

/-- A look-up fails exactly for an address that no entry has, if no entry holds the broadcast
address. -/
theorem isBroadcast_getMac_iff (h : ∀ entry ∈ cache, isBroadcast entry.mac = false) :
    isBroadcast (cache.getMac ip) = true ↔ ip ∉ cache.map ARPEntry.ip := by
  rw [getMac]
  cases hfound : cache.find? fun entry ↦ compareIps ip entry.ip with
  | none =>
    refine iff_of_true isBroadcast_createBroadcastMac fun hmember ↦ ?_
    obtain ⟨entry, hentry, rfl⟩ := List.mem_map.mp hmember
    exact List.find?_eq_none.mp hfound entry hentry (compareIps_iff.mpr rfl)
  | some entry =>
    obtain ⟨hentry, rfl⟩ := of_find_eq_some hfound
    refine iff_of_false ?_ fun hnot ↦ hnot (List.mem_map_of_mem hentry)
    rw [h entry hentry]
    exact Bool.false_ne_true

/-- What a look-up finds is in an entry for the address. -/
theorem mem_of_getMac (h : isBroadcast (cache.getMac ip) = false) :
    ⟨ip, cache.getMac ip⟩ ∈ cache := by
  rw [getMac] at h ⊢
  cases hfound : cache.find? fun entry ↦ compareIps ip entry.ip with
  | none =>
    rw [hfound] at h
    exact absurd (isBroadcast_createBroadcastMac.symm.trans h) (by decide)
  | some entry =>
    obtain ⟨hentry, rfl⟩ := of_find_eq_some hfound
    exact hentry

/-- An entry for an address that was not found leaves one entry for each address. -/
theorem nodup_addEntry (hbroadcast : ∀ entry ∈ cache, isBroadcast entry.mac = false)
    (hnodup : (cache.map ARPEntry.ip).Nodup) (hnew : isBroadcast (cache.getMac ip) = true) :
    ((cache.addEntry ip mac).map ARPEntry.ip).Nodup := by
  rw [addEntry, List.map_append, List.map_cons, List.map_nil]
  exact List.nodup_append_comm.mp
    (List.nodup_cons.mpr ⟨(isBroadcast_getMac_iff hbroadcast).mp hnew, hnodup⟩)

end ARPCache

/-! ### What a message does -/

section Receive

variable {host : HostAddress} {cache : ARPCache} {arpU8 : List UInt8} {arpRx : ARP}

/-- The message that a frame of a host carries. -/
theorem generateARP_sendARP {txARP : ARP} (hsender : txARP.senderMac.length = 6)
    (htarget : txARP.targetMac.length = 6) (destinationMac : Mac) :
    generateARP (host.sendARP txARP destinationMac).SDU = some txARP :=
  generateARP_bytes hsender htarget

/-- A host changes its cache only for a message to it, by the pair of the sender, and only if its
look-up of the sender fails; it replies with its own pair, only to a request to it. -/
theorem receiveARP_eq (hmessage : generateARP arpU8 = some arpRx) :
    host.receiveARP cache arpU8 = some
      (if arpRx.targetIp = host.ip ∧ isBroadcast (cache.getMac arpRx.senderIp) = true then
          cache.addEntry arpRx.senderIp arpRx.senderMac
        else cache,
        if arpRx.targetIp = host.ip ∧ arpRx.opcode = ARP_REQUEST then
          some (host.sendARP ⟨ARP_REPLY, host.mac, host.ip, arpRx.senderMac, arpRx.senderIp⟩
            arpRx.senderMac)
        else none) := by
  rw [HostAddress.receiveARP, hmessage]
  by_cases htarget : arpRx.targetIp = host.ip
  · by_cases hrequest : arpRx.opcode = ARP_REQUEST
    · simp [htarget, hrequest]
    · simp [htarget, hrequest]
  · simp [htarget]

/-- A reply has the address of the host that sends it. -/
theorem sourceMac_of_receiveARP {learned : ARPCache} {reply : MPDU}
    (h : host.receiveARP cache arpU8 = some (learned, some reply)) :
    reply.sourceMac = host.mac := by
  cases hmessage : generateARP arpU8 with
  | none =>
    rw [HostAddress.receiveARP, hmessage] at h
    cases h
  | some arpRx =>
    rw [receiveARP_eq hmessage] at h
    have hreply := (Prod.mk.inj (Option.some.inj h)).2
    split_ifs at hreply
    obtain rfl := Option.some.inj hreply
    rfl

end Receive

end NetworkSimulation.Arp
