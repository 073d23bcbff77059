import NetworkSimulation.Arp.Cache

/-!
# The first announcement of an address

A host that waits for a MAC address looks it up until the result is not the broadcast address. The
cache only grows and a look-up stops at the first entry for the address, so what is found is the
sender MAC of the first message that the host heard from the address (`find_receiveAll`), whatever
came before or after. If that MAC is the broadcast address, which also stands for an address that is
not there, the entries that are added later are never found and the host waits for ever.
`released_iff` is the exact condition.
-/

set_option autoImplicit false
set_option relaxedAutoImplicit false

namespace NetworkSimulation.Arp

open Stack

namespace HostAddress

variable (host : HostAddress)

/-- `receive_arp`, message after message. -/
def receiveAll : ARPCache → List (List UInt8) → Option ARPCache
  | cache, [] => some cache
  | cache, arpU8 :: rest =>
    match host.receiveARP cache arpU8 with
    | none => none
    | some (cache, _) => receiveAll cache rest

/-- The sender MAC of a message for this host with the given sender IP. -/
def heardMac (ip : UInt32) (arpU8 : List UInt8) : Option Mac :=
  match generateARP arpU8 with
  | none => none
  | some arpRx =>
    if arpRx.targetIp = host.ip ∧ arpRx.senderIp = ip then some arpRx.senderMac else none

/-- What messages for this host with the given sender IP say, one after the other. -/
def heardMacs (ip : UInt32) (messages : List (List UInt8)) : List Mac :=
  messages.filterMap (host.heardMac ip)

/-- Once a message for this host with the given sender IP and a sender MAC other than the broadcast
address has been received, the look-up gives the MAC of the first such message and a host that
waits for it goes on. -/
def Released (ip : UInt32) (messages : List (List UInt8)) : Prop :=
  ∀ received, received <+: messages → ∀ mac,
    (host.heardMacs ip received).find? (fun mac ↦ !isBroadcast mac) = some mac →
      ∃ cache, host.receiveAll [] received = some cache ∧ cache.getMac ip = mac ∧
        isBroadcast (cache.getMac ip) = false

/-- The first message heard from the address does not say that it has the broadcast MAC, unless all
of them do. -/
def AnnouncedFirst (ip : UInt32) (messages : List (List UInt8)) : Prop :=
  ∀ first, (host.heardMacs ip messages).head? = some first → isBroadcast first = true →
    ∀ mac ∈ host.heardMacs ip messages, isBroadcast mac = true

end HostAddress

/-! ### The first entry for an address -/

theorem exists_generateARP {arpU8 : List UInt8} (h : arpU8.length = 22) :
    ∃ arpRx, generateARP arpU8 = some arpRx := by
  match arpU8, h with
  | [_, _, _, _, _, _, _, _, _, _, _, _, _, _, _, _, _, _, _, _, _, _], _ => exact ⟨_, rfl⟩

namespace ARPCache

/-- The entry that a look-up stops at. -/
def firstEntry (cache : ARPCache) (ip : UInt32) : Option ARPEntry :=
  cache.find? fun entry ↦ compareIps ip entry.ip

theorem getMac_eq (cache : ARPCache) (ip : UInt32) :
    cache.getMac ip = ((cache.firstEntry ip).map ARPEntry.mac).getD createBroadcastMac := by
  rw [getMac, firstEntry]
  cases cache.find? fun entry ↦ compareIps ip entry.ip <;> rfl

theorem firstEntry_addEntry (cache : ARPCache) (ip other : UInt32) (mac : Mac) :
    (cache.addEntry other mac).firstEntry ip =
      (cache.firstEntry ip).or (if other = ip then some ⟨ip, mac⟩ else none) := by
  rw [firstEntry, addEntry, List.find?_append, ← firstEntry]
  congr 1
  by_cases hsame : other = ip
  · rw [if_pos hsame, hsame]
    exact List.find?_cons_of_pos (compareIps_iff.mpr rfl)
  · rw [if_neg hsame]
    exact List.find?_cons_of_neg fun h ↦ hsame (compareIps_iff.mp h).symm

end ARPCache

section Receive

variable {host : HostAddress} {ip : UInt32}

/-- A message puts an entry behind the one that a look-up stops at, and first if there is none. -/
theorem firstEntry_receiveARP {cache : ARPCache} {arpU8 : List UInt8} {arpRx : ARP}
    (hmessage : generateARP arpU8 = some arpRx) :
    ∃ later reply, host.receiveARP cache arpU8 = some (later, reply) ∧
      later.firstEntry ip =
        (cache.firstEntry ip).or ((host.heardMac ip arpU8).map fun mac ↦ ⟨ip, mac⟩) := by
  refine ⟨_, _, receiveARP_eq hmessage, ?_⟩
  simp only [HostAddress.heardMac, hmessage]
  by_cases htarget : arpRx.targetIp = host.ip
  · by_cases hsender : arpRx.senderIp = ip
    · rw [if_pos (And.intro htarget hsender), Option.map_some]
      by_cases hunknown : isBroadcast (cache.getMac arpRx.senderIp) = true
      · rw [if_pos ⟨htarget, hunknown⟩, ARPCache.firstEntry_addEntry, if_pos hsender]
      · rw [if_neg fun h ↦ hunknown h.2]
        cases hentry : cache.firstEntry ip with
        | none =>
          -- an address without an entry is not known
          rw [hsender, ARPCache.getMac_eq, hentry] at hunknown
          exact absurd ARPCache.isBroadcast_createBroadcastMac hunknown
        | some entry => rfl
    · have hnot : ¬ (arpRx.targetIp = host.ip ∧ arpRx.senderIp = ip) := fun h ↦ hsender h.2
      rw [if_neg hnot, Option.map_none, Option.or_none]
      split_ifs
      · rw [ARPCache.firstEntry_addEntry, if_neg hsender, Option.or_none]
      · rfl
  · rw [if_neg fun h ↦ htarget h.1, if_neg fun h ↦ htarget h.1, Option.map_none, Option.or_none]

/-- The look-up stops at the first entry there was or at the first message heard. -/
theorem firstEntry_receiveAll (messages : List (List UInt8))
    (hlength : ∀ arpU8 ∈ messages, arpU8.length = 22) (cache : ARPCache) :
    ∃ later, host.receiveAll cache messages = some later ∧
      later.firstEntry ip =
        (cache.firstEntry ip).or ((host.heardMacs ip messages).head?.map fun mac ↦ ⟨ip, mac⟩) := by
  induction messages generalizing cache with
  | nil => exact ⟨cache, rfl, by simp [HostAddress.heardMacs]⟩
  | cons arpU8 rest ih =>
    obtain ⟨arpRx, hmessage⟩ := exists_generateARP (hlength arpU8 (List.mem_cons_self ..))
    obtain ⟨next, reply, hreceive, hnext⟩ := firstEntry_receiveARP hmessage
    obtain ⟨later, hall, hlater⟩ :=
      ih (fun other hother ↦ hlength other (List.mem_cons_of_mem _ hother)) next
    refine ⟨later, ?_, ?_⟩
    · rw [HostAddress.receiveAll, hreceive]
      exact hall
    · rw [hlater, hnext, Option.or_assoc, HostAddress.heardMacs, HostAddress.heardMacs,
        List.filterMap_cons]
      cases host.heardMac ip arpU8 with
      | none => rfl
      | some mac => rfl

/-- What a look-up finds after a sequence of messages. -/
theorem getMac_receiveAll (ip : UInt32) (messages : List (List UInt8))
    (hlength : ∀ arpU8 ∈ messages, arpU8.length = 22) :
    ∃ later, host.receiveAll [] messages = some later ∧
      later.getMac ip = (host.heardMacs ip messages).head?.getD createBroadcastMac := by
  obtain ⟨later, hall, hlater⟩ := firstEntry_receiveAll messages hlength []
  refine ⟨later, hall, ?_⟩
  rw [ARPCache.getMac_eq, hlater]
  cases (host.heardMacs ip messages).head? with
  | none => rfl
  | some mac => rfl

end Receive

/-- The wait ends for every sequence of messages in which the first one heard from the address does
not carry the broadcast MAC, and only for these. -/
theorem released_iff (host : HostAddress) (ip : UInt32) (messages : List (List UInt8))
    (hlength : ∀ arpU8 ∈ messages, arpU8.length = 22) :
    host.Released ip messages ↔ host.AnnouncedFirst ip messages := by
  constructor
  · intro hreleased first hfirst hbroadcast mac hmac
    by_contra hother
    rw [Bool.not_eq_true] at hother
    have hsome : ((host.heardMacs ip messages).find? fun mac ↦ !isBroadcast mac).isSome := by
      rw [List.find?_isSome]
      exact ⟨mac, hmac, by rw [hother]; rfl⟩
    obtain ⟨good, hgood⟩ := Option.isSome_iff_exists.mp hsome
    obtain ⟨cache, hall, -, hknown⟩ := hreleased messages (List.prefix_refl _) good hgood
    obtain ⟨later, hlater, hget⟩ := getMac_receiveAll ip messages hlength
    cases hall.symm.trans hlater
    rw [hget, hfirst, Option.getD_some, hbroadcast] at hknown
    cases hknown
  · intro hannounced received hreceived good hgood
    have hinitial : host.heardMacs ip received <+: host.heardMacs ip messages :=
      hreceived.filterMap _
    obtain ⟨later, hlater, hget⟩ := getMac_receiveAll ip received
      fun arpU8 hmem ↦ hlength arpU8 (hreceived.subset hmem)
    refine ⟨later, hlater, ?_⟩
    cases hheard : host.heardMacs ip received with
    | nil =>
      rw [hheard] at hgood
      cases hgood
    | cons first rest =>
      rw [hheard] at hgood hinitial hget
      obtain ⟨more, hmore⟩ := hinitial
      have hknown : isBroadcast first = false := by
        by_contra hbroadcast
        rw [Bool.not_eq_false] at hbroadcast
        have hall := hannounced first (by rw [← hmore]; rfl) hbroadcast good
          (by rw [← hmore]; exact List.mem_append_left _ (List.mem_of_find?_eq_some hgood))
        have hsomeone := List.find?_some hgood
        rw [hall] at hsomeone
        cases hsomeone
      rw [List.find?_cons_of_pos (by rw [hknown]; rfl)] at hgood
      obtain rfl := Option.some.inj hgood
      rw [hget, List.head?_cons, Option.getD_some]
      exact ⟨rfl, hknown⟩

/-- A message from another address and one for another host come before the reply, and one with the
broadcast MAC after it. -/
theorem released_witness :
    HostAddress.Released ⟨[2, 0, 0, 0, 0, 1], 1⟩ 2
      [(⟨ARP_REPLY, [2, 0, 0, 0, 0, 3], 3, [2, 0, 0, 0, 0, 1], 1⟩ : ARP).bytes,
        (⟨ARP_REQUEST, [2, 0, 0, 0, 0, 4], 2, createBroadcastMac, 3⟩ : ARP).bytes,
        (⟨ARP_REPLY, [2, 0, 0, 0, 0, 2], 2, [2, 0, 0, 0, 0, 1], 1⟩ : ARP).bytes,
        (⟨ARP_REPLY, createBroadcastMac, 2, [2, 0, 0, 0, 0, 1], 1⟩ : ARP).bytes] := by
  refine (released_iff _ _ _ (by decide)).mpr fun first hfirst hbroadcast ↦ ?_
  obtain rfl : [2, 0, 0, 0, 0, 2] = first := Option.some.inj hfirst
  cases hbroadcast

/-- A reply with the broadcast MAC as its sender, and then a correct one: the correct one is added
behind the other and never found. -/
theorem not_released_broadcast :
    ¬ HostAddress.Released ⟨[2, 0, 0, 0, 0, 1], 1⟩ 2
      [(⟨ARP_REPLY, createBroadcastMac, 2, [2, 0, 0, 0, 0, 1], 1⟩ : ARP).bytes,
        (⟨ARP_REPLY, [2, 0, 0, 0, 0, 2], 2, [2, 0, 0, 0, 0, 1], 1⟩ : ARP).bytes] := by
  intro hreleased
  obtain ⟨cache, hall, hget, -⟩ :=
    hreleased _ (List.prefix_refl _) [2, 0, 0, 0, 0, 2] (by decide)
  have hcache : HostAddress.receiveAll ⟨[2, 0, 0, 0, 0, 1], 1⟩ []
      [(⟨ARP_REPLY, createBroadcastMac, 2, [2, 0, 0, 0, 0, 1], 1⟩ : ARP).bytes,
        (⟨ARP_REPLY, [2, 0, 0, 0, 0, 2], 2, [2, 0, 0, 0, 0, 1], 1⟩ : ARP).bytes] =
      some [⟨2, createBroadcastMac⟩, ⟨2, [2, 0, 0, 0, 0, 2]⟩] := by decide
  cases hcache.symm.trans hall
  exact absurd hget (by decide)

end NetworkSimulation.Arp
