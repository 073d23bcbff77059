import NetworkSimulation.Switching.Network

/-!
# What the switches learn

A learned entry is never corrected, so one frame received on the wrong interface would misroute its
source for good. That this never happens rests on an invariant of the copies on their way: every
copy is at, or was last transmitted by, a device that knows its source (`Learned.behind`). The
switches that know a host lie together around it: with a switch, the next one towards the host knows
it too (`Learned.closed`). So a switch that still learns a host receives the frame from the host's
side, whatever detour the copy took before, and an entry always names the interface on the path to
its host (`Learned.entries`).
-/

set_option autoImplicit false
set_option relaxedAutoImplicit false

namespace NetworkSimulation.Switching

open Stack Library Library.TreeRouting

variable {H S : Type*} {net : Topology H S}

/-! ### Whom an address belongs to -/

/-- An address whose first six bytes are a host's belongs to that host only. -/
theorem Topology.eq_of_compareMacs {mac : Mac} {host other : H}
    (h : compareMacs mac (net.mac host) = true) (hother : compareMacs mac (net.mac other) = true) :
    host = other := by
  rw [compareMacs_iff_take] at h hother
  rw [List.take_of_length_le (net.length_mac host).le] at h
  rw [List.take_of_length_le (net.length_mac other).le] at hother
  exact net.mac_injective (h.symm.trans hother)

/-! ### Knowing a host -/

/-- The table of the switch lists the host. -/
def World.Knows (world : World net) (host : H) (switch : S) : Prop :=
  net.mac host ∈ addresses (world.switchTables switch)

/-- The device knows the host: it is the host, or a switch that lists it. -/
def World.KnowsAt (world : World net) (host : H) : H ⊕ S → Prop
  | .inl other => other = host
  | .inr switch => world.Knows host switch

/-- The device a copy is at, or was transmitted by. -/
def Location.device {interfaces : S → ℕ} : Location H interfaces → H ⊕ S
  | .wire port => port.device
  | .frameQueue switch => .inr switch

/-- The invariant of the switches' tables and of the copies on their way. -/
structure Learned (world : World net) : Prop where
  entries : ∀ switch mac ifId, Lists (world.switchTables switch) mac ifId →
    ∃ host, mac = net.mac host ∧ net.LeadsTo (.inr ⟨switch, ifId⟩) (.inl host)
  nodup : ∀ switch, (addresses (world.switchTables switch)).Nodup
  closed : ∀ host switch next, world.Knows host switch →
    nextHop net.isTree (.inr switch) (.inl host) = .inr next → world.Knows host next
  origin : ∀ location, ∀ copy ∈ world.queues location, ∃ host,
    world.sent[copy.serial]? = some (host, copy.frame) ∧ copy.frame.sourceMac = net.mac host
  behind : ∀ location, ∀ copy ∈ world.queues location, ∀ host,
    copy.frame.sourceMac = net.mac host → world.KnowsAt host location.device

namespace Learned

variable {world : World net} (hworld : Learned world)

include hworld

/-- A lookup that succeeds found the host the address belongs to, on the interface that leads to
it. -/
theorem of_lookup {switch : S} {mac : Mac} {ifId : Fin (net.interfaces switch)}
    (h : getTableInterfaceNumber (world.switchTables switch) mac = some ifId) :
    ∃ host, compareMacs mac (net.mac host) = true ∧ world.Knows host switch ∧
      net.LeadsTo (.inr ⟨switch, ifId⟩) (.inl host) := by
  obtain ⟨listed, hlists, hcompare⟩ := lists_of_getTableInterfaceNumber h
  obtain ⟨host, rfl, hleads⟩ := hworld.entries switch listed ifId hlists
  exact ⟨host, hcompare, mem_addresses.mpr ⟨ifId, hlists⟩, hleads⟩

/-- The address of a host that the switch knows is found. -/
theorem lookup_of_knows {switch : S} {mac : Mac} {host : H}
    (hmac : compareMacs mac (net.mac host) = true) (h : world.Knows host switch) :
    ∃ ifId, getTableInterfaceNumber (world.switchTables switch) mac = some ifId ∧
      net.LeadsTo (.inr ⟨switch, ifId⟩) (.inl host) := by
  have hbroadcast : isBroadcast mac = false :=
    (isBroadcast_eq_of_compareMacs hmac).trans (net.not_broadcast host)
  cases hlookup : getTableInterfaceNumber (world.switchTables switch) mac with
  | none =>
    have hnone := (getTableInterfaceNumber_eq_none_iff hbroadcast).mp hlookup _ h
    rw [hmac] at hnone
    cases hnone
  | some ifId =>
    obtain ⟨found, hfound, -, hleads⟩ := hworld.of_lookup hlookup
    obtain rfl := Topology.eq_of_compareMacs hmac hfound
    exact ⟨ifId, rfl, hleads⟩

/-- The address of a host that the switch knows is found on the interface that leads to it. -/
theorem lookup_eq_some_iff {switch : S} {mac : Mac} {host : H} {ifId : Fin (net.interfaces switch)}
    (hmac : compareMacs mac (net.mac host) = true) (h : world.Knows host switch) :
    getTableInterfaceNumber (world.switchTables switch) mac = some ifId ↔
      net.LeadsTo (.inr ⟨switch, ifId⟩) (.inl host) := by
  obtain ⟨found, hlookup, hleads⟩ := hworld.lookup_of_knows hmac h
  rw [hlookup]
  constructor
  · intro hfound
    rwa [← Option.some.inj hfound]
  · intro hother
    rw [Topology.ifId_eq_of_leadsTo hleads hother]

/-- The source of a frame in the queue is recorded on the interface that leads to it. -/
theorem lookup_sourceMac_eq_some_iff {switch : S} {copy : Copy} {host : H}
    {ifId : Fin (net.interfaces switch)} (hcopy : copy ∈ world.queues (.frameQueue switch))
    (hmac : copy.frame.sourceMac = net.mac host) :
    getTableInterfaceNumber (world.switchTables switch) copy.frame.sourceMac = some ifId ↔
      net.LeadsTo (.inr ⟨switch, ifId⟩) (.inl host) :=
  hworld.lookup_eq_some_iff (by rw [hmac]; exact compareMacs_self _)
    (hworld.behind _ copy hcopy host hmac)

/-- The address of a host that the switch does not know is not found. -/
theorem lookup_eq_none {switch : S} {mac : Mac} {host : H}
    (hmac : compareMacs mac (net.mac host) = true) (h : ¬ world.Knows host switch) :
    getTableInterfaceNumber (world.switchTables switch) mac = none := by
  cases hlookup : getTableInterfaceNumber (world.switchTables switch) mac with
  | none => rfl
  | some ifId =>
    obtain ⟨found, hfound, hknown, -⟩ := hworld.of_lookup hlookup
    obtain rfl := Topology.eq_of_compareMacs hmac hfound
    exact absurd hknown h

theorem lookup_eq_none_iff {switch : S} {mac : Mac} {host : H}
    (hmac : compareMacs mac (net.mac host) = true) :
    getTableInterfaceNumber (world.switchTables switch) mac = none ↔ ¬ world.Knows host switch := by
  refine ⟨fun hnone hknown ↦ ?_, hworld.lookup_eq_none hmac⟩
  obtain ⟨ifId, hfound, -⟩ := hworld.lookup_of_knows hmac hknown
  rw [hnone] at hfound
  cases hfound

/-- The next device towards a known host knows it too. -/
theorem knowsAt_nextHop {host : H} {device : H ⊕ S} (h : world.KnowsAt host device) :
    world.KnowsAt host (nextHop net.isTree device (.inl host)) := by
  rcases device with other | switch
  · obtain rfl : other = host := h
    rw [nextHop_self]
    exact rfl
  · cases hnext : nextHop net.isTree (.inr switch) (.inl host) with
    | inl other =>
      have hleads : ∃ port : Port H net.interfaces, port.device = .inr switch ∧
          (net.peer port).device = .inl other ∧ net.LeadsTo port (.inl host) := by
        have hne : (.inr switch : H ⊕ S) ≠ .inl host := by simp
        obtain ⟨port, hdevice, hleads⟩ := net.exists_leadsTo hne
        have hpeer : (net.peer port).device = nextHop net.isTree (.inr switch) (.inl host) := by
          rw [← hdevice]
          exact hleads
        exact ⟨port, hdevice, hpeer.trans hnext, hleads⟩
      obtain ⟨port, -, hpeer, hport⟩ := hleads
      have hhost := Topology.eq_of_leadsTo_host hport (Topology.device_eq_inl hpeer)
      exact Sum.inl.inj hhost
    | inr next => exact hworld.closed host switch next h hnext

/-- A frame whose source the switch does not know comes from the source's side. -/
theorem leadsTo_of_not_knows {switch : S} {inIf : Fin (net.interfaces switch)} {host : H}
    (hbehind : world.KnowsAt host (net.peer (.inr ⟨switch, inIf⟩)).device)
    (h : ¬ world.Knows host switch) : net.LeadsTo (.inr ⟨switch, inIf⟩) (.inl host) := by
  by_contra hleads
  have hback := Topology.nextHop_peer_of_not_leadsTo hleads
  have hknown := hworld.knowsAt_nextHop hbehind
  rw [hback] at hknown
  exact h hknown

end Learned

/-! ### Every step keeps the invariant -/

section Steps

variable [DecidableEq H] [DecidableEq S] {world next : World net}

theorem learned_init : Learned (network net).init where
  entries := by
    rintro switch mac ifId ⟨entry, hentry, -⟩
    cases hentry
  nodup _ := List.nodup_nil
  closed host switch next h := by cases h
  origin _ _ h := by cases h
  behind _ _ h := by cases h

/-- A frame sent by a host is known at the host. -/
theorem learned_send {host : H} {frame : MPDU} (hworld : Learned world)
    (h : world.step (.send host frame) = some next) : Learned next := by
  obtain ⟨hsource, rfl⟩ := step_send h
  refine ⟨hworld.entries, hworld.nodup, hworld.closed, ?_, ?_⟩
  · intro location copy hcopy
    rcases QueueFamily.mem_add.mp hcopy with hcopy | ⟨-, rfl⟩
    · obtain ⟨source, hsent, hmac⟩ := hworld.origin location copy hcopy
      obtain ⟨hbound, -⟩ := List.getElem?_eq_some_iff.mp hsent
      exact ⟨source, by rw [List.getElem?_append_left hbound, hsent], hmac⟩
    · exact ⟨host, List.getElem?_concat_length, hsource⟩
  · intro location copy hcopy other hother
    rcases QueueFamily.mem_add.mp hcopy with hcopy | ⟨rfl, rfl⟩
    · exact hworld.behind location copy hcopy other hother
    · exact net.mac_injective (hsource.symm.trans hother)

omit [DecidableEq H] in
/-- A switch knows the source of every frame it has received. -/
theorem Learned.knows_receive {switch : S} {copy : Copy} {source : H}
    (hworld : Learned world) (inIf : Fin (net.interfaces switch))
    (hmac : copy.frame.sourceMac = net.mac source) (host : H) (other : S) :
    net.mac host ∈ addresses (Function.update world.switchTables switch
        (learn (world.switchTables switch) copy.frame.sourceMac inIf) other) ↔
      world.Knows host other ∨ other = switch ∧ host = source := by
  rw [mem_addresses, World.Knows, mem_addresses]
  simp only [lists_update_learn, hmac, hworld.lookup_eq_none_iff (compareMacs_self (net.mac source)),
    exists_or]
  constructor
  · rintro (hlisted | ⟨ifId, -, hhost, hport⟩)
    · exact Or.inl hlisted
    · exact Or.inr ⟨(Sigma.mk.inj hport).1, net.mac_injective hhost⟩
  · rintro (hlisted | ⟨rfl, rfl⟩)
    · exact Or.inl hlisted
    · by_cases hknown : world.Knows host other
      · exact Or.inl (mem_addresses.mp hknown)
      · exact Or.inr ⟨inIf, hknown, rfl, rfl⟩

omit [DecidableEq H] in
/-- A switch lists an address that it did not find, so it lists none twice. -/
theorem Learned.nodup_receive {switch : S} {copy : Copy} {source : H} (hworld : Learned world)
    (inIf : Fin (net.interfaces switch)) (hmac : copy.frame.sourceMac = net.mac source) (other : S) :
    (addresses (Function.update world.switchTables switch
      (learn (world.switchTables switch) copy.frame.sourceMac inIf) other)).Nodup := by
  by_cases hother : other = switch
  · subst hother
    rw [Function.update_self]
    refine nodup_addresses_learn inIf (hworld.nodup other) fun hlisted ↦ ?_
    rw [hmac] at hlisted ⊢
    rw [ne_eq, hworld.lookup_eq_none_iff (compareMacs_self (net.mac source)), not_not]
    exact hlisted
  · rw [Function.update_of_ne hother]
    exact hworld.nodup other

/-- A switch learns a host from its own side only, and afterwards knows the source of the frame it
queues. -/
theorem learned_receive {switch : S} {inIf : Fin (net.interfaces switch)} (hworld : Learned world)
    (h : world.step (.receive switch inIf) = some next) : Learned next := by
  obtain ⟨copy, queues, hremove, rfl⟩ := step_receive h
  have hcopy := QueueFamily.item_mem_of_remove hremove
  obtain ⟨source, hsent, hmac⟩ := hworld.origin _ _ hcopy
  have hbehind : world.KnowsAt source (net.peer (.inr ⟨switch, inIf⟩)).device :=
    hworld.behind _ _ hcopy source hmac
  have hknows := hworld.knows_receive inIf hmac
  refine ⟨?_, hworld.nodup_receive inIf hmac, ?_, ?_, ?_⟩
  · intro other mac ifId hlisted
    rcases lists_update_learn.mp hlisted with hold | ⟨hnone, rfl, hport⟩
    · exact hworld.entries other mac ifId hold
    · rw [hmac, hworld.lookup_eq_none_iff (compareMacs_self (net.mac source))] at hnone
      rw [hport]
      exact ⟨source, hmac, hworld.leadsTo_of_not_knows hbehind hnone⟩
  · intro host other further hknown hnext
    rcases (hknows host other).mp hknown with hold | ⟨rfl, rfl⟩
    · exact (hknows host further).mpr (Or.inl (hworld.closed host other further hold hnext))
    · by_cases hold : world.Knows host other
      · exact (hknows host further).mpr (Or.inl (hworld.closed host other further hold hnext))
      · have hpeer := hworld.leadsTo_of_not_knows hbehind hold
        rw [Topology.LeadsTo, Port.device, hnext] at hpeer
        rw [hpeer] at hbehind
        exact (hknows host further).mpr (Or.inl hbehind)
  · intro location held hheld
    rcases QueueFamily.mem_add.mp hheld with hheld | ⟨-, rfl⟩
    · exact hworld.origin location held (QueueFamily.mem_of_remove hremove hheld)
    · exact ⟨source, hsent, hmac⟩
  · intro location held hheld host hhost
    rcases QueueFamily.mem_add.mp hheld with hheld | ⟨rfl, rfl⟩
    · have hknown := hworld.behind location held (QueueFamily.mem_of_remove hremove hheld) host
        hhost
      cases hdevice : location.device with
      | inl other =>
        rw [hdevice] at hknown
        exact hknown
      | inr other =>
        rw [hdevice] at hknown
        exact (hknows host other).mpr (Or.inl hknown)
    · exact (hknows host switch).mpr (Or.inr ⟨rfl, net.mac_injective (hhost.symm.trans hmac)⟩)

/-- The switch that transmits a frame knows its source. -/
theorem learned_forward {switch : S} (hworld : Learned world)
    (h : world.step (.forward switch) = some next) : Learned next := by
  obtain ⟨copy, queues, hremove, rfl⟩ := step_forward h
  have hcopy := QueueFamily.item_mem_of_remove hremove
  refine ⟨hworld.entries, hworld.nodup, hworld.closed, ?_, ?_⟩
  · intro location held hheld
    rcases QueueFamily.mem_addAll.mp hheld with hheld | hsent
    · exact hworld.origin location held (QueueFamily.mem_of_remove hremove hheld)
    · obtain ⟨rfl, -⟩ := mem_transmissions.mp hsent
      exact hworld.origin _ _ hcopy
  · intro location held hheld host hhost
    rcases QueueFamily.mem_addAll.mp hheld with hheld | hsent
    · exact hworld.behind location held (QueueFamily.mem_of_remove hremove hheld) host hhost
    · obtain ⟨rfl, ifId, rfl, -⟩ := mem_transmissions.mp hsent
      exact hworld.behind _ _ hcopy host hhost

omit [DecidableEq H] [DecidableEq S] in
/-- Taking a frame away, for a host or for good, leaves the others as they are. -/
theorem learned_of_queues_subset {queues : QueueFamily (Location H net.interfaces) Copy}
    {delivered : List (H × Copy)} (hworld : Learned world)
    (hsubset : ∀ location, ∀ copy ∈ queues location, copy ∈ world.queues location) :
    Learned { world with queues, delivered } :=
  ⟨hworld.entries, hworld.nodup, hworld.closed,
    fun location copy hcopy ↦ hworld.origin location copy (hsubset location copy hcopy),
    fun location copy hcopy ↦ hworld.behind location copy (hsubset location copy hcopy)⟩

theorem learned_step {event : Event net} (hworld : Learned world)
    (h : world.step event = some next) : Learned next := by
  cases event with
  | send host frame => exact learned_send hworld h
  | receive switch inIf => exact learned_receive hworld h
  | forward switch => exact learned_forward hworld h
  | deliver host =>
    obtain ⟨copy, queues, hremove, rfl⟩ := step_deliver h
    exact learned_of_queues_subset hworld fun _ _ hcopy ↦ QueueFamily.mem_of_remove hremove hcopy
  | lose location position =>
    obtain ⟨queues, hlose, rfl⟩ := step_lose h
    exact learned_of_queues_subset hworld fun _ _ hcopy ↦ QueueFamily.mem_of_lose hlose hcopy

/-- A switch forgets no host. -/
theorem knows_of_step {event : Event net} (h : world.step event = some next)
    (host : H) (switch : S) (hknown : world.Knows host switch) : next.Knows host switch := by
  cases event with
  | send sender frame =>
    obtain ⟨-, rfl⟩ := step_send h
    exact hknown
  | receive other inIf =>
    obtain ⟨copy, queues, -, rfl⟩ := step_receive h
    obtain ⟨ifId, hlisted⟩ := mem_addresses.mp hknown
    exact mem_addresses.mpr ⟨ifId, lists_update_learn.mpr (Or.inl hlisted)⟩
  | forward other =>
    obtain ⟨copy, queues, -, rfl⟩ := step_forward h
    exact hknown
  | deliver receiver =>
    obtain ⟨copy, queues, -, rfl⟩ := step_deliver h
    exact hknown
  | lose location position =>
    obtain ⟨queues, -, rfl⟩ := step_lose h
    exact hknown

/-- The invariant holds in every reachable state, whatever events the guard allows. -/
theorem learned_of_reachable {guard : World net → Event net → Prop}
    (h : (network net).Reachable guard world) : Learned world := by
  have hstep : ∀ (before : World net) event after, Learned before → guard before event →
      (network net).step before event = some after → Learned after :=
    fun _ _ _ hbefore _ hafter ↦ learned_step hbefore hafter
  exact h.invariant hstep learned_init

/-- In every reachable state every entry for a host names the interface on the path to it, and no
table lists a host twice. -/
theorem tables_lead_to_hosts (h : (network net).Reachable anyEvent world) (switch : S) (host : H) :
    (∀ ifId, Lists (world.switchTables switch) (net.mac host) ifId →
      net.LeadsTo (.inr ⟨switch, ifId⟩) (.inl host)) ∧
    (addresses (world.switchTables switch)).count (net.mac host) ≤ 1 := by
  have hworld := learned_of_reachable h
  refine ⟨fun ifId hlisted ↦ ?_, List.nodup_iff_count_le_one.mp (hworld.nodup switch) _⟩
  obtain ⟨other, hmac, hleads⟩ := hworld.entries switch _ ifId hlisted
  rwa [net.mac_injective hmac]

theorem tables_lead_to_hosts_witness :
    ∃ h : ((network readmeNetwork).run anyEvent (network readmeNetwork).init
        [.send 1 (readmeFrame 1 2), .receive 1 ⟨1, by decide⟩]).isSome,
      (∀ ifId, Lists ((Option.get _ h).switchTables 1) (readmeNetwork.mac 1) ifId →
        readmeNetwork.LeadsTo (.inr ⟨1, ifId⟩) (.inl 1)) ∧
      (addresses ((Option.get _ h).switchTables 1)).count (readmeNetwork.mac 1) ≤ 1 :=
  ⟨by decide, tables_lead_to_hosts (ScheduledSystem.reachable_of_isSome_run _) 1 1⟩

end Steps

end NetworkSimulation.Switching
