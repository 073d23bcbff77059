import NetworkSimulation.Switching.Learning

/-!
# Delivery to the host a frame is addressed to

For a frame that one host sent to another, a location is ahead when it lies on the path between the
two hosts and, if it is a wire, leads on towards the destination (`Topology.Ahead`). Whatever the
tables know, the sender of a switch on the path transmits on the interface that leads to the
destination (`exists_ahead_mem_transmissions`): it unicasts there, or it floods and the interface
recorded for the source is a different one. So without losses a copy stays ahead until the
destination has the frame (`delivered_or_on_path`).
-/

set_option autoImplicit false
set_option relaxedAutoImplicit false

namespace NetworkSimulation.Switching

open Stack Library Library.TreeRouting

variable {H S : Type*} {net : Topology H S}

/-! ### Locations on the path -/

namespace Topology

variable (net) in
/-- A switch on the path between two hosts, or a wire between two devices on it. -/
def OnPath (source target : H) : Location H net.interfaces → Prop
  | .wire port =>
    port.device ∈ net.pathBetween (.inl source) (.inl target) ∧
      (net.peer port).device ∈ net.pathBetween (.inl source) (.inl target)
  | .frameQueue switch => .inr switch ∈ net.pathBetween (.inl source) (.inl target)

variable (net) in
/-- A switch on the path between two hosts, or a wire on it in the direction of the second. -/
def Ahead (source target : H) : Location H net.interfaces → Prop
  | .wire port =>
    port.device ∈ net.pathBetween (.inl source) (.inl target) ∧ port.device ≠ .inl target ∧
      net.LeadsTo port (.inl target)
  | .frameQueue switch => .inr switch ∈ net.pathBetween (.inl source) (.inl target)

variable {source target : H}

theorem Ahead.peer_mem {port : Port H net.interfaces}
    (h : net.Ahead source target (.wire port)) :
    (net.peer port).device ∈ net.pathBetween (.inl source) (.inl target) := by
  obtain ⟨hmem, -, hleads⟩ := h
  rw [hleads]
  exact nextHop_mem_path net.isTree hmem

theorem Ahead.onPath {location : Location H net.interfaces}
    (h : net.Ahead source target location) : net.OnPath source target location := by
  cases location with
  | wire port => exact ⟨h.1, h.peer_mem⟩
  | frameQueue switch => exact h

theorem ahead_host (h : source ≠ target) :
    net.Ahead source target (.wire (.inl source)) := by
  have hne : (.inl source : H ⊕ S) ≠ .inl target := fun heq ↦ h (Sum.inl.inj heq)
  exact ⟨SimpleGraph.Walk.start_mem_support _, hne, leadsTo_host hne⟩

theorem Ahead.wire {switch : S} {ifId : Fin (net.interfaces switch)}
    (h : net.Ahead source target (.frameQueue switch))
    (hleads : net.LeadsTo (.inr ⟨switch, ifId⟩) (.inl target)) :
    net.Ahead source target (.wire (.inr ⟨switch, ifId⟩)) :=
  ⟨h, by simp [Port.device], hleads⟩

/-- A wire ahead ends at a switch on the path. -/
theorem Ahead.frameQueue {switch : S} {inIf : Fin (net.interfaces switch)}
    (h : net.Ahead source target (.wire (net.peer (.inr ⟨switch, inIf⟩)))) :
    net.Ahead source target (.frameQueue switch) := by
  have hmem := h.peer_mem
  rwa [net.peer_peer] at hmem

/-- A wire ahead that ends at a host ends at the destination. -/
theorem Ahead.eq_target {host : H}
    (h : net.Ahead source target (.wire (net.peer (.inl host)))) : host = target :=
  Sum.inl.inj (eq_of_leadsTo_host h.2.2 (net.peer_peer _))

end Topology

/-! ### A copy stays ahead until it is delivered -/

/-- The frame with this number was sent by one host to the address of another. -/
def World.SentTo (world : World net) (copy : Copy) (source target : H) : Prop :=
  world.sent[copy.serial]? = some (source, copy.frame) ∧
    compareMacs copy.frame.destinationMac (net.mac target) = true ∧ source ≠ target

/-- Every frame sent to another host has been delivered to it, or a copy is ahead. -/
def Pending (world : World net) : Prop :=
  ∀ copy source target, world.SentTo copy source target →
    (target, copy) ∈ world.delivered ∨
      ∃ location, net.Ahead source target location ∧ copy ∈ world.queues location

namespace Learned

variable {world : World net} {copy : Copy} {source target : H}

/-- A copy on its way is one of the frame sent under its number. -/
theorem sourceMac_of_sentTo (hworld : Learned world) {location : Location H net.interfaces}
    (hcopy : copy ∈ world.queues location) (hsent : world.SentTo copy source target) :
    copy.frame.sourceMac = net.mac source := by
  obtain ⟨host, horigin, hmac⟩ := hworld.origin location copy hcopy
  rw [hsent.1] at horigin
  cases horigin
  exact hmac

/-- A switch on the path transmits the frame on the interface that leads to the destination. -/
theorem exists_ahead_mem_transmissions (hworld : Learned world) {switch : S}
    (hcopy : copy ∈ world.queues (.frameQueue switch)) (hsent : world.SentTo copy source target)
    (hahead : net.Ahead source target (.frameQueue switch)) :
    ∃ location, net.Ahead source target location ∧
      (location, copy) ∈ transmissions switch (world.switchTables switch) copy := by
  have hmac := hworld.sourceMac_of_sentTo hcopy hsent
  have hne : (.inr switch : H ⊕ S) ≠ .inl target := by simp
  by_cases hknown : world.Knows target switch
  · obtain ⟨ifId, hlookup, hleads⟩ := hworld.lookup_of_knows hsent.2.1 hknown
    exact ⟨_, hahead.wire hleads, mem_transmissions.mpr ⟨rfl, ifId, rfl, Or.inl hlookup⟩⟩
  · obtain ⟨port, hdevice, hleads⟩ := net.exists_leadsTo hne
    obtain ⟨ifId, rfl⟩ := Topology.device_eq_inr hdevice
    have hnone := hworld.lookup_eq_none hsent.2.1 hknown
    refine ⟨_, hahead.wire hleads, mem_transmissions.mpr ⟨rfl, ifId, rfl, Or.inr ⟨hnone, ?_⟩⟩⟩
    intro hlookup
    have hback := (hworld.lookup_sourceMac_eq_some_iff hcopy hmac).mp hlookup
    exact nextHop_ne_of_mem_path net.isTree hahead hne (hback.symm.trans hleads)

end Learned

section Steps

variable [DecidableEq H] [DecidableEq S] {world next : World net}

/-- A frame is ahead once it is sent. -/
theorem pending_send {host : H} {frame : MPDU} (hpending : Pending world)
    (h : world.step (.send host frame) = some next) : Pending next := by
  obtain ⟨-, rfl⟩ := step_send h
  intro copy source target hsent
  by_cases hlast : copy.serial < world.sent.length
  · have hbefore : world.SentTo copy source target :=
      ⟨by rw [← hsent.1, List.getElem?_append_left hlast], hsent.2⟩
    rcases hpending copy source target hbefore with hdelivered | ⟨location, hahead, hcopy⟩
    · exact Or.inl hdelivered
    · exact Or.inr ⟨location, hahead, QueueFamily.mem_add.mpr (Or.inl hcopy)⟩
  · obtain ⟨hrecord, -, hne⟩ := hsent
    obtain ⟨hbound, hentry⟩ := List.getElem?_eq_some_iff.mp hrecord
    rw [List.length_append, List.length_singleton] at hbound
    have hserial : copy.serial = world.sent.length := by omega
    rw [List.getElem_append_right (not_lt.mp hlast)] at hentry
    simp only [hserial, Nat.sub_self, List.getElem_cons_zero, Prod.mk.injEq] at hentry
    obtain ⟨rfl, hframe⟩ := hentry
    refine Or.inr ⟨_, Topology.ahead_host hne, QueueFamily.mem_add.mpr (Or.inr ⟨rfl, ?_⟩)⟩
    rw [← hserial, hframe]

/-- When a copy is taken from a queue, any other is where it was. -/
theorem Pending.of_remove (hpending : Pending world) {location : Location H net.interfaces}
    {taken : Copy} {queues : QueueFamily (Location H net.interfaces) Copy}
    (hremove : world.queues.remove location = some (taken, queues)) {copy : Copy} {source target : H}
    (hsent : world.SentTo copy source target) :
    (target, copy) ∈ world.delivered ∨
      (∃ location, net.Ahead source target location ∧ copy ∈ queues location) ∨
        net.Ahead source target location ∧ copy = taken := by
  rcases hpending copy source target hsent with hdelivered | ⟨location, hahead, hcopy⟩
  · exact Or.inl hdelivered
  · rcases QueueFamily.mem_remove_or hremove hcopy with hcopy | ⟨rfl, rfl⟩
    · exact Or.inr (Or.inl ⟨location, hahead, hcopy⟩)
    · exact Or.inr (Or.inr ⟨hahead, rfl⟩)

theorem pending_receive {switch : S} {inIf : Fin (net.interfaces switch)} (hpending : Pending world)
    (h : world.step (.receive switch inIf) = some next) : Pending next := by
  obtain ⟨taken, queues, hremove, rfl⟩ := step_receive h
  intro copy source target hsent
  rcases hpending.of_remove hremove hsent with
    hdelivered | ⟨location, hahead, hcopy⟩ | ⟨hahead, rfl⟩
  · exact Or.inl hdelivered
  · exact Or.inr ⟨location, hahead, QueueFamily.mem_add.mpr (Or.inl hcopy)⟩
  · exact Or.inr ⟨_, hahead.frameQueue, QueueFamily.mem_add.mpr (Or.inr ⟨rfl, rfl⟩)⟩

theorem pending_forward {switch : S} (hworld : Learned world) (hpending : Pending world)
    (h : world.step (.forward switch) = some next) : Pending next := by
  obtain ⟨taken, queues, hremove, rfl⟩ := step_forward h
  intro copy source target hsent
  rcases hpending.of_remove hremove hsent with
    hdelivered | ⟨location, hahead, hcopy⟩ | ⟨hahead, rfl⟩
  · exact Or.inl hdelivered
  · exact Or.inr ⟨location, hahead, QueueFamily.mem_addAll.mpr (Or.inl hcopy)⟩
  · obtain ⟨further, hfurther, hsends⟩ := hworld.exists_ahead_mem_transmissions
      (QueueFamily.item_mem_of_remove hremove) hsent hahead
    exact Or.inr ⟨further, hfurther, QueueFamily.mem_addAll.mpr (Or.inr hsends)⟩

/-- A copy ahead is taken by the host it is for, which accepts it. -/
theorem pending_deliver {host : H} (hpending : Pending world)
    (h : world.step (.deliver host) = some next) : Pending next := by
  obtain ⟨taken, queues, hremove, rfl⟩ := step_deliver h
  intro copy source target hsent
  rcases hpending.of_remove hremove hsent with
    hdelivered | ⟨location, hahead, hcopy⟩ | ⟨hahead, rfl⟩
  · refine Or.inl ?_
    change (target, copy) ∈ if _ then _ else _
    split_ifs
    · exact List.mem_append_left _ hdelivered
    · exact hdelivered
  · exact Or.inr ⟨location, hahead, hcopy⟩
  · obtain rfl := hahead.eq_target
    have haccepts : accepts (net.mac host) copy.frame = true := by
      rw [accepts, hsent.2.1, Bool.true_or]
    refine Or.inl ?_
    change (host, copy) ∈ if _ then _ else _
    rw [if_pos haccepts]
    exact List.mem_append_right _ (List.mem_singleton_self _)

theorem pending_step {event : Event net} (hworld : Learned world) (hpending : Pending world)
    (hguard : lossless world event) (h : world.step event = some next) : Pending next := by
  cases event with
  | send host frame => exact pending_send hpending h
  | receive switch inIf => exact pending_receive hpending h
  | forward switch => exact pending_forward hworld hpending h
  | deliver host => exact pending_deliver hpending h
  | lose location position => exact hguard.elim

/-- Without losses every frame that a host sent to another has been delivered to it, or a copy is on
the path between them. -/
theorem delivered_or_on_path (h : (network net).Reachable lossless world) {copy : Copy}
    {source target : H} (hsent : world.SentTo copy source target) :
    (target, copy) ∈ world.delivered ∨
      ∃ location, net.OnPath source target location ∧ copy ∈ world.queues location := by
  have hstep : ∀ (before : World net) event after, Learned before ∧ Pending before →
      lossless before event → (network net).step before event = some after →
        Learned after ∧ Pending after :=
    fun _ _ _ hbefore hguard hafter ↦
      ⟨learned_step hbefore.1 hafter, pending_step hbefore.1 hbefore.2 hguard hafter⟩
  have hinit : Pending (network net).init := by
    rintro copy source target ⟨hrecord, -⟩
    cases hrecord
  rcases (h.invariant hstep ⟨learned_init, hinit⟩).2 copy source target hsent with
    hdelivered | ⟨location, hahead, hcopy⟩
  · exact Or.inl hdelivered
  · exact Or.inr ⟨location, hahead.onPath, hcopy⟩

theorem delivered_or_on_path_witness :
    ∃ h : ((network readmeNetwork).run lossless (network readmeNetwork).init
        [.send 1 (readmeFrame 1 2), .receive 1 ⟨1, by decide⟩]).isSome,
      (2, ⟨0, readmeFrame 1 2⟩) ∈ (Option.get _ h).delivered ∨
        ∃ location, readmeNetwork.OnPath 1 2 location ∧
          ⟨0, readmeFrame 1 2⟩ ∈ (Option.get _ h).queues location :=
  ⟨by decide, delivered_or_on_path (ScheduledSystem.reachable_of_isSome_run _)
    ⟨rfl, by decide, by decide⟩⟩

end Steps

end NetworkSimulation.Switching
