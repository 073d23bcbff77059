import NetworkSimulation.Switching.Delivery

/-!
# How often a frame is delivered

A second delivery needs a copy that comes back. Learning happens when a frame is received and
forwarding when it is taken from the queue; if the switch learned the destination in between, on the
interface recorded for the source, the sender unicasts the frame back where it came from
(`World.Hairpin`), and the device there sends it to the destination once more
(`not_delivered_at_most_once`).

Without such a step every copy on a wire leads away from its source (`SingleDelivery.outward`). The
copies ahead, in the sense of `Topology.Ahead`, and the deliveries are then at most one together
(`SingleDelivery.once`): a copy enters the path only where it is ahead already, and a switch on the
path transmits on one interface that stays ahead.
-/

set_option autoImplicit false
set_option relaxedAutoImplicit false

namespace NetworkSimulation.Switching

open Stack Library Library.TreeRouting

variable {H S : Type*} {net : Topology H S}

/-! ### Sending a frame back -/

/-- The frame at the front of the queue is for a host that the table lists at the interface recorded
for another host, its source. -/
def World.Hairpin (world : World net) (switch : S) : Prop :=
  ∃ copy ∈ (world.queues (.frameQueue switch)).head?,
    compareMacs copy.frame.destinationMac copy.frame.sourceMac = false ∧
      getTableInterfaceNumber (world.switchTables switch) copy.frame.destinationMac ≠ none ∧
        getTableInterfaceNumber (world.switchTables switch) copy.frame.destinationMac =
          getTableInterfaceNumber (world.switchTables switch) copy.frame.sourceMac

instance (world : World net) (switch : S) : Decidable (world.Hairpin switch) :=
  inferInstanceAs (Decidable (∃ copy ∈ (world.queues (.frameQueue switch)).head?, _))

/-- No frame is lost, and none is sent back. -/
def withoutHairpins (world : World net) : Event net → Prop
  | .lose _ _ => False
  | .forward switch => ¬ world.Hairpin switch
  | _ => True

instance (world : World net) : ∀ event : Event net, Decidable (withoutHairpins world event)
  | .lose _ _ => .isFalse id
  | .forward switch => inferInstanceAs (Decidable (¬ world.Hairpin switch))
  | .send _ _ | .receive _ _ | .deliver _ => .isTrue trivial

/-! ### Copies ahead -/

/-- A wire that leads away from the source to a device on the path is ahead. -/
theorem Topology.ahead_of_not_leadsTo {source target : H} {port : Port H net.interfaces}
    (h : ¬ net.LeadsTo port (.inl source))
    (hmem : (net.peer port).device ∈ net.pathBetween (.inl source) (.inl target)) :
    net.Ahead source target (.wire port) := by
  have hback := nextHop_peer_of_not_leadsTo h
  have hleads : net.LeadsTo port (.inl target) := by
    by_contra hnot
    have hforth := nextHop_peer_of_not_leadsTo hnot
    by_cases hend : (net.peer port).device = .inl target
    · rw [hend, nextHop_self] at hforth
      exact net.device_peer_ne port (hend.trans hforth)
    · exact nextHop_ne_of_mem_path net.isTree hmem hend (hback.trans hforth.symm)
  refine ⟨?_, ?_, hleads⟩
  · have hstart := nextHop_start_mem_path net.isTree hmem
    rwa [hback] at hstart
  · intro hend
    rw [LeadsTo, hend, nextHop_self, ← hend] at hleads
    exact net.device_peer_ne port hleads

namespace Topology

variable (net)

open Classical in
/-- One for a copy ahead of the frame with the given number, zero for any other. -/
noncomputable def aheadValue (copy : Copy) (source target : H)
    (location : Location H net.interfaces) (held : Copy) : ℕ :=
  if held = copy ∧ net.Ahead source target location then 1 else 0

theorem aheadValue_le_one (copy : Copy) (source target : H)
    (location : Location H net.interfaces) (held : Copy) :
    net.aheadValue copy source target location held ≤ 1 := by
  unfold aheadValue
  split_ifs
  · exact le_rfl
  · exact Nat.zero_le 1

variable {copy held : Copy} {source target : H} {location other : Location H net.interfaces}

theorem aheadValue_eq_zero (h : held = copy → ¬ net.Ahead source target location) :
    net.aheadValue copy source target location held = 0 := by
  unfold aheadValue
  exact if_neg fun hahead ↦ h hahead.1 hahead.2

theorem aheadValue_self (h : net.Ahead source target location) :
    net.aheadValue copy source target location copy = 1 := by
  unfold aheadValue
  exact if_pos ⟨rfl, h⟩

theorem aheadValue_le
    (h : held = copy → net.Ahead source target location → net.Ahead source target other) :
    net.aheadValue copy source target location held ≤
      net.aheadValue copy source target other held := by
  by_cases hahead : held = copy ∧ net.Ahead source target location
  · obtain ⟨rfl, hlocation⟩ := hahead
    rw [net.aheadValue_self (h rfl hlocation)]
    exact net.aheadValue_le_one _ _ _ _ _
  · rw [net.aheadValue_eq_zero fun heq hlocation ↦ hahead ⟨heq, hlocation⟩]
    exact Nat.zero_le _

/-- At most one of the interfaces a switch transmits on is ahead, and only if the switch is. -/
theorem sum_aheadValue_transmissions_le (copy held : Copy) (source target : H) (switch : S)
    (switchTable : SwitchTable (net.interfaces switch)) :
    ((transmissions switch switchTable held).map fun sent ↦
      net.aheadValue copy source target sent.1 sent.2).sum ≤
        net.aheadValue copy source target (.frameQueue switch) held := by
  obtain ⟨ifIds, hnodup, hsends⟩ : ∃ ifIds : List (Fin (net.interfaces switch)), ifIds.Nodup ∧
      transmissions switch switchTable held = ifIds.map (unicast switch held) := by
    unfold transmissions
    split
    · rename_i ifId _
      exact ⟨[ifId], List.nodup_singleton _, rfl⟩
    · exact ⟨_, (List.nodup_finRange _).filter _, rfl⟩
  rw [hsends, List.map_map]
  change (ifIds.map fun ifId ↦
    net.aheadValue copy source target (.wire (.inr ⟨switch, ifId⟩)) held).sum ≤ _
  clear hsends
  induction ifIds with
  | nil => exact Nat.zero_le _
  | cons ifId rest ih =>
    obtain ⟨hfirst, hrest⟩ := List.nodup_cons.mp hnodup
    rw [List.map_cons, List.sum_cons]
    by_cases hahead : held = copy ∧ net.Ahead source target (.wire (.inr ⟨switch, ifId⟩))
    · obtain ⟨rfl, hwire⟩ := hahead
      have hzero : (rest.map fun other ↦
          net.aheadValue held source target (.wire (.inr ⟨switch, other⟩)) held).sum = 0 := by
        refine List.sum_eq_zero fun value hvalue ↦ ?_
        obtain ⟨other, hother, rfl⟩ := List.mem_map.mp hvalue
        refine net.aheadValue_eq_zero fun _ hsecond ↦ hfirst ?_
        rwa [ifId_eq_of_leadsTo hwire.2.2 hsecond.2.2]
      have hqueue : net.Ahead source target (.frameQueue switch) := hwire.1
      rw [hzero, net.aheadValue_self hwire, net.aheadValue_self hqueue]
    · rw [net.aheadValue_eq_zero fun heq hwire ↦ hahead ⟨heq, hwire⟩, Nat.zero_add]
      exact ih hrest

end Topology

/-! ### The invariant -/

variable [DecidableEq H] [Fintype H] [Fintype S]

/-- Copies lead away from their source, and of each frame for another host there is at most one copy
ahead or delivered. -/
structure SingleDelivery (world : World net) : Prop where
  learned : Learned world
  outward : ∀ port, ∀ copy ∈ world.queues (.wire port),
    compareMacs copy.frame.destinationMac copy.frame.sourceMac = false →
      ∀ host, copy.frame.sourceMac = net.mac host → ¬ net.LeadsTo port (.inl host)
  recorded : ∀ delivery ∈ world.delivered, delivery.2.serial < world.sent.length
  once : ∀ copy source target, world.SentTo copy source target →
    QueueFamily.weight (net.aheadValue copy source target) world.queues +
      world.delivered.count (target, copy) ≤ 1

namespace SingleDelivery

variable {world : World net} {copy : Copy} {source target : H}

omit [Fintype H] [Fintype S] [DecidableEq H] in
/-- A frame for another host is not for its source. -/
theorem compareMacs_of_sentTo (hmac : copy.frame.sourceMac = net.mac source)
    (hsent : world.SentTo copy source target) :
    compareMacs copy.frame.destinationMac copy.frame.sourceMac = false := by
  rw [Bool.eq_false_iff, hmac]
  intro hcompare
  exact hsent.2.2 (Topology.eq_of_compareMacs hcompare hsent.2.1)

/-- A copy that arrives at a device on the path was ahead on its wire. -/
theorem ahead_wire (hworld : SingleDelivery world) (hsent : world.SentTo copy source target)
    {port : Port H net.interfaces} (hcopy : copy ∈ world.queues (.wire port))
    (hmem : (net.peer port).device ∈ net.pathBetween (.inl source) (.inl target)) :
    net.Ahead source target (.wire port) := by
  have hmac := hworld.learned.sourceMac_of_sentTo hcopy hsent
  exact Topology.ahead_of_not_leadsTo
    (hworld.outward port copy hcopy (compareMacs_of_sentTo hmac hsent) source hmac) hmem

/-- A frame that was not sent before has no copies. -/
theorem weight_of_length_le (hworld : SingleDelivery world)
    (h : world.sent.length ≤ copy.serial) (source target : H) :
    QueueFamily.weight (net.aheadValue copy source target) world.queues +
      world.delivered.count (target, copy) = 0 := by
  have hcount : world.delivered.count (target, copy) = 0 := by
    refine List.count_eq_zero.mpr fun hmem ↦ ?_
    exact absurd (hworld.recorded _ hmem) (not_lt.mpr h)
  have hweight : QueueFamily.weight (net.aheadValue copy source target) world.queues = 0 := by
    by_contra hpos
    obtain ⟨location, held, hheld, hvalue⟩ :=
      QueueFamily.exists_mem_of_weight_pos (Nat.pos_of_ne_zero hpos)
    have heq : held = copy := by
      by_contra hne
      rw [net.aheadValue_eq_zero fun heq ↦ absurd heq hne] at hvalue
      exact hvalue.ne rfl
    obtain ⟨host, hrecord, -⟩ := hworld.learned.origin location held hheld
    obtain ⟨hbound, -⟩ := List.getElem?_eq_some_iff.mp hrecord
    rw [heq] at hbound
    exact absurd hbound (not_lt.mpr h)
  rw [hcount, hweight]

end SingleDelivery

section Steps

variable [DecidableEq S] {world next : World net}

theorem singleDelivery_send {host : H} {frame : MPDU} (hworld : SingleDelivery world)
    (h : world.step (.send host frame) = some next) : SingleDelivery next := by
  have hlearned := learned_send hworld.learned h
  obtain ⟨hsource, rfl⟩ := step_send h
  refine ⟨hlearned, ?_, ?_, ?_⟩
  · intro port held hheld hother other hmac
    rcases QueueFamily.mem_add.mp hheld with hheld | ⟨hlocation, rfl⟩
    · exact hworld.outward port held hheld hother other hmac
    · obtain rfl := net.mac_injective (hsource.symm.trans hmac)
      cases hlocation
      intro hleads
      rw [Topology.LeadsTo, Port.device, nextHop_self] at hleads
      exact net.device_peer_ne _ hleads
  · intro delivery hdelivery
    have hbound := hworld.recorded delivery hdelivery
    change _ < (world.sent ++ [(host, frame)]).length
    rw [List.length_append, List.length_singleton]
    exact hbound.trans (Nat.lt_succ_self _)
  · intro copy source target hsent
    change QueueFamily.weight _ (world.queues.add _ _) + world.delivered.count _ ≤ 1
    rw [QueueFamily.weight_add]
    by_cases hbefore : copy.serial < world.sent.length
    · have honce := hworld.once copy source target
        ⟨by rw [← hsent.1, List.getElem?_append_left hbefore], hsent.2⟩
      have hzero : net.aheadValue copy source target (.wire (.inl host))
          ⟨world.sent.length, frame⟩ = 0 := by
        refine net.aheadValue_eq_zero fun heq ↦ ?_
        rw [← heq] at hbefore
        exact absurd hbefore (lt_irrefl _)
      rw [hzero, Nat.add_zero]
      exact honce
    · have hnone := hworld.weight_of_length_le (not_lt.mp hbefore) source target
      have hvalue := net.aheadValue_le_one copy source target (.wire (.inl host))
        ⟨world.sent.length, frame⟩
      omega

theorem singleDelivery_receive {switch : S} {inIf : Fin (net.interfaces switch)}
    (hworld : SingleDelivery world) (h : world.step (.receive switch inIf) = some next) :
    SingleDelivery next := by
  have hlearned := learned_receive hworld.learned h
  obtain ⟨taken, queues, hremove, rfl⟩ := step_receive h
  refine ⟨hlearned, ?_, hworld.recorded, ?_⟩
  · intro port held hheld
    change held ∈ queues.add (.frameQueue switch) taken (.wire port) at hheld
    rcases QueueFamily.mem_add.mp hheld with hheld | ⟨hlocation, -⟩
    · exact hworld.outward port held (QueueFamily.mem_of_remove hremove hheld)
    · cases hlocation
  · intro copy source target hsent
    change QueueFamily.weight _ (queues.add _ _) + world.delivered.count _ ≤ 1
    have honce := hworld.once copy source target hsent
    have hvalue : net.aheadValue copy source target (.frameQueue switch) taken ≤
        net.aheadValue copy source target (.wire (net.peer (.inr ⟨switch, inIf⟩))) taken := by
      refine net.aheadValue_le ?_
      rintro rfl hahead
      refine hworld.ahead_wire hsent (QueueFamily.item_mem_of_remove hremove) ?_
      rw [net.peer_peer]
      exact hahead
    rw [QueueFamily.weight_remove hremove] at honce
    rw [QueueFamily.weight_add]
    omega

/-- A frame that is not sent back leaves away from its source. -/
theorem singleDelivery_forward {switch : S} (hworld : SingleDelivery world)
    (hstraight : ¬ world.Hairpin switch) (h : world.step (.forward switch) = some next) :
    SingleDelivery next := by
  have hlearned := learned_forward hworld.learned h
  obtain ⟨taken, queues, hremove, rfl⟩ := step_forward h
  have htaken := QueueFamily.item_mem_of_remove hremove
  refine ⟨hlearned, ?_, hworld.recorded, ?_⟩
  · intro port held hheld hother host hmac hleads
    rcases QueueFamily.mem_addAll.mp hheld with hheld | hsends
    · exact hworld.outward port held (QueueFamily.mem_of_remove hremove hheld) hother host hmac
        hleads
    · obtain ⟨rfl, ifId, hport, hlookup⟩ := mem_transmissions.mp hsends
      cases hport
      have hback := (hworld.learned.lookup_sourceMac_eq_some_iff htaken hmac).mpr hleads
      rcases hlookup with hfound | ⟨-, hne⟩
      · refine hstraight ⟨held, ?_, hother, ?_, ?_⟩
        · obtain ⟨rest, hfront, -⟩ := QueueFamily.remove_eq_some.mp hremove
          rw [hfront]
          rfl
        · rw [hfound]
          exact Option.some_ne_none _
        · rw [hfound, hback]
      · exact hne hback
  · intro copy source target hsent
    change QueueFamily.weight _ (queues.addAll _) + world.delivered.count _ ≤ 1
    have honce := hworld.once copy source target hsent
    have hvalue := net.sum_aheadValue_transmissions_le copy taken source target switch
      (world.switchTables switch)
    rw [QueueFamily.weight_remove hremove] at honce
    rw [QueueFamily.weight_addAll]
    omega

/-- A frame that arrives at its destination was ahead. -/
theorem singleDelivery_deliver {host : H} (hworld : SingleDelivery world)
    (h : world.step (.deliver host) = some next) : SingleDelivery next := by
  have hlearned := learned_step hworld.learned h
  obtain ⟨taken, queues, hremove, rfl⟩ := step_deliver h
  have htaken := QueueFamily.item_mem_of_remove hremove
  obtain ⟨origin, hrecord, -⟩ := hworld.learned.origin _ taken htaken
  refine ⟨hlearned, ?_, ?_, ?_⟩
  · intro port held hheld
    exact hworld.outward port held (QueueFamily.mem_of_remove hremove hheld)
  · intro delivery hdelivery
    change delivery ∈ (if _ then _ else _) at hdelivery
    split_ifs at hdelivery
    · rcases List.mem_append.mp hdelivery with hbefore | hnew
      · exact hworld.recorded delivery hbefore
      · rw [List.mem_singleton] at hnew
        rw [hnew]
        exact (List.getElem?_eq_some_iff.mp hrecord).1
    · exact hworld.recorded delivery hdelivery
  · intro copy source target hsent
    have honce := hworld.once copy source target hsent
    rw [QueueFamily.weight_remove hremove] at honce
    change QueueFamily.weight _ queues +
      (if accepts (net.mac host) taken.frame then world.delivered ++ [(host, taken)]
        else world.delivered).count (target, copy) ≤ 1
    split_ifs with haccepts
    · rw [List.count_append]
      by_cases hnew : (host, taken) = (target, copy)
      · obtain ⟨rfl, rfl⟩ := Prod.mk.inj hnew
        have hahead : net.Ahead source host (.wire (net.peer (.inl host))) := by
          refine hworld.ahead_wire hsent htaken ?_
          rw [net.peer_peer]
          exact SimpleGraph.Walk.end_mem_support _
        rw [net.aheadValue_self hahead] at honce
        rw [List.count_singleton_self]
        omega
      · have hzero : [(host, taken)].count (target, copy) = 0 :=
          List.count_eq_zero.mpr fun hmem ↦ hnew (List.mem_singleton.mp hmem).symm
        omega
    · omega

theorem singleDelivery_init : SingleDelivery (network net).init where
  learned := learned_init
  outward _ _ h := by cases h
  recorded _ h := by cases h
  once copy source target h := by cases h.1

theorem singleDelivery_step {event : Event net} (hworld : SingleDelivery world)
    (hguard : withoutHairpins world event) (h : world.step event = some next) :
    SingleDelivery next := by
  cases event with
  | send host frame => exact singleDelivery_send hworld h
  | receive switch inIf => exact singleDelivery_receive hworld h
  | forward switch => exact singleDelivery_forward hworld hguard h
  | deliver host => exact singleDelivery_deliver hworld h
  | lose location position => exact hguard.elim

/-- In every run without losses in which no switch sends a frame back, each frame that a host sent
to another is delivered to it at most once. -/
theorem delivered_at_most_once (h : (network net).Reachable withoutHairpins world) {copy : Copy}
    {source target : H} (hsent : world.SentTo copy source target) :
    world.delivered.count (target, copy) ≤ 1 := by
  have hstep : ∀ (before : World net) event after, SingleDelivery before →
      withoutHairpins before event → (network net).step before event = some after →
        SingleDelivery after :=
    fun _ _ _ hbefore hguard hafter ↦ singleDelivery_step hbefore hguard hafter
  have honce := (h.invariant hstep singleDelivery_init).once copy source target hsent
  omega

theorem delivered_at_most_once_witness :
    ∃ h : ((network readmeNetwork).run withoutHairpins (network readmeNetwork).init
        [.send 1 (readmeFrame 1 2), .receive 1 ⟨1, by decide⟩, .forward 1, .deliver 2]).isSome,
      (Option.get _ h).delivered.count (2, ⟨0, readmeFrame 1 2⟩) ≤ 1 :=
  ⟨by decide, delivered_at_most_once (ScheduledSystem.reachable_of_isSome_run _)
    (show World.SentTo _ ⟨0, readmeFrame 1 2⟩ 1 2 from ⟨rfl, by decide, by decide⟩)⟩

/-- Host 1 sends to host 2, whom nobody knows yet. While its copy waits at the other switch, that
switch learns host 2 behind the same interface and sends the copy back, so that host 2 gets the
frame twice. -/
theorem not_delivered_at_most_once :
    ∃ world : World readmeNetwork, (network readmeNetwork).Reachable lossless world ∧
      world.SentTo ⟨0, readmeFrame 1 2⟩ 1 2 ∧
      ¬ world.delivered.count (2, ⟨0, readmeFrame 1 2⟩) ≤ 1 := by
  have hdelivered : ∃ h : ((network readmeNetwork).run lossless (network readmeNetwork).init
      [.send 1 (readmeFrame 1 2), .receive 1 ⟨1, by decide⟩, .forward 1, .receive 0 ⟨1, by decide⟩,
        .send 2 (readmeFrame 2 0), .receive 1 ⟨2, by decide⟩, .forward 1, .receive 0 ⟨1, by decide⟩,
        .forward 0, .receive 1 ⟨0, by decide⟩, .forward 1, .deliver 2, .deliver 2]).isSome,
      (Option.get _ h).sent[0]? = some (1, readmeFrame 1 2) ∧
        ¬ (Option.get _ h).delivered.count (2, ⟨0, readmeFrame 1 2⟩) ≤ 1 := by decide +kernel
  obtain ⟨h, hsent, htwice⟩ := hdelivered
  exact ⟨_, ScheduledSystem.reachable_of_isSome_run h, ⟨hsent, by decide, by decide⟩, htwice⟩

end Steps

end NetworkSimulation.Switching
