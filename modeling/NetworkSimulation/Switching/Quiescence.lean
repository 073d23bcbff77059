import NetworkSimulation.Switching.Learning

/-!
# Every flood dies out

Once the hosts send nothing more, the frames on their way are used up. A copy of a frame is homing
when the device behind it knows the destination and it is on the wire towards it (`World.Homing`):
the switches ahead know the destination too, and each unicast brings it one link closer. Any other
copy that a switch forwards is flooded, on interfaces that lead away from the source, so its
distance from the source grows, and there are only so many links in that direction.

The potential of a copy (`World.potential`) counts, for a homing copy, the steps left to the
destination and, for any other, a power that decreases with the distance from the source by more
than the number of copies of a flood (`Topology.floodPotential_succ`). Learning only makes it
smaller (`potential_mono`), and every step of a device makes the total smaller
(`totalPotential_lt`).
-/

set_option autoImplicit false
set_option relaxedAutoImplicit false

namespace NetworkSimulation.Switching

open Stack Library Library.TreeRouting

variable {H S : Type*} {net : Topology H S}

/-! ### Homing copies -/

/-- The device a copy is at, or on its way to. -/
def Topology.near (net : Topology H S) : Location H net.interfaces → H ⊕ S
  | .wire port => (net.peer port).device
  | .frameQueue switch => .inr switch

/-- The copy is at a device that knows its destination, or was transmitted towards it by one. -/
def World.Homing (world : World net) (copy : Copy) (target : H)
    (location : Location H net.interfaces) : Prop :=
  compareMacs copy.frame.destinationMac (net.mac target) = true ∧
    world.KnowsAt target location.device ∧
      ∀ port, location = .wire port → net.LeadsTo port (.inl target)

/-- The distance between the device a copy is at, or on its way to, and the host that sent it. -/
noncomputable def World.sourceDistance (world : World net) (copy : Copy)
    (location : Location H net.interfaces) : ℕ :=
  match world.sent[copy.serial]? with
  | some (source, _) => net.graph.dist (net.near location) (.inl source)
  | none => 0

section Potential

variable [Fintype H] [Fintype S]

/-- An upper bound for the steps left to a copy of a frame that is flooded by every switch which
is at least `links` links nearer to its source than the furthest device could be. -/
def Topology.floodPotential (net : Topology H S) (links : ℕ) : ℕ :=
  (2 * Fintype.card (H ⊕ S) + 2 + Finset.univ.sup net.interfaces) *
    (Finset.univ.sup net.interfaces + 2) ^ links

/-- A frame on a wire has one step more before it than the same frame at the device there. -/
def Location.wireStep {interfaces : S → ℕ} : Location H interfaces → ℕ
  | .wire _ => 1
  | .frameQueue _ => 0

open Classical in
/-- An upper bound for the steps that devices can take with a copy and the copies made of it. -/
noncomputable def World.potential (world : World net) (location : Location H net.interfaces)
    (copy : Copy) : ℕ :=
  location.wireStep +
    if h : ∃ target, world.Homing copy target location then
      2 * net.graph.dist (net.near location) (.inl h.choose)
    else net.floodPotential (Fintype.card (H ⊕ S) - world.sourceDistance copy location)

variable {world next : World net} {copy : Copy} {target : H} {location : Location H net.interfaces}

theorem Topology.floodPotential_ge (net : Topology H S) (links : ℕ) :
    2 * Fintype.card (H ⊕ S) + 2 + Finset.univ.sup net.interfaces ≤ net.floodPotential links :=
  Nat.le_mul_of_pos_right _ (Nat.pow_pos (Nat.succ_pos _))

/-- The copies of a flood, one link further each, count for less than the frame flooded. -/
theorem Topology.floodPotential_succ {copies : ℕ} (hcopies : copies ≤ Finset.univ.sup net.interfaces)
    (links : ℕ) : copies * (net.floodPotential links + 1) < net.floodPotential (links + 1) := by
  have hge := net.floodPotential_ge links
  have hsucc : net.floodPotential (links + 1) =
      net.floodPotential links * (Finset.univ.sup net.interfaces + 2) := by
    rw [Topology.floodPotential, Topology.floodPotential, pow_succ, mul_assoc]
  calc copies * (net.floodPotential links + 1)
      ≤ Finset.univ.sup net.interfaces * (net.floodPotential links + 1) :=
        Nat.mul_le_mul_right _ hcopies
    _ = net.floodPotential links * Finset.univ.sup net.interfaces +
          Finset.univ.sup net.interfaces := by ring
    _ < net.floodPotential links * (Finset.univ.sup net.interfaces + 2) := by
        rw [Nat.mul_add]
        omega
    _ = net.floodPotential (links + 1) := hsucc.symm

theorem potential_of_homing (h : world.Homing copy target location) :
    world.potential location copy =
      location.wireStep + 2 * net.graph.dist (net.near location) (.inl target) := by
  have hhoming : ∃ target, world.Homing copy target location := ⟨target, h⟩
  have hsame : hhoming.choose = target :=
    Topology.eq_of_compareMacs hhoming.choose_spec.1 h.1
  rw [World.potential, dif_pos hhoming, hsame]

theorem potential_of_not_homing (h : ¬ ∃ target, world.Homing copy target location) :
    world.potential location copy = location.wireStep +
      net.floodPotential (Fintype.card (H ⊕ S) - world.sourceDistance copy location) := by
  rw [World.potential, dif_neg h]

/-- A homing copy counts for no more than one that is flooded. -/
theorem potential_le (world : World net) (location : Location H net.interfaces) (copy : Copy) :
    world.potential location copy ≤ location.wireStep +
    net.floodPotential (Fintype.card (H ⊕ S) - world.sourceDistance copy location) := by
  by_cases h : ∃ target, world.Homing copy target location
  · obtain ⟨target, hhoming⟩ := h
    have hdist : net.graph.dist (net.near location) (.inl target) < Fintype.card (H ⊕ S) :=
      dist_lt_card net.isTree _ _
    have hge := net.floodPotential_ge
      (Fintype.card (H ⊕ S) - world.sourceDistance copy location)
    rw [potential_of_homing hhoming]
    omega
  · rw [potential_of_not_homing h]

/-! ### Learning -/

/-- Tables that know more make no potential larger. -/
theorem potential_mono
    (hknows : ∀ host switch, world.Knows host switch → next.Knows host switch)
    (hsent : next.sent = world.sent) (location : Location H net.interfaces) (copy : Copy) :
    next.potential location copy ≤ world.potential location copy := by
  have hdistance : next.sourceDistance copy location = world.sourceDistance copy location := by
    rw [World.sourceDistance, World.sourceDistance, hsent]
  by_cases h : ∃ target, world.Homing copy target location
  · obtain ⟨target, hmac, hbehind, hwire⟩ := h
    have hknowsAt : next.KnowsAt target location.device := by
      cases hdevice : location.device with
      | inl host =>
        rw [hdevice] at hbehind
        exact hbehind
      | inr switch =>
        rw [hdevice] at hbehind
        exact hknows target switch hbehind
    have hnext : next.Homing copy target location := ⟨hmac, hknowsAt, hwire⟩
    have hbefore : world.Homing copy target location := ⟨hmac, hbehind, hwire⟩
    rw [potential_of_homing hnext, potential_of_homing hbefore]
  · rw [potential_of_not_homing h, ← hdistance]
    exact potential_le next location copy

omit [Fintype H] [Fintype S] in
/-- A homing copy that arrives at a switch finds the destination in its table. -/
theorem Learned.homing_arrives (hworld : Learned world) {port : Port H net.interfaces} {switch : S}
    (hpeer : (net.peer port).device = .inr switch) (h : world.Homing copy target (.wire port)) :
    world.Homing copy target (.frameQueue switch) := by
  refine ⟨h.1, ?_, fun _ hwire ↦ by cases hwire⟩
  have hknown := hworld.knowsAt_nextHop h.2.1
  change world.KnowsAt target (nextHop net.isTree port.device (.inl target)) at hknown
  rw [← h.2.2 port rfl, hpeer] at hknown
  exact hknown

/-- A copy counts for less at a switch than on the wire to it. -/
theorem Learned.potential_frameQueue_lt (hworld : Learned world) {port : Port H net.interfaces}
    {switch : S} (hpeer : (net.peer port).device = .inr switch) :
    world.potential (.frameQueue switch) copy < world.potential (.wire port) copy := by
  have hnear : net.near (.wire port) = net.near (.frameQueue switch) := hpeer
  have hdistance : world.sourceDistance copy (.wire port) =
      world.sourceDistance copy (.frameQueue switch) := by
    rw [World.sourceDistance, World.sourceDistance, hnear]
  by_cases h : ∃ target, world.Homing copy target (.wire port)
  · obtain ⟨target, hhoming⟩ := h
    rw [potential_of_homing hhoming, potential_of_homing (hworld.homing_arrives hpeer hhoming),
      hnear, Location.wireStep, Location.wireStep]
    omega
  · rw [potential_of_not_homing h, hdistance]
    refine (potential_le world _ copy).trans_lt ?_
    rw [Location.wireStep, Location.wireStep]
    omega

/-! ### Forwarding -/

omit [Fintype H] [Fintype S] in
/-- A frame that is not homing is for nobody the switch knows, and is flooded. -/
theorem Learned.transmissions_of_not_homing (hworld : Learned world) {switch : S}
    (h : ¬ ∃ target, world.Homing copy target (.frameQueue switch)) :
    transmissions switch (world.switchTables switch) copy =
      broadcast switch (world.switchTables switch) copy := by
  rw [transmissions]
  cases hlookup : getTableInterfaceNumber (world.switchTables switch) copy.frame.destinationMac with
  | none => rfl
  | some ifId =>
    obtain ⟨target, htarget, hknown, -⟩ := hworld.of_lookup hlookup
    exact absurd ⟨target, htarget, hknown, fun _ hwire ↦ by cases hwire⟩ h

omit [Fintype H] in
theorem length_broadcast_le (switch : S) (switchTable : SwitchTable (net.interfaces switch))
    (copy : Copy) :
    (broadcast (H := H) switch switchTable copy).length ≤ Finset.univ.sup net.interfaces := by
  rw [broadcast, List.length_map]
  refine (List.length_filter_le _ _).trans ?_
  rw [List.length_finRange]
  exact Finset.le_sup (f := net.interfaces) (Finset.mem_univ switch)

omit [Fintype H] [Fintype S] in
/-- A flood leads away from the source. -/
theorem Learned.sourceDistance_of_mem_broadcast (hworld : Learned world) {switch : S} {sent : Copy}
    (hcopy : copy ∈ world.queues (.frameQueue switch))
    (hsent : (location, sent) ∈ broadcast switch (world.switchTables switch) copy) :
    sent = copy ∧ location.wireStep = 1 ∧
      world.sourceDistance copy location = world.sourceDistance copy (.frameQueue switch) + 1 := by
  obtain ⟨source, hrecord, hmac⟩ := hworld.origin _ copy hcopy
  obtain ⟨ifId, hflooded, hunicast⟩ := List.mem_map.mp hsent
  obtain ⟨rfl, rfl⟩ := Prod.mk.inj hunicast
  refine ⟨rfl, rfl, ?_⟩
  have hother : getTableInterfaceNumber (world.switchTables switch) copy.frame.sourceMac ≠
      some ifId := of_decide_eq_true (List.mem_filter.mp hflooded).2
  rw [ne_eq, hworld.lookup_sourceMac_eq_some_iff hcopy hmac] at hother
  rw [World.sourceDistance, World.sourceDistance, hrecord]
  exact dist_of_nextHop_ne net.isTree (net.adj_peer (.inr ⟨switch, ifId⟩))
    fun hnext ↦ hother hnext.symm

omit [Fintype H] [Fintype S] in
/-- A homing frame is unicast one link closer to its destination. -/
theorem Learned.transmissions_of_homing (hworld : Learned world) {switch : S}
    (h : world.Homing copy target (.frameQueue switch)) :
    ∃ ifId, transmissions switch (world.switchTables switch) copy = [unicast switch copy ifId] ∧
      world.Homing copy target (.wire (.inr ⟨switch, ifId⟩)) ∧
        net.graph.dist (net.near (.wire (.inr ⟨switch, ifId⟩))) (.inl target) + 1 =
          net.graph.dist (.inr switch) (.inl target) := by
  obtain ⟨ifId, hlookup, hleads⟩ := hworld.lookup_of_knows h.1 h.2.1
  refine ⟨ifId, by rw [transmissions, hlookup], ⟨h.1, h.2.1, fun port hport ↦ ?_⟩, ?_⟩
  · cases hport
    exact hleads
  · have hne : (.inr switch : H ⊕ S) ≠ .inl target := by simp
    have hnear : net.near (.wire (.inr ⟨switch, ifId⟩)) =
        nextHop net.isTree (.inr switch) (.inl target) := hleads
    rw [hnear]
    exact dist_nextHop net.isTree hne

/-- What a switch transmits counts for less than the frame it took. -/
theorem Learned.potential_transmissions_lt (hworld : Learned world) {switch : S}
    (hcopy : copy ∈ world.queues (.frameQueue switch)) :
    ((transmissions switch (world.switchTables switch) copy).map fun sent ↦
      world.potential sent.1 sent.2).sum < world.potential (.frameQueue switch) copy := by
  by_cases h : ∃ target, world.Homing copy target (.frameQueue switch)
  · obtain ⟨target, hhoming⟩ := h
    obtain ⟨ifId, hunicast, hwire, hdist⟩ := hworld.transmissions_of_homing hhoming
    rw [hunicast, List.map_singleton, List.sum_singleton, unicast, potential_of_homing hwire,
      potential_of_homing hhoming, Location.wireStep, Location.wireStep]
    change _ < 0 + 2 * net.graph.dist (.inr switch) (.inl target)
    omega
  · rw [hworld.transmissions_of_not_homing h, potential_of_not_homing h]
    have hdist : world.sourceDistance copy (.frameQueue switch) < Fintype.card (H ⊕ S) := by
      obtain ⟨source, hrecord, -⟩ := hworld.origin _ copy hcopy
      rw [World.sourceDistance, hrecord]
      exact dist_lt_card net.isTree _ _
    obtain ⟨links, hlinks⟩ := Nat.exists_eq_add_of_lt hdist
    have hleft : Fintype.card (H ⊕ S) - world.sourceDistance copy (.frameQueue switch) =
        links + 1 := by omega
    have hbound : ∀ value ∈ (broadcast switch (world.switchTables switch) copy).map
        (fun sent ↦ world.potential sent.1 sent.2), value ≤ net.floodPotential links + 1 := by
      intro value hvalue
      obtain ⟨⟨location, sent⟩, hsent, rfl⟩ := List.mem_map.mp hvalue
      obtain ⟨rfl, hstep, haway⟩ := hworld.sourceDistance_of_mem_broadcast hcopy hsent
      have hle := potential_le world location sent
      have hfurther : Fintype.card (H ⊕ S) - world.sourceDistance sent location = links := by omega
      rwa [hfurther, hstep, Nat.add_comm] at hle
    have hsum := List.sum_le_card_nsmul _ _ hbound
    rw [List.length_map, smul_eq_mul] at hsum
    rw [hleft, Location.wireStep, Nat.zero_add]
    exact hsum.trans_lt (Topology.floodPotential_succ (length_broadcast_le _ _ _) links)

/-! ### Termination -/

variable [DecidableEq H] [DecidableEq S]

/-- The potential of all copies on their way. -/
noncomputable def World.totalPotential (world : World net) : ℕ :=
  QueueFamily.weight world.potential world.queues

theorem totalPotential_receive_lt {switch : S} {inIf : Fin (net.interfaces switch)}
    (hworld : Learned world) (h : world.step (.receive switch inIf) = some next) :
    next.totalPotential < world.totalPotential := by
  have hknows := knows_of_step h
  obtain ⟨copy, queues, hremove, rfl⟩ := step_receive h
  have hpeer : (net.peer (net.peer (.inr ⟨switch, inIf⟩))).device = .inr switch := by
    rw [net.peer_peer]
    rfl
  have harrived := (potential_mono hknows rfl (.frameQueue switch) copy).trans_lt
    (hworld.potential_frameQueue_lt hpeer)
  have hrest : QueueFamily.weight (World.potential _) queues ≤
      QueueFamily.weight world.potential queues :=
    QueueFamily.weight_mono fun location held _ ↦ potential_mono hknows rfl location held
  unfold World.totalPotential
  rw [QueueFamily.weight_remove hremove]
  change QueueFamily.weight _ (queues.add _ _) < _
  rw [QueueFamily.weight_add]
  omega

theorem totalPotential_forward_lt {switch : S} (hworld : Learned world)
    (h : world.step (.forward switch) = some next) :
    next.totalPotential < world.totalPotential := by
  obtain ⟨copy, queues, hremove, rfl⟩ := step_forward h
  have hless := hworld.potential_transmissions_lt (QueueFamily.item_mem_of_remove hremove)
  unfold World.totalPotential
  rw [QueueFamily.weight_remove hremove]
  change QueueFamily.weight world.potential (queues.addAll _) < _
  rw [QueueFamily.weight_addAll]
  omega

omit [DecidableEq H] [DecidableEq S] in
theorem potential_wire_pos (world : World net) (port : Port H net.interfaces) (copy : Copy) :
    0 < world.potential (.wire port) copy := by
  rw [World.potential, Location.wireStep]
  omega

theorem totalPotential_deliver_lt {host : H} (h : world.step (.deliver host) = some next) :
    next.totalPotential < world.totalPotential := by
  obtain ⟨copy, queues, hremove, rfl⟩ := step_deliver h
  have hpos := potential_wire_pos world (net.peer (.inl host)) copy
  unfold World.totalPotential
  rw [QueueFamily.weight_remove hremove]
  change QueueFamily.weight world.potential queues < _
  omega

/-- Every step of a device makes the total potential smaller. -/
theorem totalPotential_lt {event : Event net} (hworld : Learned world)
    (hguard : undisturbed world event) (h : world.step event = some next) :
    next.totalPotential < world.totalPotential := by
  cases event with
  | send host frame => exact hguard.elim
  | receive switch inIf => exact totalPotential_receive_lt hworld h
  | forward switch => exact totalPotential_forward_lt hworld h
  | deliver host => exact totalPotential_deliver_lt h
  | lose location position => exact hguard.elim

/-- From every reachable state there is no infinite run in which the hosts send nothing. -/
theorem not_exists_infiniteFlood (h : (network net).Reachable anyEvent world) :
    ¬ ∃ states : ℕ → World net, states 0 = world ∧
      ∀ i, ∃ event, undisturbed (states i) event ∧
        (network net).step (states i) event = some (states (i + 1)) := by
  have hstep : ∀ (before : World net) event after, Learned before → undisturbed before event →
      (network net).step before event = some after →
        Learned after ∧ after.totalPotential < before.totalPotential :=
    fun _ _ _ hbefore hguard hafter ↦
      ⟨learned_step hbefore hafter, totalPotential_lt hbefore hguard hafter⟩
  rintro ⟨states, rfl, hruns⟩
  exact ScheduledSystem.not_exists_infiniteRun hstep ⟨states, learned_of_reachable h, hruns⟩

theorem not_exists_infiniteFlood_witness :
    ∃ h : ((network readmeNetwork).run anyEvent (network readmeNetwork).init
        [.send 1 (readmeFrame 1 2), .receive 1 ⟨1, by decide⟩, .forward 1]).isSome,
      ¬ ∃ states : ℕ → World readmeNetwork, states 0 = Option.get _ h ∧
        ∀ i, ∃ event, undisturbed (states i) event ∧
          (network readmeNetwork).step (states i) event = some (states (i + 1)) :=
  ⟨by decide, not_exists_infiniteFlood (ScheduledSystem.reachable_of_isSome_run _)⟩

end Potential

end NetworkSimulation.Switching
