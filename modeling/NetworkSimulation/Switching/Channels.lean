import NetworkSimulation.Library.QueueRow
import NetworkSimulation.Switching.OneSwitch
import NetworkSimulation.Switching.SingleDelivery

/-!
# The network as a channel

What a host sends to another, by its address or by broadcast, takes the wires and the frame queues
on the path between them, one after the other (`Topology.row`). As long as no switch sends a frame
back, the copies elsewhere never come back to the path, so that this row of queues works like one: a
switch on the path moves a frame from the queue it is in to the next, a host that sends appends a
frame, and the destination takes the first (`carried_step`). The network is a channel that keeps the
order. What a host has got from another is what that one sent, in order and without repetition,
except for what was lost (`channel_sublist`); and if nothing was lost, what has been sent is what
was delivered and then what is on the way (`channel_exact`).
-/

set_option autoImplicit false
set_option relaxedAutoImplicit false

namespace NetworkSimulation.Switching

open Stack Library Library.TreeRouting

variable {H S : Type*} {net : Topology H S}

namespace Topology

/-! ### The row of queues along a walk -/

/-- The interface of a device to its neighbour. -/
noncomputable def portTo {first second : H ⊕ S} (h : net.graph.Adj first second) :
    Port H net.interfaces :=
  (adj_iff.mp h).choose

theorem device_portTo {first second : H ⊕ S} (h : net.graph.Adj first second) :
    (portTo h).device = first :=
  (adj_iff.mp h).choose_spec.1

theorem device_peer_portTo {first second : H ⊕ S} (h : net.graph.Adj first second) :
    (net.peer (portTo h)).device = second :=
  (adj_iff.mp h).choose_spec.2

/-- The frame queue that a frame waits in before a device transmits it. -/
def queueOf (net : Topology H S) : H ⊕ S → List (Location H net.interfaces)
  | .inl _ => []
  | .inr switch => [.frameQueue switch]

/-- The queues that a frame passes along a walk, from the last to the first. -/
noncomputable def row : {first last : H ⊕ S} → net.graph.Walk first last →
    List (Location H net.interfaces)
  | _, _, .nil => []
  | first, _, .cons h rest => row rest ++ .wire (portTo h) :: net.queueOf first

variable {first last : H ⊕ S}

/-- On a path every interface leads to the end. -/
theorem leadsTo_portTo {second : H ⊕ S} {h : net.graph.Adj first second}
    {rest : net.graph.Walk second last} (hpath : (SimpleGraph.Walk.cons h rest).IsPath) :
    net.LeadsTo (portTo h) last := by
  rw [LeadsTo, device_portTo, device_peer_portTo, nextHop, ← eq_path net.isTree hpath,
    SimpleGraph.Walk.snd_cons]

theorem of_wire_mem_row {walk : net.graph.Walk first last} (hpath : walk.IsPath)
    {port : Port H net.interfaces} (hport : .wire port ∈ row walk) :
    port.device ∈ walk.support ∧ net.LeadsTo port last := by
  induction walk with
  | nil => cases hport
  | @cons first second last h rest ih =>
    rw [SimpleGraph.Walk.support_cons]
    rcases List.mem_append.mp hport with hrest | hhere
    · obtain ⟨hdevice, hleads⟩ := ih hpath.of_cons hrest
      exact ⟨List.mem_cons_of_mem _ hdevice, hleads⟩
    · rcases List.mem_cons.mp hhere with heq | hqueue
      · obtain rfl : port = portTo h := Location.wire.inj heq
        exact ⟨by rw [device_portTo]; exact List.mem_cons_self .., leadsTo_portTo hpath⟩
      · rcases first with host | switch
        · cases hqueue
        · cases List.mem_singleton.mp hqueue

theorem of_frameQueue_mem_row {walk : net.graph.Walk first last} {switch : S}
    (hqueue : .frameQueue switch ∈ row walk) : .inr switch ∈ walk.support := by
  induction walk with
  | nil => cases hqueue
  | @cons first second last h rest ih =>
    rw [SimpleGraph.Walk.support_cons]
    rcases List.mem_append.mp hqueue with hrest | hhere
    · exact List.mem_cons_of_mem _ (ih hrest)
    · rcases List.mem_cons.mp hhere with heq | hown
      · cases heq
      · rcases first with host | other
        · cases hown
        · cases List.mem_singleton.mp hown
          exact List.mem_cons_self ..

theorem nodup_row {walk : net.graph.Walk first last} (hpath : walk.IsPath) : (row walk).Nodup := by
  induction walk with
  | nil => exact List.nodup_nil
  | @cons first second last h rest ih =>
    obtain ⟨hrest, hfirst⟩ := (SimpleGraph.Walk.cons_isPath_iff h rest).mp hpath
    refine List.nodup_append.mpr ⟨ih hrest, ?_, ?_⟩
    · rcases first with host | switch
      · exact List.nodup_singleton _
      · exact List.nodup_cons.mpr
          ⟨fun hmem ↦ (by cases List.mem_singleton.mp hmem), List.nodup_singleton _⟩
    · rintro location hbefore other hhere rfl
      rcases List.mem_cons.mp hhere with rfl | hqueue
      · have hdevice := (of_wire_mem_row hrest hbefore).1
        rw [device_portTo] at hdevice
        exact hfirst hdevice
      · rcases first with host | switch
        · cases hqueue
        · obtain rfl := List.mem_singleton.mp hqueue
          exact hfirst (of_frameQueue_mem_row hbefore)

/-! ### Neighbours in the row -/

/-- The frame queue of a switch stands before the wire that leads to it. -/
theorem row_split_wire {walk : net.graph.Walk first last} (hpath : walk.IsPath) {host : H}
    (hlast : last = .inl host) {port : Port H net.interfaces} {switch : S}
    (hmem : port.device ∈ walk.support) (hend : port.device ≠ last) (hleads : net.LeadsTo port last)
    (hpeer : (net.peer port).device = .inr switch) :
    ∃ front back, row walk = front ++ .frameQueue switch :: .wire port :: back := by
  induction walk with
  | nil => exact absurd (List.mem_singleton.mp hmem) hend
  | @cons first second last h rest ih =>
    by_cases hdevice : port.device = first
    · obtain rfl : portTo h = port :=
        eq_of_leadsTo ((device_portTo h).trans hdevice.symm) (leadsTo_portTo hpath) hleads
      rw [device_peer_portTo] at hpeer
      subst hpeer
      cases rest with
      | nil => cases hlast
      | cons hnext further =>
        refine ⟨row further ++ [.wire (portTo hnext)], net.queueOf first, ?_⟩
        simp only [row, queueOf, List.append_assoc, List.cons_append, List.nil_append]
    · rw [SimpleGraph.Walk.support_cons] at hmem
      have hrest := (List.mem_cons.mp hmem).resolve_left hdevice
      obtain ⟨front, back, hrow⟩ := ih hpath.of_cons hlast hrest hend hleads
      refine ⟨front, back ++ .wire (portTo h) :: net.queueOf first, ?_⟩
      rw [row, hrow, List.append_assoc, List.cons_append, List.cons_append]

/-- The wire of a switch that leads to the end stands before its frame queue. -/
theorem row_split_frameQueue {walk : net.graph.Walk first last} (hpath : walk.IsPath) {host : H}
    (hlast : last = .inl host) {switch : S} {ifId : Fin (net.interfaces switch)}
    (hmem : .inr switch ∈ walk.support) (hleads : net.LeadsTo (.inr ⟨switch, ifId⟩) last) :
    ∃ front back,
      row walk = front ++ .wire (.inr ⟨switch, ifId⟩) :: .frameQueue switch :: back := by
  induction walk with
  | nil => cases (List.mem_singleton.mp hmem).trans hlast
  | @cons first second last h rest ih =>
    by_cases hdevice : .inr switch = first
    · subst hdevice
      have hport : portTo h = .inr ⟨switch, ifId⟩ :=
        eq_of_leadsTo (device_portTo h) (leadsTo_portTo hpath) hleads
      exact ⟨row rest, [], by rw [row, hport]; rfl⟩
    · rw [SimpleGraph.Walk.support_cons] at hmem
      obtain ⟨front, back, hrow⟩ :=
        ih hpath.of_cons hlast ((List.mem_cons.mp hmem).resolve_left hdevice) hleads
      refine ⟨front, back ++ .wire (portTo h) :: net.queueOf first, ?_⟩
      rw [row, hrow, List.append_assoc, List.cons_append, List.cons_append]

/-- The wire of a host that is the start comes last. -/
theorem row_split_source {walk : net.graph.Walk first last} {source : H} (hfirst : first = .inl source)
    (hne : first ≠ last) : ∃ front, row walk = front ++ [.wire (.inl source)] := by
  cases walk with
  | nil => exact absurd rfl hne
  | cons h rest =>
    subst hfirst
    exact ⟨row rest, by rw [row, device_eq_inl (device_portTo h)]; rfl⟩

/-- The wire to a host that is the end comes first. -/
theorem row_split_target {walk : net.graph.Walk first last} (hpath : walk.IsPath) {target : H}
    (hlast : last = .inl target) (hne : first ≠ last) :
    ∃ back, row walk = .wire (net.peer (.inl target)) :: back := by
  induction walk with
  | nil => exact absurd rfl hne
  | @cons first second last h rest ih =>
    by_cases hend : second = last
    · subst hend
      have hrest : row rest = [] := by
        rw [(SimpleGraph.Walk.isPath_iff_nil.mp hpath.of_cons).eq_nil]
        rfl
      have hport : portTo h = net.peer (.inl target) := by
        rw [← device_eq_inl ((device_peer_portTo h).trans hlast), net.peer_peer]
      exact ⟨net.queueOf first, by rw [row, hrest, hport, List.nil_append]⟩
    · obtain ⟨back, hrow⟩ := ih hpath.of_cons hlast hend
      exact ⟨back ++ .wire (portTo h) :: net.queueOf first, by rw [row, hrow, List.cons_append]⟩

end Topology

/-! ### What one host sends to another -/

/-- A copy of a frame of the source that the target accepts. -/
def between (net : Topology H S) (source target : H) (copy : Copy) : Bool :=
  copy.frame.sourceMac = net.mac source && accepts (net.mac target) copy.frame

/-- The frames of a host that another accepts, in the order they were sent. -/
def World.sentBetween [DecidableEq H] (world : World net) (source target : H) : List Copy :=
  (world.sent.zipIdx.filter fun entry ↦
    entry.1.1 = source ∧ accepts (net.mac target) entry.1.2 = true).map fun entry ↦
      ⟨entry.2, entry.1.2⟩

/-- The frames of a host that were delivered to another, in that order. -/
def World.deliveredBetween [DecidableEq H] (world : World net) (source target : H) : List Copy :=
  (world.delivered.filter fun delivery ↦
    delivery.1 = target ∧ delivery.2.frame.sourceMac = net.mac source).map Prod.snd

/-- The frames of a host to another on the path between them, the first to arrive in front. -/
noncomputable def World.onTheWay (world : World net) (source target : H) : List Copy :=
  QueueFamily.along (between net source target) world.queues
    (Topology.row (path net.isTree (.inl source) (.inl target)))

/-- The frames delivered, and those on the way. -/
noncomputable def World.carried [DecidableEq H] (world : World net) (source target : H) :
    List Copy :=
  world.deliveredBetween source target ++ world.onTheWay source target

section Between

variable {source target : H} {copy : Copy}

theorem between_eq_true_iff : between net source target copy = true ↔
    copy.frame.sourceMac = net.mac source ∧ accepts (net.mac target) copy.frame = true := by
  rw [between, Bool.and_eq_true, decide_eq_true_iff]

/-- What another host accepts is not for the source itself. -/
theorem compareMacs_of_between (hne : source ≠ target)
    (h : between net source target copy = true) :
    compareMacs copy.frame.destinationMac copy.frame.sourceMac = false := by
  obtain ⟨hmac, haccepts⟩ := between_eq_true_iff.mp h
  rw [hmac, Bool.eq_false_iff]
  intro hown
  rcases (Bool.or_eq_true _ _).mp haccepts with hthis | hbroadcast
  · exact hne (Topology.eq_of_compareMacs hown hthis)
  · rw [isBroadcast_eq_of_compareMacs hown, net.not_broadcast] at hbroadcast
    cases hbroadcast

end Between

/-! ### A step moves what is on the way, or delivers the first of it -/

/-- Frames may be lost, but none is sent back. -/
def noneSentBack (world : World net) : Event net → Prop
  | .forward switch => ¬ world.Hairpin switch
  | _ => True

instance (world : World net) : ∀ event : Event net, Decidable (noneSentBack world event)
  | .forward switch => inferInstanceAs (Decidable (¬ world.Hairpin switch))
  | .send _ _ | .receive _ _ | .deliver _ | .lose _ _ => .isTrue trivial

section Steps

variable [DecidableEq H] [DecidableEq S] {world next : World net} {source target : H}

omit [DecidableEq H] [DecidableEq S] in
/-- A sender that transmits on an interface does so once. -/
theorem transmissions_eq_singleton [DecidableEq H] [DecidableEq S] {switch : S} {copy : Copy}
    {switchTable : SwitchTable (net.interfaces switch)} {ifId : Fin (net.interfaces switch)}
    (h : ifId ∈ interfacesFor (getTableInterfaceNumber switchTable) copy.frame) :
    ((transmissions switch switchTable copy).filter fun sent ↦
      sent.1 = .wire (.inr ⟨switch, ifId⟩ : Port H net.interfaces)).map Prod.snd = [copy] := by
  have hnodup : (interfacesFor (getTableInterfaceNumber switchTable) copy.frame).Nodup := by
    rw [interfacesFor]
    split
    · exact List.nodup_singleton _
    · exact (List.nodup_finRange _).filter _
  have honly : (interfacesFor (getTableInterfaceNumber switchTable) copy.frame).filter
      (fun other ↦ decide (other = ifId)) = [ifId] := by
    rw [List.filter_eq, List.count_eq_one_of_mem hnodup h, List.replicate_one]
  rw [transmissions_eq_map_interfacesFor, List.filter_map, List.map_map]
  have hsame : ((fun sent : Location H net.interfaces × Copy ↦
      decide (sent.1 = .wire (.inr ⟨switch, ifId⟩))) ∘ unicast switch copy) =
        fun other ↦ decide (other = ifId) := by
    funext other
    simp [unicast]
  rw [hsame, honly]
  rfl

omit [DecidableEq H] [DecidableEq S] in
/-- A switch on the path transmits a frame of the source on the wire that leads to the target. -/
theorem mem_interfacesFor_between (hworld : Learned world) {switch : S} {copy : Copy}
    {ifId : Fin (net.interfaces switch)} (hcopy : copy ∈ world.queues (.frameQueue switch))
    (hbetween : between net source target copy = true)
    (hmem : .inr switch ∈ net.pathBetween (.inl source) (.inl target))
    (hleads : net.LeadsTo (.inr ⟨switch, ifId⟩) (.inl target)) :
    ifId ∈ interfacesFor (getTableInterfaceNumber (world.switchTables switch)) copy.frame := by
  obtain ⟨hmac, haccepts⟩ := between_eq_true_iff.mp hbetween
  rw [interfacesFor]
  cases hlookup : getTableInterfaceNumber (world.switchTables switch) copy.frame.destinationMac with
  | some found =>
    obtain ⟨host, hhost, -, hfound⟩ := hworld.of_lookup hlookup
    have htarget : host = target := by
      rcases (Bool.or_eq_true _ _).mp haccepts with hthis | hbroadcast
      · exact Topology.eq_of_compareMacs hhost hthis
      · rw [isBroadcast_eq_of_compareMacs hhost, net.not_broadcast] at hbroadcast
        cases hbroadcast
    subst htarget
    rw [Topology.ifId_eq_of_leadsTo hfound hleads]
    exact List.mem_singleton_self ifId
  | none =>
    refine List.mem_filter.mpr ⟨List.mem_finRange ifId, decide_eq_true fun hback ↦ ?_⟩
    have hne : (.inr switch : H ⊕ S) ≠ .inl target := Sum.inr_ne_inl
    have hsources := (hworld.lookup_sourceMac_eq_some_iff hcopy hmac).mp hback
    exact nextHop_ne_of_mem_path net.isTree hmem hne (hsources.symm.trans hleads)

/-! ### Steps -/

/-- What a step brings onto the way is what it sends. -/
def Carries (world next : World net) (source target : H) : Prop :=
  ∃ new, next.carried source target = world.carried source target ++ new ∧
    next.sentBetween source target = world.sentBetween source target ++ new

omit [DecidableEq S] in
theorem carries_nil (hcarried : next.carried source target = world.carried source target)
    (hsent : next.sent = world.sent) : Carries world next source target := by
  refine ⟨[], by rw [hcarried, List.append_nil], ?_⟩
  rw [World.sentBetween, World.sentBetween, hsent, List.append_nil]

omit [DecidableEq S] in
/-- What only moves the frames on the way. -/
theorem carries_of_moves (hway : next.onTheWay source target = world.onTheWay source target)
    (hdelivered : next.delivered = world.delivered) (hsent : next.sent = world.sent) :
    Carries world next source target := by
  refine carries_nil ?_ hsent
  rw [World.carried, World.carried, World.deliveredBetween, World.deliveredBetween, hdelivered,
    hway]

omit [DecidableEq S] in
/-- What a host sends to another is its last frame. -/
theorem sentBetween_append {host : H} {frame : MPDU} (hmac : frame.sourceMac = net.mac host)
    (hsent : next.sent = world.sent ++ [(host, frame)]) :
    next.sentBetween source target = world.sentBetween source target ++
      [(⟨world.sent.length, frame⟩ : Copy)].filter (between net source target) := by
  have hlast : (host = source ∧ accepts (net.mac target) frame = true) ↔
      between net source target ⟨world.sent.length, frame⟩ = true := by
    rw [between_eq_true_iff]
    refine and_congr_left' ⟨fun hhost ↦ hhost ▸ hmac, fun hsame ↦ ?_⟩
    exact net.mac_injective (hmac.symm.trans hsame)
  rw [World.sentBetween, hsent, List.zipIdx_append, List.filter_append, List.map_append]
  refine congrArg _ ?_
  by_cases hbetween : between net source target ⟨world.sent.length, frame⟩ = true
  · rw [List.filter_cons_of_pos hbetween]
    simp [hlast.mpr hbetween]
  · rw [List.filter_cons_of_neg hbetween]
    simp [mt hlast.mp hbetween]

/-- A host appends what it sends. -/
theorem carries_send {host : H} {frame : MPDU} (hne : source ≠ target)
    (h : world.step (.send host frame) = some next) : Carries world next source target := by
  obtain ⟨hmac, rfl⟩ := step_send h
  have hends : (.inl source : H ⊕ S) ≠ .inl target := fun heq ↦ hne (Sum.inl.inj heq)
  have hstarts : ∃ front, Topology.row (path net.isTree (.inl source) (.inl target)) =
      front ++ [.wire (.inl source)] :=
    Topology.row_split_source rfl hends
  obtain ⟨front, hrow⟩ := hstarts
  have hfirst : .wire (.inl source) ∉ front := by
    have hnodup := Topology.nodup_row (isPath_path net.isTree (.inl source) (.inl target))
    rw [hrow] at hnodup
    exact fun hmem ↦ (List.nodup_append.mp hnodup).2.2 _ hmem _ (List.mem_singleton_self _) rfl
  refine ⟨_, ?_, sentBetween_append hmac rfl⟩
  rw [World.carried, World.carried, List.append_assoc]
  refine congrArg _ ?_
  by_cases hbetween : between net source target ⟨world.sent.length, frame⟩ = true
  · obtain rfl : host = source :=
      net.mac_injective (hmac.symm.trans (between_eq_true_iff.mp hbetween).1)
    rw [World.onTheWay, World.onTheWay, hrow]
    exact QueueFamily.along_add_last hfirst
  · rw [List.filter_cons_of_neg hbetween, List.filter_nil, List.append_nil]
    exact QueueFamily.along_add fun _ ↦ Bool.eq_false_iff.mpr hbetween

omit [DecidableEq H] [DecidableEq S] in
theorem not_frameQueue_mem_row {switch : S}
    (h : .inr switch ∉ net.pathBetween (.inl source) (.inl target)) :
    .frameQueue switch ∉ Topology.row (path net.isTree (.inl source) (.inl target)) :=
  fun hmem ↦ h (Topology.of_frameQueue_mem_row hmem)

variable [Fintype H] [Fintype S]

/-- A switch on the path moves what it receives from one queue of the path to the next. -/
theorem carries_receive {switch : S} {inIf : Fin (net.interfaces switch)} (hne : source ≠ target)
    (hworld : SingleDelivery world) (h : world.step (.receive switch inIf) = some next) :
    Carries world next source target := by
  obtain ⟨taken, queues, hremove, rfl⟩ := step_receive h
  refine carries_of_moves ?_ rfl rfl
  have hpath := isPath_path net.isTree (.inl source) (.inl target)
  by_cases hbetween : between net source target taken = true
  · by_cases hmem : .inr switch ∈ net.pathBetween (.inl source) (.inl target)
    · have hpeer : (net.peer (net.peer (.inr ⟨switch, inIf⟩))).device = .inr switch := by
        rw [net.peer_peer]
        rfl
      have haway := hworld.outward _ taken (QueueFamily.item_mem_of_remove hremove)
        (compareMacs_of_between hne hbetween) source (between_eq_true_iff.mp hbetween).1
      obtain ⟨hdevice, hend, hleads⟩ :=
        Topology.ahead_of_not_leadsTo haway (hpeer.symm ▸ hmem)
      obtain ⟨front, back, hrow⟩ := Topology.row_split_wire hpath rfl hdevice hend hleads hpeer
      have hnodup := Topology.nodup_row hpath
      rw [World.onTheWay, World.onTheWay, hrow]
      rw [hrow] at hnodup
      exact QueueFamily.along_move hnodup hremove
    · -- the switch is not on the path, and neither is the wire to it
      have hwire : .wire (net.peer (.inr ⟨switch, inIf⟩)) ∉
          Topology.row (path net.isTree (.inl source) (.inl target)) := by
        intro hwire
        obtain ⟨hdevice, hleads⟩ := Topology.of_wire_mem_row hpath hwire
        have hnext := nextHop_mem_path net.isTree hdevice
        rw [← hleads, net.peer_peer] at hnext
        exact hmem hnext
      calc QueueFamily.along (between net source target) (queues.add (.frameQueue switch) taken) _
          = QueueFamily.along (between net source target) queues _ :=
            QueueFamily.along_add fun hqueue ↦ absurd hqueue (not_frameQueue_mem_row hmem)
        _ = QueueFamily.along (between net source target) world.queues _ :=
            QueueFamily.along_remove hremove fun hrow ↦ absurd hrow hwire
  · have hfalse := Bool.eq_false_iff.mpr hbetween
    calc QueueFamily.along (between net source target) (queues.add (.frameQueue switch) taken) _
        = QueueFamily.along (between net source target) queues _ :=
          QueueFamily.along_add fun _ ↦ hfalse
      _ = QueueFamily.along (between net source target) world.queues _ :=
          QueueFamily.along_remove hremove fun _ ↦ hfalse

omit [Fintype H] [Fintype S] in
/-- A switch on the path transmits a frame on one wire of it, the next. -/
theorem carries_forward {switch : S} (hworld : Learned world)
    (h : world.step (.forward switch) = some next) : Carries world next source target := by
  obtain ⟨taken, queues, hremove, rfl⟩ := step_forward h
  refine carries_of_moves ?_ rfl rfl
  have hpath := isPath_path net.isTree (.inl source) (.inl target)
  have htaken := QueueFamily.item_mem_of_remove hremove
  by_cases hon : between net source target taken = true ∧
      .inr switch ∈ net.pathBetween (.inl source) (.inl target)
  · obtain ⟨hbetween, hmem⟩ := hon
    obtain ⟨port, hdevice, hleads⟩ := net.exists_leadsTo
      (Sum.inr_ne_inl : (.inr switch : H ⊕ S) ≠ .inl target)
    obtain ⟨ifId, rfl⟩ := Topology.device_eq_inr hdevice
    obtain ⟨front, back, hrow⟩ := Topology.row_split_frameQueue hpath rfl hmem hleads
    have honly : ∀ sent ∈ transmissions switch (world.switchTables switch) taken,
        sent.1 ∈ Topology.row (path net.isTree (.inl source) (.inl target)) →
          sent.1 = .wire (.inr ⟨switch, ifId⟩) := by
      rintro ⟨location, copy⟩ hsent hlocation
      obtain ⟨-, other, rfl, -⟩ := mem_transmissions.mp hsent
      rw [Topology.ifId_eq_of_leadsTo (Topology.of_wire_mem_row hpath hlocation).2 hleads]
    have hsingle := transmissions_eq_singleton (H := H)
      (mem_interfacesFor_between hworld htaken hbetween hmem hleads)
    have hnodup := Topology.nodup_row hpath
    rw [hrow] at hnodup
    calc QueueFamily.along (between net source target) (queues.addAll _) _
        = QueueFamily.along (between net source target)
            (queues.add (.wire (.inr ⟨switch, ifId⟩)) taken) _ :=
          QueueFamily.along_addAll_eq_add hsingle honly
      _ = QueueFamily.along (between net source target) world.queues _ := by
          rw [hrow]
          exact QueueFamily.along_move hnodup hremove
  · -- the frame is not for the target, or the switch is not on the path
    have hsent : ∀ sent ∈ transmissions switch (world.switchTables switch) taken,
        sent.1 ∈ Topology.row (path net.isTree (.inl source) (.inl target)) →
          between net source target sent.2 = false := by
      rintro ⟨location, copy⟩ hsent hlocation
      obtain ⟨rfl, ifId, rfl, -⟩ := mem_transmissions.mp hsent
      refine Bool.eq_false_iff.mpr fun hbetween ↦ hon ⟨hbetween, ?_⟩
      exact (Topology.of_wire_mem_row hpath hlocation).1
    calc QueueFamily.along (between net source target) (queues.addAll _) _
        = QueueFamily.along (between net source target) queues _ :=
          QueueFamily.along_addAll hsent
      _ = QueueFamily.along (between net source target) world.queues _ :=
          QueueFamily.along_remove hremove fun hrow ↦ Bool.eq_false_iff.mpr fun hbetween ↦
            hon ⟨hbetween, Topology.of_frameQueue_mem_row hrow⟩

omit [Fintype H] [Fintype S] [DecidableEq S] in
/-- What a host takes from another is delivered last. -/
theorem deliveredBetween_append {copy : Copy}
    (hdelivered : next.delivered = if accepts (net.mac target) copy.frame then
      world.delivered ++ [(target, copy)] else world.delivered) :
    next.deliveredBetween source target = world.deliveredBetween source target ++
      [copy].filter (between net source target) := by
  rw [World.deliveredBetween, hdelivered]
  by_cases haccepts : accepts (net.mac target) copy.frame = true
  · rw [if_pos haccepts, List.filter_append, List.map_append]
    refine congrArg _ ?_
    by_cases hmac : copy.frame.sourceMac = net.mac source
    · rw [List.filter_cons_of_pos (between_eq_true_iff.mpr ⟨hmac, haccepts⟩)]
      simp [hmac]
    · rw [List.filter_cons_of_neg fun hbetween ↦ hmac (between_eq_true_iff.mp hbetween).1]
      simp [hmac]
  · rw [if_neg haccepts,
      List.filter_cons_of_neg fun hbetween ↦ haccepts (between_eq_true_iff.mp hbetween).2,
      List.filter_nil, List.append_nil]
    rfl

omit [Fintype H] [Fintype S] in
/-- The target takes the first frame on the way. -/
theorem carries_deliver {host : H} (hne : source ≠ target)
    (h : world.step (.deliver host) = some next) : Carries world next source target := by
  obtain ⟨taken, queues, hremove, hnext⟩ := step_deliver h
  have hpath := isPath_path net.isTree (.inl source) (.inl target)
  by_cases hhost : host = target
  · subst hhost
    obtain ⟨back, hrow⟩ := Topology.row_split_target hpath rfl fun heq ↦ hne (Sum.inl.inj heq)
    have hnodup := Topology.nodup_row hpath
    rw [hrow] at hnodup
    have hway := QueueFamily.along_remove_first (p := between net source host) hremove
      (List.nodup_cons.mp hnodup).1
    have hdelivered : next.deliveredBetween source host = world.deliveredBetween source host ++
        [taken].filter (between net source host) :=
      deliveredBetween_append (by rw [hnext])
    refine carries_nil ?_ (by rw [hnext])
    rw [World.carried, World.carried, hdelivered, World.onTheWay, World.onTheWay, hrow, hnext, hway,
      List.append_assoc]
  · subst hnext
    have hwire : .wire (net.peer (.inl host)) ∉
        Topology.row (path net.isTree (.inl source) (.inl target)) := fun hwire ↦
      hhost (Sum.inl.inj (Topology.eq_of_leadsTo_host
        (Topology.of_wire_mem_row hpath hwire).2 (net.peer_peer _)))
    refine carries_nil ?_ rfl
    have hway : QueueFamily.along (between net source target) queues _ =
        QueueFamily.along (between net source target) world.queues _ :=
      QueueFamily.along_remove hremove fun hrow ↦ absurd hrow hwire
    rw [World.carried, World.carried, World.onTheWay, World.onTheWay, hway, World.deliveredBetween,
      World.deliveredBetween]
    dsimp only
    split_ifs
    · rw [List.filter_append, List.filter_cons_of_neg (by simp [hhost]), List.filter_nil,
        List.append_nil]
    · rfl

/-- Every step but a loss. -/
theorem carries_step {event : Event net} (hne : source ≠ target) (hworld : SingleDelivery world)
    (hlose : ∀ location position, event ≠ .lose location position)
    (h : world.step event = some next) : Carries world next source target := by
  cases event with
  | send host frame => exact carries_send hne h
  | receive switch inIf => exact carries_receive hne hworld h
  | forward switch => exact carries_forward hworld.learned h
  | deliver host => exact carries_deliver hne h
  | lose location position => exact absurd rfl (hlose location position)

omit [Fintype H] [Fintype S] in
/-- What is lost is missing on the way. -/
theorem carried_lose {location : Location H net.interfaces} {position : ℕ}
    (h : world.step (.lose location position) = some next) :
    (next.carried source target).Sublist (world.carried source target) ∧
      next.sentBetween source target = world.sentBetween source target := by
  obtain ⟨queues, hlose, rfl⟩ := step_lose h
  exact ⟨(List.Sublist.refl _).append (QueueFamily.along_lose hlose _), rfl⟩

/-! ### Runs -/

/-- What is lost is delivered no more often. -/
theorem singleDelivery_lose {location : Location H net.interfaces} {position : ℕ}
    (hworld : SingleDelivery world) (h : world.step (.lose location position) = some next) :
    SingleDelivery next := by
  have hlearned := learned_step hworld.learned h
  obtain ⟨queues, hlose, rfl⟩ := step_lose h
  refine ⟨hlearned, fun port copy hcopy ↦
    hworld.outward port copy (QueueFamily.mem_of_lose hlose hcopy), hworld.recorded, ?_⟩
  intro copy source target hsent
  have honce := hworld.once copy source target hsent
  have hweight := QueueFamily.weight_lose_le (net.aheadValue copy source target) hlose
  exact (Nat.add_le_add_right hweight _).trans honce

theorem singleDelivery_step_of_noneSentBack {event : Event net} (hworld : SingleDelivery world)
    (hguard : noneSentBack world event) (h : world.step event = some next) :
    SingleDelivery next := by
  cases event with
  | send host frame => exact singleDelivery_send hworld h
  | receive switch inIf => exact singleDelivery_receive hworld h
  | forward switch => exact singleDelivery_forward hworld hguard h
  | deliver host => exact singleDelivery_deliver hworld h
  | lose location position => exact singleDelivery_lose hworld h

omit [Fintype H] [Fintype S] in
theorem carried_init : (network net).init.carried source target = [] := by
  have hway : (network net).init.onTheWay source target = [] := by
    refine List.filter_eq_nil_iff.mpr fun copy hcopy ↦ ?_
    obtain ⟨location, -, hmem⟩ := List.mem_flatMap.mp hcopy
    cases hmem
  rw [World.carried, hway]
  rfl

/-- What has been carried is what was sent, in order and without repetition, except for losses. -/
theorem carried_sublist (hne : source ≠ target) (h : (network net).Reachable noneSentBack world) :
    (world.carried source target).Sublist (world.sentBetween source target) := by
  have hstep : ∀ (before : World net) event after,
      SingleDelivery before ∧
        (before.carried source target).Sublist (before.sentBetween source target) →
      noneSentBack before event → (network net).step before event = some after →
        SingleDelivery after ∧
          (after.carried source target).Sublist (after.sentBetween source target) := by
    intro before event after hbefore hguard hafter
    refine ⟨singleDelivery_step_of_noneSentBack hbefore.1 hguard hafter, ?_⟩
    by_cases hlose : ∃ location position, event = .lose location position
    · obtain ⟨location, position, rfl⟩ := hlose
      have hlost : (after.carried source target).Sublist (before.carried source target) ∧
          after.sentBetween source target = before.sentBetween source target :=
        carried_lose hafter
      obtain ⟨hless, hsame⟩ := hlost
      rw [hsame]
      exact hless.trans hbefore.2
    · obtain ⟨new, hcarried, hsent⟩ := carries_step hne hbefore.1
        (fun location position heq ↦ hlose ⟨location, position, heq⟩) hafter
      rw [hcarried, hsent]
      exact hbefore.2.append (List.Sublist.refl new)
  refine (h.invariant hstep ⟨singleDelivery_init, ?_⟩).2
  rw [carried_init]
  exact List.nil_sublist _

/-- Without losses it is all that was sent. -/
theorem carried_eq (hne : source ≠ target) (h : (network net).Reachable withoutHairpins world) :
    world.carried source target = world.sentBetween source target := by
  have hstep : ∀ (before : World net) event after,
      SingleDelivery before ∧ before.carried source target = before.sentBetween source target →
      withoutHairpins before event → (network net).step before event = some after →
        SingleDelivery after ∧
          after.carried source target = after.sentBetween source target := by
    intro before event after hbefore hguard hafter
    refine ⟨singleDelivery_step hbefore.1 hguard hafter, ?_⟩
    have hlose (location : Location H net.interfaces) (position : ℕ) :
        event ≠ .lose location position := by
      rintro rfl
      exact hguard
    obtain ⟨new, hcarried, hsent⟩ := carries_step hne hbefore.1 hlose hafter
    rw [hcarried, hsent, hbefore.2]
  exact (h.invariant hstep ⟨singleDelivery_init, carried_init⟩).2

/-- From one host to another the network is a channel that keeps the order, whatever the tables have
learned: as long as no switch sends a frame back, what was delivered is, in order and without
repetition, a part of what was sent; and if nothing was lost, what was sent is what was delivered
followed by what is on the way. -/
theorem network_is_channel (hne : source ≠ target) :
    ((network net).Reachable noneSentBack world →
      (world.deliveredBetween source target).Sublist (world.sentBetween source target)) ∧
    ((network net).Reachable withoutHairpins world →
      world.deliveredBetween source target ++ world.onTheWay source target =
        world.sentBetween source target) :=
  ⟨fun h ↦ (List.sublist_append_left _ _).trans (carried_sublist hne h), carried_eq hne⟩

/-- Host 1 sends two frames to host 2; the first is lost, or the first is delivered. -/
theorem network_is_channel_witness :
    (∃ h : ((network readmeNetwork).run noneSentBack (network readmeNetwork).init
        [.send 1 (readmeFrame 1 2), .send 1 (readmeFrame 1 2), .receive 1 ⟨1, by decide⟩,
          .receive 1 ⟨1, by decide⟩, .forward 1, .lose (.wire (.inr ⟨1, ⟨2, by decide⟩⟩)) 0,
          .forward 1, .deliver 2]).isSome,
      ((Option.get _ h).deliveredBetween 1 2).Sublist ((Option.get _ h).sentBetween 1 2)) ∧
    ∃ h : ((network readmeNetwork).run withoutHairpins (network readmeNetwork).init
        [.send 1 (readmeFrame 1 2), .send 1 (readmeFrame 1 2), .receive 1 ⟨1, by decide⟩,
          .receive 1 ⟨1, by decide⟩, .forward 1, .deliver 2]).isSome,
      (Option.get _ h).deliveredBetween 1 2 ++ (Option.get _ h).onTheWay 1 2 =
        (Option.get _ h).sentBetween 1 2 :=
  ⟨⟨by decide, (network_is_channel (by decide)).1 (ScheduledSystem.reachable_of_isSome_run _)⟩,
    by decide, (network_is_channel (by decide)).2 (ScheduledSystem.reachable_of_isSome_run _)⟩

end Steps

end NetworkSimulation.Switching
