import NetworkSimulation.Threads.Abstraction
import NetworkSimulation.Threads.Hosts

/-!
# The threads implement the network of switches

Seen through `Lan.world`, every step of a thread is no step of the network of switches, or one, or
one followed by the loss of the frame that a full wire or queue was offered. So what holds in every
run of the network of switches holds in every run of the threads.

The events of the network of switches that a run needs are told apart (`Permits`): frames are lost
only where a wire or a queue overflows, and a switch forwards only when its sender looks the
destination up.
-/

set_option autoImplicit false
set_option relaxedAutoImplicit false

namespace NetworkSimulation.Threads

open Stack Library Links Switching

variable {H S : Type*} {σ μ α β : Type*} {net : Topology H S} [DecidableEq H] [DecidableEq S]
  {attached : Attachment H σ μ α β} {lan next : Lan net σ μ}

/-- The step offers a frame to a wire or a queue that is full. -/
def Lan.Overflows (lan : Lan net σ μ) : Event net α β → Prop
  | .transmits host _ => ethernetWireCapacity ≤ (lan.wires (.inl host)).length
  | .queues port => MAX_QUEUE_LENGTH ≤ (lan.frameQueues port.device).length
  | .sends switch =>
    match lan.senders switch with
    | .transmitting _ ifId _ => ethernetWireCapacity ≤ (lan.wires (.inr ⟨switch, ifId⟩)).length
    | _ => False
  | _ => False

/-- No wire and no queue is offered a frame that it has no room for. -/
def roomy (lan : Lan net σ μ) (event : Event net α β) : Prop := ¬ lan.Overflows event

instance (lan : Lan net σ μ) : ∀ event : Event net α β, Decidable (roomy lan event)
  | .transmits host _ =>
    inferInstanceAs (Decidable (¬ ethernetWireCapacity ≤ (lan.wires (.inl host)).length))
  | .queues port =>
    inferInstanceAs (Decidable (¬ MAX_QUEUE_LENGTH ≤ (lan.frameQueues port.device).length))
  | .sends switch =>
    match hpoint : lan.senders switch with
    | .transmitting _ ifId _ =>
      decidable_of_iff (¬ ethernetWireCapacity ≤ (lan.wires (.inr ⟨switch, ifId⟩)).length)
        (by rw [roomy, Lan.Overflows, hpoint])
    | .idle | .lookingUp _ | .testing _ _ =>
      .isTrue (by rw [roomy, Lan.Overflows, hpoint]; exact id)
  | .acts _ | .receives _ | .demuxes _ => .isTrue id

/-- A guard of the network of switches that permits what a step of a thread may need. -/
structure Permits (attached : Attachment H σ μ α β) (lan : Lan net σ μ) (event : Event net α β)
    (permitted : World net → Switching.Event net → Prop) : Prop where
  send : ∀ host position, event = .transmits host position → ∀ message ∈ lan.outgoing host,
    permitted (lan.world attached.frame) (.send host (attached.frame message))
  receive : ∀ world switch inIf, permitted world (.receive switch inIf)
  deliver : ∀ world host, permitted world (.deliver host)
  forward : ∀ switch item, event = .sends switch → lan.senders switch = .lookingUp item →
    permitted (lan.world attached.frame) (.forward switch)
  lose : lan.Overflows event → ∀ world location position, permitted world (.lose location position)

/-- Every frame that a host is about to transmit has the address of the host. -/
def OwnSource (attached : Attachment H σ μ α β) (lan : Lan net σ μ) : Prop :=
  ∀ host, ∀ message ∈ lan.outgoing host, (attached.frame message).sourceMac = net.mac host

variable {permitted : World net → Switching.Event net → Prop} {event : Event net α β}

/-! ### Losing a frame -/

/-- Where the threads have lost one frame of a queue, the network of switches loses it. -/
theorem reachableFrom_of_lost {world : World net} {location : Location H net.interfaces}
    {front back : List Copy} {copy : Copy} (hqueue : world.queues location = front ++ copy :: back)
    (hpermitted : ∀ world location position, permitted world (.lose location position))
    (htables : next.switchTables = world.switchTables)
    (hhere : (next.queuesSeen attached.frame location).map (Item.copy attached.frame) = front ++ back)
    (hother : ∀ other, other ≠ location →
      (next.queuesSeen attached.frame other).map (Item.copy attached.frame) = world.queues other)
    (hsent : next.sent = world.sent) (hprocessed : next.processed = world.delivered) :
    (network net).ReachableFrom permitted world (next.world attached.frame) := by
  refine ScheduledSystem.reachableFrom_of_step (hpermitted world location front.length) ?_
  change World.step world (.lose location front.length) = _
  rw [World.step, QueueFamily.lose_eq_some hqueue]
  have hworld : next.world attached.frame =
      { world with queues := Function.update world.queues location (front ++ back) } := by
    refine Lan.world_eq htables (fun other ↦ ?_) hsent hprocessed
    change _ = Function.update world.queues location _ other
    by_cases hsame : other = location
    · subst hsame
      rw [Function.update_self, hhere]
    · rw [Function.update_of_ne hsame, hother other hsame]
  rw [hworld]

/-! ### A host transmits -/

omit [DecidableEq H] [DecidableEq S] in
/-- Only the wire of the host looks different when a frame is put on it. -/
theorem seen_of_transmits {wires : QueueFamily (Port H net.interfaces) (Item μ)}
    {outgoing : QueueFamily H μ} {sent : List (H × MPDU)} {location : Location H net.interfaces}
    (hwires : ∀ port : Port H net.interfaces, location = .wire port → wires port = lan.wires port) :
    Lan.queuesSeen attached.frame { lan with wires, outgoing, sent } location =
      lan.queuesSeen attached.frame location := by
  cases location with
  | wire port =>
    change lan.arrived (net.peer port) ++ (wires port ++ lan.pending attached.frame port) = _
    rw [hwires port rfl]
    rfl
  | frameQueue switch => rfl

theorem refines_transmits {host : H} {position : ℕ} (hsource : OwnSource attached lan)
    (hpermits : Permits attached lan (.transmits host position : Event net α β) permitted)
    (h : lan.step attached (.transmits host position) = some next) :
    (network net).ReachableFrom permitted (lan.world attached.frame)
      (next.world attached.frame) := by
  obtain ⟨message, hfront, rfl⟩ := step_transmits h
  have hmessage := List.mem_of_getElem? hfront
  let copy : Copy := ⟨lan.sent.length, attached.frame message⟩
  let wire : Location H net.interfaces := .wire (.inl host)
  let world := lan.world attached.frame
  let after : World net := { world with
    queues := world.queues.add wire copy, sent := world.sent ++ [(host, copy.frame)] }
  have hsend : (network net).step world (.send host copy.frame) = some after := by
    change World.step world (.send host copy.frame) = _
    rw [World.step, if_pos (hsource host message hmessage)]
    rfl
  have hreach : (network net).ReachableFrom permitted world after :=
    ScheduledSystem.reachableFrom_of_step (hpermits.send _ _ rfl message hmessage) hsend
  by_cases hfull : ethernetWireCapacity ≤ (lan.wires (.inl host)).length
  · -- the wire drops the frame that was sent
    have hqueue : after.queues wire = world.queues wire ++ copy :: [] :=
      QueueFamily.add_self world.queues wire copy
    have hsame : lan.wires.addWithin ethernetWireCapacity (.inl host) ⟨lan.sent.length, message⟩ =
        lan.wires := QueueFamily.addWithin_of_full hfull _
    refine hreach.trans (reachableFrom_of_lost hqueue (hpermits.lose hfull) rfl ?_ ?_ rfl rfl)
    · rw [seen_of_transmits fun port _ ↦ congrFun hsame port, List.append_nil]
      rfl
    · intro location hlocation
      rw [seen_of_transmits fun port _ ↦ congrFun hsame port]
      exact (QueueFamily.add_of_ne world.queues hlocation copy).symm
  · have hroom : lan.wires.addWithin ethernetWireCapacity (.inl host) ⟨lan.sent.length, message⟩ =
        lan.wires.add (.inl host) ⟨lan.sent.length, message⟩ :=
      QueueFamily.addWithin_of_room hfull _
    convert hreach using 1
    refine Lan.world_eq rfl (fun location ↦ ?_) rfl rfl
    change _ = QueueFamily.add world.queues wire copy location
    rw [hroom]
    by_cases hlocation : location = wire
    · subst hlocation
      rw [QueueFamily.add_self]
      change (lan.arrived _ ++ (QueueFamily.add _ _ _ _ ++ [])).map _ =
        (lan.arrived _ ++ (lan.wires _ ++ [])).map _ ++ _
      rw [QueueFamily.add_self]
      simp only [List.append_nil, List.map_append, List.append_assoc, List.map_cons, List.map_nil]
      rfl
    · rw [QueueFamily.add_of_ne world.queues hlocation]
      refine congrArg (List.map _) (seen_of_transmits fun port hport ↦ ?_)
      subst hport
      exact QueueFamily.add_of_ne lan.wires (fun heq ↦ hlocation (by rw [heq])) _

/-! ### A receiver takes a frame from its wire -/

/-- A frame in the hands of a receiver is still seen on the wire. -/
theorem world_of_receives {port : Port H net.interfaces}
    (h : lan.step attached (.receives port) = some next) :
    next.world attached.frame = lan.world attached.frame := by
  obtain ⟨hnone, item, wires, hremove, rfl⟩ := step_receives h
  obtain ⟨rest, hfront, rfl⟩ := QueueFamily.remove_eq_some.mp hremove
  refine Lan.world_eq rfl (fun location ↦ congrArg _ ?_) rfl rfl
  cases location with
  | frameQueue switch => rfl
  | wire other =>
    change Lan.arrived _ (net.peer other) ++ (Function.update lan.wires _ rest other ++ _) =
      lan.arrived (net.peer other) ++ (lan.wires other ++ lan.pending attached.frame other)
    by_cases hother : other = net.peer port
    · subst hother
      have harrived : Lan.arrived { lan with
          wires := Function.update lan.wires (net.peer port) rest,
          received := Function.update lan.received port (some item) } port =
            lan.arrived port ++ [item] := by
        rcases port with host | ⟨switch, ifId⟩
        · change _ ++ (Function.update lan.received _ _ _).toList =
            (_ ++ (lan.received _).toList) ++ _
          rw [Function.update_self, hnone, Option.toList_none, List.append_nil]
          rfl
        · change (Function.update lan.received _ _ _).toList = (lan.received _).toList ++ _
          rw [Function.update_self, hnone]
          rfl
      rw [net.peer_peer, harrived, Function.update_self, hfront, List.append_assoc]
      rfl
    · have hpeer : net.peer other ≠ port := fun heq ↦ hother (by rw [← heq, net.peer_peer])
      have harrived : Lan.arrived { lan with
          wires := Function.update lan.wires (net.peer port) rest,
          received := Function.update lan.received port (some item) } (net.peer other) =
            lan.arrived (net.peer other) :=
        Lan.arrived_congr lan (Function.update_of_ne hpeer _ _) fun _ _ ↦ rfl
      rw [harrived, Function.update_of_ne hother]
      rfl

/-! ### A receiver queues a frame -/

/-- A host that queues a frame loses it, or the frame is seen where it was. -/
theorem refines_queues_host {host : H}
    (hpermits : Permits attached lan (.queues (.inl host) : Event net α β) permitted)
    (h : lan.step attached (.queues (.inl host)) = some next) :
    (network net).ReachableFrom permitted (lan.world attached.frame)
      (next.world attached.frame) := by
  obtain ⟨item, hitem, rfl⟩ := step_queues h
  let wire : Location H net.interfaces := .wire (net.peer (.inl host))
  let queued := lan.frameQueues (.inl host)
  let behind := lan.wires (net.peer (.inl host)) ++ lan.pending attached.frame (net.peer (.inl host))
  have hseen : lan.queuesSeen attached.frame wire = queued ++ item :: behind := by
    change lan.arrived (net.peer (net.peer (.inl host))) ++ behind = _
    rw [net.peer_peer]
    change (_ ++ (lan.received (.inl host)).toList) ++ _ = _
    rw [hitem, List.append_assoc]
    rfl
  -- what is seen elsewhere stays the same, also where the host drops the frame
  have hother {frameQueues : QueueFamily (H ⊕ S) (Item μ)} {location : Location H net.interfaces}
      (hlocation : location ≠ wire)
      (hqueues : ∀ device, device ≠ .inl host → frameQueues device = lan.frameQueues device) :
      Lan.queuesSeen attached.frame { lan with
          received := Function.update lan.received (.inl host) none, frameQueues } location =
        lan.queuesSeen attached.frame location := by
    cases location with
    | wire port =>
      have hpeer : net.peer port ≠ .inl host := fun heq ↦ hlocation (by
        change _ = Location.wire _
        rw [← heq, net.peer_peer])
      change Lan.arrived _ (net.peer port) ++ (lan.wires port ++ lan.pending attached.frame port) = _
      rw [Lan.arrived_congr lan (Function.update_of_ne hpeer _ _) fun other heq ↦
        hqueues _ fun hsame ↦ hpeer (heq.trans (congrArg _ (Sum.inl.inj hsame)))]
      rfl
    | frameQueue switch =>
      change _ ++ frameQueues (.inr switch) = _
      rw [hqueues (.inr switch) (by simp)]
      rfl
  have hhere (frameQueues : QueueFamily (H ⊕ S) (Item μ)) :
      Lan.queuesSeen attached.frame { lan with
          received := Function.update lan.received (.inl host) none, frameQueues } wire =
        frameQueues (.inl host) ++ behind := by
    change Lan.arrived _ (net.peer (net.peer (.inl host))) ++ behind = _
    rw [net.peer_peer]
    change (_ ++ (Function.update lan.received (.inl host) none (.inl host)).toList) ++ _ = _
    rw [Function.update_self, Option.toList_none, List.append_nil]
  by_cases hfull : MAX_QUEUE_LENGTH ≤ (lan.frameQueues (.inl host)).length
  · have hqueue : (lan.world attached.frame).queues wire =
        queued.map (Item.copy attached.frame) ++
          item.copy attached.frame :: behind.map (Item.copy attached.frame) := by
      change (lan.queuesSeen attached.frame wire).map _ = _
      rw [hseen, List.map_append, List.map_cons]
    have hsame : lan.frameQueues.addWithin MAX_QUEUE_LENGTH (.inl host) item = lan.frameQueues :=
      QueueFamily.addWithin_of_full hfull item
    refine reachableFrom_of_lost hqueue (hpermits.lose hfull) rfl ?_ ?_ rfl rfl
    · change List.map _ (Lan.queuesSeen _ { lan with
        received := _, frameQueues := lan.frameQueues.addWithin _ (.inl host) _ } _) = _
      rw [hsame, hhere, List.map_append]
    · intro location hlocation
      change List.map _ (Lan.queuesSeen _ { lan with
        received := _, frameQueues := lan.frameQueues.addWithin _ (.inl host) _ } _) = _
      rw [hsame, hother hlocation fun _ _ ↦ rfl]
      rfl
  · have hroom : lan.frameQueues.addWithin MAX_QUEUE_LENGTH (.inl host) item =
        lan.frameQueues.add (.inl host) item := QueueFamily.addWithin_of_room hfull item
    convert ScheduledSystem.ReachableFrom.refl using 1
    refine Lan.world_eq rfl (fun location ↦ congrArg _ ?_) rfl rfl
    change Lan.queuesSeen _ { lan with
      received := _, frameQueues := lan.frameQueues.addWithin _ (.inl host) _ } _ = _
    rw [hroom]
    by_cases hlocation : location = wire
    · subst hlocation
      rw [hhere, hseen, QueueFamily.add_self, List.append_assoc]
      rfl
    · exact hother hlocation fun _ hdevice ↦ QueueFamily.add_of_ne _ hdevice _

omit [DecidableEq H] [DecidableEq S] in
/-- A switch knows the source of a frame that its sender has yet to transmit. -/
theorem lookupSource_ne_none {frame : μ → MPDU} (hworld : Learned (lan.world frame)) {switch : S}
    {ifId : Fin (net.interfaces switch)} {item : Item μ}
    (hitem : item ∈ (lan.senders switch).pending (lan.lookupSource frame switch) ifId) :
    lan.lookupSource frame switch item ≠ none := by
  have hcopy : item.copy frame ∈ (lan.world frame).queues (.wire (.inr ⟨switch, ifId⟩)) :=
    List.mem_map_of_mem (List.mem_append_right _ (List.mem_append_right _ hitem))
  obtain ⟨source, -, hmac⟩ := hworld.origin _ _ hcopy
  have hknows : (lan.world frame).Knows source switch := hworld.behind _ _ hcopy source hmac
  have hsource : compareMacs (item.copy frame).frame.sourceMac (net.mac source) = true := by
    rw [hmac]
    exact compareMacs_self _
  obtain ⟨found, hfound, -⟩ := hworld.lookup_of_knows hsource hknows
  exact Option.ne_none_iff_exists'.mpr ⟨found, hfound⟩

omit [DecidableEq H] in
/-- What a switch learns changes nothing of what its sender has yet to transmit. -/
theorem pending_learnFrom {frame : μ → MPDU} (hworld : Learned (lan.world frame)) (learned : MPDU)
    (port arriving : Port H net.interfaces) {received : Port H net.interfaces → Option (Item μ)}
    {frameQueues : QueueFamily (H ⊕ S) (Item μ)} :
    Lan.pending frame { lan with
        switchTables := lan.learnFrom learned arriving, received, frameQueues } port =
      lan.pending frame port := by
  rcases port with host | ⟨switch, ifId⟩
  · rfl
  · rcases arriving with host | ⟨other, inIf⟩
    · rfl
    · refine SenderPoint.pending_congr (fun item found hfound ↦ ?_)
        (fun _ _ hitem ↦ lookupSource_ne_none hworld hitem) ifId
      change getTableInterfaceNumber (Function.update lan.switchTables other _ switch) _ = _
      by_cases hswitch : switch = other
      · subst hswitch
        rw [Function.update_self, getTableInterfaceNumber_learn, Option.or_eq_some_iff]
        exact .inl hfound
      · rw [Function.update_of_ne hswitch]
        exact hfound

/-- A switch that queues a frame has received it, and loses it where its queue is full. -/
theorem refines_queues_switch {switch : S} {inIf : Fin (net.interfaces switch)}
    (hworld : Learned (lan.world attached.frame))
    (hpermits : Permits attached lan (.queues (.inr ⟨switch, inIf⟩) : Event net α β) permitted)
    (h : lan.step attached (.queues (.inr ⟨switch, inIf⟩)) = some next) :
    (network net).ReachableFrom permitted (lan.world attached.frame)
      (next.world attached.frame) := by
  obtain ⟨item, hitem, rfl⟩ := step_queues h
  let port : Port H net.interfaces := .inr ⟨switch, inIf⟩
  let wire : Location H net.interfaces := .wire (net.peer port)
  let behind := lan.wires (net.peer port) ++ lan.pending attached.frame (net.peer port)
  let world := lan.world attached.frame
  let copy := item.copy attached.frame
  let rest : QueueFamily (Location H net.interfaces) Copy :=
    Function.update world.queues wire (behind.map (Item.copy attached.frame))
  let after : World net := { world with
    switchTables := lan.learnFrom (attached.frame item.message) port
    queues := rest.add (.frameQueue switch) copy }
  have hseen : lan.queuesSeen attached.frame wire = item :: behind := by
    change lan.arrived (net.peer (net.peer port)) ++ behind = _
    rw [net.peer_peer]
    change (lan.received port).toList ++ _ = _
    rw [hitem]
    rfl
  have hremove : world.queues.remove wire = some (copy, rest) := by
    refine QueueFamily.remove_eq_some.mpr ⟨behind.map (Item.copy attached.frame), ?_, rfl⟩
    change (lan.queuesSeen attached.frame wire).map _ = _
    rw [hseen]
    rfl
  have hreceive : (network net).step world (.receive switch inIf) = some after := by
    change World.step world (.receive switch inIf) = _
    rw [World.step, hremove]
    rfl
  have hreach : (network net).ReachableFrom permitted world after :=
    ScheduledSystem.reachableFrom_of_step (hpermits.receive _ _ _) hreceive
  -- the wire without the frame, and the other wires and queues as they were
  have hothers {frameQueues : QueueFamily (H ⊕ S) (Item μ)} {location : Location H net.interfaces}
      (hlocation : location ≠ .frameQueue switch)
      (hqueues : ∀ device, device ≠ .inr switch → frameQueues device = lan.frameQueues device) :
      (Lan.queuesSeen attached.frame { lan with
          switchTables := lan.learnFrom (attached.frame item.message) port,
          received := Function.update lan.received port none, frameQueues } location).map
            (Item.copy attached.frame) = after.queues location := by
    change _ = rest.add (.frameQueue switch) copy location
    rw [QueueFamily.add_of_ne rest hlocation]
    cases location with
    | frameQueue other =>
      have hother : other ≠ switch := fun heq ↦ hlocation (by rw [heq])
      change ((lan.senders other).ahead ++ frameQueues (.inr other)).map _ =
        Function.update world.queues wire _ (.frameQueue other)
      rw [Function.update_of_ne (by simp [wire]), hqueues (.inr other) (by simpa using hother)]
      rfl
    | wire sending =>
      change (Lan.arrived _ (net.peer sending) ++ (lan.wires sending ++ Lan.pending _ _ sending)).map
        _ = Function.update world.queues wire _ (.wire sending)
      rw [pending_learnFrom hworld]
      by_cases hsending : sending = net.peer port
      · subst hsending
        rw [Function.update_self, net.peer_peer]
        change ((Function.update lan.received port none port).toList ++ behind).map _ = _
        rw [Function.update_self]
        rfl
      · have hpeer : net.peer sending ≠ port := fun heq ↦ hsending (by rw [← heq, net.peer_peer])
        rw [Function.update_of_ne (by simpa [wire] using hsending),
          Lan.arrived_congr lan (Function.update_of_ne hpeer _ _) fun host _ ↦
            hqueues (.inl host) (by simp)]
        rfl
  have hhere (frameQueues : QueueFamily (H ⊕ S) (Item μ)) :
      Lan.queuesSeen attached.frame { lan with
          switchTables := lan.learnFrom (attached.frame item.message) port,
          received := Function.update lan.received port none, frameQueues } (.frameQueue switch) =
        (lan.senders switch).ahead ++ frameQueues (.inr switch) := rfl
  have hqueue : after.queues (.frameQueue switch) =
      ((lan.senders switch).ahead ++ lan.frameQueues (.inr switch)).map (Item.copy attached.frame) ++
        copy :: [] := by
    change rest.add (.frameQueue switch) copy (.frameQueue switch) = _
    rw [QueueFamily.add_self]
    change Function.update world.queues wire _ (.frameQueue switch) ++ _ = _
    rw [Function.update_of_ne (by simp [wire])]
    rfl
  refine hreach.trans ?_
  by_cases hfull : MAX_QUEUE_LENGTH ≤ (lan.frameQueues (.inr switch)).length
  · have hsame : lan.frameQueues.addWithin MAX_QUEUE_LENGTH (.inr switch) item = lan.frameQueues :=
      QueueFamily.addWithin_of_full hfull item
    change (network net).ReachableFrom permitted after (Lan.world attached.frame { lan with
      switchTables := _, received := _,
      frameQueues := lan.frameQueues.addWithin MAX_QUEUE_LENGTH (.inr switch) item })
    rw [hsame]
    refine reachableFrom_of_lost hqueue (hpermits.lose hfull) rfl ?_ ?_ rfl rfl
    · rw [hhere, List.append_nil]
    · exact fun location hlocation ↦ hothers hlocation fun _ _ ↦ rfl
  · have hroom : lan.frameQueues.addWithin MAX_QUEUE_LENGTH (.inr switch) item =
        lan.frameQueues.add (.inr switch) item := QueueFamily.addWithin_of_room hfull item
    change (network net).ReachableFrom permitted after (Lan.world attached.frame { lan with
      switchTables := _, received := _,
      frameQueues := lan.frameQueues.addWithin MAX_QUEUE_LENGTH (.inr switch) item })
    rw [hroom]
    convert ScheduledSystem.ReachableFrom.refl using 1
    refine Lan.world_eq rfl (fun location ↦ ?_) rfl rfl
    by_cases hlocation : location = .frameQueue switch
    · subst hlocation
      rw [hhere, hqueue, QueueFamily.add_self, ← List.append_assoc, List.map_append]
      rfl
    · exact hothers hlocation fun _ hdevice ↦ QueueFamily.add_of_ne _ hdevice _

/-! ### A host processes a frame -/

theorem refines_demuxes {receiver : β}
    (hpermits : Permits attached lan (.demuxes receiver : Event net α β) permitted)
    (h : lan.step attached (.demuxes receiver) = some next) :
    (network net).ReachableFrom permitted (lan.world attached.frame)
      (next.world attached.frame) := by
  obtain ⟨item, frameQueues, core, messages, hremove, -, rfl⟩ := step_demuxes h
  obtain ⟨queued, hfront, rfl⟩ := QueueFamily.remove_eq_some.mp hremove
  generalize attached.taker receiver = host at *
  let wire : Location H net.interfaces := .wire (net.peer (.inl host))
  let behind := (lan.received (.inl host)).toList ++ (lan.wires (net.peer (.inl host)) ++
    lan.pending attached.frame (net.peer (.inl host)))
  let world := lan.world attached.frame
  have hseen : world.queues wire = item.copy attached.frame ::
      (queued ++ behind).map (Item.copy attached.frame) := by
    change (lan.arrived (net.peer (net.peer (.inl host))) ++ _).map _ = _
    rw [net.peer_peer]
    change ((lan.frameQueues (.inl host) ++ _) ++ _).map _ = _
    rw [hfront, List.append_assoc, List.cons_append, List.map_cons]
  refine ScheduledSystem.reachableFrom_of_step (hpermits.deliver world host) ?_
  change World.step world (.deliver host) = _
  rw [World.step, QueueFamily.remove_eq_some.mpr ⟨_, hseen, rfl⟩]
  refine congrArg some (Lan.world_eq rfl (fun location ↦ ?_) rfl rfl).symm
  change _ = Function.update world.queues wire _ location
  cases location with
  | frameQueue switch =>
    rw [Function.update_of_ne (by simp [wire])]
    change ((lan.senders switch).ahead ++
      Function.update lan.frameQueues (.inl host) queued (.inr switch)).map _ = _
    rw [Function.update_of_ne (by simp)]
    rfl
  | wire port =>
    by_cases hport : port = net.peer (.inl host)
    · subst hport
      rw [Function.update_self]
      change (Lan.arrived _ (net.peer (net.peer (.inl host))) ++ _).map _ = _
      rw [net.peer_peer]
      change ((Function.update lan.frameQueues (.inl host) queued (.inl host) ++ _) ++ _).map _ = _
      rw [Function.update_self, List.append_assoc]
      rfl
    · have hpeer : net.peer port ≠ .inl host := fun heq ↦ hport (by rw [← heq, net.peer_peer])
      rw [Function.update_of_ne (by simpa [wire] using hport)]
      refine congrArg (fun arrived ↦ List.map _ (arrived ++ _)) (Lan.arrived_congr lan rfl ?_)
      intro other heq
      have hother : (.inl other : H ⊕ S) ≠ .inl host := fun hsame ↦
        hpeer (heq.trans (congrArg _ (Sum.inl.inj hsame)))
      exact Function.update_of_ne hother _ _

/-! ### The sender of a switch makes a step -/

/-- The look-up of the destination is the step that the network of switches sees. -/
theorem forward_of_looksUp {switch : S} {item : Item μ}
    {point : SenderPoint μ (net.interfaces switch)}
    (hpoint : lan.senders switch = .lookingUp item) (hahead : point.ahead = [])
    (htransmissions : ∀ ifId,
      (point.pending (lan.lookupSource attached.frame switch) ifId).map (Item.copy attached.frame) =
        ((transmissions (H := H) switch (lan.switchTables switch)
          (item.copy attached.frame)).filter fun sent ↦ sent.1 = .wire (.inr ⟨switch, ifId⟩)).map
            Prod.snd) :
    (lan.world attached.frame).step (.forward switch) =
      some ((lan.senderMoved switch point lan.wires lan.frameQueues).world attached.frame) := by
  let world := lan.world attached.frame
  have hseen : world.queues (.frameQueue switch) = item.copy attached.frame ::
      (lan.frameQueues (.inr switch)).map (Item.copy attached.frame) := by
    change ((lan.senders switch).ahead ++ _).map _ = _
    rw [hpoint]
    rfl
  change World.step world (.forward switch) = _
  rw [World.step, QueueFamily.remove_eq_some.mpr ⟨_, hseen, rfl⟩]
  refine congrArg some (Lan.world_eq rfl (fun location ↦ ?_) rfl rfl).symm
  change _ = QueueFamily.addAll (Function.update world.queues _ _)
    (transmissions switch (lan.switchTables switch) (item.copy attached.frame)) location
  rw [QueueFamily.addAll_apply]
  have hhosts (host : H) : lan.frameQueues (.inl host) = lan.frameQueues (.inl host) := rfl
  have hnothing (hlocation : ∀ ifId, location ≠ .wire (.inr ⟨switch, ifId⟩)) :
      (transmissions switch (lan.switchTables switch) (item.copy attached.frame)).filter
        (fun sent ↦ sent.1 = location) = [] := by
    refine List.filter_eq_nil_iff.mpr fun sent hsent ↦ ?_
    obtain ⟨-, ifId, hwire, -⟩ := mem_transmissions.mp (show (sent.1, sent.2) ∈ _ from hsent)
    rw [decide_eq_true_eq, hwire]
    exact fun heq ↦ hlocation ifId heq.symm
  cases location with
  | wire port =>
    rw [Function.update_of_ne (by simp)]
    by_cases hport : port.device = .inr switch
    · obtain ⟨ifId, rfl⟩ := Topology.device_eq_inr hport
      rw [Lan.seen_wire_self hhosts, ← htransmissions ifId, List.map_append, List.map_append]
      change _ = (lan.arrived _ ++ (lan.wires _ ++ SenderPoint.pending _ _ _)).map _ ++ _
      rw [hpoint]
      simp only [SenderPoint.pending, List.append_nil, List.map_append, List.append_assoc]
    · rw [hnothing fun ifId heq ↦ hport (by cases heq; rfl), List.map_nil, List.append_nil,
        Lan.seen_wire_other hhosts hport rfl]
      rfl
  | frameQueue other =>
    rw [hnothing fun ifId ↦ by simp, List.map_nil, List.append_nil]
    by_cases hother : other = switch
    · subst hother
      rw [Lan.seen_frameQueue_self, hahead, Function.update_self]
      rfl
    · rw [Lan.seen_frameQueue_other hother rfl, Function.update_of_ne (by simpa using hother)]
      rfl

/-- What a sender that has looked the destination up has yet to transmit is what the network of
switches transmits at once. -/
theorem pending_of_unicast {switch : S} {item : Item μ} {found : Fin (net.interfaces switch)}
    (hlookup : getTableInterfaceNumber (lan.switchTables switch)
      (attached.frame item.message).destinationMac = some found) (ifId : Fin (net.interfaces switch)) :
    ((SenderPoint.transmitting item found []).pending (lan.lookupSource attached.frame switch)
        ifId).map (Item.copy attached.frame) =
      ((transmissions (H := H) switch (lan.switchTables switch)
        (item.copy attached.frame)).filter fun sent ↦ sent.1 = .wire (.inr ⟨switch, ifId⟩)).map
          Prod.snd := by
  have hunicast : transmissions (H := H) switch (lan.switchTables switch)
      (item.copy attached.frame) = [unicast switch (item.copy attached.frame) found] := by
    rw [transmissions, Item.copy, hlookup]
  rw [hunicast, SenderPoint.pending, List.filter_nil, List.append_nil]
  by_cases hsame : found = ifId
  · subst hsame
    simp [unicast]
  · simp [unicast, hsame]

theorem pending_of_broadcast {switch : S} {item : Item μ}
    (hlookup : getTableInterfaceNumber (lan.switchTables switch)
      (attached.frame item.message).destinationMac = none) (ifId : Fin (net.interfaces switch)) :
    ((SenderPoint.testing item (List.finRange _)).pending (lan.lookupSource attached.frame switch)
        ifId).map (Item.copy attached.frame) =
      ((transmissions (H := H) switch (lan.switchTables switch)
        (item.copy attached.frame)).filter fun sent ↦ sent.1 = .wire (.inr ⟨switch, ifId⟩)).map
          Prod.snd := by
  have hbroadcast : transmissions (H := H) switch (lan.switchTables switch)
      (item.copy attached.frame) =
        broadcast switch (lan.switchTables switch) (item.copy attached.frame) := by
    rw [transmissions, Item.copy, hlookup]
  rw [hbroadcast, SenderPoint.pending, broadcast, List.filter_map, List.map_map, List.map_map,
    List.filter_filter]
  refine congrArg _ (List.filter_congr fun other _ ↦ ?_)
  rw [Bool.eq_iff_iff, Bool.and_eq_true, decide_eq_true_iff, decide_eq_true_iff]
  exact and_congr_left' (by simp [unicast])

theorem refines_sends {switch : S}
    (hpermits : Permits attached lan (.sends switch : Event net α β) permitted)
    (h : Sends attached lan switch next) :
    (network net).ReachableFrom permitted (lan.world attached.frame)
      (next.world attached.frame) := by
  -- a step that is not seen, on the interfaces and in the queue of the switch
  have hunseen {point : SenderPoint μ (net.interfaces switch)}
      {wires : QueueFamily (Port H net.interfaces) (Item μ)}
      {frameQueues : QueueFamily (H ⊕ S) (Item μ)}
      (hpending : ∀ ifId, wires (.inr ⟨switch, ifId⟩) ++
          point.pending (lan.lookupSource attached.frame switch) ifId =
        lan.wires (.inr ⟨switch, ifId⟩) ++ (lan.senders switch).pending
          (lan.lookupSource attached.frame switch) ifId)
      (hahead : point.ahead ++ frameQueues (.inr switch) =
        (lan.senders switch).ahead ++ lan.frameQueues (.inr switch))
      (hwires : ∀ port : Port H net.interfaces, port.device ≠ .inr switch →
        wires port = lan.wires port)
      (hqueues : ∀ device, device ≠ .inr switch → frameQueues device = lan.frameQueues device) :
      (network net).ReachableFrom permitted (lan.world attached.frame)
        ((lan.senderMoved switch point wires frameQueues).world attached.frame) := by
    rw [Lan.world_senderMoved hpending hahead hwires hqueues]
    exact .refl
  cases h with
  | @takes item frameQueues hidle hremove =>
    obtain ⟨rest, hfront, rfl⟩ := QueueFamily.remove_eq_some.mp hremove
    refine hunseen (fun ifId ↦ by rw [hidle]; rfl) ?_ (fun _ _ ↦ rfl)
      fun device hdevice ↦ Function.update_of_ne hdevice _ _
    rw [Function.update_self, hidle, hfront]
    rfl
  | unicasts hpoint hlookup =>
    exact ScheduledSystem.reachableFrom_of_step (hpermits.forward switch _ rfl hpoint)
      (forward_of_looksUp hpoint rfl (pending_of_unicast hlookup))
  | broadcasts hpoint hlookup =>
    exact ScheduledSystem.reachableFrom_of_step (hpermits.forward switch _ rfl hpoint)
      (forward_of_looksUp hpoint rfl (pending_of_broadcast hlookup))
  | ends hpoint =>
    exact hunseen (fun ifId ↦ by rw [hpoint]; rfl) (by rw [hpoint]; rfl) (fun _ _ ↦ rfl)
      fun _ _ ↦ rfl
  | @passes item ifId untested hpoint hsource =>
    refine hunseen (fun other ↦ ?_) (by rw [hpoint]; rfl) (fun _ _ ↦ rfl) fun _ _ ↦ rfl
    have hlookup : lan.lookupSource attached.frame switch item ≠ some ifId := hsource
    rw [hpoint, SenderPoint.pending, SenderPoint.pending, List.filter_cons]
    by_cases hother : ifId = other
    · subst hother
      rw [if_pos rfl, if_pos (by simp [hlookup])]
      rfl
    · rw [if_neg hother, if_neg (by simp [hother])]
      rfl
  | @skips item ifId untested hpoint hsource =>
    refine hunseen (fun other ↦ ?_) (by rw [hpoint]; rfl) (fun _ _ ↦ rfl) fun _ _ ↦ rfl
    have hlookup : lan.lookupSource attached.frame switch item = some ifId := hsource
    rw [hpoint, SenderPoint.pending, SenderPoint.pending, List.filter_cons_of_neg (by simp [hlookup])]
  | @transmits item ifId untested hpoint =>
    let rest (other : Fin (net.interfaces switch)) :=
      (SenderPoint.testing item untested).pending (lan.lookupSource attached.frame switch) other
    have hhere : (lan.senders switch).pending (lan.lookupSource attached.frame switch) ifId =
        item :: rest ifId := by
      rw [hpoint, SenderPoint.pending, if_pos rfl]
      rfl
    have hother (other : Fin (net.interfaces switch)) (h : other ≠ ifId) :
        (lan.senders switch).pending (lan.lookupSource attached.frame switch) other =
          rest other := by
      rw [hpoint, SenderPoint.pending, if_neg (Ne.symm h)]
      rfl
    have hdevice {port : Port H net.interfaces} (hport : port.device ≠ .inr switch) :
        port ≠ .inr ⟨switch, ifId⟩ := fun heq ↦ hport (by rw [heq]; rfl)
    have hport {other : Fin (net.interfaces switch)} (h : other ≠ ifId) :
        (.inr ⟨switch, other⟩ : Port H net.interfaces) ≠ .inr ⟨switch, ifId⟩ := by
      simpa using h
    by_cases hfull : ethernetWireCapacity ≤ (lan.wires (.inr ⟨switch, ifId⟩)).length
    · have hsame : lan.wires.addWithin ethernetWireCapacity (.inr ⟨switch, ifId⟩) item = lan.wires :=
        QueueFamily.addWithin_of_full hfull item
      have hqueue : (lan.world attached.frame).queues (.wire (.inr ⟨switch, ifId⟩)) =
          (lan.arrived (net.peer (.inr ⟨switch, ifId⟩)) ++
            lan.wires (.inr ⟨switch, ifId⟩)).map (Item.copy attached.frame) ++
              item.copy attached.frame :: (rest ifId).map (Item.copy attached.frame) := by
        change (lan.arrived _ ++ (lan.wires _ ++
          (lan.senders switch).pending (lan.lookupSource attached.frame switch) ifId)).map _ = _
        rw [hhere, ← List.append_assoc, List.map_append]
        rfl
      rw [hsame]
      change (network net).ReachableFrom permitted _
        ((lan.senderMoved switch (.testing item untested) lan.wires lan.frameQueues).world
          attached.frame)
      have hoverflows : lan.Overflows (.sends switch : Event net α β) := by
        rw [Lan.Overflows, hpoint]
        exact hfull
      refine reachableFrom_of_lost hqueue (hpermits.lose hoverflows) rfl ?_
        (fun location hlocation ↦ ?_) rfl rfl
      · rw [Lan.seen_wire_self (fun _ ↦ rfl), ← List.append_assoc, List.map_append]
      · refine congrArg _ ?_
        cases location with
        | frameQueue other =>
          by_cases hswitch : other = switch
          · subst hswitch
            rw [Lan.seen_frameQueue_self]
            change _ = (lan.senders other).ahead ++ _
            rw [hpoint]
            rfl
          · exact Lan.seen_frameQueue_other hswitch rfl
        | wire port =>
          by_cases hswitch : port.device = .inr switch
          · obtain ⟨other, rfl⟩ := Topology.device_eq_inr hswitch
            have hne : other ≠ ifId := fun heq ↦ hlocation (by rw [heq])
            rw [Lan.seen_wire_self (fun _ ↦ rfl)]
            change _ ++ (_ ++ rest other) = lan.arrived _ ++ (lan.wires _ ++
              (lan.senders switch).pending (lan.lookupSource attached.frame switch) other)
            rw [hother other hne]
          · exact Lan.seen_wire_other (fun _ ↦ rfl) hswitch rfl
    · rw [QueueFamily.addWithin_of_room hfull]
      refine hunseen (fun other ↦ ?_) (by rw [hpoint]; rfl)
        (fun port hswitch ↦ QueueFamily.add_of_ne _ (hdevice hswitch) _) fun _ _ ↦ rfl
      by_cases hsame : other = ifId
      · subst hsame
        rw [QueueFamily.add_self, hhere, List.append_assoc]
        rfl
      · rw [QueueFamily.add_of_ne _ (hport hsame), hother other hsame]

/-! ### Runs -/

/-- A step of a thread is some steps of the network of switches, or none. -/
theorem refines_step (hworld : Learned (lan.world attached.frame)) (hsource : OwnSource attached lan)
    (hpermits : Permits attached lan event permitted)
    (h : lan.step attached event = some next) :
    (network net).ReachableFrom permitted (lan.world attached.frame)
      (next.world attached.frame) := by
  cases event with
  | acts action =>
    obtain ⟨core, messages, -, rfl⟩ := step_acts h
    exact .refl
  | transmits host position => exact refines_transmits hsource hpermits h
  | receives port =>
    rw [world_of_receives h]
    exact .refl
  | queues port =>
    rcases port with host | ⟨switch, inIf⟩
    · exact refines_queues_host hpermits h
    · exact refines_queues_switch hworld hpermits h
  | demuxes receiver => exact refines_demuxes hpermits h
  | sends switch => exact refines_sends hpermits (step_sends h)

omit [DecidableEq S] in
theorem OwnSource.append {host : H} {messages : List μ} (hsource : OwnSource attached lan)
    (hmessages : ∀ message ∈ messages, (attached.frame message).sourceMac = net.mac host)
    (hnext : next.outgoing = Function.update lan.outgoing host (lan.outgoing host ++ messages)) :
    OwnSource attached next := by
  unfold OwnSource
  rw [hnext]
  refine (Function.forall_update_iff lan.outgoing (p := fun host messages ↦
    ∀ message ∈ messages, (attached.frame message).sourceMac = net.mac host)).mpr
      ⟨fun message hmessage ↦ ?_, fun other _ ↦ hsource other⟩
  rcases List.mem_append.mp hmessage with hbefore | hnow
  · exact hsource host message hbefore
  · exact hmessages message hnow

theorem ownSource_step (hown : SendsOwn net attached) (hsource : OwnSource attached lan)
    (h : lan.step attached event = some next) : OwnSource attached next := by
  cases event with
  | acts action =>
    obtain ⟨core, messages, hact, rfl⟩ := step_acts h
    exact hsource.append (hown.acts _ _ _ _ hact) rfl
  | demuxes receiver =>
    obtain ⟨taken, frameQueues, core, messages, -, htake, rfl⟩ := step_demuxes h
    exact hsource.append (hown.takes _ _ _ _ _ htake) rfl
  | transmits host position =>
    exact fun other message hmessage ↦ hsource other message
      ((outgoing_of_moves id h).2 other message hmessage)
  | receives port =>
    exact fun other message hmessage ↦ hsource other message
      ((outgoing_of_moves id h).2 other message hmessage)
  | queues port =>
    exact fun other message hmessage ↦ hsource other message
      ((outgoing_of_moves id h).2 other message hmessage)
  | sends switch =>
    exact fun other message hmessage ↦ hsource other message
      ((outgoing_of_moves id h).2 other message hmessage)

variable {guard : Lan net σ μ → Event net α β → Prop} {start : σ}

theorem ownSource_of_reachable (hown : SendsOwn net attached)
    (h : (system net attached start).Reachable guard lan) : OwnSource attached lan := by
  have hstep : ∀ (before : Lan net σ μ) event after, OwnSource attached before →
      guard before event → (system net attached start).step before event = some after →
        OwnSource attached after :=
    fun _ _ _ hsource _ hafter ↦ ownSource_step hown hsource hafter
  have hstart : OwnSource attached (system net attached start).init := fun _ _ hmessage ↦ by
    cases hmessage
  exact h.invariant hstep hstart

/-- Nothing is seen of the network before anything is sent. -/
theorem world_init : (system net attached start).init.world attached.frame = (network net).init := by
  refine Lan.world_eq rfl (fun location ↦ ?_) rfl rfl
  cases location with
  | frameQueue switch => rfl
  | wire port =>
    have harrived : (system net attached start).init.arrived (net.peer port) = [] := by
      rcases net.peer port with host | other <;> rfl
    change (_ ++ (_ ++ Lan.pending _ _ port)).map _ = _
    rw [harrived]
    rcases port with host | ⟨switch, ifId⟩ <;> rfl

/-- The threads refine the network of switches, as far as its events are permitted. -/
theorem refines (hown : SendsOwn net attached)
    (hpermits : ∀ (lan : Lan net σ μ) (event : Event net α β), guard lan event →
      Permits attached lan event permitted) :
    ScheduledSystem.Refines (system net attached start) guard (network net) permitted
      (Lan.world attached.frame) where
  init := by
    rw [world_init]
    exact .refl
  step _ event _ hreach hworld hguard hstep :=
    refines_step (learned_of_reachable hworld) (ownSource_of_reachable hown hreach)
      (hpermits _ event hguard) hstep

/-- Whatever the threads do, the network of switches does it too. -/
theorem world_reachable (hown : SendsOwn net attached)
    (h : (system net attached start).Reachable anyThread lan) :
    (network net).Reachable Switching.anyEvent (lan.world attached.frame) :=
  (refines hown fun _ _ _ ↦ ⟨fun _ _ _ _ _ ↦ trivial, fun _ _ _ ↦ trivial, fun _ _ ↦ trivial,
    fun _ _ _ _ ↦ trivial, fun _ _ _ _ ↦ trivial⟩).reachable h

omit [DecidableEq H] [DecidableEq S] in
theorem permits_lossless (hroom : roomy lan event) : Permits attached lan event lossless where
  send _ _ _ _ _ := trivial
  receive _ _ _ := trivial
  deliver _ _ := trivial
  forward _ _ _ _ := trivial
  lose hfull := absurd hfull hroom

/-- The threads implement the network of switches: whatever they do, the network does it too, and
loses nothing as long as no wire and no queue overflows. -/
theorem threads_refine_switches (hown : SendsOwn net attached) (lan : Lan net σ μ) :
    ((system net attached start).Reachable anyThread lan →
      (network net).Reachable Switching.anyEvent (lan.world attached.frame)) ∧
    ((system net attached start).Reachable roomy lan →
      (network net).Reachable lossless (lan.world attached.frame)) :=
  ⟨world_reachable hown, (refines hown fun _ _ ↦ permits_lossless).reachable⟩

/-- The packet of host 1 to host 2, flooded without a loss. -/
theorem threads_refine_switches_witness :
    ∃ h : (readmeLan.run roomy readmeLan.init
        [.acts (.sends 1 ⟨12, 12, 0, 1, 2, []⟩ [0, 0, 0, 0, 0, 2]), .transmits 1 0,
          .receives (.inr ⟨1, ⟨1, by decide⟩⟩), .queues (.inr ⟨1, ⟨1, by decide⟩⟩),
          .sends 1, .sends 1, .sends 1, .sends 1, .sends 1, .sends 1, .sends 1, .sends 1,
          .receives (.inl 2), .queues (.inl 2), .demuxes (2, ⟨0, 0, 0, 0, 0, []⟩)]).isSome,
      (network readmeNetwork).Reachable lossless
        ((Option.get _ h).world Arp.Flight.frame) :=
  ⟨by decide +kernel, (threads_refine_switches (sendsOwn_hosts fun _ ↦ rfl) _).2
    (ScheduledSystem.reachable_of_isSome_run _)⟩

end NetworkSimulation.Threads
