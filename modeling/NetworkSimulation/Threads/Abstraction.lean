import NetworkSimulation.Library.StutteringRefinement
import NetworkSimulation.Switching.Learning
import NetworkSimulation.Threads.Lan

/-!
# The network of switches behind the threads

`Lan.world` forgets where in a device a frame is. The queue of a wire is what the host at its end
has queued and not yet processed, what the receiver at its end holds, what is on the wire, and what
the sender of its switch has yet to transmit on it; the queue of a switch is the frame its sender is
about to look up and those behind it. In this view a sender does all its work at the look-up of the
destination, a switch receives a frame when it queues it, and a host when it processes it. All other
steps are not seen, except that a frame offered to a full wire or queue is lost.

The sender looks the source up again at every interface. The view is right only if all these
look-ups agree with the first, while the receivers of the switch go on learning: a switch that holds
a frame knows its source (`Learned.behind`), and never learns it again.
-/

set_option autoImplicit false
set_option relaxedAutoImplicit false

namespace NetworkSimulation.Threads

open Stack Library Links Switching

variable {H S : Type*} {σ μ α β : Type*} {net : Topology H S}

/-- A frame as the network of switches sees it. -/
def Item.copy (frame : μ → MPDU) (item : Item μ) : Copy := ⟨item.serial, frame item.message⟩

namespace SenderPoint

variable {interfaces : ℕ}

/-- The frame whose destination has not been looked up. -/
def ahead : SenderPoint μ interfaces → List (Item μ)
  | .lookingUp item => [item]
  | _ => []

/-- What the sender has yet to transmit on an interface, given where the source of each frame is
found. -/
def pending (lookup : Item μ → Option (Fin interfaces)) (port : Fin interfaces) :
    SenderPoint μ interfaces → List (Item μ)
  | .idle | .lookingUp _ => []
  | .testing item untested =>
    (untested.filter fun ifId ↦ ifId = port ∧ lookup item ≠ some ifId).map fun _ ↦ item
  | .transmitting item ifId untested =>
    ((if ifId = port then [ifId] else []) ++
      untested.filter fun ifId ↦ ifId = port ∧ lookup item ≠ some ifId).map fun _ ↦ item

/-- Tables that have learned more leave what is pending as it is, if they know the sources. -/
theorem pending_congr {lookup later : Item μ → Option (Fin interfaces)}
    {point : SenderPoint μ interfaces}
    (hlater : ∀ item ifId, lookup item = some ifId → later item = some ifId)
    (hknown : ∀ ifId, ∀ item ∈ point.pending lookup ifId, lookup item ≠ none)
    (port : Fin interfaces) : point.pending later port = point.pending lookup port := by
  cases point with
  | idle => rfl
  | lookingUp item => rfl
  | testing item untested =>
    refine congrArg _ (List.filter_congr fun ifId hifId ↦ ?_)
    have hsome : lookup item ≠ none := by
      intro hnone
      refine hknown ifId item (List.mem_map_of_mem (a := ifId) ?_) hnone
      exact List.mem_filter.mpr ⟨hifId, by simp [hnone]⟩
    obtain ⟨found, hfound⟩ := Option.ne_none_iff_exists'.mp hsome
    rw [hfound, hlater item found hfound]
  | transmitting item current untested =>
    have hsome : lookup item ≠ none :=
      hknown current item (List.mem_map_of_mem (a := current) (by simp))
    obtain ⟨found, hfound⟩ := Option.ne_none_iff_exists'.mp hsome
    rw [pending, pending, hfound, hlater item found hfound]

end SenderPoint

namespace Lan

variable (frame : μ → MPDU) (lan : Lan net σ μ)

/-- Where the table of a switch has the source of a frame. -/
def lookupSource (switch : S) (item : Item μ) : Option (Fin (net.interfaces switch)) :=
  getTableInterfaceNumber (lan.switchTables switch) (frame item.message).sourceMac

/-- What has arrived at an interface and has not been queued by a switch or processed by a host. -/
def arrived : Port H net.interfaces → List (Item μ)
  | .inl host => lan.frameQueues (.inl host) ++ (lan.received (.inl host)).toList
  | .inr port => (lan.received (.inr port)).toList

/-- What the sender of a switch has yet to transmit on an interface. -/
def pending : Port H net.interfaces → List (Item μ)
  | .inl _ => []
  | .inr ⟨switch, ifId⟩ => (lan.senders switch).pending (lan.lookupSource frame switch) ifId

/-- The queues that the network of switches sees. -/
def queuesSeen : Location H net.interfaces → List (Item μ)
  | .wire port => lan.arrived (net.peer port) ++ (lan.wires port ++ lan.pending frame port)
  | .frameQueue switch => (lan.senders switch).ahead ++ lan.frameQueues (.inr switch)

/-- The network of switches that the threads make up. -/
def world : World net where
  switchTables := lan.switchTables
  queues location := (lan.queuesSeen frame location).map (Item.copy frame)
  sent := lan.sent
  delivered := lan.processed

/-! ### Seeing the same -/

variable {frame : μ → MPDU} {lan next : Lan net σ μ}

theorem world_eq {world : World net} (htables : lan.switchTables = world.switchTables)
    (hqueues : ∀ location,
      (lan.queuesSeen frame location).map (Item.copy frame) = world.queues location)
    (hsent : lan.sent = world.sent) (hprocessed : lan.processed = world.delivered) :
    lan.world frame = world := by
  obtain ⟨switchTables, queues, sent, delivered⟩ := world
  obtain rfl : lan.switchTables = switchTables := htables
  obtain rfl : lan.sent = sent := hsent
  obtain rfl : lan.processed = delivered := hprocessed
  unfold Lan.world
  congr 1
  funext location
  exact hqueues location

/-- What has arrived at an interface is not affected by what happens elsewhere. -/
theorem arrived_congr (lan : Lan net σ μ) {port : Port H net.interfaces}
    (hreceived : next.received port = lan.received port)
    (hqueues : ∀ host, port = .inl host →
      next.frameQueues (.inl host) = lan.frameQueues (.inl host)) :
    next.arrived port = lan.arrived port := by
  rcases port with host | other
  · rw [arrived, arrived, hreceived, hqueues host rfl]
  · rw [arrived, arrived, hreceived]

section Senders

variable [DecidableEq S]

/-- The network after a step of the sender of a switch. -/
def senderMoved (lan : Lan net σ μ) (switch : S) (point : SenderPoint μ (net.interfaces switch))
    (wires : QueueFamily (Port H net.interfaces) (Item μ))
    (frameQueues : QueueFamily (H ⊕ S) (Item μ)) : Lan net σ μ :=
  { lan with wires, frameQueues, senders := Function.update lan.senders switch point }

variable {switch : S} {point : SenderPoint μ (net.interfaces switch)}
  {wires : QueueFamily (Port H net.interfaces) (Item μ)}
  {frameQueues : QueueFamily (H ⊕ S) (Item μ)}

theorem arrived_senderMoved (hqueues : ∀ host, frameQueues (.inl host) = lan.frameQueues (.inl host))
    (port : Port H net.interfaces) :
    (lan.senderMoved switch point wires frameQueues).arrived port = lan.arrived port :=
  arrived_congr lan rfl fun host _ ↦ hqueues host

/-- What is seen of the wires of the switch. -/
theorem seen_wire_self (hqueues : ∀ host, frameQueues (.inl host) = lan.frameQueues (.inl host))
    (ifId : Fin (net.interfaces switch)) :
    (lan.senderMoved switch point wires frameQueues).queuesSeen frame (.wire (.inr ⟨switch, ifId⟩)) =
      lan.arrived (net.peer (.inr ⟨switch, ifId⟩)) ++
        (wires (.inr ⟨switch, ifId⟩) ++ point.pending (lan.lookupSource frame switch) ifId) := by
  change Lan.arrived _ _ ++ (_ ++ SenderPoint.pending (lan.lookupSource frame switch) ifId
    (Function.update lan.senders switch point switch)) = _
  rw [arrived_senderMoved hqueues, Function.update_self]
  rfl

/-- The wires of the other devices look the same. -/
theorem seen_wire_other (hqueues : ∀ host, frameQueues (.inl host) = lan.frameQueues (.inl host))
    {port : Port H net.interfaces} (hport : port.device ≠ .inr switch)
    (hwires : wires port = lan.wires port) :
    (lan.senderMoved switch point wires frameQueues).queuesSeen frame (.wire port) =
      lan.queuesSeen frame (.wire port) := by
  change Lan.arrived _ _ ++ (wires port ++ Lan.pending _ _ _) = _
  rw [arrived_senderMoved hqueues, hwires]
  rcases port with host | ⟨other, ifId⟩
  · rfl
  · have hother : other ≠ switch := fun h ↦ hport (congrArg Sum.inr h)
    change _ ++ (_ ++ SenderPoint.pending (lan.lookupSource frame other) ifId
      (Function.update lan.senders switch point other)) = _
    rw [Function.update_of_ne hother]
    rfl

theorem seen_frameQueue_self :
    (lan.senderMoved switch point wires frameQueues).queuesSeen frame (.frameQueue switch) =
      point.ahead ++ frameQueues (.inr switch) := by
  change (Function.update lan.senders switch point switch).ahead ++ _ = _
  rw [Function.update_self]
  rfl

theorem seen_frameQueue_other {other : S} (hother : other ≠ switch)
    (hqueues : frameQueues (.inr other) = lan.frameQueues (.inr other)) :
    (lan.senderMoved switch point wires frameQueues).queuesSeen frame (.frameQueue other) =
      lan.queuesSeen frame (.frameQueue other) := by
  change (Function.update lan.senders switch point other).ahead ++ frameQueues (.inr other) = _
  rw [Function.update_of_ne hother, hqueues]
  rfl

/-- A step of the sender that changes nothing of what is seen. -/
theorem world_senderMoved
    (hpending : ∀ ifId, wires (.inr ⟨switch, ifId⟩) ++
        point.pending (lan.lookupSource frame switch) ifId =
      lan.wires (.inr ⟨switch, ifId⟩) ++ lan.pending frame (.inr ⟨switch, ifId⟩))
    (hahead : point.ahead ++ frameQueues (.inr switch) =
      (lan.senders switch).ahead ++ lan.frameQueues (.inr switch))
    (hwires : ∀ port : Port H net.interfaces, port.device ≠ .inr switch →
      wires port = lan.wires port)
    (hqueues : ∀ device, device ≠ .inr switch → frameQueues device = lan.frameQueues device) :
    (lan.senderMoved switch point wires frameQueues).world frame = lan.world frame := by
  have hhosts (host : H) : frameQueues (.inl host) = lan.frameQueues (.inl host) :=
    hqueues (.inl host) (by simp)
  refine world_eq rfl (fun location ↦ congrArg _ ?_) rfl rfl
  cases location with
  | wire port =>
    by_cases hport : port.device = .inr switch
    · obtain ⟨ifId, rfl⟩ := Topology.device_eq_inr hport
      rw [seen_wire_self hhosts, hpending]
      rfl
    · exact seen_wire_other hhosts hport (hwires port hport)
  | frameQueue other =>
    by_cases hother : other = switch
    · subst hother
      rw [seen_frameQueue_self, hahead]
      rfl
    · exact seen_frameQueue_other hother (hqueues (.inr other) (by simpa using hother))

end Senders

end Lan

end NetworkSimulation.Threads
