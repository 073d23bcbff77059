import NetworkSimulation.Library.QueueFamily
import NetworkSimulation.Library.ScheduledSystem
import NetworkSimulation.Library.TreeRouting
import NetworkSimulation.Switching.SwitchTable

/-!
# A network of switches and hosts

Devices are plugged into each other interface by interface; a host has one interface and a switch
any number. A `Topology` is loop-free by construction: its links join any two devices by exactly one
path. What moves is held in queues, one for each wire (an `EthernetLink` has one wire in each
direction, named here by the interface that transmits on it) and one `frame_queue` for each switch.

The events are the steps of the threads. A host sends a frame. `Switch::receiver` takes a frame from
a wire, learns its source and puts it in the queue. `Switch::sender` takes a frame from the queue,
looks its destination up and transmits it on one interface or, as copies, on all but the one
recorded for its source. A host takes a frame from its wire and keeps it if it is addressed to it or
broadcast. Any frame anywhere may be lost.

A frame and all copies of it carry the number of frames sent before it, and the world records what
was sent and what was delivered; the program reads none of the three.
-/

set_option autoImplicit false
set_option relaxedAutoImplicit false

namespace NetworkSimulation.Switching

open Stack Library Library.TreeRouting

variable {H S : Type*}

/-! ### Topologies -/

/-- The interfaces of all devices: one of each host, and the numbered ones of each switch. -/
abbrev Port (H : Type*) {S : Type*} (interfaces : S → ℕ) := H ⊕ (s : S) × Fin (interfaces s)

/-- The device an interface belongs to. -/
def Port.device {interfaces : S → ℕ} : Port H interfaces → H ⊕ S
  | .inl host => .inl host
  | .inr ⟨switch, _⟩ => .inr switch

/-- Two devices are adjacent when a link joins an interface of one to an interface of the other. -/
def linkGraph {interfaces : S → ℕ} (peer : Port H interfaces → Port H interfaces) :
    SimpleGraph (H ⊕ S) :=
  SimpleGraph.fromRel fun first second ↦
    ∃ port : Port H interfaces, port.device = first ∧ (peer port).device = second

/-- A loop-free network: `peer` is the other end of the link plugged into an interface, no two links
join the same two devices, and the devices and links form a tree. -/
structure Topology (H S : Type*) where
  interfaces : S → ℕ
  mac : H → Mac
  peer : Port H interfaces → Port H interfaces
  peer_peer : ∀ port, peer (peer port) = port
  device_peer_ne : ∀ port, (peer port).device ≠ port.device
  eq_of_device_eq : ∀ port other, port.device = other.device →
    (peer port).device = (peer other).device → port = other
  isTree : (linkGraph peer).IsTree
  length_mac : ∀ host, (mac host).length = 6
  mac_injective : Function.Injective mac
  not_broadcast : ∀ host, isBroadcast (mac host) = false

/-- A wire, named by the interface that transmits on it, or the frame queue of a switch. -/
inductive Location (H : Type*) {S : Type*} (interfaces : S → ℕ)
  | wire (port : Port H interfaces)
  | frameQueue (switch : S)
  deriving DecidableEq, Fintype

/-- A frame on its way, or a copy of it, with the number of frames sent before it. -/
structure Copy where
  serial : ℕ
  frame : MPDU
  deriving DecidableEq

namespace Topology

variable (net : Topology H S)

/-- The network as a graph of devices. -/
abbrev graph : SimpleGraph (H ⊕ S) := linkGraph net.peer

/-- The devices on the path between two devices. -/
noncomputable def pathBetween (first second : H ⊕ S) : List (H ⊕ S) :=
  (path net.isTree first second).support

/-- The interface is the one of its device on the path to the target. -/
def LeadsTo (port : Port H net.interfaces) (target : H ⊕ S) : Prop :=
  (net.peer port).device = nextHop net.isTree port.device target

variable {net}

theorem adj_iff {first second : H ⊕ S} : net.graph.Adj first second ↔
    ∃ port : Port H net.interfaces, port.device = first ∧ (net.peer port).device = second := by
  rw [graph, linkGraph, SimpleGraph.fromRel_adj]
  constructor
  · rintro ⟨-, hport | ⟨port, hsecond, hfirst⟩⟩
    · exact hport
    · exact ⟨net.peer port, hfirst, by rw [net.peer_peer, hsecond]⟩
  · rintro ⟨port, rfl, rfl⟩
    exact ⟨(net.device_peer_ne port).symm, Or.inl ⟨port, rfl, rfl⟩⟩

theorem adj_peer (net : Topology H S) (port : Port H net.interfaces) :
    net.graph.Adj port.device (net.peer port).device := adj_iff.mpr ⟨port, rfl, rfl⟩

/-- Some interface of a device leads to any other device. -/
theorem exists_leadsTo (net : Topology H S) {device target : H ⊕ S} (h : device ≠ target) :
    ∃ port : Port H net.interfaces, port.device = device ∧ net.LeadsTo port target := by
  obtain ⟨port, rfl, hpeer⟩ := adj_iff.mp (adj_nextHop net.isTree h)
  exact ⟨port, rfl, hpeer⟩

/-- Only one interface of a device leads to a target. -/
theorem eq_of_leadsTo {port other : Port H net.interfaces} {target : H ⊕ S}
    (hdevice : port.device = other.device) (hport : net.LeadsTo port target)
    (hother : net.LeadsTo other target) : port = other :=
  net.eq_of_device_eq port other hdevice (by
    unfold LeadsTo at hport hother
    rw [hport, hother, hdevice])

theorem ifId_eq_of_leadsTo {switch : S} {ifId other : Fin (net.interfaces switch)} {target : H ⊕ S}
    (h : net.LeadsTo (.inr ⟨switch, ifId⟩) target)
    (hother : net.LeadsTo (.inr ⟨switch, other⟩) target) : ifId = other := by
  have hdevice : Port.device (H := H) (.inr ⟨switch, ifId⟩) = Port.device (.inr ⟨switch, other⟩) :=
    rfl
  have hport := eq_of_leadsTo hdevice h hother
  cases hport
  rfl

/-- An interface that does not lead to a target leads away from it: the target is reached back over
the same link. -/
theorem nextHop_peer_of_not_leadsTo {port : Port H net.interfaces} {target : H ⊕ S}
    (h : ¬ net.LeadsTo port target) :
    nextHop net.isTree (net.peer port).device target = port.device :=
  (nextHop_or net.isTree (adj_peer net port) target).resolve_left fun hnext ↦ h hnext.symm

theorem device_eq_inl {port : Port H net.interfaces} {host : H} (h : port.device = .inl host) :
    port = .inl host := by
  rcases port with other | ⟨switch, i⟩
  · cases h
    rfl
  · cases h

theorem device_eq_inr {port : Port H net.interfaces} {switch : S} (h : port.device = .inr switch) :
    ∃ ifId, port = .inr ⟨switch, ifId⟩ := by
  rcases port with host | ⟨other, ifId⟩
  · cases h
  · cases h
    exact ⟨ifId, rfl⟩

/-- The interface of a host leads to every other device. -/
theorem leadsTo_host {host : H} {target : H ⊕ S} (h : .inl host ≠ target) :
    net.LeadsTo (.inl host) target := by
  obtain ⟨port, hdevice, hleads⟩ := exists_leadsTo net h
  rwa [device_eq_inl hdevice] at hleads

/-- A path reaches a host only at its end: the next hop towards a target is the target or a
switch. -/
theorem eq_of_leadsTo_host {port : Port H net.interfaces} {host : H} {target : H ⊕ S}
    (hleads : net.LeadsTo port target) (hpeer : net.peer port = .inl host) :
    .inl host = target := by
  by_contra hne
  have hback : net.LeadsTo (.inl host) target := leadsTo_host hne
  rw [LeadsTo, ← hpeer, net.peer_peer] at hback
  exact not_nextHop_both net.isTree (adj_peer net port) hleads.symm hback.symm

end Topology

/-! ### The program's steps -/

/-- The state of the network: the tables of the switches, the queues, and the record of the frames
sent and of those delivered, each with its host. -/
structure World (net : Topology H S) where
  switchTables : (switch : S) → SwitchTable (net.interfaces switch)
  queues : QueueFamily (Location H net.interfaces) Copy
  sent : List (H × MPDU)
  delivered : List (H × Copy)

inductive Event (net : Topology H S)
  | send (host : H) (frame : MPDU)
  | receive (switch : S) (inIf : Fin (net.interfaces switch))
  | forward (switch : S)
  | deliver (host : H)
  | lose (location : Location H net.interfaces) (position : ℕ)

section Steps

variable {net : Topology H S}

/-- `Switch::unicast`: the frame goes on the wire of one interface. -/
def unicast (switch : S) (copy : Copy) (ifId : Fin (net.interfaces switch)) :
    Location H net.interfaces × Copy := (.wire (.inr ⟨switch, ifId⟩), copy)

/-- `Switch::broadcast`: a copy on every interface but the one recorded for the source. -/
def broadcast (switch : S) (switchTable : SwitchTable (net.interfaces switch)) (copy : Copy) :
    List (Location H net.interfaces × Copy) :=
  ((List.finRange (net.interfaces switch)).filter fun i ↦
    getTableInterfaceNumber switchTable copy.frame.sourceMac ≠ some i).map (unicast switch copy)

/-- What `Switch::sender` transmits for a frame it took from the queue. -/
def transmissions (switch : S) (switchTable : SwitchTable (net.interfaces switch)) (copy : Copy) :
    List (Location H net.interfaces × Copy) :=
  match getTableInterfaceNumber switchTable copy.frame.destinationMac with
  | some ifId => [unicast switch copy ifId]
  | none => broadcast switch switchTable copy

/-- `Host::demuxer` processes frames addressed to the host and broadcast ones. -/
def accepts (mac : Mac) (frame : MPDU) : Bool :=
  compareMacs frame.destinationMac mac || isBroadcast frame.destinationMac

variable [DecidableEq H] [DecidableEq S]

def World.step (world : World net) : Event net → Option (World net)
  | .send host frame =>
    if frame.sourceMac = net.mac host then
      some
        { world with
          queues := world.queues.add (.wire (.inl host)) ⟨world.sent.length, frame⟩
          sent := world.sent ++ [(host, frame)] }
    else none
  | .receive switch inIf =>
    match world.queues.remove (.wire (net.peer (.inr ⟨switch, inIf⟩))) with
    | none => none
    | some (copy, queues) =>
      some
        { world with
          switchTables := Function.update world.switchTables switch
            (learn (world.switchTables switch) copy.frame.sourceMac inIf)
          queues := queues.add (.frameQueue switch) copy }
  | .forward switch =>
    match world.queues.remove (.frameQueue switch) with
    | none => none
    | some (copy, queues) =>
      some
        { world with
          queues := queues.addAll (transmissions switch (world.switchTables switch) copy) }
  | .deliver host =>
    match world.queues.remove (.wire (net.peer (.inl host))) with
    | none => none
    | some (copy, queues) =>
      some
        { world with
          queues
          delivered :=
            if accepts (net.mac host) copy.frame then world.delivered ++ [(host, copy)]
            else world.delivered }
  | .lose location position =>
    match world.queues.lose location position with
    | none => none
    | some queues => some { world with queues }

/-! ### What a step does -/

variable {world next : World net}

theorem step_send {host : H} {frame : MPDU} (h : world.step (.send host frame) = some next) :
    frame.sourceMac = net.mac host ∧
      next = { world with
        queues := world.queues.add (.wire (.inl host)) ⟨world.sent.length, frame⟩
        sent := world.sent ++ [(host, frame)] } := by
  rw [World.step] at h
  split_ifs at h with hsource
  exact ⟨hsource, (Option.some.inj h).symm⟩

theorem step_receive {switch : S} {inIf : Fin (net.interfaces switch)}
    (h : world.step (.receive switch inIf) = some next) :
    ∃ copy queues,
      world.queues.remove (.wire (net.peer (.inr ⟨switch, inIf⟩))) = some (copy, queues) ∧
        next = { world with
          switchTables := Function.update world.switchTables switch
            (learn (world.switchTables switch) copy.frame.sourceMac inIf)
          queues := queues.add (.frameQueue switch) copy } := by
  rw [World.step] at h
  cases hremove : world.queues.remove (.wire (net.peer (.inr ⟨switch, inIf⟩))) with
  | none => rw [hremove] at h; cases h
  | some taken => rw [hremove] at h; exact ⟨_, _, rfl, (Option.some.inj h).symm⟩

theorem step_forward {switch : S} (h : world.step (.forward switch) = some next) :
    ∃ copy queues, world.queues.remove (.frameQueue switch) = some (copy, queues) ∧
      next = { world with
        queues := queues.addAll (transmissions switch (world.switchTables switch) copy) } := by
  rw [World.step] at h
  cases hremove : world.queues.remove (.frameQueue switch) with
  | none => rw [hremove] at h; cases h
  | some taken => rw [hremove] at h; exact ⟨_, _, rfl, (Option.some.inj h).symm⟩

theorem step_deliver {host : H} (h : world.step (.deliver host) = some next) :
    ∃ copy queues, world.queues.remove (.wire (net.peer (.inl host))) = some (copy, queues) ∧
      next = { world with
        queues
        delivered :=
          if accepts (net.mac host) copy.frame then world.delivered ++ [(host, copy)]
          else world.delivered } := by
  rw [World.step] at h
  cases hremove : world.queues.remove (.wire (net.peer (.inl host))) with
  | none => rw [hremove] at h; cases h
  | some taken => rw [hremove] at h; exact ⟨_, _, rfl, (Option.some.inj h).symm⟩

theorem step_lose {location : Location H net.interfaces} {position : ℕ}
    (h : world.step (.lose location position) = some next) :
    ∃ queues, world.queues.lose location position = some queues ∧
      next = { world with queues } := by
  rw [World.step] at h
  cases hlose : world.queues.lose location position with
  | none => rw [hlose] at h; cases h
  | some left => rw [hlose] at h; exact ⟨_, rfl, (Option.some.inj h).symm⟩

omit [DecidableEq H] [DecidableEq S] in
/-- Everything the sender transmits goes on a wire of its switch, and is the frame it took. -/
theorem mem_transmissions {switch : S} {switchTable : SwitchTable (net.interfaces switch)}
    {copy sent : Copy} {location : Location H net.interfaces} :
    (location, sent) ∈ transmissions switch switchTable copy ↔
      sent = copy ∧ ∃ ifId, location = .wire (.inr ⟨switch, ifId⟩) ∧
        (getTableInterfaceNumber switchTable copy.frame.destinationMac = some ifId ∨
          getTableInterfaceNumber switchTable copy.frame.destinationMac = none ∧
            getTableInterfaceNumber switchTable copy.frame.sourceMac ≠ some ifId) := by
  unfold transmissions
  cases hlookup : getTableInterfaceNumber switchTable copy.frame.destinationMac with
  | some found =>
    simp only [unicast, List.mem_singleton, Prod.mk.injEq, Option.some.injEq, reduceCtorEq,
      false_and, or_false]
    constructor
    · rintro ⟨rfl, rfl⟩
      exact ⟨rfl, found, rfl, rfl⟩
    · rintro ⟨rfl, ifId, rfl, rfl⟩
      exact ⟨rfl, rfl⟩
  | none =>
    simp only [broadcast, unicast, List.mem_map, List.mem_filter, List.mem_finRange, true_and,
      Prod.mk.injEq, decide_eq_true_eq, reduceCtorEq, false_or]
    constructor
    · rintro ⟨ifId, hother, rfl, rfl⟩
      exact ⟨rfl, ifId, rfl, hother⟩
    · rintro ⟨rfl, ifId, rfl, hother⟩
      exact ⟨ifId, hother, rfl, rfl⟩

/-- The network before anything is sent: empty tables and empty queues. -/
def network (net : Topology H S) : ScheduledSystem (World net) (Event net) where
  init := ⟨fun _ ↦ [], fun _ ↦ [], [], []⟩
  step := World.step

/-- Any event, frame losses included. -/
def anyEvent (_ : World net) (_ : Event net) : Prop := True

/-- No frame is lost. -/
def lossless (_ : World net) : Event net → Prop
  | .lose _ _ => False
  | _ => True

/-- Only the devices move what there is: no frame is sent and none is lost. -/
def undisturbed (_ : World net) : Event net → Prop
  | .send _ _ => False
  | .lose _ _ => False
  | _ => True

instance (world : World net) (event : Event net) : Decidable (anyEvent world event) :=
  .isTrue trivial

instance (world : World net) : ∀ event : Event net, Decidable (lossless world event)
  | .lose _ _ => .isFalse id
  | .send _ _ | .receive _ _ | .forward _ | .deliver _ => .isTrue trivial

end Steps

/-! ### The network of the README -/

/-- Two switches in a row, the first with one host and the second with two: each host and the
second switch hang off the device that `parent` names. -/
def readmeNetwork : Topology (Fin 3) (Fin 2) where
  interfaces := ![2, 3]
  mac host := [0, 0, 0, 0, 0, host.val.toUInt8]
  peer
    | .inl 0 => .inr ⟨0, ⟨0, by decide⟩⟩
    | .inl 1 => .inr ⟨1, ⟨1, by decide⟩⟩
    | .inl 2 => .inr ⟨1, ⟨2, by decide⟩⟩
    | .inr ⟨0, ⟨0, _⟩⟩ => .inl 0
    | .inr ⟨0, ⟨_ + 1, _⟩⟩ => .inr ⟨1, ⟨0, by decide⟩⟩
    | .inr ⟨1, ⟨0, _⟩⟩ => .inr ⟨0, ⟨1, by decide⟩⟩
    | .inr ⟨1, ⟨1, _⟩⟩ => .inl 1
    | .inr ⟨1, ⟨_ + 2, _⟩⟩ => .inl 2
  peer_peer := by decide
  device_peer_ne := by decide
  eq_of_device_eq := by decide
  isTree := by
    let parent : Fin 3 ⊕ Fin 2 → Fin 3 ⊕ Fin 2 := fun
      | .inl 0 => .inr 0
      | .inl _ | .inr _ => .inr 1
    let depth : Fin 3 ⊕ Fin 2 → ℕ := fun
      | .inl _ => 2
      | .inr 0 => 1
      | .inr 1 => 0
    refine isTree_of_parent (.inr 1) parent depth ?_ ?_
    · simp only [linkGraph, SimpleGraph.fromRel_adj]
      decide
    · decide
  length_mac := by decide
  mac_injective := by decide
  not_broadcast := by decide

/-- An empty frame from one of the three hosts to another. -/
def readmeFrame (source destination : Fin 3) : MPDU where
  sourceMac := readmeNetwork.mac source
  destinationMac := readmeNetwork.mac destination
  SDUType := 0
  SDU := []

end NetworkSimulation.Switching
