import NetworkSimulation.Library.ScheduledSystem
import NetworkSimulation.Switching.Network

/-!
# Plugging in the cables

An `EthernetLink` has two wires. `connect_ethernet` gives a device one of them to transmit on and
the other to receive on, and `flip_wires` says which is which; for hosts and the gateway it sets two
pointers, and for a switch it makes one more interface. Nothing checks that the two devices at a
link have their wires the other way round, or that there are only two.

In whatever order the calls are made, where no end of a link is used twice every wire has one device
to transmit on it and one to receive from it, and two interfaces hear each other or neither hears
the other. The devices then make up a `Topology` as soon as they are plugged together without loops
(`topology_of_cabling`).
-/

set_option autoImplicit false
set_option relaxedAutoImplicit false

namespace NetworkSimulation.Switching

open Stack Library Library.TreeRouting

variable {H S L : Type*}

/-- One of the two wires of a link. -/
structure EthernetWire (L : Type*) where
  eLink : L
  second : Bool
  deriving DecidableEq

def getWire1 (eLink : L) : EthernetWire L := ⟨eLink, false⟩

def getWire2 (eLink : L) : EthernetWire L := ⟨eLink, true⟩

/-- The other wire of the link. -/
def EthernetWire.other (wire : EthernetWire L) : EthernetWire L := ⟨wire.eLink, !wire.second⟩

/-- What a device transmits on and receives from. -/
structure Interface (L : Type*) where
  txInterface : EthernetWire L
  rxInterface : EthernetWire L
  deriving DecidableEq

/-- What `connect_ethernet` of any device takes from a link. -/
def connectEthernet (eLink : L) (flipWires : Bool) : Interface L :=
  if flipWires = false then ⟨getWire1 eLink, getWire2 eLink⟩ else ⟨getWire2 eLink, getWire1 eLink⟩

structure SwitchInterfaces (L : Type*) where
  txInterfaces : List (EthernetWire L)
  rxInterfaces : List (EthernetWire L)

/-- The interfaces of all devices. A host that has not been connected has none; the gateway is one
of the hosts. -/
structure Cabling (H S L : Type*) where
  hosts : H → Option (Interface L)
  switches : S → SwitchInterfaces L

/-- A call of `connect_ethernet`. -/
structure Connect (H S L : Type*) where
  device : H ⊕ S
  eLink : L
  flipWires : Bool

namespace Cabling

variable (cab : Cabling H S L)

/-- `connect_ethernet` of `Host`, `Gateway` and `Switch`. -/
def connect [DecidableEq H] [DecidableEq S] : Connect H S L → Cabling H S L
  | ⟨.inl host, eLink, flipWires⟩ =>
    { cab with
      hosts := Function.update cab.hosts host (some (connectEthernet eLink flipWires)) }
  | ⟨.inr switch, eLink, flipWires⟩ =>
    { cab with
      switches := Function.update cab.switches switch
        ⟨(cab.switches switch).txInterfaces ++ [(connectEthernet eLink flipWires).txInterface],
          (cab.switches switch).rxInterfaces ++ [(connectEthernet eLink flipWires).rxInterface]⟩ }

/-- The wire an interface transmits on. The interfaces of a switch are numbered. -/
def tx : H ⊕ S × ℕ → Option (EthernetWire L)
  | .inl host => (cab.hosts host).map Interface.txInterface
  | .inr (switch, ifId) => (cab.switches switch).txInterfaces[ifId]?

/-- The wire an interface receives from. -/
def rx : H ⊕ S × ℕ → Option (EthernetWire L)
  | .inl host => (cab.hosts host).map Interface.rxInterface
  | .inr (switch, ifId) => (cab.switches switch).rxInterfaces[ifId]?

/-- No device transmits on the wire that a device is about to transmit on. -/
def freeEnd (call : Connect H S L) : Prop :=
  let wire := (connectEthernet call.eLink call.flipWires).txInterface
  (∀ host, (cab.hosts host).map Interface.txInterface ≠ some wire) ∧
    ∀ switch, wire ∉ (cab.switches switch).txInterfaces

instance [Fintype H] [Fintype S] [DecidableEq L] (call : Connect H S L) :
    Decidable (cab.freeEnd call) :=
  inferInstanceAs (Decidable (_ ∧ _))

/-- The interface that a call makes, or changes. -/
def interfaceFor : H ⊕ S → H ⊕ S × ℕ
  | .inl host => .inl host
  | .inr switch => .inr (switch, (cab.switches switch).txInterfaces.length)

end Cabling

/-- Devices that are connected in any order, from none on. -/
def cabling (H S L : Type*) [DecidableEq H] [DecidableEq S] :
    ScheduledSystem (Cabling H S L) (Connect H S L) where
  init := ⟨fun _ ↦ none, fun _ ↦ ⟨[], []⟩⟩
  step cab call := some (cab.connect call)

/-! ### The two wires of an interface -/

@[simp] theorem EthernetWire.other_other (wire : EthernetWire L) : wire.other.other = wire := by
  unfold other
  rw [Bool.not_not]

theorem EthernetWire.other_injective : Function.Injective (other : EthernetWire L → _) :=
  Function.LeftInverse.injective other_other

theorem rxInterface_connectEthernet (eLink : L) (flipWires : Bool) :
    (connectEthernet eLink flipWires).rxInterface =
      (connectEthernet eLink flipWires).txInterface.other := by
  cases flipWires
  · rfl
  · rfl

/-- Every interface has the two wires of a link. -/
structure Cabling.Paired (cab : Cabling H S L) : Prop where
  hosts : ∀ host, ∀ interface ∈ cab.hosts host,
    interface.rxInterface = interface.txInterface.other
  switches : ∀ switch, (cab.switches switch).rxInterfaces =
    (cab.switches switch).txInterfaces.map EthernetWire.other

theorem Cabling.Paired.rx_eq {cab : Cabling H S L} (h : cab.Paired) (interface : H ⊕ S × ℕ) :
    cab.rx interface = (cab.tx interface).map EthernetWire.other := by
  cases interface with
  | inl host =>
    unfold rx tx
    rw [Option.map_map]
    exact Option.map_congr fun connected hconnected ↦ h.hosts host connected hconnected
  | inr numbered =>
    simp only [rx, tx, h.switches, List.getElem?_map]

/-- One wire is never transmitted on by two interfaces. -/
def Cabling.Exclusive (cab : Cabling H S L) : Prop :=
  ∀ interface other wire, cab.tx interface = some wire → cab.tx other = some wire →
    interface = other

section Connect

variable [DecidableEq H] [DecidableEq S] {cab : Cabling H S L} {call : Connect H S L}

theorem Cabling.Paired.connect (h : cab.Paired) : (cab.connect call).Paired := by
  obtain ⟨device, eLink, flipWires⟩ := call
  cases device with
  | inl host =>
    refine ⟨fun other interface hinterface ↦ ?_, h.switches⟩
    simp only [Cabling.connect] at hinterface
    rcases eq_or_ne other host with rfl | hother
    · rw [Function.update_self] at hinterface
      obtain rfl := Option.some.inj hinterface
      exact rxInterface_connectEthernet eLink flipWires
    · rw [Function.update_of_ne hother] at hinterface
      exact h.hosts other interface hinterface
  | inr switch =>
    refine ⟨h.hosts, fun other ↦ ?_⟩
    unfold Cabling.connect
    rcases eq_or_ne other switch with rfl | hother
    · simp only [Function.update_self, h.switches, List.map_append, List.map_cons, List.map_nil,
        rxInterface_connectEthernet]
    · simp only [Function.update_of_ne hother]
      exact h.switches other

/-- What `push_back` does to the items. -/
theorem getElem?_concat {α : Type*} (items : List α) (last : α) (i : ℕ) :
    (items ++ [last])[i]? = if i = items.length then some last else items[i]? := by
  split_ifs with hi
  · rw [hi, List.getElem?_concat_length]
  · rcases Nat.lt_or_gt_of_ne hi with hless | hmore
    · exact List.getElem?_append_left hless
    · rw [List.getElem?_eq_none (by rw [List.length_append, List.length_singleton]; omega),
        List.getElem?_eq_none (by omega)]

/-- A call changes one interface. -/
theorem tx_connect (interface : H ⊕ S × ℕ) :
    (cab.connect call).tx interface =
      if interface = cab.interfaceFor call.device then
        some (connectEthernet call.eLink call.flipWires).txInterface
      else cab.tx interface := by
  obtain ⟨device, eLink, flipWires⟩ := call
  unfold Cabling.connect Cabling.interfaceFor
  cases device with
  | inl host =>
    cases interface with
    | inl other =>
      rcases eq_or_ne other host with rfl | hother
      · simp [Cabling.tx]
      · simp [Cabling.tx, hother]
    | inr numbered => simp [Cabling.tx]
  | inr switch =>
    cases interface with
    | inl other => simp [Cabling.tx]
    | inr numbered =>
      obtain ⟨other, ifId⟩ := numbered
      rcases eq_or_ne other switch with rfl | hother
      · simp [Cabling.tx, getElem?_concat]
      · simp [Cabling.tx, hother]

omit [DecidableEq H] [DecidableEq S] in
theorem Cabling.freeEnd.tx_ne (h : cab.freeEnd call) (interface : H ⊕ S × ℕ) :
    cab.tx interface ≠ some (connectEthernet call.eLink call.flipWires).txInterface := by
  cases interface with
  | inl host => exact h.1 host
  | inr numbered =>
    intro htx
    exact h.2 numbered.1 (List.mem_of_getElem? htx)

theorem Cabling.Exclusive.connect (h : cab.Exclusive) (hfree : cab.freeEnd call) :
    (cab.connect call).Exclusive := by
  intro interface other wire hinterface hother
  rw [tx_connect] at hinterface hother
  split_ifs at hinterface hother with hnew hsame hsame
  · rw [hnew, hsame]
  · exact absurd (hother.trans hinterface.symm) (hfree.tx_ne other)
  · exact absurd (hinterface.trans hother.symm) (hfree.tx_ne interface)
  · exact h interface other wire hinterface hother

theorem paired_of_reachable {guard : Cabling H S L → Connect H S L → Prop}
    (h : (cabling H S L).Reachable guard cab) : cab.Paired := by
  refine h.invariant (fun before call after hbefore _ hstep ↦ ?_) ?_
  · obtain rfl := Option.some.inj hstep
    exact hbefore.connect
  · constructor
    · intro host interface hinterface
      cases hinterface
    · intro switch
      rfl

theorem exclusive_of_reachable (h : (cabling H S L).Reachable Cabling.freeEnd cab) :
    cab.Exclusive := by
  refine h.invariant (fun before call after hbefore hfree hstep ↦ ?_) ?_
  · obtain rfl := Option.some.inj hstep
    exact hbefore.connect hfree
  · intro interface other wire hinterface
    cases interface with
    | inl host => cases hinterface
    | inr numbered => cases hinterface

end Connect

/-! ### The network that the cables make -/

/-- An interface as the source has it. -/
def Port.numbered {interfaces : S → ℕ} : Port H interfaces → H ⊕ S × ℕ
  | .inl host => .inl host
  | .inr ⟨switch, ifId⟩ => .inr (switch, ifId)

theorem Port.numbered_injective {interfaces : S → ℕ} :
    Function.Injective (Port.numbered : Port H interfaces → _) := by
  intro port other h
  rcases port with host | ⟨switch, ifId⟩ <;> rcases other with host' | ⟨switch', ifId'⟩
  · exact congrArg Sum.inl (Sum.inl.inj h)
  · cases h
  · cases h
  · obtain ⟨rfl, hifId⟩ := Prod.mk.inj (Sum.inr.inj h)
    rw [Fin.ext hifId]

namespace Cabling

variable (cab : Cabling H S L)

/-- How many interfaces a switch has. -/
def interfaces (switch : S) : ℕ := (cab.switches switch).txInterfaces.length

/-- What the one interface transmits the other receives. -/
def Hears {interfaces : S → ℕ} (port other : Port H interfaces) : Prop :=
  cab.rx other.numbered = cab.tx port.numbered

instance {interfaces : S → ℕ} [DecidableEq L] (port other : Port H interfaces) :
    Decidable (cab.Hears port other) :=
  inferInstanceAs (Decidable (_ = _))

/-- What the interface transmits a device receives. -/
def HeardAt (port : Port H cab.interfaces) (device : H ⊕ S) : Prop :=
  ∃ other : Port H cab.interfaces, other.device = device ∧ cab.Hears port other

instance [Fintype H] [Fintype S] [DecidableEq H] [DecidableEq S] [DecidableEq L]
    (port : Port H cab.interfaces) (device : H ⊕ S) : Decidable (cab.HeardAt port device) :=
  inferInstanceAs (Decidable (∃ other : Port H cab.interfaces,
    other.device = device ∧ cab.Hears port other))

/-- Two devices are adjacent when one hears an interface of the other. -/
def graph : SimpleGraph (H ⊕ S) :=
  SimpleGraph.fromRel fun first second ↦
    ∃ port : Port H cab.interfaces, port.device = first ∧ cab.HeardAt port second

/-- Every host is connected, every interface is heard by one of another device, no two links join
the same two devices, and the devices form a tree. -/
structure LoopFree : Prop where
  connected : ∀ host, (cab.hosts host).isSome
  heard : ∀ port : Port H cab.interfaces, ∃ other, cab.Hears port other
  otherDevice : ∀ port : Port H cab.interfaces, ¬ cab.HeardAt port port.device
  oneLink : ∀ port other : Port H cab.interfaces, port.device = other.device →
    ∀ device, cab.HeardAt port device → cab.HeardAt other device → port = other
  isTree : cab.graph.IsTree

end Cabling

variable {cab : Cabling H S L}

theorem Cabling.LoopFree.exists_tx (h : cab.LoopFree) (port : Port H cab.interfaces) :
    ∃ wire, cab.tx port.numbered = some wire := by
  rcases port with host | ⟨switch, ifId⟩
  · obtain ⟨interface, hinterface⟩ := Option.isSome_iff_exists.mp (h.connected host)
    exact ⟨interface.txInterface, congrArg (Option.map _) hinterface⟩
  · exact ⟨_, List.getElem?_eq_getElem ifId.isLt⟩

/-- An interface hears those that hear it. -/
theorem Cabling.Paired.hears_symm (h : cab.Paired) {interfaces : S → ℕ}
    {port other : Port H interfaces} (hhears : cab.Hears port other) : cab.Hears other port := by
  unfold Hears at hhears ⊢
  rw [h.rx_eq, ← hhears, h.rx_eq, Option.map_map]
  have hid : (EthernetWire.other ∘ EthernetWire.other : EthernetWire L → _) = id := by
    ext1 wire
    exact wire.other_other
  rw [hid, Option.map_id_fun, id]

/-- An interface is heard by no other than one. -/
theorem Cabling.LoopFree.eq_of_hears (h : cab.LoopFree) (hpaired : cab.Paired)
    (hexclusive : cab.Exclusive) {port other other' : Port H cab.interfaces}
    (hother : cab.Hears port other) (hother' : cab.Hears port other') : other = other' := by
  obtain ⟨wire, hwire⟩ := h.exists_tx other
  have hsame : cab.tx other.numbered = cab.tx other'.numbered := by
    have hrx : cab.rx other.numbered = cab.rx other'.numbered := hother.trans hother'.symm
    rw [hpaired.rx_eq, hpaired.rx_eq] at hrx
    exact Option.map_injective EthernetWire.other_injective hrx
  exact Port.numbered_injective (hexclusive _ _ wire hwire (hsame ▸ hwire))

/-- However the devices have been connected, if no end of a link was used twice and there is no
loop, they are a network in which an interface is heard by its peer and by no other. -/
theorem topology_of_cabling [DecidableEq H] [DecidableEq S] {mac : H → Mac}
    (h : (cabling H S L).Reachable Cabling.freeEnd cab) (hloopFree : cab.LoopFree)
    (hlength : ∀ host, (mac host).length = 6) (hinjective : Function.Injective mac)
    (hbroadcast : ∀ host, isBroadcast (mac host) = false) :
    ∃ net : Topology H S, net.mac = mac ∧ net.interfaces = cab.interfaces ∧
      ∀ port other : Port H net.interfaces, cab.Hears port other ↔ other = net.peer port := by
  have hpaired := paired_of_reachable h
  choose peer hpeer using hloopFree.heard
  have hiff (port other : Port H cab.interfaces) : cab.Hears port other ↔ other = peer port := by
    constructor
    · intro hhears
      exact hloopFree.eq_of_hears hpaired (exclusive_of_reachable h) hhears (hpeer port)
    · rintro rfl
      exact hpeer port
  have hgraph : linkGraph peer = cab.graph := by
    unfold linkGraph Cabling.graph
    congr 1
    ext first second
    constructor
    · rintro ⟨port, hfirst, hsecond⟩
      exact ⟨port, hfirst, peer port, hsecond, hpeer port⟩
    · rintro ⟨port, hfirst, other, hsecond, hhears⟩
      obtain rfl := (hiff port other).mp hhears
      exact ⟨port, hfirst, hsecond⟩
  exact ⟨{
    interfaces := cab.interfaces
    mac
    peer
    peer_peer port := ((hiff _ _).mp (hpaired.hears_symm (hpeer port))).symm
    device_peer_ne port hdevice := hloopFree.otherDevice port ⟨peer port, hdevice, hpeer port⟩
    eq_of_device_eq port other hdevice hpeers :=
      hloopFree.oneLink port other hdevice _ ⟨peer port, hpeers, hpeer port⟩
        ⟨peer other, rfl, hpeer other⟩
    isTree := hgraph ▸ hloopFree.isTree
    length_mac := hlength
    mac_injective := hinjective
    not_broadcast := hbroadcast }, rfl, rfl, hiff⟩

/-- Two hosts and the gateway on one switch, as in `test.cpp`. -/
theorem topology_of_cabling_witness :
    ∃ h : ((cabling (Fin 3) Unit (Fin 3)).run Cabling.freeEnd (cabling (Fin 3) Unit (Fin 3)).init
        [⟨.inl 0, 0, false⟩, ⟨.inr (), 0, true⟩, ⟨.inl 1, 1, false⟩, ⟨.inr (), 1, true⟩,
          ⟨.inl 2, 2, false⟩, ⟨.inr (), 2, true⟩]).isSome,
      ∃ net : Topology (Fin 3) Unit,
        net.mac = (fun host ↦ createUniformMac (![0x11, 0x22, 0x33] host)) ∧
        net.interfaces = (Option.get _ h).interfaces ∧
        ∀ port other : Port (Fin 3) net.interfaces,
          (Option.get _ h).Hears port other ↔ other = net.peer port := by
  refine ⟨by decide +kernel, topology_of_cabling (ScheduledSystem.reachable_of_isSome_run _)
    ⟨by decide +kernel, by decide +kernel, by decide +kernel, by decide +kernel, ?_⟩ (by decide)
    (by decide) (by decide)⟩
  refine isTree_of_parent (.inr ()) (fun _ ↦ .inr ()) (Sum.elim (fun _ ↦ 1) fun _ ↦ 0) ?_ ?_
  · simp only [Cabling.graph, SimpleGraph.fromRel_adj]
    decide +kernel
  · decide

end NetworkSimulation.Switching
