import NetworkSimulation.Links.WorkQueue
import NetworkSimulation.Switching.Network

/-!
# One switch

The receiver threads of a switch call `process_frame` for what arrives on their interfaces, and its
sender takes frames from the queue and forwards them, in any order of these steps. The table grows
with what is received, and a look-up gives the interface on which the first frame with that source
came in: the table is a function of the history (`Recorded.lookup`). The sender looks a frame up by
the table it finds when it takes the frame, which may have grown since the frame was received.

The interface on which a queued frame came in, what was received and where frames were forwarded to
are recorded beside the state; the program reads none of the three.

The sender chooses interfaces as that of a switch in a network does
(`transmissions_eq_map_interfacesFor`).
-/

set_option autoImplicit false
set_option relaxedAutoImplicit false

namespace NetworkSimulation.Switching

open Stack Library

variable {interfaces : ℕ}

/-- A frame and the interface it came in on. -/
structure Reception (interfaces : ℕ) where
  frame : MPDU
  inIf : Fin interfaces
  deriving DecidableEq

/-- A frame that the sender took from the queue: what had been received by then, and the interfaces
on which the frame or a copy of it was transmitted, in order. -/
structure Forwarding (interfaces : ℕ) where
  reception : Reception interfaces
  receivedBefore : List (Reception interfaces)
  transmittedOn : List (Fin interfaces)
  deriving DecidableEq

/-- A switch, with the record of what it received and forwarded. -/
structure SwitchState (interfaces : ℕ) where
  switchTable : SwitchTable interfaces
  frameQueue : List (Reception interfaces)
  received : List (Reception interfaces)
  forwarded : List (Forwarding interfaces)

/-- Where `Switch::sender` transmits a frame: on the interface found for its destination, or on all
but the one found for its source. -/
def interfacesFor (lookup : Mac → Option (Fin interfaces)) (frame : MPDU) : List (Fin interfaces) :=
  match lookup frame.destinationMac with
  | some ifId => [ifId]
  | none => (List.finRange interfaces).filter fun i ↦ lookup frame.sourceMac ≠ some i

/-- The sender of a switch in a network transmits on the same interfaces. -/
theorem transmissions_eq_map_interfacesFor {H S : Type*} {net : Topology H S} (switch : S)
    (switchTable : SwitchTable (net.interfaces switch)) (copy : Copy) :
    transmissions switch switchTable copy =
      (interfacesFor (getTableInterfaceNumber switchTable) copy.frame).map
        (unicast switch copy) := by
  rw [transmissions, interfacesFor]
  cases getTableInterfaceNumber switchTable copy.frame.destinationMac with
  | none => rfl
  | some ifId => rfl

inductive SwitchEvent (interfaces : ℕ)
  | processFrame (frame : MPDU) (inIf : Fin interfaces)
  | sender
  deriving DecidableEq

namespace SwitchState

/-- `Switch::process_frame`. A full queue drops the frame. -/
def processFrame (s : SwitchState interfaces) (frame : MPDU) (inIf : Fin interfaces) :
    SwitchState interfaces :=
  { s with
    switchTable := learn s.switchTable frame.sourceMac inIf
    frameQueue :=
      if Links.MAX_QUEUE_LENGTH ≤ s.frameQueue.length then s.frameQueue
      else s.frameQueue ++ [⟨frame, inIf⟩]
    received := s.received ++ [⟨frame, inIf⟩] }

/-- A round of `Switch::sender` with a frame in the queue. -/
def sender (s : SwitchState interfaces) : Option (SwitchState interfaces) :=
  match s.frameQueue with
  | [] => none
  | reception :: rest =>
    some
      { s with
        frameQueue := rest
        forwarded := s.forwarded ++
          [{ reception
             receivedBefore := s.received
             transmittedOn :=
              interfacesFor (getTableInterfaceNumber s.switchTable) reception.frame }] }

/-- What a round of the sender is. -/
theorem sender_eq_some {s t : SwitchState interfaces} (h : s.sender = some t) :
    ∃ reception rest, s.frameQueue = reception :: rest ∧
      t = { s with
        frameQueue := rest
        forwarded := s.forwarded ++
          [⟨reception, s.received,
            interfacesFor (getTableInterfaceNumber s.switchTable) reception.frame⟩] } := by
  rw [sender] at h
  cases hqueue : s.frameQueue with
  | nil =>
    rw [hqueue] at h
    cases h
  | cons reception rest =>
    rw [hqueue] at h
    exact ⟨reception, rest, rfl, (Option.some.inj h).symm⟩

def step (s : SwitchState interfaces) : SwitchEvent interfaces → Option (SwitchState interfaces)
  | .processFrame frame inIf => some (s.processFrame frame inIf)
  | .sender => s.sender

end SwitchState

/-- A switch with an empty table. -/
def oneSwitch (interfaces : ℕ) :
    ScheduledSystem (SwitchState interfaces) (SwitchEvent interfaces) where
  init := ⟨[], [], [], []⟩
  step := SwitchState.step

/-! ### The history of a switch -/

/-- The interface on which the first frame with this source came in. -/
def firstInterface (received : List (Reception interfaces)) (mac : Mac) :
    Option (Fin interfaces) :=
  (received.find? fun reception ↦ compareMacs mac reception.frame.sourceMac).map Reception.inIf

/-- What a look-up gives after these receptions. -/
def learnt (received : List (Reception interfaces)) (mac : Mac) : Option (Fin interfaces) :=
  if isBroadcast mac = false then firstInterface received mac else none

theorem learnt_append (received : List (Reception interfaces)) (frame : MPDU)
    (inIf : Fin interfaces) (mac : Mac) :
    learnt (received ++ [⟨frame, inIf⟩]) mac =
      (learnt received mac).or
        (if isBroadcast mac = false ∧ compareMacs mac frame.sourceMac = true then some inIf
          else none) := by
  rw [learnt, learnt, firstInterface, firstInterface, List.find?_append, Option.map_or]
  by_cases hmac : isBroadcast mac = false
  · rw [if_pos hmac, if_pos hmac]
    congr 1
    have hnew : [(⟨frame, inIf⟩ : Reception interfaces)].find? (fun reception ↦
        compareMacs mac reception.frame.sourceMac) =
          if compareMacs mac frame.sourceMac then some ⟨frame, inIf⟩ else none :=
      List.find?_singleton
    rw [hnew]
    by_cases hcompare : compareMacs mac frame.sourceMac = true
    · rw [if_pos hcompare, if_pos ⟨hmac, hcompare⟩, Option.map_some]
    · rw [if_neg hcompare, if_neg fun h ↦ hcompare h.2, Option.map_none]
  · rw [if_neg hmac, if_neg hmac, if_neg fun h ↦ hmac h.1, Option.or_none]

/-- The table is what was learnt from the history, and so it was for every frame when the sender
took it. -/
structure Recorded (s : SwitchState interfaces) : Prop where
  interfaceNumbers : (s.switchTable.map TableEntry.interfaceNumber).Nodup
  lookup : getTableInterfaceNumber s.switchTable = learnt s.received
  queued : ∀ reception ∈ s.frameQueue, reception ∈ s.received
  forwarded : ∀ forwarding ∈ s.forwarded, forwarding.reception ∈ forwarding.receivedBefore ∧
    forwarding.receivedBefore ⊆ s.received ∧
      forwarding.transmittedOn =
        interfacesFor (learnt forwarding.receivedBefore) forwarding.reception.frame

theorem recorded_init : Recorded (oneSwitch interfaces).init where
  interfaceNumbers := List.nodup_nil
  lookup := by
    funext mac
    rw [learnt]
    exact (if_neg fun h ↦ h.1 rfl).trans (ite_self none).symm
  queued := List.forall_mem_nil _
  forwarded := List.forall_mem_nil _

namespace Recorded

variable {s t : SwitchState interfaces}

theorem processFrame (h : Recorded s) (frame : MPDU) (inIf : Fin interfaces) :
    Recorded (s.processFrame frame inIf) where
  interfaceNumbers := nodup_interfaceNumbers_learn _ _ h.interfaceNumbers
  lookup := by
    funext mac
    change getTableInterfaceNumber (learn s.switchTable frame.sourceMac inIf) mac =
      learnt (s.received ++ [⟨frame, inIf⟩]) mac
    rw [getTableInterfaceNumber_learn, learnt_append, h.lookup]
  queued := by
    intro reception hreception
    have hold (hmem : reception ∈ s.frameQueue) : reception ∈ s.received ++ [⟨frame, inIf⟩] :=
      List.mem_append_left _ (h.queued reception hmem)
    change reception ∈ (if _ then _ else _) at hreception
    split_ifs at hreception
    · exact hold hreception
    · rcases List.mem_append.mp hreception with hmem | hnew
      · exact hold hmem
      · exact List.mem_append_right _ hnew
  forwarded := by
    intro forwarding hforwarding
    obtain ⟨hmem, hbefore, hsent⟩ := h.forwarded forwarding hforwarding
    exact ⟨hmem, fun earlier hearlier ↦ List.mem_append_left _ (hbefore hearlier), hsent⟩

theorem sender (h : Recorded s) (hstep : s.sender = some t) : Recorded t := by
  obtain ⟨reception, rest, hqueue, rfl⟩ := SwitchState.sender_eq_some hstep
  have hall := h.queued
  rw [hqueue] at hall
  refine ⟨h.interfaceNumbers, h.lookup, fun later hlater ↦
    hall later (List.mem_cons_of_mem _ hlater), ?_⟩
  refine List.forall_mem_append.mpr ⟨h.forwarded, List.forall_mem_singleton.mpr ?_⟩
  exact ⟨hall reception (List.mem_cons_self ..), List.Subset.refl _, by rw [h.lookup]⟩

theorem step (h : Recorded s) {event : SwitchEvent interfaces} (hstep : s.step event = some t) :
    Recorded t := by
  cases event with
  | processFrame frame inIf =>
    obtain rfl := Option.some.inj hstep
    exact h.processFrame frame inIf
  | sender => exact h.sender hstep

end Recorded

/-! ### Sources that are not broadcast -/

/-- No frame comes from the broadcast address. -/
def ProperSource (_ : SwitchState interfaces) : SwitchEvent interfaces → Prop
  | .processFrame frame _ => isBroadcast frame.sourceMac = false
  | .sender => True

instance (s : SwitchState interfaces) : ∀ event, Decidable (ProperSource s event)
  | .processFrame frame _ => inferInstanceAs (Decidable (isBroadcast frame.sourceMac = false))
  | .sender => .isTrue trivial

/-- Frames with one source, other than the broadcast address, come in on one interface. -/
def FixedInterfaces (received : List (Reception interfaces)) : Prop :=
  ∀ first ∈ received, ∀ second ∈ received, isBroadcast first.frame.sourceMac = false →
    compareMacs first.frame.sourceMac second.frame.sourceMac = true → first.inIf = second.inIf

instance (received : List (Reception interfaces)) : Decidable (FixedInterfaces received) :=
  inferInstanceAs (Decidable (∀ first ∈ received, ∀ second ∈ received, _ → _ → _))

/-- An address that was seen as a source is found on the interface it is fixed to. -/
theorem learnt_eq_some {received : List (Reception interfaces)} {mac : Mac}
    {earlier : Reception interfaces} (hfixed : FixedInterfaces received)
    (hearlier : earlier ∈ received) (hmac : isBroadcast mac = false)
    (hcompare : compareMacs mac earlier.frame.sourceMac = true) :
    learnt received mac = some earlier.inIf := by
  rw [learnt, if_pos hmac, firstInterface]
  cases hfound : received.find? fun reception ↦ compareMacs mac reception.frame.sourceMac with
  | none => exact absurd hcompare (List.find?_eq_none.mp hfound earlier hearlier)
  | some first =>
    have hfirst := List.find?_some hfound
    have hbroadcast : isBroadcast first.frame.sourceMac = false :=
      (isBroadcast_eq_of_compareMacs hfirst).symm.trans hmac
    rw [compareMacs_comm] at hfirst
    rw [Option.map_some, hfixed first (List.mem_of_find?_eq_some hfound) earlier hearlier hbroadcast
      (compareMacs_trans hfirst hcompare)]

/-- An address that was not seen as a source is not found. -/
theorem learnt_eq_none {received : List (Reception interfaces)} {mac : Mac}
    (h : ∀ earlier ∈ received, compareMacs mac earlier.frame.sourceMac = false) :
    learnt received mac = none := by
  have hfound : received.find? (fun reception ↦ compareMacs mac reception.frame.sourceMac) =
      none :=
    List.find?_eq_none.mpr fun earlier hearlier hcompare ↦
      Bool.false_ne_true ((h earlier hearlier).symm.trans hcompare)
  rw [learnt, firstInterface, hfound, Option.map_none, ite_self]

/-- Where no source is the broadcast address, that is not seen either. -/
theorem learnt_eq_firstInterface {received : List (Reception interfaces)}
    (hsources : ∀ reception ∈ received, isBroadcast reception.frame.sourceMac = false)
    (mac : Mac) : learnt received mac = firstInterface received mac := by
  by_cases hmac : isBroadcast mac = false
  · rw [learnt, if_pos hmac]
  · have hfound : received.find? (fun reception ↦ compareMacs mac reception.frame.sourceMac) =
        none :=
      List.find?_eq_none.mpr fun reception hreception hcompare ↦
        hmac ((isBroadcast_eq_of_compareMacs hcompare).trans (hsources reception hreception))
    rw [learnt, if_neg hmac, firstInterface, hfound, Option.map_none]

/-- The frame was transmitted once, on the interface of its destination if that had been seen as a
source, and otherwise once on every interface but the one it came in on. -/
structure Forwarding.Proper (forwarding : Forwarding interfaces) : Prop where
  known : ∀ earlier ∈ forwarding.receivedBefore,
    compareMacs forwarding.reception.frame.destinationMac earlier.frame.sourceMac = true →
      ∀ ifId, forwarding.transmittedOn.count ifId = if ifId = earlier.inIf then 1 else 0
  unknown : (∀ earlier ∈ forwarding.receivedBefore,
    compareMacs forwarding.reception.frame.destinationMac earlier.frame.sourceMac = false) →
      ∀ ifId, forwarding.transmittedOn.count ifId =
        if ifId = forwarding.reception.inIf then 0 else 1

theorem Recorded.proper {s : SwitchState interfaces} (h : Recorded s)
    (hsources : ∀ reception ∈ s.received, isBroadcast reception.frame.sourceMac = false)
    (hfixed : FixedInterfaces s.received) {forwarding : Forwarding interfaces}
    (hforwarding : forwarding ∈ s.forwarded) : forwarding.Proper := by
  obtain ⟨hmem, hbefore, hsent⟩ := h.forwarded forwarding hforwarding
  have hfixedBefore : FixedInterfaces forwarding.receivedBefore :=
    fun first hfirst second hsecond ↦ hfixed first (hbefore hfirst) second (hbefore hsecond)
  constructor
  · intro earlier hearlier hcompare ifId
    have hmac := (isBroadcast_eq_of_compareMacs hcompare).trans
      (hsources earlier (hbefore hearlier))
    rw [hsent, interfacesFor, learnt_eq_some hfixedBefore hearlier hmac hcompare]
    simp only [List.count_singleton, beq_iff_eq, eq_comm (a := ifId)]
  · intro hunseen ifId
    have hsource := learnt_eq_some hfixedBefore hmem (hsources _ (hbefore hmem))
      (compareMacs_self _)
    rw [hsent, interfacesFor, learnt_eq_none hunseen, hsource]
    simp only [ne_eq, Option.some.injEq]
    split_ifs with hin
    · rw [List.count_eq_zero, List.mem_filter, hin]
      exact fun h ↦ absurd rfl (of_decide_eq_true h.2)
    · have hother : decide (¬ forwarding.reception.inIf = ifId) = true :=
        decide_eq_true fun h ↦ hin h.symm
      rw [List.count_filter (p := fun i ↦ decide (¬ forwarding.reception.inIf = i)) hother]
      exact List.count_eq_one_of_mem (List.nodup_finRange _) (List.mem_finRange ifId)

/-! ### The table and the frames -/

/-- What holds of a switch that gets no frames from the broadcast address. -/
structure Addressed (s : SwitchState interfaces) : Prop where
  recorded : Recorded s
  nodup : (addresses s.switchTable).Nodup
  sources : ∀ reception ∈ s.received, isBroadcast reception.frame.sourceMac = false

theorem addressed_init : Addressed (oneSwitch interfaces).init :=
  ⟨recorded_init, List.nodup_nil, List.forall_mem_nil _⟩

theorem Addressed.step {s t : SwitchState interfaces} (h : Addressed s)
    {event : SwitchEvent interfaces} (hproper : ProperSource s event)
    (hstep : s.step event = some t) : Addressed t := by
  refine ⟨h.recorded.step hstep, ?_, ?_⟩
  · cases event with
    | processFrame frame inIf =>
      obtain rfl := Option.some.inj hstep
      refine nodup_addresses_learn inIf h.nodup fun hlisted hnone ↦ ?_
      have hother := (getTableInterfaceNumber_eq_none_iff hproper).mp hnone _ hlisted
      rw [compareMacs_self] at hother
      cases hother
    | sender =>
      obtain ⟨reception, rest, -, rfl⟩ := SwitchState.sender_eq_some hstep
      exact h.nodup
  · cases event with
    | processFrame frame inIf =>
      obtain rfl := Option.some.inj hstep
      exact List.forall_mem_append.mpr ⟨h.sources, List.forall_mem_singleton.mpr hproper⟩
    | sender =>
      obtain ⟨reception, rest, -, rfl⟩ := SwitchState.sender_eq_some hstep
      exact h.sources

/-- Without broadcast sources every interface has at most one entry, every address is listed at most
once, and it is found on the interface on which its first frame came in. If sources are fixed to
interfaces, every frame goes where its destination is, or everywhere else. -/
theorem learned_and_forwarded {s : SwitchState interfaces}
    (h : (oneSwitch interfaces).Reachable ProperSource s) :
    (s.switchTable.map TableEntry.interfaceNumber).Nodup ∧ (addresses s.switchTable).Nodup ∧
      (∀ mac, getTableInterfaceNumber s.switchTable mac = firstInterface s.received mac) ∧
        (FixedInterfaces s.received → ∀ forwarding ∈ s.forwarded, forwarding.Proper) := by
  have haddressed : Addressed s := h.invariant
    (fun _ _ _ hs hproper hstep ↦ hs.step hproper hstep) addressed_init
  have hrecorded := haddressed.recorded
  refine ⟨hrecorded.interfaceNumbers, haddressed.nodup, fun mac ↦ ?_, fun hfixed forwarding ↦
    hrecorded.proper haddressed.sources hfixed⟩
  rw [hrecorded.lookup, learnt_eq_firstInterface haddressed.sources]

/-- An empty frame between two addresses that differ in their last bytes. -/
def emptyFrame (source destination : UInt8) : MPDU where
  sourceMac := [2, 0, 0, 0, 0, source]
  destinationMac := [2, 0, 0, 0, 0, destination]
  SDUType := 0
  SDU := []

/-- A frame that is flooded, and the answer to it, on a switch with three interfaces. -/
def answeredSchedule : List (SwitchEvent 3) :=
  [.processFrame (emptyFrame 1 2) ⟨0, by decide⟩, .sender,
    .processFrame (emptyFrame 2 1) ⟨1, by decide⟩, .sender]

theorem learned_and_forwarded_witness :
    ∃ h : ((oneSwitch 3).run ProperSource (oneSwitch 3).init answeredSchedule).isSome,
      ((Option.get _ h).switchTable.map TableEntry.interfaceNumber).Nodup ∧
        (addresses (Option.get _ h).switchTable).Nodup ∧
          (∀ mac, getTableInterfaceNumber (Option.get _ h).switchTable mac =
            firstInterface (Option.get _ h).received mac) ∧
              ∀ forwarding ∈ (Option.get _ h).forwarded, forwarding.Proper := by
  have hrun : ((oneSwitch 3).run ProperSource (oneSwitch 3).init answeredSchedule).isSome := by
    decide
  have hfixed : FixedInterfaces (Option.get _ hrun).received := by decide +revert
  obtain ⟨hinterfaces, haddresses, hfirst, hforwarded⟩ :=
    learned_and_forwarded (ScheduledSystem.reachable_of_isSome_run hrun)
  exact ⟨hrun, hinterfaces, haddresses, hfirst, hforwarded hfixed⟩

end NetworkSimulation.Switching
