import NetworkSimulation.Switching.OneSwitch

/-!
# Frames sent back where they came from

`Switch::broadcast` leaves out the interface found for the source of the frame. `Switch::unicast`
sends on the interface found for the destination, whatever the frame came in on; where several
addresses are behind one interface, as behind another switch, that may be the interface the frame
came in on. And a frame from the broadcast address has no interface found for its source, so that
its flooding leaves none out.

`notSentBack_iff` says that these are the only ways: frames that come in on the interfaces that
their sources are fixed to are never sent back in exactly the runs that avoid them.
-/

set_option autoImplicit false
set_option relaxedAutoImplicit false

namespace NetworkSimulation.Switching

open Stack Library

variable {interfaces : ℕ}

/-- Frames come in on the interface that their source, unless it is the broadcast address, came in
on before. -/
def FixedSource (s : SwitchState interfaces) : SwitchEvent interfaces → Prop
  | .processFrame frame inIf => isBroadcast frame.sourceMac = false →
    ∀ earlier ∈ s.received,
      compareMacs earlier.frame.sourceMac frame.sourceMac = true → earlier.inIf = inIf
  | .sender => True

instance (s : SwitchState interfaces) : ∀ event, Decidable (FixedSource s event)
  | .processFrame frame inIf => inferInstanceAs (Decidable (isBroadcast frame.sourceMac = false →
    ∀ earlier ∈ s.received,
      compareMacs earlier.frame.sourceMac frame.sourceMac = true → earlier.inIf = inIf))
  | .sender => .isTrue trivial

/-- The frame is not for an address that was seen as a source on the interface that the frame came
in on; and if it comes from the broadcast address, it is for one that was seen. -/
def LeavesElsewhere (received : List (Reception interfaces)) (reception : Reception interfaces) :
    Prop :=
  (isBroadcast reception.frame.destinationMac = false → ∀ earlier ∈ received,
    compareMacs reception.frame.destinationMac earlier.frame.sourceMac = true →
      earlier.inIf ≠ reception.inIf) ∧
  (isBroadcast reception.frame.sourceMac = true →
    isBroadcast reception.frame.destinationMac = false ∧ ∃ earlier ∈ received,
      compareMacs reception.frame.destinationMac earlier.frame.sourceMac = true)

instance (received : List (Reception interfaces)) (reception : Reception interfaces) :
    Decidable (LeavesElsewhere received reception) := inferInstanceAs (Decidable (_ ∧ _))

/-- The sender takes only frames that leave by another interface. -/
def ForwardsAway (s : SwitchState interfaces) : SwitchEvent interfaces → Prop
  | .processFrame _ _ => True
  | .sender => ∀ reception ∈ s.frameQueue.head?, LeavesElsewhere s.received reception

instance (s : SwitchState interfaces) : ∀ event, Decidable (ForwardsAway s event)
  | .processFrame _ _ => .isTrue trivial
  | .sender => inferInstanceAs
    (Decidable (∀ reception ∈ s.frameQueue.head?, LeavesElsewhere s.received reception))

/-- No frame, and no copy of one, was transmitted on the interface it came in on. -/
def NotSentBack (s : SwitchState interfaces) : Prop :=
  ∀ forwarding ∈ s.forwarded, forwarding.reception.inIf ∉ forwarding.transmittedOn

instance (s : SwitchState interfaces) : Decidable (NotSentBack s) :=
  inferInstanceAs (Decidable (∀ forwarding ∈ s.forwarded,
    forwarding.reception.inIf ∉ forwarding.transmittedOn))

/-- What the guard keeps. -/
structure Fixed (s : SwitchState interfaces) : Prop where
  recorded : Recorded s
  interfaces : FixedInterfaces s.received

theorem fixed_init : Fixed (oneSwitch interfaces).init :=
  ⟨recorded_init, fun _ h ↦ absurd h List.not_mem_nil⟩

theorem Fixed.step {s t : SwitchState interfaces} (h : Fixed s) {event : SwitchEvent interfaces}
    (hsource : FixedSource s event) (hstep : s.step event = some t) : Fixed t := by
  refine ⟨h.recorded.step hstep, ?_⟩
  cases event with
  | processFrame frame inIf =>
    obtain rfl := Option.some.inj hstep
    intro first hfirst second hsecond hbroadcast hcompare
    rcases List.mem_append.mp hfirst with hfirst | hfirst <;>
      rcases List.mem_append.mp hsecond with hsecond | hsecond
    · exact h.interfaces first hfirst second hsecond hbroadcast hcompare
    · cases List.mem_singleton.mp hsecond
      exact hsource ((isBroadcast_eq_of_compareMacs hcompare).symm.trans hbroadcast) first hfirst
        hcompare
    · cases List.mem_singleton.mp hfirst
      rw [compareMacs_comm] at hcompare
      exact (hsource hbroadcast second hsecond hcompare).symm
    · rw [List.mem_singleton.mp hfirst, List.mem_singleton.mp hsecond]
  | sender =>
    obtain ⟨reception, rest, -, rfl⟩ := SwitchState.sender_eq_some hstep
    exact h.interfaces

section Leaves

variable {received : List (Reception interfaces)} {reception : Reception interfaces}

/-- A frame for an address that was seen as a source: unicast. -/
theorem not_mem_interfacesFor_of_known (hfixed : FixedInterfaces received)
    (hdestination : isBroadcast reception.frame.destinationMac = false)
    {earlier : Reception interfaces} (hearlier : earlier ∈ received)
    (hcompare : compareMacs reception.frame.destinationMac earlier.frame.sourceMac = true) :
    reception.inIf ∉ interfacesFor (learnt received) reception.frame ↔
      LeavesElsewhere received reception := by
  rw [interfacesFor, learnt_eq_some hfixed hearlier hdestination hcompare, List.mem_singleton]
  constructor
  · intro hother
    refine ⟨fun _ other hmem hsame heq ↦ hother ?_, fun _ ↦ ⟨hdestination, earlier, hearlier,
      hcompare⟩⟩
    rw [← heq]
    have hfound := (learnt_eq_some hfixed hmem hdestination hsame).symm.trans
      (learnt_eq_some hfixed hearlier hdestination hcompare)
    exact Option.some.inj hfound
  · exact fun hleaves heq ↦ hleaves.1 hdestination earlier hearlier hcompare heq.symm

/-- A frame for an address that was not seen: flooding, which leaves out the interface of the
source. -/
theorem not_mem_interfacesFor_of_unknown (hfixed : FixedInterfaces received)
    (hreception : reception ∈ received)
    (hunknown : ¬ (isBroadcast reception.frame.destinationMac = false ∧ ∃ earlier ∈ received,
      compareMacs reception.frame.destinationMac earlier.frame.sourceMac = true)) :
    reception.inIf ∉ interfacesFor (learnt received) reception.frame ↔
      LeavesElsewhere received reception := by
  have hnone : learnt received reception.frame.destinationMac = none := by
    by_cases hdestination : isBroadcast reception.frame.destinationMac = false
    · refine learnt_eq_none fun earlier hearlier ↦ Bool.eq_false_iff.mpr fun hcompare ↦ ?_
      exact hunknown ⟨hdestination, earlier, hearlier, hcompare⟩
    · rw [learnt, if_neg hdestination]
  rw [interfacesFor, hnone]
  simp only [List.mem_filter, List.mem_finRange, true_and, decide_eq_true_eq, not_not]
  by_cases hsource : isBroadcast reception.frame.sourceMac = false
  · refine iff_of_true (learnt_eq_some hfixed hreception hsource (compareMacs_self _)) ⟨?_, ?_⟩
    · intro hdestination earlier hearlier hcompare
      exact absurd ⟨hdestination, earlier, hearlier, hcompare⟩ hunknown
    · intro hbroadcast
      rw [hsource] at hbroadcast
      cases hbroadcast
  · refine iff_of_false ?_ fun hleaves ↦ hunknown (hleaves.2 (Bool.eq_true_of_not_eq_false hsource))
    rw [learnt, if_neg hsource]
    exact Option.some_ne_none _ ∘ Eq.symm

theorem not_mem_interfacesFor_iff (hfixed : FixedInterfaces received)
    (hreception : reception ∈ received) :
    reception.inIf ∉ interfacesFor (learnt received) reception.frame ↔
      LeavesElsewhere received reception := by
  by_cases hknown : isBroadcast reception.frame.destinationMac = false ∧ ∃ earlier ∈ received,
      compareMacs reception.frame.destinationMac earlier.frame.sourceMac = true
  · obtain ⟨hdestination, earlier, hearlier, hcompare⟩ := hknown
    exact not_mem_interfacesFor_of_known hfixed hdestination hearlier hcompare
  · exact not_mem_interfacesFor_of_unknown hfixed hreception hknown

end Leaves

/-- A step keeps frames from being sent back exactly when the sender takes one that leaves by
another interface. -/
theorem notSentBack_step_iff {s t : SwitchState interfaces} (h : Fixed s)
    {event : SwitchEvent interfaces} (hstep : s.step event = some t) :
    NotSentBack t ↔ NotSentBack s ∧ ForwardsAway s event := by
  cases event with
  | processFrame frame inIf =>
    obtain rfl := Option.some.inj hstep
    exact (and_iff_left trivial).symm
  | sender =>
    obtain ⟨reception, rest, hqueue, rfl⟩ := SwitchState.sender_eq_some hstep
    have hreception : reception ∈ s.received :=
      h.recorded.queued reception (by rw [hqueue]; exact List.mem_cons_self ..)
    rw [NotSentBack, List.forall_mem_append, List.forall_mem_singleton, ForwardsAway, hqueue,
      h.recorded.lookup, not_mem_interfacesFor_iff h.interfaces hreception]
    simp only [List.head?_cons, Option.mem_some_iff, forall_eq']
    rfl

/-- With sources fixed to interfaces, no frame is sent back where it came from exactly when the
sender only takes frames that leave by another interface. -/
theorem notSentBack_iff {s : SwitchState interfaces} {schedule : List (SwitchEvent interfaces)}
    (h : (oneSwitch interfaces).run FixedSource (oneSwitch interfaces).init schedule = some s) :
    NotSentBack s ↔
      (oneSwitch interfaces).run ForwardsAway (oneSwitch interfaces).init schedule = some s := by
  have hstep (u : SwitchState interfaces) (event : SwitchEvent interfaces)
      (v : SwitchState interfaces) (hu : Fixed u) (hsource : FixedSource u event)
      (hnext : (oneSwitch interfaces).step u event = some v) :
      Fixed v ∧ (NotSentBack v ↔ NotSentBack u ∧ ForwardsAway u event) :=
    ⟨hu.step hsource hnext, notSentBack_step_iff hu hnext⟩
  have hinit : NotSentBack (oneSwitch interfaces).init := List.forall_mem_nil _
  rw [ScheduledSystem.run_iff_of_step hstep fixed_init h, and_iff_right hinit]

theorem notSentBack_witness :
    ∃ h : ((oneSwitch 3).run FixedSource (oneSwitch 3).init answeredSchedule).isSome,
      NotSentBack (Option.get _ h) ↔
        (oneSwitch 3).run ForwardsAway (oneSwitch 3).init answeredSchedule =
          some (Option.get _ h) :=
  ⟨by decide, notSentBack_iff (Option.some_get _).symm⟩

/-- Two addresses behind one interface, as behind another switch that has not seen the first one
when it forwards the frame of the second. -/
def sharedSchedule : List (SwitchEvent 3) :=
  [.processFrame (emptyFrame 1 2) ⟨2, by decide⟩, .sender,
    .processFrame (emptyFrame 2 1) ⟨2, by decide⟩, .sender]

/-- The second frame is sent back where it came from. -/
theorem not_notSentBack :
    ¬ ∀ s, (oneSwitch 3).Reachable FixedSource s → NotSentBack s := by
  intro hnever
  obtain ⟨hrun, hback⟩ : ∃ hrun : ((oneSwitch 3).run FixedSource (oneSwitch 3).init
      sharedSchedule).isSome, ¬ NotSentBack (Option.get _ hrun) := ⟨by decide, by decide⟩
  exact hback (hnever _ (ScheduledSystem.reachable_of_isSome_run hrun))

end NetworkSimulation.Switching
