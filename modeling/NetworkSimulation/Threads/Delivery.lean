import NetworkSimulation.Switching.Channels
import NetworkSimulation.Threads.Refinement

/-!
# What the threads deliver

The results on the network of switches, for the threads. A table never names a wrong interface, in
any run (`tables_of_threads`). From one host to another the threads make up a channel that keeps the
order, as long as no switch sends a frame back over the wire it came from (`channels_of_threads`).
-/

set_option autoImplicit false
set_option relaxedAutoImplicit false

namespace NetworkSimulation.Threads

open Stack Library Links Switching

variable {H S : Type*} {σ μ α β : Type*} {net : Topology H S} [DecidableEq H] [DecidableEq S]
  {attached : Attachment H σ μ α β} {lan next : Lan net σ μ} {start : σ}

/-! ### Tables -/

/-- In every run of the threads every entry for a host names the interface on the path to it, and no
table lists a host twice. -/
theorem tables_of_threads (hown : SendsOwn net attached)
    (h : (system net attached start).Reachable anyThread lan) (switch : S) (host : H) :
    (∀ ifId, Lists (lan.switchTables switch) (net.mac host) ifId →
      net.LeadsTo (.inr ⟨switch, ifId⟩) (.inl host)) ∧
    (addresses (lan.switchTables switch)).count (net.mac host) ≤ 1 := by
  have hworld : Learned (lan.world attached.frame) := learned_of_reachable (world_reachable hown h)
  refine ⟨fun ifId hlisted ↦ ?_, List.nodup_iff_count_le_one.mp (hworld.nodup switch) _⟩
  obtain ⟨other, hmac, hleads⟩ := hworld.entries switch _ ifId hlisted
  rwa [net.mac_injective hmac]

/-- Host 1 sends a packet to host 2, whom no switch knows yet. -/
theorem tables_of_threads_witness :
    ∃ h : (readmeLan.run anyThread readmeLan.init
        [.acts (.sends 1 ⟨12, 12, 0, 1, 2, []⟩ [0, 0, 0, 0, 0, 2]), .transmits 1 0,
          .receives (.inr ⟨1, ⟨1, by decide⟩⟩), .queues (.inr ⟨1, ⟨1, by decide⟩⟩),
          .sends 1, .sends 1, .sends 1, .sends 1, .sends 1, .sends 1, .sends 1, .sends 1,
          .receives (.inl 2), .queues (.inl 2), .demuxes (2, ⟨0, 0, 0, 0, 0, []⟩),
          .receives (.inr ⟨0, ⟨1, by decide⟩⟩), .queues (.inr ⟨0, ⟨1, by decide⟩⟩),
          .sends 0, .sends 0, .sends 0, .sends 0, .sends 0, .sends 0,
          .receives (.inl 0), .queues (.inl 0), .demuxes (0, ⟨0, 0, 0, 0, 0, []⟩)]).isSome,
      ∀ (switch : Fin 2) (host : Fin 3),
        (∀ ifId, Lists ((Option.get _ h).switchTables switch) (readmeNetwork.mac host) ifId →
          readmeNetwork.LeadsTo (.inr ⟨switch, ifId⟩) (.inl host)) ∧
        (addresses ((Option.get _ h).switchTables switch)).count (readmeNetwork.mac host) ≤ 1 :=
  ⟨by decide +kernel, tables_of_threads (sendsOwn_hosts fun _ ↦ rfl)
    (ScheduledSystem.reachable_of_isSome_run _)⟩

/-! ### Frames that are sent back -/

/-- The sender of the switch is about to look up a frame that it will send back over the wire it
came from: the frame is for a host that the table lists at the interface of its source. -/
def Lan.SendsBack (attached : Attachment H σ μ α β) (lan : Lan net σ μ) (switch : S) : Prop :=
  ∃ item ∈ (lan.senders switch).ahead,
    let frame := attached.frame item.message
    compareMacs frame.destinationMac frame.sourceMac = false ∧
      getTableInterfaceNumber (lan.switchTables switch) frame.destinationMac ≠ none ∧
        getTableInterfaceNumber (lan.switchTables switch) frame.destinationMac =
          getTableInterfaceNumber (lan.switchTables switch) frame.sourceMac

/-- No switch sends a frame back. -/
def straight (attached : Attachment H σ μ α β) (lan : Lan net σ μ) : Event net α β → Prop
  | .sends switch => ¬ lan.SendsBack attached switch
  | _ => True

instance (lan : Lan net σ μ) (switch : S) : Decidable (lan.SendsBack attached switch) :=
  inferInstanceAs (Decidable (∃ item ∈ (lan.senders switch).ahead, _ ∧ _ ∧ _))

instance (lan : Lan net σ μ) : ∀ event : Event net α β, Decidable (straight attached lan event)
  | .sends switch => inferInstanceAs (Decidable (¬ lan.SendsBack attached switch))
  | .acts _ | .transmits _ _ | .receives _ | .queues _ | .demuxes _ => .isTrue trivial

omit [DecidableEq H] [DecidableEq S] in
/-- The frame that the sender is about to look up is the first in the queue that the network of
switches sees. -/
theorem not_hairpin {switch : S} {item : Item μ} (hstraight : ¬ lan.SendsBack attached switch)
    (hpoint : lan.senders switch = .lookingUp item) :
    ¬ (lan.world attached.frame).Hairpin switch := by
  rintro ⟨copy, hcopy, hback⟩
  have hahead : (lan.senders switch).ahead = [item] := by rw [hpoint]; rfl
  have hfront : (lan.world attached.frame).queues (.frameQueue switch) =
      item.copy attached.frame :: (lan.frameQueues (.inr switch)).map (Item.copy attached.frame) := by
    change ((lan.senders switch).ahead ++ _).map _ = _
    rw [hahead]
    rfl
  rw [hfront, List.head?_cons, Option.mem_some_iff] at hcopy
  subst hcopy
  refine hstraight ⟨item, ?_, hback⟩
  rw [hahead]
  exact List.mem_singleton_self item

omit [DecidableEq H] [DecidableEq S] in
theorem permits_of_straight {event : Event net α β} (hstraight : straight attached lan event) :
    Permits attached lan event noneSentBack where
  send _ _ _ _ _ := trivial
  receive _ _ _ := trivial
  deliver _ _ := trivial
  forward switch item hevent hpoint := by
    subst hevent
    exact not_hairpin hstraight hpoint
  lose _ _ _ _ := trivial

variable [Fintype H] [Fintype S]

/-! ### Nothing left to do -/

/-- No program of a host acts, and no host transmits. -/
def hostsSilent (_ : Lan net σ μ) : Event net α β → Prop
  | .acts _ | .transmits _ _ => False
  | _ => True

/-- Some party takes each frame that a host has queued. -/
def Lan.Ready (attached : Attachment H σ μ α β) (lan : Lan net σ μ) : Prop :=
  ∀ host, ∀ item ∈ lan.frameQueues (.inl host), ∃ receiver, attached.taker receiver = host ∧
    (attached.parties.take receiver lan.core item.message).isSome

/-- No frame is on a wire, in a queue or in the hands of a thread. -/
structure Lan.Clear (lan : Lan net σ μ) : Prop where
  wires : ∀ port, lan.wires port = []
  received : ∀ port, lan.received port = none
  frameQueues : ∀ device, lan.frameQueues device = []
  senders : ∀ switch, (lan.senders switch).held = none

omit [Fintype H] [Fintype S] in
/-- Where no thread can go on, and every queued frame has somebody to take it, the network is
clear. -/
theorem clear_of_quiescent
    (hquiet : (system net attached start).Quiescent hostsSilent lan) (hready : lan.Ready attached) :
    lan.Clear := by
  have hreceived (port : Port H net.interfaces) : lan.received port = none := by
    have hstuck := hquiet (.queues port) trivial
    change lan.queueFrame attached port = none at hstuck
    rw [Lan.queueFrame] at hstuck
    cases hport : lan.received port with
    | none => rfl
    | some held => simp [hport] at hstuck
  have hwires (port : Port H net.interfaces) : lan.wires port = [] := by
    have hstuck := hquiet (.receives (net.peer port)) trivial
    change lan.receive (net.peer port) = none at hstuck
    rw [Lan.receive, hreceived, net.peer_peer, QueueFamily.remove] at hstuck
    cases hport : lan.wires port with
    | nil => rfl
    | cons held rest => simp [hport] at hstuck
  have hsender (switch : S) : lan.senders switch = .idle ∧ lan.frameQueues (.inr switch) = [] := by
    have hstuck := hquiet (.sends switch) trivial
    change lan.sender attached switch = none at hstuck
    rw [Lan.sender] at hstuck
    cases hpoint : lan.senders switch with
    | idle =>
      rw [hpoint, QueueFamily.remove] at hstuck
      cases hqueue : lan.frameQueues (.inr switch) with
      | nil => exact ⟨rfl, rfl⟩
      | cons held rest => simp [hqueue] at hstuck
    | lookingUp held =>
      rw [hpoint] at hstuck
      dsimp only at hstuck
      split at hstuck <;> cases hstuck
    | testing held untested =>
      rw [hpoint] at hstuck
      cases untested with
      | nil => cases hstuck
      | cons ifId untested =>
        dsimp only at hstuck
        split_ifs at hstuck
    | transmitting held ifId untested =>
      rw [hpoint] at hstuck
      cases hstuck
  have hhosts (host : H) : lan.frameQueues (.inl host) = [] := by
    cases hqueue : lan.frameQueues (.inl host) with
    | nil => rfl
    | cons held rest =>
      obtain ⟨receiver, rfl, htake⟩ := hready host held (by rw [hqueue]; exact List.mem_cons_self ..)
      obtain ⟨⟨core, messages⟩, htaken⟩ := Option.isSome_iff_exists.mp htake
      have hstuck := hquiet (.demuxes receiver) trivial
      change lan.demux attached receiver = none at hstuck
      simp [Lan.demux, QueueFamily.remove, hqueue, htaken] at hstuck
  exact ⟨hwires, hreceived, Sum.forall.mpr ⟨hhosts, fun switch ↦ (hsender switch).2⟩,
    fun switch ↦ by rw [(hsender switch).1, SenderPoint.held]⟩

omit [Fintype H] [Fintype S] in
/-- Where no thread can go on, the hosts have transmitted all, and no program of theirs acts. -/
theorem silent_of_quiescent (hquiet : (system net attached start).Quiescent anyThread lan) :
    (∀ host, lan.outgoing host = []) ∧ ∀ action, attached.parties.act action lan.core = none := by
  refine ⟨fun host ↦ ?_, fun action ↦ ?_⟩
  · have hstuck := hquiet (.transmits host 0) trivial
    change lan.sendMPDU attached host 0 = none at hstuck
    rw [Lan.sendMPDU] at hstuck
    cases hfront : lan.outgoing host with
    | nil => rfl
    | cons message rest => simp [hfront] at hstuck
  · have hstuck := hquiet (.acts action) trivial
    change lan.step attached (.acts action) = none at hstuck
    rw [Lan.step] at hstuck
    cases hact : attached.parties.act action lan.core with
    | none => rfl
    | some outcome => simp [hact] at hstuck

omit [DecidableEq H] [DecidableEq S] [Fintype H] [Fintype S] in
theorem Lan.Clear.idle (hclear : lan.Clear) (switch : S) : lan.senders switch = .idle := by
  have hheld := hclear.senders switch
  cases hpoint : lan.senders switch with
  | idle => rfl
  | lookingUp item | testing item untested | transmitting item ifId untested =>
    rw [hpoint] at hheld
    cases hheld

omit [Fintype H] [Fintype S] in
/-- A network that is clear is at rest, if the hosts do nothing. -/
theorem quiescent_of_clear (hclear : lan.Clear) (houtgoing : ∀ host, lan.outgoing host = [])
    (hacts : ∀ action, attached.parties.act action lan.core = none) :
    (system net attached start).Quiescent anyThread lan := by
  intro event _
  change lan.step attached event = none
  cases event with
  | acts action => rw [Lan.step, hacts]
  | transmits host position => rw [Lan.step, Lan.sendMPDU, houtgoing, List.getElem?_nil]
  | receives port => rw [Lan.step, Lan.receive, hclear.received, QueueFamily.remove, hclear.wires]
  | queues port => rw [Lan.step, Lan.queueFrame, hclear.received]
  | demuxes receiver => simp only [Lan.step, Lan.demux, QueueFamily.remove, hclear.frameQueues]
  | sends switch =>
    simp only [Lan.step, Lan.sender, hclear.idle, QueueFamily.remove, hclear.frameQueues]

omit [DecidableEq H] [DecidableEq S] [Fintype H] [Fintype S] in
/-- Nothing is seen of a network that is clear. -/
theorem seen_of_clear (hclear : lan.Clear) (frame : μ → MPDU) (location : Location H net.interfaces) :
    lan.queuesSeen frame location = [] := by
  have harrived (port : Port H net.interfaces) : lan.arrived port = [] := by
    rcases port with host | other
    · rw [Lan.arrived, hclear.frameQueues, hclear.received, List.nil_append, Option.toList_none]
    · rw [Lan.arrived, hclear.received, Option.toList_none]
  cases location with
  | wire port =>
    rw [Lan.queuesSeen, harrived, hclear.wires, List.nil_append, List.nil_append]
    rcases port with host | ⟨switch, ifId⟩
    · rfl
    · rw [Lan.pending, hclear.idle, SenderPoint.pending]
  | frameQueue switch =>
    rw [Lan.queuesSeen, hclear.idle, hclear.frameQueues]
    rfl

omit [DecidableEq H] [DecidableEq S] [Fintype H] [Fintype S] in
theorem onTheWay_of_clear (hclear : lan.Clear) (frame : μ → MPDU)
    (source target : H) : (lan.world frame).onTheWay source target = [] := by
  refine List.filter_eq_nil_iff.mpr fun copy hcopy ↦ ?_
  obtain ⟨location, -, hmem⟩ := List.mem_flatMap.mp hcopy
  change copy ∈ (lan.queuesSeen frame location).map _ at hmem
  rw [seen_of_clear hclear] at hmem
  cases hmem

/-- A guard under which no frame is sent back or lost. -/
def orderly (attached : Attachment H σ μ α β) (lan : Lan net σ μ) (event : Event net α β) : Prop :=
  straight attached lan event ∧ roomy lan event

instance (lan : Lan net σ μ) (event : Event net α β) : Decidable (orderly attached lan event) :=
  inferInstanceAs (Decidable (_ ∧ _))

omit [DecidableEq H] [DecidableEq S] [Fintype H] [Fintype S] in
theorem permits_of_orderly {event : Event net α β} (h : orderly attached lan event) :
    Permits attached lan event withoutHairpins where
  send _ _ _ _ _ := trivial
  receive _ _ _ := trivial
  deliver _ _ := trivial
  forward := (permits_of_straight h.1).forward
  lose hfull := absurd hfull h.2

/-- From one host to another the threads make up a channel that keeps the order. As long as no
switch sends a frame back, what one has processed of the other's frames is, in order and without
repetition, a part of what that one transmitted to it or to all; if nothing overflowed either, it is
the first part, and all of it once no frame is on its way any more. -/
theorem channels_of_threads (hown : SendsOwn net attached) (lan : Lan net σ μ) {source target : H}
    (hne : source ≠ target) :
    let processed := (lan.world attached.frame).deliveredBetween source target
    let transmitted := (lan.world attached.frame).sentBetween source target
    ((system net attached start).Reachable (straight attached) lan →
      processed.Sublist transmitted) ∧
    ((system net attached start).Reachable (orderly attached) lan →
      processed <+: transmitted ∧ (lan.Clear → processed = transmitted)) := by
  refine ⟨fun h ↦ ?_, fun h ↦ ?_⟩
  · have hworld := (refines hown fun _ _ ↦ permits_of_straight).reachable h
    exact (List.sublist_append_left _ _).trans (carried_sublist hne hworld)
  · have hcarried := carried_eq hne ((refines hown fun _ _ ↦ permits_of_orderly).reachable h)
    refine ⟨⟨_, hcarried⟩, fun hclear ↦ ?_⟩
    rw [World.carried, onTheWay_of_clear hclear, List.append_nil] at hcarried
    exact hcarried

/-- Host 1 sends a packet to host 2, and it is flooded until nothing is on its way. -/
theorem channels_of_threads_witness :
    ∃ h : (readmeLan.run (orderly (hostsAttached Arp.threeHosts)) readmeLan.init
        [.acts (.sends 1 ⟨12, 12, 0, 1, 2, []⟩ [0, 0, 0, 0, 0, 2]), .transmits 1 0,
          .receives (.inr ⟨1, ⟨1, by decide⟩⟩), .queues (.inr ⟨1, ⟨1, by decide⟩⟩),
          .sends 1, .sends 1, .sends 1, .sends 1, .sends 1, .sends 1, .sends 1, .sends 1,
          .receives (.inl 2), .queues (.inl 2), .demuxes (2, ⟨0, 0, 0, 0, 0, []⟩),
          .receives (.inr ⟨0, ⟨1, by decide⟩⟩), .queues (.inr ⟨0, ⟨1, by decide⟩⟩),
          .sends 0, .sends 0, .sends 0, .sends 0, .sends 0, .sends 0,
          .receives (.inl 0), .queues (.inl 0), .demuxes (0, ⟨0, 0, 0, 0, 0, []⟩)]).isSome,
      ((Option.get _ h).world Arp.Flight.frame).deliveredBetween 1 2 =
        ((Option.get _ h).world Arp.Flight.frame).sentBetween 1 2 :=
  ⟨by decide +kernel, ((channels_of_threads (sendsOwn_hosts fun _ ↦ rfl) _ (by decide)).2
    (ScheduledSystem.reachable_of_isSome_run _)).2
      ⟨by decide +kernel, by decide +kernel, by decide +kernel, by decide +kernel⟩⟩

end NetworkSimulation.Threads
