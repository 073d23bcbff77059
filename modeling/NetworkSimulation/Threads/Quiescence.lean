import NetworkSimulation.Switching.Quiescence
import NetworkSimulation.Threads.Delivery

/-!
# Every flood dies out in the threads

As long as no program acts and no host transmits, the threads only move what there is. The potential
of the network of switches does not grow, since every step that it sees makes it smaller or leaves
it (`totalPotential_le_of_reachableFrom`). What it does not see goes on only for so long: a frame
has so many steps left on its wire, in its queue and with the sender that holds it (`Lan.residual`),
and the one step that adds to these, the look-up of a destination, is one that the network of
switches sees. The pair of the two is a rank that every step of a thread decreases (`rank_lt`).
-/

set_option autoImplicit false
set_option relaxedAutoImplicit false

namespace NetworkSimulation.Threads

open Stack Library Links Switching

variable {H S : Type*} {σ μ α β : Type*} {net : Topology H S}

/-! ### Steps that the network of switches does not see -/

/-- How many steps the sender has left, and the frames it will transmit after it. -/
def SenderPoint.residual {interfaces : ℕ} : SenderPoint μ interfaces → ℕ
  | .idle | .lookingUp _ => 0
  | .testing _ untested => 5 * untested.length + 1
  | .transmitting _ _ untested => 5 * untested.length + 5

namespace SenderPoint

variable {interfaces : ℕ} (item : Item μ) (ifId : Fin interfaces) (untested : List (Fin interfaces))

@[simp] theorem residual_idle : (idle : SenderPoint μ interfaces).residual = 0 := rfl

@[simp] theorem residual_lookingUp :
    (lookingUp item : SenderPoint μ interfaces).residual = 0 := rfl

@[simp] theorem residual_testing : (testing item untested).residual = 5 * untested.length + 1 := rfl

@[simp] theorem residual_transmitting :
    (transmitting item ifId untested).residual = 5 * untested.length + 5 := rfl

end SenderPoint

/-- How many steps the frame in the hands of a receiver has left. -/
def heldResidual (held : Option (Item μ)) : ℕ := if held.isSome then 2 else 0

/-- How many steps the frames have left before they are looked up or processed: three on a wire, two
with a receiver and one in a queue. -/
def Lan.residual [Fintype H] [Fintype S] (lan : Lan net σ μ) : ℕ :=
  QueueFamily.weight (fun _ _ ↦ 3) lan.wires + ∑ port, heldResidual (lan.received port) +
    QueueFamily.weight (fun _ _ ↦ 1) lan.frameQueues + ∑ switch, (lan.senders switch).residual

/-- Changing one member of a family changes a sum over it by the difference of that member. -/
theorem sum_update_add {ι : Type*} [Fintype ι] [DecidableEq ι] {κ : ι → Type*}
    (value : (i : ι) → κ i → ℕ) (family : (i : ι) → κ i) (i : ι) (member : κ i) :
    ∑ j, value j (Function.update family i member j) + value i (family i) =
      ∑ j, value j (family j) + value i member := by
  have hothers : ∑ j ∈ Finset.univ.erase i, value j (Function.update family i member j) =
      ∑ j ∈ Finset.univ.erase i, value j (family j) := by
    refine Finset.sum_congr rfl fun j hj ↦ ?_
    rw [Function.update_of_ne (Finset.ne_of_mem_erase hj)]
  rw [← Finset.add_sum_erase Finset.univ _ (Finset.mem_univ i),
    ← Finset.add_sum_erase Finset.univ (fun j ↦ value j (family j)) (Finset.mem_univ i), hothers,
    Function.update_self]
  omega

variable [DecidableEq H] [DecidableEq S] [Fintype H] [Fintype S]
  {attached : Attachment H σ μ α β} {lan next : Lan net σ μ} {start : σ}

theorem weight_addWithin_le {ι : Type*} [Fintype ι] [DecidableEq ι]
    (queues : QueueFamily ι (Item μ)) (capacity value : ℕ) (i : ι) (item : Item μ) :
    QueueFamily.weight (fun _ _ ↦ value) (queues.addWithin capacity i item) ≤
      QueueFamily.weight (fun _ _ ↦ value) queues + value := by
  rw [QueueFamily.addWithin]
  split_ifs
  · exact Nat.le_add_right _ _
  · rw [QueueFamily.weight_add]

omit [DecidableEq H] in
/-- What a step of a sender changes. -/
theorem residual_senderMoved (lan : Lan net σ μ) (switch : S)
    (point : SenderPoint μ (net.interfaces switch))
    (wires : QueueFamily (Port H net.interfaces) (Item μ))
    (frameQueues : QueueFamily (H ⊕ S) (Item μ)) :
    (lan.senderMoved switch point wires frameQueues).residual + (lan.senders switch).residual +
        QueueFamily.weight (fun _ _ ↦ 3) lan.wires +
          QueueFamily.weight (fun _ _ ↦ 1) lan.frameQueues =
      lan.residual + point.residual + QueueFamily.weight (fun _ _ ↦ 3) wires +
        QueueFamily.weight (fun _ _ ↦ 1) frameQueues := by
  have hsum := sum_update_add (fun _ (point : SenderPoint μ _) ↦ point.residual) lan.senders switch
    point
  have hmoved : (lan.senderMoved switch point wires frameQueues).residual =
      QueueFamily.weight (fun _ _ ↦ 3) wires + ∑ port, heldResidual (lan.received port) +
        QueueFamily.weight (fun _ _ ↦ 1) frameQueues +
          ∑ other, (Function.update lan.senders switch point other).residual := rfl
  rw [hmoved, Lan.residual]
  omega

/-- The sender of a switch has fewer steps left after each, except the look-up. -/
theorem residual_lt_of_sends {switch : S} (h : Sends attached lan switch next)
    (hlooking : ∀ item, lan.senders switch ≠ .lookingUp item) : next.residual < lan.residual := by
  cases h with
  | @takes item frameQueues hidle hremove =>
    have hmoved := residual_senderMoved lan switch (.lookingUp item) lan.wires frameQueues
    have hweight : QueueFamily.weight (fun _ _ ↦ 1) lan.frameQueues =
        QueueFamily.weight (fun _ _ ↦ 1) frameQueues + 1 := QueueFamily.weight_remove hremove
    rw [hidle, SenderPoint.residual_idle, SenderPoint.residual_lookingUp] at hmoved
    change (lan.senderMoved switch _ lan.wires frameQueues).residual < _
    omega
  | unicasts hpoint hlookup => exact absurd hpoint (hlooking _)
  | broadcasts hpoint hlookup => exact absurd hpoint (hlooking _)
  | ends hpoint =>
    have hmoved := residual_senderMoved lan switch .idle lan.wires lan.frameQueues
    rw [hpoint, SenderPoint.residual_idle, SenderPoint.residual_testing] at hmoved
    change (lan.senderMoved switch _ lan.wires lan.frameQueues).residual < _
    omega
  | @passes item ifId untested hpoint hsource =>
    have hmoved := residual_senderMoved lan switch (.transmitting item ifId untested) lan.wires
      lan.frameQueues
    rw [hpoint, SenderPoint.residual_testing, SenderPoint.residual_transmitting,
      List.length_cons] at hmoved
    change (lan.senderMoved switch _ lan.wires lan.frameQueues).residual < _
    omega
  | @skips item ifId untested hpoint hsource =>
    have hmoved := residual_senderMoved lan switch (.testing item untested) lan.wires
      lan.frameQueues
    rw [hpoint, SenderPoint.residual_testing, SenderPoint.residual_testing,
      List.length_cons] at hmoved
    change (lan.senderMoved switch _ lan.wires lan.frameQueues).residual < _
    omega
  | @transmits item ifId untested hpoint =>
    have hmoved := residual_senderMoved lan switch (.testing item untested)
      (lan.wires.addWithin ethernetWireCapacity (.inr ⟨switch, ifId⟩) item) lan.frameQueues
    have hwire := weight_addWithin_le lan.wires ethernetWireCapacity 3
      (.inr ⟨switch, ifId⟩) item
    rw [hpoint, SenderPoint.residual_testing, SenderPoint.residual_transmitting] at hmoved
    change (lan.senderMoved switch _ _ lan.frameQueues).residual < _
    omega

/-- Every other step that moves a frame on its way leaves it fewer. -/
theorem residual_lt_of_moves {event : Event net α β} (hguard : hostsSilent lan event)
    (hsends : ∀ switch, event ≠ .sends switch) (h : lan.step attached event = some next) :
    next.residual < lan.residual := by
  cases event with
  | acts action => exact hguard.elim
  | transmits host position => exact hguard.elim
  | sends switch => exact absurd rfl (hsends switch)
  | receives port =>
    obtain ⟨hnone, item, wires, hremove, rfl⟩ := step_receives h
    have hsum := sum_update_add (fun _ (held : Option (Item μ)) ↦ heldResidual held) lan.received
      port (some item)
    have hweight : QueueFamily.weight (fun _ _ ↦ 3) lan.wires =
        QueueFamily.weight (fun _ _ ↦ 3) wires + 3 := QueueFamily.weight_remove hremove
    rw [hnone] at hsum
    change _ + heldResidual none = _ + heldResidual (some item) at hsum
    have hheld : heldResidual (some item) = 2 := rfl
    have hempty : heldResidual (none : Option (Item μ)) = 0 := rfl
    change QueueFamily.weight _ wires + ∑ other, heldResidual (Function.update lan.received port _
      other) + QueueFamily.weight _ lan.frameQueues + ∑ switch, (lan.senders switch).residual < _
    rw [Lan.residual]
    omega
  | queues port =>
    obtain ⟨item, hitem, rfl⟩ := step_queues h
    have hsum := sum_update_add (fun _ (held : Option (Item μ)) ↦ heldResidual held) lan.received
      port none
    have hweight := weight_addWithin_le lan.frameQueues MAX_QUEUE_LENGTH 1
      port.device item
    rw [hitem] at hsum
    change _ + heldResidual (some item) = _ + heldResidual none at hsum
    have hheld : heldResidual (some item) = 2 := rfl
    have hempty : heldResidual (none : Option (Item μ)) = 0 := rfl
    change QueueFamily.weight _ lan.wires +
      ∑ other, heldResidual (Function.update lan.received port _ other) +
        QueueFamily.weight _ (lan.frameQueues.addWithin _ _ _) +
          ∑ switch, (lan.senders switch).residual < _
    rw [Lan.residual]
    omega
  | demuxes receiver =>
    obtain ⟨item, frameQueues, core, messages, hremove, -, rfl⟩ := step_demuxes h
    have hweight : QueueFamily.weight (fun _ _ ↦ 1) lan.frameQueues =
        QueueFamily.weight (fun _ _ ↦ 1) frameQueues + 1 := QueueFamily.weight_remove hremove
    change QueueFamily.weight _ lan.wires + ∑ port, heldResidual (lan.received port) +
      QueueFamily.weight _ frameQueues + ∑ switch, (lan.senders switch).residual < _
    rw [Lan.residual]
    omega

/-! ### Steps that the network of switches sees -/

/-- Nothing is sent; frames may be lost. -/
def unsent (_ : World net) : Switching.Event net → Prop
  | .send _ _ => False
  | _ => True

omit [DecidableEq H] [DecidableEq S] [Fintype H] [Fintype S] in
theorem permits_of_silent {event : Event net α β} (hguard : hostsSilent lan event) :
    Permits attached lan event unsent where
  send host position hevent _ _ := by
    subst hevent
    exact hguard
  receive _ _ _ := trivial
  deliver _ _ := trivial
  forward _ _ _ _ := trivial
  lose _ _ _ _ := trivial

/-- A loss adds nothing to the potential, and the other steps make it smaller. -/
theorem totalPotential_le {world after : World net} {event : Switching.Event net}
    (hworld : Learned world) (hguard : unsent world event)
    (h : world.step event = some after) : after.totalPotential ≤ world.totalPotential := by
  cases event with
  | send host frame => exact hguard.elim
  | receive switch inIf => exact (totalPotential_receive_lt hworld h).le
  | forward switch => exact (totalPotential_forward_lt hworld h).le
  | deliver host => exact (totalPotential_deliver_lt h).le
  | lose location position =>
    obtain ⟨queues, hlose, rfl⟩ := step_lose h
    exact QueueFamily.weight_lose_le world.potential hlose

theorem totalPotential_le_of_reachableFrom {world after : World net} (hworld : Learned world)
    (h : (network net).ReachableFrom unsent world after) :
    after.totalPotential ≤ world.totalPotential := by
  have hstep : ∀ (before : World net) event later,
      Learned before ∧ before.totalPotential ≤ world.totalPotential → unsent before event →
        (network net).step before event = some later →
          Learned later ∧ later.totalPotential ≤ world.totalPotential :=
    fun _ _ _ hbefore hguard hlater ↦ ⟨learned_step hbefore.1 hlater,
      (totalPotential_le hbefore.1 hguard hlater).trans hbefore.2⟩
  exact (h.invariant hstep ⟨hworld, le_rfl⟩).2

/-! ### Termination -/

/-- The potential that the network of switches sees, and then the steps that it does not see. -/
noncomputable def rank (attached : Attachment H σ μ α β) (lan : Lan net σ μ) : ℕ ×ₗ ℕ :=
  toLex ((lan.world attached.frame).totalPotential, lan.residual)

/-- Every step of a thread makes the rank smaller. -/
theorem rank_lt {event : Event net α β} (hworld : Learned (lan.world attached.frame))
    (hsource : OwnSource attached lan) (hguard : hostsSilent lan event)
    (h : lan.step attached event = some next) : rank attached next < rank attached lan := by
  have hle := totalPotential_le_of_reachableFrom hworld
    (refines_step hworld hsource (permits_of_silent hguard) h)
  have hunseen (hless : next.residual < lan.residual) : rank attached next < rank attached lan := by
    rw [rank, rank, Prod.Lex.toLex_lt_toLex]
    exact (lt_or_eq_of_le hle).imp_right fun heq ↦ ⟨heq, hless⟩
  by_cases hsends : ∃ switch, event = .sends switch
  · obtain ⟨switch, rfl⟩ := hsends
    have hsent := step_sends h
    by_cases hlooking : ∃ item, lan.senders switch = .lookingUp item
    · -- the look-up of the destination is what the network of switches sees
      obtain ⟨item, hitem⟩ := hlooking
      obtain ⟨point, hforward⟩ : ∃ after : World net,
          (lan.world attached.frame).step (.forward switch) = some after ∧
            after = next.world attached.frame := by
        cases hsent with
        | unicasts hpoint hlookup =>
          exact ⟨_, forward_of_looksUp hpoint rfl (pending_of_unicast hlookup), rfl⟩
        | broadcasts hpoint hlookup =>
          exact ⟨_, forward_of_looksUp hpoint rfl (pending_of_broadcast hlookup), rfl⟩
        | takes hpoint _ => cases hpoint.symm.trans hitem
        | ends hpoint => cases hpoint.symm.trans hitem
        | passes hpoint _ => cases hpoint.symm.trans hitem
        | skips hpoint _ => cases hpoint.symm.trans hitem
        | transmits hpoint => cases hpoint.symm.trans hitem
      rw [hforward.2] at hforward
      rw [rank, rank, Prod.Lex.toLex_lt_toLex]
      exact .inl (totalPotential_forward_lt hworld hforward.1)
    · exact hunseen (residual_lt_of_sends hsent fun item hitem ↦ hlooking ⟨item, hitem⟩)
  · exact hunseen (residual_lt_of_moves hguard (fun switch heq ↦ hsends ⟨switch, heq⟩) h)

/-- From every state that the threads reach there is no infinite run in which the hosts transmit
nothing; and one leads to a state in which no thread can make a step, and in which nothing is on its
way, as long as some party takes what a host has queued. -/
theorem floods_die_out (hown : SendsOwn net attached)
    (h : (system net attached start).Reachable anyThread lan) :
    (¬ ∃ states : ℕ → Lan net σ μ, states 0 = lan ∧
        ∀ i, ∃ event, hostsSilent (states i) event ∧
          (system net attached start).step (states i) event = some (states (i + 1))) ∧
      ∃ last, (system net attached start).ReachableFrom hostsSilent lan last ∧
        (system net attached start).Quiescent hostsSilent last ∧
          (last.Ready attached → last.Clear) := by
  have hstep : ∀ (before : Lan net σ μ) event after,
      (system net attached start).Reachable anyThread before → hostsSilent before event →
        (system net attached start).step before event = some after →
          (system net attached start).Reachable anyThread after ∧
            rank attached after < rank attached before :=
    fun before event after hbefore hguard hafter ↦
      ⟨hbefore.step trivial hafter, rank_lt (learned_of_reachable (world_reachable hown hbefore))
        (ownSource_of_reachable hown hbefore) hguard hafter⟩
  refine ⟨?_, ?_⟩
  · rintro ⟨states, rfl, hruns⟩
    exact ScheduledSystem.not_exists_infiniteRun_of_rank hstep ⟨states, h, hruns⟩
  · obtain ⟨last, hreach, hquiet⟩ := ScheduledSystem.exists_quiescent_of_rank hstep h
    exact ⟨last, hreach, hquiet, clear_of_quiescent hquiet⟩

/-- While the packet of host 1 is flooded. -/
theorem floods_die_out_witness :
    ∃ h : (readmeLan.run anyThread readmeLan.init
        [.acts (.sends 1 ⟨12, 12, 0, 1, 2, []⟩ [0, 0, 0, 0, 0, 2]), .transmits 1 0,
          .receives (.inr ⟨1, ⟨1, by decide⟩⟩), .queues (.inr ⟨1, ⟨1, by decide⟩⟩),
          .sends 1, .sends 1, .sends 1, .sends 1]).isSome,
      (¬ ∃ states : ℕ → Lan readmeNetwork (Host.Running (Fin 3)) (Arp.Flight (Fin 3)),
        states 0 = Option.get _ h ∧ ∀ i, ∃ event, hostsSilent (states i) event ∧
          readmeLan.step (states i) event = some (states (i + 1))) ∧
      ∃ last, readmeLan.ReachableFrom hostsSilent (Option.get _ h) last ∧
        readmeLan.Quiescent hostsSilent last ∧
          (last.Ready (hostsAttached Arp.threeHosts) → last.Clear) :=
  ⟨by decide +kernel, floods_die_out (sendsOwn_hosts fun _ ↦ rfl)
    (ScheduledSystem.reachable_of_isSome_run _)⟩

end NetworkSimulation.Threads
