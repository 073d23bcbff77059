import NetworkSimulation.Threads.Calls
import NetworkSimulation.Threads.Quiescence

/-!
# Calls that come to an end on a network

If two calls come to an end over channels that lose nothing, they do over the network, as long as
nothing overflows. While the calls do nothing the threads only move what there is, and each step
leaves them less to do; so a rank of the calls over channels, the frames not transmitted, and the
rank of the threads make up a rank of the whole (`not_exists_infiniteRun_of_ranks`). And where no
thread and no call can go on, everything that was sent waits in a socket, so that the calls over
channels cannot go on either (`Represents.quiescent`).
-/

set_option autoImplicit false
set_option relaxedAutoImplicit false

namespace NetworkSimulation.Threads

open Stack Library Links Switching

variable {H S σ τ : Type*} {net : Topology H S} {calls : Calls H σ τ} [DecidableEq H]
  [DecidableEq S] {lan next : Lan net (CallState H σ τ) (Arp.Flight H)} {d : Duplex σ τ MPDU MPDU}
  {kept : Prop}

/-! ### Where nothing goes on -/

omit [DecidableEq S] in
/-- Every host takes the frames that it has queued. -/
theorem Represents.ready (hsuit : calls.Suit net) (hrep : Represents calls kept lan d)
    (hworld : Learned (lan.world Arp.Flight.frame)) : lan.Ready calls.attached := by
  intro host item hitem
  have huninitialised : IP := ⟨0, 0, 0, 0, 0, []⟩
  refine ⟨(host, huninitialised), rfl, ?_⟩
  change (calls.parties.take (host, huninitialised) lan.core item.message).isSome
  by_cases haccepts : accepts (net.mac host) item.message.frame = true
  · obtain ⟨source, socket, hmeant, ⟨rxQueue, hports⟩, -⟩ :=
      hrep.of_accepts hworld hitem haccepts
    rw [take_of_meant hsuit hmeant hports]
    rfl
  · rw [Calls.parties, Host.parties]
    dsimp only
    rw [← hsuit.mac, if_neg haccepts]
    rfl

omit [DecidableEq S] in
/-- What is in flight waits in the socket, where nothing is on its way. -/
theorem Direction.eq_inbox {source target : H} {socket : Socket} {inFlight : List MPDU}
    (h : Direction True lan source target socket inFlight)
    (hdelivered : (lan.world Arp.Flight.frame).deliveredBetween source target =
      (lan.world Arp.Flight.frame).sentBetween source target)
    (hsilent : lan.outgoing source = []) : inFlight = lan.core.inbox target := by
  have hall := h.contents.eq_of_delivered trivial (congrArg _ hdelivered)
  rw [hall, Lan.relay, hsilent, List.map_nil, List.append_nil]

omit [DecidableEq S] in
/-- A call that waits for a frame reads the first in its socket. -/
theorem Direction.getFrame_isSome {source target : H} {socket : Socket} {inFlight : List MPDU}
    (h : Direction kept lan source target socket inFlight) {frame : MPDU} {rest : List MPDU}
    (hinbox : lan.core.inbox target = frame :: rest) :
    ∃ running, lan.core.getFrame target = some (frame, running) := by
  obtain ⟨rxQueue, hports⟩ := h.ports
  rw [CallState.inbox, hports, List.flatMap_singleton] at hinbox
  change rxQueue.queue = frame :: rest at hinbox
  rw [CallState.getFrame, hports]
  simp only [hinbox]
  exact ⟨_, rfl⟩

section Finite

variable [Fintype H] [Fintype S]

/-- Where no thread and no call goes on, all that was sent has been delivered. -/
theorem Follows.delivered_of_quiescent (hsuit : calls.Suit net) (hfollows : Follows calls True lan)
    (hquiet : (calls.lan net).Quiescent anyThread lan) {source target : H} (hne : source ≠ target) :
    (lan.world Arp.Flight.frame).deliveredBetween source target =
      (lan.world Arp.Flight.frame).sentBetween source target := by
  obtain ⟨d, -, hrep⟩ := hfollows.duplex
  have hclear : lan.Clear := clear_of_quiescent (fun event _ ↦ hquiet event trivial)
    (hrep.ready hsuit (learned_of_reachable hfollows.world))
  have hcarried := (Follows.sublist hsuit hfollows.world hne).2 trivial
  rwa [onTheWay_of_clear hclear, List.append_nil] at hcarried

/-- Where no thread and no call goes on over the network, no call goes on over channels. -/
theorem Follows.quiescent (hsuit : calls.Suit net) (hfollows : Follows calls True lan)
    (hrep : Represents calls True lan d) (hquiet : (calls.lan net).Quiescent anyThread lan) :
    calls.duplex.Quiescent Duplex.losslessInOrder d := by
  obtain ⟨hsilent, hacts⟩ := silent_of_quiescent hquiet
  have hup := hrep.up.eq_inbox (hfollows.delivered_of_quiescent hsuit hquiet hsuit.ne) (hsilent _)
  have hdown := hrep.down.eq_inbox (hfollows.delivered_of_quiescent hsuit hquiet hsuit.ne.symm)
    (hsilent _)
  change ∀ action, calls.parties.act action lan.core = none at hacts
  intro event hguard
  cases event with
  | clientActs =>
    change Option.map _ (calls.client.act d.client) = none
    rw [hrep.client]
    exact Option.map_eq_none_iff.mpr (Option.map_eq_none_iff.mp (hacts .clientActs))
  | serverActs =>
    change Option.map _ (calls.server.act d.server) = none
    rw [hrep.server]
    exact Option.map_eq_none_iff.mpr (Option.map_eq_none_iff.mp (hacts .serverActs))
  | clientTakes position =>
    obtain rfl : position = 0 := hguard
    change d.toClient[0]?.bind _ = none
    cases hwaiting : d.toClient with
    | nil => rfl
    | cons frame rest =>
      obtain ⟨running, hread⟩ := hrep.down.getFrame_isSome (hdown.symm.trans hwaiting)
      have hstuck := hacts .clientGets
      change (lan.core.getFrame calls.clientHost).bind _ = none at hstuck
      rw [hread] at hstuck
      change Option.map _ (calls.client.take d.client frame) = none
      rw [hrep.client]
      exact Option.map_eq_none_iff.mpr (Option.map_eq_none_iff.mp hstuck)
  | serverTakes position =>
    obtain rfl : position = 0 := hguard
    change d.toServer[0]?.bind _ = none
    cases hwaiting : d.toServer with
    | nil => rfl
    | cons frame rest =>
      obtain ⟨running, hread⟩ := hrep.up.getFrame_isSome (hup.symm.trans hwaiting)
      have hstuck := hacts .serverGets
      change (lan.core.getFrame calls.serverHost).bind _ = none at hstuck
      rw [hread] at hstuck
      change Option.map _ (calls.server.take d.server frame) = none
      rw [hrep.server]
      exact Option.map_eq_none_iff.mpr (Option.map_eq_none_iff.mp hstuck)
  | dropToServer position => exact hguard.elim
  | dropToClient position => exact hguard.elim

/-! ### Ranks -/

/-- How many frames the hosts have not transmitted. -/
def Lan.unsent (lan : Lan net (CallState H σ τ) (Arp.Flight H)) : ℕ :=
  ∑ host, (lan.outgoing host).length

/-- The ranks of a state: a rank of the calls over channels that it represents, the number of frames
not transmitted, and the rank of the threads. -/
def Ranks (calls : Calls H σ τ) (ranks : Duplex σ τ MPDU MPDU → ℕ → Prop)
    (lan : Lan net (CallState H σ τ) (Arp.Flight H)) (bound : ℕ ×ₗ (ℕ ×ₗ (ℕ ×ₗ ℕ))) : Prop :=
  Follows calls True lan ∧ ∃ d work, calls.duplex.Reachable (Duplex.inOrderKeeping True) d ∧
    Represents calls True lan d ∧ ranks d work ∧
      bound = toLex (work, toLex (lan.unsent, rank calls.attached lan))

omit [Fintype S] in
/-- A host that transmits has one frame less to transmit. -/
theorem unsent_lt_of_transmits {host : H} {position : ℕ}
    (h : lan.step calls.attached (.transmits host position) = some next) :
    next.unsent < lan.unsent := by
  obtain ⟨message, hmessage, rfl⟩ := step_transmits h
  have hsum := sum_update_add (fun _ (outgoing : List (Arp.Flight H)) ↦ outgoing.length)
    lan.outgoing host ((lan.outgoing host).eraseIdx position)
  have hposition : position < (lan.outgoing host).length := (List.getElem?_eq_some_iff.mp hmessage).1
  have hlength := List.length_eraseIdx_add_one hposition
  change ∑ other, (Function.update lan.outgoing host _ other).length < _
  rw [Lan.unsent]
  omega

omit [Fintype H] [Fintype S] in
/-- What moves the frames on their way leaves those that are not transmitted. -/
theorem outgoing_of_silent (hsuit : calls.Suit net) (hrep : Represents calls kept lan d)
    (hworld : Learned (lan.world Arp.Flight.frame)) {event : Event net CallAction (H × IP)}
    (hguard : hostsSilent lan event) (h : lan.step calls.attached event = some next) :
    next.outgoing = lan.outgoing := by
  cases event with
  | acts action => exact hguard.elim
  | transmits host position => exact hguard.elim
  | receives port =>
    obtain ⟨-, item, wires, -, rfl⟩ := step_receives h
    rfl
  | queues port =>
    obtain ⟨item, -, rfl⟩ := step_queues h
    rfl
  | demuxes receiver => exact (demuxed_of_demuxes hsuit hrep hworld h).2.1
  | sends switch =>
    have hsends := step_sends h
    cases hsends <;> rfl

section Ranked

variable {ranks : Duplex σ τ MPDU MPDU → ℕ → Prop}
  (hranks : ∀ d work event d', ranks d work → Duplex.losslessInOrder d event →
    calls.duplex.step d event = some d' → ∃ less < work, ranks d' less)

include hranks

omit [DecidableEq H] [DecidableEq S] [Fintype H] [Fintype S] in
/-- The work over channels does not grow. -/
theorem ranks_of_reachableFrom {d' : Duplex σ τ MPDU MPDU} {work : ℕ} (hwork : ranks d work)
    (h : calls.duplex.ReachableFrom (Duplex.inOrderKeeping True) d d') :
    ∃ less ≤ work, ranks d' less := by
  induction h with
  | refl => exact ⟨work, le_rfl, hwork⟩
  | step _ hguard hstep ih =>
    obtain ⟨before, hbefore, hkept⟩ := ih
    obtain ⟨less, hless, hafter⟩ := hranks _ _ _ _ hkept (hguard.2 trivial) hstep
    exact ⟨less, hless.le.trans hbefore, hafter⟩

/-- Every step of a call or of a thread leads from each rank to a smaller one. -/
theorem ranks_step (hsuit : calls.Suit net) {bound : ℕ ×ₗ (ℕ ×ₗ (ℕ ×ₗ ℕ))}
    (hbound : Ranks calls ranks lan bound) {event : Event net CallAction (H × IP)}
    (hguard : inTurnRoomy lan event) (h : lan.step calls.attached event = some next) :
    ∃ less < bound, Ranks calls ranks next less := by
  obtain ⟨hfollows, d, work, hd, hrep, hwork, rfl⟩ := hbound
  have hkeeping : inTurnKeeping True lan event := ⟨hguard.1, fun _ ↦ hguard.2⟩
  have hworld := learned_of_reachable hfollows.world
  have hnext := hfollows.step hsuit hkeeping h
  by_cases hacts : ∃ action, event = .acts action
  · -- a step of a call is a step over channels
    obtain ⟨action, rfl⟩ := hacts
    obtain ⟨duplexEvent, d', hallowed, hstep, hrep'⟩ := follows_acts hsuit hrep h
    obtain ⟨less, hless, hafter⟩ := hranks _ _ _ _ hwork (hallowed.2 trivial) hstep
    refine ⟨_, ?_, hnext, d', less, hd.step hallowed hstep, hrep', hafter, rfl⟩
    exact Prod.Lex.toLex_lt_toLex.mpr (.inl hless)
  · obtain ⟨d', hd', hrep'⟩ := follows_threads hsuit hfollows hd hrep
      (fun action heq ↦ hacts ⟨action, heq⟩) hkeeping h
    obtain ⟨less, hless, hafter⟩ := ranks_of_reachableFrom hranks hwork hd'
    refine ⟨_, ?_, hnext, d', less, hd.trans hd', hrep', hafter, rfl⟩
    refine Prod.Lex.toLex_lt_toLex.mpr ((lt_or_eq_of_le hless).imp_right fun heq ↦ ⟨heq, ?_⟩)
    by_cases htransmits : ∃ host position, event = .transmits host position
    · obtain ⟨host, position, rfl⟩ := htransmits
      exact Prod.Lex.toLex_lt_toLex.mpr (.inl (unsent_lt_of_transmits h))
    · have hsilent : hostsSilent lan event := by
        cases event with
        | acts action => exact absurd ⟨action, rfl⟩ hacts
        | transmits host position => exact absurd ⟨host, position, rfl⟩ htransmits
        | receives | queues | demuxes | sends => trivial
      have hsource : OwnSource calls.attached lan := fun host message hmessage ↦
        (hrep.meantBy hsuit hd hmessage).sourceMac
      have houtgoing := outgoing_of_silent hsuit hrep hworld hsilent h
      refine Prod.Lex.toLex_lt_toLex.mpr (.inr ⟨?_, rank_lt hworld hsource hsilent h⟩)
      change next.unsent = lan.unsent
      rw [Lan.unsent, Lan.unsent, houtgoing]

/-- No run of the calls over the network goes on for ever, if nothing overflows in it. -/
theorem not_exists_infiniteRun (hsuit : calls.Suit net) {work : ℕ}
    (hwork : ranks calls.duplex.init work)
    (h : (calls.lan net).Reachable inTurnRoomy lan) :
    ¬ ∃ states : ℕ → Lan net (CallState H σ τ) (Arp.Flight H), states 0 = lan ∧
      ∀ i, ∃ event, inTurnRoomy (states i) event ∧
        (calls.lan net).step (states i) event = some (states (i + 1)) := by
  rintro ⟨states, rfl, hruns⟩
  have hfollows : Follows calls True (states 0) := follows_of_reachable hsuit
    (h.mono fun _ _ hguard ↦ ⟨hguard.1, fun _ ↦ hguard.2⟩)
  obtain ⟨d, hd, hrep⟩ := hfollows.duplex
  obtain ⟨less, -, hless⟩ := ranks_of_reachableFrom hranks hwork hd
  have hstep : ∀ (before : Lan net (CallState H σ τ) (Arp.Flight H)) bound event after,
      Ranks calls ranks before bound → inTurnRoomy before event →
        (calls.lan net).step before event = some after →
          ∃ less < bound, Ranks calls ranks after less :=
    fun _ _ _ _ hbound hguard hafter ↦ ranks_step hranks hsuit hbound hguard hafter
  exact ScheduledSystem.not_exists_infiniteRun_of_ranks hstep
    ⟨states, ⟨_, hfollows, d, less, hd, hrep, hless, rfl⟩, hruns⟩

end Ranked

end Finite

end NetworkSimulation.Threads
