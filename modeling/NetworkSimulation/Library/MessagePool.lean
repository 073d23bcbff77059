import NetworkSimulation.Library.ScheduledSystem

/-!
# Parties on a network that loses, repeats and reorders messages

The parties have a common state, act on their own and take messages. What they send goes into a
pool. Any message of the pool may be taken at any time, by any receiver that admits it, and stays
there, since it may arrive again; and any message may leave the pool, whether it was taken or not.

`Parties.invariant` is the rule for such systems: a property of the state and one of the messages
in flight, where what a party does keeps the property of the state, gives the messages it sends
theirs and does not take it from those in flight.
-/

set_option autoImplicit false
set_option relaxedAutoImplicit false

namespace NetworkSimulation.Library

/-- The state of all parties, and the messages in flight. -/
structure Pool (σ μ : Type*) where
  core : σ
  inFlight : List μ
  deriving DecidableEq

namespace Pool

/-- What happens next: something a party does on its own, a receiver takes the message at a
position, or that message is lost. -/
inductive Event (α β : Type*)
  | acts (action : α)
  | takes (receiver : β) (position : ℕ)
  | lose (position : ℕ)
  deriving DecidableEq

/-- What the parties do on their own and when they take a message: the new state and the messages
sent, if they can do it. -/
structure Parties (σ μ α β : Type*) where
  act : α → σ → Option (σ × List μ)
  take : β → σ → μ → Option (σ × List μ)

variable {σ μ α β : Type*}

/-- The state after what a party did, with what it sent. -/
def proceed (s : Pool σ μ) (outcome : σ × List μ) : Pool σ μ :=
  ⟨outcome.1, s.inFlight ++ outcome.2⟩

namespace Parties

variable (parties : Parties σ μ α β)

def step (s : Pool σ μ) : Event α β → Option (Pool σ μ)
  | .acts action => (parties.act action s.core).map s.proceed
  | .takes receiver position =>
    match s.inFlight[position]? with
    | none => none
    | some message => (parties.take receiver s.core message).map s.proceed
  | .lose position =>
    if position < s.inFlight.length then
      some { s with inFlight := s.inFlight.eraseIdx position }
    else none

/-- The parties in their first state, with nothing in flight. -/
def system (start : σ) : ScheduledSystem (Pool σ μ) (Event α β) where
  init := ⟨start, []⟩
  step := parties.step

variable {parties} {s t : Pool σ μ}

theorem step_acts {action : α} (h : parties.step s (.acts action) = some t) :
    ∃ core sent, parties.act action s.core = some (core, sent) ∧ t = ⟨core, s.inFlight ++ sent⟩ := by
  obtain ⟨⟨core, sent⟩, hact, rfl⟩ := Option.map_eq_some_iff.mp h
  exact ⟨core, sent, hact, rfl⟩

theorem step_takes {receiver : β} {position : ℕ}
    (h : parties.step s (.takes receiver position) = some t) :
    ∃ message ∈ s.inFlight, ∃ core sent,
      parties.take receiver s.core message = some (core, sent) ∧
        t = ⟨core, s.inFlight ++ sent⟩ := by
  rw [step] at h
  cases hmessage : s.inFlight[position]? with
  | none => simp only [hmessage, reduceCtorEq] at h
  | some message =>
    simp only [hmessage] at h
    obtain ⟨⟨core, sent⟩, htake, rfl⟩ := Option.map_eq_some_iff.mp h
    exact ⟨message, List.mem_of_getElem? hmessage, core, sent, htake, rfl⟩

theorem step_lose {position : ℕ} (h : parties.step s (.lose position) = some t) :
    t = { s with inFlight := s.inFlight.eraseIdx position } := by
  obtain ⟨-, hnext⟩ := Option.ite_none_right_eq_some.mp h
  exact (Option.some.inj hnext).symm

/-- What holds of the state and of every message in flight. -/
def Holds (good : σ → Prop) (fits : σ → μ → Prop) (s : Pool σ μ) : Prop :=
  good s.core ∧ ∀ message ∈ s.inFlight, fits s.core message

/-- What a party may do to a state: it stays good, the messages in flight still fit, and those sent
fit too. -/
def Keeps (good : σ → Prop) (fits : σ → μ → Prop) (core : σ) (outcome : σ × List μ) : Prop :=
  good outcome.1 ∧ (∀ message, fits core message → fits outcome.1 message) ∧
    ∀ message ∈ outcome.2, fits outcome.1 message

theorem Keeps.holds {good : σ → Prop} {fits : σ → μ → Prop} {core : σ} {sent : List μ}
    (h : Keeps good fits s.core (core, sent)) (hs : Holds good fits s) :
    Holds good fits ⟨core, s.inFlight ++ sent⟩ := by
  obtain ⟨hgood, hkept, hsent⟩ := h
  refine ⟨hgood, fun message hmessage ↦ ?_⟩
  rcases List.mem_append.mp hmessage with hbefore | hnew
  · exact hkept message (hs.2 message hbefore)
  · exact hsent message hnew

/-- What the parties keep holds in every state reached. -/
theorem invariant {guard : Pool σ μ → Event α β → Prop} {start : σ} {good : σ → Prop}
    {fits : σ → μ → Prop} (hstart : good start)
    (hact : ∀ action core outcome, good core → parties.act action core = some outcome →
      Keeps good fits core outcome)
    (htake : ∀ receiver core message outcome, good core → fits core message →
      parties.take receiver core message = some outcome → Keeps good fits core outcome)
    (h : (parties.system start).Reachable guard s) : Holds good fits s := by
  have hempty : Holds good fits (parties.system start).init :=
    ⟨hstart, fun message hmessage ↦ by cases hmessage⟩
  refine h.invariant (fun s event t hs _ hstep ↦ ?_) hempty
  cases event with
  | acts action =>
    obtain ⟨core, sent, hacts, rfl⟩ := step_acts hstep
    exact (hact action _ _ hs.1 hacts).holds hs
  | takes receiver position =>
    obtain ⟨message, hmessage, core, sent, htakes, rfl⟩ := step_takes hstep
    exact (htake receiver _ _ _ hs.1 (hs.2 message hmessage) htakes).holds hs
  | lose position =>
    obtain rfl := step_lose (show parties.step s _ = some t from hstep)
    exact ⟨hs.1, fun message hmessage ↦ hs.2 message (List.mem_of_mem_eraseIdx hmessage)⟩

end Parties

end Pool

end NetworkSimulation.Library
