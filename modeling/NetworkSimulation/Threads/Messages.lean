import NetworkSimulation.Library.StutteringRefinement
import NetworkSimulation.Threads.Lan

/-!
# A local network is a pool of messages

Whatever the threads of the devices do, and whatever full wires and queues drop, a party at a host
takes only what a party has sent. So every run of the local network is one of the parties over a
`Pool`, which may lose, repeat, delay and reorder messages: the pool holds all that was ever sent,
and the network some of it (`Within`). What the parties keep over a pool they keep over the network
(`holds_of_reachable`).

The threads that look into no message only move it from one place to another (`holds_of_moves`).
-/

set_option autoImplicit false
set_option relaxedAutoImplicit false

namespace NetworkSimulation.Threads

open Stack Library Links Switching

variable {H S : Type*} {σ μ α β : Type*} {net : Topology H S}

/-! ### Where a message can be -/

/-- The frame is on a wire, in the hands of a receiver, in a frame queue or in the hands of a
sender. -/
inductive Lan.Holds (lan : Lan net σ μ) (item : Item μ) : Prop
  | wire (port : Port H net.interfaces) (h : item ∈ lan.wires port)
  | received (port : Port H net.interfaces) (h : lan.received port = some item)
  | frameQueue (device : H ⊕ S) (h : item ∈ lan.frameQueues device)
  | sender (switch : S) (h : (lan.senders switch).held = some item)

/-- The message is about to be transmitted, or on its way. -/
def Lan.InFlight (lan : Lan net σ μ) (message : μ) : Prop :=
  (∃ host, message ∈ lan.outgoing host) ∨ ∃ item, lan.Holds item ∧ item.message = message

variable [DecidableEq H] [DecidableEq S] {attached : Attachment H σ μ α β} {lan next : Lan net σ μ}

/-- What a program of a host does of its own, or the demultiplexer for a party. -/
def Event.IsOfParties : Event net α β → Prop
  | .acts _ | .demuxes _ => True
  | _ => False

/-- What is true of a changed family at an index is true of the family there, or of the new
value. -/
theorem of_update {ι : Type*} [DecidableEq ι] {κ : ι → Type*} {p : (i : ι) → κ i → Prop}
    {family : (i : ι) → κ i} {i j : ι} {value : κ i}
    (h : p j (Function.update family i value j)) : p j (family j) ∨ p i value := by
  by_cases hj : j = i
  · subst hj
    rw [Function.update_self] at h
    exact .inr h
  · rw [Function.update_of_ne hj] at h
    exact .inl h

/-! ### What a step moves -/

/-- The sender of a switch holds frames that were in its queue, and transmits what it holds. -/
theorem holds_of_sends {switch : S} (h : Sends attached lan switch next) {item : Item μ}
    (hitem : next.Holds item) : lan.Holds item := by
  have hmoved {wires : QueueFamily (Port H net.interfaces) (Item μ)}
      {frameQueues : QueueFamily (H ⊕ S) (Item μ)}
      {point : SenderPoint μ (net.interfaces switch)}
      (hwires : ∀ port, ∀ x ∈ wires port, lan.Holds x)
      (hqueues : ∀ device, ∀ x ∈ frameQueues device, lan.Holds x)
      (hpoint : ∀ x, point.held = some x → lan.Holds x)
      (hheld : Lan.Holds { lan with
        wires, frameQueues, senders := Function.update lan.senders switch point } item) :
      lan.Holds item := by
    cases hheld with
    | wire port h => exact hwires port item h
    | received port h => exact .received port h
    | frameQueue device h => exact hqueues device item h
    | sender other h =>
      rcases of_update (p := fun _ (point : SenderPoint μ _) ↦ point.held = some item) h
        with hbefore | hnow
      · exact .sender other hbefore
      · exact hpoint item hnow
  have hwires : ∀ port, ∀ x ∈ lan.wires port, lan.Holds x := fun port _ hx ↦ .wire port hx
  have hqueues : ∀ device, ∀ x ∈ lan.frameQueues device, lan.Holds x :=
    fun device _ hx ↦ .frameQueue device hx
  have hheld {old new : SenderPoint μ (net.interfaces switch)} (hpoint : lan.senders switch = old)
      (hsame : new.held = old.held) (x : Item μ) (hx : new.held = some x) : lan.Holds x :=
    .sender switch (by rw [hpoint, ← hsame, hx])
  cases h with
  | takes hidle hremove =>
    refine hmoved hwires (fun device x hx ↦ ?_) (fun x hx ↦ ?_) hitem
    · exact .frameQueue device (QueueFamily.mem_of_remove hremove hx)
    · obtain rfl := Option.some.inj hx
      exact .frameQueue _ (QueueFamily.item_mem_of_remove hremove)
  | unicasts hpoint hlookup => exact hmoved hwires hqueues (by exact hheld hpoint rfl) hitem
  | broadcasts hpoint hlookup => exact hmoved hwires hqueues (by exact hheld hpoint rfl) hitem
  | ends hpoint => exact hmoved hwires hqueues (fun x hx ↦ by cases hx) hitem
  | passes hpoint hsource => exact hmoved hwires hqueues (by exact hheld hpoint rfl) hitem
  | skips hpoint hsource => exact hmoved hwires hqueues (by exact hheld hpoint rfl) hitem
  | @transmits held ifId untested hpoint =>
    have hholds : lan.Holds held := .sender switch (by rw [hpoint]; rfl)
    refine hmoved (fun port x hx ↦ ?_) hqueues (by exact hheld hpoint rfl) hitem
    rcases QueueFamily.mem_of_mem_addWithin hx with hbefore | ⟨-, rfl⟩
    · exact .wire port hbefore
    · exact hholds

/-- The threads that look into no message hold what was held, or what a host was about to
transmit. -/
theorem holds_of_moves {event : Event net α β} (hevent : ¬ event.IsOfParties)
    (h : lan.step attached event = some next) {item : Item μ} (hitem : next.Holds item) :
    lan.Holds item ∨ ∃ host, item.message ∈ lan.outgoing host := by
  cases event with
  | acts action => exact absurd trivial hevent
  | demuxes receiver => exact absurd trivial hevent
  | transmits host position =>
    obtain ⟨message, hfront, rfl⟩ := step_transmits h
    have hmessage := List.mem_of_getElem? hfront
    cases hitem with
    | wire port h =>
      rcases QueueFamily.mem_of_mem_addWithin h with hbefore | ⟨-, rfl⟩
      · exact .inl (.wire port hbefore)
      · exact .inr ⟨host, hmessage⟩
    | received port h => exact .inl (.received port h)
    | frameQueue device h => exact .inl (.frameQueue device h)
    | sender switch h => exact .inl (.sender switch h)
  | receives port =>
    obtain ⟨-, taken, wires, hremove, rfl⟩ := step_receives h
    have htaken : lan.Holds taken := .wire _ (QueueFamily.item_mem_of_remove hremove)
    cases hitem with
    | wire other h => exact .inl (.wire other (QueueFamily.mem_of_remove hremove h))
    | received other h =>
      rcases of_update (p := fun _ held ↦ held = some item) h with hbefore | hnow
      · exact .inl (.received other hbefore)
      · obtain rfl := Option.some.inj hnow
        exact .inl htaken
    | frameQueue device h => exact .inl (.frameQueue device h)
    | sender switch h => exact .inl (.sender switch h)
  | queues port =>
    obtain ⟨queued, hqueued, rfl⟩ := step_queues h
    cases hitem with
    | wire other h => exact .inl (.wire other h)
    | received other h =>
      rcases of_update (p := fun _ held ↦ held = some item) h with hbefore | hnow
      · exact .inl (.received other hbefore)
      · cases hnow
    | frameQueue device h =>
      rcases QueueFamily.mem_of_mem_addWithin h with hbefore | ⟨-, rfl⟩
      · exact .inl (.frameQueue device hbefore)
      · exact .inl (.received port hqueued)
    | sender switch h => exact .inl (.sender switch h)
  | sends switch => exact .inl (holds_of_sends (step_sends h) hitem)

/-- What the hosts are about to transmit they were about to transmit before, if no party has
acted or taken a message. -/
theorem outgoing_of_moves {event : Event net α β} (hevent : ¬ event.IsOfParties)
    (h : lan.step attached event = some next) :
    next.core = lan.core ∧
      ∀ host, ∀ message ∈ next.outgoing host, message ∈ lan.outgoing host := by
  cases event with
  | acts action => exact absurd trivial hevent
  | demuxes receiver => exact absurd trivial hevent
  | transmits host position =>
    obtain ⟨message, hfront, rfl⟩ := step_transmits h
    have hmessage := List.mem_of_getElem? hfront
    refine ⟨rfl, fun other left hleft ↦ ?_⟩
    by_cases hother : other = host
    · subst hother
      change left ∈ Function.update lan.outgoing other _ other at hleft
      rw [Function.update_self] at hleft
      exact List.mem_of_mem_eraseIdx hleft
    · change left ∈ Function.update lan.outgoing host _ other at hleft
      rwa [Function.update_of_ne hother] at hleft
  | receives port =>
    obtain ⟨-, taken, wires, hremove, rfl⟩ := step_receives h
    exact ⟨rfl, fun _ _ hleft ↦ hleft⟩
  | queues port =>
    obtain ⟨queued, hqueued, rfl⟩ := step_queues h
    exact ⟨rfl, fun _ _ hleft ↦ hleft⟩
  | sends switch =>
    have hsends := step_sends h
    cases hsends <;> exact ⟨rfl, fun _ _ hleft ↦ hleft⟩

theorem inFlight_of_moves {event : Event net α β} (hevent : ¬ event.IsOfParties)
    (h : lan.step attached event = some next) {message : μ} (hmessage : next.InFlight message) :
    lan.InFlight message := by
  rcases hmessage with ⟨host, hout⟩ | ⟨item, hitem, rfl⟩
  · exact .inl ⟨host, (outgoing_of_moves hevent h).2 host message hout⟩
  · rcases holds_of_moves hevent h hitem with hbefore | hout
    · exact .inr ⟨item, hbefore, rfl⟩
    · exact .inl hout

/-- What a party sends is about to be transmitted. -/
theorem inFlight_of_acts {action : α} (h : lan.step attached (.acts action) = some next) :
    ∃ messages, attached.parties.act action lan.core = some (next.core, messages) ∧
      ∀ message, next.InFlight message → lan.InFlight message ∨ message ∈ messages := by
  obtain ⟨core, messages, hact, rfl⟩ := step_acts h
  refine ⟨messages, hact, fun message hmessage ↦ ?_⟩
  rcases hmessage with ⟨host, hout⟩ | ⟨item, hitem, rfl⟩
  · rcases of_update (p := fun _ messages ↦ message ∈ messages) hout with hbefore | hnow
    · exact .inl (.inl ⟨host, hbefore⟩)
    · exact (List.mem_append.mp hnow).imp_left fun hbefore ↦ .inl ⟨_, hbefore⟩
  · refine .inl (.inr ⟨item, ?_, rfl⟩)
    cases hitem with
    | wire port h => exact .wire port h
    | received port h => exact .received port h
    | frameQueue device h => exact .frameQueue device h
    | sender switch h => exact .sender switch h

/-- A party takes a message in flight. -/
theorem inFlight_of_demuxes {receiver : β} (h : lan.step attached (.demuxes receiver) = some next) :
    ∃ taken messages, lan.InFlight taken ∧
      attached.parties.take receiver lan.core taken = some (next.core, messages) ∧
        ∀ message, next.InFlight message → lan.InFlight message ∨ message ∈ messages := by
  obtain ⟨taken, frameQueues, core, messages, hremove, htake, rfl⟩ := step_demuxes h
  have htaken : lan.Holds taken := .frameQueue _ (QueueFamily.item_mem_of_remove hremove)
  refine ⟨taken.message, messages, .inr ⟨taken, htaken, rfl⟩, htake, fun message hmessage ↦ ?_⟩
  rcases hmessage with ⟨host, hout⟩ | ⟨item, hitem, rfl⟩
  · rcases of_update (p := fun _ messages ↦ message ∈ messages) hout with hbefore | hnow
    · exact .inl (.inl ⟨host, hbefore⟩)
    · exact (List.mem_append.mp hnow).imp_left fun hbefore ↦ .inl ⟨_, hbefore⟩
  · refine .inl (.inr ⟨item, ?_, rfl⟩)
    cases hitem with
    | wire port h => exact .wire port h
    | received port h => exact .received port h
    | frameQueue device h => exact .frameQueue device (QueueFamily.mem_of_remove hremove h)
    | sender switch h => exact .sender switch h

/-! ### The network inside the pool -/

/-- The pool has the state of the parties, and holds every message in flight. -/
structure Within (lan : Lan net σ μ) (s : Pool σ μ) : Prop where
  core : s.core = lan.core
  inFlight : ∀ message, lan.InFlight message → message ∈ s.inFlight

/-- Any event of the pool. -/
def anyPoolEvent (_ : Pool σ μ) (_ : Pool.Event α β) : Prop := True

omit [DecidableEq H] [DecidableEq S] in
theorem Within.proceed {s : Pool σ μ} {core : σ} {messages : List μ} (h : Within lan s)
    (hcore : next.core = core)
    (hmessages : ∀ message, next.InFlight message → lan.InFlight message ∨ message ∈ messages) :
    Within next ⟨core, s.inFlight ++ messages⟩ := by
  refine ⟨hcore.symm, fun message hmessage ↦ List.mem_append.mpr ?_⟩
  exact (hmessages message hmessage).imp_left (h.inFlight message)

/-- A step of a thread is a step of the pool, or none. -/
theorem Within.step {s : Pool σ μ} {start : σ} {event : Event net α β} (hwithin : Within lan s)
    (h : lan.step attached event = some next) :
    ∃ t, (attached.parties.system start).ReachableFrom anyPoolEvent s t ∧ Within next t := by
  by_cases hevent : event.IsOfParties
  · cases event with
    | acts action =>
      obtain ⟨messages, hact, hmessages⟩ := inFlight_of_acts h
      have hstep : (attached.parties.system start).step s (.acts action) =
          some ⟨next.core, s.inFlight ++ messages⟩ := by
        change Option.map _ _ = _
        rw [hwithin.core, hact]
        rfl
      exact ⟨_, ScheduledSystem.reachableFrom_of_step trivial hstep, hwithin.proceed rfl hmessages⟩
    | demuxes receiver =>
      obtain ⟨taken, messages, htaken, htake, hmessages⟩ := inFlight_of_demuxes h
      obtain ⟨position, hposition⟩ := List.getElem?_of_mem (hwithin.inFlight taken htaken)
      have hstep : (attached.parties.system start).step s (.takes receiver position) =
          some ⟨next.core, s.inFlight ++ messages⟩ := by
        change attached.parties.step s (.takes receiver position) = _
        rw [Pool.Parties.step]
        simp only [hposition, hwithin.core, htake]
        rfl
      exact ⟨_, ScheduledSystem.reachableFrom_of_step trivial hstep, hwithin.proceed rfl hmessages⟩
    | transmits host position => exact hevent.elim
    | receives port => exact hevent.elim
    | queues port => exact hevent.elim
    | sends switch => exact hevent.elim
  · refine ⟨s, .refl, hwithin.core.trans (outgoing_of_moves hevent h).1.symm, ?_⟩
    exact fun message hmessage ↦ hwithin.inFlight message (inFlight_of_moves hevent h hmessage)

/-- Every state that the threads reach is within one that the parties reach over a pool. -/
theorem exists_within {guard : Lan net σ μ → Event net α β → Prop} {start : σ}
    (h : (system net attached start).Reachable guard lan) :
    ∃ s, (attached.parties.system start).Reachable anyPoolEvent s ∧ Within lan s := by
  induction h with
  | refl =>
    refine ⟨⟨start, []⟩, .refl, rfl, ?_⟩
    rintro message (⟨host, hout⟩ | ⟨item, hitem, -⟩)
    · cases hout
    · cases hitem with
      | wire port h => cases h
      | received port h => cases h
      | frameQueue device h => cases h
      | sender switch h => cases h
  | step _ _ hstep ih =>
    obtain ⟨s, hs, hwithin⟩ := ih
    obtain ⟨t, ht, hnext⟩ := hwithin.step hstep
    exact ⟨t, hs.trans ht, hnext⟩

/-- What the parties keep over a pool holds in every state that the threads reach. -/
theorem holds_of_reachable {guard : Lan net σ μ → Event net α β → Prop} {start : σ}
    {good : σ → Prop} {fits : σ → μ → Prop} (hstart : good start)
    (hact : ∀ action core outcome, good core → attached.parties.act action core = some outcome →
      Pool.Parties.Keeps good fits core outcome)
    (htake : ∀ receiver core message outcome, good core → fits core message →
      attached.parties.take receiver core message = some outcome →
        Pool.Parties.Keeps good fits core outcome)
    (h : (system net attached start).Reachable guard lan) :
    good lan.core ∧ ∀ message, lan.InFlight message → fits lan.core message := by
  obtain ⟨s, hs, hwithin⟩ := exists_within h
  obtain ⟨hgood, hfits⟩ := Pool.Parties.invariant hstart hact htake hs
  rw [hwithin.core] at hgood hfits
  exact ⟨hgood, fun message hmessage ↦ hfits message (hwithin.inFlight message hmessage)⟩

end NetworkSimulation.Threads
