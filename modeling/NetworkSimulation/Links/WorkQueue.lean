import NetworkSimulation.Library.ScheduledSystem

/-!
# The queue behind every wire and socket

A `wqueue` is shared by any number of producers and one consumer. `add` and `remove` are critical
sections; a consumer that finds the queue empty gives up the mutex in `m_condv->wait` and has it
back when the wait returns, which is a critical section of its own (`wake`). A wait returns after a
notification or, as the language permits, without one (`wakeSpuriously`).

`remove` tests for an empty queue before it waits and not again afterwards. `received_in_order_iff`
says what that costs: the queue hands over what it accepted, in order, in exactly the runs in which
no wait returns without a notification.
-/

set_option autoImplicit false
set_option relaxedAutoImplicit false

namespace NetworkSimulation.Links

open Library

/-- What the constructor of `wqueue` sets `max_entries` to. -/
def MAX_QUEUE_LENGTH : ℕ := 20

/-- The argument of `set_max_size` in the constructor of `EthernetWire`. -/
def ethernetWireCapacity : ℕ := 1

/-- Where the consumer is. -/
inductive ConsumerPoint
  | outside
  | waiting
  | notified
  | frontOfEmpty
  deriving DecidableEq

/-- A `wqueue` with its consumer. `added` is what was added below the capacity and `received` what
`remove` has returned. -/
structure WorkQueue (α : Type*) where
  queue : List α
  maxEntries : ℕ
  consumer : ConsumerPoint
  added : List α
  received : List α
  deriving DecidableEq

namespace WorkQueue

variable {α : Type*}

/-- The constructor, followed by `set_max_size` where the capacity is not the default. -/
def new (α : Type*) (maxEntries : ℕ) : WorkQueue α := ⟨[], maxEntries, .outside, [], []⟩

/-- `add`: a full queue drops the item. -/
def add (wqueue : WorkQueue α) (item : α) : WorkQueue α :=
  if wqueue.maxEntries ≤ wqueue.queue.length then wqueue
  else
    { wqueue with
      queue := wqueue.queue ++ [item]
      consumer := if wqueue.consumer = .waiting then .notified else wqueue.consumer
      added := wqueue.added ++ [item] }

/-- The end of `remove`. The front of an empty list is undefined, and nothing is said of a consumer
that has taken it. -/
def takeFront (wqueue : WorkQueue α) : WorkQueue α :=
  match wqueue.queue with
  | [] => { wqueue with consumer := .frontOfEmpty }
  | item :: rest =>
    { wqueue with queue := rest, consumer := .outside, received := wqueue.received ++ [item] }

/-- `remove`, up to its wait where the queue is empty. -/
def remove (wqueue : WorkQueue α) : WorkQueue α :=
  if wqueue.queue.length = 0 then { wqueue with consumer := .waiting } else wqueue.takeFront

/-- A producer adds an item, the consumer calls `remove`, or its wait returns. -/
inductive Event (α : Type*)
  | add (item : α)
  | remove
  | wake
  | wakeSpuriously
  deriving DecidableEq

def step (wqueue : WorkQueue α) : Event α → Option (WorkQueue α)
  | .add item => some (wqueue.add item)
  | .remove => if wqueue.consumer = .outside then some wqueue.remove else none
  | .wake => if wqueue.consumer = .notified then some wqueue.takeFront else none
  | .wakeSpuriously => if wqueue.consumer = .waiting then some wqueue.takeFront else none

/-- A new queue, used in any way. -/
def system (α : Type*) (maxEntries : ℕ) : ScheduledSystem (WorkQueue α) (Event α) where
  init := new α maxEntries
  step := step

def anyEvent (_ : WorkQueue α) (_ : Event α) : Prop := True

instance (wqueue : WorkQueue α) (event : Event α) : Decidable (anyEvent wqueue event) :=
  .isTrue trivial

/-- The consumer has not taken the front of an empty queue, the queue is within its capacity, and
what was received is an initial part of what was added below the capacity. -/
structure InOrder (maxEntries : ℕ) (wqueue : WorkQueue α) : Prop where
  front : wqueue.consumer ≠ .frontOfEmpty
  capacity : wqueue.queue.length ≤ maxEntries
  received : wqueue.received <+: wqueue.added

/-- The invariant. What is in the queue comes after what was received; a consumer that waits left
the queue empty, and one that was notified finds something in it. -/
structure Sound (maxEntries : ℕ) (wqueue : WorkQueue α) : Prop where
  bound : wqueue.maxEntries = maxEntries
  capacity : wqueue.queue.length ≤ maxEntries
  added : wqueue.added = wqueue.received ++ wqueue.queue
  waiting : wqueue.consumer = .waiting → wqueue.queue = []
  notified : wqueue.consumer = .notified → wqueue.queue ≠ []

variable {maxEntries : ℕ} {wqueue next : WorkQueue α}

/-! ### Every step keeps the invariant -/

theorem sound_new (maxEntries : ℕ) : Sound maxEntries (new α maxEntries) :=
  ⟨rfl, Nat.zero_le _, rfl, fun _ ↦ rfl, nofun⟩

theorem sound_add (h : Sound maxEntries wqueue) (item : α) : Sound maxEntries (wqueue.add item) := by
  have hadded : wqueue.added ++ [item] = wqueue.received ++ (wqueue.queue ++ [item]) := by
    rw [h.added, List.append_assoc]
  have hsome : wqueue.queue ++ [item] ≠ [] := List.concat_ne_nil item _
  by_cases hfull : wqueue.maxEntries ≤ wqueue.queue.length
  · rw [add, if_pos hfull]
    exact h
  · have hroom : (wqueue.queue ++ [item]).length ≤ maxEntries := by
      rw [h.bound] at hfull
      simpa using hfull
    rw [add, if_neg hfull]
    split_ifs with hwaiting
    · exact ⟨h.bound, hroom, hadded, nofun, fun _ ↦ hsome⟩
    · exact ⟨h.bound, hroom, hadded, fun hwaits ↦ absurd hwaits hwaiting, fun _ ↦ hsome⟩

theorem sound_takeFront (h : Sound maxEntries wqueue) : Sound maxEntries wqueue.takeFront := by
  have hcapacity := h.capacity
  have hadded := h.added
  rw [takeFront]
  split
  next => exact ⟨h.bound, hcapacity, hadded, nofun, nofun⟩
  next item rest hqueue =>
    rw [hqueue] at hcapacity hadded
    refine ⟨h.bound, (Nat.le_succ _).trans hcapacity, ?_, nofun, nofun⟩
    rw [hadded, List.append_assoc, List.singleton_append]

theorem sound_remove (h : Sound maxEntries wqueue) : Sound maxEntries wqueue.remove := by
  rw [remove]
  split_ifs with hempty
  · exact ⟨h.bound, h.capacity, h.added, fun _ ↦ List.length_eq_zero_iff.mp hempty, nofun⟩
  · exact sound_takeFront h

theorem sound_step (event : Event α) (h : Sound maxEntries wqueue)
    (hstep : wqueue.step event = some next) : Sound maxEntries next := by
  cases event with
  | add item =>
    obtain rfl := Option.some.inj hstep
    exact sound_add h item
  | remove =>
    obtain ⟨-, hnext⟩ := Option.ite_none_right_eq_some.mp hstep
    obtain rfl := Option.some.inj hnext
    exact sound_remove h
  | wake =>
    obtain ⟨-, hnext⟩ := Option.ite_none_right_eq_some.mp hstep
    obtain rfl := Option.some.inj hnext
    exact sound_takeFront h
  | wakeSpuriously =>
    obtain ⟨-, hnext⟩ := Option.ite_none_right_eq_some.mp hstep
    obtain rfl := Option.some.inj hnext
    exact sound_takeFront h

/-! ### Who takes the front of an empty queue -/

theorem consumer_takeFront (hqueue : wqueue.queue ≠ []) :
    wqueue.takeFront.consumer = .outside := by
  rw [takeFront]
  split
  next hempty => exact absurd hempty hqueue
  next => rfl

theorem consumer_takeFront_of_empty (hqueue : wqueue.queue = []) :
    wqueue.takeFront.consumer = .frontOfEmpty := by
  rw [takeFront, hqueue]

theorem consumer_add_eq_frontOfEmpty_iff (item : α) :
    (wqueue.add item).consumer = .frontOfEmpty ↔ wqueue.consumer = .frontOfEmpty := by
  rw [add]
  split_ifs with hfull hwaiting
  · rfl
  · simp [hwaiting]
  · rfl

theorem consumer_remove_ne_frontOfEmpty : wqueue.remove.consumer ≠ .frontOfEmpty := by
  rw [remove]
  split_ifs with hempty
  · exact nofun
  · rw [consumer_takeFront fun hnil ↦ hempty (List.length_eq_zero_iff.mpr hnil)]
    exact nofun

/-- A step takes the front of an empty queue when a wait returns without a notification, and only
then. -/
theorem consumer_step_eq_frontOfEmpty_iff (event : Event α) (h : Sound maxEntries wqueue)
    (hstep : wqueue.step event = some next) :
    next.consumer = .frontOfEmpty ↔
      wqueue.consumer = .frontOfEmpty ∨ event = .wakeSpuriously := by
  cases event with
  | add item =>
    obtain rfl := Option.some.inj hstep
    simp [consumer_add_eq_frontOfEmpty_iff]
  | remove =>
    obtain ⟨houtside, hnext⟩ := Option.ite_none_right_eq_some.mp hstep
    obtain rfl := Option.some.inj hnext
    simp [consumer_remove_ne_frontOfEmpty, houtside]
  | wake =>
    obtain ⟨hnotified, hnext⟩ := Option.ite_none_right_eq_some.mp hstep
    obtain rfl := Option.some.inj hnext
    simp [consumer_takeFront (h.notified hnotified), hnotified]
  | wakeSpuriously =>
    obtain ⟨hwaiting, hnext⟩ := Option.ite_none_right_eq_some.mp hstep
    obtain rfl := Option.some.inj hnext
    simp [consumer_takeFront_of_empty (h.waiting hwaiting)]

/-! ### Runs -/

theorem sound_and_consumer_of_run {schedule : List (Event α)}
    (hrun : (system α maxEntries).run anyEvent wqueue schedule = some next)
    (h : Sound maxEntries wqueue) :
    Sound maxEntries next ∧ (next.consumer = .frontOfEmpty ↔
      wqueue.consumer = .frontOfEmpty ∨ .wakeSpuriously ∈ schedule) := by
  induction schedule generalizing wqueue with
  | nil =>
    obtain rfl := Option.some.inj hrun
    simp [h]
  | cons event rest ih =>
    obtain ⟨-, middle, hstep, hrest⟩ := ScheduledSystem.run_cons_eq_some.mp hrun
    obtain ⟨hnext, hconsumer⟩ := ih hrest (sound_step event h hstep)
    have hevent : Event.wakeSpuriously = event ↔ event = .wakeSpuriously := eq_comm
    refine ⟨hnext, ?_⟩
    rw [hconsumer, consumer_step_eq_frontOfEmpty_iff event h hstep, List.mem_cons, hevent, or_assoc]

/-- Whatever its capacity and whatever the producers and the consumer do, the queue hands over in
order what it accepted exactly as long as no wait returns without a notification. -/
theorem received_in_order_iff {schedule : List (Event α)}
    (hrun : (system α maxEntries).run anyEvent (new α maxEntries) schedule = some wqueue) :
    InOrder maxEntries wqueue ↔ .wakeSpuriously ∉ schedule := by
  obtain ⟨hsound, hconsumer⟩ := sound_and_consumer_of_run hrun (sound_new maxEntries)
  have hfront : wqueue.consumer = .frontOfEmpty ↔ .wakeSpuriously ∈ schedule := by
    rw [hconsumer]
    exact or_iff_right nofun
  constructor
  · intro hinOrder hspurious
    exact hinOrder.front (hfront.mpr hspurious)
  · intro hnever
    exact ⟨fun hempty ↦ hnever (hfront.mp hempty), hsound.capacity, _, hsound.added.symm⟩

/-- Two frames sent while the consumer of a wire waits: the second finds the wire full. -/
theorem received_in_order_witness :
    ∃ h : ((system ℕ ethernetWireCapacity).run anyEvent (new ℕ ethernetWireCapacity)
        [.remove, .add 1, .add 2, .wake, .remove]).isSome,
      InOrder ethernetWireCapacity (Option.get _ h) :=
  ⟨by decide, (received_in_order_iff (Option.some_get _).symm).mpr (by decide)⟩

/-- On a wire whose consumer waits, a wait that returns by itself takes a frame that is not
there. -/
theorem not_received_in_order :
    ¬ ∀ schedule wqueue, (system ℕ ethernetWireCapacity).run anyEvent (new ℕ ethernetWireCapacity)
      schedule = some wqueue → InOrder ethernetWireCapacity wqueue := by
  intro hevery
  have hinOrder := hevery [.remove, .wakeSpuriously] ⟨[], 1, .frontOfEmpty, [], []⟩ (by decide)
  exact hinOrder.front rfl

end WorkQueue

end NetworkSimulation.Links
