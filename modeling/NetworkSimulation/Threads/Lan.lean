import NetworkSimulation.Library.MessagePool
import NetworkSimulation.Links.WorkQueue
import NetworkSimulation.Switching.Network

/-!
# The threads of a local network

A finer view of the network of `Switching.Network`: one event is one step of one thread, wires and
queues are as small as the program makes them, and what a full one is offered is dropped.

`EthernetWire::receive` frees the wire, and the frame is in the hands of the thread until it puts it
in the frame queue of its device: `Switch::receiver` by `process_frame`, which learns the source
first, and `Host::receiver` as it is. `Switch::sender` takes a frame from the queue, looks its
destination up, and passes the interfaces one by one, with a look-up of the source in a table that
may have changed for each. `Host::demuxer` takes frames from the queue of its host. What the
programs of a host send waits in `usleep` of `send_MPDU`, in no particular order, before it is
transmitted.

The tables and the sockets of a host are not locked. Here `Switch::process_frame` with its look-up,
the entry and the frame queue is one step, and so are an access of the sender to its table,
`Host::process_frame`, `create_socket` and `delete_socket`. A thread that waits in `wqueue::remove`
goes on only where there is an item, so wake-ups without a notification are left out. What the hosts
do with the frames is left open (`Attachment`): parties of a `Pool` act and take messages, each at
its host.
-/

set_option autoImplicit false
set_option relaxedAutoImplicit false

namespace NetworkSimulation.Links

open Library

/-- What `wqueue::add` does to the items is what `addWithin` does to a queue of a family. -/
theorem WorkQueue.queue_add {ι α : Type*} [DecidableEq ι] {queues : QueueFamily ι α} {i : ι}
    {wqueue : WorkQueue α} (h : queues i = wqueue.queue) (item : α) :
    queues.addWithin wqueue.maxEntries i item i = (wqueue.add item).queue := by
  rw [QueueFamily.addWithin, add, h]
  by_cases hfull : wqueue.maxEntries ≤ wqueue.queue.length
  · rw [if_pos hfull, if_pos hfull, h]
  · rw [if_neg hfull, if_neg hfull, QueueFamily.add, Function.update_self, h]

end NetworkSimulation.Links

namespace NetworkSimulation.Threads

open Stack Library Links Switching

/-- A message in a frame, with the number of frames transmitted before it by the hosts. -/
structure Item (μ : Type*) where
  serial : ℕ
  message : μ
  deriving DecidableEq

/-- Where the thread `Switch::sender` is: before `remove`, at the look-up of the destination, in the
loop of `broadcast` with the interfaces not yet tested, or in the `usleep` of `unicast`. A frame
that is not broadcast has no interfaces left to test. -/
inductive SenderPoint (μ : Type*) (interfaces : ℕ)
  | idle
  | lookingUp (item : Item μ)
  | testing (item : Item μ) (untested : List (Fin interfaces))
  | transmitting (item : Item μ) (ifId : Fin interfaces) (untested : List (Fin interfaces))

/-- The frame the sender holds. -/
def SenderPoint.held {μ : Type*} {interfaces : ℕ} : SenderPoint μ interfaces → Option (Item μ)
  | .idle => none
  | .lookingUp item | .testing item _ | .transmitting item _ _ => some item

/-- What runs at the hosts: parties that act and take messages, the host of each, and the frame that
a message is sent in. -/
structure Attachment (H σ μ α β : Type*) where
  parties : Pool.Parties σ μ α β
  actor : α → H
  taker : β → H
  frame : μ → MPDU

variable {H S : Type*} {σ μ α β : Type*}

/-- What the parties send has the address of their host. -/
structure SendsOwn (net : Topology H S) (attached : Attachment H σ μ α β) : Prop where
  acts : ∀ action core later messages, attached.parties.act action core = some (later, messages) →
    ∀ message ∈ messages, (attached.frame message).sourceMac = net.mac (attached.actor action)
  takes : ∀ receiver core taken later messages,
    attached.parties.take receiver core taken = some (later, messages) →
      ∀ message ∈ messages, (attached.frame message).sourceMac = net.mac (attached.taker receiver)

/-- The state of the network. A wire is named by the interface that transmits on it, and what a
receiver thread holds by the interface it receives on. `outgoing` is what the programs of a host are
about to transmit. The program reads neither what was `sent` nor what was `processed`. -/
structure Lan (net : Topology H S) (σ μ : Type*) where
  switchTables : (switch : S) → SwitchTable (net.interfaces switch)
  wires : QueueFamily (Port H net.interfaces) (Item μ)
  received : Port H net.interfaces → Option (Item μ)
  frameQueues : QueueFamily (H ⊕ S) (Item μ)
  senders : (switch : S) → SenderPoint μ (net.interfaces switch)
  outgoing : QueueFamily H μ
  core : σ
  sent : List (H × MPDU)
  processed : List (H × Copy)

/-- A program of a host acts, or its `send_MPDU` transmits; a receiver thread takes a frame from its
wire, or puts the one it holds in the queue of its device; the demultiplexer of a host processes a
frame for a party; the sender of a switch makes a step. -/
inductive Event (net : Topology H S) (α β : Type*)
  | acts (action : α)
  | transmits (host : H) (position : ℕ)
  | receives (port : Port H net.interfaces)
  | queues (port : Port H net.interfaces)
  | demuxes (receiver : β)
  | sends (switch : S)

namespace Lan

variable {net : Topology H S} [DecidableEq H] [DecidableEq S] (attached : Attachment H σ μ α β)
  (lan : Lan net σ μ)

/-- `Host::send_MPDU`, after its `usleep`. -/
def sendMPDU (host : H) (position : ℕ) : Option (Lan net σ μ) :=
  match (lan.outgoing host)[position]? with
  | none => none
  | some message =>
    some
      { lan with
        outgoing := Function.update lan.outgoing host ((lan.outgoing host).eraseIdx position)
        wires := lan.wires.addWithin ethernetWireCapacity (.inl host) ⟨lan.sent.length, message⟩
        sent := lan.sent ++ [(host, attached.frame message)] }

/-- `EthernetWire::receive` in a receiver thread. -/
def receive (port : Port H net.interfaces) : Option (Lan net σ μ) :=
  match lan.received port with
  | some _ => none
  | none =>
    match lan.wires.remove (net.peer port) with
    | none => none
    | some (item, wires) =>
      some { lan with wires, received := Function.update lan.received port (some item) }

/-- `Switch::process_frame` learns the source of a frame before it is queued. -/
def learnFrom (frame : MPDU) :
    Port H net.interfaces → (switch : S) → SwitchTable (net.interfaces switch)
  | .inl _ => lan.switchTables
  | .inr ⟨switch, inIf⟩ =>
    Function.update lan.switchTables switch
      (learn (lan.switchTables switch) frame.sourceMac inIf)

/-- The end of a round of `Host::receiver` and of `Switch::receiver`. -/
def queueFrame (port : Port H net.interfaces) : Option (Lan net σ μ) :=
  match lan.received port with
  | none => none
  | some item =>
    some
      { lan with
        switchTables := lan.learnFrom (attached.frame item.message) port
        received := Function.update lan.received port none
        frameQueues := lan.frameQueues.addWithin MAX_QUEUE_LENGTH port.device item }

/-- A round of `Host::demuxer`. The thread is not kept while what it sends waits in `usleep`, as it
is in the program. -/
def demux (receiver : β) : Option (Lan net σ μ) :=
  let host := attached.taker receiver
  match lan.frameQueues.remove (.inl host) with
  | none => none
  | some (item, frameQueues) =>
    match attached.parties.take receiver lan.core item.message with
    | none => none
    | some (core, messages) =>
      some
        { lan with
          frameQueues
          core
          outgoing := Function.update lan.outgoing host (lan.outgoing host ++ messages)
          processed :=
            if accepts (net.mac host) (attached.frame item.message) then
              lan.processed ++ [(host, ⟨item.serial, attached.frame item.message⟩)]
            else lan.processed }

/-- A step of `Switch::sender`, up to the next access to the table or to a wire. -/
def sender (switch : S) : Option (Lan net σ μ) :=
  let moved (point : SenderPoint μ (net.interfaces switch)) :=
    Function.update lan.senders switch point
  match lan.senders switch with
  | .idle =>
    match lan.frameQueues.remove (.inr switch) with
    | none => none
    | some (item, frameQueues) => some { lan with frameQueues, senders := moved (.lookingUp item) }
  | .lookingUp item =>
    match getTableInterfaceNumber (lan.switchTables switch)
        (attached.frame item.message).destinationMac with
    | some ifId => some { lan with senders := moved (.transmitting item ifId []) }
    | none => some { lan with senders := moved (.testing item (List.finRange _)) }
  | .testing _ [] => some { lan with senders := moved .idle }
  | .testing item (ifId :: untested) =>
    if getTableInterfaceNumber (lan.switchTables switch)
        (attached.frame item.message).sourceMac ≠ some ifId then
      some { lan with senders := moved (.transmitting item ifId untested) }
    else some { lan with senders := moved (.testing item untested) }
  | .transmitting item ifId untested =>
    some
      { lan with
        wires := lan.wires.addWithin ethernetWireCapacity (.inr ⟨switch, ifId⟩) item
        senders := moved (.testing item untested) }

def step : Event net α β → Option (Lan net σ μ)
  | .acts action =>
    match attached.parties.act action lan.core with
    | none => none
    | some (core, messages) =>
      let host := attached.actor action
      some
        { lan with
          core
          outgoing := Function.update lan.outgoing host (lan.outgoing host ++ messages) }
  | .transmits host position => lan.sendMPDU attached host position
  | .receives port => lan.receive port
  | .queues port => lan.queueFrame attached port
  | .demuxes receiver => lan.demux attached receiver
  | .sends switch => lan.sender attached switch

end Lan

section System

variable {net : Topology H S} [DecidableEq H] [DecidableEq S]

/-- The network when its threads have been started, before anything is sent. -/
def system (net : Topology H S) (attached : Attachment H σ μ α β) (start : σ) :
    ScheduledSystem (Lan net σ μ) (Event net α β) where
  init := ⟨fun _ ↦ [], fun _ ↦ [], fun _ ↦ none, fun _ ↦ [], fun _ ↦ .idle, fun _ ↦ [], start, [], []⟩
  step := Lan.step attached

/-- Any step of any thread. -/
def anyThread (_ : Lan net σ μ) (_ : Event net α β) : Prop := True

instance (lan : Lan net σ μ) (event : Event net α β) : Decidable (anyThread lan event) :=
  .isTrue trivial

/-! ### What a step does -/

variable {attached : Attachment H σ μ α β} {lan next : Lan net σ μ}

theorem step_acts {action : α} (h : lan.step attached (.acts action) = some next) :
    ∃ core messages, attached.parties.act action lan.core = some (core, messages) ∧
      next = { lan with
        core
        outgoing := Function.update lan.outgoing (attached.actor action)
          (lan.outgoing (attached.actor action) ++ messages) } := by
  rw [Lan.step] at h
  cases hact : attached.parties.act action lan.core with
  | none => rw [hact] at h; cases h
  | some outcome => rw [hact] at h; exact ⟨_, _, rfl, (Option.some.inj h).symm⟩

theorem step_transmits {host : H} {position : ℕ}
    (h : lan.step attached (.transmits host position) = some next) :
    ∃ message, (lan.outgoing host)[position]? = some message ∧
      next = { lan with
        outgoing := Function.update lan.outgoing host ((lan.outgoing host).eraseIdx position)
        wires := lan.wires.addWithin ethernetWireCapacity (.inl host) ⟨lan.sent.length, message⟩
        sent := lan.sent ++ [(host, attached.frame message)] } := by
  rw [Lan.step, Lan.sendMPDU] at h
  cases hmessage : (lan.outgoing host)[position]? with
  | none => rw [hmessage] at h; cases h
  | some message =>
    rw [hmessage] at h
    exact ⟨message, rfl, (Option.some.inj h).symm⟩

theorem step_receives {port : Port H net.interfaces}
    (h : lan.step attached (.receives port) = some next) :
    lan.received port = none ∧ ∃ item wires, lan.wires.remove (net.peer port) = some (item, wires) ∧
      next = { lan with wires, received := Function.update lan.received port (some item) } := by
  rw [Lan.step, Lan.receive] at h
  cases hreceived : lan.received port with
  | some item => rw [hreceived] at h; cases h
  | none =>
    cases hremove : lan.wires.remove (net.peer port) with
    | none => rw [hreceived, hremove] at h; cases h
    | some taken =>
      rw [hreceived, hremove] at h
      exact ⟨rfl, _, _, rfl, (Option.some.inj h).symm⟩

theorem step_queues {port : Port H net.interfaces}
    (h : lan.step attached (.queues port) = some next) :
    ∃ item, lan.received port = some item ∧
      next = { lan with
        switchTables := lan.learnFrom (attached.frame item.message) port
        received := Function.update lan.received port none
        frameQueues := lan.frameQueues.addWithin MAX_QUEUE_LENGTH port.device item } := by
  rw [Lan.step, Lan.queueFrame] at h
  cases hreceived : lan.received port with
  | none => rw [hreceived] at h; cases h
  | some item => rw [hreceived] at h; exact ⟨_, rfl, (Option.some.inj h).symm⟩

theorem step_demuxes {receiver : β} (h : lan.step attached (.demuxes receiver) = some next) :
    ∃ item frameQueues core messages,
      lan.frameQueues.remove (.inl (attached.taker receiver)) = some (item, frameQueues) ∧
        attached.parties.take receiver lan.core item.message = some (core, messages) ∧
          next = { lan with
            frameQueues
            core
            outgoing := Function.update lan.outgoing (attached.taker receiver)
              (lan.outgoing (attached.taker receiver) ++ messages)
            processed :=
              if accepts (net.mac (attached.taker receiver)) (attached.frame item.message) then
                lan.processed ++
                  [(attached.taker receiver, ⟨item.serial, attached.frame item.message⟩)]
              else lan.processed } := by
  rw [Lan.step, Lan.demux] at h
  cases hremove : lan.frameQueues.remove (.inl (attached.taker receiver)) with
  | none => simp only [hremove, reduceCtorEq] at h
  | some taken =>
    obtain ⟨item, frameQueues⟩ := taken
    cases htake : attached.parties.take receiver lan.core item.message with
    | none => simp only [hremove, htake, reduceCtorEq] at h
    | some outcome =>
      simp only [hremove, htake] at h
      exact ⟨_, _, _, _, rfl, htake, (Option.some.inj h).symm⟩

/-- The steps of the sender of a switch. -/
inductive Sends (attached : Attachment H σ μ α β) (lan : Lan net σ μ) (switch : S) :
    Lan net σ μ → Prop
  | takes {item : Item μ} {frameQueues : QueueFamily (H ⊕ S) (Item μ)}
      (hidle : lan.senders switch = .idle)
      (hremove : lan.frameQueues.remove (.inr switch) = some (item, frameQueues)) :
      Sends attached lan switch
        { lan with frameQueues, senders := Function.update lan.senders switch (.lookingUp item) }
  | unicasts {item : Item μ} {ifId : Fin (net.interfaces switch)}
      (hpoint : lan.senders switch = .lookingUp item)
      (hlookup : getTableInterfaceNumber (lan.switchTables switch)
        (attached.frame item.message).destinationMac = some ifId) :
      Sends attached lan switch
        { lan with senders := Function.update lan.senders switch (.transmitting item ifId []) }
  | broadcasts {item : Item μ} (hpoint : lan.senders switch = .lookingUp item)
      (hlookup : getTableInterfaceNumber (lan.switchTables switch)
        (attached.frame item.message).destinationMac = none) :
      Sends attached lan switch
        { lan with
          senders := Function.update lan.senders switch (.testing item (List.finRange _)) }
  | ends {item : Item μ} (hpoint : lan.senders switch = .testing item []) :
      Sends attached lan switch { lan with senders := Function.update lan.senders switch .idle }
  | passes {item : Item μ} {ifId : Fin (net.interfaces switch)}
      {untested : List (Fin (net.interfaces switch))}
      (hpoint : lan.senders switch = .testing item (ifId :: untested))
      (hsource : getTableInterfaceNumber (lan.switchTables switch)
        (attached.frame item.message).sourceMac ≠ some ifId) :
      Sends attached lan switch
        { lan with
          senders := Function.update lan.senders switch (.transmitting item ifId untested) }
  | skips {item : Item μ} {ifId : Fin (net.interfaces switch)}
      {untested : List (Fin (net.interfaces switch))}
      (hpoint : lan.senders switch = .testing item (ifId :: untested))
      (hsource : getTableInterfaceNumber (lan.switchTables switch)
        (attached.frame item.message).sourceMac = some ifId) :
      Sends attached lan switch
        { lan with senders := Function.update lan.senders switch (.testing item untested) }
  | transmits {item : Item μ} {ifId : Fin (net.interfaces switch)}
      {untested : List (Fin (net.interfaces switch))}
      (hpoint : lan.senders switch = .transmitting item ifId untested) :
      Sends attached lan switch
        { lan with
          wires := lan.wires.addWithin ethernetWireCapacity (.inr ⟨switch, ifId⟩) item
          senders := Function.update lan.senders switch (.testing item untested) }

theorem step_sends {switch : S} (h : lan.step attached (.sends switch) = some next) :
    Sends attached lan switch next := by
  rw [Lan.step, Lan.sender] at h
  cases hpoint : lan.senders switch with
  | idle =>
    cases hremove : lan.frameQueues.remove (.inr switch) with
    | none => simp only [hpoint, hremove, reduceCtorEq] at h
    | some taken =>
      simp only [hpoint, hremove] at h
      obtain rfl := Option.some.inj h
      exact .takes hpoint hremove
  | lookingUp item =>
    cases hlookup : getTableInterfaceNumber (lan.switchTables switch)
        (attached.frame item.message).destinationMac with
    | none =>
      simp only [hpoint, hlookup] at h
      obtain rfl := Option.some.inj h
      exact .broadcasts hpoint hlookup
    | some ifId =>
      simp only [hpoint, hlookup] at h
      obtain rfl := Option.some.inj h
      exact .unicasts hpoint hlookup
  | testing item untested =>
    cases untested with
    | nil =>
      simp only [hpoint] at h
      obtain rfl := Option.some.inj h
      exact .ends hpoint
    | cons ifId untested =>
      simp only [hpoint] at h
      split_ifs at h with hsource
      · obtain rfl := Option.some.inj h
        exact .passes hpoint hsource
      · obtain rfl := Option.some.inj h
        exact .skips hpoint (not_ne_iff.mp hsource)
  | transmitting item ifId untested =>
    simp only [hpoint] at h
    obtain rfl := Option.some.inj h
    exact .transmits hpoint

end System

end NetworkSimulation.Threads
