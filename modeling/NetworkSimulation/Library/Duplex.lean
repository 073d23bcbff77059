import NetworkSimulation.Library.ScheduledSystem

/-!
# Two parties and two channels

A client and a server exchange messages over a channel in each direction. A `Party` either acts on
its own, and may send a message, or takes a message it was waiting for. A `Duplex` is the state of
both, with the messages in flight, oldest first, and everything each of them has sent. Messages in
flight are taken one at a time and at most once; the guards say in which order, and whether they may
be dropped.

A pair of parties is simulated by another pair when the two act alike and take corresponding
messages alike (`Simulates`). What a party does with a message has to correspond only where an
invariant of the simulating pair allows that message to be in flight. Then the two pairs run in
lockstep (`Simulates.lockstep`), under any guard.
-/

set_option autoImplicit false
set_option relaxedAutoImplicit false

namespace NetworkSimulation.Library

/-- One of two communicating parties. `act` is what it does next on its own, with the message it
sends by that, if any; `take` is what it does with a message. `none` where it does not. -/
structure Party (σ incoming outgoing : Type*) where
  act : σ → Option (σ × Option outgoing)
  take : σ → incoming → Option σ

/-- Two parties, the messages in flight and the messages sent. -/
structure Duplex (σ τ υ δ : Type*) where
  client : σ
  server : τ
  toServer : List υ
  toClient : List δ
  clientSent : List υ
  serverSent : List δ

namespace Duplex

inductive Event
  | clientActs
  | serverActs
  | clientTakes (position : ℕ)
  | serverTakes (position : ℕ)
  | dropToServer (position : ℕ)
  | dropToClient (position : ℕ)
  deriving DecidableEq

variable {σ τ υ δ : Type*}

def step (client : Party σ δ υ) (server : Party τ υ δ) (s : Duplex σ τ υ δ) :
    Event → Option (Duplex σ τ υ δ)
  | .clientActs =>
    (client.act s.client).map fun acted ↦
      { s with
        client := acted.1
        toServer := s.toServer ++ acted.2.toList
        clientSent := s.clientSent ++ acted.2.toList }
  | .serverActs =>
    (server.act s.server).map fun acted ↦
      { s with
        server := acted.1
        toClient := s.toClient ++ acted.2.toList
        serverSent := s.serverSent ++ acted.2.toList }
  | .clientTakes position =>
    s.toClient[position]?.bind fun message ↦
      (client.take s.client message).map fun taken ↦
        { s with client := taken, toClient := s.toClient.eraseIdx position }
  | .serverTakes position =>
    s.toServer[position]?.bind fun message ↦
      (server.take s.server message).map fun taken ↦
        { s with server := taken, toServer := s.toServer.eraseIdx position }
  | .dropToServer position =>
    if position < s.toServer.length then
      some { s with toServer := s.toServer.eraseIdx position }
    else none
  | .dropToClient position =>
    if position < s.toClient.length then
      some { s with toClient := s.toClient.eraseIdx position }
    else none

/-- The two parties and two empty channels. -/
def system (client : Party σ δ υ) (server : Party τ υ δ) (clientInit : σ) (serverInit : τ) :
    ScheduledSystem (Duplex σ τ υ δ) Event where
  init := ⟨clientInit, serverInit, [], [], [], []⟩
  step := step client server

/-! ### Guards -/

/-- Messages are dropped, and taken in any order. -/
def anyOrder (_ : Duplex σ τ υ δ) (_ : Event) : Prop := True

/-- Messages are dropped, and otherwise taken in the order they were sent in. -/
def inOrder (_ : Duplex σ τ υ δ) : Event → Prop
  | .clientTakes position | .serverTakes position => position = 0
  | _ => True

/-- Messages are taken in the order they were sent in, and none is dropped. -/
def losslessInOrder (_ : Duplex σ τ υ δ) : Event → Prop
  | .clientTakes position | .serverTakes position => position = 0
  | .dropToServer _ | .dropToClient _ => False
  | _ => True

instance (s : Duplex σ τ υ δ) (event : Event) : Decidable (anyOrder s event) := .isTrue trivial

instance (s : Duplex σ τ υ δ) : ∀ event : Event, Decidable (inOrder s event)
  | .clientTakes position | .serverTakes position => inferInstanceAs (Decidable (position = 0))
  | .clientActs | .serverActs | .dropToServer _ | .dropToClient _ => .isTrue trivial

instance (s : Duplex σ τ υ δ) : ∀ event : Event, Decidable (losslessInOrder s event)
  | .clientTakes position | .serverTakes position => inferInstanceAs (Decidable (position = 0))
  | .dropToServer _ | .dropToClient _ => .isFalse id
  | .clientActs | .serverActs => .isTrue trivial

section Guards

variable {σ' τ' υ' δ' : Type*} {s : Duplex σ τ υ δ} {event : Event}

/-- The guard looks at the event alone. -/
theorem inOrder_transfer (t : Duplex σ' τ' υ' δ') (h : inOrder s event) : inOrder t event := by
  cases event <;> exact h

/-- The guard looks at the event alone. -/
theorem losslessInOrder_transfer (t : Duplex σ' τ' υ' δ') (h : losslessInOrder s event) :
    losslessInOrder t event := by
  cases event <;> exact h

theorem inOrder_of_losslessInOrder (h : losslessInOrder s event) : inOrder s event := by
  cases event with
  | clientTakes position | serverTakes position => exact h
  | dropToServer position | dropToClient position => exact h.elim
  | clientActs | serverActs => trivial

end Guards

/-! ### What a step does -/

section Inversion

variable {client : Party σ δ υ} {server : Party τ υ δ} {s t : Duplex σ τ υ δ} {position : ℕ}

theorem step_clientActs (h : step client server s .clientActs = some t) :
    ∃ acted sent, client.act s.client = some (acted, sent) ∧
      t = { s with
        client := acted
        toServer := s.toServer ++ sent.toList
        clientSent := s.clientSent ++ sent.toList } := by
  obtain ⟨⟨acted, sent⟩, hacts, rfl⟩ := Option.map_eq_some_iff.mp h
  exact ⟨acted, sent, hacts, rfl⟩

theorem step_serverActs (h : step client server s .serverActs = some t) :
    ∃ acted sent, server.act s.server = some (acted, sent) ∧
      t = { s with
        server := acted
        toClient := s.toClient ++ sent.toList
        serverSent := s.serverSent ++ sent.toList } := by
  obtain ⟨⟨acted, sent⟩, hacts, rfl⟩ := Option.map_eq_some_iff.mp h
  exact ⟨acted, sent, hacts, rfl⟩

theorem step_clientTakes (h : step client server s (.clientTakes position) = some t) :
    ∃ message taken, s.toClient[position]? = some message ∧
      client.take s.client message = some taken ∧
        t = { s with client := taken, toClient := s.toClient.eraseIdx position } := by
  obtain ⟨message, hmessage, htakes⟩ := Option.bind_eq_some_iff.mp h
  obtain ⟨taken, htaken, rfl⟩ := Option.map_eq_some_iff.mp htakes
  exact ⟨message, taken, hmessage, htaken, rfl⟩

theorem step_serverTakes (h : step client server s (.serverTakes position) = some t) :
    ∃ message taken, s.toServer[position]? = some message ∧
      server.take s.server message = some taken ∧
        t = { s with server := taken, toServer := s.toServer.eraseIdx position } := by
  obtain ⟨message, hmessage, htakes⟩ := Option.bind_eq_some_iff.mp h
  obtain ⟨taken, htaken, rfl⟩ := Option.map_eq_some_iff.mp htakes
  exact ⟨message, taken, hmessage, htaken, rfl⟩

theorem step_dropToServer (h : step client server s (.dropToServer position) = some t) :
    t = { s with toServer := s.toServer.eraseIdx position } := by
  rw [step] at h
  split_ifs at h
  exact (Option.some.inj h).symm

theorem step_dropToClient (h : step client server s (.dropToClient position) = some t) :
    t = { s with toClient := s.toClient.eraseIdx position } := by
  rw [step] at h
  split_ifs at h
  exact (Option.some.inj h).symm

/-- A channel is taken from in order exactly at its front. -/
theorem eq_cons_of_getElem?_zero {α : Type*} {list : List α} {front : α}
    (h : list[0]? = some front) : list = front :: list.eraseIdx 0 := by
  cases list with
  | nil => cases h
  | cons first rest => exact congrArg (· :: rest) (Option.some.inj h)

/-- Where nothing can happen without losses, no party acts, nor takes the first message to it. -/
theorem none_of_quiescent {clientInit : σ} {serverInit : τ}
    (h : (system client server clientInit serverInit).Quiescent losslessInOrder s) :
    client.act s.client = none ∧ server.act s.server = none ∧
      (∀ message rest, s.toClient = message :: rest → client.take s.client message = none) ∧
      ∀ message rest, s.toServer = message :: rest → server.take s.server message = none := by
  refine ⟨Option.map_eq_none_iff.mp (h .clientActs trivial),
    Option.map_eq_none_iff.mp (h .serverActs trivial), fun message rest hfront ↦ ?_,
    fun message rest hfront ↦ ?_⟩
  · have hnone : s.toClient[0]?.bind _ = none := h (.clientTakes 0) rfl
    rw [hfront] at hnone
    exact Option.map_eq_none_iff.mp hnone
  · have hnone : s.toServer[0]?.bind _ = none := h (.serverTakes 0) rfl
    rw [hfront] at hnone
    exact Option.map_eq_none_iff.mp hnone

end Inversion

/-! ### Lockstep -/

section Lockstep

variable {σ' τ' υ' δ' : Type*} (client : Party σ δ υ) (server : Party τ υ δ)
  (client' : Party σ' δ' υ') (server' : Party τ' υ' δ') (clientRel : σ → σ' → Prop)
  (serverRel : τ → τ' → Prop) (up : υ → υ' → Prop) (down : δ → δ' → Prop)
  (safe : Duplex σ' τ' υ' δ' → Prop)

/-- The parties, the messages in flight and the messages sent correspond. -/
structure Related (s : Duplex σ τ υ δ) (a : Duplex σ' τ' υ' δ') : Prop where
  client : clientRel s.client a.client
  server : serverRel s.server a.server
  toServer : List.Forall₂ up s.toServer a.toServer
  toClient : List.Forall₂ down s.toClient a.toClient
  clientSent : List.Forall₂ up s.clientSent a.clientSent
  serverSent : List.Forall₂ down s.serverSent a.serverSent

/-- The parties of the first pair do what those of the second do, in every state of the second pair
that satisfies an invariant of it. -/
structure Simulates : Prop where
  safe_step : ∀ a event b, safe a → step client' server' a event = some b → safe b
  clientActs : ∀ s a, safe a → clientRel s a.client →
    Option.Rel (fun first second ↦ clientRel first.1 second.1 ∧ Option.Rel up first.2 second.2)
      (client.act s) (client'.act a.client)
  serverActs : ∀ s a, safe a → serverRel s a.server →
    Option.Rel (fun first second ↦ serverRel first.1 second.1 ∧ Option.Rel down first.2 second.2)
      (server.act s) (server'.act a.server)
  clientTakes : ∀ s a message message', safe a → clientRel s a.client → message' ∈ a.toClient →
    down message message' →
      Option.Rel clientRel (client.take s message) (client'.take a.client message')
  serverTakes : ∀ s a message message', safe a → serverRel s a.server → message' ∈ a.toServer →
    up message message' →
      Option.Rel serverRel (server.take s message) (server'.take a.server message')

variable {client server client' server' clientRel serverRel up down safe}

theorem rel_getElem? {α β : Type*} {related : α → β → Prop} {list : List α} {other : List β}
    (h : List.Forall₂ related list other) (i : ℕ) : Option.Rel related list[i]? other[i]? := by
  induction h generalizing i with
  | nil => exact .none
  | cons hfirst _ ih =>
    cases i with
    | zero => exact .some hfirst
    | succ i => exact ih i

theorem forall₂_eraseIdx {α β : Type*} {related : α → β → Prop} {list : List α} {other : List β}
    (h : List.Forall₂ related list other) (i : ℕ) :
    List.Forall₂ related (list.eraseIdx i) (other.eraseIdx i) := by
  induction h generalizing i with
  | nil => exact .nil
  | cons hfirst hrest ih =>
    cases i with
    | zero => exact hrest
    | succ i => exact .cons hfirst (ih i)

theorem forall₂_append_toList {α β : Type*} {related : α → β → Prop} {list : List α}
    {other : List β} {sent : Option α} {sent' : Option β} (h : List.Forall₂ related list other)
    (hsent : Option.Rel related sent sent') :
    List.Forall₂ related (list ++ sent.toList) (other ++ sent'.toList) := by
  refine List.rel_append h ?_
  cases hsent with
  | some hsent => exact .cons hsent .nil
  | none => exact .nil

theorem rel_map {α β α' β' : Type*} {related : α → β → Prop} {related' : α' → β' → Prop}
    {x : Option α} {y : Option β} {f : α → α'} {g : β → β'} (h : Option.Rel related x y)
    (hmap : ∀ a b, related a b → related' (f a) (g b)) :
    Option.Rel related' (x.map f) (y.map g) := by
  cases h with
  | some h => exact .some (hmap _ _ h)
  | none => exact .none

theorem rel_bind {α β α' β' : Type*} {related : α → β → Prop} {related' : α' → β' → Prop}
    {x : Option α} {y : Option β} {f : α → Option α'} {g : β → Option β'}
    (h : Option.Rel related x y)
    (hbind : ∀ a b, y = some b → related a b → Option.Rel related' (f a) (g b)) :
    Option.Rel related' (x.bind f) (y.bind g) := by
  cases h with
  | some h => exact hbind _ _ rfl h
  | none => exact .none

/-- One step of a pair corresponds to one step of the pair that simulates it. -/
theorem Simulates.step_rel
    (h : Simulates client server client' server' clientRel serverRel up down safe)
    {s : Duplex σ τ υ δ} {a : Duplex σ' τ' υ' δ'} (hsafe : safe a)
    (hrelated : Related clientRel serverRel up down s a) (event : Event) :
    Option.Rel (Related clientRel serverRel up down) (step client server s event)
      (step client' server' a event) := by
  cases event with
  | clientActs =>
    refine rel_map (h.clientActs s.client a hsafe hrelated.client) fun acted acted' hacts ↦ ?_
    exact ⟨hacts.1, hrelated.server, forall₂_append_toList hrelated.toServer hacts.2,
      hrelated.toClient, forall₂_append_toList hrelated.clientSent hacts.2, hrelated.serverSent⟩
  | serverActs =>
    refine rel_map (h.serverActs s.server a hsafe hrelated.server) fun acted acted' hacts ↦ ?_
    exact ⟨hrelated.client, hacts.1, hrelated.toServer,
      forall₂_append_toList hrelated.toClient hacts.2, hrelated.clientSent,
      forall₂_append_toList hrelated.serverSent hacts.2⟩
  | clientTakes position =>
    refine rel_bind (rel_getElem? hrelated.toClient position) fun message message' hfound hrel ↦ ?_
    refine rel_map (h.clientTakes _ a _ _ hsafe hrelated.client (List.mem_of_getElem? hfound) hrel)
      fun taken taken' htakes ↦ ?_
    exact ⟨htakes, hrelated.server, hrelated.toServer, forall₂_eraseIdx hrelated.toClient position,
      hrelated.clientSent, hrelated.serverSent⟩
  | serverTakes position =>
    refine rel_bind (rel_getElem? hrelated.toServer position) fun message message' hfound hrel ↦ ?_
    refine rel_map (h.serverTakes _ a _ _ hsafe hrelated.server (List.mem_of_getElem? hfound) hrel)
      fun taken taken' htakes ↦ ?_
    exact ⟨hrelated.client, htakes, forall₂_eraseIdx hrelated.toServer position, hrelated.toClient,
      hrelated.clientSent, hrelated.serverSent⟩
  | dropToServer position =>
    rw [step, step, hrelated.toServer.length_eq]
    split_ifs
    · exact .some { hrelated with toServer := forall₂_eraseIdx hrelated.toServer position }
    · exact .none
  | dropToClient position =>
    rw [step, step, hrelated.toClient.length_eq]
    split_ifs
    · exact .some { hrelated with toClient := forall₂_eraseIdx hrelated.toClient position }
    · exact .none

/-- A pair that is simulated runs in lockstep with the one that simulates it. -/
theorem Simulates.lockstep
    (h : Simulates client server client' server' clientRel serverRel up down safe)
    (clientInit : σ) (serverInit : τ) (clientInit' : σ') (serverInit' : τ') :
    ScheduledSystem.Lockstep (system client server clientInit serverInit)
      (system client' server' clientInit' serverInit')
      fun s a ↦ Related clientRel serverRel up down s a ∧ safe a := by
  rintro s a event ⟨hrelated, hsafe⟩
  have hnext := h.step_rel hsafe hrelated event
  have hkept := h.safe_step a event
  change Option.Rel _ (step client server s event) (step client' server' a event)
  generalize step client server s event = t at hnext
  generalize step client' server' a event = b at hnext hkept
  cases hnext with
  | none => exact .none
  | some hnext => exact .some ⟨hnext, hkept _ hsafe rfl⟩

end Lockstep

end Duplex

end NetworkSimulation.Library
