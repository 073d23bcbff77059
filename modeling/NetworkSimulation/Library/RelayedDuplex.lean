import NetworkSimulation.Library.Duplex
import NetworkSimulation.Library.StutteringRefinement
import Mathlib.Data.List.Sublists

/-!
# Channels made of stages

A channel of a `Duplex` is often made of stages: messages wait until they are transmitted, are
carried by something that may lose some of them, and wait again until they are taken. Of what
carries them only the messages transmitted and the messages delivered are known, and that the latter
are a sublist of the former. What is still expected of it is a `Residue`: what any further delivery
must be found in.

A `Relay` holds the stages, and `Relay.Contents` says which messages of the channel are in flight:
those that have been delivered, a residue, and those not transmitted. So a lossy carrier that keeps
the order behaves like the channel with its drops, and one that has kept everything like the channel
without (`Relay.Contents.arrive`). The parameter `kept` says which of the two is meant.
-/

set_option autoImplicit false
set_option relaxedAutoImplicit false

namespace NetworkSimulation.Library

variable {α : Type*} {kept : Prop} {sent taken left : List α}

/-! ### Residues -/

/-- All that can still come after what was taken from what was sent is in what is left, and it is
all of it where everything has been kept. -/
structure Residue (kept : Prop) (sent taken left : List α) : Prop where
  bound : ∀ more : List α, (taken ++ more).Sublist sent → more.Sublist left
  exact : kept → taken ++ left = sent

theorem residue_nil : Residue kept ([] : List α) [] [] where
  bound _ h := h
  exact _ := rfl

/-- What is sent is left. -/
theorem Residue.send (h : Residue kept sent taken left) (x : α) :
    Residue kept (sent ++ [x]) taken (left ++ [x]) where
  bound more hmore := by
    obtain ⟨front, back, hsplit, hfront, hback⟩ := List.sublist_append_iff.mp hmore
    rcases List.sublist_singleton.mp hback with rfl | rfl
    · rw [List.append_nil] at hsplit
      subst hsplit
      exact (h.bound more hfront).trans (List.sublist_append_left _ _)
    · -- the last of what comes is the last that was sent
      rcases List.eq_nil_or_concat more with rfl | ⟨init, last, rfl⟩
      · exact List.nil_sublist _
      · rw [List.concat_eq_append, ← List.append_assoc] at hsplit
        obtain ⟨rfl, hlast⟩ := List.append_inj' hsplit rfl
        rw [List.concat_eq_append, hlast]
        exact (h.bound init hfront).append (List.Sublist.refl _)
  exact hkept := by rw [← List.append_assoc, h.exact hkept]

/-- What comes after the first of its kind. -/
theorem sublist_of_cons_sublist {x : α} {front back more : List α} (hfront : x ∉ front)
    (h : (x :: more).Sublist (front ++ x :: back)) : more.Sublist back := by
  obtain ⟨first, second, hsplit, hfirst, hsecond⟩ := List.sublist_append_iff.mp h
  cases first with
  | nil =>
    rw [List.nil_append] at hsplit
    subst hsplit
    exact List.cons_sublist_cons.mp hsecond
  | cons y first =>
    obtain ⟨rfl, -⟩ := List.cons.inj hsplit
    exact absurd (hfirst.subset (List.mem_cons_self ..)) hfront

/-- What is taken next is left, and what is before it will not come any more. -/
theorem Residue.take (h : Residue kept sent taken left) {x : α}
    (hsublist : (taken ++ [x]).Sublist sent) (hinitial : kept → taken ++ [x] <+: sent) :
    ∃ front back, left = front ++ x :: back ∧ (kept → front = []) ∧
      Residue kept sent (taken ++ [x]) back := by
  obtain ⟨front, back, rfl, hfront⟩ :=
    List.eq_append_cons_of_mem (List.singleton_sublist.mp (h.bound [x] hsublist))
  have hnone (hkept : kept) : front = [] := by
    obtain ⟨rest, hrest⟩ := hinitial hkept
    rw [← h.exact hkept, List.append_assoc, List.append_cancel_left_eq] at hrest
    cases front with
    | nil => rfl
    | cons y front =>
      obtain ⟨rfl, -⟩ := List.cons.inj hrest
      exact absurd (List.mem_cons_self ..) hfront
  refine ⟨front, back, rfl, hnone, fun more hmore ↦ ?_, fun hkept ↦ ?_⟩
  · rw [List.append_assoc] at hmore
    exact sublist_of_cons_sublist hfront (h.bound _ hmore)
  · have hall := h.exact hkept
    rw [hnone hkept] at hall
    rw [← hall, List.append_assoc]
    rfl

/-! ### Relays -/

/-- The stages of a channel: what waits to be transmitted, what was transmitted, what of it was
delivered, and what of that waits to be taken. -/
structure Relay (α : Type*) where
  outgoing : List α
  sent : List α
  delivered : List α
  inbox : List α

namespace Relay

variable {relay : Relay α} {inFlight : List α} {x : α}

/-- What is in flight in the channel that the stages make up. -/
def Contents (kept : Prop) (relay : Relay α) (inFlight : List α) : Prop :=
  ∃ left, Residue kept relay.sent relay.delivered left ∧
    inFlight = relay.inbox ++ (left ++ relay.outgoing)

theorem contents_nil : Contents kept ⟨[], [], [], ([] : List α)⟩ [] := ⟨[], residue_nil, rfl⟩

/-- A party sends. -/
theorem Contents.post (h : Contents kept relay inFlight) (messages : List α) :
    Contents kept { relay with outgoing := relay.outgoing ++ messages } (inFlight ++ messages) := by
  obtain ⟨left, hleft, rfl⟩ := h
  refine ⟨left, hleft, ?_⟩
  rw [List.append_assoc, List.append_assoc]

/-- The first message is transmitted. -/
theorem Contents.transmit {rest : List α} (h : Contents kept relay inFlight)
    (hfront : relay.outgoing = x :: rest) :
    Contents kept { relay with outgoing := rest, sent := relay.sent ++ [x] } inFlight := by
  obtain ⟨left, hleft, rfl⟩ := h
  refine ⟨left ++ [x], hleft.send x, ?_⟩
  rw [hfront, List.append_assoc]
  rfl

/-- A message is delivered, and waits to be taken or is lost. -/
theorem Contents.arrive (h : Contents kept relay inFlight)
    (hsublist : (relay.delivered ++ [x]).Sublist relay.sent)
    (hinitial : kept → relay.delivered ++ [x] <+: relay.sent) :
    ∃ front back, inFlight = relay.inbox ++ (front ++ x :: back) ∧ (kept → front = []) ∧
      Contents kept { relay with
        delivered := relay.delivered ++ [x], inbox := relay.inbox ++ [x] }
          (relay.inbox ++ x :: back) ∧
      Contents kept { relay with delivered := relay.delivered ++ [x] } (relay.inbox ++ back) := by
  obtain ⟨left, hleft, rfl⟩ := h
  obtain ⟨front, back, rfl, hfront, hback⟩ := hleft.take hsublist hinitial
  refine ⟨front, back ++ relay.outgoing, ?_, hfront, ⟨back, hback, ?_⟩, back, hback, rfl⟩
  · rw [List.append_assoc]
    rfl
  · rw [List.append_assoc]
    rfl

/-- The first message that waits is taken. -/
theorem Contents.get {rest : List α} (h : Contents kept relay inFlight)
    (hfront : relay.inbox = x :: rest) :
    ∃ back, inFlight = x :: back ∧ Contents kept { relay with inbox := rest } back := by
  obtain ⟨left, hleft, rfl⟩ := h
  exact ⟨rest ++ (left ++ relay.outgoing), by rw [hfront]; rfl, left, hleft, rfl⟩

/-- Where everything has been kept and delivered, only what waits at either end is in flight. -/
theorem Contents.eq_of_delivered (h : Contents kept relay inFlight) (hkept : kept)
    (hdelivered : relay.delivered = relay.sent) : inFlight = relay.inbox ++ relay.outgoing := by
  obtain ⟨left, hleft, rfl⟩ := h
  have hall := hleft.exact hkept
  rw [hdelivered, List.append_right_eq_self] at hall
  rw [hall, List.nil_append]

theorem Contents.mem_of_outgoing (h : Contents kept relay inFlight) (hx : x ∈ relay.outgoing) :
    x ∈ inFlight := by
  obtain ⟨left, -, rfl⟩ := h
  exact List.mem_append_right _ (List.mem_append_right _ hx)

end Relay

/-! ### Parties that stop -/

section WhileReading

variable {σ τ υ δ : Type*}

/-- A party that takes a message only while it still reads. -/
def Party.whileReading (reads : σ → Bool) (party : Party σ δ υ) : Party σ δ υ where
  act := party.act
  take state message := if reads state then party.take state message else none

theorem Party.take_of_whileReading {reads : σ → Bool} {party : Party σ δ υ} {state taken : σ}
    {message : δ} (h : (party.whileReading reads).take state message = some taken) :
    party.take state message = some taken := by
  rw [Party.whileReading] at h
  dsimp only at h
  split_ifs at h
  exact h

/-- What parties do that stop, they also do if they go on taking messages. -/
theorem Duplex.step_of_whileReading {clientReads : σ → Bool} {serverReads : τ → Bool}
    {client : Party σ δ υ} {server : Party τ υ δ} {s t : Duplex σ τ υ δ} {event : Event}
    (h : step (client.whileReading clientReads) (server.whileReading serverReads) s event =
      some t) : step client server s event = some t := by
  cases event with
  | clientActs => exact h
  | serverActs => exact h
  | clientTakes position =>
    obtain ⟨message, taken, hmessage, htakes, rfl⟩ := step_clientTakes h
    rw [step, hmessage, Option.bind_some, Party.take_of_whileReading htakes, Option.map_some]
  | serverTakes position =>
    obtain ⟨message, taken, hmessage, htakes, rfl⟩ := step_serverTakes h
    rw [step, hmessage, Option.bind_some, Party.take_of_whileReading htakes, Option.map_some]
  | dropToServer position => exact h
  | dropToClient position => exact h

theorem Duplex.reachable_of_whileReading {clientReads : σ → Bool} {serverReads : τ → Bool}
    {client : Party σ δ υ} {server : Party τ υ δ} {clientInit : σ} {serverInit : τ}
    {guard : Duplex σ τ υ δ → Event → Prop} {start s : Duplex σ τ υ δ}
    (h : (system (client.whileReading clientReads) (server.whileReading serverReads) clientInit
      serverInit).ReachableFrom guard start s) :
    (system client server clientInit serverInit).ReachableFrom guard start s := by
  induction h with
  | refl => exact .refl
  | step _ hguard hstep ih => exact ih.step hguard (step_of_whileReading hstep)

end WhileReading

/-! ### The guard -/

namespace Duplex

variable {σ τ υ δ : Type*}

/-- Messages are taken in the order they were sent in, and dropped unless all are kept. -/
def inOrderKeeping (kept : Prop) (s : Duplex σ τ υ δ) (event : Event) : Prop :=
  inOrder s event ∧ (kept → losslessInOrder s event)

variable {client : Party σ δ υ} {server : Party τ υ δ} {clientInit : σ} {serverInit : τ}
  {s : Duplex σ τ υ δ}

/-- The parties are as they should be, and so are the messages in flight. -/
structure Holds (goodClient : σ → Prop) (goodServer : τ → Prop) (up : υ → Prop) (down : δ → Prop)
    (s : Duplex σ τ υ δ) : Prop where
  client : goodClient s.client
  server : goodServer s.server
  toServer : ∀ message ∈ s.toServer, up message
  toClient : ∀ message ∈ s.toClient, down message

theorem forall_mem_append_toList {p : α → Prop} {inFlight : List α} {sent : Option α}
    (hbefore : ∀ message ∈ inFlight, p message) (hsent : ∀ message ∈ sent, p message) :
    ∀ message ∈ inFlight ++ sent.toList, p message := by
  intro message hmessage
  rcases List.mem_append.mp hmessage with hmessage | hmessage
  · exact hbefore message hmessage
  · exact hsent message (Option.mem_toList.mp hmessage)

theorem forall_mem_eraseIdx {p : α → Prop} {inFlight : List α} (hall : ∀ message ∈ inFlight, p message)
    (position : ℕ) : ∀ message ∈ inFlight.eraseIdx position, p message :=
  fun message hmessage ↦ hall message (List.mem_of_mem_eraseIdx hmessage)

section Holds

variable {goodClient : σ → Prop} {goodServer : τ → Prop} {up : υ → Prop} {down : δ → Prop}

/-- What each party keeps, and gives the messages it sends, from what it takes, holds in every state
reached. -/
theorem holds_of_reachable {guard : Duplex σ τ υ δ → Event → Prop} (hclient : goodClient clientInit)
    (hserver : goodServer serverInit)
    (hclientActs : ∀ state acted sent, goodClient state → client.act state = some (acted, sent) →
      goodClient acted ∧ ∀ message ∈ sent, up message)
    (hserverActs : ∀ state acted sent, goodServer state → server.act state = some (acted, sent) →
      goodServer acted ∧ ∀ message ∈ sent, down message)
    (hclientTakes : ∀ state message taken, goodClient state → down message →
      client.take state message = some taken → goodClient taken)
    (hserverTakes : ∀ state message taken, goodServer state → up message →
      server.take state message = some taken → goodServer taken)
    (h : (system client server clientInit serverInit).Reachable guard s) :
    Holds goodClient goodServer up down s := by
  have hkeeps : ∀ (before : Duplex σ τ υ δ) event after,
      Holds goodClient goodServer up down before → guard before event →
        step client server before event = some after →
          Holds goodClient goodServer up down after := by
    intro before event after hbefore _ hafter
    cases event with
    | clientActs =>
      obtain ⟨acted, sent, hacts, rfl⟩ := step_clientActs hafter
      obtain ⟨hgood, hsent⟩ := hclientActs _ _ _ hbefore.client hacts
      exact { hbefore with
        client := hgood, toServer := forall_mem_append_toList hbefore.toServer hsent }
    | serverActs =>
      obtain ⟨acted, sent, hacts, rfl⟩ := step_serverActs hafter
      obtain ⟨hgood, hsent⟩ := hserverActs _ _ _ hbefore.server hacts
      exact { hbefore with
        server := hgood, toClient := forall_mem_append_toList hbefore.toClient hsent }
    | clientTakes position =>
      obtain ⟨message, taken, hmessage, htakes, rfl⟩ := step_clientTakes hafter
      have hdown := hbefore.toClient message (List.mem_of_getElem? hmessage)
      exact { hbefore with
        client := hclientTakes _ _ _ hbefore.client hdown htakes
        toClient := forall_mem_eraseIdx hbefore.toClient position }
    | serverTakes position =>
      obtain ⟨message, taken, hmessage, htakes, rfl⟩ := step_serverTakes hafter
      have hup := hbefore.toServer message (List.mem_of_getElem? hmessage)
      exact { hbefore with
        server := hserverTakes _ _ _ hbefore.server hup htakes
        toServer := forall_mem_eraseIdx hbefore.toServer position }
    | dropToServer position =>
      obtain rfl := step_dropToServer hafter
      exact { hbefore with toServer := forall_mem_eraseIdx hbefore.toServer position }
    | dropToClient position =>
      obtain rfl := step_dropToClient hafter
      exact { hbefore with toClient := forall_mem_eraseIdx hbefore.toClient position }
  exact h.invariant hkeeps ⟨hclient, hserver, List.forall_mem_nil _, List.forall_mem_nil _⟩

end Holds

/-- Messages in the middle of a channel are dropped, unless all are kept. -/
theorem reachableFrom_dropToServer {before dropped after : List υ}
    (h : s.toServer = before ++ (dropped ++ after)) (hkept : kept → dropped = []) :
    (system client server clientInit serverInit).ReachableFrom (inOrderKeeping kept) s
      { s with toServer := before ++ after } := by
  induction dropped generalizing s with
  | nil =>
    obtain ⟨sClient, sServer, toServer, toClient, clientSent, serverSent⟩ := s
    obtain rfl : toServer = before ++ after := h
    exact .refl
  | cons message dropped ih =>
    have hloses : ¬ kept := fun hall ↦ List.cons_ne_nil _ _ (hkept hall)
    have hstep : (system client server clientInit serverInit).step s
        (.dropToServer before.length) =
          some { s with toServer := before ++ (dropped ++ after) } := by
      change (if before.length < s.toServer.length then _ else _) = _
      rw [if_pos (by rw [h]; simp), h, List.eraseIdx_append_of_length_le le_rfl, Nat.sub_self]
      rfl
    exact (ScheduledSystem.reachableFrom_of_step
      ⟨trivial, fun hall ↦ absurd hall hloses⟩ hstep).trans (ih rfl fun hall ↦ absurd hall hloses)

theorem reachableFrom_dropToClient {before dropped after : List δ}
    (h : s.toClient = before ++ (dropped ++ after)) (hkept : kept → dropped = []) :
    (system client server clientInit serverInit).ReachableFrom (inOrderKeeping kept) s
      { s with toClient := before ++ after } := by
  induction dropped generalizing s with
  | nil =>
    obtain ⟨sClient, sServer, toServer, toClient, clientSent, serverSent⟩ := s
    obtain rfl : toClient = before ++ after := h
    exact .refl
  | cons message dropped ih =>
    have hloses : ¬ kept := fun hall ↦ List.cons_ne_nil _ _ (hkept hall)
    have hstep : (system client server clientInit serverInit).step s
        (.dropToClient before.length) =
          some { s with toClient := before ++ (dropped ++ after) } := by
      change (if before.length < s.toClient.length then _ else _) = _
      rw [if_pos (by rw [h]; simp), h, List.eraseIdx_append_of_length_le le_rfl, Nat.sub_self]
      rfl
    exact (ScheduledSystem.reachableFrom_of_step
      ⟨trivial, fun hall ↦ absurd hall hloses⟩ hstep).trans (ih rfl fun hall ↦ absurd hall hloses)

end Duplex

end NetworkSimulation.Library
