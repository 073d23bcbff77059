import NetworkSimulation.Tcp.Parties

/-!
# What the TCP parties are for

The transfer without its encoding: `count` segments known by their index, replies that acknowledge
all segments before an index, a client that counts on and a server that counts what it accepted. The
parties go through the points of the program's functions. A reply that acknowledges more than any
before moves the client on, any other makes it start again at the first segment not acknowledged;
either way it then sends up to two segments, so it is the replies that keep the transfer going.

`Safe` is the invariant of all runs, whatever is dropped and in whatever order messages are taken.
Until the server has answered a segment the client has sent nothing but the first one
(`Safe.firstSegment`), so the segment that stands in for a lost ACK, or meets it, is always that
one. From then on (`Transfer`) no message in flight acknowledges more than the server has accepted.
-/

set_option autoImplicit false
set_option relaxedAutoImplicit false

namespace NetworkSimulation.Tcp.AckClocked

open Library

/-! ### The protocol -/

/-- What the client sends. -/
inductive Up
  | syn
  | ack
  | segment (index : ℕ)
  deriving DecidableEq

/-- What the server sends. -/
inductive Down
  | synack
  | upTo (accepted : ℕ)
  deriving DecidableEq

/-- The number of segments that a message of the server acknowledges. -/
def Down.accepted : Down → ℕ
  | .synack => 0
  | .upTo accepted => accepted

structure Client where
  point : ClientPoint
  next : ℕ
  last : ℕ

structure Server where
  point : ServerPoint
  accepted : ℕ
  reply : Down

namespace Client

variable (count : ℕ) (client : Client)

def sendSegment (point : ClientPoint) : Client × Option Up :=
  if client.next < count then
    ({ client with point, next := client.next + 1 }, some (.segment client.next))
  else ({ client with point }, none)

def act : Option (Client × Option Up) :=
  match client.point with
  | .sendSYN => some ({ client with point := .waitSYNACK }, some .syn)
  | .sendACK => some ({ client with point := .loopTop }, some .ack)
  | .loopTop =>
    if client.last < count then some (client.sendSegment count .waitACK)
    else some ({ client with point := .returned }, none)
  | .sendAnother => some (client.sendSegment count .loopTop)
  | .waitSYNACK | .waitACK | .returned | .outOfRange => none

def takeACK (accepted : ℕ) : Client where
  point := if accepted = count then .returned else .sendAnother
  next := if client.last < accepted then client.next else client.last
  last := max client.last accepted

def take (message : Down) : Option Client :=
  match client.point with
  | .waitSYNACK =>
    some { client with point := if message = .synack then .sendACK else .sendSYN }
  | .waitACK => some (client.takeACK count message.accepted)
  | .returned => some client
  | .sendSYN | .sendACK | .loopTop | .sendAnother | .outOfRange => none

end Client

namespace Server

variable (count : ℕ) (server : Server)

def act : Option (Server × Option Down) :=
  match server.point with
  | .sendSYNACK => some ({ server with point := .waitACK }, some server.reply)
  | .resendSYNACK => some (server, some server.reply)
  | .sendReply =>
    some ({ server with point := if server.accepted = count then .returned else .waitSegment },
      some server.reply)
  | .waitSYN | .waitACK | .waitSegment | .returned | .outOfRange => none

def takeSegment : Up → Server
  | .syn => { server with point := .sendReply }
  | .ack =>
    if server.accepted = 0 then { server with point := .sendReply, reply := .upTo 0 }
    else { server with point := .sendReply }
  | .segment index =>
    if index = server.accepted then
      { point := .sendReply
        accepted := server.accepted + 1
        reply := .upTo (server.accepted + 1) }
    else { server with point := .sendReply }

def take (message : Up) : Option Server :=
  match server.point with
  | .waitSYN =>
    some (if message = .syn then { server with point := .sendSYNACK, reply := .synack } else server)
  | .waitACK =>
    some { server with point := if message = .syn then .resendSYNACK else .waitSegment }
  | .waitSegment => some (server.takeSegment message)
  | .returned => some server
  | .sendSYNACK | .resendSYNACK | .sendReply | .outOfRange => none

end Server

abbrev State := Duplex Client Server Up Down

def client (count : ℕ) : Party Client Down Up where
  act := Client.act count
  take := Client.take count

def server (count : ℕ) : Party Server Up Down where
  act := Server.act count
  take := Server.take

def protocol (count : ℕ) : ScheduledSystem State Duplex.Event :=
  Duplex.system (client count) (server count) ⟨.sendSYN, 0, 0⟩ ⟨.waitSYN, 0, .synack⟩

/-! ### What a party can do -/

/-- What a client that acts does. -/
inductive Client.Acts (count : ℕ) (client : Client) : Client → Option Up → Prop
  | sendSYN (hpoint : client.point = .sendSYN) :
      Client.Acts count client { client with point := .waitSYNACK } (some .syn)
  | sendACK (hpoint : client.point = .sendACK) :
      Client.Acts count client { client with point := .loopTop } (some .ack)
  | loopTop (hpoint : client.point = .loopTop) (hmore : client.last < count) :
      Client.Acts count client (client.sendSegment count .waitACK).1
        (client.sendSegment count .waitACK).2
  | finish (hpoint : client.point = .loopTop) (hdone : ¬ client.last < count) :
      Client.Acts count client { client with point := .returned } none
  | sendAnother (hpoint : client.point = .sendAnother) :
      Client.Acts count client (client.sendSegment count .loopTop).1
        (client.sendSegment count .loopTop).2

/-- What a client that takes a message does. -/
inductive Client.Takes (count : ℕ) (client : Client) (message : Down) : Client → Prop
  | waitSYNACK (hpoint : client.point = .waitSYNACK) :
      Client.Takes count client message
        { client with point := if message = .synack then .sendACK else .sendSYN }
  | waitACK (hpoint : client.point = .waitACK) :
      Client.Takes count client message (client.takeACK count message.accepted)
  | returned (hpoint : client.point = .returned) : Client.Takes count client message client

/-- What a server that acts does. -/
inductive Server.Acts (count : ℕ) (server : Server) : Server → Option Down → Prop
  | sendSYNACK (hpoint : server.point = .sendSYNACK) :
      Server.Acts count server { server with point := .waitACK } (some server.reply)
  | resendSYNACK (hpoint : server.point = .resendSYNACK) :
      Server.Acts count server server (some server.reply)
  | sendReply (hpoint : server.point = .sendReply) :
      Server.Acts count server
        { server with point := if server.accepted = count then .returned else .waitSegment }
        (some server.reply)

/-- What a server that takes a message does. -/
inductive Server.Takes (server : Server) (message : Up) : Server → Prop
  | waitSYN (hpoint : server.point = .waitSYN) :
      Server.Takes server message
        (if message = .syn then { server with point := .sendSYNACK, reply := .synack } else server)
  | waitACK (hpoint : server.point = .waitACK) :
      Server.Takes server message
        { server with point := if message = .syn then .resendSYNACK else .waitSegment }
  | waitSegment (hpoint : server.point = .waitSegment) :
      Server.Takes server message (server.takeSegment message)
  | returned (hpoint : server.point = .returned) : Server.Takes server message server

theorem Client.acts_of_act {count : ℕ} {client acted : Client} {sent : Option Up}
    (h : client.act count = some (acted, sent)) : client.Acts count acted sent := by
  cases hpoint : client.point with
  | sendSYN =>
    simp only [act, hpoint] at h
    cases h
    exact .sendSYN hpoint
  | sendACK =>
    simp only [act, hpoint] at h
    cases h
    exact .sendACK hpoint
  | loopTop =>
    simp only [act, hpoint] at h
    split_ifs at h with hmore
    · have hsegment := Acts.loopTop hpoint hmore
      rwa [Option.some.inj h] at hsegment
    · cases h
      exact .finish hpoint hmore
  | sendAnother =>
    simp only [act, hpoint] at h
    have hsegment : Acts count client _ _ := Acts.sendAnother hpoint
    rwa [Option.some.inj h] at hsegment
  | waitSYNACK => simp only [act, hpoint, reduceCtorEq] at h
  | waitACK => simp only [act, hpoint, reduceCtorEq] at h
  | returned => simp only [act, hpoint, reduceCtorEq] at h
  | outOfRange => simp only [act, hpoint, reduceCtorEq] at h

theorem Client.takes_of_take {count : ℕ} {client taken : Client} {message : Down}
    (h : client.take count message = some taken) : client.Takes count message taken := by
  cases hpoint : client.point with
  | waitSYNACK =>
    simp only [take, hpoint] at h
    cases h
    exact .waitSYNACK hpoint
  | waitACK =>
    simp only [take, hpoint] at h
    cases h
    exact .waitACK hpoint
  | returned =>
    simp only [take, hpoint] at h
    cases h
    exact .returned hpoint
  | sendSYN => simp only [take, hpoint, reduceCtorEq] at h
  | sendACK => simp only [take, hpoint, reduceCtorEq] at h
  | loopTop => simp only [take, hpoint, reduceCtorEq] at h
  | sendAnother => simp only [take, hpoint, reduceCtorEq] at h
  | outOfRange => simp only [take, hpoint, reduceCtorEq] at h

theorem Server.acts_of_act {count : ℕ} {server acted : Server} {sent : Option Down}
    (h : server.act count = some (acted, sent)) : server.Acts count acted sent := by
  cases hpoint : server.point with
  | sendSYNACK =>
    simp only [act, hpoint] at h
    cases h
    exact .sendSYNACK hpoint
  | resendSYNACK =>
    simp only [act, hpoint] at h
    cases h
    exact .resendSYNACK hpoint
  | sendReply =>
    simp only [act, hpoint] at h
    cases h
    exact .sendReply hpoint
  | waitSYN => simp only [act, hpoint, reduceCtorEq] at h
  | waitACK => simp only [act, hpoint, reduceCtorEq] at h
  | waitSegment => simp only [act, hpoint, reduceCtorEq] at h
  | returned => simp only [act, hpoint, reduceCtorEq] at h
  | outOfRange => simp only [act, hpoint, reduceCtorEq] at h

theorem Server.takes_of_take {server taken : Server} {message : Up}
    (h : server.take message = some taken) : server.Takes message taken := by
  cases hpoint : server.point with
  | waitSYN =>
    simp only [take, hpoint] at h
    cases h
    exact .waitSYN hpoint
  | waitACK =>
    simp only [take, hpoint] at h
    cases h
    exact .waitACK hpoint
  | waitSegment =>
    simp only [take, hpoint] at h
    cases h
    exact .waitSegment hpoint
  | returned =>
    simp only [take, hpoint] at h
    cases h
    exact .returned hpoint
  | sendSYNACK => simp only [take, hpoint, reduceCtorEq] at h
  | resendSYNACK => simp only [take, hpoint, reduceCtorEq] at h
  | sendReply => simp only [take, hpoint, reduceCtorEq] at h
  | outOfRange => simp only [take, hpoint, reduceCtorEq] at h

/-! ### The invariant -/

/-- The state once the server has accepted a segment, or the ACK as an empty one. -/
structure Transfer (count : ℕ) (s : State) : Prop where
  clientPoint : s.client.point = .loopTop ∨ s.client.point = .waitACK ∨
    s.client.point = .sendAnother ∨ s.client.point = .returned
  unfinished : s.client.point ≠ .returned → s.client.last < count
  finished : s.client.point = .returned → s.server.accepted = count
  last_le : s.client.last ≤ s.server.accepted
  accepted_le : s.server.accepted ≤ count
  serverPoint : s.server.point = .waitSegment ∧ s.server.accepted < count ∨
    s.server.point = .sendReply ∨ s.server.point = .returned ∧ s.server.accepted = count
  reply : s.server.reply = .upTo s.server.accepted
  toServer : ∀ message ∈ s.toServer, message = .ack ∨ ∃ i < count, message = .segment i
  toClient : ∀ message ∈ s.toClient, ∃ accepted ≤ s.server.accepted, message = .upTo accepted

/-- The invariant, stage by stage. -/
inductive Safe (count : ℕ) (s : State) : Prop
  | opening (hclient : s.client = ⟨.sendSYN, 0, 0⟩) (hserver : s.server = ⟨.waitSYN, 0, .synack⟩)
    (hup : s.toServer = []) (hdown : s.toClient = [])
  | synSent (hclient : s.client = ⟨.waitSYNACK, 0, 0⟩)
    (hserver : s.server = ⟨.waitSYN, 0, .synack⟩) (hup : s.toServer = [] ∨ s.toServer = [.syn])
    (hdown : s.toClient = [])
  | synTaken (hclient : s.client = ⟨.waitSYNACK, 0, 0⟩)
    (hserver : s.server = ⟨.sendSYNACK, 0, .synack⟩) (hup : s.toServer = [])
    (hdown : s.toClient = [])
  | synackSent (hclient : s.client = ⟨.waitSYNACK, 0, 0⟩)
    (hserver : s.server = ⟨.waitACK, 0, .synack⟩) (hup : s.toServer = [])
    (hdown : s.toClient = [] ∨ s.toClient = [.synack])
  | synackTaken (hclient : s.client = ⟨.sendACK, 0, 0⟩)
    (hserver : s.server = ⟨.waitACK, 0, .synack⟩) (hup : s.toServer = []) (hdown : s.toClient = [])
  | firstSegment
    (hclient : s.client = ⟨.loopTop, 0, 0⟩ ∨ s.client = ⟨.waitACK, 1, 0⟩)
    (hserver : s.server = ⟨.waitACK, 0, .synack⟩ ∨ s.server = ⟨.waitSegment, 0, .synack⟩)
    (hup : ∀ message ∈ s.toServer, message = .ack ∨ message = .segment 0)
    (hdown : s.toClient = [])
  | transfer (h : Transfer count s)

section Steps

variable {count : ℕ} {s t : State} {position : ℕ}

theorem eraseIdx_of_singleton {α : Type*} {list : List α} {x : α} (h : list = [] ∨ list = [x])
    (i : ℕ) : list.eraseIdx i = [] ∨ list.eraseIdx i = [x] := by
  rcases h with rfl | rfl
  · exact Or.inl rfl
  · cases i with
    | zero => exact Or.inl rfl
    | succ i => exact Or.inr rfl

theorem eraseIdx_of_taken {α : Type*} {list : List α} {x y : α} (h : list = [x])
    (htaken : list[position]? = some y) : list.eraseIdx position = [] := by
  rw [h] at htaken ⊢
  obtain ⟨hposition, -⟩ := List.getElem?_eq_some_iff.mp htaken
  obtain rfl : position = 0 := Nat.lt_one_iff.mp hposition
  rfl

theorem safe_dropToServer (hs : Safe count s) (i : ℕ) :
    Safe count { s with toServer := s.toServer.eraseIdx i } := by
  cases hs with
  | opening hclient hserver hup hdown =>
    exact .opening hclient hserver (by rw [hup]; rfl) hdown
  | synSent hclient hserver hup hdown =>
    exact .synSent hclient hserver (eraseIdx_of_singleton hup i) hdown
  | synTaken hclient hserver hup hdown =>
    exact .synTaken hclient hserver (by rw [hup]; rfl) hdown
  | synackSent hclient hserver hup hdown =>
    exact .synackSent hclient hserver (by rw [hup]; rfl) hdown
  | synackTaken hclient hserver hup hdown =>
    exact .synackTaken hclient hserver (by rw [hup]; rfl) hdown
  | firstSegment hclient hserver hup hdown =>
    exact .firstSegment hclient hserver
      (fun message hmessage ↦ hup message (List.mem_of_mem_eraseIdx hmessage)) hdown
  | transfer h =>
    exact .transfer { h with
      toServer := fun message hmessage ↦ h.toServer message (List.mem_of_mem_eraseIdx hmessage) }

theorem safe_dropToClient (hs : Safe count s) (i : ℕ) :
    Safe count { s with toClient := s.toClient.eraseIdx i } := by
  cases hs with
  | opening hclient hserver hup hdown =>
    exact .opening hclient hserver hup (by rw [hdown]; rfl)
  | synSent hclient hserver hup hdown =>
    exact .synSent hclient hserver hup (by rw [hdown]; rfl)
  | synTaken hclient hserver hup hdown =>
    exact .synTaken hclient hserver hup (by rw [hdown]; rfl)
  | synackSent hclient hserver hup hdown =>
    exact .synackSent hclient hserver hup (eraseIdx_of_singleton hdown i)
  | synackTaken hclient hserver hup hdown =>
    exact .synackTaken hclient hserver hup (by rw [hdown]; rfl)
  | firstSegment hclient hserver hup hdown =>
    exact .firstSegment hclient hserver hup (by rw [hdown]; rfl)
  | transfer h =>
    exact .transfer { h with
      toClient := fun message hmessage ↦ h.toClient message (List.mem_of_mem_eraseIdx hmessage) }

/-- Sending the next segment, if there is one, keeps the transfer going. -/
theorem Transfer.sendSegment (h : Transfer count s) (hrunning : s.client.point ≠ .returned)
    {point : ClientPoint} (hpoint : point = .waitACK ∨ point = .loopTop) :
    Transfer count { s with
      client := (s.client.sendSegment count point).1
      toServer := s.toServer ++ (s.client.sendSegment count point).2.toList
      clientSent := s.clientSent ++ (s.client.sendSegment count point).2.toList } := by
  have hstill : point ≠ .returned := by rcases hpoint with rfl | rfl <;> simp
  have hloop : point = .loopTop ∨ point = .waitACK ∨ point = .sendAnother ∨ point = .returned :=
    hpoint.elim (fun hwait ↦ Or.inr (Or.inl hwait)) Or.inl
  rw [Client.sendSegment]
  split_ifs with hmore
  · refine ⟨hloop, fun _ ↦ h.unfinished hrunning, fun hreturned ↦ absurd hreturned hstill, h.last_le,
      h.accepted_le, h.serverPoint, h.reply, ?_, h.toClient⟩
    intro message hmessage
    rcases List.mem_append.mp hmessage with hbefore | hnew
    · exact h.toServer message hbefore
    · exact Or.inr ⟨_, hmore, List.mem_singleton.mp hnew⟩
  · refine ⟨hloop, fun _ ↦ h.unfinished hrunning, fun hreturned ↦ absurd hreturned hstill, h.last_le,
      h.accepted_le, h.serverPoint, h.reply, ?_, h.toClient⟩
    rw [Option.toList_none, List.append_nil]
    exact h.toServer

theorem safe_clientActs (hcount : 0 < count) (hs : Safe count s)
    (h : Duplex.step (client count) (server count) s .clientActs = some t) : Safe count t := by
  obtain ⟨acted, sent, hacts, rfl⟩ := Duplex.step_clientActs h
  change Client.act count s.client = _ at hacts
  cases hs with
  | opening hclient hserver hup hdown =>
    rw [hclient] at hacts
    cases hacts
    exact .synSent rfl hserver (Or.inr (by rw [hup]; rfl)) hdown
  | synSent hclient =>
    rw [hclient] at hacts
    cases hacts
  | synTaken hclient =>
    rw [hclient] at hacts
    cases hacts
  | synackSent hclient =>
    rw [hclient] at hacts
    cases hacts
  | synackTaken hclient hserver hup hdown =>
    rw [hclient] at hacts
    cases hacts
    refine .firstSegment (Or.inl rfl) (Or.inl hserver) ?_ hdown
    rw [hup]
    intro message hmessage
    exact Or.inl (List.mem_singleton.mp hmessage)
  | firstSegment hclient hserver hup hdown =>
    rcases hclient with hclient | hclient
    · rw [hclient, Client.act, if_pos hcount, Client.sendSegment, if_pos hcount] at hacts
      cases hacts
      refine .firstSegment (Or.inr rfl) hserver ?_ hdown
      intro message hmessage
      rcases List.mem_append.mp hmessage with hbefore | hnew
      · exact hup message hbefore
      · exact Or.inr (List.mem_singleton.mp hnew)
    · rw [hclient] at hacts
      cases hacts
  | transfer htransfer =>
    have hpoint := htransfer.clientPoint
    cases Client.acts_of_act hacts with
    | sendSYN hacting => simp [hacting] at hpoint
    | sendACK hacting => simp [hacting] at hpoint
    | loopTop hacting =>
      exact .transfer (htransfer.sendSegment (by simp [hacting]) (Or.inl rfl))
    | finish hacting hdone => exact absurd (htransfer.unfinished (by simp [hacting])) hdone
    | sendAnother hacting =>
      exact .transfer (htransfer.sendSegment (by simp [hacting]) (Or.inr rfl))

/-- The server replies, and waits for another segment unless it has accepted the last. -/
theorem Transfer.sendReply (h : Transfer count s) :
    Transfer count { s with
      server := { s.server with
        point := if s.server.accepted = count then .returned else .waitSegment }
      toClient := s.toClient ++ [s.server.reply]
      serverSent := s.serverSent ++ [s.server.reply] } := by
  refine ⟨h.clientPoint, h.unfinished, h.finished, h.last_le, h.accepted_le, ?_, h.reply,
    h.toServer, ?_⟩
  · change (if _ then _ else _) = _ ∧ _ ∨ (if _ then _ else _) = _ ∨ (if _ then _ else _) = _ ∧ _
    split_ifs with hend
    · exact Or.inr (Or.inr ⟨rfl, hend⟩)
    · exact Or.inl ⟨rfl, lt_of_le_of_ne h.accepted_le hend⟩
  · intro message hmessage
    rcases List.mem_append.mp hmessage with hbefore | hnew
    · exact h.toClient message hbefore
    · exact ⟨_, le_rfl, (List.mem_singleton.mp hnew).trans h.reply⟩

theorem safe_serverActs (hs : Safe count s)
    (h : Duplex.step (client count) (server count) s .serverActs = some t) : Safe count t := by
  obtain ⟨acted, sent, hacts, rfl⟩ := Duplex.step_serverActs h
  change Server.act count s.server = _ at hacts
  cases hs with
  | opening _ hserver =>
    rw [hserver] at hacts
    cases hacts
  | synSent _ hserver =>
    rw [hserver] at hacts
    cases hacts
  | synTaken hclient hserver hup hdown =>
    rw [hserver] at hacts
    cases hacts
    exact .synackSent hclient rfl hup (Or.inr (by rw [hdown]; rfl))
  | synackSent _ hserver =>
    rw [hserver] at hacts
    cases hacts
  | synackTaken _ hserver =>
    rw [hserver] at hacts
    cases hacts
  | firstSegment _ hserver =>
    rcases hserver with hserver | hserver <;>
    · rw [hserver] at hacts
      cases hacts
  | transfer htransfer =>
    have hpoint := htransfer.serverPoint
    cases Server.acts_of_act hacts with
    | sendSYNACK hacting => simp [hacting] at hpoint
    | resendSYNACK hacting => simp [hacting] at hpoint
    | sendReply hacting =>
      exact .transfer htransfer.sendReply

theorem Client.takeACK_point (client : Client) (count accepted : ℕ) :
    (client.takeACK count accepted).point =
      if accepted = count then .returned else .sendAnother := rfl

theorem Client.takeACK_point_cases (client : Client) (count accepted : ℕ) :
    (client.takeACK count accepted).point = .sendAnother ∨
      (client.takeACK count accepted).point = .returned := by
  rw [takeACK_point]
  split_ifs
  · exact Or.inr rfl
  · exact Or.inl rfl

/-- A client returns when it takes the ACK of everything. -/
theorem Client.takeACK_point_eq_returned_iff (client : Client) (count accepted : ℕ) :
    (client.takeACK count accepted).point = .returned ↔ accepted = count := by
  rw [takeACK_point]
  split_ifs with hend
  · exact iff_of_true rfl hend
  · exact iff_of_false nofun hend

/-- The client gets to know what the server has accepted, and returns only if that is everything. -/
theorem Transfer.takeACK (h : Transfer count s) (hrunning : s.client.point ≠ .returned)
    {accepted : ℕ} (hle : accepted ≤ s.server.accepted) :
    Transfer count { s with
      client := s.client.takeACK count accepted, toClient := s.toClient.eraseIdx position } := by
  have hcounted := h.accepted_le
  have hreturns := s.client.takeACK_point_eq_returned_iff count accepted
  refine ⟨Or.inr (Or.inr (s.client.takeACK_point_cases count accepted)), fun hgoesOn ↦ ?_,
    fun hreturned ↦ ?_, max_le h.last_le hle, hcounted, h.serverPoint, h.reply, h.toServer,
    fun left hleft ↦ h.toClient left (List.mem_of_mem_eraseIdx hleft)⟩
  · have hmore : accepted ≠ count := mt hreturns.mpr hgoesOn
    exact max_lt (h.unfinished hrunning) (lt_of_le_of_ne (hle.trans hcounted) hmore)
  · have hend : accepted = count := hreturns.mp hreturned
    exact le_antisymm hcounted (hend ▸ hle)

theorem safe_clientTakes (hs : Safe count s)
    (h : Duplex.step (client count) (server count) s (.clientTakes position) = some t) :
    Safe count t := by
  obtain ⟨message, taken, hmessage, htakes, rfl⟩ := Duplex.step_clientTakes h
  have hmember := List.mem_of_getElem? hmessage
  change Client.take count s.client message = _ at htakes
  cases hs with
  | opening hclient =>
    rw [hclient] at htakes
    cases htakes
  | synSent _ _ _ hdown =>
    rw [hdown] at hmember
    cases hmember
  | synTaken _ _ _ hdown =>
    rw [hdown] at hmember
    cases hmember
  | synackSent hclient hserver hup hdown =>
    rcases hdown with hdown | hdown
    · rw [hdown] at hmember
      cases hmember
    · rw [hdown, List.mem_singleton] at hmember
      subst hmember
      rw [hclient] at htakes
      cases htakes
      exact .synackTaken rfl hserver hup (eraseIdx_of_taken hdown hmessage)
  | synackTaken hclient =>
    rw [hclient] at htakes
    cases htakes
  | firstSegment _ _ _ hdown =>
    rw [hdown] at hmember
    cases hmember
  | transfer htransfer =>
    have hpoint := htransfer.clientPoint
    cases Client.takes_of_take htakes with
    | waitSYNACK hwaiting => simp [hwaiting] at hpoint
    | waitACK hwaiting =>
      obtain ⟨accepted, hle, rfl⟩ := htransfer.toClient message hmember
      exact .transfer (htransfer.takeACK (by simp [hwaiting]) hle)
    | returned =>
      exact .transfer { htransfer with
        toClient := fun left hleft ↦ htransfer.toClient left (List.mem_of_mem_eraseIdx hleft) }

/-- The server's answer to the ACK or a segment: it accepts the segment it waits for, and nothing
else changes what it has accepted. -/
theorem Transfer.takeSegment (h : Transfer count s) (hroom : s.server.accepted < count)
    {message : Up} (hmember : message ∈ s.toServer) :
    Transfer count { s with
      server := s.server.takeSegment message, toServer := s.toServer.eraseIdx position } := by
  have hfewer : ∀ left ∈ s.toServer.eraseIdx position,
      left = .ack ∨ ∃ i < count, left = .segment i :=
    fun left hleft ↦ h.toServer left (List.mem_of_mem_eraseIdx hleft)
  have hopen : s.client.point = .returned → False := fun hreturned ↦
    hroom.ne (h.finished hreturned)
  rcases h.toServer message hmember with rfl | ⟨i, hi, rfl⟩
  · rw [Server.takeSegment]
    split_ifs with hzero
    · exact ⟨h.clientPoint, h.unfinished, h.finished, h.last_le, h.accepted_le, Or.inr (Or.inl rfl),
        congrArg Down.upTo hzero.symm, hfewer, h.toClient⟩
    · exact ⟨h.clientPoint, h.unfinished, h.finished, h.last_le, h.accepted_le, Or.inr (Or.inl rfl),
        h.reply, hfewer, h.toClient⟩
  · rw [Server.takeSegment]
    split_ifs with hnext
    · refine ⟨h.clientPoint, h.unfinished, fun hreturned ↦ (hopen hreturned).elim,
        h.last_le.trans (Nat.le_succ _), hroom, Or.inr (Or.inl rfl), rfl, hfewer, ?_⟩
      intro left hleft
      obtain ⟨accepted, hle, hleftEq⟩ := h.toClient left hleft
      exact ⟨accepted, hle.trans (Nat.le_succ _), hleftEq⟩
    · exact ⟨h.clientPoint, h.unfinished, h.finished, h.last_le, h.accepted_le, Or.inr (Or.inl rfl),
        h.reply, hfewer, h.toClient⟩

/-- Whatever the server accepts first, the ACK as an empty segment or the first segment, the
transfer is under way. -/
theorem transfer_of_firstSegment (hcount : 0 < count)
    (hclient : s.client = ⟨.loopTop, 0, 0⟩ ∨ s.client = ⟨.waitACK, 1, 0⟩)
    (hup : ∀ message ∈ s.toServer.eraseIdx position, message = .ack ∨ message = .segment 0)
    (hdown : s.toClient = []) {accepted : ℕ} (haccepted : accepted ≤ count) :
    Transfer count { s with
      server := ⟨.sendReply, accepted, .upTo accepted⟩
      toServer := s.toServer.eraseIdx position } := by
  have hpoint : s.client.point = .loopTop ∨ s.client.point = .waitACK ∨
      s.client.point = .sendAnother ∨ s.client.point = .returned := by
    rcases hclient with hclient | hclient <;> simp [hclient]
  have hrunning : s.client.point ≠ .returned := by
    rcases hclient with hclient | hclient <;> simp [hclient]
  have hlast : s.client.last = 0 := by rcases hclient with hclient | hclient <;> rw [hclient]
  refine ⟨hpoint, fun _ ↦ hlast ▸ hcount, fun hreturned ↦ absurd hreturned hrunning,
    hlast.le.trans (Nat.zero_le _), haccepted, Or.inr (Or.inl rfl), rfl, ?_, ?_⟩
  · exact fun left hleft ↦ (hup left hleft).imp_right fun hzero ↦ ⟨0, hcount, hzero⟩
  · intro left hleft
    have hnone : left ∈ s.toClient := hleft
    rw [hdown] at hnone
    cases hnone

theorem safe_serverTakes (hcount : 0 < count) (hs : Safe count s)
    (h : Duplex.step (client count) (server count) s (.serverTakes position) = some t) :
    Safe count t := by
  obtain ⟨message, taken, hmessage, htakes, rfl⟩ := Duplex.step_serverTakes h
  have hmember := List.mem_of_getElem? hmessage
  change Server.take s.server message = _ at htakes
  cases hs with
  | opening _ _ hup =>
    rw [hup] at hmember
    cases hmember
  | synSent hclient hserver hup hdown =>
    rcases hup with hup | hup
    · rw [hup] at hmember
      cases hmember
    · rw [hup, List.mem_singleton] at hmember
      subst hmember
      rw [hserver] at htakes
      cases htakes
      exact .synTaken hclient rfl (eraseIdx_of_taken hup hmessage) hdown
  | synTaken _ _ hup =>
    rw [hup] at hmember
    cases hmember
  | synackSent _ _ hup =>
    rw [hup] at hmember
    cases hmember
  | synackTaken _ _ hup =>
    rw [hup] at hmember
    cases hmember
  | firstSegment hclient hserver hup hdown =>
    have hfewer : ∀ left ∈ s.toServer.eraseIdx position, left = .ack ∨ left = .segment 0 :=
      fun left hleft ↦ hup left (List.mem_of_mem_eraseIdx hleft)
    rcases hserver with hserver | hserver
    · rw [hserver] at htakes
      have hnotSyn : message ≠ .syn := by rcases hup message hmember with rfl | rfl <;> simp
      simp only [Server.take, if_neg hnotSyn] at htakes
      cases htakes
      exact .firstSegment hclient (Or.inr rfl) hfewer hdown
    · rw [hserver] at htakes
      rcases hup message hmember with rfl | rfl
      · cases htakes
        exact .transfer (transfer_of_firstSegment hcount hclient hfewer hdown hcount.le)
      · cases htakes
        exact .transfer (transfer_of_firstSegment hcount hclient hfewer hdown hcount)
  | transfer htransfer =>
    have hpoint := htransfer.serverPoint
    cases Server.takes_of_take htakes with
    | waitSYN hwaiting => simp [hwaiting] at hpoint
    | waitACK hwaiting => simp [hwaiting] at hpoint
    | waitSegment hwaiting =>
      simp only [hwaiting, true_and, reduceCtorEq, false_and, or_false] at hpoint
      exact .transfer (htransfer.takeSegment hpoint hmember)
    | returned =>
      exact .transfer { htransfer with
        toServer := fun left hleft ↦ htransfer.toServer left (List.mem_of_mem_eraseIdx hleft) }

theorem safe_step (hcount : 0 < count) (event : Duplex.Event) (hs : Safe count s)
    (h : Duplex.step (client count) (server count) s event = some t) : Safe count t := by
  cases event with
  | clientActs => exact safe_clientActs hcount hs h
  | serverActs => exact safe_serverActs hs h
  | clientTakes position => exact safe_clientTakes hs h
  | serverTakes position => exact safe_serverTakes hcount hs h
  | dropToServer position =>
    rw [Duplex.step_dropToServer h]
    exact safe_dropToServer hs position
  | dropToClient position =>
    rw [Duplex.step_dropToClient h]
    exact safe_dropToClient hs position

theorem safe_init (count : ℕ) : Safe count (protocol count).init := .opening rfl rfl rfl rfl

end Steps

/-! ### What can be in flight -/

namespace Safe

variable {count : ℕ} {s : State} (h : Safe count s)

include h

theorem eq_synack {message : Down} (hpoint : s.client.point = .waitSYNACK)
    (hmessage : message ∈ s.toClient) : message = .synack := by
  cases h with
  | opening hclient => simp [hclient] at hpoint
  | synSent _ _ _ hdown => simp [hdown] at hmessage
  | synTaken _ _ _ hdown => simp [hdown] at hmessage
  | synackSent _ _ _ hdown =>
    rcases hdown with hdown | hdown <;> simp [hdown] at hmessage
    exact hmessage
  | synackTaken hclient => simp [hclient] at hpoint
  | firstSegment _ _ _ hdown => simp [hdown] at hmessage
  | transfer htransfer => rcases htransfer.clientPoint with h | h | h | h <;> simp [h] at hpoint

/-- A client that waits for an ACK has a segment left to be acknowledged, and gets no more
acknowledged than there is. -/
theorem eq_upTo {message : Down} (hpoint : s.client.point = .waitACK)
    (hmessage : message ∈ s.toClient) :
    s.client.last < count ∧ ∃ accepted ≤ count, message = .upTo accepted := by
  cases h with
  | opening hclient => simp [hclient] at hpoint
  | synSent hclient => simp [hclient] at hpoint
  | synTaken hclient => simp [hclient] at hpoint
  | synackSent hclient => simp [hclient] at hpoint
  | synackTaken hclient => simp [hclient] at hpoint
  | firstSegment _ _ _ hdown => simp [hdown] at hmessage
  | transfer htransfer =>
    obtain ⟨accepted, hle, hmessage⟩ := htransfer.toClient message hmessage
    exact ⟨htransfer.unfinished (by simp [hpoint]), accepted, hle.trans htransfer.accepted_le,
      hmessage⟩

theorem eq_syn {message : Up} (hpoint : s.server.point = .waitSYN)
    (hmessage : message ∈ s.toServer) : message = .syn := by
  cases h with
  | opening _ _ hup => simp [hup] at hmessage
  | synSent _ _ hup =>
    rcases hup with hup | hup <;> simp [hup] at hmessage
    exact hmessage
  | synTaken _ _ hup => simp [hup] at hmessage
  | synackSent _ _ hup => simp [hup] at hmessage
  | synackTaken _ _ hup => simp [hup] at hmessage
  | firstSegment _ hserver =>
    rcases hserver with hserver | hserver <;> simp [hserver] at hpoint
  | transfer htransfer =>
    rcases htransfer.serverPoint with ⟨h, -⟩ | h | ⟨h, -⟩ <;> simp [h] at hpoint

/-- What completes the handshake is the ACK or the first segment. -/
theorem eq_ack_or_segment_zero {message : Up} (hpoint : s.server.point = .waitACK)
    (hmessage : message ∈ s.toServer) :
    s.server = ⟨.waitACK, 0, .synack⟩ ∧ (message = .ack ∨ message = .segment 0) := by
  cases h with
  | opening _ _ hup => simp [hup] at hmessage
  | synSent _ hserver => simp [hserver] at hpoint
  | synTaken _ _ hup => simp [hup] at hmessage
  | synackSent _ _ hup => simp [hup] at hmessage
  | synackTaken _ _ hup => simp [hup] at hmessage
  | firstSegment _ hserver hup =>
    rcases hserver with hserver | hserver
    · exact ⟨hserver, hup message hmessage⟩
    · simp [hserver] at hpoint
  | transfer htransfer =>
    rcases htransfer.serverPoint with ⟨h, -⟩ | h | ⟨h, -⟩ <;> simp [h] at hpoint

theorem eq_ack_or_segment {message : Up} (hcount : 0 < count)
    (hpoint : s.server.point = .waitSegment) (hmessage : message ∈ s.toServer) :
    s.server.accepted < count ∧ (message = .ack ∨ ∃ i < count, message = .segment i) := by
  cases h with
  | opening _ hserver => simp [hserver] at hpoint
  | synSent _ hserver => simp [hserver] at hpoint
  | synTaken _ hserver => simp [hserver] at hpoint
  | synackSent _ hserver => simp [hserver] at hpoint
  | synackTaken _ hserver => simp [hserver] at hpoint
  | firstSegment _ hserver hup =>
    rcases hserver with hserver | hserver
    · simp [hserver] at hpoint
    · refine ⟨by rw [hserver]; exact hcount, ?_⟩
      exact (hup message hmessage).imp_right fun hzero ↦ ⟨0, hcount, hzero⟩
  | transfer htransfer =>
    refine ⟨?_, htransfer.toServer message hmessage⟩
    rcases htransfer.serverPoint with ⟨-, hroom⟩ | h | ⟨h, -⟩
    · exact hroom
    · simp [h] at hpoint
    · simp [h] at hpoint

/-- The server has nothing left to read when the client is about to complete the handshake. -/
theorem of_sendACK (hpoint : s.client.point = .sendACK) :
    s.client = ⟨.sendACK, 0, 0⟩ ∧ s.server = ⟨.waitACK, 0, .synack⟩ ∧ s.toServer = [] := by
  cases h with
  | opening hclient => simp [hclient] at hpoint
  | synSent hclient => simp [hclient] at hpoint
  | synTaken hclient => simp [hclient] at hpoint
  | synackSent hclient => simp [hclient] at hpoint
  | synackTaken hclient hserver hup => exact ⟨hclient, hserver, hup⟩
  | firstSegment hclient => rcases hclient with hclient | hclient <;> simp [hclient] at hpoint
  | transfer htransfer => rcases htransfer.clientPoint with h | h | h | h <;> simp [h] at hpoint

/-- Before the transfer nothing is accepted, and neither party is near its end. -/
theorem transfer_or_early : Transfer count s ∨
    s.client.last = 0 ∧ s.server.accepted = 0 ∧
      s.client.point ∈ [ClientPoint.sendSYN, .waitSYNACK, .sendACK, .loopTop, .waitACK] ∧
        s.server.point ∈ [ServerPoint.waitSYN, .sendSYNACK, .waitACK, .waitSegment] := by
  cases h with
  | opening hclient hserver => simp [hclient, hserver]
  | synSent hclient hserver => simp [hclient, hserver]
  | synTaken hclient hserver => simp [hclient, hserver]
  | synackSent hclient hserver => simp [hclient, hserver]
  | synackTaken hclient hserver => simp [hclient, hserver]
  | firstSegment hclient hserver =>
    rcases hclient with hclient | hclient <;> rcases hserver with hserver | hserver <;>
      simp [hclient, hserver]
  | transfer htransfer => exact Or.inl htransfer

theorem reply_eq (hpoint : s.server.point = .sendReply) :
    s.server.reply = .upTo s.server.accepted := by
  rcases h.transfer_or_early with htransfer | ⟨-, -, -, hserver⟩
  · exact htransfer.reply
  · simp [hpoint] at hserver

/-- Whatever the client knows to be acknowledged has been accepted. -/
theorem last_le_accepted : s.client.last ≤ s.server.accepted := by
  rcases h.transfer_or_early with htransfer | ⟨hlast, -⟩
  · exact htransfer.last_le
  · rw [hlast]
    exact Nat.zero_le _

theorem accepted_le : s.server.accepted ≤ count := by
  rcases h.transfer_or_early with htransfer | ⟨-, haccepted, -⟩
  · exact htransfer.accepted_le
  · rw [haccepted]
    exact Nat.zero_le _

/-- The client never leaves the segments. -/
theorem client_ne_outOfRange : s.client.point ≠ .outOfRange := by
  intro hpoint
  rcases h.transfer_or_early with htransfer | ⟨-, -, hclient, -⟩
  · rcases htransfer.clientPoint with h | h | h | h <;> simp [h] at hpoint
  · simp [hpoint] at hclient

/-- The server never gets a frame that makes it resend the SYNACK. -/
theorem server_ne_resendSYNACK : s.server.point ≠ .resendSYNACK := by
  intro hpoint
  rcases h.transfer_or_early with htransfer | ⟨-, -, -, hserver⟩
  · rcases htransfer.serverPoint with ⟨h, -⟩ | h | ⟨h, -⟩ <;> simp [h] at hpoint
  · simp [hpoint] at hserver

/-- A party returns only when the server has accepted everything. -/
theorem accepted_eq_of_returned
    (hreturned : s.client.point = .returned ∨ s.server.point = .returned) :
    s.server.accepted = count := by
  rcases h.transfer_or_early with htransfer | ⟨-, -, hclient, hserver⟩
  · rcases hreturned with hreturned | hreturned
    · exact htransfer.finished hreturned
    · rcases htransfer.serverPoint with ⟨h, -⟩ | h | ⟨-, haccepted⟩
      · simp [h] at hreturned
      · simp [h] at hreturned
      · exact haccepted
  · rcases hreturned with hreturned | hreturned
    · simp [hreturned] at hclient
    · simp [hreturned] at hserver

/-- When the client has returned, the last reply acknowledges everything. -/
theorem reply_eq_of_returned (hreturned : s.client.point = .returned) :
    s.server.point ≠ .waitSYN ∧ s.server.reply = .upTo count := by
  rcases h.transfer_or_early with htransfer | ⟨-, -, hclient, -⟩
  · refine ⟨fun hpoint ↦ ?_, by rw [htransfer.reply, htransfer.finished hreturned]⟩
    rcases htransfer.serverPoint with ⟨h, -⟩ | h | ⟨h, -⟩ <;> simp [h] at hpoint
  · simp [hreturned] at hclient

end Safe

end NetworkSimulation.Tcp.AckClocked
