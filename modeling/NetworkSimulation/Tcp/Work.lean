import NetworkSimulation.Tcp.AckClocked

/-!
# The work left in a transfer

`State.work` bounds the number of steps left as long as nothing is dropped and the client never goes
back. It is made of the points of the parties, the segments not yet sent and the messages in flight,
weighted so that a message is worth more than what it makes the other party do. Only an ACK that
acknowledges no more than the client knows makes it grow (`work_lt`).
-/

set_option autoImplicit false
set_option relaxedAutoImplicit false

namespace NetworkSimulation.Tcp.AckClocked

open Library

/-- Weights of the points at which the parties are, so that every step makes the total smaller. -/
def clientWork : ClientPoint → ℕ
  | .sendSYN => 11
  | .waitSYNACK => 5
  | .sendACK => 7
  | .loopTop => 1
  | .sendAnother => 2
  | .waitACK | .returned | .outOfRange => 0

def serverWork : ServerPoint → ℕ
  | .sendSYNACK | .resendSYNACK | .sendReply => 4
  | .waitSYN | .waitACK | .waitSegment | .returned | .outOfRange => 0

/-- An upper bound for the number of steps left: from the points of the parties, the number of
segments not sent, and the numbers of messages in flight. -/
def work (clientPoint : ClientPoint) (serverPoint : ServerPoint) (unsent up down : ℕ) : ℕ :=
  clientWork clientPoint + serverWork serverPoint + 5 * unsent + 5 * up + 3 * down

def State.work (count : ℕ) (s : State) : ℕ :=
  AckClocked.work s.client.point s.server.point (count - s.client.next) s.toServer.length
    s.toClient.length

variable {count : ℕ} {s t : State}

theorem work_init (count : ℕ) : State.work count (protocol count).init = 5 * count + 11 := by
  change 11 + 0 + 5 * (count - 0) + 5 * 0 + 3 * 0 = 5 * count + 11
  omega

/-- A client that waits gets to know more from what it is about to take. -/
def Ahead (s : State) : Prop :=
  ∀ message ∈ s.toClient.head?, s.client.point = .waitACK → s.client.last < message.accepted

/-- A segment sent moves from the segments not sent to the messages in flight. -/
theorem work_sendSegment {point : ClientPoint}
    (hless : clientWork point < clientWork s.client.point) :
    State.work count { s with
      client := (s.client.sendSegment count point).1
      toServer := s.toServer ++ (s.client.sendSegment count point).2.toList
      clientSent := s.clientSent ++ (s.client.sendSegment count point).2.toList } <
      State.work count s := by
  rw [Client.sendSegment]
  split_ifs with hmore
  · simp only [State.work, work, Option.toList_some, List.length_append, List.length_singleton]
    omega
  · simp only [State.work, work, Option.toList_none, List.append_nil]
    omega

theorem work_lt_of_clientActs
    (h : Duplex.step (client count) (server count) s .clientActs = some t) :
    State.work count t < State.work count s := by
  obtain ⟨acted, sent, hacts, rfl⟩ := Duplex.step_clientActs h
  cases Client.acts_of_act hacts with
  | sendSYN hpoint =>
    simp only [State.work, work, hpoint, clientWork, Option.toList_some, List.length_append,
      List.length_singleton]
    omega
  | sendACK hpoint =>
    simp only [State.work, work, hpoint, clientWork, Option.toList_some, List.length_append,
      List.length_singleton]
    omega
  | loopTop hpoint => exact work_sendSegment (by simp [hpoint, clientWork])
  | finish hpoint =>
    simp only [State.work, work, hpoint, clientWork, Option.toList_none, List.append_nil]
    omega
  | sendAnother hpoint => exact work_sendSegment (by simp [hpoint, clientWork])

theorem work_lt_of_serverActs (hs : Safe count s)
    (h : Duplex.step (client count) (server count) s .serverActs = some t) :
    State.work count t < State.work count s := by
  obtain ⟨acted, sent, hacts, rfl⟩ := Duplex.step_serverActs h
  cases Server.acts_of_act hacts with
  | sendSYNACK hpoint =>
    simp only [State.work, work, hpoint, serverWork, Option.toList_some, List.length_append,
      List.length_singleton]
    omega
  | resendSYNACK hpoint => exact absurd hpoint hs.server_ne_resendSYNACK
  | sendReply hpoint =>
    simp only [State.work, work, hpoint, Option.toList_some, List.length_append,
      List.length_singleton]
    split_ifs <;> simp only [serverWork] <;> omega

theorem work_lt_of_clientTakes (hs : Safe count s) (hahead : Ahead s)
    (h : Duplex.step (client count) (server count) s (.clientTakes 0) = some t) :
    State.work count t < State.work count s := by
  obtain ⟨message, taken, hmessage, htakes, rfl⟩ := Duplex.step_clientTakes h
  have hlength := congrArg List.length (Duplex.eq_cons_of_getElem?_zero hmessage)
  rw [List.length_cons] at hlength
  cases Client.takes_of_take htakes with
  | waitSYNACK hpoint =>
    obtain rfl := hs.eq_synack hpoint (List.mem_of_getElem? hmessage)
    simp only [State.work, work, hpoint, hlength, clientWork, if_true]
    omega
  | waitACK hpoint =>
    have hmore := hahead message (by rw [List.head?_eq_getElem?]; exact hmessage) hpoint
    simp only [State.work, work, hpoint, hlength, Client.takeACK, if_pos hmore]
    split_ifs <;> simp only [clientWork] <;> omega
  | returned =>
    simp only [State.work, work, hlength]
    omega

/-- A message is worth more than whatever the server does with it. -/
theorem work_lt_of_serverTakes
    (h : Duplex.step (client count) (server count) s (.serverTakes 0) = some t) :
    State.work count t < State.work count s := by
  obtain ⟨message, taken, hmessage, -, rfl⟩ := Duplex.step_serverTakes h
  have hlength := congrArg List.length (Duplex.eq_cons_of_getElem?_zero hmessage)
  rw [List.length_cons] at hlength
  have hbound : serverWork taken.point < 5 := by
    generalize taken.point = point
    cases point <;> simp [serverWork]
  simp only [State.work, work, hlength]
  omega

/-- Without losses every step leaves less work, unless the client goes back. -/
theorem work_lt (event : Duplex.Event) (hs : Safe count s) (hahead : Ahead s)
    (hguard : Duplex.losslessInOrder s event)
    (h : Duplex.step (client count) (server count) s event = some t) :
    State.work count t < State.work count s := by
  cases event with
  | clientActs => exact work_lt_of_clientActs h
  | serverActs => exact work_lt_of_serverActs hs h
  | clientTakes position =>
    obtain rfl : position = 0 := hguard
    exact work_lt_of_clientTakes hs hahead h
  | serverTakes position =>
    obtain rfl : position = 0 := hguard
    exact work_lt_of_serverTakes h
  | dropToServer position => exact hguard.elim
  | dropToClient position => exact hguard.elim

end NetworkSimulation.Tcp.AckClocked
