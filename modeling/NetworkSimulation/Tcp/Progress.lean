import NetworkSimulation.Library.RelayedDuplex
import NetworkSimulation.Tcp.Addressing
import NetworkSimulation.Tcp.Lossless

/-!
# A transfer without losses, step by step

A session that loses nothing is at a state of the protocol that loses nothing (`Session.Tracks`),
and every step of it leaves less work there (`Session.Tracks.step`). A call that has returned has
nothing left to read, so it does not matter that it reads no more: where neither call goes on, both
have returned, and the file is written (`Session.Tracks.completed`).
-/

set_option autoImplicit false
set_option relaxedAutoImplicit false

namespace NetworkSimulation.Tcp

open Stack Library

/-! ### Calls that have returned -/

/-- Whether the client still reads from its socket. -/
def Client.reads (client : Client) : Bool := client.point ≠ .returned

/-- Whether the server still reads from its socket. -/
def Server.reads (server : Server) : Bool := server.point ≠ .returned

namespace AckClocked

variable {count replied : ℕ} {s : State}

/-- Nothing is on its way to a client that has returned. -/
theorem Exact.toClient_of_returned (h : Exact count s) (hreturned : s.client.point = .returned) :
    s.toClient = [] := by
  obtain ⟨replied, hflow⟩ := h.flow_of_returned hreturned
  obtain ⟨-, -, hreplied⟩ := hflow.of_returned hreturned
  rw [hflow.toClient, hflow.finished hreturned, hreplied, upTosAfter_self]

/-- Nothing is on its way to a server that has returned. -/
theorem Exact.toServer_of_returned (h : Exact count s) (hreturned : s.server.point = .returned) :
    s.toServer = [] := by
  cases h with
  | opening _ hserver => simp [hserver] at hreturned
  | synSent _ hserver => simp [hserver] at hreturned
  | synTaken _ hserver => simp [hserver] at hreturned
  | synackSent _ hserver => simp [hserver] at hreturned
  | synackTaken _ hserver => simp [hserver] at hreturned
  | ackSent _ hserver => simp [hserver] at hreturned
  | flow replied hflow =>
    rcases hflow.serverPoint with ⟨hwaits, -⟩ | ⟨hreplies, -⟩ | ⟨-, haccepted, hreplied⟩
    · simp [hwaits] at hreturned
    · simp [hreplies] at hreturned
    · have hnext : s.client.next = s.server.accepted :=
        le_antisymm (by rw [haccepted, hreplied]; exact hflow.next_le) hflow.accepted_le
      rw [hflow.toServer, hnext, segmentsFrom_self]

end AckClocked

namespace Session

variable {session : Session} {s t : Duplex Client Server MPDU MPDU} {a : AckClocked.State}

/-! ### Steps -/

/-- A state of the session at a state of a run of the protocol that loses nothing. -/
structure Tracks (session : Session) (s : Duplex Client Server MPDU MPDU) (a : AckClocked.State) :
    Prop where
  represents : session.Represents s a
  flows : AckClocked.Exact session.segmentsToSend.length a

theorem tracks_init : session.Tracks session.connection.init
    (AckClocked.protocol session.segmentsToSend.length).init :=
  ⟨represents_init, AckClocked.exact_init _⟩

/-- Every step leaves less work. -/
theorem Tracks.step (hfile : session.file ≠ []) (hsize : session.file.length < 2 ^ 31)
    (h : session.Tracks s a) {event : Duplex.Event} (hguard : Duplex.losslessInOrder s event)
    (hstep : session.connection.step s event = some t) :
    ∃ b, session.Tracks t b ∧
      AckClocked.State.work session.segmentsToSend.length b <
        AckClocked.State.work session.segmentsToSend.length a := by
  obtain ⟨b, hb, hnext⟩ := (lockstep hfile hsize).exists_step h.represents hstep
  have hallowed := Duplex.losslessInOrder_transfer a hguard
  exact ⟨b, ⟨hnext, AckClocked.exact_step (length_pos hfile) event h.flows hallowed hb⟩,
    AckClocked.work_lt event h.represents.2 h.flows.ahead hallowed hb⟩

theorem Tracks.reachableFrom (hfile : session.file ≠ []) (hsize : session.file.length < 2 ^ 31)
    (h : session.Tracks s a)
    (hreach : session.connection.ReachableFrom Duplex.losslessInOrder s t) :
    ∃ b, session.Tracks t b ∧
      AckClocked.State.work session.segmentsToSend.length b ≤
        AckClocked.State.work session.segmentsToSend.length a := by
  induction hreach with
  | refl => exact ⟨a, h, le_rfl⟩
  | step _ hguard hstep ih =>
    obtain ⟨b, hb, hle⟩ := ih
    obtain ⟨c, hc, hless⟩ := hb.step hfile hsize hguard hstep
    exact ⟨c, hc, hless.le.trans hle⟩

/-! ### Where neither call goes on -/

theorem Tracks.toClient_of_returned (h : session.Tracks s a)
    (hreturned : s.client.point = .returned) : s.toClient = [] := by
  obtain ⟨hrelated, -⟩ := h.represents
  have hnone := h.flows.toClient_of_returned (hrelated.client.point.symm.trans hreturned)
  exact List.forall₂_nil_right_iff.mp (hnone ▸ hrelated.toClient)

theorem Tracks.toServer_of_returned (h : session.Tracks s a)
    (hreturned : s.server.point = .returned) : s.toServer = [] := by
  obtain ⟨hrelated, -⟩ := h.represents
  have hnone := h.flows.toServer_of_returned (hrelated.server.point.symm.trans hreturned)
  exact List.forall₂_nil_right_iff.mp (hnone ▸ hrelated.toServer)

/-- A step of the calls, as long as a call that has returned reads nothing. -/
def stopping (session : Session) : ScheduledSystem (Duplex Client Server MPDU MPDU) Duplex.Event :=
  Duplex.system ((session.client.TCPClient session.segmentsToSend).whileReading Client.reads)
    (session.server.TCPServer.whileReading Server.reads)
    (session.client.start session.clientSegment session.clientPacket)
    (Server.start session.serverSegment session.serverPacket session.serverSN)

/-- Where calls that stop do not go on, calls that read on do not go on either. -/
theorem Tracks.quiescent (h : session.Tracks s a)
    (hquiet : session.stopping.Quiescent Duplex.losslessInOrder s) :
    session.connection.Quiescent Duplex.losslessInOrder s := by
  obtain ⟨hclientActs, hserverActs, hclientTakes, hserverTakes⟩ := Duplex.none_of_quiescent hquiet
  intro event hguard
  cases event with
  | clientActs => exact Option.map_eq_none_iff.mpr hclientActs
  | serverActs => exact Option.map_eq_none_iff.mpr hserverActs
  | clientTakes position =>
    obtain rfl : position = 0 := hguard
    change s.toClient[0]?.bind _ = none
    cases hdown : s.toClient with
    | nil => rfl
    | cons message rest =>
      have hopen : s.client.point ≠ .returned := fun hreturned ↦
        List.cons_ne_nil _ _ (hdown.symm.trans (h.toClient_of_returned hreturned))
      have hnone := hclientTakes message rest hdown
      rw [Party.whileReading] at hnone
      dsimp only at hnone
      rw [if_pos (by simpa [Client.reads] using hopen)] at hnone
      exact Option.map_eq_none_iff.mpr hnone
  | serverTakes position =>
    obtain rfl : position = 0 := hguard
    change s.toServer[0]?.bind _ = none
    cases hup : s.toServer with
    | nil => rfl
    | cons message rest =>
      have hopen : s.server.point ≠ .returned := fun hreturned ↦
        List.cons_ne_nil _ _ (hup.symm.trans (h.toServer_of_returned hreturned))
      have hnone := hserverTakes message rest hup
      rw [Party.whileReading] at hnone
      dsimp only at hnone
      rw [if_pos (by simpa [Server.reads] using hopen)] at hnone
      exact Option.map_eq_none_iff.mpr hnone
  | dropToServer position => exact hguard.elim
  | dropToClient position => exact hguard.elim

/-- Where neither call goes on, both have returned, and the transfer is complete. -/
theorem Tracks.completed (hfile : session.file ≠ []) (hsize : session.file.length < 2 ^ 31)
    (h : session.Tracks s a) (hquiet : session.stopping.Quiescent Duplex.losslessInOrder s) :
    s.client.point = .returned ∧ s.server.point = .returned ∧ session.Completed s := by
  have hstuck : (AckClocked.protocol session.segmentsToSend.length).Quiescent
      Duplex.losslessInOrder a :=
    (lockstep hfile hsize).quiescent (fun _ hallowed ↦ Duplex.losslessInOrder_transfer _ hallowed)
      h.represents (h.quiescent hquiet)
  obtain ⟨hclient, hserver⟩ := AckClocked.returned_of_quiescent h.flows hstuck
  obtain ⟨replied, hflow⟩ := h.flows.flow_of_returned hclient
  obtain ⟨hrelated, -⟩ := h.represents
  exact ⟨hrelated.client.point.trans hclient, hrelated.server.point.trans hserver,
    completed_of_flow hfile h.represents hflow hclient⟩

end Session

end NetworkSimulation.Tcp
