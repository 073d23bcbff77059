import NetworkSimulation.Tcp.Refinement

/-!
# What a TCP transfer never gets wrong

Whatever is dropped, and in whatever order frames are delivered, the server writes a prefix of the
file and returns only with all of it (`written_prefix`), and the client never knows more than the
server has accepted, never looks for a segment that is not there, and returns only when the server
has everything (`client_behind_server`). Both are read off the invariant of the protocol in the
state that the session represents.
-/

set_option autoImplicit false
set_option relaxedAutoImplicit false

namespace NetworkSimulation.Tcp

open Stack Library

variable {session : Session} {s : Duplex Client Server MPDU MPDU}

/-- In every reachable state the server has written the payloads of the first segments, a prefix of
the file; once the connection is established, the sequence number it accepts next is one more than
the number of bytes written; and if it has returned, it has written the file. -/
theorem written_prefix (hfile : session.file ≠ []) (hsize : session.file.length < 2 ^ 31)
    (h : session.connection.Reachable Duplex.anyOrder s) :
    (∃ k ≤ session.segmentsToSend.length,
      s.server.written = payloadBytes (session.segmentsToSend.take k)) ∧
    s.server.written <+: session.file ∧
    (s.server.connectionEstablished = true →
      s.server.nextSN.toNat = 1 + s.server.written.length) ∧
    (s.server.point = .returned → s.server.written = session.file) := by
  obtain ⟨a, -, hrelated, hsafe⟩ := Session.exists_represented hfile hsize
    (fun _ _ _ _ hguard ↦ hguard) h
  have hsegments := session.isSegmentation hfile
  have hwritten := hrelated.server.written
  refine ⟨⟨a.server.accepted, hsafe.accepted_le, hwritten⟩, ?_, fun hestablished ↦ ?_,
    fun hreturned ↦ ?_⟩
  · refine ⟨payloadBytes (session.segmentsToSend.drop a.server.accepted), ?_⟩
    rw [hwritten, ← payloadBytes_append, List.take_append_drop, hsegments.payloadBytes]
  · rw [nextSN_eq hrelated.server hestablished, toNat_boundary hsegments hsize, boundary, hwritten]
  · have haccepted := hsafe.accepted_eq_of_returned
      (Or.inr (hrelated.server.point.symm.trans hreturned))
    rw [hwritten, haccepted, List.take_length, hsegments.payloadBytes]

theorem written_prefix_witness :
    ∃ h : (threeBytes.connection.run Duplex.anyOrder threeBytes.connection.init
        [.clientActs, .serverTakes 0, .serverActs, .clientTakes 0, .clientActs, .clientActs,
          .serverTakes 1, .serverTakes 0, .serverActs]).isSome,
      (∃ k ≤ threeBytes.segmentsToSend.length,
        (Option.get _ h).server.written = payloadBytes (threeBytes.segmentsToSend.take k)) ∧
      (Option.get _ h).server.written <+: threeBytes.file ∧
      ((Option.get _ h).server.connectionEstablished = true →
        (Option.get _ h).server.nextSN.toNat = 1 + (Option.get _ h).server.written.length) ∧
      ((Option.get _ h).server.point = .returned →
        (Option.get _ h).server.written = threeBytes.file) :=
  ⟨by decide +kernel, written_prefix (by decide) (by decide)
    (ScheduledSystem.reachable_of_isSome_run _)⟩

/-- In every reachable state the client's `last_unACKd_index` is at most the number of segments the
server has accepted, `at` has not been called out of range, and if the client has returned, the
server has accepted the last segment, with FIN, and written the file. -/
theorem client_behind_server (hfile : session.file ≠ []) (hsize : session.file.length < 2 ^ 31)
    (h : session.connection.Reachable Duplex.anyOrder s) :
    (∃ k ≤ session.segmentsToSend.length,
      s.server.written = payloadBytes (session.segmentsToSend.take k) ∧
      s.client.lastUnACKdIndex ≤ k ∧
      (s.client.point = .returned → k = session.segmentsToSend.length)) ∧
    s.client.point ≠ .outOfRange ∧
    (s.client.point = .returned →
      s.server.txSegment.details &&& TCP_FIN ≠ 0 ∧ s.server.written = session.file) := by
  obtain ⟨a, -, hrelated, hsafe⟩ := Session.exists_represented hfile hsize
    (fun _ _ _ _ hguard ↦ hguard) h
  have hsegments := session.isSegmentation hfile
  have hwritten := hrelated.server.written
  have hpoint := hrelated.client.point
  refine ⟨⟨a.server.accepted, hsafe.accepted_le, hwritten, ?_, fun hreturned ↦ ?_⟩, ?_,
    fun hreturned ↦ ⟨?_, ?_⟩⟩
  · rw [hrelated.client.last]
    exact hsafe.last_le_accepted
  · exact hsafe.accepted_eq_of_returned (Or.inl (hpoint.symm.trans hreturned))
  · rw [hpoint]
    exact hsafe.client_ne_outOfRange
  · obtain ⟨hlater, hreply⟩ := hsafe.reply_eq_of_returned (hpoint.symm.trans hreturned)
    obtain ⟨-, hdown⟩ := hrelated.server.reply hlater
    rw [hreply] at hdown
    exact (details_and_fin _ hdown).mpr rfl
  · have haccepted := hsafe.accepted_eq_of_returned (Or.inl (hpoint.symm.trans hreturned))
    rw [hwritten, haccepted, List.take_length, hsegments.payloadBytes]

/-- The ACK for the second segment is dropped, so the last ACK is for two segments. -/
theorem client_behind_server_witness :
    ∃ h : (threeSegments.connection.run Duplex.anyOrder threeSegments.connection.init
        [.clientActs, .serverTakes 0, .serverActs, .clientTakes 0, .clientActs, .clientActs,
          .serverTakes 0, .serverTakes 0, .serverActs, .clientTakes 0, .clientActs, .clientActs,
          .serverTakes 0, .serverActs, .dropToClient 0, .serverTakes 0, .serverActs,
          .clientTakes 0]).isSome,
      (∃ k ≤ threeSegments.segmentsToSend.length,
        (Option.get _ h).server.written = payloadBytes (threeSegments.segmentsToSend.take k) ∧
        (Option.get _ h).client.lastUnACKdIndex ≤ k ∧
        ((Option.get _ h).client.point = .returned → k = threeSegments.segmentsToSend.length)) ∧
      (Option.get _ h).client.point ≠ .outOfRange ∧
      ((Option.get _ h).client.point = .returned →
        (Option.get _ h).server.txSegment.details &&& TCP_FIN ≠ 0 ∧
          (Option.get _ h).server.written = threeSegments.file) ∧
      (Option.get _ h).client.point = .returned := by
  have hrun : (threeSegments.connection.run Duplex.anyOrder threeSegments.connection.init
      [.clientActs, .serverTakes 0, .serverActs, .clientTakes 0, .clientActs, .clientActs,
        .serverTakes 0, .serverTakes 0, .serverActs, .clientTakes 0, .clientActs, .clientActs,
        .serverTakes 0, .serverActs, .dropToClient 0, .serverTakes 0, .serverActs,
        .clientTakes 0]).isSome := by decide +kernel
  have hpoint : (Option.get _ hrun).client.point = .returned := by decide +kernel +revert
  obtain ⟨hbehind, hrange, hreturned⟩ := client_behind_server (by decide +kernel)
    (by decide +kernel) (ScheduledSystem.reachable_of_isSome_run hrun)
  exact ⟨hrun, hbehind, hrange, hreturned, hpoint⟩

end NetworkSimulation.Tcp
