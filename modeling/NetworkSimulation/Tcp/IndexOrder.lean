import NetworkSimulation.Stack.FileLoops
import NetworkSimulation.Tcp.Deadlock
import NetworkSimulation.Tcp.FallingBehind

/-!
# The client's two indices

`TCP_client` moves `next_segment_index` when it sends and back to `last_unACKd_index` on a stale
ACK, and it moves `last_unACKd_index` when a segment is acknowledged. A cumulative ACK takes the
latter to the segment after the one it ends at, and does not look where the former is. If it was
reset before, it may be behind: the client then sends segments that it knows to be acknowledged, and
waits for another ACK while still behind.

The functions fall behind where the protocol does, with the ACK numbers read as numbers of segments
(`fallsBehind_iff`). So a network that drops a frame only where the state it leaves does not fall
behind never brings the indices out of order, and any other drop does without a further drop
(`index_order`). Four segments and four ACKs that are lost in twelve are enough
(`not_forall_keepsIndexOrder`).
-/

set_option autoImplicit false
set_option relaxedAutoImplicit false

namespace NetworkSimulation.Tcp

open Stack Library

/-- The client does not fall behind what it knows to be acknowledged: not while it waits for an ACK,
and not in a segment that it sends from its loop. -/
structure ClientCall.KeepsIndexOrder (call : ClientCall) (segmentsToSend : List TCP)
    (client : Client) : Prop where
  waits : client.point = .waitACK → client.lastUnACKdIndex ≤ client.nextSegmentIndex
  sends : client.point = .loopTop ∨ client.point = .sendAnother → ∀ acted frame,
    call.act segmentsToSend client = some (acted, some frame) →
      client.lastUnACKdIndex ≤ client.nextSegmentIndex

namespace Session

variable (session : Session)

/-- The client's indices are in order. -/
def KeepsIndexOrder (s : Duplex Client Server MPDU MPDU) : Prop :=
  session.client.KeepsIndexOrder session.segmentsToSend s.client

/-- The number of segments that end before a sequence number. -/
def acknowledged (number : ℕ) : ℕ :=
  session.segmentsToSend.countP fun segment ↦ (segmentSpan segment).2 ≤ number

/-- The ACKs on their way, with the answer to the next segment, will outrun the client, which sends
two segments on each of them. -/
def FallsBehind (s : Duplex Client Server MPDU MPDU) : Prop :=
  s.client.point.InLoop ∧ ((session.outlook s).map session.acknowledged).Outrun 2
    (min session.segmentsToSend.length (s.client.nextSegmentIndex + s.client.point.sends))

instance (s : Duplex Client Server MPDU MPDU) : Decidable (session.FallsBehind s) :=
  inferInstanceAs (Decidable (_ ∧ _))

/-- Frames are taken in the order they were sent in, and one is dropped only where the client does
not fall behind in the state that is left. -/
def keepingUp (s : Duplex Client Server MPDU MPDU) : Duplex.Event → Prop
  | .clientTakes position | .serverTakes position => position = 0
  | .dropToServer position =>
    ¬ session.FallsBehind { s with toServer := s.toServer.eraseIdx position }
  | .dropToClient position =>
    ¬ session.FallsBehind { s with toClient := s.toClient.eraseIdx position }
  | .clientActs | .serverActs => True

instance (s : Duplex Client Server MPDU MPDU) : ∀ event, Decidable (session.keepingUp s event)
  | .clientTakes position | .serverTakes position => inferInstanceAs (Decidable (position = 0))
  | .dropToServer _ | .dropToClient _ => inferInstanceAs (Decidable (¬ _))
  | .clientActs | .serverActs => .isTrue trivial

end Session

/-! ### The functions and the protocol -/

section Correspondence

variable {session : Session} {s : Duplex Client Server MPDU MPDU} {a : AckClocked.State}

/-- A boundary acknowledges the segments before it. -/
theorem acknowledged_boundary (hfile : session.file ≠ []) (hsize : session.file.length < 2 ^ 31)
    {index : ℕ} (hindex : index ≤ session.segmentsToSend.length) :
    session.acknowledged (boundary session.segmentsToSend index) = index := by
  have hsegments := session.isSegmentation hfile
  have hends (i : ℕ) (hi : i < session.segmentsToSend.length) :
      (segmentSpan session.segmentsToSend[i]).2 = boundary session.segmentsToSend (i + 1) :=
    congrArg Prod.snd (segmentSpan_eq hsegments hsize hi)
  have hbefore : (session.segmentsToSend.take index).countP (fun segment ↦
      (segmentSpan segment).2 ≤ boundary session.segmentsToSend index) = index := by
    rw [List.countP_eq_length.mpr, List.length_take, min_eq_left hindex]
    intro segment hsegment
    obtain ⟨i, hi, rfl⟩ := List.mem_iff_getElem.mp hsegment
    rw [List.length_take, lt_min_iff] at hi
    rw [List.getElem_take, hends i hi.2, decide_eq_true_eq]
    rcases eq_or_lt_of_le (show i + 1 ≤ index from hi.1) with hlast | hless
    · rw [hlast]
    · exact (boundary_lt_boundary hsegments hless hindex).le
  have hafter : (session.segmentsToSend.drop index).countP (fun segment ↦
      (segmentSpan segment).2 ≤ boundary session.segmentsToSend index) = 0 := by
    rw [List.countP_eq_zero]
    intro segment hsegment
    obtain ⟨i, hi, rfl⟩ := List.mem_iff_getElem.mp hsegment
    rw [List.length_drop] at hi
    have hbound : index + i < session.segmentsToSend.length := by omega
    rw [List.getElem_drop, hends (index + i) hbound, decide_eq_true_eq, not_le]
    exact boundary_lt_boundary hsegments (by omega) hbound
  rw [Session.acknowledged, ← List.take_append_drop index session.segmentsToSend,
    List.countP_append, List.take_append_drop, hbefore, hafter, Nat.add_zero]

/-- What a client expects, in segments, is what the protocol's client expects. -/
theorem map_outlook_eq (hfile : session.file ≠ []) (hsize : session.file.length < 2 ^ 31)
    (hrel : session.Represents s a) (hloop : a.client.point.InLoop) :
    (session.outlook s).map session.acknowledged =
      AckClocked.outlook session.segmentsToSend.length a := by
  rw [outlook_eq hfile hsize hrel hloop]
  exact Outlook.map_map_of_leftInverse
    (AckClocked.outlook_within (Session.length_pos hfile) hrel.2 hloop)
    fun index hindex ↦ acknowledged_boundary hfile hsize hindex

/-- A client falls behind exactly where the protocol's client does. -/
theorem fallsBehind_iff (hfile : session.file ≠ []) (hsize : session.file.length < 2 ^ 31)
    (hrel : session.Represents s a) :
    session.FallsBehind s ↔ AckClocked.FallsBehind session.segmentsToSend.length a := by
  rw [Session.FallsBehind, AckClocked.FallsBehind, hrel.1.client.point, hrel.1.client.next]
  refine and_congr_right fun hloop ↦ ?_
  rw [map_outlook_eq hfile hsize hrel hloop]

/-- A client that has not sent all segments sends one. -/
theorem exists_sendSegment (call : ClientCall) {segments : List TCP} {client : Client}
    (hmore : client.nextSegmentIndex < segments.length) (point : ClientPoint) :
    ∃ acted frame, call.sendSegment segments client point = (acted, some frame) := by
  rw [ClientCall.sendSegment, List.getElem?_eq_getElem hmore]
  exact ⟨_, _, rfl⟩

/-- The indices are in order exactly where the protocol's are. -/
theorem keepsIndexOrder_iff (hfile : session.file ≠ []) (hrel : session.Represents s a) :
    session.KeepsIndexOrder s ↔ a.client.KeepsUp := by
  have hclient := hrel.1.client
  constructor
  · intro h hloop
    have hlast := hrel.2.last_lt (Session.length_pos hfile) hloop
    rw [← hclient.last, ← hclient.next]
    rw [← hclient.last] at hlast
    rcases lt_or_ge s.client.nextSegmentIndex session.segmentsToSend.length with hmore | hend
    · obtain ⟨acted, frame, hsends⟩ := exists_sendSegment session.client hmore .waitACK
      obtain ⟨other, another, hanother⟩ :=
        exists_sendSegment session.client hmore .loopTop
      rcases hloop with hpoint | hpoint | hpoint
      · refine h.sends (.inl (hclient.point.trans hpoint)) acted frame ?_
        simp only [ClientCall.act, hclient.point, hpoint, if_pos hlast, hsends]
      · exact h.waits (hclient.point.trans hpoint)
      · refine h.sends (.inr (hclient.point.trans hpoint)) other another ?_
        simp only [ClientCall.act, hclient.point, hpoint, hanother]
    · exact (hlast.trans_le hend).le
  · intro h
    have hle (hloop : s.client.point.InLoop) :
        s.client.lastUnACKdIndex ≤ s.client.nextSegmentIndex := by
      rw [hclient.last, hclient.next]
      exact h (hclient.point ▸ hloop)
    exact ⟨fun hpoint ↦ hle (.inr (.inl hpoint)),
      fun hpoint _ _ _ ↦ hle (hpoint.imp_right .inr)⟩

end Correspondence

/-! ### Runs -/

section Runs

variable {session : Session} {s t : Duplex Client Server MPDU MPDU}

/-- A state that keeps the order and does not fall behind, at one of the protocol. -/
structure Session.KeepsPace (session : Session) (s : Duplex Client Server MPDU MPDU)
    (a : AckClocked.State) : Prop where
  represents : session.Represents s a
  inSequence : AckClocked.InSequence session.segmentsToSend.length a
  keepsUp : a.client.KeepsUp
  ahead : ¬ session.FallsBehind s

theorem Session.KeepsPace.step (hfile : session.file ≠ []) (hsize : session.file.length < 2 ^ 31)
    {a : AckClocked.State} {event : Duplex.Event} (h : session.KeepsPace s a)
    (hguard : session.keepingUp s event) (hstep : session.connection.step s event = some t) :
    ∃ b, session.KeepsPace t b := by
  have hcount := Session.length_pos hfile
  obtain ⟨b, hother, hb⟩ := (Session.lockstep hfile hsize).exists_step h.represents hstep
  have hinOrder : Duplex.inOrder a event := by cases event <;> first | exact hguard | trivial
  have hseq := AckClocked.inSequence_step event h.represents.2 h.inSequence hinOrder hother
  have hlossless (hallowed : Duplex.losslessInOrder a event) : session.KeepsPace t b := by
    have hnone := (AckClocked.fallsBehind_step hcount event h.represents.2 h.inSequence h.keepsUp
      hallowed hother).not.mp (mt (fallsBehind_iff hfile hsize h.represents).mpr h.ahead)
    obtain ⟨hahead, hkeeps⟩ := not_or.mp hnone
    exact ⟨hb, hseq, not_not.mp hkeeps, mt (fallsBehind_iff hfile hsize hb).mp hahead⟩
  refine ⟨b, ?_⟩
  change Duplex.step (session.client.TCPClient session.segmentsToSend) session.server.TCPServer
    s event = some t at hstep
  change Duplex.step (AckClocked.client session.segmentsToSend.length)
    (AckClocked.server session.segmentsToSend.length) a event = some b at hother
  cases event with
  | clientActs => exact hlossless trivial
  | serverActs => exact hlossless trivial
  | clientTakes position => exact hlossless hguard
  | serverTakes position => exact hlossless hguard
  | dropToServer position =>
    obtain rfl := Duplex.step_dropToServer hstep
    obtain rfl := Duplex.step_dropToServer hother
    exact ⟨hb, hseq, h.keepsUp, hguard⟩
  | dropToClient position =>
    obtain rfl := Duplex.step_dropToClient hstep
    obtain rfl := Duplex.step_dropToClient hother
    exact ⟨hb, hseq, h.keepsUp, hguard⟩

/-- From a state that does not fall behind, the order is kept as long as every drop leaves one. -/
theorem keepsIndexOrder_of_keepsPace (hfile : session.file ≠ [])
    (hsize : session.file.length < 2 ^ 31) {a : AckClocked.State} (h : session.KeepsPace s a)
    (hreach : session.connection.ReachableFrom session.keepingUp s t) :
    session.KeepsIndexOrder t := by
  obtain ⟨b, hb⟩ := ScheduledSystem.ReachableFrom.invariant
    (fun s event t (hs : ∃ a, session.KeepsPace s a) hguard hstep ↦
      hs.elim fun _ ha ↦ ha.step hfile hsize hguard hstep) ⟨a, h⟩ hreach
  exact (keepsIndexOrder_iff hfile hb.represents).mpr hb.keepsUp

/-- The ACKs are in sequence in every state of the protocol over channels that keep the order. -/
theorem inSequence_of_reachable {count : ℕ} (hcount : 0 < count) {a : AckClocked.State}
    (h : (AckClocked.protocol count).Reachable Duplex.inOrder a) :
    AckClocked.InSequence count a := by
  have hboth := ScheduledSystem.ReachableFrom.invariant
    (fun s event t (hs : AckClocked.Safe count s ∧ AckClocked.InSequence count s) hguard hstep ↦
      ⟨AckClocked.safe_step hcount event hs.1 hstep,
        AckClocked.inSequence_step event hs.1 hs.2 hguard hstep⟩)
    ⟨AckClocked.safe_init count, Nat.zero_le _, by rintro (h | h | h) <;> cases h⟩ h
  exact hboth.2

/-- If every drop leaves a state in which the client does not fall behind, the indices are in order
in every state reached. And the condition is exact: in a state that is reached in any way and keeps
the order, the client falls behind if and only if the order can be lost without a further drop. -/
theorem index_order (hfile : session.file ≠ []) (hsize : session.file.length < 2 ^ 31) :
    (∀ s, session.connection.Reachable session.keepingUp s → session.KeepsIndexOrder s) ∧
    ∀ s, session.connection.Reachable Duplex.inOrder s → session.KeepsIndexOrder s →
      (session.FallsBehind s ↔ ∃ t, session.connection.ReachableFrom Duplex.losslessInOrder s t ∧
        ¬ session.KeepsIndexOrder t) := by
  have hcount := Session.length_pos hfile
  constructor
  · intro s h
    refine keepsIndexOrder_of_keepsPace hfile hsize ⟨Session.represents_init, ?_, ?_, ?_⟩ h
    · exact inSequence_of_reachable hcount .refl
    · exact fun _ ↦ le_rfl
    · rintro ⟨hloop | hloop | hloop, -⟩ <;> cases hloop
  · intro s h hkeeps
    have hguard (s : Duplex Client Server MPDU MPDU) (a : AckClocked.State) (event : Duplex.Event)
        (_ : session.Represents s a) (hallowed : Duplex.inOrder s event) :
        Duplex.inOrder a event := Duplex.inOrder_transfer a hallowed
    obtain ⟨a, hreach, hrel⟩ := Session.exists_represented hfile hsize hguard h
    have hseq := inSequence_of_reachable hcount hreach
    have hup := (keepsIndexOrder_iff hfile hrel).mp hkeeps
    constructor
    · intro hfalls
      obtain ⟨b, hlossless, hbehind⟩ := AckClocked.Doomed.exists_behind hcount
        ⟨hrel.2, hseq, hup, (fallsBehind_iff hfile hsize hrel).mp hfalls⟩
      obtain ⟨t, ht, hb⟩ := Session.exists_lossless_run hfile hsize hrel hlossless
      exact ⟨t, ht, mt (keepsIndexOrder_iff hfile hb).mp hbehind⟩
    · rintro ⟨t, ht, hbehind⟩
      by_contra hahead
      have hpace : session.KeepsPace s a := ⟨hrel, hseq, hup, hahead⟩
      refine hbehind (keepsIndexOrder_of_keepsPace hfile hsize hpace (ht.mono ?_))
      intro u event hguard
      cases event with
      | clientActs => trivial
      | serverActs => trivial
      | clientTakes position => exact hguard
      | serverTakes position => exact hguard
      | dropToServer position => exact hguard.elim
      | dropToClient position => exact hguard.elim

/-- The second segment is dropped, so an ACK takes the client back to it; and the ACK for it is
dropped, but there is one more segment under way. -/
theorem index_order_witness :
    ∃ h : (threeSegments.connection.run threeSegments.keepingUp threeSegments.connection.init
        [.clientActs, .serverTakes 0, .serverActs, .clientTakes 0, .clientActs, .clientActs,
          .serverTakes 0, .serverTakes 0, .serverActs, .clientTakes 0, .clientActs, .clientActs,
          .dropToServer 0, .serverTakes 0, .serverActs, .clientTakes 0, .clientActs, .clientActs,
          .serverTakes 0, .serverActs, .dropToClient 0]).isSome,
      threeSegments.KeepsIndexOrder (Option.get _ h) :=
  ⟨by decide +kernel, (index_order (by decide +kernel) (by decide +kernel)).1 _
    (ScheduledSystem.reachable_of_isSome_run _)⟩

end Runs

namespace Session

/-- A file that is not empty is cut into as many segments as it takes. -/
theorem length_segmentsToSend {session : Session} (hfile : session.file ≠ [])
    (hsize : session.file.length < 2 ^ 31) :
    session.segmentsToSend.length = session.file.length ⌈/⌉ maximumPayloadBytes := by
  obtain ⟨segments, hsegments, his⟩ := exists_segmentation session.fileSegment
    session.client.thisPort session.client.destPort hfile (show 1 ≤ maximumPayloadBytes by decide)
  have hfull : ∀ segment ∈ segments.dropLast, segment.payload.length = maximumPayloadBytes :=
    length_of_mem_dropLast rfl (List.forall_mem_nil _) hsegments
  rw [segmentsToSend, hsegments]
  exact (Indexed.cutsFile_of_isSegmentation his hfull hsize).count

end Session

/-! ### A run that loses the order -/

/-- A file of twelve segments. -/
def twelveSegments : Session := { threeBytes with file := List.replicate 16039 0 }

/-- The server takes a segment and answers it. -/
def serverAnswers : List Duplex.Event := [.serverTakes 0, .serverActs]

/-- The client takes an ACK and sends two segments. -/
def goesOn : List Duplex.Event := [.clientTakes 0, .clientActs, .clientActs]

/-- Four segments are lost in three places, so that copies of one segment follow each other and a
stale ACK comes after ACKs that took the client far ahead; then four ACKs are lost before the
last. -/
def losesOrder : List Duplex.Event :=
  [[.clientActs, .serverTakes 0, .serverActs, .clientTakes 0, .clientActs, .clientActs,
      .serverTakes 0],
    serverAnswers, goesOn, serverAnswers, [.dropToServer 0],
    goesOn, serverAnswers, serverAnswers, goesOn, serverAnswers, [.dropToServer 0],
    goesOn, serverAnswers, serverAnswers, goesOn, serverAnswers, serverAnswers, goesOn,
    [.dropToServer 0, .dropToServer 0],
    goesOn, serverAnswers, serverAnswers, goesOn, serverAnswers, serverAnswers,
    goesOn, serverAnswers, serverAnswers,
    goesOn, [.dropToClient 0, .dropToClient 0, .dropToClient 0, .dropToClient 0],
    goesOn].flatten

/-- The client waits with `next_segment_index` 10 and `last_unACKd_index` 11. -/
theorem not_forall_keepsIndexOrder : ¬ ∀ session : Session, session.file ≠ [] →
    ∀ s, session.connection.Reachable Duplex.inOrder s → session.KeepsIndexOrder s := by
  intro hall
  have hsize : twelveSegments.file.length = 16039 := List.length_replicate
  have hfile : twelveSegments.file ≠ [] := by
    rw [← List.length_pos_iff, hsize]
    decide
  have hshort : twelveSegments.file.length < 2 ^ 31 := by
    rw [hsize]
    decide
  have hcount : twelveSegments.segmentsToSend.length = 12 := by
    rw [Session.length_segmentsToSend hfile hshort, hsize, Nat.ceilDiv_eq_add_pred_div]
    decide
  have hlockstep := (Session.lockstep hfile hshort).symm
  have hinit : twelveSegments.Represents twelveSegments.connection.init
      (AckClocked.protocol twelveSegments.segmentsToSend.length).init := Session.represents_init
  have hguard (a : AckClocked.State) (s : Duplex Client Server MPDU MPDU) (event : Duplex.Event)
      (_ : twelveSegments.Represents s a) (h : Duplex.inOrder a event) :
      Duplex.inOrder s event := Duplex.inOrder_transfer s h
  rw [hcount] at hlockstep hinit
  obtain ⟨hruns, hpoint, hbehind⟩ : ∃ h : ((AckClocked.protocol 12).run Duplex.inOrder
      (AckClocked.protocol 12).init losesOrder).isSome,
      (Option.get _ h).client.point = .waitACK ∧
        (Option.get _ h).client.next < (Option.get _ h).client.last :=
    ⟨by decide +kernel, by decide +kernel⟩
  obtain ⟨s, hrun, hrelated, -⟩ :=
    hlockstep.run_eq_some hguard hinit (Option.some_get hruns).symm
  have hkeeps := hall twelveSegments hfile s (ScheduledSystem.reachableFrom_of_run hrun)
  have hle := hkeeps.waits (hrelated.client.point.trans hpoint)
  rw [hrelated.client.last, hrelated.client.next] at hle
  exact absurd hle (not_le.mpr hbehind)

end NetworkSimulation.Tcp
