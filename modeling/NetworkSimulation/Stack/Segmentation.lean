import NetworkSimulation.Stack.L4Protocols

/-!
# How a file is cut into TCP segments

`file_to_TCP_segments` loads at least one byte into each segment and stops at the end of the file.
`IsSegmentation` says what its result is for a file that is not empty: payloads of one byte up to
the maximum that put together are the file, sequence numbers that count the bytes before (from 1, in
32 bits), and the FIN flag on the last segment alone. `exists_segmentation` is the proof, with
`Loaded` as the invariant of the outer loop.
-/

set_option autoImplicit false
set_option relaxedAutoImplicit false

namespace NetworkSimulation.Stack

/-- The bytes that segments carry. -/
def payloadBytes (segments : List TCP) : List UInt8 := segments.flatMap TCP.payload

/-- The sequence number that follows the first segments: one more than the bytes they carry. -/
def boundary (segments : List TCP) (accepted : ℕ) : ℕ :=
  1 + (payloadBytes (segments.take accepted)).length

@[simp] theorem payloadBytes_append (segments more : List TCP) :
    payloadBytes (segments ++ more) = payloadBytes segments ++ payloadBytes more :=
  List.flatMap_append

@[simp] theorem payloadBytes_singleton (segment : TCP) :
    payloadBytes [segment] = segment.payload := by
  rw [payloadBytes, List.flatMap_singleton]

/-- The segments of a file, in payloads of at most the given size. -/
structure IsSegmentation (maximumBytes : ℕ) (file : List UInt8) (segments : List TCP) : Prop where
  ne_nil : segments ≠ []
  payloadBytes : payloadBytes segments = file
  length_payload : ∀ segment ∈ segments,
    1 ≤ segment.payload.length ∧ segment.payload.length ≤ maximumBytes
  sequenceNumber : ∀ i (h : i < segments.length),
    segments[i].sequenceNumber = UInt32.ofNat (boundary segments i)
  ackNumber : ∀ segment ∈ segments, segment.ackNumber = 1
  details : ∀ i (h : i < segments.length),
    segments[i].details = if i + 1 = segments.length then TCP_ACK ||| TCP_FIN else TCP_ACK

/-! ### The loops -/

/-- The inner loop loads some bytes, as many as fit or are left. -/
theorem loadPayload_spec {maximumBytes : ℕ} {rest loaded : List UInt8} (hrest : rest ≠ [])
    (hroom : loaded.length < maximumBytes) :
    ∃ payload left endOfFile,
      loadPayload maximumBytes rest loaded = some (payload, left, endOfFile) ∧
        payload ++ left = loaded ++ rest ∧ loaded.length < payload.length ∧
          payload.length ≤ maximumBytes ∧ (endOfFile = true ↔ left = []) := by
  induction rest generalizing loaded with
  | nil => exact absurd rfl hrest
  | cons byte rest ih =>
    have hlength : (loaded ++ [byte]).length = loaded.length + 1 := by simp
    rw [loadPayload]
    split_ifs with hend hfull
    · refine ⟨_, _, _, rfl, ?_, ?_, ?_, by simp [hend]⟩
      · rw [List.append_assoc, List.singleton_append]
      · omega
      · omega
    · refine ⟨_, _, _, rfl, ?_, ?_, hfull.le, by simp [hend]⟩
      · rw [List.append_assoc, List.singleton_append]
      · omega
    · obtain ⟨payload, left, endOfFile, hload, hbytes, hmore, hle, hlast⟩ :=
        ih hend (show (loaded ++ [byte]).length < maximumBytes by omega)
      refine ⟨payload, left, endOfFile, hload, ?_, by omega, hle, hlast⟩
      rw [hbytes, List.append_assoc, List.singleton_append]

/-- A payload that does not reach the end of the file is full. -/
theorem length_of_loadPayload {maximumBytes : ℕ} {rest loaded payload left : List UInt8}
    (hload : loadPayload maximumBytes rest loaded = some (payload, left, false)) :
    payload.length = maximumBytes := by
  induction rest generalizing loaded with
  | nil => cases hload
  | cons byte rest ih =>
    rw [loadPayload] at hload
    split_ifs at hload with hend hfull
    · cases hload
    · cases hload
      exact hfull
    · exact ih hload

/-- All segments but the last are full. -/
theorem length_of_mem_dropLast {maximumBytes rounds : ℕ} {segments : List TCP} :
    ∀ {rest : List UInt8} {txSegment : TCP} {result : List TCP}, txSegment.details = TCP_ACK →
      (∀ segment ∈ result, segment.payload.length = maximumBytes) →
        loadTCPSegments maximumBytes rounds rest txSegment result = some segments →
          ∀ segment ∈ segments.dropLast, segment.payload.length = maximumBytes := by
  induction rounds with
  | zero =>
    intro rest txSegment result _ _ hload
    cases hload
  | succ rounds ih =>
    intro rest txSegment result hdetails hresult hload
    have hflag : ¬ txSegment.details &&& TCP_FIN ≠ 0 := by
      rw [hdetails]
      decide
    simp only [loadTCPSegments] at hload
    rw [if_neg hflag] at hload
    cases hpayload : loadPayload maximumBytes rest [] with
    | none =>
      rw [hpayload] at hload
      cases hload
    | some loaded =>
      obtain ⟨payload, left, endOfFile⟩ := loaded
      rw [hpayload] at hload
      simp only [hdetails] at hload
      cases endOfFile with
      | false =>
        rw [if_neg Bool.false_ne_true] at hload
        refine ih rfl ?_ hload
        refine List.forall_mem_append.mpr ⟨hresult, List.forall_mem_singleton.mpr ?_⟩
        exact length_of_loadPayload hpayload
      | true =>
        rw [if_pos rfl] at hload
        cases rounds with
        | zero => cases hload
        | succ rounds =>
          have hfin : (TCP_ACK ||| TCP_FIN) &&& TCP_FIN ≠ 0 := by decide
          rw [loadTCPSegments, if_pos hfin] at hload
          cases hload
          rwa [List.dropLast_concat]

/-- The segments made so far, and the part of the file they leave. -/
structure Loaded (maximumBytes : ℕ) (file rest : List UInt8) (result : List TCP) : Prop where
  payloadBytes : payloadBytes result ++ rest = file
  length_payload : ∀ segment ∈ result,
    1 ≤ segment.payload.length ∧ segment.payload.length ≤ maximumBytes
  sequenceNumber : ∀ i (h : i < result.length),
    result[i].sequenceNumber = UInt32.ofNat (boundary result i)
  ackNumber : ∀ segment ∈ result, segment.ackNumber = 1
  details : ∀ segment ∈ result, segment.details = TCP_ACK

theorem boundary_append {segments more : List TCP} {accepted : ℕ}
    (h : accepted ≤ segments.length) : boundary (segments ++ more) accepted =
      boundary segments accepted := by
  rw [boundary, boundary, List.take_append_of_le_length h]

theorem boundary_length (segments : List TCP) :
    boundary segments segments.length = 1 + (payloadBytes segments).length := by
  rw [boundary, List.take_length]

theorem boundary_succ {segments : List TCP} {i : ℕ} (h : i < segments.length) :
    boundary segments (i + 1) = boundary segments i + segments[i].payload.length := by
  rw [boundary, boundary, List.take_add_one, List.getElem?_eq_getElem h, payloadBytes_append,
    Option.toList_some, payloadBytes_singleton, List.length_append, add_assoc]

/-- A new segment has the sequence number that follows the last one made. -/
theorem Loaded.nextSequenceNumber {maximumBytes : ℕ} {file rest : List UInt8} {result : List TCP}
    (h : Loaded maximumBytes file rest result) (first : UInt32) (hfirst : result = [] → first = 1) :
    (match result.getLast? with
      | some back => back.sequenceNumber + UInt32.ofNat back.payload.length
      | none => first) = UInt32.ofNat (boundary result result.length) := by
  cases hlast : result.getLast? with
  | none =>
    obtain rfl := List.getLast?_eq_none_iff.mp hlast
    exact hfirst rfl
  | some back =>
    obtain ⟨front, rfl⟩ := List.getLast?_eq_some_iff.mp hlast
    have hbound : front.length < (front ++ [back]).length := by simp
    have hback := h.sequenceNumber front.length hbound
    rw [List.getElem_concat_length rfl] at hback
    have hnext := boundary_succ hbound
    rw [List.getElem_concat_length rfl] at hnext
    rw [List.length_append, List.length_singleton, hnext]
    change back.sequenceNumber + UInt32.ofNat back.payload.length = _
    rw [hback, UInt32.ofNat_add]

/-- Appending a segment with the next sequence number keeps the sequence numbers. -/
theorem sequenceNumber_concat {result : List TCP} {segment : TCP}
    (h : ∀ i (hi : i < result.length), result[i].sequenceNumber = UInt32.ofNat (boundary result i))
    (hsegment : segment.sequenceNumber = UInt32.ofNat (boundary result result.length)) (i : ℕ)
    (hi : i < (result ++ [segment]).length) : (result ++ [segment])[i].sequenceNumber =
      UInt32.ofNat (boundary (result ++ [segment]) i) := by
  rw [List.length_append, List.length_singleton] at hi
  rw [boundary_append (by omega)]
  by_cases hlast : i < result.length
  · rw [List.getElem_append_left hlast, h i hlast]
  · obtain rfl : i = result.length := by omega
    rw [List.getElem_concat_length rfl, hsegment]

/-- One more segment, with the next sequence number and the next bytes of the file. -/
theorem Loaded.concat {maximumBytes : ℕ} {file rest left : List UInt8} {result : List TCP}
    {segment : TCP} (h : Loaded maximumBytes file rest result)
    (hbytes : segment.payload ++ left = rest)
    (hsize : 1 ≤ segment.payload.length ∧ segment.payload.length ≤ maximumBytes)
    (hsequence : segment.sequenceNumber = UInt32.ofNat (boundary result result.length))
    (hack : segment.ackNumber = 1) (hdetails : segment.details = TCP_ACK) :
    Loaded maximumBytes file left (result ++ [segment]) where
  payloadBytes := by
    rw [payloadBytes_append, payloadBytes_singleton, List.append_assoc, hbytes, h.payloadBytes]
  length_payload :=
    List.forall_mem_append.mpr ⟨h.length_payload, List.forall_mem_singleton.mpr hsize⟩
  sequenceNumber := sequenceNumber_concat h.sequenceNumber hsequence
  ackNumber := List.forall_mem_append.mpr ⟨h.ackNumber, List.forall_mem_singleton.mpr hack⟩
  details := List.forall_mem_append.mpr ⟨h.details, List.forall_mem_singleton.mpr hdetails⟩

/-- The last segment, with the rest of the file and the FIN flag. -/
theorem Loaded.finish {maximumBytes : ℕ} {file rest : List UInt8} {result : List TCP}
    {segment : TCP} (h : Loaded maximumBytes file rest result) (hbytes : segment.payload = rest)
    (hsize : 1 ≤ segment.payload.length ∧ segment.payload.length ≤ maximumBytes)
    (hsequence : segment.sequenceNumber = UInt32.ofNat (boundary result result.length))
    (hack : segment.ackNumber = 1) (hdetails : segment.details = TCP_ACK ||| TCP_FIN) :
    IsSegmentation maximumBytes file (result ++ [segment]) where
  ne_nil := by simp
  payloadBytes := by rw [payloadBytes_append, payloadBytes_singleton, hbytes, h.payloadBytes]
  length_payload :=
    List.forall_mem_append.mpr ⟨h.length_payload, List.forall_mem_singleton.mpr hsize⟩
  sequenceNumber := sequenceNumber_concat h.sequenceNumber hsequence
  ackNumber := List.forall_mem_append.mpr ⟨h.ackNumber, List.forall_mem_singleton.mpr hack⟩
  details := by
    intro i hi
    rw [List.length_append, List.length_singleton] at hi ⊢
    by_cases hbefore : i < result.length
    · rw [List.getElem_append_left hbefore, h.details _ (List.getElem_mem hbefore),
        if_neg (by omega)]
    · obtain rfl : i = result.length := by omega
      rw [List.getElem_concat_length rfl, if_pos rfl, hdetails]

/-- The outer loop, started with enough rounds, makes a segmentation of the file. -/
theorem exists_loadTCPSegments {maximumBytes : ℕ} (hmaximum : 1 ≤ maximumBytes)
    {file : List UInt8} {rounds : ℕ} :
    ∀ {rest : List UInt8} {txSegment : TCP} {result : List TCP}, rest ≠ [] →
      rest.length < rounds → txSegment.details = TCP_ACK → txSegment.ackNumber = 1 →
        (result = [] → txSegment.sequenceNumber = 1) → Loaded maximumBytes file rest result →
          ∃ segments, loadTCPSegments maximumBytes rounds rest txSegment result = some segments ∧
            IsSegmentation maximumBytes file segments := by
  induction rounds with
  | zero =>
    intro rest txSegment result _ hrounds
    exact absurd hrounds (Nat.not_lt_zero _)
  | succ rounds ih =>
    intro rest txSegment result hrest hrounds hdetails hack hfirst hloaded
    obtain ⟨payload, left, endOfFile, hload, hbytes, hsome, hle, hend⟩ :=
      loadPayload_spec hrest (show ([] : List UInt8).length < maximumBytes from hmaximum)
    have hflag : ¬ txSegment.details &&& TCP_FIN ≠ 0 := by
      rw [hdetails]
      decide
    rw [List.nil_append] at hbytes
    rw [List.length_nil] at hsome
    have hsequence := hloaded.nextSequenceNumber txSegment.sequenceNumber hfirst
    simp only [loadTCPSegments]
    rw [if_neg hflag, hload]
    simp only [hdetails]
    by_cases hlast : left = []
    · rw [hend.mpr hlast]
      obtain ⟨more, rfl⟩ : ∃ more, rounds = more + 1 :=
        Nat.exists_eq_succ_of_ne_zero fun hzero ↦ by
          rw [hzero] at hrounds
          exact hrest (List.eq_nil_of_length_eq_zero (by omega))
      have hfin : (TCP_ACK ||| TCP_FIN) &&& TCP_FIN ≠ 0 := by decide
      rw [if_pos rfl, loadTCPSegments, if_pos hfin]
      rw [hlast, List.append_nil] at hbytes
      exact ⟨_, rfl, hloaded.finish hbytes ⟨hsome, hle⟩ hsequence hack rfl⟩
    · have hnotEnd : endOfFile = false := Bool.eq_false_iff.mpr fun h ↦ hlast (hend.mp h)
      have hshorter : left.length < rounds := by
        have hlengths := congrArg List.length hbytes
        rw [List.length_append] at hlengths
        omega
      rw [hnotEnd, if_neg Bool.false_ne_true]
      exact ih hlast hshorter rfl hack (fun hnil ↦ by simp at hnil)
        (hloaded.concat hbytes ⟨hsome, hle⟩ hsequence hack rfl)

/-- A file that is not empty is cut into segments. -/
theorem exists_segmentation (uninitialised : TCP) {file : List UInt8} (srcPort destPort : UInt16)
    {maximumBytes : ℕ} (hfile : file ≠ []) (hmaximum : 1 ≤ maximumBytes) :
    ∃ segments, fileToTCPSegments uninitialised file srcPort destPort maximumBytes =
      some segments ∧ IsSegmentation maximumBytes file segments := by
  refine exists_loadTCPSegments hmaximum hfile (Nat.lt_succ_self _) rfl rfl (fun _ ↦ rfl) ?_
  refine ⟨rfl, ?_, ?_, ?_, ?_⟩
  · intro segment hsegment
    cases hsegment
  · intro i hi
    cases hi
  · intro segment hsegment
    cases hsegment
  · intro segment hsegment
    cases hsegment

/-! ### Boundaries -/

section Boundaries

variable {file : List UInt8} {segments : List TCP} {maximumBytes : ℕ}

theorem boundary_le (h : IsSegmentation maximumBytes file segments) (accepted : ℕ) :
    boundary segments accepted ≤ 1 + file.length := by
  have hsplit : payloadBytes segments =
      payloadBytes (segments.take accepted) ++ payloadBytes (segments.drop accepted) := by
    rw [← payloadBytes_append, List.take_append_drop]
  rw [boundary, ← h.payloadBytes, hsplit, List.length_append]
  omega

/-- Boundaries do not wrap around. -/
theorem toNat_boundary (h : IsSegmentation maximumBytes file segments)
    (hfile : file.length < 2 ^ 31) (accepted : ℕ) :
    (UInt32.ofNat (boundary segments accepted)).toNat = boundary segments accepted := by
  have hle := boundary_le h accepted
  exact Nat.mod_eq_of_lt (by omega)

end Boundaries

end NetworkSimulation.Stack
