import NetworkSimulation.Stack.FileLoops
import NetworkSimulation.Udp.FileTransfer

/-!
# The size of UDP segments and frames

The loop of `file_to_UDP_segments` lets a payload grow to the size asked for, but it appends the end
marker to the last one whatever its size is. The last payload is one byte too long exactly when it
is full, that is when the size asked for divides the length of the file
(`length_payload_le_iff_of_load`). `Host::UDP_client` asks for the payloads that fill a frame of MTU
bytes, so the last frame of such a file exceeds the MTU by one byte (`fits_iff`).
-/

set_option autoImplicit false
set_option relaxedAutoImplicit false

namespace NetworkSimulation.Udp

open Library Stack

/-! ### Payloads -/

/-- From any point of the file: no payload is too long exactly when the last one, of what has been
loaded of the current payload and what is left of the file, is not full. -/
theorem length_payload_le_iff_of_load {maximumBytes : ℕ} {rest : List UInt8} :
    ∀ {segment : UDP} {segments : List UDP}, segment.payload.length < maximumBytes →
      loadUDPSegments maximumBytes rest segment [] = some segments →
        ((∀ sent ∈ segments, sent.payload.length ≤ maximumBytes) ↔
          ¬ maximumBytes ∣ segment.payload.length + rest.length) := by
  induction rest with
  | nil =>
    intro segment segments _ hload
    cases hload
  | cons byte rest ih =>
    intro segment segments hroom hload
    have hlength : (segment.payload ++ [byte]).length = segment.payload.length + 1 := by simp
    have hcount : segment.payload.length + (byte :: rest).length =
        (segment.payload ++ [byte]).length + rest.length := by
      rw [hlength, List.length_cons]
      omega
    rw [hcount]
    simp only [loadUDPSegments] at hload
    split_ifs at hload with hend hfull
    · obtain rfl := Option.some.inj hload
      rw [List.nil_append, List.forall_mem_singleton, List.length_append, List.length_singleton,
        hend, List.length_nil, add_zero]
      constructor
      · intro hfits
        exact Nat.not_dvd_of_pos_of_lt (by omega) (by omega)
      · intro hnot
        have hnotFull : (segment.payload ++ [byte]).length ≠ maximumBytes :=
          fun h ↦ hnot h.symm.dvd
        omega
    · rw [loadUDPSegments_append] at hload
      obtain ⟨later, hlater, rfl⟩ := Option.map_eq_some_iff.mp hload
      have hrest := ih (show ({ segment with payload := [] } : UDP).payload.length <
        maximumBytes by rw [List.length_nil]; omega) hlater
      rw [List.length_nil, zero_add] at hrest
      rw [hfull, Nat.dvd_add_right (dvd_refl _), ← hrest, List.nil_append,
        List.forall_mem_append, List.forall_mem_singleton]
      exact and_iff_right hfull.le
    · exact ih (show (segment.payload ++ [byte]).length < maximumBytes by omega) hload

/-! ### Frames -/

/-- A frame is 32 bytes longer than the payload it carries. -/
theorem getSize_ofPacket_encapUDP {packet : IP} {segment : UDP} (mac destMac : Mac)
    (hsize : segment.payload.length ≤ 65515) :
    (MPDU.ofPacket (packet.encapUDP segment) mac destMac).getSize =
      segment.payload.length + 32 := by
  have hbytes : segment.bytes.length = segment.payload.length + 8 :=
    (UDP.length_bytes segment).trans (Nat.add_comm _ _)
  have hdata : (packet.encapUDP segment).SDU = segment.bytes := rfl
  rw [MPDU.getSize, MPDU.ofPacket, MPDU.encapIP, IP.getSDULength, hdata, UInt16.toNat_ofNat',
    Nat.mod_eq_of_lt (by omega), List.take_length]
  simp only [List.length_append, List.length_singleton, WordBytes.length_bytes16,
    WordBytes.length_bytes32, hbytes, MPDU_HEADER_SIZE]
  omega

/-- The client's frames are within the MTU exactly when the payloads are of the size it asks for. -/
theorem getSize_clientFrames_le_iff {mac destMac : Mac} :
    ∀ {packet : IP} {segments : List UDP},
      (∀ segment ∈ segments, segment.payload.length ≤ 65515) →
        ((∀ frame ∈ clientFrames mac destMac packet segments, frame.getSize ≤ MTU) ↔
          ∀ segment ∈ segments, segment.payload.length ≤ maximumPayloadBytes) := by
  intro packet segments hsize
  induction segments generalizing packet with
  | nil => exact iff_of_true (List.forall_mem_nil _) (List.forall_mem_nil _)
  | cons segment rest ih =>
    have hfirst := hsize segment (List.mem_cons_self ..)
    rw [clientFrames, List.forall_mem_cons, List.forall_mem_cons,
      ih fun later hlater ↦ hsize later (List.mem_cons_of_mem _ hlater),
      getSize_ofPacket_encapUDP mac destMac hfirst]
    have hmaximum : maximumPayloadBytes + 32 = MTU := rfl
    exact and_congr_left' (by omega)

/-! ### Both together -/

/-- `file_to_UDP_segments` returns segments whose payloads are of at most the size asked for. -/
def PayloadsFit (uninitialised : UDP) (file : List UInt8) (srcPort destPort : UInt16)
    (maximumBytes : ℕ) : Prop :=
  ∃ rounds segments,
    Indexed.fileToUDPSegments rounds uninitialised file srcPort destPort maximumBytes =
        .ok segments ∧
      ∀ segment ∈ segments, segment.payload.length ≤ maximumBytes

/-- `Host::UDP_client`, with the segments that `file_to_UDP_segments` returns, sends frames of at
most MTU bytes. -/
def FramesFit (uninitialised : UDP) (uninitialisedPacket : IP) (mac destMac : Mac)
    (sourceIp destIp : UInt32) (file : List UInt8) (srcPort destPort : UInt16) : Prop :=
  ∃ rounds segments,
    Indexed.fileToUDPSegments rounds uninitialised file srcPort destPort maximumPayloadBytes =
        .ok segments ∧
      ∀ frame ∈ clientFrames mac destMac
          (((IP.new uninitialisedPacket).setSourceIp sourceIp).setDestinationIp destIp) segments,
        frame.getSize ≤ MTU

/-- What is asked of the segments of a file holds exactly when the counter does not overflow and it
holds of the segments on the unread part of the file. -/
theorem exists_fileToUDPSegments_iff {uninitialised : UDP} {file : List UInt8}
    {srcPort destPort : UInt16} {maximumBytes : ℕ} {good : List UDP → Prop} {condition : Prop}
    (hfile : file ≠ [])
    (hgood : ∀ segments,
      fileToUDPSegments uninitialised file srcPort destPort maximumBytes = some segments →
        (good segments ↔ condition)) :
    (∃ rounds segments,
      Indexed.fileToUDPSegments rounds uninitialised file srcPort destPort maximumBytes =
        .ok segments ∧ good segments) ↔ file.length < 2 ^ 31 ∧ condition := by
  have hmaximum : INT_MAX + 1 = 2 ^ 31 := rfl
  constructor
  · rintro ⟨rounds, segments, hloop, hsegments⟩
    have hlength : file.length ≤ INT_MAX := by
      by_contra hlong
      exact Indexed.fileToUDPSegments_ne_ok (not_le.mp hlong) rounds uninitialised srcPort destPort
        maximumBytes segments hloop
    rcases Indexed.fileToUDPSegments_eq_or uninitialised srcPort destPort maximumBytes hfile
        hlength rounds with hstop | ⟨result, hresult, hlist⟩
    · rw [hstop] at hloop
      cases hloop
    · rw [hloop] at hresult
      cases hresult
      exact ⟨by omega, (hgood segments hlist).mp hsegments⟩
  · rintro ⟨hlength, hcondition⟩
    obtain ⟨segments, hloop, hlist⟩ := Indexed.exists_fileToUDPSegments uninitialised srcPort
      destPort maximumBytes hfile (show file.length ≤ INT_MAX by omega) (Nat.lt_succ_self _)
    exact ⟨_, segments, hloop, (hgood segments hlist).mpr hcondition⟩

/-- Payloads and frames are within their bounds exactly when the counter does not overflow and the
size asked for does not divide the length of the file. -/
theorem fits_iff (uninitialised : UDP) (uninitialisedPacket : IP) (mac destMac : Mac)
    (sourceIp destIp : UInt32) (file : List UInt8) (srcPort destPort : UInt16) (maximumBytes : ℕ)
    (hfile : file ≠ []) (hmaximum : 1 ≤ maximumBytes) :
    (PayloadsFit uninitialised file srcPort destPort maximumBytes ↔
        file.length < 2 ^ 31 ∧ ¬ maximumBytes ∣ file.length) ∧
      (FramesFit uninitialised uninitialisedPacket mac destMac sourceIp destIp file srcPort
          destPort ↔
        file.length < 2 ^ 31 ∧ ¬ 1468 ∣ file.length) := by
  have hfits {maximum : ℕ} (hpositive : 1 ≤ maximum) {segments : List UDP}
      (hload : fileToUDPSegments uninitialised file srcPort destPort maximum = some segments) :
      (∀ segment ∈ segments, segment.payload.length ≤ maximum) ↔ ¬ maximum ∣ file.length := by
    have hiff := length_payload_le_iff_of_load hpositive hload
    rwa [List.length_nil, zero_add] at hiff
  constructor
  · exact exists_fileToUDPSegments_iff hfile fun segments hload ↦ hfits hmaximum hload
  · refine exists_fileToUDPSegments_iff hfile fun segments hload ↦ ?_
    have hpositive : 1 ≤ maximumPayloadBytes := by decide
    have hsize : ∀ segment ∈ segments, segment.payload.length ≤ 65515 := fun segment hsegment ↦
      (length_payload_le hpositive hload segment hsegment).trans (by decide)
    exact (getSize_clientFrames_le_iff hsize).trans (hfits hpositive hload)

theorem fits_witness :
    (PayloadsFit ⟨0, 0, 0, 0, []⟩ [1, 2, 3] 30000 50000 2 ↔
        [(1 : UInt8), 2, 3].length < 2 ^ 31 ∧ ¬ 2 ∣ [(1 : UInt8), 2, 3].length) ∧
      (FramesFit ⟨0, 0, 0, 0, []⟩ ⟨0, 0, 0, 0, 0, []⟩ [2, 0, 0, 0, 0, 1] [2, 0, 0, 0, 0, 2] 1 2
          [1, 2, 3] 30000 50000 ↔
        [(1 : UInt8), 2, 3].length < 2 ^ 31 ∧ ¬ 1468 ∣ [(1 : UInt8), 2, 3].length) :=
  fits_iff ⟨0, 0, 0, 0, []⟩ ⟨0, 0, 0, 0, 0, []⟩ [2, 0, 0, 0, 0, 1] [2, 0, 0, 0, 0, 2] 1 2 [1, 2, 3]
    30000 50000 2 (by decide) (by decide)

/-- A file of one full segment: the payload is one byte too long with the end marker, and the frame
has 1501 bytes. -/
theorem not_fits_full :
    ¬ (PayloadsFit ⟨0, 0, 0, 0, []⟩ (List.replicate 1468 0) 30000 50000 1468 ∧
      FramesFit ⟨0, 0, 0, 0, []⟩ ⟨0, 0, 0, 0, 0, []⟩ [2, 0, 0, 0, 0, 1] [2, 0, 0, 0, 0, 2] 1 2
        (List.replicate 1468 0) 30000 50000) := by
  rintro ⟨hpayloads, -⟩
  have hfile : List.replicate 1468 (0 : UInt8) ≠ [] := List.cons_ne_nil _ _
  have hcondition := (exists_fileToUDPSegments_iff hfile fun segments hload ↦
    length_payload_le_iff_of_load (by decide) hload).mp hpayloads
  refine hcondition.2 ?_
  rw [List.length_replicate]
  exact dvd_refl _

end NetworkSimulation.Udp
