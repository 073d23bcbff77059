import NetworkSimulation.Stack.Encapsulation

/-!
# A file over UDP

`Host::UDP_client` cuts a file into segments and sends them one after the other; `Host::UDP_server`
writes what arrives until it meets a payload that ends in the end marker. The marker is a byte value
that the file may hold too, and the server looks for it at the end of every payload, not only at the
end of the last one. `deliversFile_iff` is the exact condition under which the server writes the
file: no payload but the last may end in that byte.
-/

set_option autoImplicit false
set_option relaxedAutoImplicit false

namespace NetworkSimulation.Udp

open Stack

/-! ### The server's loop -/

/-- What `Host::UDP_server` changes in its loop: the bytes written to the file and the flag
`HOST_EOF_reached`. -/
structure Server where
  written : List UInt8
  eofReached : Bool
  deriving DecidableEq

namespace Server

def start : Server := ⟨[], false⟩

/-- One round of the loop. `payload.back()` has no result on an empty payload. -/
def receive (server : Server) (segment : UDP) : Option Server :=
  match segment.payload.getLast? with
  | none => none
  | some back =>
    if back = SEGMENT_EOF then some ⟨server.written ++ segment.payload.dropLast, true⟩
    else some { server with written := server.written ++ segment.payload }

/-- The loop on the segments that arrive: the server after it and the segments left unread. A
server that has not met the end marker when the segments are used up is still waiting. -/
def run (server : Server) : List UDP → Option (Server × List UDP)
  | [] => some (server, [])
  | segment :: rest =>
    if server.eofReached then some (server, segment :: rest)
    else
      match server.receive segment with
      | none => none
      | some server => server.run rest

@[simp] theorem run_nil (server : Server) : server.run [] = some (server, []) := rfl

@[simp] theorem run_ended (written : List UInt8) (segments : List UDP) :
    (Server.mk written true).run segments = some (⟨written, true⟩, segments) := by
  cases segments <;> rfl

/-- A payload that does not end in the marker is written and the loop goes on. -/
theorem run_cons_data {written payload : List UInt8} {back : UInt8} {segment : UDP}
    (hpayload : segment.payload = payload ++ [back]) (hback : back ≠ SEGMENT_EOF)
    (rest : List UDP) :
    (Server.mk written false).run (segment :: rest) =
      (Server.mk (written ++ (payload ++ [back])) false).run rest := by
  simp [run, receive, hpayload, hback]

/-- A payload that ends in the marker is written without it, and the loop ends. -/
theorem run_cons_eof {written payload : List UInt8} {segment : UDP}
    (hpayload : segment.payload = payload ++ [SEGMENT_EOF]) (rest : List UDP) :
    (Server.mk written false).run (segment :: rest) = some (⟨written ++ payload, true⟩, rest) := by
  simp [run, receive, hpayload]

end Server

/-! ### The sender's loop -/

/-- Segments already finished only stand in front of the others. -/
theorem loadUDPSegments_append (maximumBytes : ℕ) (rest : List UInt8) :
    ∀ (segment : UDP) (result : List UDP), loadUDPSegments maximumBytes rest segment result =
      (loadUDPSegments maximumBytes rest segment []).map (result ++ ·) := by
  induction rest with
  | nil => intro segment result; rfl
  | cons byte rest ih =>
    intro segment result
    simp only [loadUDPSegments]
    split_ifs with hend hfull
    · rfl
    · rw [ih _ (result ++ _), ih _ ([] ++ _), Option.map_map]
      congr 1
      funext segments
      simp
    · exact ih _ result

/-- On what is left of a file the loop ends, with at least one segment. -/
theorem loadUDPSegments_eq_some (maximumBytes : ℕ) {rest : List UInt8} (hrest : rest ≠ []) :
    ∀ segment : UDP, ∃ first segments,
      loadUDPSegments maximumBytes rest segment [] = some (first :: segments) := by
  induction rest with
  | nil => exact absurd rfl hrest
  | cons byte rest ih =>
    intro segment
    simp only [loadUDPSegments]
    split_ifs with hend hfull
    · exact ⟨_, [], rfl⟩
    · obtain ⟨first, segments, hload⟩ := ih hend { segment with payload := [] }
      rw [loadUDPSegments_append, hload]
      exact ⟨_, first :: segments, rfl⟩
    · exact ih hend _

/-! ### Where the end marker may stand -/

/-- No byte at the end of a full segment that is followed by more data is the end marker: the
bytes at positions `maximumBytes - 1`, `2 * maximumBytes - 1` and so on, before the last byte. -/
def MarkerFree (maximumBytes : ℕ) (file : List UInt8) : Prop :=
  ∀ i, 1 ≤ i → i * maximumBytes < file.length → file[i * maximumBytes - 1]? ≠ some SEGMENT_EOF

/-- A file that fits in one segment has no such byte. -/
theorem markerFree_of_length_le {maximumBytes : ℕ} {file : List UInt8}
    (h : file.length ≤ maximumBytes) : MarkerFree maximumBytes file := by
  intro i hi hbefore
  have hmul := Nat.le_mul_of_pos_left maximumBytes hi
  omega

/-- Taking a full segment off a file. -/
theorem markerFree_append {maximumBytes : ℕ} {payload rest : List UInt8} {back : UInt8}
    (hfull : (payload ++ [back]).length = maximumBytes) (hrest : rest ≠ []) :
    MarkerFree maximumBytes (payload ++ [back] ++ rest) ↔
      back ≠ SEGMENT_EOF ∧ MarkerFree maximumBytes rest := by
  have hpositive : 1 ≤ maximumBytes := by rw [← hfull]; simp
  have hlength : payload.length = maximumBytes - 1 := by simp at hfull; omega
  have hmore := List.length_pos_iff.mpr hrest
  constructor
  · intro hfree
    constructor
    · have hfirst := hfree 1 le_rfl (by rw [List.length_append, hfull]; omega)
      rw [one_mul, List.getElem?_append_left (by rw [hfull]; omega), ← hlength,
        List.getElem?_concat_length] at hfirst
      exact fun hback ↦ hfirst (congrArg some hback)
    · intro i hi hbefore
      have hshift := hfree (i + 1) (by omega)
        (by rw [List.length_append, hfull, Nat.succ_mul]; omega)
      have hmul := Nat.le_mul_of_pos_left maximumBytes hi
      rw [List.getElem?_append_right (by rw [hfull, Nat.succ_mul]; omega), hfull,
        Nat.succ_mul] at hshift
      rwa [show i * maximumBytes + maximumBytes - 1 - maximumBytes = i * maximumBytes - 1 by omega]
        at hshift
  · rintro ⟨hback, hfree⟩ i hi hbefore
    obtain ⟨i, rfl⟩ : ∃ j, i = j + 1 := ⟨i - 1, by omega⟩
    rw [List.length_append, hfull, Nat.succ_mul] at hbefore
    rw [Nat.succ_mul]
    by_cases hzero : i = 0
    · subst hzero
      rw [zero_mul, zero_add, List.getElem?_append_left (by rw [hfull]; omega), ← hlength,
        List.getElem?_concat_length]
      exact fun h ↦ hback (Option.some.inj h)
    · have hmul := Nat.le_mul_of_pos_left maximumBytes (Nat.pos_of_ne_zero hzero)
      rw [List.getElem?_append_right (by rw [hfull]; omega), hfull,
        show i * maximumBytes + maximumBytes - 1 - maximumBytes = i * maximumBytes - 1 by omega]
      exact hfree i (Nat.pos_of_ne_zero hzero) (by omega)

/-! ### The two loops together -/

/-- The loops run against each other from any point of the file: `segment` holds what has been
loaded of the current payload, `rest` what is left of the file. -/
theorem run_loadUDPSegments_iff {maximumBytes : ℕ} {rest : List UInt8} (hrest : rest ≠ []) :
    ∀ (segment : UDP) (written : List UInt8), segment.payload.length < maximumBytes →
      ((∃ segments, loadUDPSegments maximumBytes rest segment [] = some segments ∧
          (Server.mk written false).run segments =
            some (⟨written ++ (segment.payload ++ rest), true⟩, [])) ↔
        MarkerFree maximumBytes (segment.payload ++ rest)) := by
  induction rest with
  | nil => exact absurd rfl hrest
  | cons byte rest ih =>
    intro segment written hroom
    simp only [loadUDPSegments]
    split_ifs with hend hfull
    · subst hend
      refine iff_of_true ⟨_, rfl, ?_⟩ (markerFree_of_length_le (by simp; omega))
      rw [List.nil_append, Server.run_cons_eof rfl]
    · obtain ⟨first, segments, hload⟩ :=
        loadUDPSegments_eq_some maximumBytes hend { segment with payload := [] }
      have hpayload : segment.payload ++ byte :: rest = segment.payload ++ [byte] ++ rest := by simp
      rw [loadUDPSegments_append, hload, hpayload, markerFree_append hfull hend]
      simp only [List.nil_append, Option.map_some, List.cons_append, Option.some.injEq,
        exists_eq_left']
      by_cases hback : byte = SEGMENT_EOF
      · rw [hback, Server.run_cons_eof rfl]
        simp
      · rw [Server.run_cons_data rfl hback]
        have hrun := ih hend { segment with payload := [] } (written ++ (segment.payload ++ [byte]))
          (by rw [← hfull]; simp)
        simp only [hload, Option.some.injEq, exists_eq_left', List.nil_append] at hrun
        rw [← List.append_assoc written (segment.payload ++ [byte]) rest, hrun]
        exact (and_iff_right hback).symm
    · have hpayload : segment.payload ++ byte :: rest = segment.payload ++ [byte] ++ rest := by simp
      rw [hpayload]
      refine ih hend { segment with payload := segment.payload ++ [byte] } written ?_
      change (segment.payload ++ [byte]).length < maximumBytes
      rw [List.length_append, List.length_singleton] at hfull ⊢
      omega

/-- The segments of a file, delivered completely and in order, make the server's loop end exactly
after the last of them, with the file written. -/
def DeliversFile (uninitialised : UDP) (file : List UInt8) (srcPort destPort : UInt16)
    (maximumBytes : ℕ) : Prop :=
  ∃ segments, fileToUDPSegments uninitialised file srcPort destPort maximumBytes = some segments ∧
    Server.start.run segments = some (⟨file, true⟩, [])

/-- The server writes the file exactly when the end marker stands at the end of no payload but the
last. -/
theorem deliversFile_iff (uninitialised : UDP) (file : List UInt8) (srcPort destPort : UInt16)
    (maximumBytes : ℕ) (hfile : file ≠ []) (hmaximum : 1 ≤ maximumBytes) :
    DeliversFile uninitialised file srcPort destPort maximumBytes ↔
      MarkerFree maximumBytes file := by
  have h := run_loadUDPSegments_iff hfile
    { uninitialised with sourcePort := srcPort, destinationPort := destPort, payload := [] } []
    hmaximum
  rw [List.nil_append, List.nil_append] at h
  exact h

theorem deliversFile_witness :
    DeliversFile ⟨0, 0, 0, 0, []⟩ [1, 2, 0xFF] 30000 50000 2 ↔ MarkerFree 2 [1, 2, 0xFF] :=
  deliversFile_iff ⟨0, 0, 0, 0, []⟩ [1, 2, 0xFF] 30000 50000 2 (by decide) (by decide)

/-- The two bytes `0xFF 0x00`, sent in segments of one byte: the server takes the first byte for
the end of the file. -/
theorem not_deliversFile_marker : ¬ DeliversFile ⟨0, 0, 0, 0, []⟩ [0xFF, 0x00] 30000 50000 1 := by
  rintro ⟨segments, hsegments, hrun⟩
  have hload : fileToUDPSegments ⟨0, 0, 0, 0, []⟩ [0xFF, 0x00] 30000 50000 1 =
      some [⟨30000, 50000, 0, 0, [0xFF]⟩, ⟨30000, 50000, 0, 0, [0x00, 0xFF]⟩] := by decide
  rw [hload] at hsegments
  obtain rfl := Option.some.inj hsegments
  exact absurd hrun (by decide)

/-! ### Frames -/

/-- No payload holds more than a full segment and the end marker. -/
theorem length_payload_le {maximumBytes : ℕ} {rest : List UInt8} :
    ∀ {segment : UDP} {segments : List UDP}, segment.payload.length < maximumBytes →
      loadUDPSegments maximumBytes rest segment [] = some segments →
        ∀ sent ∈ segments, sent.payload.length ≤ maximumBytes + 1 := by
  induction rest with
  | nil => intro segment segments _ hload; cases hload
  | cons byte rest ih =>
    intro segment segments hroom hload sent hsent
    have hlength : (segment.payload ++ [byte]).length = segment.payload.length + 1 := by simp
    simp only [loadUDPSegments] at hload
    split_ifs at hload with hend hfull
    · obtain rfl := Option.some.inj hload
      rw [List.nil_append, List.mem_singleton] at hsent
      subst hsent
      change (segment.payload ++ [byte] ++ [SEGMENT_EOF]).length ≤ maximumBytes + 1
      rw [List.length_append, List.length_singleton]
      omega
    · rw [loadUDPSegments_append] at hload
      obtain ⟨segments, hrest, rfl⟩ := Option.map_eq_some_iff.mp hload
      rcases List.mem_append.mp hsent with hfirst | hlater
      · rw [List.nil_append, List.mem_singleton] at hfirst
        subst hfirst
        exact hfull.le.trans (Nat.le_succ _)
      · exact ih (show ({ segment with payload := [] } : UDP).payload.length < maximumBytes by
          rw [List.length_nil]; omega) hrest sent hlater
    · have hnext : (segment.payload ++ [byte]).length < maximumBytes := by omega
      exact ih hnext hload sent hsent

/-- The payload size `Host::UDP_client` asks for. -/
def maximumPayloadBytes : ℕ := MTU - UDP_HEADER_SIZE - IP_HEADER_SIZE - MPDU_HEADER_SIZE

/-- The loop of `Host::UDP_client`: each segment in the packet that the loop reuses, and that in a
new frame. -/
def clientFrames (mac destMac : Mac) : IP → List UDP → List MPDU
  | _, [] => []
  | packet, segment :: rest =>
    MPDU.ofPacket (packet.encapUDP segment) mac destMac ::
      clientFrames mac destMac (packet.encapUDP segment) rest

/-- The server's loop on the frames that arrive at its socket. -/
def Server.serve (server : Server) : List MPDU → Option (Server × List MPDU)
  | [] => some (server, [])
  | frame :: rest =>
    if server.eofReached then some (server, frame :: rest)
    else
      match frame.udpSegment.bind server.receive with
      | none => none
      | some server => server.serve rest

theorem clientFrames_udpSegment (mac destMac : Mac) :
    ∀ {packet : IP} {segments : List UDP}, packet.headerLength = 12 →
      (∀ segment ∈ segments, segment.payload.length ≤ 65515) →
        (clientFrames mac destMac packet segments).map MPDU.udpSegment = segments.map some := by
  intro packet segments hheader hsize
  induction segments generalizing packet with
  | nil => rfl
  | cons segment rest ih =>
    have hfits := hsize segment (List.mem_cons_self ..)
    have hlength : (packet.encapUDP segment).headerLength.toNat = 12 := by
      rw [IP.headerLength_encapUDP, hheader]
      rfl
    have hcarries : (packet.encapUDP segment).Carries segment.bytes := IP.carries_encap _ _ _
    rw [clientFrames, List.map_cons, List.map_cons,
      udpSegment_ofPacket hcarries (by rw [hlength, UDP_HEADER_SIZE]; omega)]
    rw [ih (show (packet.encapUDP segment).headerLength = 12 from hheader)
      fun later hlater ↦ hsize later (List.mem_cons_of_mem _ hlater)]

/-- Frames that carry the segments one by one are served as the segments are. -/
theorem Server.serve_eq_some_iff {frames : List MPDU} {segments : List UDP}
    (hcarry : frames.map MPDU.udpSegment = segments.map some) (server final : Server) :
    server.serve frames = some (final, []) ↔ server.run segments = some (final, []) := by
  induction frames generalizing segments server with
  | nil =>
    obtain rfl : segments = [] := by simpa using hcarry.symm
    simp [Server.serve]
  | cons frame rest ih =>
    cases segments with
    | nil => cases hcarry
    | cons segment segments =>
      rw [List.map_cons, List.map_cons, List.cons.injEq] at hcarry
      rw [Server.serve, Server.run, hcarry.1, Option.bind_some]
      split_ifs with hended
      · simp
      · cases server.receive segment with
        | none => simp
        | some next => exact ih hcarry.2 next

/-- The whole transfer, frame by frame: what the client sends makes the server write the file
exactly when the end marker is at the end of no full segment. -/
theorem transfer_iff (uninitialised : UDP) (uninitialisedPacket : IP) (mac destMac : Mac)
    (sourceIp destIp : UInt32) (file : List UInt8) (srcPort destPort : UInt16) (hfile : file ≠ []) :
    (∃ segments, fileToUDPSegments uninitialised file srcPort destPort maximumPayloadBytes =
        some segments ∧
      Server.start.serve (clientFrames mac destMac
        (((IP.new uninitialisedPacket).setSourceIp sourceIp).setDestinationIp destIp) segments) =
          some (⟨file, true⟩, [])) ↔
      MarkerFree maximumPayloadBytes file := by
  have hsegments := run_loadUDPSegments_iff hfile
    { uninitialised with sourcePort := srcPort, destinationPort := destPort, payload := [] } []
    (show 0 < maximumPayloadBytes by decide)
  rw [List.nil_append, List.nil_append] at hsegments
  rw [← hsegments]
  refine exists_congr fun segments ↦ and_congr_right fun hload ↦ ?_
  refine Server.serve_eq_some_iff (clientFrames_udpSegment mac destMac rfl fun sent hsent ↦ ?_) _ _
  have hroom : 0 < maximumPayloadBytes := by decide
  exact (length_payload_le hroom hload sent hsent).trans (by decide)

end NetworkSimulation.Udp
