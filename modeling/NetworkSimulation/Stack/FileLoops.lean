import NetworkSimulation.Library.LoopRules
import NetworkSimulation.Stack.Segmentation
import Mathlib.Algebra.Order.Floor.Div

/-!
# The loops over a file, with their counter

The loops of `file_to_UDP_segments` and `file_to_TCP_segments` read `file[bytes_loaded++]`, where
`bytes_loaded` is an `int`, and stop on an equality test of the counter with the size of the file.
`Indexed` has them as they are written, on the whole file and the counter: a read at or beyond the
end of the file and an increment of the largest `int` are faults, and nothing says beforehand how
many rounds the loops take.

On a file of 1 to `INT_MAX` bytes both loops end, with the same segments as the functions on the
unread part of the file (`Indexed.exists_fileToUDPSegments`, `Indexed.exists_fileToTCPSegments`).
An empty file has no first byte, and both loops load it nevertheless
(`Indexed.readsWithinFile_iff`). `Indexed.cutsFile` is what the TCP segments of a file are, length
by length.
-/

set_option autoImplicit false
set_option relaxedAutoImplicit false

namespace NetworkSimulation.Stack

open Library

/-- The largest `int`. -/
def INT_MAX : ℕ := 2147483647

/-- What goes wrong in a loop over a file. -/
inductive FileFault
  | readBeyondEnd (index : ℕ)
  | counterOverflow
  deriving DecidableEq

namespace Indexed

/-- `file[bytes_loaded++]`: the byte, and the counter after it. -/
def nextByte (file : List UInt8) (bytesLoaded : ℕ) : Except (Stop FileFault) (UInt8 × ℕ) :=
  if bytesLoaded = INT_MAX then .error (.fault .counterOverflow)
  else
    match file[bytesLoaded]? with
    | none => .error (.fault (.readBeyondEnd bytesLoaded))
    | some byte => .ok (byte, bytesLoaded + 1)

/-! ### UDP -/

/-- What the loop of `file_to_UDP_segments` changes. -/
structure UDPLoad where
  bytesLoaded : ℕ
  txSegment : UDP
  result : List UDP
  deriving DecidableEq

/-- A round of the loop of `file_to_UDP_segments`. -/
def loadUDPByte (file : List UInt8) (maximumBytes : ℕ) (load : UDPLoad) :
    Except (Stop FileFault) (Round UDPLoad (List UDP)) :=
  match nextByte file load.bytesLoaded with
  | .error stop => .error stop
  | .ok (byte, bytesLoaded) =>
    let payload := load.txSegment.payload ++ [byte]
    if bytesLoaded = file.length then
      .ok (.done
        (load.result ++ [{ load.txSegment with payload := payload ++ [SEGMENT_EOF] }]))
    else if payload.length = maximumBytes then
      .ok (.again
        { bytesLoaded
          txSegment := { load.txSegment with payload := [] }
          result := load.result ++ [{ load.txSegment with payload }] })
    else .ok (.again { load with bytesLoaded, txSegment := { load.txSegment with payload } })

def fileToUDPSegments (rounds : ℕ) (uninitialised : UDP) (file : List UInt8)
    (srcPort destPort : UInt16) (maximumBytes : ℕ) : Except (Stop FileFault) (List UDP) :=
  loop (loadUDPByte file maximumBytes) rounds
    { bytesLoaded := 0
      txSegment :=
        { uninitialised with sourcePort := srcPort, destinationPort := destPort, payload := [] }
      result := [] }

/-! ### TCP -/

/-- What the inner loop of `file_to_TCP_segments` changes. -/
structure PayloadLoad where
  bytesLoaded : ℕ
  txSegment : TCP
  deriving DecidableEq

/-- A round of the inner loop of `file_to_TCP_segments`. -/
def loadPayloadByte (file : List UInt8) (maximumBytes : ℕ) (load : PayloadLoad) :
    Except (Stop FileFault) (Round PayloadLoad PayloadLoad) :=
  match nextByte file load.bytesLoaded with
  | .error stop => .error stop
  | .ok (byte, bytesLoaded) =>
    let txSegment := { load.txSegment with payload := load.txSegment.payload ++ [byte] }
    if bytesLoaded = file.length then
      .ok (.done
        { bytesLoaded, txSegment := { txSegment with details := txSegment.details ||| TCP_FIN } })
    else if txSegment.payload.length = maximumBytes then .ok (.done { bytesLoaded, txSegment })
    else .ok (.again { bytesLoaded, txSegment })

/-- What the outer loop of `file_to_TCP_segments` changes. -/
structure TCPLoad where
  bytesLoaded : ℕ
  txSegment : TCP
  result : List TCP
  deriving DecidableEq

/-- A round of the outer loop of `file_to_TCP_segments`, with its test. -/
def loadTCPSegment (rounds : ℕ) (file : List UInt8) (maximumBytes : ℕ) (load : TCPLoad) :
    Except (Stop FileFault) (Round TCPLoad (List TCP)) :=
  if load.txSegment.details &&& TCP_FIN ≠ 0 then .ok (.done load.result)
  else
    match loop (loadPayloadByte file maximumBytes) rounds
        { load with txSegment := { load.txSegment with payload := [] } } with
    | .error stop => .error stop
    | .ok loaded =>
      let sequenceNumber :=
        match load.result.getLast? with
        | some back => back.sequenceNumber + UInt32.ofNat back.payload.length
        | none => loaded.txSegment.sequenceNumber
      let segment := { loaded.txSegment with sequenceNumber }
      .ok (.again
        { bytesLoaded := loaded.bytesLoaded
          txSegment := segment
          result := load.result ++ [segment] })

/-- `file_to_TCP_segments`, each of its loops run for at most so many rounds. -/
def fileToTCPSegments (rounds : ℕ) (uninitialised : TCP) (file : List UInt8)
    (srcPort destPort : UInt16) (maximumBytes : ℕ) : Except (Stop FileFault) (List TCP) :=
  loop (loadTCPSegment rounds file maximumBytes) rounds
    { bytesLoaded := 0
      txSegment :=
        { uninitialised with
          sourcePort := srcPort, destinationPort := destPort, sequenceNumber := 1, ackNumber := 1,
          details := TCP_ACK, payload := [] }
      result := [] }

/-! ### One byte -/

section Byte

variable {file : List UInt8} {bytesLoaded : ℕ}

/-- Inside the file there is a byte to load, and the rest of the file after it. -/
theorem exists_nextByte (hlength : file.length ≤ INT_MAX) (hbefore : bytesLoaded < file.length) :
    ∃ byte, nextByte file bytesLoaded = .ok (byte, bytesLoaded + 1) ∧
      file.drop bytesLoaded = byte :: file.drop (bytesLoaded + 1) := by
  refine ⟨file[bytesLoaded], ?_, List.drop_eq_getElem_cons hbefore⟩
  rw [nextByte, if_neg (by omega), List.getElem?_eq_getElem hbefore]

/-- Nothing is left of the file exactly when the counter meets its size. -/
theorem drop_succ_eq_nil_iff (hbefore : bytesLoaded < file.length) :
    file.drop (bytesLoaded + 1) = [] ↔ bytesLoaded + 1 = file.length := by
  rw [List.drop_eq_nil_iff]
  omega

end Byte

/-! ### The UDP loop ends -/

/-- The counter is inside the file, and the segments made so far and the rest of the file are on
the way to the result. -/
structure UDPLoad.OnTheWay (maximumBytes : ℕ) (file : List UInt8) (start : UDP) (load : UDPLoad) :
    Prop where
  withinFile : load.bytesLoaded < file.length
  result : loadUDPSegments maximumBytes (file.drop load.bytesLoaded) load.txSegment load.result =
    loadUDPSegments maximumBytes file start []

theorem loadUDPByte_decreases {maximumBytes : ℕ} {file : List UInt8} {start : UDP}
    (hlength : file.length ≤ INT_MAX) :
    Decreases (loadUDPByte file maximumBytes) (UDPLoad.OnTheWay maximumBytes file start)
      (fun load ↦ file.length - load.bytesLoaded)
      (fun segments ↦ loadUDPSegments maximumBytes file start [] = some segments) := by
  intro load hload
  have hbefore := hload.withinFile
  obtain ⟨byte, hbyte, hdrop⟩ := exists_nextByte hlength hbefore
  have hresult := hload.result
  rw [hdrop, loadUDPSegments] at hresult
  simp only [drop_succ_eq_nil_iff hbefore] at hresult
  have hmeasure : file.length - (load.bytesLoaded + 1) < file.length - load.bytesLoaded := by omega
  simp only [loadUDPByte, hbyte]
  split_ifs at hresult ⊢ with hend hfull
  · exact .inr ⟨_, rfl, hresult.symm⟩
  · have hwithin : load.bytesLoaded + 1 < file.length := by omega
    exact .inl ⟨_, rfl, ⟨hwithin, hresult⟩, hmeasure⟩
  · have hwithin : load.bytesLoaded + 1 < file.length := by omega
    exact .inl ⟨_, rfl, ⟨hwithin, hresult⟩, hmeasure⟩

section UDP

variable (uninitialised : UDP) {file : List UInt8} (srcPort destPort : UInt16) (maximumBytes : ℕ)

theorem onTheWay_start (start : UDP) (hfile : file ≠ []) :
    UDPLoad.OnTheWay maximumBytes file start ⟨0, start, []⟩ :=
  ⟨List.length_pos_iff.mpr hfile, rfl⟩

/-- The UDP loop ends, with the segments of the function on the unread part of the file. -/
theorem exists_fileToUDPSegments (hfile : file ≠ []) (hlength : file.length ≤ INT_MAX)
    {rounds : ℕ} (hrounds : file.length < rounds) :
    ∃ segments,
      fileToUDPSegments rounds uninitialised file srcPort destPort maximumBytes = .ok segments ∧
        Stack.fileToUDPSegments uninitialised file srcPort destPort maximumBytes =
          some segments :=
  exists_loop (loadUDPByte_decreases hlength) (onTheWay_start maximumBytes _ hfile) hrounds

theorem fileToUDPSegments_eq_or (hfile : file ≠ []) (hlength : file.length ≤ INT_MAX)
    (rounds : ℕ) :
    fileToUDPSegments rounds uninitialised file srcPort destPort maximumBytes =
        .error .outOfRounds ∨
      ∃ segments,
        fileToUDPSegments rounds uninitialised file srcPort destPort maximumBytes = .ok segments ∧
          Stack.fileToUDPSegments uninitialised file srcPort destPort maximumBytes =
            some segments :=
  loop_eq_or (loadUDPByte_decreases hlength).keeps (onTheWay_start maximumBytes _ hfile) rounds

end UDP

/-- A byte that is loaded moves the counter below the largest `int`, and the loop ends only where
the counter meets the size of the file. -/
theorem loadUDPByte_eq_ok {maximumBytes : ℕ} {file : List UInt8} {load : UDPLoad}
    {round : Round UDPLoad (List UDP)} (h : loadUDPByte file maximumBytes load = .ok round) :
    load.bytesLoaded ≠ INT_MAX ∧
      match round with
      | .again next => next.bytesLoaded = load.bytesLoaded + 1
      | .done _ => load.bytesLoaded + 1 = file.length := by
  rw [loadUDPByte, nextByte] at h
  by_cases hcounter : load.bytesLoaded = INT_MAX
  · rw [if_pos hcounter] at h
    cases h
  · refine ⟨hcounter, ?_⟩
    rw [if_neg hcounter] at h
    cases hbyte : file[load.bytesLoaded]? with
    | none =>
      rw [hbyte] at h
      cases h
    | some byte =>
      simp only [hbyte] at h
      split_ifs at h with hend hfull
      · cases h
        exact hend
      · cases h
        rfl
      · cases h
        rfl

/-- On a file of more than `INT_MAX` bytes the UDP loop has no result: the counter overflows before
it meets the size of the file. -/
theorem fileToUDPSegments_ne_ok {file : List UInt8} (hlength : INT_MAX < file.length) (rounds : ℕ)
    (uninitialised : UDP) (srcPort destPort : UInt16) (maximumBytes : ℕ) (segments : List UDP) :
    fileToUDPSegments rounds uninitialised file srcPort destPort maximumBytes ≠ .ok segments := by
  intro hloop
  have hcounts (load next : UDPLoad) (hload : load.bytesLoaded ≤ INT_MAX)
      (hbody : loadUDPByte file maximumBytes load = .ok (.again next)) :
      next.bytesLoaded ≤ INT_MAX := by
    obtain ⟨hcounter, hnext⟩ := loadUDPByte_eq_ok hbody
    change next.bytesLoaded = load.bytesLoaded + 1 at hnext
    omega
  have hends (load : UDPLoad) (result : List UDP) (hload : load.bytesLoaded ≤ INT_MAX)
      (hbody : loadUDPByte file maximumBytes load = .ok (.done result)) : False := by
    obtain ⟨hcounter, hend⟩ := loadUDPByte_eq_ok hbody
    change load.bytesLoaded + 1 = file.length at hend
    omega
  exact of_loop_eq_ok hcounts hends (Nat.zero_le _) hloop

/-! ### The TCP loops end -/

/-- The inner loop, entered with `start` where the counter was `entered`: only the payload changes
until a byte ends the loop. -/
structure PayloadLoad.OnTheWay (maximumBytes : ℕ) (file : List UInt8) (entered : ℕ) (start : TCP)
    (load : PayloadLoad) : Prop where
  withinFile : load.bytesLoaded < file.length
  entered_le : entered ≤ load.bytesLoaded
  txSegment : load.txSegment = { start with payload := load.txSegment.payload }
  payload : loadPayload maximumBytes (file.drop load.bytesLoaded) load.txSegment.payload =
    loadPayload maximumBytes (file.drop entered) []

/-- How the inner loop ends: with some bytes loaded, and the FIN flag where they are the last. -/
structure PayloadLoad.Loaded (maximumBytes : ℕ) (file : List UInt8) (entered : ℕ) (start : TCP)
    (load : PayloadLoad) : Prop where
  entered_lt : entered < load.bytesLoaded
  withinFile : load.bytesLoaded ≤ file.length
  payload : loadPayload maximumBytes (file.drop entered) [] =
    some (load.txSegment.payload, file.drop load.bytesLoaded,
      decide (load.bytesLoaded = file.length))
  txSegment : load.txSegment =
    { start with
      payload := load.txSegment.payload
      details :=
        if load.bytesLoaded = file.length then start.details ||| TCP_FIN else start.details }

theorem loadPayloadByte_decreases {maximumBytes entered : ℕ} {file : List UInt8} {start : TCP}
    (hlength : file.length ≤ INT_MAX) :
    Decreases (loadPayloadByte file maximumBytes)
      (PayloadLoad.OnTheWay maximumBytes file entered start)
      (fun load ↦ file.length - load.bytesLoaded)
      (PayloadLoad.Loaded maximumBytes file entered start) := by
  rintro ⟨bytesLoaded, txSegment⟩ ⟨hbefore, hentered, hsegment, hpayload⟩
  change bytesLoaded < file.length at hbefore
  change entered ≤ bytesLoaded at hentered
  change txSegment = { start with payload := txSegment.payload } at hsegment
  obtain ⟨byte, hbyte, hdrop⟩ := exists_nextByte hlength hbefore
  simp only [hdrop, loadPayload, drop_succ_eq_nil_iff hbefore] at hpayload
  have hdetails : txSegment.details = start.details := by rw [hsegment]
  simp only [loadPayloadByte, hbyte]
  split_ifs at hpayload ⊢ with hend hfull
  · refine .inr ⟨_, rfl, ⟨?_, hend.le, ?_, ?_⟩⟩
    · exact Nat.lt_succ_of_le hentered
    · rw [← hpayload, decide_eq_true hend]
    · simp only [if_pos hend]
      rw [hdetails, hsegment]
  · refine .inr ⟨_, rfl, ⟨?_, hbefore, ?_, ?_⟩⟩
    · exact Nat.lt_succ_of_le hentered
    · rw [← hpayload, decide_eq_false hend]
    · simp only [if_neg hend]
      rw [hsegment]
  · refine .inl ⟨_, rfl, ⟨?_, ?_, ?_, hpayload⟩, ?_⟩
    · change bytesLoaded + 1 < file.length
      omega
    · exact Nat.le_succ_of_le hentered
    · rw [hsegment]
    · change file.length - (bytesLoaded + 1) < file.length - bytesLoaded
      omega

/-- The outer loop: the segment made last has the FIN flag, or there are bytes left to load, and
the segments made so far and the rest of the file are on the way to the result. -/
structure TCPLoad.OnTheWay (maximumBytes : ℕ) (file : List UInt8) (segments : List TCP)
    (load : TCPLoad) : Prop where
  details : load.txSegment.details = TCP_ACK ∧ load.bytesLoaded < file.length ∨
    load.txSegment.details = TCP_ACK ||| TCP_FIN
  result : ∃ rounds, loadTCPSegments maximumBytes rounds (file.drop load.bytesLoaded)
    load.txSegment load.result = some segments

/-- The bytes that the outer loop has to load before its last test. -/
def TCPLoad.remaining (file : List UInt8) (load : TCPLoad) : ℕ :=
  if load.txSegment.details = TCP_ACK then file.length - load.bytesLoaded + 1 else 0

/-- What a round of the outer loop does, given that its inner loop ends as it should. -/
theorem loadTCPSegment_of_loaded {maximumBytes rounds : ℕ} {file : List UInt8}
    {segments : List TCP} {load : TCPLoad}
    (hinner : load.txSegment.details = TCP_ACK → load.bytesLoaded < file.length →
      ∃ loaded, loop (loadPayloadByte file maximumBytes) rounds
          { load with txSegment := { load.txSegment with payload := [] } } = .ok loaded ∧
        loaded.Loaded maximumBytes file load.bytesLoaded
          { load.txSegment with payload := [] })
    (h : load.OnTheWay maximumBytes file segments) :
    (∃ next, loadTCPSegment rounds file maximumBytes load = .ok (.again next) ∧
        next.OnTheWay maximumBytes file segments ∧ next.remaining file < load.remaining file) ∨
      ∃ result, loadTCPSegment rounds file maximumBytes load = .ok (.done result) ∧
        result = segments := by
  obtain ⟨listRounds, hresult⟩ := h.result
  cases listRounds with
  | zero => cases hresult
  | succ listRounds =>
    rw [loadTCPSegments] at hresult
    rw [loadTCPSegment]
    rcases h.details with ⟨hdetails, hbefore⟩ | hdetails
    · have hflag : ¬ load.txSegment.details &&& TCP_FIN ≠ 0 := by
        rw [hdetails]
        decide
      obtain ⟨loaded, hloop, hloaded⟩ := hinner hdetails hbefore
      have hmore := hloaded.entered_lt
      have hsegment := hloaded.txSegment
      have hnext : loaded.txSegment.details =
          if loaded.bytesLoaded = file.length then TCP_ACK ||| TCP_FIN else TCP_ACK := by
        rw [hsegment, ← hdetails]
      rw [if_neg hflag, hloaded.payload] at hresult
      rw [if_neg hflag, hloop]
      refine .inl ⟨_, rfl, ⟨?_, listRounds, ?_⟩, ?_⟩
      · change loaded.txSegment.details = TCP_ACK ∧ loaded.bytesLoaded < file.length ∨
          loaded.txSegment.details = TCP_ACK ||| TCP_FIN
        rw [hnext]
        split_ifs with hend
        · exact .inr rfl
        · exact .inl ⟨rfl, lt_of_le_of_ne hloaded.withinFile hend⟩
      · simp only [decide_eq_true_eq] at hresult
        generalize loaded.txSegment.payload = payload at hsegment hresult
        rw [hsegment]
        exact hresult
      · change (if loaded.txSegment.details = TCP_ACK then
          file.length - loaded.bytesLoaded + 1 else 0) < load.remaining file
        rw [hnext, TCPLoad.remaining, if_pos hdetails]
        split_ifs <;> omega
    · have hflag : load.txSegment.details &&& TCP_FIN ≠ 0 := by
        rw [hdetails]
        decide
      rw [if_pos hflag] at hresult ⊢
      exact .inr ⟨_, rfl, Option.some.inj hresult⟩

section TCP

variable (uninitialised : TCP) {file : List UInt8} (srcPort destPort : UInt16) {maximumBytes : ℕ}
  {rounds : ℕ}

theorem payload_onTheWay_start {bytesLoaded : ℕ} {start : TCP} (hstart : start.payload = [])
    (hbefore : bytesLoaded < file.length) :
    PayloadLoad.OnTheWay maximumBytes file bytesLoaded start ⟨bytesLoaded, start⟩ :=
  ⟨hbefore, le_rfl, rfl, by rw [hstart]⟩

theorem loadTCPSegment_decreases {segments : List TCP} (hlength : file.length ≤ INT_MAX)
    (hrounds : file.length < rounds) :
    Decreases (loadTCPSegment rounds file maximumBytes)
      (TCPLoad.OnTheWay maximumBytes file segments) (TCPLoad.remaining file) (· = segments) := by
  intro load hload
  refine loadTCPSegment_of_loaded (fun _ hbefore ↦ ?_) hload
  refine exists_loop (loadPayloadByte_decreases hlength) (payload_onTheWay_start rfl hbefore) ?_
  change file.length - load.bytesLoaded < rounds
  omega

theorem loadTCPSegment_keeps {segments : List TCP} (hlength : file.length ≤ INT_MAX)
    (rounds : ℕ) :
    Keeps (loadTCPSegment rounds file maximumBytes) (TCPLoad.OnTheWay maximumBytes file segments)
      (· = segments) := by
  intro load hload
  by_cases hout : load.txSegment.details = TCP_ACK ∧
      loop (loadPayloadByte file maximumBytes) rounds
        { load with txSegment := { load.txSegment with payload := [] } } = .error .outOfRounds
  · obtain ⟨hdetails, hinner⟩ := hout
    have hflag : ¬ load.txSegment.details &&& TCP_FIN ≠ 0 := by
      rw [hdetails]
      decide
    refine .inl ?_
    rw [loadTCPSegment, if_neg hflag, hinner]
  · have hinner (hdetails : load.txSegment.details = TCP_ACK)
        (hbefore : load.bytesLoaded < file.length) :
        ∃ loaded, loop (loadPayloadByte file maximumBytes) rounds
            { load with txSegment := { load.txSegment with payload := [] } } = .ok loaded ∧
          loaded.Loaded maximumBytes file load.bytesLoaded
            { load.txSegment with payload := [] } :=
      (loop_eq_or (loadPayloadByte_decreases hlength).keeps (payload_onTheWay_start rfl hbefore)
        rounds).resolve_left fun hloop ↦ hout ⟨hdetails, hloop⟩
    rcases loadTCPSegment_of_loaded hinner hload with ⟨next, hbody, hnext, -⟩ | hdone
    · exact .inr (.inl ⟨next, hbody, hnext⟩)
    · exact .inr (.inr hdone)

theorem exists_onTheWay_start (hfile : file ≠ []) (hmaximum : 1 ≤ maximumBytes) :
    ∃ segments,
      Stack.fileToTCPSegments uninitialised file srcPort destPort maximumBytes = some segments ∧
        IsSegmentation maximumBytes file segments ∧
          TCPLoad.OnTheWay maximumBytes file segments
            { bytesLoaded := 0
              txSegment :=
                { uninitialised with
                  sourcePort := srcPort, destinationPort := destPort, sequenceNumber := 1,
                  ackNumber := 1, details := TCP_ACK, payload := [] }
              result := [] } := by
  obtain ⟨segments, hsegments, his⟩ :=
    exists_segmentation uninitialised srcPort destPort hfile hmaximum
  exact ⟨segments, hsegments, his, .inl ⟨rfl, List.length_pos_iff.mpr hfile⟩,
    file.length + 1, hsegments⟩

/-- The TCP loops end, with the segments of the function on the unread part of the file. -/
theorem exists_fileToTCPSegments (hfile : file ≠ []) (hlength : file.length ≤ INT_MAX)
    (hmaximum : 1 ≤ maximumBytes) (hrounds : file.length + 1 < rounds) :
    ∃ segments,
      fileToTCPSegments rounds uninitialised file srcPort destPort maximumBytes = .ok segments ∧
        Stack.fileToTCPSegments uninitialised file srcPort destPort maximumBytes =
          some segments := by
  obtain ⟨segments, hsegments, -, hstart⟩ :=
    exists_onTheWay_start uninitialised srcPort destPort hfile hmaximum
  obtain ⟨_, hloop, rfl⟩ :=
    exists_loop (loadTCPSegment_decreases hlength (Nat.lt_of_succ_lt hrounds)) hstart hrounds
  exact ⟨_, hloop, hsegments⟩

theorem fileToTCPSegments_eq_or (hfile : file ≠ []) (hlength : file.length ≤ INT_MAX)
    (hmaximum : 1 ≤ maximumBytes) (rounds : ℕ) :
    fileToTCPSegments rounds uninitialised file srcPort destPort maximumBytes =
        .error .outOfRounds ∨
      ∃ segments,
        fileToTCPSegments rounds uninitialised file srcPort destPort maximumBytes =
          .ok segments := by
  obtain ⟨segments, -, -, hstart⟩ :=
    exists_onTheWay_start uninitialised srcPort destPort hfile hmaximum
  rcases loop_eq_or (loadTCPSegment_keeps hlength rounds) hstart rounds with hstop | hdone
  · exact .inl hstop
  · obtain ⟨result, hloop, -⟩ := hdone
    exact .inr ⟨result, hloop⟩

end TCP

/-! ### Reads within the file -/

/-- A run that ends, given enough rounds, and that reads no byte at or beyond the end of the file,
however many rounds it is given. -/
def ReadsWithinFile {ρ : Type*} (run : ℕ → Except (Stop FileFault) ρ) : Prop :=
  (∃ enough, ∀ rounds, enough ≤ rounds → ∃ result, run rounds = .ok result) ∧
    ∀ rounds index, run rounds ≠ .error (.fault (.readBeyondEnd index))

/-- Both functions end, and read within the file, exactly when it is not empty. -/
theorem readsWithinFile_iff (uninitialisedTCP : TCP) (uninitialisedUDP : UDP) (file : List UInt8)
    (srcPort destPort : UInt16) (maximumBytes : ℕ) (hlength : file.length < 2 ^ 31)
    (hmaximum : 1 ≤ maximumBytes) :
    (ReadsWithinFile (fun rounds ↦
        fileToTCPSegments rounds uninitialisedTCP file srcPort destPort maximumBytes) ∧
      ReadsWithinFile (fun rounds ↦
        fileToUDPSegments rounds uninitialisedUDP file srcPort destPort maximumBytes)) ↔
      file ≠ [] := by
  have hcounter : file.length ≤ INT_MAX := by
    rw [INT_MAX]
    omega
  constructor
  · rintro ⟨-, -, hwithin⟩ rfl
    exact hwithin 1 0 rfl
  · intro hfile
    refine ⟨⟨⟨file.length + 2, fun rounds hrounds ↦ ?_⟩, fun rounds index hfault ↦ ?_⟩,
      ⟨file.length + 1, fun rounds hrounds ↦ ?_⟩, fun rounds index hfault ↦ ?_⟩
    · obtain ⟨segments, hloop, -⟩ := exists_fileToTCPSegments uninitialisedTCP srcPort destPort
        hfile hcounter hmaximum (show file.length + 1 < rounds by omega)
      exact ⟨segments, hloop⟩
    · rcases fileToTCPSegments_eq_or uninitialisedTCP srcPort destPort hfile hcounter hmaximum
          rounds with hstop | ⟨segments, hloop⟩
      · exact absurd (hfault.symm.trans hstop) (by simp)
      · exact absurd (hfault.symm.trans hloop) (by simp)
    · obtain ⟨segments, hloop, -⟩ := exists_fileToUDPSegments uninitialisedUDP srcPort destPort
        maximumBytes hfile hcounter (show file.length < rounds by omega)
      exact ⟨segments, hloop⟩
    · rcases fileToUDPSegments_eq_or uninitialisedUDP srcPort destPort maximumBytes hfile hcounter
          rounds with hstop | ⟨segments, hloop, -⟩
      · exact absurd (hfault.symm.trans hstop) (by simp)
      · exact absurd (hfault.symm.trans hloop) (by simp)

theorem readsWithinFile_witness :
    (ReadsWithinFile (fun rounds ↦
        fileToTCPSegments rounds ⟨0, 0, 0, 0, 0, 0, 0, []⟩ [1, 2, 3] 30000 50000 2) ∧
      ReadsWithinFile (fun rounds ↦
        fileToUDPSegments rounds ⟨0, 0, 0, 0, []⟩ [1, 2, 3] 30000 50000 2)) ↔
      [(1 : UInt8), 2, 3] ≠ [] :=
  readsWithinFile_iff ⟨0, 0, 0, 0, 0, 0, 0, []⟩ ⟨0, 0, 0, 0, []⟩ [1, 2, 3] 30000 50000 2
    (by decide) (by decide)

/-- On an empty file, such as one that cannot be opened, both functions read the first byte. -/
theorem not_readsWithinFile_nil :
    ¬ (ReadsWithinFile (fun rounds ↦
        fileToTCPSegments rounds ⟨0, 0, 0, 0, 0, 0, 0, []⟩ [] 30000 50000 1458) ∧
      ReadsWithinFile (fun rounds ↦
        fileToUDPSegments rounds ⟨0, 0, 0, 0, []⟩ [] 30000 50000 1468)) := by
  rintro ⟨-, -, hwithin⟩
  exact hwithin 1 0 rfl

/-! ### The TCP segments of a file -/

/-- What `file_to_TCP_segments` makes of a file: as many segments as it takes, all full but perhaps
the last, numbered by the bytes before them, with the FIN bit on the last alone. -/
structure CutsFile (maximumBytes : ℕ) (file : List UInt8) (segments : List TCP) : Prop where
  count : segments.length = file.length ⌈/⌉ maximumBytes
  payloads : payloadBytes segments = file
  full : ∀ i (h : i + 1 < segments.length), segments[i].payload.length = maximumBytes
  last : ∀ segment, segments.getLast? = some segment →
    1 ≤ segment.payload.length ∧ segment.payload.length ≤ maximumBytes
  firstNumber : ∀ segment, segments.head? = some segment → segment.sequenceNumber = 1
  nextNumber : ∀ i (h : i + 1 < segments.length),
    segments[i + 1].sequenceNumber.toNat =
      segments[i].sequenceNumber.toNat + segments[i].payload.length
  fin : ∀ i (h : i < segments.length),
    segments[i].details &&& TCP_FIN ≠ 0 ↔ i + 1 = segments.length

/-- Full payloads and one more, of any size up to theirs, are as many as it takes. -/
theorem length_eq_ceilDiv {maximumBytes : ℕ} {segments : List TCP} {last : TCP}
    (hfull : ∀ segment ∈ segments, segment.payload.length = maximumBytes)
    (hlast : 1 ≤ last.payload.length ∧ last.payload.length ≤ maximumBytes) :
    (segments ++ [last]).length =
      (payloadBytes (segments ++ [last])).length ⌈/⌉ maximumBytes := by
  have hbytes : (payloadBytes segments).length = segments.length * maximumBytes := by
    rw [payloadBytes, List.length_flatMap, List.map_congr_left hfull, List.map_const',
      List.sum_replicate, smul_eq_mul]
  rw [payloadBytes_append, payloadBytes_singleton, List.length_append, List.length_append, hbytes,
    List.length_singleton, Nat.ceilDiv_eq_add_pred_div]
  symm
  apply Nat.div_eq_of_lt_le
  · rw [Nat.succ_mul]
    omega
  · rw [Nat.succ_mul, Nat.succ_mul]
    omega

theorem cutsFile_of_isSegmentation {maximumBytes : ℕ} {file : List UInt8} {segments : List TCP}
    (h : IsSegmentation maximumBytes file segments)
    (hfull : ∀ segment ∈ segments.dropLast, segment.payload.length = maximumBytes)
    (hlength : file.length < 2 ^ 31) : CutsFile maximumBytes file segments := by
  have hlast : segments.dropLast ++ [segments.getLast h.ne_nil] = segments :=
    List.dropLast_append_getLast h.ne_nil
  have hnumber (i : ℕ) (hi : i < segments.length) :
      segments[i].sequenceNumber.toNat = boundary segments i := by
    rw [h.sequenceNumber i hi, toNat_boundary h hlength]
  refine ⟨?_, h.payloadBytes, ?_, ?_, ?_, ?_, ?_⟩
  · have hcount := length_eq_ceilDiv hfull
      (h.length_payload _ (List.getLast_mem h.ne_nil))
    rwa [hlast, h.payloadBytes] at hcount
  · intro i hi
    have hi' : i < segments.dropLast.length := by
      rw [List.length_dropLast]
      omega
    have hsize := hfull _ (List.getElem_mem hi')
    rwa [List.getElem_dropLast] at hsize
  · intro segment hsegment
    exact h.length_payload segment (List.mem_of_getLast? hsegment)
  · intro segment hsegment
    have hpositive := List.length_pos_iff.mpr h.ne_nil
    rw [List.head?_eq_getElem?, List.getElem?_eq_getElem hpositive, Option.some.injEq] at hsegment
    rw [← hsegment, h.sequenceNumber 0 hpositive]
    rfl
  · intro i hi
    rw [hnumber (i + 1) hi, hnumber i (Nat.lt_of_succ_lt hi), boundary_succ]
  · intro i hi
    rw [h.details i hi]
    split_ifs with hend
    · exact iff_of_true (by decide) hend
    · exact iff_of_false (by decide) hend

/-- A file of 1 to 2³¹ - 1 bytes is cut into full segments and a last one, as soon as the loops are
given enough rounds. -/
theorem cutsFile (uninitialised : TCP) (file : List UInt8) (srcPort destPort : UInt16)
    (maximumBytes : ℕ) (hfile : file ≠ []) (hlength : file.length < 2 ^ 31)
    (hmaximum : 1 ≤ maximumBytes) :
    ∃ segments, (∀ rounds, file.length + 1 < rounds →
        fileToTCPSegments rounds uninitialised file srcPort destPort maximumBytes =
          .ok segments) ∧
      CutsFile maximumBytes file segments := by
  have hcounter : file.length ≤ INT_MAX := by
    rw [INT_MAX]
    omega
  obtain ⟨segments, hsegments, his⟩ :=
    exists_segmentation uninitialised srcPort destPort hfile hmaximum
  refine ⟨segments, fun rounds hrounds ↦ ?_, ?_⟩
  · obtain ⟨result, hloop, hresult⟩ := exists_fileToTCPSegments uninitialised srcPort destPort
      hfile hcounter hmaximum hrounds
    rw [hloop, Option.some.inj (hresult.symm.trans hsegments)]
  · refine cutsFile_of_isSegmentation his ?_ hlength
    have hnone : ∀ segment ∈ ([] : List TCP), segment.payload.length = maximumBytes :=
      List.forall_mem_nil _
    exact length_of_mem_dropLast rfl hnone hsegments

theorem cutsFile_witness :
    ∃ segments, (∀ rounds, [(1 : UInt8), 2, 3, 4].length + 1 < rounds →
        fileToTCPSegments rounds ⟨0, 0, 0, 0, 0, 0, 0, []⟩ [1, 2, 3, 4] 30000 50000 2 =
          .ok segments) ∧
      CutsFile 2 [1, 2, 3, 4] segments :=
  cutsFile ⟨0, 0, 0, 0, 0, 0, 0, []⟩ [1, 2, 3, 4] 30000 50000 2 (by decide) (by decide) (by decide)

end Indexed

end NetworkSimulation.Stack
