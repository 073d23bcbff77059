import NetworkSimulation.Stack.Addressing

/-!
The transport layer: TCP and UDP segments, their decoders, and the two functions that cut a file
into segments. A decoder reads fixed offsets of its byte vector, so on a vector shorter than the
header it has no result (`none`): the source would read out of range, and its `reserve` would be
asked for a negative size.

The loops that load a payload are written on the part of the file not loaded yet. Reading
`file[bytes_loaded]` at or beyond the end of the file is the pattern `[]`, which has no result.
Members of a segment that the source leaves uninitialised are taken from an argument.
-/

set_option autoImplicit false
set_option relaxedAutoImplicit false

namespace NetworkSimulation.Stack

open Library.WordBytes

def TCP_SYN : UInt16 := 0x0002
def TCP_ACK : UInt16 := 0x0010
def TCP_FIN : UInt16 := 0x0001
def TCP_SYNACK : UInt16 := TCP_ACK ||| TCP_SYN
def TCP_INITIAL_SN : UInt32 := 0
def TCP_HEADER_SIZE : ℕ := 18
def UDP_HEADER_SIZE : ℕ := 8
def SEGMENT_EOF : UInt8 := 0xFF

structure UDP where
  sourcePort : UInt16
  destinationPort : UInt16
  length : UInt16
  checksum : UInt16
  payload : List UInt8
  deriving DecidableEq

structure TCP where
  sourcePort : UInt16
  destinationPort : UInt16
  sequenceNumber : UInt32
  ackNumber : UInt32
  details : UInt16
  receiveWindow : UInt16
  checksum : UInt16
  payload : List UInt8
  deriving DecidableEq

/-! ### Decoders -/

/-- Two bytes put together as the decoders of UDP, TCP and ICMP do, masking the shifted one. -/
def maskedWord16 (high low : UInt8) : UInt16 :=
  ((high.toUInt16 <<< 8) &&& (0xFF00 : UInt16)) + low.toUInt16

/-- Four bytes put together as the decoder of TCP does, masking each of them. -/
def maskedWord32 (b₃ b₂ b₁ b₀ : UInt8) : UInt32 :=
  ((b₃.toUInt32 <<< 24) &&& (0xFF000000 : UInt32)) +
    ((b₂.toUInt32 <<< 16) &&& (0x00FF0000 : UInt32)) +
    ((b₁.toUInt32 <<< 8) &&& (0x0000FF00 : UInt32)) + (b₀.toUInt32 &&& (0x000000FF : UInt32))

@[simp] theorem maskedWord16_eq (high low : UInt8) : maskedWord16 high low = word16 high low := by
  rw [maskedWord16, mask16_high, word16]

@[simp] theorem maskedWord32_eq (b₃ b₂ b₁ b₀ : UInt8) :
    maskedWord32 b₃ b₂ b₁ b₀ = word32 b₃ b₂ b₁ b₀ := by
  rw [maskedWord32, mask32_first, mask32_second, mask32_third, toUInt32_and_255, word32]

def generateUDP : List UInt8 → Option UDP
  | b0 :: b1 :: b2 :: b3 :: b4 :: b5 :: b6 :: b7 :: payload =>
    some
      { sourcePort := maskedWord16 b0 b1
        destinationPort := maskedWord16 b2 b3
        length := maskedWord16 b4 b5
        checksum := maskedWord16 b6 b7
        payload }
  | _ => none

def generateTCP : List UInt8 → Option TCP
  | b0 :: b1 :: b2 :: b3 :: b4 :: b5 :: b6 :: b7 :: b8 :: b9 :: b10 :: b11 :: b12 :: b13 :: b14 ::
      b15 :: b16 :: b17 :: payload =>
    some
      { sourcePort := maskedWord16 b0 b1
        destinationPort := maskedWord16 b2 b3
        sequenceNumber := maskedWord32 b4 b5 b6 b7
        ackNumber := maskedWord32 b8 b9 b10 b11
        details := maskedWord16 b12 b13
        receiveWindow := maskedWord16 b14 b15
        checksum := maskedWord16 b16 b17
        payload }
  | _ => none

/-! ### Files cut into segments -/

/-- The loop of `file_to_UDP_segments`. A byte is loaded before anything is tested; the last byte of
the file is followed by the end marker, whatever room the segment has left. -/
def loadUDPSegments (maximumBytes : ℕ) : List UInt8 → UDP → List UDP → Option (List UDP)
  | [], _, _ => none
  | byte :: rest, txSegment, result =>
    let payload := txSegment.payload ++ [byte]
    if rest = [] then some (result ++ [{ txSegment with payload := payload ++ [SEGMENT_EOF] }])
    else if payload.length = maximumBytes then
      loadUDPSegments maximumBytes rest { txSegment with payload := [] }
        (result ++ [{ txSegment with payload }])
    else loadUDPSegments maximumBytes rest { txSegment with payload } result

def fileToUDPSegments (uninitialised : UDP) (file : List UInt8) (srcPort destPort : UInt16)
    (maximumBytes : ℕ) : Option (List UDP) :=
  loadUDPSegments maximumBytes file
    { uninitialised with sourcePort := srcPort, destinationPort := destPort, payload := [] } []

/-- The inner loop of `file_to_TCP_segments`: the payload, the part of the file still to be loaded
and whether the end of the file was met, which sets `TCP_FIN`. -/
def loadPayload (maximumBytes : ℕ) :
    List UInt8 → List UInt8 → Option (List UInt8 × List UInt8 × Bool)
  | [], _ => none
  | byte :: rest, payload =>
    if rest = [] then some (payload ++ [byte], rest, true)
    else if (payload ++ [byte]).length = maximumBytes then some (payload ++ [byte], rest, false)
    else loadPayload maximumBytes rest (payload ++ [byte])

/-- The outer loop of `file_to_TCP_segments`, run at most as many times as its first argument
says; `none` is also the result of a loop that has not ended by then. -/
def loadTCPSegments (maximumBytes : ℕ) : ℕ → List UInt8 → TCP → List TCP → Option (List TCP)
  | 0, _, _, _ => none
  | rounds + 1, rest, txSegment, result =>
    if txSegment.details &&& TCP_FIN ≠ 0 then some result
    else
      match loadPayload maximumBytes rest [] with
      | none => none
      | some (payload, rest', endOfFile) =>
        let details := if endOfFile then txSegment.details ||| TCP_FIN else txSegment.details
        let sequenceNumber :=
          match result.getLast? with
          | some back => back.sequenceNumber + UInt32.ofNat back.payload.length
          | none => txSegment.sequenceNumber
        let segment := { txSegment with payload, details, sequenceNumber }
        loadTCPSegments maximumBytes rounds rest' segment (result ++ [segment])

/-- `file_to_TCP_segments` on the bytes read from the file. Each round of the outer loop but the
last, which only finds the FIN flag set, loads at least one byte. -/
def fileToTCPSegments (uninitialised : TCP) (file : List UInt8) (srcPort destPort : UInt16)
    (maximumBytes : ℕ) : Option (List TCP) :=
  loadTCPSegments maximumBytes (file.length + 1) file
    { uninitialised with
      sourcePort := srcPort, destinationPort := destPort, sequenceNumber := 1, ackNumber := 1,
      details := TCP_ACK, payload := [] } []

end NetworkSimulation.Stack
