import NetworkSimulation.Stack.Pdu

/-!
ARP messages and the frames that carry them. `MPDU::encap_SDU(ARP)` writes 22 bytes, six for each
MAC address; `generate_ARP` reads them back at fixed offsets, and has no result (`none`) on fewer
bytes.
-/

set_option autoImplicit false
set_option relaxedAutoImplicit false

namespace NetworkSimulation.Stack

open Library.WordBytes

def MPDU_ARP_TYPE : UInt16 := 0x0806
def ARP_REQUEST : UInt16 := 0x0001
def ARP_REPLY : UInt16 := 0x0002

structure ARP where
  opcode : UInt16
  senderMac : Mac
  senderIp : UInt32
  targetMac : Mac
  targetIp : UInt32
  deriving DecidableEq

/-- Two bytes put together as `generate_ARP` does, masking both. -/
def arpWord16 (high low : UInt8) : UInt16 :=
  ((high.toUInt16 <<< 8) &&& (0xFF00 : UInt16)) + (low.toUInt16 &&& (0x00FF : UInt16))

/-- Four bytes put together as the loops of `generate_ARP` do: each is masked, shifted to its place
and put in by `|=`. -/
def arpWord32 (b₃ b₂ b₁ b₀ : UInt8) : UInt32 :=
  ((((0 : UInt32) ||| ((b₃.toUInt32 &&& 0x000000FF) <<< 24)) |||
    ((b₂.toUInt32 &&& 0x000000FF) <<< 16)) ||| ((b₁.toUInt32 &&& 0x000000FF) <<< 8)) |||
      ((b₀.toUInt32 &&& 0x000000FF) <<< 0)

def generateARP : List UInt8 → Option ARP
  | b0 :: b1 :: b2 :: b3 :: b4 :: b5 :: b6 :: b7 :: b8 :: b9 :: b10 :: b11 :: b12 :: b13 :: b14 ::
      b15 :: b16 :: b17 :: b18 :: b19 :: b20 :: b21 :: _ =>
    some
      { opcode := arpWord16 b0 b1
        senderMac := [b2, b3, b4, b5, b6, b7]
        senderIp := arpWord32 b8 b9 b10 b11
        targetMac := [b12, b13, b14, b15, b16, b17]
        targetIp := arpWord32 b18 b19 b20 b21 }
  | _ => none

/-- The bytes that `MPDU::encap_SDU(ARP)` writes. -/
def ARP.bytes (message : ARP) : List UInt8 :=
  bytes16 message.opcode ++ message.senderMac.take 6 ++ bytes32 message.senderIp ++
    message.targetMac.take 6 ++ bytes32 message.targetIp

/-- `MPDU::encap_SDU(ARP)`. -/
def MPDU.encapARP (frame : MPDU) (message : ARP) : MPDU :=
  { frame with SDUType := MPDU_ARP_TYPE, SDU := message.bytes }

/-! ### Reading back what was written -/

theorem arpWord16_eq (high low : UInt8) : arpWord16 high low = word16 high low := by
  rw [arpWord16, mask16_high, toUInt16_and_255, word16]

theorem arpWord32_eq (b₃ b₂ b₁ b₀ : UInt8) : arpWord32 b₃ b₂ b₁ b₀ = word32 b₃ b₂ b₁ b₀ := by
  simp only [arpWord32, toUInt32_and_255, UInt32.zero_or, UInt32.shiftLeft_zero,
    or_shiftLeft_eq_word32]

/-- A message with addresses of six bytes comes back from its bytes. -/
theorem generateARP_bytes {message : ARP} (hsender : message.senderMac.length = 6)
    (htarget : message.targetMac.length = 6) : generateARP message.bytes = some message := by
  obtain ⟨opcode, senderMac, senderIp, targetMac, targetIp⟩ := message
  obtain ⟨s0, s1, s2, s3, s4, s5, rfl⟩ := exists_bytes_of_length hsender
  obtain ⟨t0, t1, t2, t3, t4, t5, rfl⟩ := exists_bytes_of_length htarget
  simp [ARP.bytes, generateARP, bytes16, bytes32, arpWord16_eq, arpWord32_eq]

/-! ### Writing back what was read -/

/-- The message read from 22 bytes is written as the same bytes, whatever they are. -/
theorem exists_generateARP {bytes : List UInt8} (h : bytes.length = 22) :
    ∃ message, generateARP bytes = some message ∧
      ∀ frame : MPDU, (frame.encapARP message).SDU = bytes := by
  match bytes, h with
  | [b0, b1, b2, b3, b4, b5, b6, b7, b8, b9, b10, b11, b12, b13, b14, b15, b16, b17, b18, b19, b20,
      b21], _ =>
    refine ⟨_, rfl, fun frame ↦ ?_⟩
    simp [MPDU.encapARP, ARP.bytes, arpWord16_eq, arpWord32_eq]

end NetworkSimulation.Stack
