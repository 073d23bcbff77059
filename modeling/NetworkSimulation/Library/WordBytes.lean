import Mathlib

/-!
# Words written as bytes, most significant byte first

A word of 16 or 32 bits is written one byte at a time, shifting the byte wanted down and keeping
its low eight bits. Reading the bytes back shifts each one up and adds. The two are inverse in both
directions (`word16_byte16`, `byte16_one_word16`, `byte16_zero_word16`, and the same for 32 bits).
Masks that keep the bits a shifted byte already occupies change nothing (`mask16_high`,
`mask32_first` and the lemmas after it), and a byte put in by `|||` below a shifted word is a sum
(`shiftLeft_or_byte`), so the spellings a decoder may use all come down to `word16` and `word32`.
So does the sum of bytes promoted to signed integers, which does not overflow
(`toUInt32_signedWord32`, `toInt_signedWord32`).
-/

set_option autoImplicit false
set_option relaxedAutoImplicit false

namespace NetworkSimulation.Library.WordBytes

/-- Byte `i` of a 16-bit word, counted from the least significant one. -/
def byte16 (word : UInt16) (i : UInt16) : UInt8 := ((word >>> (i * 8)) &&& 0xFF).toUInt8

/-- Byte `i` of a 32-bit word, counted from the least significant one. -/
def byte32 (word : UInt32) (i : UInt32) : UInt8 := ((word >>> (i * 8)) &&& 0xFF).toUInt8

/-- The two bytes of a 16-bit word, most significant first. -/
def bytes16 (word : UInt16) : List UInt8 := [1, 0].map (byte16 word)

/-- The four bytes of a 32-bit word, most significant first. -/
def bytes32 (word : UInt32) : List UInt8 := [3, 2, 1, 0].map (byte32 word)

/-- The 16-bit word with the given bytes. -/
def word16 (high low : UInt8) : UInt16 := (high.toUInt16 <<< 8) + low.toUInt16

/-- The 32-bit word with the given bytes. -/
def word32 (b₃ b₂ b₁ b₀ : UInt8) : UInt32 :=
  (b₃.toUInt32 <<< 24) + (b₂.toUInt32 <<< 16) + (b₁.toUInt32 <<< 8) + b₀.toUInt32

@[simp] theorem length_bytes16 (word : UInt16) : (bytes16 word).length = 2 := rfl

@[simp] theorem length_bytes32 (word : UInt32) : (bytes32 word).length = 4 := rfl

private theorem and_255 (n : ℕ) : n &&& 255 = n % 256 := Nat.and_two_pow_sub_one_eq_mod n 8

theorem toNat_word16 (high low : UInt8) :
    (word16 high low).toNat = high.toNat * 256 + low.toNat := by
  have hhigh := high.toNat_lt
  have hlow := low.toNat_lt
  simp [word16, Nat.shiftLeft_eq]
  omega

theorem toNat_word32 (b₃ b₂ b₁ b₀ : UInt8) : (word32 b₃ b₂ b₁ b₀).toNat =
    b₃.toNat * 16777216 + b₂.toNat * 65536 + b₁.toNat * 256 + b₀.toNat := by
  have h₃ := b₃.toNat_lt
  have h₂ := b₂.toNat_lt
  have h₁ := b₁.toNat_lt
  have h₀ := b₀.toNat_lt
  simp [word32, Nat.shiftLeft_eq]
  omega

/-! ### Reading back what was written -/

@[simp] theorem word16_byte16 (word : UInt16) : word16 (byte16 word 1) (byte16 word 0) = word := by
  apply UInt16.toNat_inj.mp
  have hword := word.toNat_lt
  simp [word16, byte16, Nat.shiftLeft_eq, Nat.shiftRight_eq_div_pow, and_255]
  omega

@[simp] theorem word32_byte32 (word : UInt32) :
    word32 (byte32 word 3) (byte32 word 2) (byte32 word 1) (byte32 word 0) = word := by
  apply UInt32.toNat_inj.mp
  have hword := word.toNat_lt
  simp [word32, byte32, Nat.shiftLeft_eq, Nat.shiftRight_eq_div_pow, and_255]
  omega

/-! ### Writing back what was read -/

@[simp] theorem byte16_one_word16 (high low : UInt8) : byte16 (word16 high low) 1 = high := by
  apply UInt8.toNat_inj.mp
  have hhigh := high.toNat_lt
  have hlow := low.toNat_lt
  simp [word16, byte16, Nat.shiftLeft_eq, Nat.shiftRight_eq_div_pow, and_255]
  omega

@[simp] theorem byte16_zero_word16 (high low : UInt8) : byte16 (word16 high low) 0 = low := by
  apply UInt8.toNat_inj.mp
  have hlow := low.toNat_lt
  simp [word16, byte16, Nat.shiftLeft_eq, and_255]

@[simp] theorem bytes16_word16 (high low : UInt8) : bytes16 (word16 high low) = [high, low] := by
  simp [bytes16]

@[simp] theorem bytes32_word32 (b₃ b₂ b₁ b₀ : UInt8) :
    bytes32 (word32 b₃ b₂ b₁ b₀) = [b₃, b₂, b₁, b₀] := by
  have h₃ := b₃.toNat_lt
  have h₂ := b₂.toNat_lt
  have h₁ := b₁.toNat_lt
  have h₀ := b₀.toNat_lt
  simp only [bytes32, List.map_cons, List.map_nil, List.cons.injEq, and_true]
  refine ⟨?_, ?_, ?_, ?_⟩ <;> apply UInt8.toNat_inj.mp <;>
    simp [word32, byte32, Nat.shiftLeft_eq, Nat.shiftRight_eq_div_pow, and_255] <;> omega

/-! ### Other spellings of a decoder -/

/-- A byte widened to 16 bits has no bit above the eighth. -/
theorem toUInt16_and_255 (b : UInt8) : b.toUInt16 &&& 0xFF = b.toUInt16 := by
  apply UInt16.toNat_inj.mp
  have hb := b.toNat_lt
  simp [and_255]

/-- A byte widened to 32 bits has no bit above the eighth. -/
theorem toUInt32_and_255 (b : UInt8) : b.toUInt32 &&& 0xFF = b.toUInt32 := by
  apply UInt32.toNat_inj.mp
  have hb := b.toNat_lt
  simp [and_255]

theorem mask16_high (b : UInt8) : (b.toUInt16 <<< 8) &&& (0xFF00 : UInt16) = b.toUInt16 <<< 8 := by
  have hmask : (0xFF00 : UInt16) = (0xFF : UInt16) <<< 8 := by decide
  rw [hmask, ← UInt16.shiftLeft_and, toUInt16_and_255]

theorem mask32_first (b : UInt8) :
    (b.toUInt32 <<< 24) &&& (0xFF000000 : UInt32) = b.toUInt32 <<< 24 := by
  have hmask : (0xFF000000 : UInt32) = (0xFF : UInt32) <<< 24 := by decide
  rw [hmask, ← UInt32.shiftLeft_and, toUInt32_and_255]

theorem mask32_second (b : UInt8) :
    (b.toUInt32 <<< 16) &&& (0x00FF0000 : UInt32) = b.toUInt32 <<< 16 := by
  have hmask : (0x00FF0000 : UInt32) = (0xFF : UInt32) <<< 16 := by decide
  rw [hmask, ← UInt32.shiftLeft_and, toUInt32_and_255]

theorem mask32_third (b : UInt8) :
    (b.toUInt32 <<< 8) &&& (0x0000FF00 : UInt32) = b.toUInt32 <<< 8 := by
  have hmask : (0x0000FF00 : UInt32) = (0xFF : UInt32) <<< 8 := by decide
  rw [hmask, ← UInt32.shiftLeft_and, toUInt32_and_255]

/-- A byte put in below a word shifted up by eight bits is added to it. -/
theorem shiftLeft_or_byte (word : UInt32) (b : UInt8) :
    (word <<< 8) ||| b.toUInt32 = (word <<< 8) + b.toUInt32 := by
  apply UInt32.toNat_inj.mp
  have hb := b.toNat_lt
  have hword := word.toNat_lt
  have hshift : word.toNat * 256 % 4294967296 = 2 ^ 8 * (word.toNat % 16777216) := by omega
  have hor := Nat.two_pow_add_eq_or_of_lt (i := 8) hb (word.toNat % 16777216)
  simp [Nat.shiftLeft_eq, hshift] at hor ⊢
  omega

/-- Four bytes shifted to their places and put together by `|||` are added. -/
theorem or_shiftLeft_eq_word32 (b₃ b₂ b₁ b₀ : UInt8) :
    (((b₃.toUInt32 <<< 24) ||| (b₂.toUInt32 <<< 16)) ||| (b₁.toUInt32 <<< 8)) ||| b₀.toUInt32 =
      word32 b₃ b₂ b₁ b₀ := by
  have h24 (word : UInt32) : word <<< 24 = ((word <<< 8) <<< 8) <<< 8 := by
    apply UInt32.toNat_inj.mp
    simp [Nat.shiftLeft_eq]
    omega
  have h16 (word : UInt32) : word <<< 16 = (word <<< 8) <<< 8 := by
    apply UInt32.toNat_inj.mp
    simp [Nat.shiftLeft_eq]
    omega
  rw [word32, h24, h16, ← UInt32.shiftLeft_or, ← UInt32.shiftLeft_or, ← UInt32.shiftLeft_or]
  simp only [shiftLeft_or_byte]
  apply UInt32.toNat_inj.mp
  simp [Nat.shiftLeft_eq]
  omega

/-! ### Bytes promoted to signed integers -/

/-- A byte in an expression of C: it is promoted to a signed integer of 32 bits. -/
def promoted (b : UInt8) : Int32 := b.toUInt32.toInt32

/-- Four promoted bytes shifted to their places and added; the first shift reaches the sign bit. -/
def signedWord32 (b₃ b₂ b₁ b₀ : UInt8) : Int32 :=
  (promoted b₃ <<< 24) + (promoted b₂ <<< 16) + (promoted b₁ <<< 8) + promoted b₀

theorem toUInt32_signedWord32 (b₃ b₂ b₁ b₀ : UInt8) :
    (signedWord32 b₃ b₂ b₁ b₀).toUInt32 = word32 b₃ b₂ b₁ b₀ := rfl

private theorem toInt_eq_bmod (x : Int32) : x.toInt = (x.toUInt32.toNat : ℤ).bmod 4294967296 :=
  BitVec.toInt_eq_toNat_bmod x.toBitVec

/-- The additions do not overflow, whatever the sign bit is. -/
theorem toInt_signedWord32 (b₃ b₂ b₁ b₀ : UInt8) :
    (signedWord32 b₃ b₂ b₁ b₀).toInt =
      (promoted b₃ <<< 24).toInt + b₂.toNat * 65536 + b₁.toNat * 256 + b₀.toNat := by
  have h₃ := b₃.toNat_lt
  have h₂ := b₂.toNat_lt
  have h₁ := b₁.toNat_lt
  have h₀ := b₀.toNat_lt
  have hhigh : (promoted b₃ <<< 24).toUInt32.toNat = b₃.toNat * 16777216 := by
    change (b₃.toUInt32 <<< 24).toNat = _
    simp [Nat.shiftLeft_eq]
    omega
  rw [toInt_eq_bmod, toInt_eq_bmod, hhigh, toUInt32_signedWord32, toNat_word32]
  simp only [Int.bmod]
  omega

end NetworkSimulation.Library.WordBytes
