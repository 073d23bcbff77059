import NetworkSimulation.Library.WordBytes

/-!
Addresses of the simulator. A MAC address is a vector of bytes of which the code reads the first
six; an IP address is a 32-bit word.
-/

set_option autoImplicit false
set_option relaxedAutoImplicit false

namespace NetworkSimulation.Stack

open Library.WordBytes

/-- A `vector<uint8_t>` holding a MAC address. -/
abbrev Mac := List UInt8

/-- `compare_macs`: the loop over the six bytes of both addresses. The source reads out of range where
an address has fewer; here a missing byte is equal to a missing byte only. -/
def compareMacs (mac1 mac2 : Mac) : Bool := (List.range 6).all fun i ↦ mac1[i]? == mac2[i]?

def compareIps (ip1 ip2 : UInt32) : Bool := ip1 == ip2

/-- `is_broadcast` on a MAC address: six bytes `0xFF`. The source reads out of range where there are
fewer; here a missing byte is none. -/
def isBroadcast (address : Mac) : Bool := (List.range 6).all fun i ↦ address[i]? == some 0xFF

/-- `create_ip`: the bytes shifted in one after the other. -/
def createIp (b1 b2 b3 b4 : UInt8) : UInt32 :=
  ((((((0 ||| b1.toUInt32) <<< 8) ||| b2.toUInt32) <<< 8) ||| b3.toUInt32) <<< 8) ||| b4.toUInt32

def createUniformMac (macByte : UInt8) : Mac := List.replicate 6 macByte

def createBroadcastMac : Mac := List.replicate 6 0xFF

def createBroadcastIp : UInt32 := 0xFFFFFFFF

/-- `in_subnet`: the addresses agree in every bit that is set in the mask. -/
def inSubnet (ip1 ip2 testNetmask : UInt32) : Bool := (List.range 32).all fun i ↦
  if (testNetmask >>> i.toUInt32) &&& 1 = 0 then true
  else (ip1 >>> i.toUInt32) &&& 1 == (ip2 >>> i.toUInt32) &&& 1

/-- `compare_macs` reads six bytes and no more. -/
theorem compareMacs_iff_take (mac1 mac2 : Mac) :
    compareMacs mac1 mac2 = true ↔ mac1.take 6 = mac2.take 6 := by
  constructor
  · intro h
    simp only [compareMacs, List.all_eq_true, List.mem_range, beq_iff_eq] at h
    refine List.ext_getElem? fun i ↦ ?_
    simp only [List.getElem?_take]
    split_ifs with hi
    · exact h i hi
    · rfl
  · intro h
    simp only [compareMacs, List.all_eq_true, List.mem_range, beq_iff_eq]
    intro i hi
    have hbyte := congrArg (fun bytes : List UInt8 ↦ bytes[i]?) h
    simpa only [List.getElem?_take, if_pos hi] using hbyte

@[simp] theorem compareMacs_self (mac : Mac) : compareMacs mac mac = true :=
  (compareMacs_iff_take mac mac).mpr rfl

theorem compareMacs_comm (mac1 mac2 : Mac) : compareMacs mac1 mac2 = compareMacs mac2 mac1 := by
  rw [Bool.eq_iff_iff, compareMacs_iff_take, compareMacs_iff_take, eq_comm]

theorem compareMacs_trans {mac1 mac2 mac3 : Mac} (h : compareMacs mac1 mac2 = true)
    (h' : compareMacs mac2 mac3 = true) : compareMacs mac1 mac3 = true := by
  rw [compareMacs_iff_take] at h h' ⊢
  exact h.trans h'

/-- `compare_macs` does not tell addresses apart that are equal to it. -/
theorem compareMacs_congr {mac1 mac1' mac2 mac2' : Mac} (h1 : compareMacs mac1 mac1' = true)
    (h2 : compareMacs mac2 mac2' = true) : compareMacs mac1 mac2 = compareMacs mac1' mac2' := by
  rw [compareMacs_iff_take] at h1 h2
  rw [Bool.eq_iff_iff, compareMacs_iff_take, compareMacs_iff_take, h1, h2]

@[simp] theorem compareIps_iff {ip1 ip2 : UInt32} : compareIps ip1 ip2 = true ↔ ip1 = ip2 :=
  beq_iff_eq

theorem exists_bytes_of_length {mac : Mac} (h : mac.length = 6) :
    ∃ b0 b1 b2 b3 b4 b5, mac = [b0, b1, b2, b3, b4, b5] := by
  match mac, h with
  | [b0, b1, b2, b3, b4, b5], _ => exact ⟨b0, b1, b2, b3, b4, b5, rfl⟩

/-- On addresses of six bytes `compare_macs` is equality. -/
theorem compareMacs_iff {mac1 mac2 : Mac} (h1 : mac1.length = 6) (h2 : mac2.length = 6) :
    compareMacs mac1 mac2 = true ↔ mac1 = mac2 := by
  rw [compareMacs_iff_take, List.take_of_length_le h1.le, List.take_of_length_le h2.le]

/-- `is_broadcast` reads the same six bytes. -/
theorem isBroadcast_eq_of_compareMacs {mac1 mac2 : Mac} (h : compareMacs mac1 mac2 = true) :
    isBroadcast mac1 = isBroadcast mac2 := by
  simp only [compareMacs, List.all_eq_true, List.mem_range, beq_iff_eq] at h
  rw [Bool.eq_iff_iff]
  simp only [isBroadcast, List.all_eq_true, List.mem_range, beq_iff_eq]
  exact forall₂_congr fun i hi ↦ by rw [h i hi]

/-- The bytes `create_ip` shifts in are those of the word. -/
theorem createIp_eq_word32 (b1 b2 b3 b4 : UInt8) : createIp b1 b2 b3 b4 = word32 b1 b2 b3 b4 := by
  unfold createIp word32
  simp only [UInt32.zero_or, shiftLeft_or_byte]
  apply UInt32.toNat_inj.mp
  have h1 := b1.toNat_lt
  have h2 := b2.toNat_lt
  have h3 := b3.toNat_lt
  have h4 := b4.toNat_lt
  simp [Nat.shiftLeft_eq]
  omega

end NetworkSimulation.Stack
