import NetworkSimulation.Stack.Encapsulation

/-!
# What a decoder read is written back byte for byte

The decoders drop nothing and put nothing into a canonical form. Encapsulating what `generate_TCP`,
`generate_UDP` or `generate_ICMP` read gives the bytes they read (`bytes_of_generateTCP` and its
siblings). For an IP packet the encoder takes the declared lengths as they are and the decoder takes
the data from offset 12, whatever header length is declared, so a packet comes back where the
declared lengths leave exactly the bytes after the header as data (`WellFormedPacket`).
-/

set_option autoImplicit false
set_option relaxedAutoImplicit false

namespace NetworkSimulation.Stack

open Library.WordBytes

/-- Byte 0, the declared header length. -/
def declaredHeaderLength (bytes : List UInt8) : ℕ := (bytes.getD 0 0).toNat

/-- Bytes 1 and 2, the declared total length. -/
def declaredTotalLength (bytes : List UInt8) : ℕ := (word16 (bytes.getD 1 0) (bytes.getD 2 0)).toNat

/-- The vector holds a header, and what it declares as data is all that follows the header. -/
structure WellFormedPacket (bytes : List UInt8) : Prop where
  header : IP_HEADER_SIZE ≤ bytes.length
  data : (declaredTotalLength bytes : ℤ) - declaredHeaderLength bytes =
    bytes.length - IP_HEADER_SIZE

/-- A well-formed vector is decoded, and the frame around the packet holds the vector again. -/
theorem WellFormedPacket.exists_generate {bytes : List UInt8} (h : WellFormedPacket bytes) :
    ∃ packet, IP.generate bytes = some packet ∧
      ∀ frame : MPDU, (frame.encapIP packet).SDU = bytes := by
  obtain ⟨hheader, hdata⟩ := h
  unfold IP_HEADER_SIZE at hheader hdata
  match bytes, hheader, hdata with
  | b0 :: b1 :: b2 :: b3 :: b4 :: b5 :: b6 :: b7 :: b8 :: b9 :: b10 :: b11 :: rest, _, hdata =>
    simp only [declaredTotalLength, declaredHeaderLength, List.getD_cons_zero, List.getD_cons_succ,
      List.length_cons] at hdata
    have htotal : (word16 b1 b2).toNat = b0.toNat + rest.length := by omega
    have hsmall : rest.length < 65536 := by
      have hword := (word16 b1 b2).toNat_lt
      omega
    let packet : IP :=
      { headerLength := b0
        totalLength := word16 b1 b2
        protocol := b3
        sourceIp := createIp b4 b5 b6 b7
        destinationIp := createIp b8 b9 b10 b11
        SDU := rest }
    refine ⟨packet, ?_, fun frame ↦ ?_⟩
    · simp [IP.generate, htotal, packet]
    · -- the loop of the encoder stops at the 16-bit size of the data, which is their size here
      have hsize : packet.getSDULength.toNat = rest.length := by
        rw [IP.getSDULength, UInt16.toNat_ofNat', Nat.mod_eq_of_lt hsmall]
      rw [MPDU.encapIP, hsize]
      simp [createIp_eq_word32, packet]

/-! ### The message decoders -/

section Messages

variable {bytes : List UInt8}

theorem exists_generateICMP (h : ICMP_HEADER_SIZE ≤ bytes.length) :
    ∃ message, generateICMP bytes = some message ∧ message.bytes = bytes := by
  unfold ICMP_HEADER_SIZE at h
  match bytes, h with
  | _ :: _ :: _ :: _ :: _ :: _ :: _ :: _ :: _, _ => exact ⟨_, rfl, bytes_of_generateICMP rfl⟩

theorem exists_generateUDP (h : UDP_HEADER_SIZE ≤ bytes.length) :
    ∃ segment, generateUDP bytes = some segment ∧ segment.bytes = bytes := by
  unfold UDP_HEADER_SIZE at h
  match bytes, h with
  | _ :: _ :: _ :: _ :: _ :: _ :: _ :: _ :: _, _ => exact ⟨_, rfl, bytes_of_generateUDP rfl⟩

theorem exists_generateTCP (h : TCP_HEADER_SIZE ≤ bytes.length) :
    ∃ segment, generateTCP bytes = some segment ∧ segment.bytes = bytes := by
  unfold TCP_HEADER_SIZE at h
  match bytes, h with
  | _ :: _ :: _ :: _ :: _ :: _ :: _ :: _ :: _ :: rest, h =>
    have hrest : 9 ≤ rest.length := by
      simp only [List.length_cons] at h
      omega
    match rest, hrest with
    | _ :: _ :: _ :: _ :: _ :: _ :: _ :: _ :: _ :: _, _ => exact ⟨_, rfl, bytes_of_generateTCP rfl⟩

end Messages

/-- A default-constructed packet has taken in a message: these bytes are its data, and the total
length it declares is that of its header and of them. -/
structure TakesIn (packet : IP) (bytes : List UInt8) : Prop where
  data : packet.SDU = bytes
  totalLength : packet.totalLength.toNat = IP_HEADER_SIZE + bytes.length

theorem takesIn_encap (uninitialised : IP) (protocol : UInt8) {bytes : List UInt8}
    (h : bytes.length ≤ 65523) : TakesIn ((IP.new uninitialised).encap protocol bytes) bytes where
  data := rfl
  totalLength := by
    change (UInt16.ofNat (12 + bytes.length)).toNat = 12 + bytes.length
    rw [UInt16.toNat_ofNat', Nat.mod_eq_of_lt (by omega)]

section Encapsulated

variable {bytes : List UInt8} (uninitialised : IP)

theorem exists_encapTCP (hheader : TCP_HEADER_SIZE ≤ bytes.length) (h : bytes.length ≤ 65523) :
    ∃ segment, generateTCP bytes = some segment ∧
      TakesIn ((IP.new uninitialised).encapTCP segment) bytes := by
  obtain ⟨segment, hsegment, hbytes⟩ := exists_generateTCP hheader
  refine ⟨segment, hsegment, ?_⟩
  rw [IP.encapTCP, hbytes]
  exact takesIn_encap uninitialised _ h

theorem exists_encapUDP (hheader : UDP_HEADER_SIZE ≤ bytes.length) (h : bytes.length ≤ 65523) :
    ∃ segment, generateUDP bytes = some segment ∧
      TakesIn ((IP.new uninitialised).encapUDP segment) bytes := by
  obtain ⟨segment, hsegment, hbytes⟩ := exists_generateUDP hheader
  refine ⟨segment, hsegment, ?_⟩
  rw [IP.encapUDP, hbytes]
  exact takesIn_encap uninitialised _ h

theorem exists_encapICMP (hheader : ICMP_HEADER_SIZE ≤ bytes.length) (h : bytes.length ≤ 65523) :
    ∃ message, generateICMP bytes = some message ∧
      TakesIn ((IP.new uninitialised).encapICMP message) bytes := by
  obtain ⟨message, hmessage, hbytes⟩ := exists_generateICMP hheader
  refine ⟨message, hmessage, ?_⟩
  rw [IP.encapICMP, hbytes]
  exact takesIn_encap uninitialised _ h

end Encapsulated

/-! ### Decoders tell byte strings apart -/

/-- A decoder whose result encodes to the bytes it was read from tells two byte strings apart. -/
theorem eq_of_decoded_eq {α : Type} {decode : List UInt8 → Option α} (encode : α → List UInt8)
    {bytes bytes' : List UInt8}
    (h : ∃ decoded, decode bytes = some decoded ∧ encode decoded = bytes)
    (h' : ∃ decoded, decode bytes' = some decoded ∧ encode decoded = bytes')
    (hsame : decode bytes = decode bytes') : bytes = bytes' := by
  obtain ⟨decoded, hdecode, rfl⟩ := h
  obtain ⟨decoded', hdecode', rfl⟩ := h'
  rw [hdecode, hdecode', Option.some.injEq] at hsame
  rw [hsame]

/-- No byte of a packet, a segment or a message is lost or changed by decoding it and encoding it
again, and so two byte strings are never decoded to the same. -/
theorem reencoding_exact (uninitialised : IP) :
    (∀ bytes, WellFormedPacket bytes → ∃ packet, IP.generate bytes = some packet ∧
      ∀ frame : MPDU, (frame.encapIP packet).SDU = bytes) ∧
    (∀ bytes : List UInt8, bytes.length ≤ 65523 →
      (TCP_HEADER_SIZE ≤ bytes.length → ∃ segment, generateTCP bytes = some segment ∧
        TakesIn ((IP.new uninitialised).encapTCP segment) bytes) ∧
      (UDP_HEADER_SIZE ≤ bytes.length → ∃ segment, generateUDP bytes = some segment ∧
        TakesIn ((IP.new uninitialised).encapUDP segment) bytes) ∧
      (ICMP_HEADER_SIZE ≤ bytes.length → ∃ message, generateICMP bytes = some message ∧
        TakesIn ((IP.new uninitialised).encapICMP message) bytes)) ∧
    (∀ bytes bytes', WellFormedPacket bytes → WellFormedPacket bytes' →
      IP.generate bytes = IP.generate bytes' → bytes = bytes') ∧
    (∀ bytes bytes' : List UInt8, bytes.length ≤ 65523 → bytes'.length ≤ 65523 →
      (TCP_HEADER_SIZE ≤ bytes.length → TCP_HEADER_SIZE ≤ bytes'.length →
        generateTCP bytes = generateTCP bytes' → bytes = bytes') ∧
      (UDP_HEADER_SIZE ≤ bytes.length → UDP_HEADER_SIZE ≤ bytes'.length →
        generateUDP bytes = generateUDP bytes' → bytes = bytes') ∧
      (ICMP_HEADER_SIZE ≤ bytes.length → ICMP_HEADER_SIZE ≤ bytes'.length →
        generateICMP bytes = generateICMP bytes' → bytes = bytes')) := by
  refine ⟨fun _ ↦ WellFormedPacket.exists_generate, fun bytes h ↦ ⟨?_, ?_, ?_⟩,
    fun bytes bytes' hwell hwell' hsame ↦ ?_, fun bytes bytes' h h' ↦ ⟨?_, ?_, ?_⟩⟩
  · exact fun hheader ↦ exists_encapTCP uninitialised hheader h
  · exact fun hheader ↦ exists_encapUDP uninitialised hheader h
  · exact fun hheader ↦ exists_encapICMP uninitialised hheader h
  · obtain ⟨packet, hpacket, hframe⟩ := hwell.exists_generate
    obtain ⟨packet', hpacket', hframe'⟩ := hwell'.exists_generate
    let frame : MPDU := ⟨[], [], 0, []⟩
    exact eq_of_decoded_eq (fun packet ↦ (frame.encapIP packet).SDU)
      ⟨packet, hpacket, hframe frame⟩ ⟨packet', hpacket', hframe' frame⟩ hsame
  · exact fun hheader hheader' ↦
      eq_of_decoded_eq TCP.bytes (exists_generateTCP hheader) (exists_generateTCP hheader')
  · exact fun hheader hheader' ↦
      eq_of_decoded_eq UDP.bytes (exists_generateUDP hheader) (exists_generateUDP hheader')
  · exact fun hheader hheader' ↦
      eq_of_decoded_eq ICMP.bytes (exists_generateICMP hheader) (exists_generateICMP hheader')

/-- A packet that declares a header of 20 bytes, and the shortest UDP segment. -/
theorem reencoding_exact_witness :
    (∃ packet, IP.generate [20, 0, 21, 6, 10, 0, 0, 1, 10, 0, 0, 2, 0xAB] = some packet ∧
      ((⟨[], [], 0, []⟩ : MPDU).encapIP packet).SDU =
        [20, 0, 21, 6, 10, 0, 0, 1, 10, 0, 0, 2, 0xAB]) ∧
    ∃ segment, generateUDP [0, 68, 0, 67, 0, 8, 0xFF, 0xFF] = some segment ∧
      TakesIn ((IP.new ⟨0, 0, 0, 0, 0, []⟩).encapUDP segment) [0, 68, 0, 67, 0, 8, 0xFF, 0xFF] := by
  obtain ⟨hpacket, hmessage, -⟩ := reencoding_exact ⟨0, 0, 0, 0, 0, []⟩
  refine ⟨?_, (hmessage _ (by decide)).2.1 (by decide)⟩
  obtain ⟨packet, hgenerate, hframe⟩ :=
    hpacket [20, 0, 21, 6, 10, 0, 0, 1, 10, 0, 0, 2, 0xAB] ⟨by decide, by decide⟩
  exact ⟨packet, hgenerate, hframe _⟩

end NetworkSimulation.Stack
