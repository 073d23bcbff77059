import NetworkSimulation.Tcp.AckClocked

/-!
# The program's parties and the protocol

`Simulates` here instantiates the library's: the client and the server of a session do what the
parties of `AckClocked` do, in every state that is `Safe`. A segment is known by its index, and a
reply by the boundary it acknowledges: the sequence numbers of distinct boundaries are distinct
because a file of fewer than 2 ^ 31 bytes does not wrap around 32 bits (`toNat_boundary`).

`exists_represented` transfers runs: every reachable state of a session represents a state of the
protocol that is reached by the same events.
-/

set_option autoImplicit false
set_option relaxedAutoImplicit false

namespace NetworkSimulation.Tcp

open Stack Library

/-! ### Boundaries -/

section Boundaries

variable {file : List UInt8} {segments : List TCP} {maximumBytes : ℕ}

/-- No payload is empty, so boundaries increase. -/
theorem boundary_lt_boundary (h : IsSegmentation maximumBytes file segments) {first second : ℕ}
    (hless : first < second) (hsecond : second ≤ segments.length) :
    boundary segments first < boundary segments second := by
  induction second, hless using Nat.le_induction with
  | base =>
    have hpayload := (h.length_payload _ (List.getElem_mem hsecond)).1
    rw [boundary_succ hsecond]
    omega
  | succ second hless ih =>
    have hbefore := ih (by omega)
    rw [boundary_succ hsecond]
    omega

theorem boundary_inj (h : IsSegmentation maximumBytes file segments) {first second : ℕ}
    (hfirst : first ≤ segments.length) (hsecond : second ≤ segments.length) :
    boundary segments first = boundary segments second ↔ first = second := by
  constructor
  · intro heq
    rcases lt_trichotomy first second with hless | hsame | hless
    · exact absurd heq (boundary_lt_boundary h hless hsecond).ne
    · exact hsame
    · exact absurd heq.symm (boundary_lt_boundary h hless hfirst).ne
  · rintro rfl
    rfl

theorem ofNat_boundary_inj (h : IsSegmentation maximumBytes file segments)
    (hfile : file.length < 2 ^ 31) {first second : ℕ} (hfirst : first ≤ segments.length)
    (hsecond : second ≤ segments.length) :
    UInt32.ofNat (boundary segments first) = UInt32.ofNat (boundary segments second) ↔
      first = second := by
  rw [← UInt32.toNat_inj, toNat_boundary h hfile, toNat_boundary h hfile,
    boundary_inj h hfirst hsecond]

theorem ofNat_boundary_lt (h : IsSegmentation maximumBytes file segments)
    (hfile : file.length < 2 ^ 31) {first second : ℕ} (hfirst : first ≤ segments.length)
    (hsecond : second ≤ segments.length) :
    UInt32.ofNat (boundary segments first) < UInt32.ofNat (boundary segments second) ↔
      first < second := by
  rw [UInt32.lt_iff_toNat_lt, toNat_boundary h hfile, toNat_boundary h hfile]
  constructor
  · intro hless
    by_contra hnot
    rcases (not_lt.mp hnot).eq_or_lt with hsame | hmore
    · rw [hsame] at hless
      exact lt_irrefl _ hless
    · exact lt_asymm hless (boundary_lt_boundary h hmore hfirst)
  · intro hless
    exact boundary_lt_boundary h hless hsecond

/-- The search for a cumulative ACK finds the segment it ends at. -/
theorem searchACK_eq (h : IsSegmentation maximumBytes file segments)
    (hfile : file.length < 2 ^ 31) {accepted : ℕ} (haccepted : accepted ≤ segments.length) :
    ∀ {index : ℕ}, index < accepted →
      searchACK (UInt32.ofNat (boundary segments accepted)) (segments.drop index) index =
        some accepted := by
  intro index hindex
  induction hleft : accepted - index generalizing index with
  | zero => omega
  | succ left ih =>
    have hbound : index < segments.length := by omega
    have hsum : segments[index].sequenceNumber.toNat + segments[index].payload.length =
        boundary segments (index + 1) := by
      rw [h.sequenceNumber index hbound, toNat_boundary h hfile, boundary_succ hbound]
    rw [List.drop_eq_getElem_cons hbound, searchACK, hsum, toNat_boundary h hfile]
    split_ifs with hfound
    · rw [(boundary_inj h haccepted (by omega)).mp hfound]
    · have hother : accepted ≠ index + 1 := fun hsame ↦ hfound (by rw [hsame])
      exact ih (by omega) (by omega)

/-- An ACK moves the client on if it acknowledges more than any before, and back otherwise. -/
theorem indicesAfterACK_eq (h : IsSegmentation maximumBytes file segments)
    (hfile : file.length < 2 ^ 31) {last accepted : ℕ} (hlast : last < segments.length)
    (haccepted : accepted ≤ segments.length) (next : ℕ) :
    indicesAfterACK segments next last (UInt32.ofNat (boundary segments accepted)) =
      some (if last < accepted then next else last, max last accepted) := by
  have hexpected : segments[last].sequenceNumber + UInt32.ofNat segments[last].payload.length =
      UInt32.ofNat (boundary segments (last + 1)) := by
    rw [h.sequenceNumber last hlast, boundary_succ hlast, UInt32.ofNat_add]
  rw [indicesAfterACK, List.getElem?_eq_getElem hlast]
  simp only [hexpected, gt_iff_lt, ofNat_boundary_lt h hfile hlast haccepted]
  have hsame := ofNat_boundary_inj h hfile haccepted hlast
  rcases lt_trichotomy accepted (last + 1) with hless | heq | hmore
  · rw [if_pos fun heq ↦ hless.ne (hsame.mp heq), if_neg (by omega), if_neg (by omega),
      max_eq_left (by omega)]
  · rw [if_neg (not_not.mpr (hsame.mpr heq)), if_pos (by omega), max_eq_right (by omega), heq]
  · rw [if_pos fun heq ↦ hmore.ne' (hsame.mp heq), if_pos hmore, if_pos (by omega),
      searchACK_eq h hfile haccepted hmore, Option.map_some, max_eq_right (by omega)]

end Boundaries

/-! ### Segments and messages -/

/-- The segment is the one that stands for a message of the client. -/
def UpSegment (segments : List TCP) (segment : TCP) : AckClocked.Up → Prop
  | .syn => segment.details = TCP_SYN ∧ segment.sequenceNumber = TCP_INITIAL_SN ∧
      segment.payload = []
  | .ack => segment.details = TCP_ACK ∧ segment.sequenceNumber = 1 ∧ segment.ackNumber = 1 ∧
      segment.payload = []
  | .segment index => segments[index]? = some segment

/-- The segment is one that stands for a message of the server. -/
def DownSegment (segments : List TCP) (segment : TCP) : AckClocked.Down → Prop
  | .synack => segment.details = TCP_SYNACK ∧ segment.sequenceNumber = TCP_INITIAL_SN ∧
      segment.ackNumber = 1
  | .upTo accepted =>
      segment.details = (if accepted = segments.length then TCP_ACK ||| TCP_FIN else TCP_ACK) ∧
        segment.ackNumber = UInt32.ofNat (boundary segments accepted)

/-- The frame carries a segment that stands for the message. -/
def CarriesUp (segments : List TCP) (frame : MPDU) (message : AckClocked.Up) : Prop :=
  ∃ segment, frame.tcpSegment = some segment ∧ UpSegment segments segment message

def CarriesDown (segments : List TCP) (frame : MPDU) (message : AckClocked.Down) : Prop :=
  ∃ segment, frame.tcpSegment = some segment ∧ DownSegment segments segment message

theorem exists_decodeFrame {frame : MPDU} {segment : TCP} (h : frame.tcpSegment = some segment) :
    ∃ packet, decodeFrame frame = some (packet, segment) := by
  obtain ⟨packet, hpacket, hsegment⟩ := Option.bind_eq_some_iff.mp h
  refine ⟨packet, ?_⟩
  rw [decodeFrame, hpacket, Option.bind_some, hsegment]
  rfl

/-- The segments that a list of frames carries. -/
theorem exists_segments {α : Type*} {stands : TCP → α → Prop} {frames : List MPDU}
    {messages : List α}
    (h : List.Forall₂ (fun frame message ↦
      ∃ segment, frame.tcpSegment = some segment ∧ stands segment message) frames messages) :
    ∃ sent, frames.map MPDU.tcpSegment = sent.map some ∧ List.Forall₂ stands sent messages := by
  induction h with
  | nil => exact ⟨[], rfl, .nil⟩
  | cons hfirst _ ih =>
    obtain ⟨segment, hsegment, hstands⟩ := hfirst
    obtain ⟨sent, hsent, hall⟩ := ih
    refine ⟨segment :: sent, ?_, .cons hstands hall⟩
    rw [List.map_cons, List.map_cons, hsegment, hsent]

/-- The client of a session at a state of the protocol's client. -/
structure ClientRel (client : Client) (a : AckClocked.Client) : Prop where
  point : client.point = a.point
  next : client.nextSegmentIndex = a.next
  last : client.lastUnACKdIndex = a.last
  headerLength : client.txPacket.headerLength = 12
  syn : a.point = .sendSYN ∨ a.point = .waitSYNACK →
    client.txSegment.details = TCP_SYN ∧ client.txSegment.sequenceNumber = TCP_INITIAL_SN ∧
      client.txSegment.payload = []
  ack : a.point = .sendACK →
    client.txSegment.details = TCP_ACK ∧ client.txSegment.sequenceNumber = 1 ∧
      client.txSegment.ackNumber = 1 ∧ client.txSegment.payload = []

/-- In the client's loop and after it, the segment that it filled for the handshake is not sent. -/
theorem clientRel_of_loop {client : Client} {a : AckClocked.Client}
    (hloop : a.point ∈ [ClientPoint.loopTop, .waitACK, .sendAnother, .returned])
    (hpoint : client.point = a.point) (hnext : client.nextSegmentIndex = a.next)
    (hlast : client.lastUnACKdIndex = a.last) (hheader : client.txPacket.headerLength = 12) :
    ClientRel client a := by
  refine ⟨hpoint, hnext, hlast, hheader, fun hsyn ↦ ?_, fun hack ↦ ?_⟩
  · rcases hsyn with hsyn | hsyn <;> simp [hsyn] at hloop
  · simp [hack] at hloop

/-- The server of a session at a state of the protocol's server. -/
structure ServerRel (segments : List TCP) (server : Server) (a : AckClocked.Server) : Prop where
  point : server.point = a.point
  headerLength : server.txPacket.headerLength = 12
  payload : server.txSegment.payload = []
  reply : a.point ≠ .waitSYN →
    server.txPacket.Carries server.txSegment.bytes ∧ DownSegment segments server.txSegment a.reply
  established : server.connectionEstablished = true ↔
    a.point = .waitSegment ∨ a.point = .sendReply ∨ a.point = .returned
  expected : server.connectionEstablished = true →
    server.lastRxSN.toNat + server.lastPayloadSize = boundary segments a.accepted
  fresh : server.connectionEstablished = false → server.lastPayloadSize = 0
  written : server.written = payloadBytes (segments.take a.accepted)

/-! ### Acting -/

section Simulation

variable {file : List UInt8} {segments : List TCP}

/-- A frame around a packet that a party has filled carries the segment. -/
theorem tcpSegment_frame {packet : IP} {segment : TCP} (hheader : packet.headerLength = 12)
    (hcarries : packet.Carries segment.bytes)
    (hsize : segment.payload.length ≤ maximumPayloadBytes) (sourceMac destinationMac : Mac) :
    (MPDU.ofPacket packet sourceMac destinationMac).tcpSegment = some segment := by
  refine tcpSegment_ofPacket hcarries ?_ sourceMac destinationMac
  have hmaximum : maximumPayloadBytes = 1458 := rfl
  have htwelve : packet.headerLength.toNat = 12 := by rw [hheader]; rfl
  rw [htwelve, TCP_HEADER_SIZE]
  omega

theorem tcpSegment_encapTCP {packet : IP} {segment : TCP} (hheader : packet.headerLength = 12)
    (hsize : segment.payload.length ≤ maximumPayloadBytes) (sourceMac destinationMac : Mac) :
    (MPDU.ofPacket (packet.encapTCP segment) sourceMac destinationMac).tcpSegment = some segment :=
  have hkept : (packet.encapTCP segment).headerLength = 12 :=
    (IP.headerLength_encapTCP packet segment).trans hheader
  tcpSegment_frame hkept (IP.carries_encap packet _ _) hsize sourceMac destinationMac

/-- Both clients send the next segment, if there is one. -/
theorem sendSegment_rel (hsegments : IsSegmentation maximumPayloadBytes file segments)
    (call : ClientCall) {client : Client} {a : AckClocked.Client} (hrel : ClientRel client a)
    {point : ClientPoint} (hpoint : point = .waitACK ∨ point = .loopTop) :
    ClientRel (call.sendSegment segments client point).1 (a.sendSegment segments.length point).1 ∧
      Option.Rel (CarriesUp segments) (call.sendSegment segments client point).2
        (a.sendSegment segments.length point).2 := by
  have hloop : point ∈ [ClientPoint.loopTop, .waitACK, .sendAnother, .returned] := by
    rcases hpoint with rfl | rfl <;> simp
  rw [ClientCall.sendSegment, AckClocked.Client.sendSegment, hrel.next]
  by_cases hmore : a.next < segments.length
  · rw [List.getElem?_eq_getElem hmore, if_pos hmore]
    have hsize := (hsegments.length_payload _ (List.getElem_mem hmore)).2
    have hheader : (client.txPacket.encapTCP segments[a.next]).headerLength = 12 := by
      rw [IP.headerLength_encapTCP, hrel.headerLength]
    refine ⟨clientRel_of_loop hloop rfl rfl hrel.last hheader, .some ⟨segments[a.next], ?_, ?_⟩⟩
    · exact tcpSegment_encapTCP hrel.headerLength hsize call.mac call.destMac
    · exact List.getElem?_eq_getElem hmore
  · rw [List.getElem?_eq_none (not_lt.mp hmore), if_neg hmore]
    exact ⟨clientRel_of_loop hloop rfl rfl hrel.last hrel.headerLength, .none⟩

theorem clientActs_rel (hsegments : IsSegmentation maximumPayloadBytes file segments)
    (call : ClientCall) {client : Client} {a : AckClocked.Client} (hrel : ClientRel client a) :
    Option.Rel
      (fun first second ↦ ClientRel first.1 second.1 ∧
        Option.Rel (CarriesUp segments) first.2 second.2)
      (call.act segments client) (a.act segments.length) := by
  obtain ⟨point, next, last⟩ := a
  have hroom : 0 ≤ maximumPayloadBytes := Nat.zero_le _
  rw [ClientCall.act, AckClocked.Client.act, hrel.point]
  cases point with
  | sendSYN =>
    obtain ⟨hdetails, hSN, hpayload⟩ := hrel.syn (Or.inl rfl)
    have hsize : client.txSegment.payload.length ≤ maximumPayloadBytes := by
      rw [hpayload]
      exact hroom
    have hheader : (((client.txPacket.encapTCP client.txSegment).setSourceIp
        call.ip).setDestinationIp call.destIp).headerLength = 12 := by
      rw [IP.headerLength_addressed, IP.headerLength_encapTCP, hrel.headerLength]
    have hcarries := (IP.carries_encapTCP client.txPacket client.txSegment).addressed call.ip
      call.destIp
    have hframe := tcpSegment_frame hheader hcarries hsize call.mac call.destMac
    exact .some ⟨⟨rfl, hrel.next, hrel.last, hheader,
      fun _ ↦ ⟨hdetails, hSN, hpayload⟩, fun hack ↦ by cases hack⟩,
      .some ⟨client.txSegment, hframe, hdetails, hSN, hpayload⟩⟩
  | sendACK =>
    obtain ⟨hdetails, hSN, hack, hpayload⟩ := hrel.ack rfl
    have hsize : client.txSegment.payload.length ≤ maximumPayloadBytes := by
      rw [hpayload]
      exact hroom
    have hframe := tcpSegment_encapTCP hrel.headerLength hsize call.mac call.destMac
    have hheader : (client.txPacket.encapTCP client.txSegment).headerLength = 12 := by
      rw [IP.headerLength_encapTCP, hrel.headerLength]
    have hloop : ClientPoint.loopTop ∈
        [ClientPoint.loopTop, .waitACK, .sendAnother, .returned] := by simp
    exact .some ⟨clientRel_of_loop hloop rfl hrel.next hrel.last hheader,
      .some ⟨client.txSegment, hframe, hdetails, hSN, hack, hpayload⟩⟩
  | loopTop =>
    simp only [hrel.last]
    split_ifs
    · exact .some (sendSegment_rel hsegments call hrel (Or.inl rfl))
    · exact .some ⟨clientRel_of_loop (by simp) rfl hrel.next rfl hrel.headerLength, .none⟩
  | sendAnother => exact .some (sendSegment_rel hsegments call hrel (Or.inr rfl))
  | waitSYNACK => exact .none
  | waitACK => exact .none
  | returned => exact .none
  | outOfRange => exact .none

/-- Whether a reply ends the server's loop. -/
theorem details_and_fin (accepted : ℕ) {segment : TCP}
    (h : DownSegment segments segment (.upTo accepted)) :
    segment.details &&& TCP_FIN ≠ 0 ↔ accepted = segments.length := by
  rw [h.1]
  split_ifs with hend
  · exact iff_of_true (by decide) hend
  · exact iff_of_false (by decide) hend

theorem serverActs_rel (call : ServerCall) {server : Server} {a : AckClocked.Server}
    (hreply : a.point = .sendReply → a.reply = .upTo a.accepted)
    (hrel : ServerRel segments server a) :
    Option.Rel
      (fun first second ↦ ServerRel segments first.1 second.1 ∧
        Option.Rel (CarriesDown segments) first.2 second.2)
      (call.act server) (a.act segments.length) := by
  obtain ⟨point, accepted, reply⟩ := a
  have hsize : server.txSegment.payload.length ≤ maximumPayloadBytes := by
    rw [hrel.payload]
    exact Nat.zero_le _
  have hframe : server.txPacket.Carries server.txSegment.bytes →
      (MPDU.ofPacket server.txPacket call.mac server.rxSourceMac).tcpSegment =
        some server.txSegment :=
    fun hcarries ↦ tcpSegment_frame hrel.headerLength hcarries hsize _ _
  rw [ServerCall.act, AckClocked.Server.act]
  simp only [hrel.point]
  cases point with
  | sendSYNACK =>
    obtain ⟨hcarries, hdown⟩ := hrel.reply (by simp)
    exact .some ⟨{ hrel with
      point := rfl
      reply := fun _ ↦ ⟨hcarries, hdown⟩
      established := hrel.established.trans (by simp) },
      .some ⟨server.txSegment, hframe hcarries, hdown⟩⟩
  | resendSYNACK =>
    obtain ⟨hcarries, hdown⟩ := hrel.reply (by simp)
    exact .some ⟨hrel, .some ⟨server.txSegment, hframe hcarries, hdown⟩⟩
  | sendReply =>
    obtain ⟨hcarries, hdown⟩ := hrel.reply (by simp)
    obtain rfl : reply = .upTo accepted := hreply rfl
    refine .some ⟨{ hrel with
      point := ?_
      reply := fun _ ↦ ⟨hcarries, hdown⟩
      established := ?_ }, .some ⟨server.txSegment, hframe hcarries, hdown⟩⟩
    · change (if server.txSegment.details &&& TCP_FIN ≠ 0 then _ else _) =
        if accepted = segments.length then _ else _
      simp only [details_and_fin accepted hdown]
    · have hestablished := hrel.established.mpr (Or.inr (Or.inl rfl))
      refine iff_of_true hestablished ?_
      change (if accepted = segments.length then _ else _) = _ ∨ _ ∨
        (if accepted = segments.length then _ else _) = _
      split_ifs
      · exact Or.inr (Or.inr rfl)
      · exact Or.inl rfl
  | waitSYN => exact .none
  | waitACK => exact .none
  | waitSegment => exact .none
  | returned => exact .none
  | outOfRange => exact .none

/-! ### Taking -/

theorem takeSYNACK_rel (call : ClientCall) {client : Client} {a : AckClocked.Client}
    {rxSegment : TCP} (hrel : ClientRel client a) (hpoint : a.point = .waitSYNACK)
    (hdown : DownSegment segments rxSegment .synack) :
    ClientRel (call.takeSYNACK client rxSegment) { a with point := .sendACK } := by
  obtain ⟨hdetails, hSN, hack⟩ := hdown
  obtain ⟨-, htxSN, hpayload⟩ := hrel.syn (Or.inr hpoint)
  have hone : TCP_INITIAL_SN + 1 = 1 := by decide
  have hflags : TCP_SYNACK &&& TCP_SYNACK ≠ 0 := by decide
  have haccepts : rxSegment.ackNumber = client.txSegment.sequenceNumber + 1 ∧
      rxSegment.details &&& TCP_SYNACK ≠ 0 := by
    rw [hack, htxSN, hone, hdetails]
    exact ⟨rfl, hflags⟩
  rw [ClientCall.takeSYNACK, if_pos haccepts]
  refine ⟨rfl, hrel.next, hrel.last, hrel.headerLength, fun hsyn ↦ ?_, fun _ ↦ ?_⟩
  · rcases hsyn with hsyn | hsyn <;> cases hsyn
  · exact ⟨rfl, hack, by rw [hSN, hone], hpayload⟩

theorem clientTakeACK_rel (hsegments : IsSegmentation maximumPayloadBytes file segments)
    (hfile : file.length < 2 ^ 31) {client : Client} {a : AckClocked.Client} {rxSegment : TCP}
    {accepted : ℕ} (hrel : ClientRel client a) (hlast : a.last < segments.length)
    (haccepted : accepted ≤ segments.length)
    (hdown : DownSegment segments rxSegment (.upTo accepted)) :
    ClientRel (client.takeACK segments rxSegment) (a.takeACK segments.length accepted) := by
  have hindices := indicesAfterACK_eq hsegments hfile hlast haccepted a.next
  rw [← hdown.2] at hindices
  have hfin := details_and_fin accepted hdown
  have hack : rxSegment.details &&& TCP_ACK ≠ 0 := by
    rw [hdown.1]
    split_ifs <;> decide
  have hloop : (a.takeACK segments.length accepted).point ∈
      [ClientPoint.loopTop, .waitACK, .sendAnother, .returned] := by
    rw [AckClocked.Client.takeACK]
    split_ifs <;> simp
  rw [Client.takeACK, hrel.next, hrel.last]
  simp only [hindices]
  refine clientRel_of_loop hloop ?_ rfl rfl hrel.headerLength
  change (if _ then _ else _) = if accepted = segments.length then _ else _
  simp only [hfin, hack, ne_eq, not_false_eq_true, and_true]

theorem clientTakes_rel (hsegments : IsSegmentation maximumPayloadBytes file segments)
    (hfile : file.length < 2 ^ 31) (call : ClientCall) {client : Client} {a : AckClocked.Client}
    {frame : MPDU} {message : AckClocked.Down} (hrel : ClientRel client a)
    (hsynack : a.point = .waitSYNACK → message = .synack)
    (hupTo : a.point = .waitACK → a.last < segments.length ∧
      ∃ accepted ≤ segments.length, message = .upTo accepted)
    (hcarries : CarriesDown segments frame message) :
    Option.Rel ClientRel (call.take segments client frame) (a.take segments.length message) := by
  obtain ⟨rxSegment, hframe, hdown⟩ := hcarries
  obtain ⟨rxPacket, hdecode⟩ := exists_decodeFrame hframe
  rw [ClientCall.take, AckClocked.Client.take, hrel.point]
  cases hpoint : a.point with
  | waitSYNACK =>
    obtain rfl := hsynack hpoint
    simp only [hdecode]
    rw [if_pos trivial]
    exact .some (takeSYNACK_rel call hrel hpoint hdown)
  | waitACK =>
    obtain ⟨hlast, accepted, haccepted, rfl⟩ := hupTo hpoint
    simp only [hdecode]
    exact .some (clientTakeACK_rel hsegments hfile hrel hlast haccepted hdown)
  | returned => exact .some hrel
  | sendSYN => exact .none
  | sendACK => exact .none
  | loopTop => exact .none
  | sendAnother => exact .none
  | outOfRange => exact .none

/-- The sequence number the server accepts next is the boundary of what it has accepted. -/
theorem nextSN_eq {server : Server} {a : AckClocked.Server} (hrel : ServerRel segments server a)
    (hestablished : server.connectionEstablished = true) :
    server.nextSN = UInt32.ofNat (boundary segments a.accepted) := by
  rw [← hrel.expected hestablished, UInt32.ofNat_add, UInt32.ofNat_toNat]
  rfl

/-- A segment that continues what the server has accepted takes it to a later boundary. -/
theorem accept_rel {server : Server} {a : AckClocked.Server} {frame : MPDU} {rxSegment : TCP}
    {accepted : ℕ} (hrel : ServerRel segments server a)
    (hestablished : server.connectionEstablished = true)
    (hnext : rxSegment.sequenceNumber = server.nextSN)
    (hdetails : rxSegment.details ||| TCP_ACK =
      if accepted = segments.length then TCP_ACK ||| TCP_FIN else TCP_ACK)
    (hend : rxSegment.sequenceNumber.toNat + rxSegment.payload.length =
      boundary segments accepted)
    (hwritten : payloadBytes (segments.take a.accepted) ++ rxSegment.payload =
      payloadBytes (segments.take accepted)) :
    ServerRel segments (server.takeSegment frame rxSegment)
      ⟨.sendReply, accepted, .upTo accepted⟩ := by
  have hack : rxSegment.sequenceNumber + UInt32.ofNat rxSegment.payload.length =
      UInt32.ofNat (boundary segments accepted) := by
    rw [← hend, UInt32.ofNat_add, UInt32.ofNat_toNat]
  rw [Server.takeSegment, if_pos hnext]
  refine ⟨rfl, (IP.headerLength_encapTCP _ _).trans hrel.headerLength, hrel.payload,
    fun _ ↦ ⟨IP.carries_encapTCP _ _, hdetails, hack⟩,
    iff_of_true hestablished (Or.inr (Or.inl rfl)), fun _ ↦ hend, fun hclosed ↦ ?_, ?_⟩
  · exact absurd (hestablished.symm.trans hclosed) (by decide)
  · change server.written ++ rxSegment.payload = _
    rw [hrel.written, hwritten]

/-- Any other segment makes the server repeat its last reply. -/
theorem refuse_rel {server : Server} {a : AckClocked.Server} {frame : MPDU} {rxSegment : TCP}
    (hrel : ServerRel segments server a) (hestablished : server.connectionEstablished = true)
    (hpoint : a.point = .waitSegment) (hnext : rxSegment.sequenceNumber ≠ server.nextSN) :
    ServerRel segments (server.takeSegment frame rxSegment) { a with point := .sendReply } := by
  have hkept := hrel.reply (by simp [hpoint])
  rw [Server.takeSegment, if_neg hnext]
  exact { hrel with
    point := rfl
    reply := fun _ ↦ hkept
    established := iff_of_true hestablished (Or.inr (Or.inl rfl)) }

theorem takeSegment_rel (hsegments : IsSegmentation maximumPayloadBytes file segments)
    (hfile : file.length < 2 ^ 31) {server : Server} {a : AckClocked.Server} {frame : MPDU}
    {rxSegment : TCP} {message : AckClocked.Up} (hrel : ServerRel segments server a)
    (hpoint : a.point = .waitSegment) (haccepted : a.accepted < segments.length)
    (hmessage : message = .ack ∨ ∃ i < segments.length, message = .segment i)
    (hup : UpSegment segments rxSegment message) :
    ServerRel segments (server.takeSegment frame rxSegment) (a.takeSegment message) := by
  have hestablished := hrel.established.mpr (Or.inl hpoint)
  have hnext := nextSN_eq hrel hestablished
  rcases hmessage with rfl | ⟨i, hi, rfl⟩
  · obtain ⟨hdetails, hSN, -, hpayload⟩ := hup
    have hzero : rxSegment.sequenceNumber = server.nextSN ↔ 0 = a.accepted := by
      have hone : rxSegment.sequenceNumber = UInt32.ofNat (boundary segments 0) := hSN
      rw [hnext, hone, ofNat_boundary_inj hsegments hfile (Nat.zero_le _) haccepted.le]
    rw [AckClocked.Server.takeSegment]
    split_ifs with hfirst
    · have hnotLast : 0 ≠ segments.length := by omega
      rw [hfirst]
      refine accept_rel hrel hestablished (hzero.mpr hfirst.symm) ?_ ?_ ?_
      · rw [hdetails, if_neg hnotLast]
        decide
      · rw [hSN, hpayload]
        rfl
      · rw [hpayload, hfirst, List.append_nil]
    · exact refuse_rel hrel hestablished hpoint fun hsame ↦ hfirst (hzero.mp hsame).symm
  · have hsegment : rxSegment = segments[i] := by
      have hget : segments[i]? = some rxSegment := hup
      rw [List.getElem?_eq_getElem hi] at hget
      exact (Option.some.inj hget).symm
    have hthis : rxSegment.sequenceNumber = server.nextSN ↔ i = a.accepted := by
      rw [hnext, hsegment, hsegments.sequenceNumber i hi,
        ofNat_boundary_inj hsegments hfile hi.le haccepted.le]
    rw [AckClocked.Server.takeSegment]
    split_ifs with hexpected
    · refine accept_rel hrel hestablished (hthis.mpr hexpected) ?_ ?_ ?_ <;> subst hexpected
      · rw [hsegment, hsegments.details _ hi]
        split_ifs <;> decide
      · rw [hsegment, hsegments.sequenceNumber _ hi, toNat_boundary hsegments hfile,
          boundary_succ hi]
      · rw [hsegment, List.take_add_one, List.getElem?_eq_getElem hi, payloadBytes_append,
          Option.toList_some, payloadBytes_singleton]
    · exact refuse_rel hrel hestablished hpoint fun hsame ↦ hexpected (hthis.mp hsame)

theorem takeSYN_rel (call : ServerCall) {server : Server} {a : AckClocked.Server} {frame : MPDU}
    {rxPacket : IP} {rxSegment : TCP} (hrel : ServerRel segments server a)
    (hpoint : a.point = .waitSYN) (hup : UpSegment segments rxSegment .syn) :
    ServerRel segments (call.takeSYN server frame rxPacket rxSegment)
      { a with point := .sendSYNACK, reply := .synack } := by
  obtain ⟨hdetails, hSN, -⟩ := hup
  have hflag : ¬ rxSegment.details &&& TCP_SYN = 0 := by
    rw [hdetails]
    decide
  have hclosed : ¬ server.connectionEstablished = true := by
    rw [hrel.established, hpoint]
    simp
  have hack : rxSegment.sequenceNumber + 1 = 1 := by
    rw [hSN]
    decide
  rw [ServerCall.takeSYN, if_neg hflag]
  refine ⟨rfl, ?_, hrel.payload,
    fun _ ↦ ⟨(IP.carries_encapTCP _ _).addressed _ _, rfl, rfl, hack⟩,
    iff_of_false hclosed (by simp), fun hopen ↦ absurd hopen hclosed, hrel.fresh, hrel.written⟩
  exact (IP.headerLength_addressed _ _ _).trans
    ((IP.headerLength_encapTCP _ _).trans hrel.headerLength)

/-- The first data segment can stand in for the ACK of the handshake: it has the same sequence
number and the same ACK number. -/
theorem standsForACK (hsegments : IsSegmentation maximumPayloadBytes file segments)
    {rxSegment : TCP} {message : AckClocked.Up} (hmessage : message = .ack ∨ message = .segment 0)
    (hup : UpSegment segments rxSegment message) :
    rxSegment.ackNumber = 1 ∧ rxSegment.details &&& TCP_ACK ≠ 0 ∧
      rxSegment.sequenceNumber = 1 := by
  rcases hmessage with rfl | rfl
  · obtain ⟨hdetails, hSN, hack, -⟩ := hup
    rw [hdetails]
    exact ⟨hack, by decide, hSN⟩
  · obtain ⟨hbound, hget⟩ := List.getElem?_eq_some_iff.mp
      (show segments[0]? = some rxSegment from hup)
    rw [← hget, hsegments.details 0 hbound, hsegments.sequenceNumber 0 hbound]
    refine ⟨hsegments.ackNumber _ (List.getElem_mem hbound), ?_, rfl⟩
    split_ifs <;> decide

theorem takeACK_rel (hsegments : IsSegmentation maximumPayloadBytes file segments)
    {server : Server} {frame : MPDU} {rxSegment : TCP} {message : AckClocked.Up}
    (hrel : ServerRel segments server ⟨.waitACK, 0, .synack⟩)
    (hmessage : message = .ack ∨ message = .segment 0)
    (hup : UpSegment segments rxSegment message) :
    ServerRel segments (server.takeACK frame rxSegment) ⟨.waitSegment, 0, .synack⟩ := by
  obtain ⟨hkept, hsynack⟩ := hrel.reply (by simp)
  obtain ⟨hack, hdetails, hSN⟩ := standsForACK hsegments hmessage hup
  have hclosed : server.connectionEstablished = false := by
    rw [Bool.eq_false_iff, ne_eq, hrel.established]
    simp
  have haccepts : ¬ (rxSegment.ackNumber ≠ server.txSegment.sequenceNumber + 1 ∨
      rxSegment.details &&& TCP_ACK = 0) := by
    rw [hsynack.2.1, hack]
    rintro (hne | hflag)
    · exact hne (by decide)
    · exact hdetails hflag
  have hexpected : rxSegment.sequenceNumber.toNat + server.lastPayloadSize =
      boundary segments 0 := by
    rw [hSN, hrel.fresh hclosed]
    rfl
  rw [Server.takeACK, if_neg haccepts]
  exact ⟨rfl, hrel.headerLength, hrel.payload, fun _ ↦ ⟨hkept, hsynack⟩,
    iff_of_true rfl (Or.inl rfl), fun _ ↦ hexpected, fun _ ↦ hrel.fresh hclosed, hrel.written⟩

theorem serverTakes_rel (hsegments : IsSegmentation maximumPayloadBytes file segments)
    (hfile : file.length < 2 ^ 31) (call : ServerCall) {server : Server} {a : AckClocked.Server}
    {frame : MPDU} {message : AckClocked.Up} (hrel : ServerRel segments server a)
    (hsyn : a.point = .waitSYN → message = .syn)
    (hfirst : a.point = .waitACK →
      a = ⟨.waitACK, 0, .synack⟩ ∧ (message = .ack ∨ message = .segment 0))
    (hsegment : a.point = .waitSegment → a.accepted < segments.length ∧
      (message = .ack ∨ ∃ i < segments.length, message = .segment i))
    (hcarries : CarriesUp segments frame message) :
    Option.Rel (ServerRel segments) (call.take server frame) (a.take message) := by
  obtain ⟨rxSegment, hframe, hup⟩ := hcarries
  obtain ⟨rxPacket, hdecode⟩ := exists_decodeFrame hframe
  rw [ServerCall.take, AckClocked.Server.take, hrel.point]
  cases hpoint : a.point with
  | waitSYN =>
    obtain rfl := hsyn hpoint
    simp only [hdecode]
    rw [if_pos trivial]
    exact .some (takeSYN_rel call hrel hpoint hup)
  | waitACK =>
    obtain ⟨rfl, hmessage⟩ := hfirst hpoint
    have hnotSyn : message ≠ .syn := by rcases hmessage with rfl | rfl <;> simp
    simp only [hdecode]
    rw [if_neg hnotSyn]
    exact .some (takeACK_rel hsegments hrel hmessage hup)
  | waitSegment =>
    obtain ⟨haccepted, hmessage⟩ := hsegment hpoint
    simp only [hdecode]
    exact .some (takeSegment_rel hsegments hfile hrel hpoint haccepted hmessage hup)
  | returned => exact .some hrel
  | sendSYNACK => exact .none
  | resendSYNACK => exact .none
  | sendReply => exact .none
  | outOfRange => exact .none

end Simulation

/-! ### Runs -/

namespace Session

variable (session : Session)

/-- A state of the session at a state of the protocol. -/
def Represents (s : Duplex Client Server MPDU MPDU) (a : AckClocked.State) : Prop :=
  Duplex.Related ClientRel (ServerRel session.segmentsToSend) (CarriesUp session.segmentsToSend)
    (CarriesDown session.segmentsToSend) s a ∧ AckClocked.Safe session.segmentsToSend.length a

variable {session}

theorem length_pos (hfile : session.file ≠ []) : 0 < session.segmentsToSend.length :=
  List.length_pos_iff.mpr (session.isSegmentation hfile).ne_nil

/-- The client and the server do what the protocol's do. -/
theorem simulates (hfile : session.file ≠ []) (hsize : session.file.length < 2 ^ 31) :
    Duplex.Simulates (session.client.TCPClient session.segmentsToSend) session.server.TCPServer
      (AckClocked.client session.segmentsToSend.length)
      (AckClocked.server session.segmentsToSend.length) ClientRel
      (ServerRel session.segmentsToSend) (CarriesUp session.segmentsToSend)
      (CarriesDown session.segmentsToSend)
      (AckClocked.Safe session.segmentsToSend.length) where
  safe_step _ event _ hsafe hstep := AckClocked.safe_step (length_pos hfile) event hsafe hstep
  clientActs _ _ _ hrel := clientActs_rel (session.isSegmentation hfile) session.client hrel
  serverActs _ _ hsafe hrel := serverActs_rel session.server hsafe.reply_eq hrel
  clientTakes _ _ _ _ hsafe hrel hmessage hcarries :=
    clientTakes_rel (session.isSegmentation hfile) hsize session.client hrel
      (fun hpoint ↦ hsafe.eq_synack hpoint hmessage)
      (fun hpoint ↦ hsafe.eq_upTo hpoint hmessage) hcarries
  serverTakes _ _ _ _ hsafe hrel hmessage hcarries :=
    serverTakes_rel (session.isSegmentation hfile) hsize session.server hrel
      (fun hpoint ↦ hsafe.eq_syn hpoint hmessage)
      (fun hpoint ↦ hsafe.eq_ack_or_segment_zero hpoint hmessage)
      (fun hpoint ↦ hsafe.eq_ack_or_segment (length_pos hfile) hpoint hmessage) hcarries

theorem lockstep (hfile : session.file ≠ []) (hsize : session.file.length < 2 ^ 31) :
    ScheduledSystem.Lockstep session.connection
      (AckClocked.protocol session.segmentsToSend.length) session.Represents :=
  (simulates hfile hsize).lockstep _ _ _ _

theorem represents_init :
    session.Represents session.connection.init
      (AckClocked.protocol session.segmentsToSend.length).init := by
  refine ⟨⟨⟨rfl, rfl, rfl, rfl, fun _ ↦ ⟨rfl, rfl, rfl⟩, fun hack ↦ by cases hack⟩,
    ⟨rfl, rfl, rfl, fun hlater ↦ absurd rfl hlater, ?_,
      fun hopen ↦ absurd hopen Bool.false_ne_true, fun _ ↦ rfl, rfl⟩, .nil, .nil, .nil, .nil⟩,
    AckClocked.safe_init _⟩
  exact iff_of_false Bool.false_ne_true (by simp [AckClocked.protocol, Duplex.system])

/-- Every reachable state of a session represents one of the protocol that is reached alike. -/
theorem exists_represented (hfile : session.file ≠ []) (hsize : session.file.length < 2 ^ 31)
    {guard : Duplex Client Server MPDU MPDU → Duplex.Event → Prop}
    {protocolGuard : AckClocked.State → Duplex.Event → Prop}
    (hguard : ∀ s a event, session.Represents s a → guard s event → protocolGuard a event)
    {s : Duplex Client Server MPDU MPDU} (h : session.connection.Reachable guard s) :
    ∃ a, (AckClocked.protocol session.segmentsToSend.length).Reachable protocolGuard a ∧
      session.Represents s a :=
  (lockstep hfile hsize).reachableFrom hguard represents_init h

/-- What the protocol reaches without a further drop, a session that it represents reaches alike. -/
theorem exists_lossless_run (hfile : session.file ≠ []) (hsize : session.file.length < 2 ^ 31)
    {s : Duplex Client Server MPDU MPDU} {a b : AckClocked.State} (hrel : session.Represents s a)
    (h : (AckClocked.protocol session.segmentsToSend.length).ReachableFrom
      Duplex.losslessInOrder a b) :
    ∃ t, session.connection.ReachableFrom Duplex.losslessInOrder s t ∧ session.Represents t b := by
  have hguard (a : AckClocked.State) (s : Duplex Client Server MPDU MPDU) (event : Duplex.Event)
      (_ : session.Represents s a) (hallowed : Duplex.losslessInOrder a event) :
      Duplex.losslessInOrder s event := Duplex.losslessInOrder_transfer s hallowed
  exact (lockstep hfile hsize).symm.reachableFrom hguard hrel h

end Session

end NetworkSimulation.Tcp
