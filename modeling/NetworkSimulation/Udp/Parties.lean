import NetworkSimulation.Library.RelayedDuplex
import NetworkSimulation.Udp.FileTransfer

/-!
# The UDP client and the UDP server

`Host::UDP_client` and `Host::UDP_server` as the parties of a `Duplex`. The client sends the
segments of a file one after the other and reads nothing; the server sends nothing, and reads until
it meets the end marker. So the server runs on a part of what the client sends, in the same order
(`Session.Streams`), and whatever is dropped it writes bytes of the file in their order, and no
others (`Session.Streams.written_sublist`). If nothing is dropped it runs on all of them, and the
file is written exactly when the marker stands at the end of no payload but the last
(`Session.Streams.complete_iff`).
-/

set_option autoImplicit false
set_option relaxedAutoImplicit false

namespace NetworkSimulation.Udp

open Stack Library

/-! ### The parties -/

/-- The addresses of the two hosts, with the MAC that the client's ARP cache holds for the server,
the arguments of the calls, and the values that uninitialised members have. -/
structure Session where
  mac : Mac
  ip : UInt32
  thisPort : UInt16
  destIp : UInt32
  destPort : UInt16
  destMac : Mac
  file : List UInt8
  fileSegment : UDP
  clientPacket : IP

/-- What `UDP_client` changes in its loop. -/
structure Client where
  txPacket : IP
  nextSegmentIndex : ℕ

namespace Session

variable (session : Session)

/-- `segments_to_send`; empty only if `file_to_UDP_segments` has no result. -/
def segmentsToSend : List UDP :=
  (fileToUDPSegments session.fileSegment session.file session.thisPort session.destPort
    maximumPayloadBytes).getD []

/-- `Host::UDP_client` after it has cut the file into segments and knows the destination's MAC. -/
def start : Client where
  txPacket :=
    ((IP.new session.clientPacket).setSourceIp session.ip).setDestinationIp session.destIp
  nextSegmentIndex := 0

def UDPClient : Party Client MPDU MPDU where
  act client :=
    session.segmentsToSend[client.nextSegmentIndex]?.map fun segment ↦
      let txPacket := client.txPacket.encapUDP segment
      (⟨txPacket, client.nextSegmentIndex + 1⟩,
        some (MPDU.ofPacket txPacket session.mac session.destMac))
  take _ _ := none

end Session

/-- `Host::UDP_server`. It does not go on from a frame that is not decoded, nor from an empty
payload. -/
def UDPServer : Party Server MPDU MPDU where
  act _ := none
  take server rxFrame :=
    if server.eofReached then none else rxFrame.udpSegment.bind server.receive

/-- The two parties on sockets that receive only each other's frames. -/
def Session.connection (session : Session) :
    ScheduledSystem (Duplex Client Server MPDU MPDU) Duplex.Event :=
  Duplex.system session.UDPClient UDPServer session.start Server.start

/-! ### The segments of a file -/

/-- The payloads make up the file and the end marker, and the ports are those of the call. -/
theorem payloads_of_load {maximumBytes : ℕ} {rest : List UInt8} {srcPort destPort : UInt16} :
    ∀ {segment : UDP} {segments : List UDP},
      segment.sourcePort = srcPort ∧ segment.destinationPort = destPort →
        loadUDPSegments maximumBytes rest segment [] = some segments →
          segments.flatMap UDP.payload = segment.payload ++ rest ++ [SEGMENT_EOF] ∧
            ∀ sent ∈ segments, sent.sourcePort = srcPort ∧ sent.destinationPort = destPort := by
  induction rest with
  | nil =>
    intro segment segments _ hload
    cases hload
  | cons byte rest ih =>
    intro segment segments hports hload
    simp only [loadUDPSegments] at hload
    split_ifs at hload with hend hfull
    · obtain rfl := Option.some.inj hload
      subst hend
      refine ⟨?_, List.forall_mem_singleton.mpr hports⟩
      rw [List.nil_append, List.flatMap_singleton]
    · rw [loadUDPSegments_append] at hload
      obtain ⟨later, hlater, rfl⟩ := Option.map_eq_some_iff.mp hload
      obtain ⟨hpayloads, hall⟩ := ih (by exact hports) hlater
      refine ⟨?_, List.forall_mem_cons.mpr ⟨hports, hall⟩⟩
      rw [List.nil_append, List.singleton_append, List.flatMap_cons, hpayloads]
      simp
    · obtain ⟨hpayloads, hall⟩ := ih (by exact hports) hload
      refine ⟨?_, hall⟩
      rw [hpayloads]
      simp

/-! ### The server's loop -/

namespace Server

variable {server middle final : Server} {segment : UDP} {read : List UDP}

/-- The loop goes on with what comes later. -/
theorem run_append (h : server.run read = some (middle, [])) (later : List UDP) :
    server.run (read ++ later) = middle.run later := by
  induction read generalizing server with
  | nil =>
    obtain ⟨rfl, -⟩ := Prod.mk.inj (Option.some.inj h)
    rfl
  | cons segment read ih =>
    rw [run] at h
    rw [List.cons_append, run]
    split_ifs at h ⊢ with hended
    · cases (Prod.mk.inj (Option.some.inj h)).2
    · cases hreceive : server.receive segment with
      | none => simp [hreceive] at h
      | some next =>
        simp only [hreceive] at h ⊢
        exact ih h

/-- What has been read: the bytes written, and the end marker. -/
def bytes (server : Server) : List UInt8 :=
  if server.eofReached then server.written ++ [SEGMENT_EOF] else server.written

/-- The loop has not taken an end marker for data that came last. -/
def Unmarked (server : Server) : Prop :=
  server.eofReached = false → server.written.getLast? ≠ some SEGMENT_EOF

theorem of_receive (hopen : server.eofReached = false) (h : server.receive segment = some final) :
    final.bytes = server.bytes ++ segment.payload ∧ final.Unmarked := by
  rw [receive] at h
  cases hback : segment.payload.getLast? with
  | none => simp [hback] at h
  | some back =>
    have hpayload : segment.payload.dropLast ++ [back] = segment.payload :=
      List.dropLast_append_getLast? back hback
    simp only [hback] at h
    split_ifs at h with hmarker
    · obtain rfl := Option.some.inj h
      refine ⟨?_, fun hnot ↦ by cases hnot⟩
      rw [bytes, bytes, if_pos rfl, hopen, if_neg Bool.false_ne_true, List.append_assoc, ← hmarker,
        hpayload]
    · obtain rfl := Option.some.inj h
      refine ⟨?_, fun _ ↦ ?_⟩
      · simp [bytes, hopen]
      · change (server.written ++ segment.payload).getLast? ≠ _
        rw [← hpayload, ← List.append_assoc, List.getLast?_concat]
        exact fun heq ↦ hmarker (Option.some.inj heq)

/-- What is read is written, but for the end marker. -/
theorem bytes_of_run (hunmarked : server.Unmarked) (h : server.run read = some (final, [])) :
    final.bytes = server.bytes ++ read.flatMap UDP.payload ∧ final.Unmarked := by
  induction read generalizing server with
  | nil =>
    obtain ⟨rfl, -⟩ := Prod.mk.inj (Option.some.inj h)
    exact ⟨(List.append_nil _).symm, hunmarked⟩
  | cons segment read ih =>
    rw [run] at h
    split_ifs at h with hended
    · cases (Prod.mk.inj (Option.some.inj h)).2
    · cases hreceive : server.receive segment with
      | none => simp [hreceive] at h
      | some next =>
        simp only [hreceive] at h
        obtain ⟨hbytes, hnext⟩ := of_receive (Bool.eq_false_iff.mpr hended) hreceive
        obtain ⟨hfinal, hlast⟩ := ih hnext h
        refine ⟨?_, hlast⟩
        rw [hfinal, hbytes, List.append_assoc]
        rfl

/-- What is read of a file and its end marker is written of the file. -/
theorem written_sublist {file : List UInt8} (hunmarked : server.Unmarked)
    (h : server.bytes.Sublist (file ++ [SEGMENT_EOF])) : server.written.Sublist file := by
  rw [bytes] at h
  split_ifs at h with hended
  · exact (List.append_sublist_append_right _).mp h
  · obtain ⟨front, back, hsplit, hfront, hback⟩ := List.sublist_append_iff.mp h
    rcases List.sublist_singleton.mp hback with rfl | rfl
    · rw [hsplit, List.append_nil]
      exact hfront
    · refine absurd ?_ (hunmarked (Bool.eq_false_iff.mpr hended))
      rw [hsplit, List.getLast?_concat]

end Server

/-! ### Frames -/

/-- A frame with a UDP segment that is decoded. -/
structure IsDatagramFrame (sourceMac destinationMac : Mac) (destinationPort : UInt16)
    (frame : MPDU) : Prop where
  source : frame.sourceMac = sourceMac
  destination : frame.destinationMac = destinationMac
  type : frame.SDUType = MPDU_IP_TYPE
  segment : ∃ packet segment, IP.generate frame.SDU = some packet ∧
    packet.protocol = IP_PROTOCOL_UDP ∧ generateUDP packet.SDU = some segment ∧
      segment.destinationPort = destinationPort

theorem isDatagramFrame_ofPacket {packet : IP} {segment : UDP} (hheader : packet.headerLength = 12)
    (hsize : segment.payload.length ≤ 65515) (sourceMac destinationMac : Mac) :
    IsDatagramFrame sourceMac destinationMac segment.destinationPort
        (MPDU.ofPacket (packet.encapUDP segment) sourceMac destinationMac) ∧
      (MPDU.ofPacket (packet.encapUDP segment) sourceMac destinationMac).udpSegment =
        some segment := by
  have hcarries : (packet.encapUDP segment).Carries segment.bytes := IP.carries_encap _ _ _
  have htwelve : (packet.encapUDP segment).headerLength.toNat = 12 := by
    rw [IP.headerLength_encapUDP, hheader]
    rfl
  have hfits : (packet.encapUDP segment).headerLength.toNat +
      (UDP_HEADER_SIZE + segment.payload.length) ≤ 65535 := by
    rw [htwelve, UDP_HEADER_SIZE]
    omega
  refine ⟨⟨rfl, rfl, rfl, packet.encapUDP segment, segment, ?_, rfl, ?_, rfl⟩,
    udpSegment_ofPacket hcarries hfits _ _⟩
  · rw [← UDP.length_bytes] at hfits
    change IP.generate (MPDU.encapIP ⟨[], [], 0, []⟩ (packet.encapUDP segment)).SDU = _
    exact generate_encapIP hcarries hfits
  · rw [hcarries.data, generateUDP_bytes]

namespace Session

variable {session : Session} {s t : Duplex Client Server MPDU MPDU} {kept : Prop}

/-- What the loads of the file give. -/
theorem segments_of_load (hfile : session.file ≠ []) :
    fileToUDPSegments session.fileSegment session.file session.thisPort session.destPort
        maximumPayloadBytes = some session.segmentsToSend ∧
      session.segmentsToSend.flatMap UDP.payload = session.file ++ [SEGMENT_EOF] ∧
        ∀ segment ∈ session.segmentsToSend,
          segment.destinationPort = session.destPort ∧ segment.payload.length ≤ 65515 := by
  obtain ⟨first, rest, hload⟩ := loadUDPSegments_eq_some maximumPayloadBytes hfile
    { session.fileSegment with
      sourcePort := session.thisPort, destinationPort := session.destPort, payload := [] }
  have hsegments : session.segmentsToSend = first :: rest := congrArg (Option.getD · []) hload
  obtain ⟨hpayloads, hports⟩ := payloads_of_load ⟨rfl, rfl⟩ hload
  have hroom : 0 < maximumPayloadBytes := by decide
  rw [hsegments]
  refine ⟨hload, hpayloads, fun segment hsegment ↦ ⟨(hports segment hsegment).2, ?_⟩⟩
  exact (length_payload_le hroom hload segment hsegment).trans (by decide)

/-- The server has run on a part of what was sent, another part is on its way, and each frame of
that is for the server. -/
structure Streams (session : Session) (kept : Prop) (s : Duplex Client Server MPDU MPDU)
    (read waiting : List UDP) : Prop where
  headerLength : s.client.txPacket.headerLength = 12
  run : Server.start.run read = some (s.server, [])
  carries : List.Forall₂ (fun frame segment ↦ frame.udpSegment = some segment) s.toServer waiting
  part : (read ++ waiting).Sublist (session.segmentsToSend.take s.client.nextSegmentIndex)
  all : kept → read ++ waiting = session.segmentsToSend.take s.client.nextSegmentIndex
  silent : s.toClient = []
  frames : ∀ frame ∈ s.toServer,
    IsDatagramFrame session.mac session.destMac session.destPort frame

/-- What is on its way is some of what was. -/
theorem Streams.drop {read waiting later : List UDP} (h : session.Streams kept s read waiting)
    (hlater : later.Sublist waiting) (hall : kept → later = waiting) {toServer : List MPDU}
    (hcarries : List.Forall₂ (fun frame segment ↦ frame.udpSegment = some segment) toServer later)
    (hframes : ∀ frame ∈ toServer, frame ∈ s.toServer) :
    session.Streams kept { s with toServer } read later where
  headerLength := h.headerLength
  run := h.run
  carries := hcarries
  part := (hlater.append_left read).trans h.part
  all hkept := by
    rw [hall hkept]
    exact h.all hkept
  silent := h.silent
  frames frame hframe := h.frames frame (hframes frame hframe)

theorem streams_step (hfile : session.file ≠ []) {read waiting : List UDP} {event : Duplex.Event}
    (h : session.Streams kept s read waiting) (hguard : Duplex.inOrderKeeping kept s event)
    (hstep : session.connection.step s event = some t) :
    ∃ read' waiting', session.Streams kept t read' waiting' := by
  obtain ⟨-, -, hsegments⟩ := segments_of_load hfile
  change Duplex.step session.UDPClient UDPServer s event = some t at hstep
  cases event with
  | clientActs =>
    obtain ⟨acted, sent, hacts, rfl⟩ := Duplex.step_clientActs hstep
    obtain ⟨segment, hsegment, hacted⟩ := Option.map_eq_some_iff.mp hacts
    obtain ⟨rfl, rfl⟩ := Prod.mk.inj hacted
    obtain ⟨hport, hsize⟩ := hsegments segment (List.mem_of_getElem? hsegment)
    obtain ⟨hframe, hcarries⟩ :=
      isDatagramFrame_ofPacket h.headerLength hsize session.mac session.destMac
    have htake : session.segmentsToSend.take (s.client.nextSegmentIndex + 1) =
        session.segmentsToSend.take s.client.nextSegmentIndex ++ [segment] := by
      rw [List.take_add_one, hsegment]
      rfl
    refine ⟨read, waiting ++ [segment], h.headerLength, h.run,
      List.rel_append h.carries (.cons hcarries .nil), ?_, fun hkept ↦ ?_, h.silent, ?_⟩
    · rw [htake, ← List.append_assoc]
      exact h.part.append_right [segment]
    · rw [htake, ← List.append_assoc, h.all hkept]
    · exact List.forall_mem_append.mpr ⟨h.frames, List.forall_mem_singleton.mpr (hport ▸ hframe)⟩
  | serverActs =>
    obtain ⟨acted, sent, hacts, -⟩ := Duplex.step_serverActs hstep
    cases hacts
  | clientTakes position =>
    obtain ⟨message, taken, -, htakes, -⟩ := Duplex.step_clientTakes hstep
    cases htakes
  | serverTakes position =>
    obtain rfl : position = 0 := hguard.1
    obtain ⟨message, taken, hmessage, htakes, rfl⟩ := Duplex.step_serverTakes hstep
    have hfront := Duplex.eq_cons_of_getElem?_zero hmessage
    have hcarries := h.carries
    rw [hfront] at hcarries
    cases hcarries with
    | @cons _ segment _ rest hsegment hrest =>
      change (if s.server.eofReached then none else message.udpSegment.bind s.server.receive) =
        some taken at htakes
      split_ifs at htakes with hended
      rw [hsegment, Option.bind_some] at htakes
      refine ⟨read ++ [segment], rest, h.headerLength, ?_, hrest, ?_, fun hkept ↦ ?_, h.silent, ?_⟩
      · rw [Server.run_append h.run, Server.run, if_neg hended]
        simp only [htakes, Server.run_nil]
      · rw [List.append_assoc]
        exact h.part
      · rw [List.append_assoc]
        exact h.all hkept
      · exact fun frame hframe ↦ h.frames frame (List.mem_of_mem_eraseIdx hframe)
  | dropToServer position =>
    obtain rfl := Duplex.step_dropToServer hstep
    refine ⟨read, _, h.drop (List.eraseIdx_sublist waiting position) (fun hkept ↦ ?_)
      (Duplex.forall₂_eraseIdx h.carries position) fun _ ↦ List.mem_of_mem_eraseIdx⟩
    exact (hguard.2 hkept).elim
  | dropToClient position =>
    obtain rfl := Duplex.step_dropToClient hstep
    exact ⟨read, waiting, h.headerLength, h.run, h.carries, h.part, h.all,
      by rw [h.silent, List.eraseIdx_nil], h.frames⟩

theorem streams_of_reachable (hfile : session.file ≠ [])
    (h : session.connection.Reachable (Duplex.inOrderKeeping kept) s) :
    ∃ read waiting, session.Streams kept s read waiting := by
  have hstep : ∀ (before : Duplex Client Server MPDU MPDU) event after,
      (∃ read waiting, session.Streams kept before read waiting) →
        Duplex.inOrderKeeping kept before event →
          session.connection.step before event = some after →
            ∃ read waiting, session.Streams kept after read waiting :=
    fun _ _ _ ⟨_, _, hbefore⟩ hguard hafter ↦ streams_step hfile hbefore hguard hafter
  exact h.invariant hstep ⟨[], [], rfl, rfl, .nil, List.nil_sublist _, fun _ ↦ rfl, rfl,
    List.forall_mem_nil _⟩

/-! ### What is written -/

variable {read waiting : List UDP}

/-- Bytes of the file are lost, and nothing else happens to them. -/
theorem Streams.written_sublist (hfile : session.file ≠ [])
    (h : session.Streams kept s read waiting) : s.server.written.Sublist session.file := by
  obtain ⟨-, hpayloads, -⟩ := segments_of_load hfile
  have hstart : Server.start.Unmarked := fun _ hmarker ↦ by cases hmarker
  obtain ⟨hbytes, hunmarked⟩ := Server.bytes_of_run hstart h.run
  refine Server.written_sublist hunmarked ?_
  have hread : read.Sublist session.segmentsToSend :=
    ((List.sublist_append_left _ _).trans h.part).trans (List.take_sublist _ _)
  rw [hbytes, ← hpayloads]
  exact hread.flatMap UDP.payload

/-- Where nothing was dropped and neither party goes on, the server has written the file, and read
everything, exactly when the end marker stands at the end of no payload but the last. -/
theorem Streams.complete_iff (hfile : session.file ≠ []) (h : session.Streams True s read waiting)
    (hquiet : session.connection.Quiescent Duplex.losslessInOrder s) :
    s.server = ⟨session.file, true⟩ ∧ s.toServer = [] ↔
      MarkerFree maximumPayloadBytes session.file := by
  obtain ⟨hload, -, -⟩ := segments_of_load hfile
  obtain ⟨hclient, -, -, hserver⟩ := Duplex.none_of_quiescent hquiet
  have hend : session.segmentsToSend.length ≤ s.client.nextSegmentIndex :=
    List.getElem?_eq_none_iff.mp (Option.map_eq_none_iff.mp hclient)
  have hall := h.all trivial
  rw [List.take_of_length_le hend] at hall
  have hrun := run_loadUDPSegments_iff hfile
    { session.fileSegment with
      sourcePort := session.thisPort, destinationPort := session.destPort, payload := [] } []
    (show 0 < maximumPayloadBytes by decide)
  rw [List.nil_append, List.nil_append] at hrun
  rw [← hrun]
  have hcarries := h.carries
  constructor
  · rintro ⟨hwritten, hnone⟩
    rw [hnone, List.forall₂_nil_left_iff] at hcarries
    rw [hcarries, List.append_nil] at hall
    refine ⟨session.segmentsToSend, hload, ?_⟩
    rw [← hall, ← hwritten]
    exact h.run
  · rintro ⟨segments, hsegments, hfinal⟩
    obtain rfl := Option.some.inj (hload.symm.trans hsegments)
    change Server.start.run _ = _ at hfinal
    rw [← hall, Server.run_append h.run] at hfinal
    cases hqueue : s.toServer with
    | nil =>
      rw [hqueue, List.forall₂_nil_left_iff] at hcarries
      rw [hcarries, Server.run_nil] at hfinal
      exact ⟨(Prod.mk.inj (Option.some.inj hfinal)).1, rfl⟩
    | cons frame rest =>
      -- a server that will still meet the end marker reads the next frame
      rw [hqueue, List.forall₂_cons_left_iff] at hcarries
      obtain ⟨segment, later, hsegment, -, rfl⟩ := hcarries
      have hstuck := hserver frame rest hqueue
      change (if s.server.eofReached then none else frame.udpSegment.bind s.server.receive) = none
        at hstuck
      rw [Server.run] at hfinal
      split_ifs at hfinal hstuck with hended
      · cases (Prod.mk.inj (Option.some.inj hfinal)).2
      · rw [hsegment, Option.bind_some] at hstuck
        simp [hstuck] at hfinal

/-! ### The work left -/

/-- The segments not yet sent, each of which is to be sent and read, and the frames on their way. -/
def work (session : Session) (s : Duplex Client Server MPDU MPDU) : ℕ :=
  2 * (session.segmentsToSend.length - s.client.nextSegmentIndex) + s.toServer.length

/-- Every step without a loss leaves less work. -/
theorem work_lt {event : Duplex.Event} (hguard : Duplex.losslessInOrder s event)
    (hstep : session.connection.step s event = some t) : session.work t < session.work s := by
  change Duplex.step session.UDPClient UDPServer s event = some t at hstep
  cases event with
  | clientActs =>
    obtain ⟨acted, sent, hacts, rfl⟩ := Duplex.step_clientActs hstep
    obtain ⟨segment, hsegment, hacted⟩ := Option.map_eq_some_iff.mp hacts
    obtain ⟨rfl, rfl⟩ := Prod.mk.inj hacted
    have hless := (List.getElem?_eq_some_iff.mp hsegment).1
    simp only [work, Option.toList_some, List.length_append, List.length_singleton]
    omega
  | serverActs =>
    obtain ⟨acted, sent, hacts, -⟩ := Duplex.step_serverActs hstep
    cases hacts
  | clientTakes position =>
    obtain ⟨message, taken, -, htakes, -⟩ := Duplex.step_clientTakes hstep
    cases htakes
  | serverTakes position =>
    obtain ⟨message, taken, hmessage, -, rfl⟩ := Duplex.step_serverTakes hstep
    have hposition := (List.getElem?_eq_some_iff.mp hmessage).1
    have hlength := List.length_eraseIdx_add_one hposition
    simp only [work]
    omega
  | dropToServer position => exact hguard.elim
  | dropToClient position => exact hguard.elim

end Session

end NetworkSimulation.Udp
