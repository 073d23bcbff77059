import NetworkSimulation.Tcp.Progress
import NetworkSimulation.Threads.Completion

/-!
# A file over the network

`TCP_client` on one host of a network sends a file to `TCP_server` on another, through sockets,
demultiplexers, wires and switches. A client whose ARP cache knows the server sends every frame to
the server's socket, and the server answers to the client's (`Transfer.suit`), so the pair is an
instance of two calls on a network.

Whatever the wires, the queues and the sockets drop, and however the threads are scheduled, the
server writes nothing but the file (`file_of_threads`). If nothing is dropped the two functions come
to an end, and then the file has arrived (`transfer_completes`).
-/

set_option autoImplicit false
set_option relaxedAutoImplicit false

namespace NetworkSimulation.Threads

open Stack Library Links Switching

variable {H S : Type*}

/-- Two hosts of a network. The cache of the first knows the other. -/
structure Correspondents (H : Type*) where
  hosts : Arp.Hosts H
  caches : H → Arp.ARPCache
  clientHost : H
  serverHost : H
  ne : clientHost ≠ serverHost
  sound : Arp.Sound hosts (caches clientHost)
  known : isBroadcast ((caches clientHost).getMac (hosts.address serverHost).ip) = false

/-- What the client's host sends to. -/
def Correspondents.destMac (correspondents : Correspondents H) : Mac :=
  (correspondents.caches correspondents.clientHost).getMac
    (correspondents.hosts.address correspondents.serverHost).ip

theorem Correspondents.destMac_eq (correspondents : Correspondents H) :
    correspondents.destMac = (correspondents.hosts.address correspondents.serverHost).mac := by
  obtain ⟨owner, hip, hmac⟩ :=
    correspondents.sound.1 _ (Arp.ARPCache.mem_of_getMac correspondents.known)
  have howner : owner = correspondents.serverHost := correspondents.hosts.ip_injective hip.symm
  rwa [howner] at hmac

theorem ne_hostsOneAndTwo : (Fin.last 1).castSucc ≠ Fin.last 2 := by decide

theorem sound_hostsOneAndTwo : Arp.Sound Arp.threeHosts [⟨2, [0, 0, 0, 0, 0, 2]⟩] :=
  ⟨by decide, by decide⟩

theorem known_hostsOneAndTwo :
    isBroadcast (Arp.ARPCache.getMac [⟨2, [0, 0, 0, 0, 0, 2]⟩]
      (Arp.threeHosts.address (Fin.last 2)).ip) = false := by
  decide

/-- Hosts 1 and 2 of three. -/
def hostsOneAndTwo : Correspondents (Fin 3) where
  hosts := Arp.threeHosts
  caches _ := [⟨2, [0, 0, 0, 0, 0, 2]⟩]
  clientHost := (Fin.last 1).castSucc
  serverHost := Fin.last 2
  ne := ne_hostsOneAndTwo
  sound := sound_hostsOneAndTwo
  known := known_hostsOneAndTwo

/-! ### TCP -/

/-- A call of `TCP_client` at one host and of `TCP_server` at another, the file to send, and the
values that uninitialised members have. -/
structure Transfer (H : Type*) extends Correspondents H where
  thisPort : UInt16
  destPort : UInt16
  file : List UInt8
  fileSegment : TCP
  clientSegment : TCP
  clientPacket : IP
  serverSegment : TCP
  serverPacket : IP
  serverSN : UInt32

namespace Transfer

variable (transfer : Transfer H)

/-- The two calls, with the addresses of their hosts. -/
def session : Tcp.Session where
  client :=
    let address := transfer.hosts.address transfer.clientHost
    ⟨address.mac, address.ip, transfer.thisPort,
      (transfer.hosts.address transfer.serverHost).ip, transfer.destPort, transfer.destMac⟩
  server :=
    let address := transfer.hosts.address transfer.serverHost
    ⟨address.mac, address.ip, transfer.destPort⟩
  file := transfer.file
  fileSegment := transfer.fileSegment
  clientSegment := transfer.clientSegment
  clientPacket := transfer.clientPacket
  serverSegment := transfer.serverSegment
  serverPacket := transfer.serverPacket
  serverSN := transfer.serverSN

/-- The calls on their hosts, each with the socket that it was given. -/
def calls : Calls H Tcp.Client Tcp.Server where
  hosts := transfer.hosts
  caches := transfer.caches
  clientHost := transfer.clientHost
  serverHost := transfer.serverHost
  clientSocket := ⟨transfer.thisPort, IP_PROTOCOL_TCP⟩
  serverSocket := ⟨transfer.destPort, IP_PROTOCOL_TCP⟩
  client :=
    (transfer.session.client.TCPClient transfer.session.segmentsToSend).whileReading
      Tcp.Client.reads
  server := transfer.session.server.TCPServer.whileReading Tcp.Server.reads
  clientStart :=
    transfer.session.client.start transfer.session.clientSegment transfer.session.clientPacket
  serverStart :=
    Tcp.Server.start transfer.session.serverSegment transfer.session.serverPacket
      transfer.session.serverSN

end Transfer

/-- Three bytes from host 1 to host 2. -/
def threeBytesTransfer : Transfer (Fin 3) where
  toCorrespondents := hostsOneAndTwo
  thisPort := 30000
  destPort := 50000
  file := [7, 8, 9]
  fileSegment := ⟨0, 0, 0, 0, 0, 0, 0, []⟩
  clientSegment := ⟨0, 0, 0, 0, 0, 0, 0, []⟩
  clientPacket := ⟨0, 0, 0, 0, 0, []⟩
  serverSegment := ⟨0, 0, 0, 0, 0, 0, 0, []⟩
  serverPacket := ⟨0, 0, 0, 0, 0, []⟩
  serverSN := 0

variable {net : Topology H S}

/-- A frame with a segment for the port of a host is meant for its socket. -/
theorem meant_of_isSegmentFrame {source target : H} {sourceMac destinationMac : Mac}
    {sourcePort destinationPort : UInt16} {frame : MPDU}
    (h : Tcp.IsSegmentFrame sourceMac destinationMac sourcePort destinationPort frame)
    (hsource : sourceMac = net.mac source) (htarget : destinationMac = net.mac target) :
    Meant net source target ⟨destinationPort, IP_PROTOCOL_TCP⟩ frame where
  sourceMac := h.source.trans hsource
  destinationMac := by rw [h.destination, htarget, compareMacs_self]
  reaches := by
    obtain ⟨packet, segment, hpacket, hprotocol, hsegment, -, hport⟩ := h.segment
    refine ⟨h.type, packet, hpacket, hprotocol, .inr (.inl ⟨rfl, ?_⟩)⟩
    rw [hsegment, Option.map_some, hport]

namespace Transfer

variable {transfer : Transfer H}

/-- The calls can be made on a network of these hosts. -/
theorem suit (hmac : ∀ host, net.mac host = (transfer.hosts.address host).mac)
    (hfile : transfer.file ≠ []) : transfer.calls.Suit net where
  mac := hmac
  ne := transfer.ne
  silent := rfl
  frames d hd := by
    have hreach : transfer.session.connection.Reachable Duplex.inOrder d :=
      Duplex.reachable_of_whileReading hd
    obtain ⟨hup, hdown⟩ := Tcp.Session.isSegmentFrame_of_reachable hfile hreach
    exact ⟨fun frame hframe ↦ meant_of_isSegmentFrame (hup frame hframe) (hmac _).symm
        (transfer.destMac_eq.trans (hmac _).symm),
      fun frame hframe ↦ meant_of_isSegmentFrame (hdown frame hframe) (hmac _).symm (hmac _).symm⟩

/-! ### Nothing but the file -/

variable [DecidableEq H] [DecidableEq S] [Fintype H] [Fintype S]
  {lan : Lan net (CallState H Tcp.Client Tcp.Server) (Arp.Flight H)}

/-- A reachable state of the network is at a reachable state of the session. -/
theorem exists_session {kept : Prop}
    (hmac : ∀ host, net.mac host = (transfer.hosts.address host).mac) (hfile : transfer.file ≠ [])
    (h : (transfer.calls.lan net).Reachable (inTurnKeeping kept) lan) :
    ∃ d, transfer.session.connection.Reachable (Duplex.inOrderKeeping kept) d ∧
      Represents transfer.calls kept lan d := by
  obtain ⟨d, hd, hrep⟩ := (follows_of_reachable (suit hmac hfile) h).duplex
  exact ⟨d, Duplex.reachable_of_whileReading hd, hrep⟩

/-- Whatever is lost on the wires, in the queues and at the sockets, the server writes a prefix of
the file; when either function has returned it has written all of it; and the client does not look
for a segment that is not there. -/
theorem file_of_threads (hmac : ∀ host, net.mac host = (transfer.hosts.address host).mac)
    (hfile : transfer.file ≠ []) (hsize : transfer.file.length < 2 ^ 31)
    (h : (transfer.calls.lan net).Reachable inTurn lan) :
    lan.core.server.written <+: transfer.file ∧
      (lan.core.server.point = .returned ∨ lan.core.client.point = .returned →
        lan.core.server.written = transfer.file) ∧
      lan.core.client.point ≠ .outOfRange := by
  have hlossy : (transfer.calls.lan net).Reachable (inTurnKeeping False) lan :=
    h.mono fun _ _ hguard ↦ ⟨hguard, False.elim⟩
  obtain ⟨d, hd, hrep⟩ := exists_session hmac hfile hlossy
  have hany : transfer.session.connection.Reachable Duplex.anyOrder d :=
    hd.mono fun _ _ _ ↦ trivial
  obtain ⟨a, -, hrelated, hsafe⟩ := Tcp.Session.exists_represented hfile hsize
    (fun _ _ _ _ hguard ↦ hguard) hany
  have hsegments := transfer.session.isSegmentation hfile
  have hwritten := hrelated.server.written
  have hclient := hrelated.client.point
  have hserver := hrelated.server.point
  rw [hrep.server] at hwritten hserver
  rw [hrep.client] at hclient
  refine ⟨⟨payloadBytes (transfer.session.segmentsToSend.drop a.server.accepted), ?_⟩,
    fun hreturned ↦ ?_, ?_⟩
  · rw [hwritten, ← payloadBytes_append, List.take_append_drop]
    exact hsegments.payloadBytes
  · rw [hserver, hclient, or_comm] at hreturned
    rw [hwritten, hsafe.accepted_eq_of_returned hreturned, List.take_length]
    exact hsegments.payloadBytes
  · rw [hclient]
    exact hsafe.client_ne_outOfRange

/-- The segment is lost on the wire of host 1, which still carries the ACK. -/
theorem file_of_threads_witness :
    ∃ h : ((threeBytesTransfer.calls.lan readmeNetwork).run inTurn
        (threeBytesTransfer.calls.lan readmeNetwork).init
        (List.flatten
          [[.acts .clientActs, .transmits 1 0, .receives (.inr ⟨1, ⟨1, by decide⟩⟩),
              .queues (.inr ⟨1, ⟨1, by decide⟩⟩)],
            List.replicate 8 (.sends 1),
            [.receives (.inl 2), .queues (.inl 2), .demuxes (2, ⟨0, 0, 0, 0, 0, []⟩),
              .acts .serverGets, .acts .serverActs, .transmits 2 0,
              .receives (.inr ⟨1, ⟨2, by decide⟩⟩), .queues (.inr ⟨1, ⟨2, by decide⟩⟩)],
            List.replicate 4 (.sends 1),
            [.receives (.inl 1), .queues (.inl 1), .demuxes (1, ⟨0, 0, 0, 0, 0, []⟩),
              .acts .clientGets, .acts .clientActs, .acts .clientActs, .transmits 1 0,
              .transmits 1 0]])).isSome,
      (Option.get _ h).core.server.written <+: threeBytesTransfer.file ∧
        ((Option.get _ h).core.server.point = .returned ∨
            (Option.get _ h).core.client.point = .returned →
          (Option.get _ h).core.server.written = threeBytesTransfer.file) ∧
        (Option.get _ h).core.client.point ≠ .outOfRange :=
  ⟨by decide +kernel, file_of_threads (fun _ ↦ rfl) (by decide) (by decide)
    (ScheduledSystem.reachable_of_isSome_run _)⟩

/-! ### The end -/

variable (transfer) in
/-- The work that is left of the transfer in a state of the calls over channels. -/
def Work (d : Duplex Tcp.Client Tcp.Server MPDU MPDU) (work : ℕ) : Prop :=
  ∃ a, transfer.session.Tracks d a ∧
    Tcp.AckClocked.State.work transfer.session.segmentsToSend.length a = work

/-- A transfer in which nothing overflows goes on for only so long; and where no thread and no call
goes on any more both functions have returned, and the file has been written. -/
theorem transfer_completes (hmac : ∀ host, net.mac host = (transfer.hosts.address host).mac)
    (hfile : transfer.file ≠ []) (hsize : transfer.file.length < 2 ^ 31)
    (h : (transfer.calls.lan net).Reachable inTurnRoomy lan) :
    (¬ ∃ states : ℕ → Lan net (CallState H Tcp.Client Tcp.Server) (Arp.Flight H), states 0 = lan ∧
        ∀ i, ∃ event, inTurnRoomy (states i) event ∧
          (transfer.calls.lan net).step (states i) event = some (states (i + 1))) ∧
      ((transfer.calls.lan net).Quiescent anyThread lan →
        lan.core.client.point = .returned ∧ lan.core.server.point = .returned ∧
          lan.core.server.written = transfer.file) := by
  have hsuit : transfer.calls.Suit net := suit hmac hfile
  constructor
  · have hranks : ∀ (d : Duplex Tcp.Client Tcp.Server MPDU MPDU) work event d',
        transfer.Work d work → Duplex.losslessInOrder d event →
          transfer.calls.duplex.step d event = some d' → ∃ less < work, transfer.Work d' less := by
      rintro d work event d' ⟨a, ha, rfl⟩ hguard hstep
      obtain ⟨b, hb, hless⟩ := ha.step hfile hsize hguard (Duplex.step_of_whileReading hstep)
      exact ⟨_, hless, b, hb, rfl⟩
    exact not_exists_infiniteRun hranks hsuit ⟨_, Tcp.Session.tracks_init, rfl⟩ h
  · intro hquiet
    have hkeeping : (transfer.calls.lan net).Reachable (inTurnKeeping True) lan :=
      h.mono fun _ _ hguard ↦ ⟨hguard.1, fun _ ↦ hguard.2⟩
    have hfollows := follows_of_reachable hsuit hkeeping
    obtain ⟨d, hd, hrep⟩ := exists_session hmac hfile hkeeping
    obtain ⟨a, ha, -⟩ := Tcp.Session.tracks_init.reachableFrom hfile hsize
      (hd.mono fun _ _ hguard ↦ hguard.2 trivial)
    obtain ⟨hclient, hserver, hcompleted⟩ := ha.completed hfile hsize
      (hfollows.quiescent hsuit hrep hquiet)
    rw [hrep.client] at hclient
    rw [hrep.server] at hserver
    have hwritten := hcompleted.written
    rw [hrep.server] at hwritten
    exact ⟨hclient, hserver, hwritten⟩

/-- The SYN is flooded, every other frame is sent to the one host it is for, and nothing is left to
do. -/
theorem transfer_completes_witness :
    ∃ h : ((threeBytesTransfer.calls.lan readmeNetwork).run inTurnRoomy
        (threeBytesTransfer.calls.lan readmeNetwork).init
        (List.flatten
          [[.acts .clientActs, .transmits 1 0, .receives (.inr ⟨1, ⟨1, by decide⟩⟩),
              .queues (.inr ⟨1, ⟨1, by decide⟩⟩)],
            List.replicate 8 (.sends 1),
            [.receives (.inr ⟨0, ⟨1, by decide⟩⟩), .queues (.inr ⟨0, ⟨1, by decide⟩⟩)],
            List.replicate 6 (.sends 0),
            [.receives (.inl 0), .queues (.inl 0), .demuxes (0, ⟨0, 0, 0, 0, 0, []⟩),
              .receives (.inl 2), .queues (.inl 2), .demuxes (2, ⟨0, 0, 0, 0, 0, []⟩),
              .acts .serverGets, .acts .serverActs, .transmits 2 0,
              .receives (.inr ⟨1, ⟨2, by decide⟩⟩), .queues (.inr ⟨1, ⟨2, by decide⟩⟩)],
            List.replicate 4 (.sends 1),
            [.receives (.inl 1), .queues (.inl 1), .demuxes (1, ⟨0, 0, 0, 0, 0, []⟩),
              .acts .clientGets, .acts .clientActs, .acts .clientActs, .transmits 1 0,
              .receives (.inr ⟨1, ⟨1, by decide⟩⟩), .queues (.inr ⟨1, ⟨1, by decide⟩⟩),
              .transmits 1 0, .receives (.inr ⟨1, ⟨1, by decide⟩⟩),
              .queues (.inr ⟨1, ⟨1, by decide⟩⟩)],
            List.replicate 4 (.sends 1), [.receives (.inl 2), .queues (.inl 2)],
            List.replicate 4 (.sends 1),
            [.demuxes (2, ⟨0, 0, 0, 0, 0, []⟩), .receives (.inl 2), .queues (.inl 2),
              .demuxes (2, ⟨0, 0, 0, 0, 0, []⟩), .acts .serverGets, .acts .serverGets,
              .acts .serverActs, .transmits 2 0, .receives (.inr ⟨1, ⟨2, by decide⟩⟩),
              .queues (.inr ⟨1, ⟨2, by decide⟩⟩)],
            List.replicate 4 (.sends 1),
            [.receives (.inl 1), .queues (.inl 1), .demuxes (1, ⟨0, 0, 0, 0, 0, []⟩),
              .acts .clientGets]])).isSome,
      (¬ ∃ states : ℕ → Lan readmeNetwork (CallState (Fin 3) Tcp.Client Tcp.Server)
          (Arp.Flight (Fin 3)), states 0 = Option.get _ h ∧
        ∀ i, ∃ event, inTurnRoomy (states i) event ∧
          (threeBytesTransfer.calls.lan readmeNetwork).step (states i) event =
            some (states (i + 1))) ∧
      (Option.get _ h).core.server.written = threeBytesTransfer.file := by
  refine ⟨by decide +kernel, (transfer_completes (fun _ ↦ rfl) (by decide) (by decide)
    (ScheduledSystem.reachable_of_isSome_run _)).1, ((transfer_completes (fun _ ↦ rfl) (by decide)
      (by decide) (ScheduledSystem.reachable_of_isSome_run _)).2
        (quiescent_of_clear ?_ ?_ ?_)).2.2⟩
  · exact ⟨by decide +kernel, by decide +kernel, by decide +kernel, by decide +kernel⟩
  · decide +kernel
  · intro action
    cases action <;> decide +kernel

end Transfer

end NetworkSimulation.Threads
