import NetworkSimulation.Threads.Transfers
import NetworkSimulation.Udp.Parties

/-!
# A file over the network without a connection

`UDP_client` on one host of a network sends a file to `UDP_server` on another. Nobody asks for what
is lost: the bytes that the server writes are bytes of the file, in their order, whatever the
threads drop (`bytes_of_datagrams`). If nothing overflows, the calls come to an end, and the whole
file has been written exactly when the end marker stands at the end of no full segment
(`datagrams_complete_iff`).
-/

set_option autoImplicit false
set_option relaxedAutoImplicit false

namespace NetworkSimulation.Threads

open Stack Library Links Switching

variable {H S : Type*}

/-- A call of `UDP_client` at one host and of `UDP_server` at another, the file to send, and the
values that uninitialised members have. -/
structure Datagrams (H : Type*) extends Correspondents H where
  thisPort : UInt16
  destPort : UInt16
  file : List UInt8
  fileSegment : UDP
  clientPacket : IP

namespace Datagrams

variable (datagrams : Datagrams H)

/-- The two calls, with the addresses of their hosts. -/
def session : Udp.Session where
  mac := (datagrams.hosts.address datagrams.clientHost).mac
  ip := (datagrams.hosts.address datagrams.clientHost).ip
  thisPort := datagrams.thisPort
  destIp := (datagrams.hosts.address datagrams.serverHost).ip
  destPort := datagrams.destPort
  destMac := datagrams.destMac
  file := datagrams.file
  fileSegment := datagrams.fileSegment
  clientPacket := datagrams.clientPacket

/-- The calls on their hosts, each with the socket that it was given. -/
def calls : Calls H Udp.Client Udp.Server where
  hosts := datagrams.hosts
  caches := datagrams.caches
  clientHost := datagrams.clientHost
  serverHost := datagrams.serverHost
  clientSocket := ⟨datagrams.thisPort, IP_PROTOCOL_UDP⟩
  serverSocket := ⟨datagrams.destPort, IP_PROTOCOL_UDP⟩
  client := datagrams.session.UDPClient
  server := Udp.UDPServer
  clientStart := datagrams.session.start
  serverStart := Udp.Server.start

end Datagrams

/-- Three bytes from host 1 to host 2, the last of which is the end marker. -/
def threeBytesDatagrams : Datagrams (Fin 3) where
  toCorrespondents := hostsOneAndTwo
  thisPort := 30000
  destPort := 50000
  file := [7, 8, 0xFF]
  fileSegment := ⟨0, 0, 0, 0, []⟩
  clientPacket := ⟨0, 0, 0, 0, 0, []⟩

variable {net : Topology H S}

/-- A frame with a datagram for the port of a host is meant for its socket. -/
theorem meant_of_isDatagramFrame {source target : H} {sourceMac destinationMac : Mac}
    {destinationPort : UInt16} {frame : MPDU}
    (h : Udp.IsDatagramFrame sourceMac destinationMac destinationPort frame)
    (hsource : sourceMac = net.mac source) (htarget : destinationMac = net.mac target) :
    Meant net source target ⟨destinationPort, IP_PROTOCOL_UDP⟩ frame where
  sourceMac := h.source.trans hsource
  destinationMac := by rw [h.destination, htarget, compareMacs_self]
  reaches := by
    obtain ⟨packet, segment, hpacket, hprotocol, hsegment, hport⟩ := h.segment
    refine ⟨h.type, packet, hpacket, hprotocol, .inr (.inr ⟨rfl, ?_⟩)⟩
    rw [hsegment, Option.map_some, hport]

namespace Datagrams

variable {datagrams : Datagrams H}

/-- The calls can be made on a network of these hosts. -/
theorem suit (hmac : ∀ host, net.mac host = (datagrams.hosts.address host).mac)
    (hfile : datagrams.file ≠ []) : datagrams.calls.Suit net where
  mac := hmac
  ne := datagrams.ne
  silent := rfl
  frames d hd := by
    have hlossy : datagrams.session.connection.Reachable (Duplex.inOrderKeeping False) d :=
      hd.mono fun _ _ hguard ↦ ⟨hguard, False.elim⟩
    obtain ⟨read, waiting, hstreams⟩ := Udp.Session.streams_of_reachable hfile hlossy
    refine ⟨fun frame hframe ↦ meant_of_isDatagramFrame (hstreams.frames frame hframe)
      (hmac _).symm (datagrams.destMac_eq.trans (hmac _).symm), fun frame hframe ↦ ?_⟩
    rw [hstreams.silent] at hframe
    cases hframe

variable [DecidableEq H] [DecidableEq S] [Fintype H] [Fintype S]
  {lan : Lan net (CallState H Udp.Client Udp.Server) (Arp.Flight H)}

/-- Whatever is lost on the wires, in the queues and at the socket, the server writes bytes of the
file in their order. The client counts the bytes of the file in an `int`. -/
theorem bytes_of_datagrams (hmac : ∀ host, net.mac host = (datagrams.hosts.address host).mac)
    (hfile : datagrams.file ≠ []) (_hsize : datagrams.file.length < 2 ^ 31)
    (h : (datagrams.calls.lan net).Reachable inTurn lan) :
    lan.core.server.written.Sublist datagrams.file := by
  have hlossy : (datagrams.calls.lan net).Reachable (inTurnKeeping False) lan :=
    h.mono fun _ _ hguard ↦ ⟨hguard, False.elim⟩
  obtain ⟨d, hd, hrep⟩ := (follows_of_reachable (suit hmac hfile) hlossy).duplex
  obtain ⟨read, waiting, hstreams⟩ := Udp.Session.streams_of_reachable hfile hd
  rw [← hrep.server]
  exact hstreams.written_sublist hfile

theorem bytes_of_datagrams_witness :
    ∃ h : ((threeBytesDatagrams.calls.lan readmeNetwork).run inTurn
        (threeBytesDatagrams.calls.lan readmeNetwork).init
        (List.flatten
          [[.acts .clientActs, .transmits 1 0, .receives (.inr ⟨1, ⟨1, by decide⟩⟩),
              .queues (.inr ⟨1, ⟨1, by decide⟩⟩)],
            List.replicate 8 (.sends 1),
            [.receives (.inl 2), .queues (.inl 2), .demuxes (2, ⟨0, 0, 0, 0, 0, []⟩),
              .acts .serverGets]])).isSome,
      (Option.get _ h).core.server.written.Sublist threeBytesDatagrams.file :=
  ⟨by decide +kernel, bytes_of_datagrams (fun _ ↦ rfl) (by decide) (by decide)
    (ScheduledSystem.reachable_of_isSome_run _)⟩

/-- Calls in which nothing overflows go on for only so long; and where no thread and no call goes on
any more the server has written the file, and nothing waits in its socket, exactly when the end
marker stands at the end of no full segment. -/
theorem datagrams_complete_iff (hmac : ∀ host, net.mac host = (datagrams.hosts.address host).mac)
    (hfile : datagrams.file ≠ []) (_hsize : datagrams.file.length < 2 ^ 31)
    (h : (datagrams.calls.lan net).Reachable inTurnRoomy lan) :
    (¬ ∃ states : ℕ → Lan net (CallState H Udp.Client Udp.Server) (Arp.Flight H), states 0 = lan ∧
        ∀ i, ∃ event, inTurnRoomy (states i) event ∧
          (datagrams.calls.lan net).step (states i) event = some (states (i + 1))) ∧
      ((datagrams.calls.lan net).Quiescent anyThread lan →
        (lan.core.server = ⟨datagrams.file, true⟩ ∧ lan.core.inbox datagrams.serverHost = [] ↔
          Udp.MarkerFree Udp.maximumPayloadBytes datagrams.file)) := by
  have hsuit : datagrams.calls.Suit net := suit hmac hfile
  constructor
  · have hranks : ∀ (d : Duplex Udp.Client Udp.Server MPDU MPDU) work event d',
        datagrams.session.work d = work → Duplex.losslessInOrder d event →
          datagrams.calls.duplex.step d event = some d' →
            ∃ less < work, datagrams.session.work d' = less := by
      rintro d work event d' rfl hguard hstep
      exact ⟨_, Udp.Session.work_lt hguard hstep, rfl⟩
    exact not_exists_infiniteRun hranks hsuit rfl h
  · intro hquiet
    have hfollows : Follows datagrams.calls True lan := follows_of_reachable hsuit
      (h.mono fun _ _ hguard ↦ ⟨hguard.1, fun _ ↦ hguard.2⟩)
    obtain ⟨d, hd, hrep⟩ := hfollows.duplex
    obtain ⟨read, waiting, hstreams⟩ := Udp.Session.streams_of_reachable hfile hd
    have hinbox : d.toServer = lan.core.inbox datagrams.serverHost :=
      hrep.up.eq_inbox (hfollows.delivered_of_quiescent hsuit hquiet hsuit.ne)
        ((silent_of_quiescent hquiet).1 _)
    rw [← hinbox, ← hrep.server]
    exact hstreams.complete_iff hfile (hfollows.quiescent hsuit hrep hquiet)

/-- The frame is flooded, and the bytes are written, the last of which only looks like an end
marker. -/
theorem datagrams_complete_iff_witness :
    ∃ h : ((threeBytesDatagrams.calls.lan readmeNetwork).run inTurnRoomy
        (threeBytesDatagrams.calls.lan readmeNetwork).init
        (List.flatten
          [[.acts .clientActs, .transmits 1 0, .receives (.inr ⟨1, ⟨1, by decide⟩⟩),
              .queues (.inr ⟨1, ⟨1, by decide⟩⟩)],
            List.replicate 8 (.sends 1),
            [.receives (.inr ⟨0, ⟨1, by decide⟩⟩), .queues (.inr ⟨0, ⟨1, by decide⟩⟩)],
            List.replicate 6 (.sends 0),
            [.receives (.inl 0), .queues (.inl 0), .demuxes (0, ⟨0, 0, 0, 0, 0, []⟩),
              .receives (.inl 2), .queues (.inl 2), .demuxes (2, ⟨0, 0, 0, 0, 0, []⟩),
              .acts .serverGets]])).isSome,
      (¬ ∃ states : ℕ → Lan readmeNetwork (CallState (Fin 3) Udp.Client Udp.Server)
          (Arp.Flight (Fin 3)), states 0 = Option.get _ h ∧
        ∀ i, ∃ event, inTurnRoomy (states i) event ∧
          (threeBytesDatagrams.calls.lan readmeNetwork).step (states i) event =
            some (states (i + 1))) ∧
      (Option.get _ h).core.server = ⟨threeBytesDatagrams.file, true⟩ ∧
        (Option.get _ h).core.inbox 2 = [] := by
  refine ⟨by decide +kernel, (datagrams_complete_iff (fun _ ↦ rfl) (by decide) (by decide)
    (ScheduledSystem.reachable_of_isSome_run _)).1, ((datagrams_complete_iff (fun _ ↦ rfl)
      (by decide) (by decide) (ScheduledSystem.reachable_of_isSome_run _)).2
        (quiescent_of_clear ?_ ?_ ?_)).mpr (Udp.markerFree_of_length_le (by decide))⟩
  · exact ⟨by decide +kernel, by decide +kernel, by decide +kernel, by decide +kernel⟩
  · decide +kernel
  · intro action
    cases action <;> decide +kernel

end Datagrams

end NetworkSimulation.Threads
