import NetworkSimulation.Host.Applications
import NetworkSimulation.Threads.Messages

/-!
# Hosts on a local network

The hosts of `Host.Applications`, with their caches and sockets and whatever their programs do, on
the threads of a local network. What they keep over a pool they keep here, over flooding switches
and wires and queues that drop frames: the caches are true (`caches_true_of_threads`), and what
waits in a socket belongs there (`sockets_of_threads`).
-/

set_option autoImplicit false
set_option relaxedAutoImplicit false

namespace NetworkSimulation.Threads

open Stack Library Links Switching

variable {H S : Type*} [DecidableEq H] [DecidableEq S] {net : Topology H S} {hosts : Arp.Hosts H}

/-- The parties are the hosts: a program acts at its host, and a demultiplexer takes frames at its
own. -/
def hostsAttached (hosts : Arp.Hosts H) :
    Attachment H (Host.Running H) (Arp.Flight H) (Host.Action H) (H × IP) where
  parties := Host.parties hosts
  actor := Host.Action.host
  taker := Prod.fst
  frame := Arp.Flight.frame

omit [DecidableEq S] in
/-- A host writes its own address into every frame. -/
theorem sendsOwn_hosts (hmac : ∀ host, net.mac host = (hosts.address host).mac) :
    SendsOwn net (hostsAttached hosts) where
  acts action core later messages hact flight hflight := by
    rw [hmac]
    exact Host.sourceMac_of_act hact flight hflight
  takes receiver core taken later messages htake flight hflight := by
    rw [hmac]
    exact Host.sourceMac_of_take htake flight hflight

/-- The threads of the network of the README, with three hosts on it. -/
def readmeLan : ScheduledSystem
    (Lan readmeNetwork (Host.Running (Fin 3)) (Arp.Flight (Fin 3)))
    (Event readmeNetwork (Host.Action (Fin 3)) (Fin 3 × IP)) :=
  system readmeNetwork (hostsAttached Arp.threeHosts) Host.start

/-! ### What the hosts keep -/

variable {lan : Lan net (Host.Running H) (Arp.Flight H)}

theorem orderly_of_threads
    (h : (system net (hostsAttached hosts) Host.start).Reachable anyThread lan) :
    Host.Orderly hosts lan.core ∧ ∀ flight, lan.InFlight flight → Host.Fits hosts lan.core flight :=
  holds_of_reachable Host.orderly_start Host.keeps_act Host.keeps_take h

/-- Whatever the programs of the hosts do and however the threads run, every entry of a cache is the
true pair of a host, no cache has two entries for one address, and every ARP message on its way
gives the pair of the host that made it. -/
theorem caches_true_of_threads
    (h : (system net (hostsAttached hosts) Host.start).Reachable anyThread lan) :
    (∀ host, ∀ entry ∈ (lan.core.states host).cache, ∃ owner,
      entry.ip = (hosts.address owner).ip ∧ entry.mac = (hosts.address owner).mac) ∧
    (∀ host, ((lan.core.states host).cache.map Arp.ARPEntry.ip).Nodup) ∧
    ∀ flight, lan.InFlight flight → flight.frame.SDUType = MPDU_ARP_TYPE →
      ∃ message, generateARP flight.frame.SDU = some message ∧
        message.senderIp = (hosts.address flight.maker).ip ∧
          message.senderMac = (hosts.address flight.maker).mac := by
  obtain ⟨horderly, hfits⟩ := orderly_of_threads h
  refine ⟨fun host ↦ (horderly.caches host).1, fun host ↦ (horderly.caches host).2, ?_⟩
  intro flight hflight harp
  obtain ⟨message, hmessage, htrue⟩ := (hfits flight hflight).2 harp
  exact ⟨message, hmessage, htrue.senderIp, htrue.senderMac⟩

/-- Host 0 asks for the address of host 2, which is two switches away and answers. -/
theorem caches_true_of_threads_witness :
    ∃ h : (readmeLan.run anyThread readmeLan.init
        [.acts (.asks 0 2), .transmits 0 0,
          .receives (.inr ⟨0, ⟨0, by decide⟩⟩), .queues (.inr ⟨0, ⟨0, by decide⟩⟩),
          .sends 0, .sends 0, .sends 0, .sends 0, .sends 0,
          .receives (.inr ⟨1, ⟨0, by decide⟩⟩), .queues (.inr ⟨1, ⟨0, by decide⟩⟩),
          .sends 1, .sends 1, .sends 1, .sends 1, .sends 1, .sends 1, .sends 1,
          .receives (.inl 2), .queues (.inl 2), .demuxes (2, ⟨0, 0, 0, 0, 0, []⟩),
          .transmits 2 0]).isSome,
      let lan := Option.get _ h
      (∀ host, ∀ entry ∈ (lan.core.states host).cache, ∃ owner,
        entry.ip = (Arp.threeHosts.address owner).ip ∧
          entry.mac = (Arp.threeHosts.address owner).mac) ∧
      (∀ host, ((lan.core.states host).cache.map Arp.ARPEntry.ip).Nodup) ∧
      ∀ flight, lan.InFlight flight → flight.frame.SDUType = MPDU_ARP_TYPE →
        ∃ message, generateARP flight.frame.SDU = some message ∧
          message.senderIp = (Arp.threeHosts.address flight.maker).ip ∧
            message.senderMac = (Arp.threeHosts.address flight.maker).mac :=
  ⟨by decide +kernel, caches_true_of_threads (ScheduledSystem.reachable_of_isSome_run _)⟩

/-- Whatever the programs of the hosts do and however the threads run, no host has two sockets, and
every frame that waits in one was made by a host, with its address as the source, was accepted by
the host of the socket, and is for the socket; a socket never has more of them than its queue may
hold. -/
theorem sockets_of_threads
    (h : (system net (hostsAttached hosts) Host.start).Reachable anyThread lan) (host : H) :
    (lan.core.states host).openPorts.length ≤ 1 ∧
      ∀ openSocket ∈ (lan.core.states host).openPorts,
        openSocket.rxQueue.queue.length ≤ MAX_QUEUE_LENGTH ∧
          ∀ frame ∈ openSocket.rxQueue.queue,
            (∃ maker, (maker, frame) ∈ lan.core.made ∧
              frame.sourceMac = (hosts.address maker).mac) ∧
            accepts (hosts.address host).mac frame = true ∧
              ∃ packet, IP.generate frame.SDU = some packet ∧ openSocket.socket.IsFor packet := by
  have horderly := (orderly_of_threads h).1
  refine ⟨horderly.single host, fun openSocket hopen ↦ ?_⟩
  have hwaits := horderly.waits host openSocket hopen
  refine ⟨hwaits.length, fun frame hframe ↦ ?_⟩
  obtain ⟨⟨maker, hmade⟩, haccepts, hfor⟩ := hwaits.frames frame hframe
  exact ⟨⟨maker, hmade, horderly.own _ hmade⟩, haccepts, hfor⟩

/-- Host 1 opens a socket, and host 2 sends two datagrams to it, one of them by broadcast. -/
theorem sockets_of_threads_witness :
    ∃ h : (readmeLan.run anyThread readmeLan.init
        [.acts (.opens 1 0 7 IP_PROTOCOL_UDP),
          .acts (.sends 2 (IP.encapUDP ⟨12, 0, 0, 2, 1, []⟩ ⟨3, 7, 10, 0, [1, 2]⟩)
            [0, 0, 0, 0, 0, 1]),
          .acts (.sends 2 (IP.encapUDP ⟨12, 0, 0, 2, 1, []⟩ ⟨3, 7, 9, 0, [5]⟩)
            [255, 255, 255, 255, 255, 255]),
          .transmits 2 1, .receives (.inr ⟨1, ⟨2, by decide⟩⟩), .queues (.inr ⟨1, ⟨2, by decide⟩⟩),
          .transmits 2 0, .receives (.inr ⟨1, ⟨2, by decide⟩⟩), .queues (.inr ⟨1, ⟨2, by decide⟩⟩),
          .sends 1, .sends 1, .sends 1, .sends 1, .sends 1, .sends 1, .sends 1,
          .sends 1, .receives (.inl 1), .queues (.inl 1),
          .sends 1, .sends 1, .sends 1, .sends 1, .sends 1, .sends 1, .receives (.inl 1),
          .queues (.inl 1),
          .demuxes (1, ⟨0, 0, 0, 0, 0, []⟩), .demuxes (1, ⟨0, 0, 0, 0, 0, []⟩)]).isSome,
      let states := (Option.get _ h).core.states
      let made := (Option.get _ h).core.made
      (states 1).openPorts.length ≤ 1 ∧
        ∀ openSocket ∈ (states 1).openPorts,
          openSocket.rxQueue.queue.length ≤ MAX_QUEUE_LENGTH ∧
            ∀ frame ∈ openSocket.rxQueue.queue,
              (∃ maker, (maker, frame) ∈ made ∧
                frame.sourceMac = (Arp.threeHosts.address maker).mac) ∧
              accepts (Arp.threeHosts.address 1).mac frame = true ∧
                ∃ packet, IP.generate frame.SDU = some packet ∧
                  openSocket.socket.IsFor packet :=
  ⟨by decide +kernel, sockets_of_threads (ScheduledSystem.reachable_of_isSome_run _) 1⟩

end NetworkSimulation.Threads
