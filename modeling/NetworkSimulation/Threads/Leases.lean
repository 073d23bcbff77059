import NetworkSimulation.Dhcp.Agreement
import NetworkSimulation.Links.WorkQueue
import NetworkSimulation.Switching.Learning
import NetworkSimulation.Threads.Messages

/-!
# Addresses over the network

Hosts of a network call `DHCP_client`, and one of its devices is the gateway. On the way from the
network to the two functions there are more queues: what the demultiplexer of a host accepts waits
in the socket of the call, and what `Gateway::run` passes on waits in the queue of the DHCP server.
They change nothing for the agreement of the clients with the server (`leases_of_threads`): what
waits in them is something that a client or the server has sent, and its reader is still one that
takes it.

The DHCP server transmits without `send_MPDU` and does not sleep before it; here what it transmits
may wait like what the hosts send.
-/

set_option autoImplicit false
set_option relaxedAutoImplicit false

namespace NetworkSimulation.Threads

open Stack Library Links Switching

variable {H S : Type*}

/-- The table of the server and the clients, what the gateway has passed to the server, and what
waits in the socket of each client. -/
structure Leasing (H : Type*) where
  parties : Dhcp.Parties H
  dhcpQueue : WorkQueue MPDU
  rxQueues : H → WorkQueue MPDU

/-- A host calls `DHCP_client`, its call goes on with the frame that `get_frame` returns, or the
server goes on with the next frame of its queue; `uninitialised` is the value of the member nobody
has written. -/
inductive LeasingAction (H : Type*)
  | begins (host : H)
  | gets (host : H)
  | serves (uninitialised : UInt32)

section Parties

variable (net : Topology H S) (gateway : H) (gwIp : UInt32)

/-- The addresses of the hosts. -/
def hostMacs : Dhcp.ClientMacs H where
  mac := net.mac
  distinct _ _ h := Topology.eq_of_compareMacs (compareMacs_self _) h
  not_broadcast := net.not_broadcast

/-- The server of the gateway. -/
def dhcpServer : Dhcp.DHCPServer := ⟨net.mac gateway, gwIp⟩

variable [DecidableEq H]

def leasingParties : Pool.Parties (Leasing H) MPDU (LeasingAction H) H where
  act
    | .begins host, core =>
      if host = gateway then none
      else
        ((Dhcp.parties (hostMacs net) (dhcpServer net gateway gwIp)).act host core.parties).map
          fun acted ↦
            ({ core with
                parties := acted.1
                rxQueues := Function.update core.rxQueues host (.new MPDU MAX_QUEUE_LENGTH) },
              acted.2)
    | .gets host, core =>
      match (core.rxQueues host).queue with
      | [] => none
      | rxFrame :: _ =>
        ((core.parties.clients host).receive (net.mac host) rxFrame).map fun taken ↦
          ({ core with
              parties :=
                { core.parties with clients := Function.update core.parties.clients host taken.1 }
              rxQueues := Function.update core.rxQueues host (core.rxQueues host).takeFront },
            taken.2)
    | .serves uninitialised, core =>
      match core.dhcpQueue.queue with
      | [] => none
      | rxFrame :: _ =>
        ((dhcpServer net gateway gwIp).process core.parties.table uninitialised rxFrame).map
          fun processed ↦
            ({ core with
                parties :=
                  { core.parties with
                    table := processed.1, replies := core.parties.replies ++ processed.2 }
                dhcpQueue := core.dhcpQueue.takeFront },
              processed.2)
  take host core rxFrame :=
    if host = gateway then
      (Dhcp.passes rxFrame).map fun passed ↦
        (if passed then { core with dhcpQueue := core.dhcpQueue.add rxFrame } else core, [])
    else if accepts (net.mac host) rxFrame then
      match processFrame (core.parties.clients host).openPorts rxFrame with
      | none => none
      | some (.sockets [_]) =>
        some ({ core with
          rxQueues := Function.update core.rxQueues host ((core.rxQueues host).add rxFrame) }, [])
      | some _ => some (core, [])
    else some (core, [])

/-- Before any call; `uninitialised` is what the local variables of the calls happen to hold. -/
def leasingStart (uninitialised : H → Dhcp.Client) : Leasing H where
  parties := ⟨[], [], fun host ↦ { uninitialised host with point := .start }⟩
  dhcpQueue := .new MPDU MAX_QUEUE_LENGTH
  rxQueues _ := .new MPDU MAX_QUEUE_LENGTH

def leasingAttached : Attachment H (Leasing H) MPDU (LeasingAction H) H where
  parties := leasingParties net gateway gwIp
  actor
    | .begins host | .gets host => host
    | .serves _ => gateway
  taker := id
  frame := id

/-- The network with the clients and the gateway on it. -/
def leasingLan [DecidableEq S] (uninitialised : H → Dhcp.Client) :
    ScheduledSystem (Lan net (Leasing H) MPDU) (Event net (LeasingAction H) H) :=
  system net (leasingAttached net gateway gwIp) (leasingStart uninitialised)

end Parties

/-! ### What waits in the queues -/

variable {net : Topology H S} {gateway : H} {gwIp : UInt32}

/-- What waits has been sent by a client or by the server, and its reader will still take it. -/
structure Waiting (net : Topology H S) (core : Leasing H) : Prop where
  agreed : Dhcp.Agreed (hostMacs net) core.parties
  passed : ∀ frame ∈ core.dhcpQueue.queue,
    Dhcp.Honest (hostMacs net) core.parties frame ∧ Dhcp.passes frame = some true
  accepted : ∀ host, ∀ frame ∈ (core.rxQueues host).queue,
    Dhcp.Honest (hostMacs net) core.parties frame ∧ accepts (net.mac host) frame = true ∧
      ∃ socket, processFrame [Dhcp.dhcpSocket] frame = some (.sockets [socket])

/-- A frame on its way has been sent by a client or by the server. -/
def Sent (net : Topology H S) (core : Leasing H) (frame : MPDU) : Prop :=
  Dhcp.Honest (hostMacs net) core.parties frame

theorem mem_of_mem_add {queue : WorkQueue MPDU} {frame item : MPDU}
    (h : item ∈ (queue.add frame).queue) : item ∈ queue.queue ∨ item = frame := by
  rw [WorkQueue.add] at h
  split_ifs at h with hfull hwaiting
  · exact .inl h
  · exact (List.mem_append.mp h).imp_right List.mem_singleton.mp
  · exact (List.mem_append.mp h).imp_right List.mem_singleton.mp

/-- The queues when a client or the server has gone on. -/
theorem Waiting.of_keeps {core : Leasing H} (h : Waiting net core) {parties : Dhcp.Parties H}
    {frames : List MPDU}
    (hkeeps : Pool.Parties.Keeps (Dhcp.Agreed (hostMacs net)) (Dhcp.Honest (hostMacs net))
      core.parties (parties, frames)) {dhcpQueue : WorkQueue MPDU} {rxQueues : H → WorkQueue MPDU}
    (hdhcp : ∀ frame ∈ dhcpQueue.queue, frame ∈ core.dhcpQueue.queue)
    (hrx : ∀ host, ∀ frame ∈ (rxQueues host).queue, frame ∈ (core.rxQueues host).queue) :
    Pool.Parties.Keeps (Waiting net) (Sent net) core (⟨parties, dhcpQueue, rxQueues⟩, frames) := by
  obtain ⟨hagreed, hlater, hsent⟩ := hkeeps
  refine ⟨⟨hagreed, fun frame hframe ↦ ?_, fun host frame hframe ↦ ?_⟩, hlater, hsent⟩
  · exact (h.passed frame (hdhcp frame hframe)).imp_left (hlater frame)
  · exact (h.accepted host frame (hrx host frame hframe)).imp_left (hlater frame)

/-- A client that goes on with a frame has its socket open. -/
theorem openPorts_of_receive {mac : Mac} {client : Dhcp.Client} {frame : MPDU}
    {outcome : Dhcp.Client × List MPDU} (h : client.receive mac frame = some outcome) :
    client.openPorts = [Dhcp.dhcpSocket] := by
  rw [Dhcp.Client.receive] at h
  rw [Dhcp.Client.openPorts]
  cases hsegment : frame.udpSegment with
  | none => simp [hsegment] at h
  | some segment => cases hpoint : client.point <;> simp_all

section Steps

variable [DecidableEq H]

theorem keeps_leasing_act (action : LeasingAction H) (core : Leasing H)
    (outcome : Leasing H × List MPDU) (hwaiting : Waiting net core)
    (h : (leasingParties net gateway gwIp).act action core = some outcome) :
    Pool.Parties.Keeps (Waiting net) (Sent net) core outcome := by
  rw [leasingParties] at h
  cases action with
  | begins host =>
    dsimp only at h
    split_ifs at h
    obtain ⟨acted, hacts, rfl⟩ := Option.map_eq_some_iff.mp h
    refine hwaiting.of_keeps (Dhcp.keeps_act host core.parties acted hwaiting.agreed hacts)
      (fun _ hframe ↦ hframe) fun other frame hframe ↦ ?_
    -- the call creates its socket
    rcases eq_or_ne other host with rfl | hother
    · rw [Function.update_self] at hframe
      cases hframe
    · rwa [Function.update_of_ne hother] at hframe
  | gets host =>
    dsimp only at h
    cases hqueue : (core.rxQueues host).queue with
    | nil => simp [hqueue] at h
    | cons frame rest =>
      simp only [hqueue] at h
      obtain ⟨taken, hreceive, rfl⟩ := Option.map_eq_some_iff.mp h
      obtain ⟨hhonest, haccepts, socket, hsocket⟩ :=
        hwaiting.accepted host frame (by rw [hqueue]; exact List.mem_cons_self ..)
      have htakes : (Dhcp.parties (hostMacs net) (dhcpServer net gateway gwIp)).take (.client host)
          core.parties frame = some ({ core.parties with
            clients := Function.update core.parties.clients host taken.1 }, taken.2) := by
        rw [Dhcp.parties]
        dsimp only
        rw [if_pos (show accepts ((hostMacs net).mac host) frame = true from haccepts),
          Dhcp.Client.takeFrame, openPorts_of_receive hreceive, hsocket]
        exact congrArg (Option.map _) hreceive
      refine hwaiting.of_keeps (Dhcp.keeps_take_client hwaiting.agreed hhonest htakes)
        (fun _ hframe ↦ hframe) fun other later hlater ↦ ?_
      rcases eq_or_ne other host with rfl | hother
      · rw [Function.update_self, WorkQueue.takeFront, hqueue] at hlater
        rw [hqueue]
        exact List.mem_cons_of_mem _ hlater
      · rwa [Function.update_of_ne hother] at hlater
  | serves uninitialised =>
    dsimp only at h
    cases hqueue : core.dhcpQueue.queue with
    | nil => simp [hqueue] at h
    | cons frame rest =>
      simp only [hqueue] at h
      obtain ⟨processed, hprocess, rfl⟩ := Option.map_eq_some_iff.mp h
      obtain ⟨hhonest, hpasses⟩ :=
        hwaiting.passed frame (by rw [hqueue]; exact List.mem_cons_self ..)
      have htakes : (Dhcp.parties (hostMacs net) (dhcpServer net gateway gwIp)).take
          (.server uninitialised) core.parties frame = some ({ core.parties with
            table := processed.1, replies := core.parties.replies ++ processed.2 },
              processed.2) := by
        rw [Dhcp.parties]
        dsimp only
        rw [hpasses]
        exact congrArg (Option.map _) hprocess
      refine hwaiting.of_keeps (Dhcp.keeps_take_server hwaiting.agreed hhonest htakes)
        (fun later hlater ↦ ?_) fun _ _ hframe ↦ hframe
      rw [WorkQueue.takeFront, hqueue] at hlater
      rw [hqueue]
      exact List.mem_cons_of_mem _ hlater

theorem keeps_leasing_take (host : H) (core : Leasing H) (frame : MPDU)
    (outcome : Leasing H × List MPDU) (hwaiting : Waiting net core) (hsent : Sent net core frame)
    (h : (leasingParties net gateway gwIp).take host core frame = some outcome) :
    Pool.Parties.Keeps (Waiting net) (Sent net) core outcome := by
  have hsame : Pool.Parties.Keeps (Waiting net) (Sent net) core (core, []) :=
    ⟨hwaiting, fun _ hframe ↦ hframe, List.forall_mem_nil _⟩
  rw [leasingParties] at h
  dsimp only at h
  split_ifs at h with hgateway haccepts
  · obtain ⟨passed, hpasses, rfl⟩ := Option.map_eq_some_iff.mp h
    cases passed with
    | false => exact hsame
    | true =>
      refine ⟨⟨hwaiting.agreed, fun item hitem ↦ ?_, hwaiting.accepted⟩, fun _ hframe ↦ hframe,
        List.forall_mem_nil _⟩
      rcases mem_of_mem_add hitem with hbefore | rfl
      · exact hwaiting.passed item hbefore
      · exact ⟨hsent, hpasses⟩
  · split at h
    · cases h
    · next socket hsocket =>
      obtain rfl := Option.some.inj h
      refine ⟨⟨hwaiting.agreed, hwaiting.passed, fun other item hitem ↦ ?_⟩, fun _ hframe ↦ hframe,
        List.forall_mem_nil _⟩
      dsimp only at hitem
      rcases eq_or_ne other host with rfl | hother
      · rw [Function.update_self] at hitem
        rcases mem_of_mem_add hitem with hbefore | rfl
        · exact hwaiting.accepted other item hbefore
        · have hopen : (core.parties.clients other).openPorts = [Dhcp.dhcpSocket] := by
            have hmem := (isFor_of_processFrame hsocket (List.mem_singleton_self _)).1
            rw [Dhcp.Client.openPorts] at hmem ⊢
            cases hpoint : (core.parties.clients other).point <;> simp_all
          exact ⟨hsent, haccepts, socket, hopen ▸ hsocket⟩
      · rw [Function.update_of_ne hother] at hitem
        exact hwaiting.accepted other item hitem
    · obtain rfl := Option.some.inj h
      exact hsame
  · obtain rfl := Option.some.inj h
    exact hsame

/-- However the threads run and whatever they drop, a host whose call of `DHCP_client` has returned
has the address that the table of the gateway holds for it, the table lists no host twice, and no
host was ever sent a NACK. -/
theorem leases_of_threads [DecidableEq S] {uninitialised : H → Dhcp.Client}
    {lan : Lan net (Leasing H) MPDU}
    (h : (leasingLan net gateway gwIp uninitialised).Reachable anyThread lan) :
    (∀ host, (lan.core.parties.clients host).point = .returned →
      ∃ entry ∈ lan.core.parties.table, compareMacs (net.mac host) entry.mac = true ∧
        entry.ip = (lan.core.parties.clients host).ip) ∧
    (lan.core.parties.table.Pairwise fun first second ↦
      compareMacs first.mac second.mac = false) ∧
    ∀ reply ∈ lan.core.parties.replies, ∀ message, Dhcp.dhcpMessage reply = some message →
      message.opcode ≠ Dhcp.DHCP_NACK := by
  have hstart : Waiting net (leasingStart uninitialised) :=
    ⟨⟨⟨List.forall_mem_nil _, .nil⟩, fun _ hpoint ↦ (by cases hpoint),
      fun _ hpoint ↦ (by cases hpoint), List.forall_mem_nil _⟩, List.forall_mem_nil _,
      fun _ ↦ List.forall_mem_nil _⟩
  have hholds := holds_of_reachable hstart keeps_leasing_act keeps_leasing_take h
  obtain ⟨hsound, -, hreturned, hgranted⟩ := hholds.1.agreed
  exact ⟨hreturned, hsound.distinct, hgranted⟩

end Steps

/-- The gateway is host 2, two switches away from host 0, which gets its address. -/
theorem leases_of_threads_witness :
    ∃ h : ((leasingLan readmeNetwork 2 (createIp 123 123 123 123) fun _ ↦ Dhcp.blankClient).run
        anyThread (leasingLan readmeNetwork 2 (createIp 123 123 123 123)
          fun _ ↦ Dhcp.blankClient).init
        (List.flatten
          [[.acts (.begins 0), .transmits 0 0,
              .receives (.inr ⟨0, ⟨0, by decide⟩⟩), .queues (.inr ⟨0, ⟨0, by decide⟩⟩)],
            List.replicate 6 (.sends 0),
            [.receives (.inr ⟨1, ⟨0, by decide⟩⟩), .queues (.inr ⟨1, ⟨0, by decide⟩⟩)],
            List.replicate 8 (.sends 1),
            [.receives (.inl 2), .queues (.inl 2), .demuxes 2, .acts (.serves 5), .transmits 2 0,
              .receives (.inr ⟨1, ⟨2, by decide⟩⟩), .queues (.inr ⟨1, ⟨2, by decide⟩⟩)],
            List.replicate 4 (.sends 1),
            [.receives (.inr ⟨0, ⟨1, by decide⟩⟩), .queues (.inr ⟨0, ⟨1, by decide⟩⟩)],
            List.replicate 4 (.sends 0),
            [.receives (.inl 0), .queues (.inl 0), .demuxes 0, .acts (.gets 0), .transmits 0 0,
              .receives (.inr ⟨0, ⟨0, by decide⟩⟩), .queues (.inr ⟨0, ⟨0, by decide⟩⟩)],
            List.replicate 6 (.sends 0),
            [.receives (.inr ⟨1, ⟨0, by decide⟩⟩), .queues (.inr ⟨1, ⟨0, by decide⟩⟩)],
            List.replicate 8 (.sends 1),
            [.receives (.inl 2), .queues (.inl 2), .demuxes 2, .acts (.serves 7), .transmits 2 0,
              .receives (.inr ⟨1, ⟨2, by decide⟩⟩), .queues (.inr ⟨1, ⟨2, by decide⟩⟩)],
            List.replicate 4 (.sends 1),
            [.receives (.inr ⟨0, ⟨1, by decide⟩⟩), .queues (.inr ⟨0, ⟨1, by decide⟩⟩)],
            List.replicate 4 (.sends 0),
            [.receives (.inl 0), .queues (.inl 0), .demuxes 0, .acts (.gets 0)]])).isSome,
      let parties := (Option.get _ h).core.parties
      (parties.clients 0).point = .returned ∧
        (∀ host, (parties.clients host).point = .returned →
          ∃ entry ∈ parties.table, compareMacs (readmeNetwork.mac host) entry.mac = true ∧
            entry.ip = (parties.clients host).ip) ∧
        (parties.table.Pairwise fun first second ↦ compareMacs first.mac second.mac = false) ∧
        ∀ reply ∈ parties.replies, ∀ message, Dhcp.dhcpMessage reply = some message →
          message.opcode ≠ Dhcp.DHCP_NACK :=
  ⟨by decide +kernel, by decide +kernel,
    leases_of_threads (ScheduledSystem.reachable_of_isSome_run _)⟩

end NetworkSimulation.Threads
