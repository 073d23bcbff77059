import NetworkSimulation.Library.RelayedDuplex
import NetworkSimulation.Switching.Conversations
import NetworkSimulation.Threads.Delivery

/-!
# Two calls on a local network

Two hosts of a local network run one call each, with a socket of its own that is open: a client, and
a server that answers it. The calls are parties of a `Duplex`; here what they send is transmitted,
flooded and queued by the threads of the network, passed to `process_frame`, and read from the
socket. The other hosts only receive.

The pair of calls over the network is the pair of calls over two channels (`follows_of_reachable`):
what is in flight in a channel is what waits in the socket, what the switches carry, and what the
host has not transmitted. The channels keep the order, and drop what the threads have dropped. No
condition on the switches is needed, since a server that only answers is never sent back a frame.

A host transmits the frames of its call in the order they were made (`inTurn`), since `send_MPDU`
returns when the frame has been transmitted.
-/

set_option autoImplicit false
set_option relaxedAutoImplicit false

namespace NetworkSimulation.Threads

open Stack Library Links Switching

variable {H S σ τ : Type*}

/-- A call at each of two hosts, the socket of each call, and the caches of the hosts. -/
structure Calls (H σ τ : Type*) where
  hosts : Arp.Hosts H
  caches : H → Arp.ARPCache
  clientHost : H
  serverHost : H
  clientSocket : Socket
  serverSocket : Socket
  client : Party σ MPDU MPDU
  server : Party τ MPDU MPDU
  clientStart : σ
  serverStart : τ

/-- The hosts, and the variables of the two calls. -/
structure CallState (H σ τ : Type*) where
  running : Host.Running H
  client : σ
  server : τ

/-- A call goes on by itself, or with the frame that `get_frame` returns. -/
inductive CallAction
  | clientActs
  | serverActs
  | clientGets
  | serverGets
  deriving DecidableEq

/-- The frames that wait in the sockets of a host. -/
def CallState.inbox (core : CallState H σ τ) (host : H) : List MPDU :=
  (core.running.states host).openPorts.flatMap fun openSocket ↦ openSocket.rxQueue.queue

section Parties

variable [DecidableEq H] (calls : Calls H σ τ)

/-- `get_frame` on the socket of a call, which waits until there is a frame. -/
def CallState.getFrame (core : CallState H σ τ) (host : H) : Option (MPDU × Host.Running H) :=
  match (core.running.states host).openPorts with
  | [openSocket] =>
    match openSocket.rxQueue.queue with
    | [] => none
    | frame :: _ =>
      some (frame, core.running.withSockets host
        [{ openSocket with rxQueue := openSocket.rxQueue.takeFront }])
  | _ => none

def Calls.parties :
    Pool.Parties (CallState H σ τ) (Arp.Flight H) CallAction (H × IP) where
  act
    | .clientActs, core =>
      (calls.client.act core.client).map fun acted ↦
        let sent := acted.2.toList
        ({ core with client := acted.1, running := core.running.making calls.clientHost sent },
          sent.map fun frame ↦ ⟨calls.clientHost, 0, frame⟩)
    | .serverActs, core =>
      (calls.server.act core.server).map fun acted ↦
        let sent := acted.2.toList
        ({ core with server := acted.1, running := core.running.making calls.serverHost sent },
          sent.map fun frame ↦ ⟨calls.serverHost, 0, frame⟩)
    | .clientGets, core =>
      (core.getFrame calls.clientHost).bind fun read ↦
        (calls.client.take core.client read.1).map fun client ↦
          ({ core with client, running := read.2 }, [])
    | .serverGets, core =>
      (core.getFrame calls.serverHost).bind fun read ↦
        (calls.server.take core.server read.1).map fun server ↦
          ({ core with server, running := read.2 }, [])
  take receiver core flight :=
    ((Host.parties calls.hosts).take receiver core.running flight).map fun outcome ↦
      ({ core with running := outcome.1 }, outcome.2)

/-- The sockets are open and empty. -/
def Calls.openPorts (host : H) : List Host.OpenSocket :=
  if host = calls.clientHost then [⟨calls.clientSocket, .new MPDU MAX_QUEUE_LENGTH⟩]
  else if host = calls.serverHost then [⟨calls.serverSocket, .new MPDU MAX_QUEUE_LENGTH⟩]
  else []

def Calls.start : CallState H σ τ where
  running := ⟨fun host ↦ ⟨calls.caches host, calls.openPorts host⟩, []⟩
  client := calls.clientStart
  server := calls.serverStart

def Calls.attached : Attachment H (CallState H σ τ) (Arp.Flight H) CallAction (H × IP) where
  parties := calls.parties
  actor
    | .clientActs | .clientGets => calls.clientHost
    | .serverActs | .serverGets => calls.serverHost
  taker := Prod.fst
  frame := Arp.Flight.frame

/-- The network with the two calls on it. -/
def Calls.lan [DecidableEq S] (net : Topology H S) :
    ScheduledSystem (Lan net (CallState H σ τ) (Arp.Flight H)) (Event net CallAction (H × IP)) :=
  system net calls.attached calls.start

end Parties

/-- The calls over two channels. -/
def Calls.duplex (calls : Calls H σ τ) :
    ScheduledSystem (Duplex σ τ MPDU MPDU) Duplex.Event :=
  Duplex.system calls.client calls.server calls.clientStart calls.serverStart

/-! ### Guards -/

section Guards

variable {net : Topology H S} {μ α β : Type*}

/-- A host transmits what its call has sent in the order it was sent in. -/
def inTurn (_ : Lan net σ μ) : Event net α β → Prop
  | .transmits _ position => position = 0
  | _ => True

instance (lan : Lan net σ μ) : ∀ event : Event net α β, Decidable (inTurn lan event)
  | .transmits _ position => inferInstanceAs (Decidable (position = 0))
  | .acts _ | .receives _ | .queues _ | .demuxes _ | .sends _ => .isTrue trivial

/-- The sockets of a host that processes a frame have room. -/
def socketsRoomy (lan : Lan net (CallState H σ τ) μ) : Event net α (H × IP) → Prop
  | .demuxes receiver =>
    ∀ openSocket ∈ (lan.core.running.states receiver.1).openPorts, openSocket.HasRoom
  | _ => True

instance (lan : Lan net (CallState H σ τ) μ) :
    ∀ event : Event net α (H × IP), Decidable (socketsRoomy lan event)
  | .demuxes receiver => inferInstanceAs (Decidable
      (∀ openSocket ∈ (lan.core.running.states receiver.1).openPorts, openSocket.HasRoom))
  | .acts _ | .transmits _ _ | .receives _ | .queues _ | .sends _ => .isTrue trivial

/-- And no wire and no queue overflows. -/
def inTurnRoomy (lan : Lan net (CallState H σ τ) μ) (event : Event net α (H × IP)) : Prop :=
  inTurn lan event ∧ roomy lan event ∧ socketsRoomy lan event

instance (lan : Lan net (CallState H σ τ) μ) (event : Event net α (H × IP)) :
    Decidable (inTurnRoomy lan event) :=
  inferInstanceAs (Decidable (_ ∧ _ ∧ _))

end Guards

/-! ### One direction -/

variable {net : Topology H S} {kept : Prop}

/-- A frame from one host to another that reaches a socket. -/
structure Meant (net : Topology H S) (source target : H) (socket : Socket) (frame : MPDU) :
    Prop where
  sourceMac : frame.sourceMac = net.mac source
  destinationMac : compareMacs frame.destinationMac (net.mac target) = true
  reaches : Host.Reaches socket frame

/-- The host that accepts a frame is the one it is meant for. -/
theorem Meant.eq_of_accepts {source target host : H} {socket : Socket} {frame : MPDU}
    (h : Meant net source target socket frame) (haccepts : accepts (net.mac host) frame = true) :
    host = target := by
  rcases (Bool.or_eq_true _ _).mp haccepts with hmac | hbroadcast
  · exact Topology.eq_of_compareMacs hmac h.destinationMac
  · rw [isBroadcast_eq_of_compareMacs h.destinationMac, net.not_broadcast] at hbroadcast
    cases hbroadcast

theorem Meant.between {source target : H} {socket : Socket} {copy : Copy}
    (h : Meant net source target socket copy.frame) :
    Switching.between net source target copy = true :=
  between_eq_true_iff.mpr ⟨h.sourceMac, (Bool.or_eq_true _ _).mpr (.inl h.destinationMac)⟩

variable [DecidableEq H] [DecidableEq S] {lan next : Lan net (CallState H σ τ) (Arp.Flight H)}

omit [DecidableEq S] in
theorem sentBetween_congr (hsent : next.sent = lan.sent) (source target : H) :
    (next.world Arp.Flight.frame).sentBetween source target =
      (lan.world Arp.Flight.frame).sentBetween source target := by
  unfold World.sentBetween Lan.world
  rw [hsent]

omit [DecidableEq S] in
theorem deliveredBetween_congr (hprocessed : next.processed = lan.processed) (source target : H) :
    (next.world Arp.Flight.frame).deliveredBetween source target =
      (lan.world Arp.Flight.frame).deliveredBetween source target := by
  unfold World.deliveredBetween Lan.world
  rw [hprocessed]

/-- The stages of the channel from one host to another. -/
def Lan.relay (lan : Lan net (CallState H σ τ) (Arp.Flight H)) (source target : H) : Relay MPDU where
  outgoing := (lan.outgoing source).map Arp.Flight.frame
  sent := ((lan.world Arp.Flight.frame).sentBetween source target).map Copy.frame
  delivered := ((lan.world Arp.Flight.frame).deliveredBetween source target).map Copy.frame
  inbox := lan.core.inbox target

/-- The messages in flight in the channel, and the socket that it ends at. -/
structure Direction (kept : Prop) (lan : Lan net (CallState H σ τ) (Arp.Flight H))
    (source target : H) (socket : Socket) (inFlight : List MPDU) : Prop where
  contents : (lan.relay source target).Contents kept inFlight
  ports : ∃ rxQueue, (lan.core.running.states target).openPorts = [⟨socket, rxQueue⟩]

namespace Direction

omit [DecidableEq S]

variable {source target : H} {socket : Socket} {inFlight : List MPDU}

/-- What the channel is made of. -/
theorem congr (h : Direction kept lan source target socket inFlight)
    (houtgoing : next.outgoing source = lan.outgoing source)
    (hsent : (next.world Arp.Flight.frame).sentBetween source target =
      (lan.world Arp.Flight.frame).sentBetween source target)
    (hdelivered : (next.world Arp.Flight.frame).deliveredBetween source target =
      (lan.world Arp.Flight.frame).deliveredBetween source target)
    (hports : (next.core.running.states target).openPorts =
      (lan.core.running.states target).openPorts) :
    Direction kept next source target socket inFlight := by
  have hrelay : next.relay source target = lan.relay source target := by
    rw [Lan.relay, Lan.relay, houtgoing, hsent, hdelivered, CallState.inbox, CallState.inbox, hports]
  exact ⟨hrelay ▸ h.contents, hports ▸ h.ports⟩

/-- The host at the start sends. -/
theorem post (h : Direction kept lan source target socket inFlight)
    {messages : List (Arp.Flight H)} {frames : List MPDU}
    (hframes : messages.map Arp.Flight.frame = frames)
    (houtgoing : next.outgoing source = lan.outgoing source ++ messages)
    (hsent : next.sent = lan.sent) (hprocessed : next.processed = lan.processed)
    (hports : (next.core.running.states target).openPorts =
      (lan.core.running.states target).openPorts) :
    Direction kept next source target socket (inFlight ++ frames) := by
  have hrelay : next.relay source target = { lan.relay source target with
      outgoing := (lan.relay source target).outgoing ++ frames } := by
    rw [Lan.relay, Lan.relay, houtgoing, sentBetween_congr hsent, deliveredBetween_congr hprocessed,
      CallState.inbox, CallState.inbox, hports, List.map_append, hframes]
  exact ⟨hrelay ▸ h.contents.post _, hports ▸ h.ports⟩

/-- It transmits the first of its frames. -/
theorem transmit (h : Direction kept lan source target socket inFlight) {message : Arp.Flight H}
    {rest : List (Arp.Flight H)} {other : Socket}
    (hmeant : Meant net source target other message.frame)
    (hfront : lan.outgoing source = message :: rest) (houtgoing : next.outgoing source = rest)
    (hsent : next.sent = lan.sent ++ [(source, message.frame)])
    (hprocessed : next.processed = lan.processed)
    (hports : (next.core.running.states target).openPorts =
      (lan.core.running.states target).openPorts) :
    Direction kept next source target socket inFlight := by
  have hworld : (next.world Arp.Flight.frame).sent =
      (lan.world Arp.Flight.frame).sent ++ [(source, message.frame)] := hsent
  have hlast : (next.world Arp.Flight.frame).sentBetween source target =
      (lan.world Arp.Flight.frame).sentBetween source target ++
        [⟨lan.sent.length, message.frame⟩] := by
    rw [sentBetween_append hmeant.sourceMac hworld]
    exact congrArg _ (List.filter_cons_of_pos (by exact hmeant.between))
  have hrelay : next.relay source target = { lan.relay source target with
      outgoing := rest.map Arp.Flight.frame
      sent := (lan.relay source target).sent ++ [message.frame] } := by
    rw [Lan.relay, Lan.relay, houtgoing, hlast, deliveredBetween_congr hprocessed, CallState.inbox,
      CallState.inbox, hports, List.map_append]
    rfl
  refine ⟨hrelay ▸ h.contents.transmit ?_, hports ▸ h.ports⟩
  rw [Lan.relay, hfront]
  rfl

/-- The frame at the front of the socket is read. -/
theorem get (h : Direction kept lan source target socket inFlight) {frame : MPDU}
    {running : Host.Running H} (hread : lan.core.getFrame target = some (frame, running))
    (houtgoing : next.outgoing source = lan.outgoing source) (hsent : next.sent = lan.sent)
    (hprocessed : next.processed = lan.processed) (hrunning : next.core.running = running) :
    ∃ back, inFlight = frame :: back ∧ Direction kept next source target socket back := by
  obtain ⟨rxQueue, hports⟩ := h.ports
  rw [CallState.getFrame, hports] at hread
  cases hqueue : rxQueue.queue with
  | nil => simp [hqueue] at hread
  | cons front rest =>
    simp only [hqueue, Option.some.injEq, Prod.mk.injEq] at hread
    obtain ⟨rfl, hread⟩ := hread
    have hafter : (next.core.running.states target).openPorts =
        [⟨socket, rxQueue.takeFront⟩] := by
      rw [hrunning, ← hread, Host.Running.withSockets]
      dsimp only
      rw [Function.update_self]
    have hinbox : lan.core.inbox target = front :: rest := by
      rw [CallState.inbox, hports, List.flatMap_singleton, hqueue]
    have hrelay : next.relay source target = { lan.relay source target with inbox := rest } := by
      rw [Lan.relay, Lan.relay, houtgoing, sentBetween_congr hsent, deliveredBetween_congr hprocessed,
        CallState.inbox, hafter, List.flatMap_singleton, WorkQueue.takeFront, hqueue]
    obtain ⟨back, hback, hcontents⟩ := h.contents.get hinbox
    exact ⟨back, hback, hrelay ▸ hcontents, _, hafter⟩

/-- A frame is delivered, and waits in the socket if it has room. -/
theorem arrive (h : Direction kept lan source target socket inFlight) {copy : Copy}
    (hmeant : Meant net source target socket copy.frame)
    (houtgoing : next.outgoing source = lan.outgoing source) (hsent : next.sent = lan.sent)
    (hprocessed : next.processed = lan.processed ++ [(target, copy)])
    (hports : ∀ openSocket ∈ (lan.core.running.states target).openPorts,
      (next.core.running.states target).openPorts = [openSocket.addFrame copy.frame])
    (hsublist : ((next.world Arp.Flight.frame).deliveredBetween source target).Sublist
      ((next.world Arp.Flight.frame).sentBetween source target))
    (hinitial : kept → (next.world Arp.Flight.frame).deliveredBetween source target <+:
      (next.world Arp.Flight.frame).sentBetween source target) :
    ∃ before dropped after, inFlight = before ++ (dropped ++ after) ∧
      Direction kept next source target socket (before ++ after) ∧
        (kept → (∀ openSocket ∈ (lan.core.running.states target).openPorts, openSocket.HasRoom) →
          dropped = []) := by
  obtain ⟨rxQueue, hopen⟩ := h.ports
  have hafter := hports ⟨socket, rxQueue⟩ (by rw [hopen]; exact List.mem_singleton_self _)
  have hinbox : (lan.relay source target).inbox = rxQueue.queue := by
    rw [Lan.relay, CallState.inbox, hopen, List.flatMap_singleton]
  have haccepts : (accepts (net.mac target) copy.frame) = true :=
    (between_eq_true_iff.mp hmeant.between).2
  have hlast : (next.world Arp.Flight.frame).deliveredBetween source target =
      (lan.world Arp.Flight.frame).deliveredBetween source target ++ [copy] := by
    have hworld : (next.world Arp.Flight.frame).delivered =
        if accepts (net.mac target) copy.frame then
          (lan.world Arp.Flight.frame).delivered ++ [(target, copy)]
        else (lan.world Arp.Flight.frame).delivered := by
      rw [if_pos haccepts]
      exact hprocessed
    rw [deliveredBetween_append hworld]
    exact congrArg _ (List.filter_cons_of_pos hmeant.between)
  have hsame : (next.world Arp.Flight.frame).sentBetween source target =
      (lan.world Arp.Flight.frame).sentBetween source target := sentBetween_congr hsent _ _
  rw [hlast, hsame] at hsublist hinitial
  have hsublist' := hsublist.map Copy.frame
  have hinitial' := fun hkept ↦ (hinitial hkept).map Copy.frame
  rw [List.map_append] at hsublist' hinitial'
  obtain ⟨front, back, hsplit, hfront, hwaits, hlost⟩ := h.contents.arrive hsublist' hinitial'
  have hrelay : next.relay source target = { lan.relay source target with
      delivered := (lan.relay source target).delivered ++ [copy.frame]
      inbox := (rxQueue.add copy.frame).queue } := by
    rw [Lan.relay, Lan.relay, houtgoing, hlast, hsame, CallState.inbox, hafter,
      List.flatMap_singleton, List.map_append]
    rfl
  by_cases hroom : Host.OpenSocket.HasRoom ⟨socket, rxQueue⟩
  · have hqueue : (rxQueue.add copy.frame).queue = rxQueue.queue ++ [copy.frame] :=
      Host.OpenSocket.queue_addFrame hroom copy.frame
    rw [hqueue, ← hinbox] at hrelay
    exact ⟨_, front, _, hsplit, ⟨hrelay ▸ hwaits, _, hafter⟩, fun hkept _ ↦ hfront hkept⟩
  · have hqueue : (rxQueue.add copy.frame).queue = rxQueue.queue := by
      rw [WorkQueue.add, if_pos (Nat.not_lt.mp hroom)]
    rw [hqueue, ← hinbox] at hrelay
    refine ⟨_, front ++ [copy.frame], back, ?_, ⟨hrelay ▸ hlost, _, hafter⟩, fun _ hall ↦ ?_⟩
    · rw [hsplit, List.append_assoc front]
      rfl
    · exact absurd (hall _ (by rw [hopen]; exact List.mem_singleton_self _)) hroom

end Direction

/-! ### The calls over the network are the calls over channels -/

/-- What the two calls send to each other. -/
def Calls.MeantBy (calls : Calls H σ τ) (net : Topology H S) (sent : H × MPDU) : Prop :=
  sent.1 = calls.clientHost ∧
      Meant net calls.clientHost calls.serverHost calls.serverSocket sent.2 ∨
    sent.1 = calls.serverHost ∧
      Meant net calls.serverHost calls.clientHost calls.clientSocket sent.2

/-- The client of the one server. -/
def Calls.clientOf (calls : Calls H σ τ) (host : H) : Option H :=
  if host = calls.serverHost then some calls.clientHost else none

/-- Calls on this network, at different hosts: the server is silent at first, and over channels they
send each other frames that are meant for the other's socket. -/
structure Calls.Suit (calls : Calls H σ τ) (net : Topology H S) : Prop where
  mac : ∀ host, net.mac host = (calls.hosts.address host).mac
  ne : calls.clientHost ≠ calls.serverHost
  silent : calls.server.act calls.serverStart = none
  frames : ∀ d, calls.duplex.Reachable Duplex.inOrder d →
    (∀ frame ∈ d.toServer,
      Meant net calls.clientHost calls.serverHost calls.serverSocket frame) ∧
    ∀ frame ∈ d.toClient, Meant net calls.serverHost calls.clientHost calls.clientSocket frame

/-- The calls over channels as they are over the network. -/
structure Represents (calls : Calls H σ τ) (kept : Prop)
    (lan : Lan net (CallState H σ τ) (Arp.Flight H)) (d : Duplex σ τ MPDU MPDU) : Prop where
  client : d.client = lan.core.client
  server : d.server = lan.core.server
  up : Direction kept lan calls.clientHost calls.serverHost calls.serverSocket d.toServer
  down : Direction kept lan calls.serverHost calls.clientHost calls.clientSocket d.toClient
  sent : ∀ sent ∈ lan.sent, calls.MeantBy net sent
  idle : ∀ host, host ≠ calls.clientHost → host ≠ calls.serverHost → lan.outgoing host = []
  greeted : lan.core.server = calls.serverStart ∧ lan.outgoing calls.serverHost = [] ∧
      lan.core.inbox calls.serverHost = [] ∨
    (lan.world Arp.Flight.frame).Greeted calls.serverHost calls.clientHost

/-- What the network of switches may do: nothing is lost where all is kept. -/
def Calls.permitted (calls : Calls H σ τ) (kept : Prop) (world : World net)
    (event : Switching.Event net) : Prop :=
  conversing calls.clientOf world event ∧ (kept → lossless world event)

/-- What the threads may do. -/
def inTurnKeeping (kept : Prop) (lan : Lan net (CallState H σ τ) (Arp.Flight H))
    (event : Event net CallAction (H × IP)) : Prop :=
  inTurn lan event ∧ (kept → roomy lan event ∧ socketsRoomy lan event)

/-- The invariant of the network with the calls on it. -/
structure Follows (calls : Calls H σ τ) (kept : Prop)
    (lan : Lan net (CallState H σ τ) (Arp.Flight H)) : Prop where
  world : (network net).Reachable (calls.permitted kept) (lan.world Arp.Flight.frame)
  duplex : ∃ d, calls.duplex.Reachable (Duplex.inOrderKeeping kept) d ∧ Represents calls kept lan d

section Follows

variable {calls : Calls H σ τ} {d : Duplex σ τ MPDU MPDU}

omit [DecidableEq S] in
/-- Every frame about to be transmitted is meant for the other call. -/
theorem Represents.meantBy (hrep : Represents calls kept lan d) (hsuit : calls.Suit net)
    (hd : calls.duplex.Reachable (Duplex.inOrderKeeping kept) d) {host : H}
    {message : Arp.Flight H} (hmessage : message ∈ lan.outgoing host) :
    calls.MeantBy net (host, message.frame) := by
  obtain ⟨hup, hdown⟩ := hsuit.frames d (hd.mono fun _ _ hguard ↦ hguard.1)
  by_cases hclient : host = calls.clientHost
  · subst hclient
    exact .inl ⟨rfl, hup _ (hrep.up.contents.mem_of_outgoing (List.mem_map_of_mem hmessage))⟩
  · by_cases hserver : host = calls.serverHost
    · subst hserver
      exact .inr ⟨rfl, hdown _ (hrep.down.contents.mem_of_outgoing (List.mem_map_of_mem hmessage))⟩
    · rw [hrep.idle host hclient hserver] at hmessage
      cases hmessage

omit [DecidableEq S] in
/-- A client has no client. -/
theorem Calls.Suit.roles (hsuit : calls.Suit net) :
    ∀ server, ∀ client ∈ calls.clientOf server, calls.clientOf client = none := by
  intro server client hclient
  rw [Calls.clientOf] at hclient
  split_ifs at hclient with hserver
  · obtain rfl := Option.some.inj hclient
    exact if_neg hsuit.ne
  · cases hclient

/-- The frames that a host has accepted from another are a part of those sent to it. -/
theorem Follows.sublist [Fintype H] [Fintype S] (hsuit : calls.Suit net)
    (h : (network net).Reachable (calls.permitted kept) (lan.world Arp.Flight.frame))
    {source target : H} (hne : source ≠ target) :
    ((lan.world Arp.Flight.frame).deliveredBetween source target).Sublist
        ((lan.world Arp.Flight.frame).sentBetween source target) ∧
      (kept → (lan.world Arp.Flight.frame).deliveredBetween source target ++
          (lan.world Arp.Flight.frame).onTheWay source target =
        (lan.world Arp.Flight.frame).sentBetween source target) := by
  constructor
  · exact sublist_of_conversing hsuit.roles (h.mono fun _ _ hguard ↦ hguard.1) hne
  · intro hkept
    exact carried_eq_of_conversing hsuit.roles
      (h.mono fun _ _ hguard ↦ ⟨hguard.1, hguard.2 hkept⟩) hne

omit [DecidableEq H] [DecidableEq S] in
theorem Calls.MeantBy.sourceMac {sent : H × MPDU} (h : calls.MeantBy net sent) :
    sent.2.sourceMac = net.mac sent.1 := by
  rcases h with ⟨hhost, hmeant⟩ | ⟨hhost, hmeant⟩
  · rw [hhost]
    exact hmeant.sourceMac
  · rw [hhost]
    exact hmeant.sourceMac

omit [DecidableEq S] in
/-- What a host transmits the network of switches permits. -/
theorem Represents.permits (hrep : Represents calls kept lan d) (hsuit : calls.Suit net)
    (hd : calls.duplex.Reachable (Duplex.inOrderKeeping kept) d)
    {event : Event net CallAction (H × IP)} (hguard : inTurnKeeping kept lan event) :
    Permits calls.attached lan event (calls.permitted kept) where
  send host position _ message hmessage := by
    refine ⟨?_, fun _ ↦ trivial⟩
    rcases hrep.meantBy hsuit hd hmessage with ⟨rfl, hmeant⟩ | ⟨rfl, hmeant⟩
    · have hnone : calls.clientOf calls.clientHost = none := if_neg hsuit.ne
      refine ⟨⟨fun client hclient ↦ ?_, fun _ ↦ .inr ⟨calls.serverHost, ?_, hmeant.destinationMac⟩⟩,
        fun client hclient ↦ ?_⟩
      · rw [hnone] at hclient
        cases hclient
      · exact if_pos rfl
      · rw [hnone] at hclient
        cases hclient
    · have hsome : calls.clientOf calls.serverHost = some calls.clientHost := if_pos rfl
      refine ⟨⟨fun client hclient ↦ ?_, fun hnone ↦ ?_⟩, fun client hclient ↦ ?_⟩
      · obtain rfl := Option.some.inj (hsome.symm.trans hclient)
        exact hmeant.destinationMac
      · rw [hsome] at hnone
        cases hnone
      · obtain rfl := Option.some.inj (hsome.symm.trans hclient)
        rcases hrep.greeted with ⟨-, hnone, -⟩ | hgreeted
        · rw [hnone] at hmessage
          cases hmessage
        · exact hgreeted
  receive _ _ _ := ⟨trivial, fun _ ↦ trivial⟩
  deliver _ _ := ⟨trivial, fun _ ↦ trivial⟩
  forward _ _ _ _ := ⟨trivial, fun _ ↦ trivial⟩
  lose hfull _ _ _ := ⟨trivial, fun hkept ↦ absurd hfull (hguard.2 hkept).1⟩

/-- What the network of switches does meanwhile. -/
theorem Follows.world_step (hfollows : Follows calls kept lan) (hsuit : calls.Suit net)
    {event : Event net CallAction (H × IP)} (hguard : inTurnKeeping kept lan event)
    (h : lan.step calls.attached event = some next) :
    (network net).Reachable (calls.permitted kept) (next.world Arp.Flight.frame) := by
  obtain ⟨d, hd, hrep⟩ := hfollows.duplex
  have hsource : OwnSource calls.attached lan := fun host message hmessage ↦
    (hrep.meantBy hsuit hd hmessage).sourceMac
  exact hfollows.world.trans (refines_step (learned_of_reachable hfollows.world) hsource
    (hrep.permits hsuit hd hguard) h)

omit [DecidableEq S] in
/-- What no call and no demultiplexer does changes nothing for the calls. -/
theorem Represents.of_same (hrep : Represents calls kept lan d) (hcore : next.core = lan.core)
    (houtgoing : next.outgoing = lan.outgoing) (hsent : next.sent = lan.sent)
    (hprocessed : next.processed = lan.processed) : Represents calls kept next d where
  client := by rw [hcore, hrep.client]
  server := by rw [hcore, hrep.server]
  up := hrep.up.congr (by rw [houtgoing]) (sentBetween_congr hsent _ _)
    (deliveredBetween_congr hprocessed _ _) (by rw [hcore])
  down := hrep.down.congr (by rw [houtgoing]) (sentBetween_congr hsent _ _)
    (deliveredBetween_congr hprocessed _ _) (by rw [hcore])
  sent := by rw [hsent]; exact hrep.sent
  idle := by rw [houtgoing]; exact hrep.idle
  greeted := by
    rw [hcore, houtgoing]
    refine hrep.greeted.imp_right fun ⟨delivery, hdelivery, hrest⟩ ↦ ⟨delivery, ?_, hrest⟩
    change delivery ∈ next.processed
    rw [hprocessed]
    exact hdelivery

/-- The client sends, or goes on without a frame. -/
theorem follows_clientActs (hsuit : calls.Suit net) (hrep : Represents calls kept lan d)
    (h : lan.step calls.attached (.acts .clientActs) = some next) :
    ∃ d', calls.duplex.step d .clientActs = some d' ∧ Represents calls kept next d' := by
  obtain ⟨core, messages, hact, rfl⟩ := step_acts h
  obtain ⟨⟨client, sent⟩, hacted, hcore⟩ := Option.map_eq_some_iff.mp hact
  obtain ⟨rfl, rfl⟩ := Prod.mk.inj hcore
  have hstep : calls.duplex.step d .clientActs = some { d with
      client, toServer := d.toServer ++ sent.toList, clientSent := d.clientSent ++ sent.toList } := by
    change Option.map _ _ = _
    rw [hrep.client, hacted]
    rfl
  have hframes : (sent.toList.map fun frame ↦
      (⟨calls.clientHost, 0, frame⟩ : Arp.Flight H)).map Arp.Flight.frame = sent.toList := by
    rw [List.map_map]
    exact List.map_id _
  refine ⟨_, hstep, ?_⟩
  refine ⟨rfl, hrep.server, ?_, ?_, hrep.sent, fun host hclient hserver ↦ ?_, ?_⟩
  · exact hrep.up.post hframes (Function.update_self ..) rfl rfl rfl
  · exact hrep.down.congr (Function.update_of_ne hsuit.ne.symm ..) rfl rfl rfl
  · exact (Function.update_of_ne hclient ..).trans (hrep.idle host hclient hserver)
  · refine hrep.greeted.imp_left fun ⟨hserver, hnone, hempty⟩ ↦ ⟨hserver, ?_, hempty⟩
    exact (Function.update_of_ne hsuit.ne.symm ..).trans hnone

/-- The server sends, which it has been greeted for. -/
theorem follows_serverActs (hsuit : calls.Suit net) (hrep : Represents calls kept lan d)
    (h : lan.step calls.attached (.acts .serverActs) = some next) :
    ∃ d', calls.duplex.step d .serverActs = some d' ∧ Represents calls kept next d' := by
  obtain ⟨core, messages, hact, rfl⟩ := step_acts h
  obtain ⟨⟨server, sent⟩, hacted, hcore⟩ := Option.map_eq_some_iff.mp hact
  obtain ⟨rfl, rfl⟩ := Prod.mk.inj hcore
  have hstep : calls.duplex.step d .serverActs = some { d with
      server, toClient := d.toClient ++ sent.toList, serverSent := d.serverSent ++ sent.toList } := by
    change Option.map _ _ = _
    rw [hrep.server, hacted]
    rfl
  have hframes : (sent.toList.map fun frame ↦
      (⟨calls.serverHost, 0, frame⟩ : Arp.Flight H)).map Arp.Flight.frame = sent.toList := by
    rw [List.map_map]
    exact List.map_id _
  refine ⟨_, hstep, ?_⟩
  refine ⟨hrep.client, rfl, ?_, ?_, hrep.sent, fun host hclient hserver ↦ ?_, ?_⟩
  · exact hrep.up.congr (Function.update_of_ne hsuit.ne ..) rfl rfl rfl
  · exact hrep.down.post hframes (Function.update_self ..) rfl rfl rfl
  · exact (Function.update_of_ne hserver ..).trans (hrep.idle host hclient hserver)
  · refine .inr (hrep.greeted.resolve_left fun hstart ↦ ?_)
    rw [hstart.1, hsuit.silent] at hacted
    cases hacted

omit [DecidableEq S] in
/-- Reading a socket changes no other host. -/
theorem states_of_getFrame {core : CallState H σ τ} {host other : H} {frame : MPDU}
    {running : Host.Running H} (hread : core.getFrame host = some (frame, running))
    (hother : other ≠ host) : running.states other = core.running.states other := by
  rw [CallState.getFrame] at hread
  split at hread
  · split at hread
    · cases hread
    · obtain ⟨-, rfl⟩ := Prod.mk.inj (Option.some.inj hread)
      exact Function.update_of_ne hother ..
  · cases hread

/-- The client takes the front of its socket. -/
theorem follows_clientGets (hsuit : calls.Suit net) (hrep : Represents calls kept lan d)
    (h : lan.step calls.attached (.acts .clientGets) = some next) :
    ∃ d', calls.duplex.step d (.clientTakes 0) = some d' ∧ Represents calls kept next d' := by
  obtain ⟨core, messages, hact, hnext⟩ := step_acts h
  obtain ⟨⟨frame, running⟩, hread, htake⟩ := Option.bind_eq_some_iff.mp hact
  obtain ⟨client, htaken, hcore⟩ := Option.map_eq_some_iff.mp htake
  obtain ⟨rfl, rfl⟩ := Prod.mk.inj hcore
  have hsame (host : H) : Function.update lan.outgoing calls.clientHost
      (lan.outgoing calls.clientHost ++ []) host = lan.outgoing host := by
    rw [List.append_nil, Function.update_eq_self]
  have hother := states_of_getFrame hread hsuit.ne.symm
  have hgets : ∃ back, d.toClient = frame :: back ∧
      Direction kept next calls.serverHost calls.clientHost calls.clientSocket back :=
    hrep.down.get hread (by rw [hnext]; exact hsame _) (by rw [hnext]) (by rw [hnext])
      (by rw [hnext])
  obtain ⟨back, hback, hdown⟩ := hgets
  have hstep : calls.duplex.step d (.clientTakes 0) = some { d with
      client, toClient := back } := by
    change Option.bind _ _ = _
    rw [hback]
    change Option.map _ _ = _
    rw [hrep.client, htaken]
    rfl
  subst hnext
  refine ⟨_, hstep, ?_⟩
  refine ⟨rfl, hrep.server, ?_, hdown, hrep.sent, fun host hclient hserver ↦ ?_, ?_⟩
  · exact hrep.up.congr (hsame _) rfl rfl (congrArg Host.HostState.openPorts hother)
  · exact (hsame host).trans (hrep.idle host hclient hserver)
  · refine hrep.greeted.imp_left fun ⟨hserver, hnone, hempty⟩ ↦ ⟨hserver, (hsame _).trans hnone, ?_⟩
    rw [CallState.inbox] at hempty ⊢
    exact (congrArg (fun state : Host.HostState ↦ state.openPorts.flatMap _) hother).trans hempty

/-- The server takes the front of its socket, which came from the client. -/
theorem follows_serverGets (hsuit : calls.Suit net) (hrep : Represents calls kept lan d)
    (h : lan.step calls.attached (.acts .serverGets) = some next) :
    ∃ d', calls.duplex.step d (.serverTakes 0) = some d' ∧ Represents calls kept next d' := by
  obtain ⟨core, messages, hact, hnext⟩ := step_acts h
  obtain ⟨⟨frame, running⟩, hread, htake⟩ := Option.bind_eq_some_iff.mp hact
  obtain ⟨server, htaken, hcore⟩ := Option.map_eq_some_iff.mp htake
  obtain ⟨rfl, rfl⟩ := Prod.mk.inj hcore
  have hsame (host : H) : Function.update lan.outgoing calls.serverHost
      (lan.outgoing calls.serverHost ++ []) host = lan.outgoing host := by
    rw [List.append_nil, Function.update_eq_self]
  have hother := states_of_getFrame hread hsuit.ne
  have hgets : ∃ back, d.toServer = frame :: back ∧
      Direction kept next calls.clientHost calls.serverHost calls.serverSocket back :=
    hrep.up.get hread (by rw [hnext]; exact hsame _) (by rw [hnext]) (by rw [hnext])
      (by rw [hnext])
  obtain ⟨back, hback, hup⟩ := hgets
  have hstep : calls.duplex.step d (.serverTakes 0) = some { d with
      server, toServer := back } := by
    change Option.bind _ _ = _
    rw [hback]
    change Option.map _ _ = _
    rw [hrep.server, htaken]
    rfl
  subst hnext
  refine ⟨_, hstep, ?_⟩
  refine ⟨hrep.client, rfl, hup, ?_, hrep.sent, fun host hclient hserver ↦ ?_, ?_⟩
  · exact hrep.down.congr (hsame _) rfl rfl (congrArg Host.HostState.openPorts hother)
  · exact (hsame host).trans (hrep.idle host hclient hserver)
  · refine .inr (hrep.greeted.resolve_left fun ⟨_, _, hempty⟩ ↦ ?_)
    obtain ⟨rxQueue, hports⟩ := hrep.up.ports
    rw [CallState.inbox, hports, List.flatMap_singleton] at hempty
    change rxQueue.queue = [] at hempty
    simp [CallState.getFrame, hports, hempty] at hread

omit [DecidableEq S] in
/-- What another host transmits is not sent by this one. -/
theorem sentBetween_other {host source : H} {frame : MPDU} (hother : source ≠ host)
    (hsource : frame.sourceMac = net.mac host) (hsent : next.sent = lan.sent ++ [(host, frame)])
    (target : H) : (next.world Arp.Flight.frame).sentBetween source target =
      (lan.world Arp.Flight.frame).sentBetween source target := by
  have hworld : (next.world Arp.Flight.frame).sent =
      (lan.world Arp.Flight.frame).sent ++ [(host, frame)] := hsent
  rw [sentBetween_append hsource hworld, List.filter_cons_of_neg, List.filter_nil, List.append_nil]
  intro hbetween
  exact hother (net.mac_injective ((between_eq_true_iff.mp hbetween).1.symm.trans hsource))

/-- A host transmits the first frame of its call. -/
theorem represents_transmits (hsuit : calls.Suit net)
    (hd : calls.duplex.Reachable (Duplex.inOrderKeeping kept) d)
    (hrep : Represents calls kept lan d) {host : H}
    (h : lan.step calls.attached (.transmits host 0) = some next) :
    Represents calls kept next d := by
  obtain ⟨message, hmessage, hnext⟩ := step_transmits h
  have hmeant := hrep.meantBy hsuit hd (List.mem_of_getElem? hmessage)
  have hfront := Duplex.eq_cons_of_getElem?_zero hmessage
  have hcore : next.core = lan.core := by rw [hnext]
  have hprocessed : next.processed = lan.processed := by rw [hnext]
  have hsent : next.sent = lan.sent ++ [(host, message.frame)] := by rw [hnext]; rfl
  have houtgoing : next.outgoing = Function.update lan.outgoing host
      ((lan.outgoing host).eraseIdx 0) := by rw [hnext]
  have hself : next.outgoing host = (lan.outgoing host).eraseIdx 0 := by
    rw [houtgoing, Function.update_self]
  have hother {source : H} (hsource : source ≠ host) :
      next.outgoing source = lan.outgoing source := by
    rw [houtgoing, Function.update_of_ne hsource]
  have hports (target : H) : (next.core.running.states target).openPorts =
      (lan.core.running.states target).openPorts := by rw [hcore]
  have hothers {source target : H} {socket : Socket} {inFlight : List MPDU} (hsource : source ≠ host)
      (hdirection : Direction kept lan source target socket inFlight) :
      Direction kept next source target socket inFlight :=
    hdirection.congr (hother hsource) (sentBetween_other hsource hmeant.sourceMac hsent target)
      (deliveredBetween_congr hprocessed _ _) (hports target)
  have hgreeted : (lan.world Arp.Flight.frame).Greeted calls.serverHost calls.clientHost →
      (next.world Arp.Flight.frame).Greeted calls.serverHost calls.clientHost := by
    rintro ⟨delivery, hdelivery, hrest⟩
    refine ⟨delivery, ?_, hrest⟩
    change delivery ∈ next.processed
    rw [hprocessed]
    exact hdelivery
  have hall : ∀ sent ∈ next.sent, calls.MeantBy net sent := by
    rw [hsent]
    intro sent hmem
    rcases List.mem_append.mp hmem with hbefore | hnow
    · exact hrep.sent sent hbefore
    · obtain rfl := List.mem_singleton.mp hnow
      exact hmeant
  rcases hmeant with ⟨hhost, hmeant⟩ | ⟨hhost, hmeant⟩
  · obtain rfl : host = calls.clientHost := hhost
    refine ⟨by rw [hcore, hrep.client], by rw [hcore, hrep.server], ?_, hothers hsuit.ne.symm hrep.down,
      hall, fun other hclient hserver ↦ ?_, ?_⟩
    · exact hrep.up.transmit hmeant hfront hself hsent hprocessed (hports _)
    · rw [hother hclient, hrep.idle other hclient hserver]
    · rw [hcore, hother hsuit.ne.symm]
      exact hrep.greeted.imp_right hgreeted
  · obtain rfl : host = calls.serverHost := hhost
    refine ⟨by rw [hcore, hrep.client], by rw [hcore, hrep.server], hothers hsuit.ne hrep.up, ?_,
      hall, fun other hclient hserver ↦ ?_, .inr (hgreeted ?_)⟩
    · exact hrep.down.transmit hmeant hfront hself hsent hprocessed (hports _)
    · rw [hother hserver, hrep.idle other hclient hserver]
    · refine hrep.greeted.resolve_left fun ⟨_, hnone, _⟩ ↦ ?_
      rw [hnone] at hmessage
      cases hmessage

omit [DecidableEq S] in
/-- What another host processes is not delivered to this one. -/
theorem deliveredBetween_other {host target : H} {copy : Copy} (hother : target ≠ host)
    (hprocessed : next.processed = lan.processed ++ [(host, copy)]) (source : H) :
    (next.world Arp.Flight.frame).deliveredBetween source target =
      (lan.world Arp.Flight.frame).deliveredBetween source target := by
  unfold World.deliveredBetween Lan.world
  rw [hprocessed, List.filter_append, List.filter_cons_of_neg (by simp [hother.symm]),
    List.filter_nil, List.append_nil]

omit [DecidableEq S] in
/-- What waits in the queue of a host was meant for one of the calls. -/
theorem Represents.meant_of_frameQueue (hrep : Represents calls kept lan d)
    (hworld : Learned (lan.world Arp.Flight.frame)) {host : H} {item : Item (Arp.Flight H)}
    (hitem : item ∈ lan.frameQueues (.inl host)) :
    ∃ maker, calls.MeantBy net (maker, item.message.frame) := by
  have hseen : item.copy Arp.Flight.frame ∈
      (lan.world Arp.Flight.frame).queues (.wire (net.peer (.inl host))) := by
    refine List.mem_map_of_mem ?_
    rw [Lan.queuesSeen, net.peer_peer, Lan.arrived]
    exact List.mem_append_left _ (List.mem_append_left _ hitem)
  obtain ⟨maker, hsent, -⟩ := hworld.origin _ _ hseen
  exact ⟨maker, hrep.sent _ (List.mem_of_getElem? hsent)⟩

omit [DecidableEq S] in
/-- The only socket of a host gets a frame that is meant for it. -/
theorem take_of_meant (hsuit : calls.Suit net) {source host : H} {uninitialisedPacket : IP}
    {flight : Arp.Flight H} {socket : Socket} {rxQueue : WorkQueue MPDU}
    {core : CallState H σ τ} (hmeant : Meant net source host socket flight.frame)
    (hports : (core.running.states host).openPorts = [⟨socket, rxQueue⟩]) :
    calls.parties.take (host, uninitialisedPacket) core flight =
      some ({ core with
        running := { core.running with
          states := Function.update core.running.states host
            ⟨(core.running.states host).cache,
              [Host.OpenSocket.addFrame ⟨socket, rxQueue⟩ flight.frame]⟩ } }, []) := by
  have haccepts : accepts (calls.hosts.address host).mac flight.frame = true := by
    rw [← hsuit.mac]
    exact (Bool.or_eq_true _ _).mpr (.inl hmeant.destinationMac)
  have hprocess : Host.processFrame (calls.hosts.address host) uninitialisedPacket
      (core.running.states host).cache [⟨socket, rxQueue⟩] flight.frame = some
        ⟨(core.running.states host).cache,
          [Host.OpenSocket.addFrame ⟨socket, rxQueue⟩ flight.frame], [], 0⟩ :=
    Host.processFrame_of_reaches hmeant.reaches
  rw [Calls.parties, Host.parties]
  dsimp only
  rw [if_pos haccepts, hports, hprocess]
  simp only [Option.map_some, Host.Running.making, List.map_nil, List.append_nil]

/-- What the demultiplexer of a host does with a frame of the network. -/
inductive Demuxed (calls : Calls H σ τ) (lan next : Lan net (CallState H σ τ) (Arp.Flight H))
    (host : H) : Prop
  | ignored (hcore : next.core = lan.core) (hprocessed : next.processed = lan.processed)
  | passed {source : H} {socket : Socket} {copy : Copy}
      (hmeant : Meant net source host socket copy.frame)
      (hcalls : source = calls.clientHost ∧ host = calls.serverHost ∧ socket = calls.serverSocket ∨
        source = calls.serverHost ∧ host = calls.clientHost ∧ socket = calls.clientSocket)
      (hprocessed : next.processed = lan.processed ++ [(host, copy)])
      (hclient : next.core.client = lan.core.client) (hserver : next.core.server = lan.core.server)
      (hself : ∀ openSocket ∈ (lan.core.running.states host).openPorts,
        (next.core.running.states host).openPorts = [openSocket.addFrame copy.frame])
      (hothers : ∀ other, other ≠ host →
        next.core.running.states other = lan.core.running.states other)

omit [DecidableEq S] in
/-- The frame is for the call of the host, and its socket is open. -/
theorem Represents.of_accepts (hrep : Represents calls kept lan d)
    (hworld : Learned (lan.world Arp.Flight.frame)) {host : H} {item : Item (Arp.Flight H)}
    (hitem : item ∈ lan.frameQueues (.inl host))
    (haccepts : accepts (net.mac host) item.message.frame = true) :
    ∃ source socket, Meant net source host socket item.message.frame ∧
      (∃ rxQueue, (lan.core.running.states host).openPorts = [⟨socket, rxQueue⟩]) ∧
        (source = calls.clientHost ∧ host = calls.serverHost ∧ socket = calls.serverSocket ∨
          source = calls.serverHost ∧ host = calls.clientHost ∧ socket = calls.clientSocket) := by
  obtain ⟨maker, ⟨-, hmeant⟩ | ⟨-, hmeant⟩⟩ := hrep.meant_of_frameQueue hworld hitem
  · obtain rfl := hmeant.eq_of_accepts haccepts
    exact ⟨_, _, hmeant, hrep.up.ports, .inl ⟨rfl, rfl, rfl⟩⟩
  · obtain rfl := hmeant.eq_of_accepts haccepts
    exact ⟨_, _, hmeant, hrep.down.ports, .inr ⟨rfl, rfl, rfl⟩⟩

theorem demuxed_of_demuxes (hsuit : calls.Suit net) (hrep : Represents calls kept lan d)
    (hworld : Learned (lan.world Arp.Flight.frame)) {receiver : H × IP}
    (h : lan.step calls.attached (.demuxes receiver) = some next) :
    Demuxed calls lan next receiver.1 ∧ next.outgoing = lan.outgoing ∧ next.sent = lan.sent := by
  obtain ⟨host, uninitialisedPacket⟩ := receiver
  obtain ⟨item, frameQueues, core, messages, hremove, htake, rfl⟩ := step_demuxes h
  change lan.frameQueues.remove (.inl host) = _ at hremove
  change calls.parties.take _ _ _ = _ at htake
  have hsame : Function.update lan.outgoing host (lan.outgoing host ++ []) = lan.outgoing := by
    rw [List.append_nil, Function.update_eq_self]
  by_cases haccepts : accepts (net.mac host) item.message.frame = true
  · obtain ⟨source, socket, hmeant, ⟨rxQueue, hports⟩, hcalls⟩ :=
      hrep.of_accepts hworld (QueueFamily.item_mem_of_remove hremove) haccepts
    rw [take_of_meant hsuit hmeant hports] at htake
    obtain ⟨rfl, rfl⟩ := Prod.mk.inj (Option.some.inj htake)
    refine ⟨.passed (by exact hmeant) hcalls (if_pos haccepts) rfl rfl
      (fun openSocket hopen ↦ ?_) fun other hother ↦ Function.update_of_ne hother .., hsame, rfl⟩
    rw [hports] at hopen
    obtain rfl := List.mem_singleton.mp hopen
    change (Function.update lan.core.running.states host _ host).openPorts = _
    rw [Function.update_self]
    rfl
  · rw [Calls.parties, Host.parties] at htake
    dsimp only at htake
    rw [← hsuit.mac, if_neg haccepts] at htake
    obtain ⟨rfl, rfl⟩ := Prod.mk.inj (Option.some.inj htake)
    exact ⟨.ignored rfl (if_neg haccepts), hsame, rfl⟩

variable [Fintype H] [Fintype S]

/-- The demultiplexer gives a frame to the socket of a call, or drops it. -/
theorem follows_demuxes (hsuit : calls.Suit net) (hrep : Represents calls kept lan d)
    (hworld : Learned (lan.world Arp.Flight.frame))
    (hnext : (network net).Reachable (calls.permitted kept) (next.world Arp.Flight.frame))
    {receiver : H × IP} (hroom : kept → socketsRoomy lan (.demuxes receiver : Event net CallAction _))
    (h : lan.step calls.attached (.demuxes receiver) = some next) :
    ∃ d', calls.duplex.ReachableFrom (Duplex.inOrderKeeping kept) d d' ∧
      Represents calls kept next d' := by
  obtain ⟨hdemuxed, houtgoing, hsent⟩ := demuxed_of_demuxes hsuit hrep hworld h
  have hall : ∀ sent ∈ next.sent, calls.MeantBy net sent := by rw [hsent]; exact hrep.sent
  have hidle : ∀ host, host ≠ calls.clientHost → host ≠ calls.serverHost →
      next.outgoing host = [] := by rw [houtgoing]; exact hrep.idle
  cases hdemuxed with
  | ignored hcore hprocessed => exact ⟨d, .refl, hrep.of_same hcore houtgoing hsent hprocessed⟩
  | @passed source socket copy hmeant hcalls hprocessed hclient hserver hself hothers =>
    rcases hcalls with ⟨rfl, hhost, rfl⟩ | ⟨rfl, hhost, rfl⟩
    · rw [hhost] at hmeant hprocessed hself hothers
      have hchannel := Follows.sublist hsuit hnext hsuit.ne
      obtain ⟨before, dropped, after, hsplit, hup, hnone⟩ := hrep.up.arrive hmeant
        (congrFun houtgoing _) hsent hprocessed hself hchannel.1 fun hkept ↦ ⟨_, hchannel.2 hkept⟩
      refine ⟨{ d with toServer := before ++ after }, Duplex.reachableFrom_dropToServer hsplit
        fun hkept ↦ hnone hkept (hhost ▸ hroom hkept), ?_⟩
      refine ⟨hrep.client.trans hclient.symm, hrep.server.trans hserver.symm, hup, ?_, hall, hidle,
        .inr ⟨(calls.serverHost, copy), ?_, rfl, hmeant.sourceMac⟩⟩
      · exact hrep.down.congr (congrFun houtgoing _) (sentBetween_congr hsent _ _)
          (deliveredBetween_other hsuit.ne hprocessed _)
          (congrArg Host.HostState.openPorts (hothers _ hsuit.ne))
      · change _ ∈ next.processed
        rw [hprocessed]
        exact List.mem_append_right _ (List.mem_singleton_self _)
    · rw [hhost] at hmeant hprocessed hself hothers
      have hchannel := Follows.sublist hsuit hnext hsuit.ne.symm
      obtain ⟨before, dropped, after, hsplit, hdown, hnone⟩ := hrep.down.arrive hmeant
        (congrFun houtgoing _) hsent hprocessed hself hchannel.1 fun hkept ↦ ⟨_, hchannel.2 hkept⟩
      have hports := congrArg Host.HostState.openPorts (hothers _ hsuit.ne.symm)
      refine ⟨{ d with toClient := before ++ after }, Duplex.reachableFrom_dropToClient hsplit
        fun hkept ↦ hnone hkept (hhost ▸ hroom hkept), ?_⟩
      refine ⟨hrep.client.trans hclient.symm, hrep.server.trans hserver.symm, ?_, hdown, hall, hidle,
        ?_⟩
      · exact hrep.up.congr (congrFun houtgoing _) (sentBetween_congr hsent _ _)
          (deliveredBetween_other hsuit.ne.symm hprocessed _) hports
      · refine hrep.greeted.imp (fun ⟨hstart, hsilent, hempty⟩ ↦ ⟨?_, ?_, ?_⟩)
          fun ⟨delivery, hdelivery, hrest⟩ ↦ ⟨delivery, ?_, hrest⟩
        · rw [hserver, hstart]
        · rw [houtgoing, hsilent]
        · rw [CallState.inbox, hports]
          exact hempty
        · change delivery ∈ next.processed
          rw [hprocessed]
          exact List.mem_append_left _ hdelivery

omit [Fintype H] [Fintype S] in
/-- What a call does on its host it does over channels. -/
theorem follows_acts (hsuit : calls.Suit net) (hrep : Represents calls kept lan d)
    {action : CallAction} (h : lan.step calls.attached (.acts action) = some next) :
    ∃ event d', Duplex.inOrderKeeping kept d event ∧ calls.duplex.step d event = some d' ∧
      Represents calls kept next d' := by
  cases action with
  | clientActs =>
    obtain ⟨d', hstep, hnext⟩ := follows_clientActs hsuit hrep h
    exact ⟨.clientActs, d', ⟨trivial, fun _ ↦ trivial⟩, hstep, hnext⟩
  | serverActs =>
    obtain ⟨d', hstep, hnext⟩ := follows_serverActs hsuit hrep h
    exact ⟨.serverActs, d', ⟨trivial, fun _ ↦ trivial⟩, hstep, hnext⟩
  | clientGets =>
    obtain ⟨d', hstep, hnext⟩ := follows_clientGets hsuit hrep h
    exact ⟨.clientTakes 0, d', ⟨rfl, fun _ ↦ rfl⟩, hstep, hnext⟩
  | serverGets =>
    obtain ⟨d', hstep, hnext⟩ := follows_serverGets hsuit hrep h
    exact ⟨.serverTakes 0, d', ⟨rfl, fun _ ↦ rfl⟩, hstep, hnext⟩

/-- What the threads do in between loses frames of the channels at most. -/
theorem follows_threads (hsuit : calls.Suit net) (hfollows : Follows calls kept lan)
    (hd : calls.duplex.Reachable (Duplex.inOrderKeeping kept) d)
    (hrep : Represents calls kept lan d) {event : Event net CallAction (H × IP)}
    (hthread : ∀ action, event ≠ .acts action) (hguard : inTurnKeeping kept lan event)
    (h : lan.step calls.attached event = some next) :
    ∃ d', calls.duplex.ReachableFrom (Duplex.inOrderKeeping kept) d d' ∧
      Represents calls kept next d' := by
  have hsame (hcore : next.core = lan.core) (houtgoing : next.outgoing = lan.outgoing)
      (hsent : next.sent = lan.sent) (hprocessed : next.processed = lan.processed) :
      ∃ d', calls.duplex.ReachableFrom (Duplex.inOrderKeeping kept) d d' ∧
        Represents calls kept next d' :=
    ⟨d, .refl, hrep.of_same hcore houtgoing hsent hprocessed⟩
  cases event with
  | acts action => exact absurd rfl (hthread action)
  | transmits host position =>
    obtain rfl : position = 0 := hguard.1
    exact ⟨d, .refl, represents_transmits hsuit hd hrep h⟩
  | receives port =>
    obtain ⟨-, item, wires, -, rfl⟩ := step_receives h
    exact hsame rfl rfl rfl rfl
  | queues port =>
    obtain ⟨item, -, rfl⟩ := step_queues h
    exact hsame rfl rfl rfl rfl
  | demuxes receiver =>
    exact follows_demuxes hsuit hrep (learned_of_reachable hfollows.world)
      (hfollows.world_step hsuit hguard h) (fun hkept ↦ (hguard.2 hkept).2) h
  | sends switch =>
    have hsends := step_sends h
    cases hsends <;> exact hsame rfl rfl rfl rfl

/-- Whatever a thread or a call does, the calls over channels do it too. -/
theorem Follows.step (hsuit : calls.Suit net) (hfollows : Follows calls kept lan)
    {event : Event net CallAction (H × IP)} (hguard : inTurnKeeping kept lan event)
    (h : lan.step calls.attached event = some next) : Follows calls kept next := by
  refine ⟨hfollows.world_step hsuit hguard h, ?_⟩
  obtain ⟨d, hd, hrep⟩ := hfollows.duplex
  by_cases hacts : ∃ action, event = .acts action
  · obtain ⟨action, rfl⟩ := hacts
    obtain ⟨event, d', hallowed, hstep, hnext⟩ := follows_acts hsuit hrep h
    exact ⟨d', hd.step hallowed hstep, hnext⟩
  · obtain ⟨d', hd', hnext⟩ := follows_threads hsuit hfollows hd hrep
      (fun action heq ↦ hacts ⟨action, heq⟩) hguard h
    exact ⟨d', hd.trans hd', hnext⟩

omit [Fintype H] [Fintype S] in
theorem follows_init (hsuit : calls.Suit net) :
    Follows calls kept (calls.lan net).init where
  world := by
    have hinit : ((calls.lan net).init).world Arp.Flight.frame = (network net).init := world_init
    rw [hinit]
    exact .refl
  duplex := by
    have hclient : calls.openPorts calls.clientHost =
        [⟨calls.clientSocket, .new MPDU MAX_QUEUE_LENGTH⟩] := if_pos rfl
    have hserver : calls.openPorts calls.serverHost =
        [⟨calls.serverSocket, .new MPDU MAX_QUEUE_LENGTH⟩] :=
      (if_neg hsuit.ne.symm).trans (if_pos rfl)
    have hempty {source target : H} {socket : Socket}
        (hports : calls.openPorts target = [⟨socket, .new MPDU MAX_QUEUE_LENGTH⟩]) :
        Direction kept (calls.lan net).init source target socket [] := by
      refine ⟨?_, _, hports⟩
      have hinbox : (calls.lan net).init.core.inbox target = [] := by
        change (calls.openPorts target).flatMap _ = []
        rw [hports]
        rfl
      rw [Lan.relay, hinbox]
      exact Relay.contents_nil
    refine ⟨calls.duplex.init, .refl, rfl, rfl, hempty hserver, hempty hclient, ?_, ?_, .inl ?_⟩
    · exact List.forall_mem_nil _
    · exact fun _ _ _ ↦ rfl
    · exact ⟨rfl, rfl, by change (calls.openPorts _).flatMap _ = []; rw [hserver]; rfl⟩

/-- The calls over the network do what the calls over channels do, which keep the order, and drop
nothing if nothing overflows. -/
theorem follows_of_reachable (hsuit : calls.Suit net)
    (h : (calls.lan net).Reachable (inTurnKeeping kept) lan) : Follows calls kept lan := by
  have hstep : ∀ (before : Lan net (CallState H σ τ) (Arp.Flight H)) event after,
      Follows calls kept before → inTurnKeeping kept before event →
        (calls.lan net).step before event = some after → Follows calls kept after :=
    fun _ _ _ hbefore hguard hafter ↦ hbefore.step hsuit hguard hafter
  exact h.invariant hstep (follows_init hsuit)

end Follows

end NetworkSimulation.Threads
