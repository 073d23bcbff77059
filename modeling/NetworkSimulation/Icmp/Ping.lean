import NetworkSimulation.Library.QueueFamily
import NetworkSimulation.Library.ScheduledSystem
import NetworkSimulation.Stack.Demultiplexing
import NetworkSimulation.Arp.Resolution

/-!
# Two hosts that ping each other

`Host::ping` resolves the address of its destination, opens an ICMP socket and sends its requests
one after the other, waiting in the socket for the reply to each. While it waits it answers the
requests that reach the socket; a request that arrives while no socket is open is answered by the
demultiplexer (`process_frame`, `process_ICMP_message`). Both write a reply first and send it later.

Between two steps a frame is in one of the queues of a `Place`: on the way from one host to the
other, in a socket, with one of the two threads of a host that is about to send it, or with the
demultiplexer, which has found a socket for it and is about to add it there. The channels are
lossless and queues have room.
-/

set_option autoImplicit false
set_option relaxedAutoImplicit false

namespace NetworkSimulation.Icmp

open Library Stack

def ICMP_ECHO_REQUEST : UInt8 := 0x08
def ICMP_ECHO_REPLY : UInt8 := 0x00

/-- What `fill_ping_payload` fills in. -/
def pingPayload : List UInt8 :=
  [0xB5, 0x32, 0x05] ++ List.replicate 5 0x00 ++ (List.range 40).map fun i ↦ (16 + i).toUInt8

/-- `Host::process_ICMP_message`: the reply it sends, if it sends one; `none` if a decoder reads out
of range. -/
def processICMPMessage (host : Arp.HostAddress) (uninitialisedPacket : IP) (rxFrame : MPDU) :
    Option (Option MPDU) :=
  match IP.generate rxFrame.SDU with
  | none => none
  | some rxIp =>
    match generateICMP rxIp.SDU with
    | none => none
    | some inboundPing =>
      if inboundPing.type = ICMP_ECHO_REQUEST then
        let inboundPing := { inboundPing with type := ICMP_ECHO_REPLY }
        let pingIp := (((IP.new uninitialisedPacket).setSourceIp host.ip).setDestinationIp
          rxIp.sourceIp).encapICMP inboundPing
        some (some (MPDU.ofPacket pingIp host.mac rxFrame.sourceMac))
      else some none

/-! ### The call of `ping` -/

/-- Where `ping` is. -/
inductive PingPoint
  | start
  | resolving
  | createSocket
  | sendRequest
  | waitReply
  | sendReply
  | gotReply
  | deleteSocket
  | returned
  deriving DecidableEq

/-- The host, the arguments of the call, the identifier it draws and what a new packet happens to
hold. -/
structure PingCall where
  address : Arp.HostAddress
  netmask : UInt32
  routerMac : Mac
  destinationIp : UInt32
  count : ℤ
  identifier : UInt16
  uninitialisedPacket : IP

/-- The cache of the host and the variables of the call. -/
structure Pinger where
  cache : Arp.ARPCache
  point : PingPoint
  destinationMac : Mac
  pingToSend : ICMP
  ipToSend : IP
  transmissionAttempts : ℕ
  receptions : ℕ
  checkCount : ℤ
  deriving DecidableEq

/-- The socket that `ping` opens. -/
def icmpSocket : Socket := ⟨7, IP_PROTOCOL_ICMP⟩

/-- The sockets of the host. -/
def Pinger.openPorts (pinger : Pinger) : List Socket :=
  match pinger.point with
  | .sendRequest | .waitReply | .sendReply | .gotReply | .deleteSocket => [icmpSocket]
  | .start | .resolving | .createSocket | .returned => []

/-- One for a ping that has sent a request and not got the reply; else zero. -/
def Pinger.awaits (pinger : Pinger) : ℕ :=
  match pinger.point with
  | .waitReply | .sendReply => 1
  | .start | .resolving | .createSocket | .sendRequest | .gotReply | .deleteSocket | .returned => 0

namespace PingCall

variable (call : PingCall) (pinger : Pinger)

/-- The call up to where it has a MAC address or waits for one; the ARP request it sends. -/
def start : Pinger × Option MPDU :=
  if inSubnet call.address.ip call.destinationIp call.netmask then
    let destinationMac := pinger.cache.getMac call.destinationIp
    if isBroadcast destinationMac then
      ({ pinger with point := .resolving }, some (call.address.sendRequestARP call.destinationIp))
    else ({ pinger with point := .createSocket, destinationMac }, none)
  else ({ pinger with point := .createSocket, destinationMac := call.routerMac }, none)

/-- The end of the loop that waits for the cache. -/
def resolve : Option Pinger :=
  let destinationMac := pinger.cache.getMac call.destinationIp
  if isBroadcast destinationMac then none
  else some { pinger with point := .createSocket, destinationMac }

def createSocket : Pinger :=
  { pinger with
    point := .sendRequest
    pingToSend := { pinger.pingToSend with
      type := ICMP_ECHO_REQUEST, identifier := call.identifier, sequenceNumber := 0 }
    ipToSend := ((IP.new pinger.ipToSend).setDestinationIp call.destinationIp).setSourceIp
      call.address.ip
    transmissionAttempts := 0
    receptions := 0
    checkCount := call.count }

def sendRequest : Pinger × MPDU :=
  let pingToSend := { pinger.pingToSend with
    sequenceNumber := pinger.pingToSend.sequenceNumber + 1, payload := pingPayload }
  let ipToSend := pinger.ipToSend.encapICMP pingToSend
  ({ pinger with
      point := .waitReply, pingToSend, ipToSend,
      transmissionAttempts := pinger.transmissionAttempts + 1, checkCount := pinger.checkCount - 1 },
    MPDU.ofPacket ipToSend call.address.mac pinger.destinationMac)

/-- A frame from the socket: the loop goes on, with a reply to send where the frame is a request,
unless the frame is a reply. -/
def getFrame (rxFrame : MPDU) : Option (Pinger × Option MPDU) :=
  match rxFrame.icmpMessage with
  | none => none
  | some rxPing =>
    if rxPing.type = ICMP_ECHO_REQUEST then
      (processICMPMessage call.address call.uninitialisedPacket rxFrame).map fun reply ↦
        ({ pinger with point := .sendReply }, reply)
    else if rxPing.type = ICMP_ECHO_REPLY then
      some
        ({ pinger with
            point := .gotReply
            receptions :=
              if rxPing.identifier = pinger.pingToSend.identifier then pinger.receptions + 1
              else pinger.receptions },
          none)
    else some (pinger, none)

def checkCount : Pinger :=
  { pinger with point := if pinger.checkCount = 0 then .deleteSocket else .sendRequest }

end PingCall

/-! ### Two hosts -/

/-- Where a frame can be. -/
inductive Place
  | wire (sender : Bool)
  | socket (host : Bool)
  | adding (host : Bool)
  | demuxer (host : Bool)
  | answering (host : Bool)
  deriving DecidableEq, Fintype

/-- The two calls. Each host reaches the other: directly or through its router. -/
structure Pair where
  hosts : Arp.Hosts Bool
  netmask : Bool → UInt32
  routerMac : Bool → Mac
  cache : Bool → Arp.ARPCache
  count : Bool → ℤ
  identifier : Bool → UInt16
  uninitialised : Bool → Pinger
  cache_sound : ∀ side, Arp.Sound hosts (cache side)
  routed : ∀ side,
    inSubnet (hosts.address side).ip (hosts.address !side).ip (netmask side) = true ∨
      compareMacs (routerMac side) (hosts.address !side).mac = true
  count_pos : ∀ side, 1 ≤ count side
  identifier_distinct : identifier false ≠ identifier true

structure World where
  pingers : Bool → Pinger
  places : QueueFamily Place MPDU

inductive Event
  | ping (host : Bool)
  | demuxes (host : Bool)
  | demuxerAdds (host : Bool)
  | demuxerSends (host : Bool)
  deriving DecidableEq

namespace World

variable (world : World)

/-- A thread of a host has changed the variables of the host and put frames somewhere. -/
def proceed (side : Bool) (pinger : Pinger) (frames : List (Place × MPDU)) : World where
  pingers := Function.update world.pingers side pinger
  places := world.places.addAll frames

end World

namespace Pair

variable (pair : Pair)

def call (side : Bool) : PingCall where
  address := pair.hosts.address side
  netmask := pair.netmask side
  routerMac := pair.routerMac side
  destinationIp := (pair.hosts.address !side).ip
  count := pair.count side
  identifier := pair.identifier side
  uninitialisedPacket := (pair.uninitialised side).ipToSend

/-- What the demultiplexer does with a frame it has accepted: the cache afterwards and where it puts
what. -/
def demux (side : Bool) (pinger : Pinger) (frame : MPDU) :
    Option (Arp.ARPCache × List (Place × MPDU)) :=
  match processFrame pinger.openPorts frame with
  | none => none
  | some .receiveArp =>
    ((pair.hosts.address side).receiveARP pinger.cache frame.SDU).map fun (cache, reply) ↦
      (cache, reply.toList.map fun reply ↦ (.demuxer side, reply))
  | some (.sockets found) => some (pinger.cache, found.map fun _ ↦ (.adding side, frame))
  | some .processICMPMessage =>
    (processICMPMessage (pair.hosts.address side) (pair.uninitialised side).ipToSend frame).map
      fun reply ↦ (pinger.cache, reply.toList.map fun reply ↦ (.demuxer side, reply))

/-- The next step of a call. A step that waits for a frame is not possible without one. -/
def pingStep (side : Bool) (world : World) : Option World :=
  let pinger := world.pingers side
  match pinger.point with
  | .start =>
    let (pinger, request) := (pair.call side).start pinger
    some (world.proceed side pinger (request.toList.map fun request ↦ (.wire side, request)))
  | .resolving => ((pair.call side).resolve pinger).map fun pinger ↦ world.proceed side pinger []
  | .createSocket => some (world.proceed side ((pair.call side).createSocket pinger) [])
  | .sendRequest =>
    let (pinger, request) := (pair.call side).sendRequest pinger
    some (world.proceed side pinger [(.wire side, request)])
  | .waitReply =>
    match world.places.remove (.socket side) with
    | none => none
    | some (rxFrame, places) =>
      ((pair.call side).getFrame pinger rxFrame).map fun (pinger, reply) ↦
        { world with places }.proceed side pinger
          (reply.toList.map fun reply ↦ (.answering side, reply))
  | .sendReply =>
    match world.places.remove (.answering side) with
    | none => none
    | some (reply, places) =>
      some ({ world with places }.proceed side { pinger with point := .waitReply }
        [(.wire side, reply)])
  | .gotReply => some (world.proceed side (PingCall.checkCount pinger) [])
  | .deleteSocket =>
    -- the frames in the queue of the socket are gone with it
    let places := Function.update world.places (.socket side) []
    some ({ world with places }.proceed side { pinger with point := .returned } [])
  | .returned => none

def step (world : World) : Event → Option World
  | .ping side => pair.pingStep side world
  | .demuxes side =>
    if world.places (.demuxer side) = [] ∧ world.places (.adding side) = [] then
      match world.places.remove (.wire !side) with
      | none => none
      | some (frame, places) =>
        let pinger := world.pingers side
        if Switching.accepts (pair.hosts.address side).mac frame then
          (pair.demux side pinger frame).map fun (cache, frames) ↦
            { world with places }.proceed side { pinger with cache } frames
        else some { world with places }
    else none
  | .demuxerAdds side =>
    match world.places.remove (.adding side) with
    | none => none
    | some (frame, places) =>
      -- a host calls `ping` once, so the socket that was found is the one that is open, if any
      if (world.pingers side).openPorts = [] then some { world with places }
      else
        some ({ world with places }.proceed side (world.pingers side) [(.socket side, frame)])
  | .demuxerSends side =>
    match world.places.remove (.demuxer side) with
    | none => none
    | some (reply, places) =>
      some ({ world with places }.proceed side (world.pingers side) [(.wire side, reply)])

/-- The two hosts before their calls. -/
def system : ScheduledSystem World Event where
  init :=
    { pingers := fun side ↦ { pair.uninitialised side with point := .start, cache := pair.cache side }
      places := fun _ ↦ [] }
  step := pair.step

end Pair

end NetworkSimulation.Icmp
