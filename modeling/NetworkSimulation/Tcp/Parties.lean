import NetworkSimulation.Library.Duplex
import NetworkSimulation.Stack.Encapsulation
import NetworkSimulation.Stack.Segmentation

/-!
# The TCP client and the TCP server

`Host::TCP_client` and `Host::TCP_server` as the parties of a `Duplex`. Each is a state machine over
the points of its function at which it sends a frame or waits for one in `get_frame`: `act` runs it
through a point where it sends, up to the next point, and `take` gives it the frame it waits for. A
party that has returned reads nothing more, so a frame that reaches its socket has no effect.

Two things end a function early. `at` throws on an index beyond the segments, and a frame that is
not long enough to be decoded makes the decoders read out of range; both lead to `outOfRange`.

The server's first wait for an ACK is followed by a loop that resends the SYNACK without waiting for
another frame. The source address of the frame it got, which the loop reads again after deleting the
frame, is taken not to change.

Members of objects that the source leaves uninitialised are taken from the session.
-/

set_option autoImplicit false
set_option relaxedAutoImplicit false

namespace NetworkSimulation.Tcp

open Stack Library

/-- `maximum_payload_bytes` of `Host::TCP_client`. -/
def maximumPayloadBytes : ℕ := MTU - TCP_HEADER_SIZE - IP_HEADER_SIZE - MPDU_HEADER_SIZE

/-- The packet and the segment of a received frame: `generate_IP`, then `generate_TCP`. -/
def decodeFrame (rxFrame : MPDU) : Option (IP × TCP) :=
  (IP.generate rxFrame.SDU).bind fun rxPacket ↦
    (generateTCP rxPacket.SDU).map fun rxSegment ↦ (rxPacket, rxSegment)

/-! ### The client -/

/-- Where `TCP_client` is. -/
inductive ClientPoint
  | sendSYN
  | waitSYNACK
  | sendACK
  | loopTop
  | waitACK
  | sendAnother
  | returned
  | outOfRange
  deriving DecidableEq

/-- The addresses of the client's host and the arguments of the call, with the MAC that the ARP
cache holds for the destination. -/
structure ClientCall where
  mac : Mac
  ip : UInt32
  thisPort : UInt16
  destIp : UInt32
  destPort : UInt16
  destMac : Mac

/-- The variables of `TCP_client`. -/
structure Client where
  point : ClientPoint
  txSegment : TCP
  txPacket : IP
  nextSegmentIndex : ℕ
  lastUnACKdIndex : ℕ

/-- `TCP_client` at its first send, the SYN prepared. -/
def ClientCall.start (call : ClientCall) (uninitialisedSegment : TCP) (uninitialisedPacket : IP) :
    Client where
  point := .sendSYN
  txSegment :=
    { uninitialisedSegment with
      details := TCP_SYN, sequenceNumber := TCP_INITIAL_SN, ackNumber := TCP_INITIAL_SN,
      sourcePort := call.thisPort, destinationPort := call.destPort, payload := [] }
  txPacket := IP.new uninitialisedPacket
  nextSegmentIndex := 0
  lastUnACKdIndex := 0

/-- The next segment in a frame of its own, if there is one. -/
def ClientCall.sendSegment (call : ClientCall) (segmentsToSend : List TCP) (client : Client)
    (point : ClientPoint) : Client × Option MPDU :=
  match segmentsToSend[client.nextSegmentIndex]? with
  | none => ({ client with point }, none)
  | some segment =>
    let txPacket := client.txPacket.encapTCP segment
    ({ client with
        point, txSegment := segment, txPacket, nextSegmentIndex := client.nextSegmentIndex + 1 },
      some (MPDU.ofPacket txPacket call.mac call.destMac))

def ClientCall.act (call : ClientCall) (segmentsToSend : List TCP) (client : Client) :
    Option (Client × Option MPDU) :=
  match client.point with
  | .sendSYN =>
    let txPacket :=
      ((client.txPacket.encapTCP client.txSegment).setSourceIp call.ip).setDestinationIp call.destIp
    some ({ client with point := .waitSYNACK, txPacket },
      some (MPDU.ofPacket txPacket call.mac call.destMac))
  | .sendACK =>
    let txPacket := client.txPacket.encapTCP client.txSegment
    some ({ client with point := .loopTop, txPacket },
      some (MPDU.ofPacket txPacket call.mac call.destMac))
  | .loopTop =>
    if client.lastUnACKdIndex < segmentsToSend.length then
      some (call.sendSegment segmentsToSend client .waitACK)
    else some ({ client with point := .returned }, none)
  | .sendAnother => some (call.sendSegment segmentsToSend client .loopTop)
  | .waitSYNACK | .waitACK | .returned | .outOfRange => none

/-- The loop that looks for the segment a cumulative ACK ends at, on the segments from an index on:
the index after it, or `none` if `at` throws. The sum is one of 64 bits. -/
def searchACK (ackNumber : UInt32) : List TCP → ℕ → Option ℕ
  | [], _ => none
  | waitingSegment :: rest, index =>
    if ackNumber.toNat = waitingSegment.sequenceNumber.toNat + waitingSegment.payload.length then
      some (index + 1)
    else searchACK ackNumber rest (index + 1)

/-- The indices `next_segment_index` and `last_unACKd_index` after an ACK; `none` if `at` throws. -/
def indicesAfterACK (segmentsToSend : List TCP) (nextSegmentIndex lastUnACKdIndex : ℕ)
    (ackNumber : UInt32) : Option (ℕ × ℕ) :=
  match segmentsToSend[lastUnACKdIndex]? with
  | none => none
  | some waitingSegment =>
    let expectedSN :=
      waitingSegment.sequenceNumber + UInt32.ofNat waitingSegment.payload.length
    if ackNumber ≠ expectedSN then
      if ackNumber > expectedSN then
        (searchACK ackNumber (segmentsToSend.drop (lastUnACKdIndex + 1))
          (lastUnACKdIndex + 1)).map fun found ↦ (nextSegmentIndex, found)
      else some (lastUnACKdIndex, lastUnACKdIndex)
    else some (nextSegmentIndex, lastUnACKdIndex + 1)

def ClientCall.takeSYNACK (call : ClientCall) (client : Client) (rxSegment : TCP) : Client :=
  if rxSegment.ackNumber = client.txSegment.sequenceNumber + 1 ∧
      rxSegment.details &&& TCP_SYNACK ≠ 0 then
    { client with
      point := .sendACK
      txSegment :=
        { client.txSegment with
          details := TCP_ACK, sequenceNumber := rxSegment.ackNumber,
          ackNumber := rxSegment.sequenceNumber + 1, sourcePort := call.thisPort,
          destinationPort := call.destPort } }
  else { client with point := .sendSYN }

def Client.takeACK (segmentsToSend : List TCP) (client : Client) (rxSegment : TCP) : Client :=
  match indicesAfterACK segmentsToSend client.nextSegmentIndex client.lastUnACKdIndex
      rxSegment.ackNumber with
  | none => { client with point := .outOfRange }
  | some (nextSegmentIndex, lastUnACKdIndex) =>
    { client with
      point :=
        if rxSegment.details &&& TCP_FIN ≠ 0 ∧ rxSegment.details &&& TCP_ACK ≠ 0 then .returned
        else .sendAnother
      nextSegmentIndex, lastUnACKdIndex }

def ClientCall.take (call : ClientCall) (segmentsToSend : List TCP) (client : Client)
    (rxFrame : MPDU) : Option Client :=
  match client.point with
  | .waitSYNACK =>
    match decodeFrame rxFrame with
    | none => some { client with point := .outOfRange }
    | some (_, rxSegment) => some (call.takeSYNACK client rxSegment)
  | .waitACK =>
    match decodeFrame rxFrame with
    | none => some { client with point := .outOfRange }
    | some (_, rxSegment) => some (client.takeACK segmentsToSend rxSegment)
  | .returned => some client
  | .sendSYN | .sendACK | .loopTop | .sendAnother | .outOfRange => none

/-- `Host::TCP_client` after it has cut the file into segments and knows the destination's MAC. -/
def ClientCall.TCPClient (call : ClientCall) (segmentsToSend : List TCP) :
    Party Client MPDU MPDU where
  act := call.act segmentsToSend
  take := call.take segmentsToSend

/-! ### The server -/

/-- Where `TCP_server` is. -/
inductive ServerPoint
  | waitSYN
  | sendSYNACK
  | waitACK
  | resendSYNACK
  | waitSegment
  | sendReply
  | returned
  | outOfRange
  deriving DecidableEq

/-- The addresses of the server's host and the port of the call. -/
structure ServerCall where
  mac : Mac
  ip : UInt32
  thisPort : UInt16

/-- The variables of `TCP_server`; `rxSourceMac` is the source address of the last frame it got and
`written` what it has put into the file. -/
structure Server where
  point : ServerPoint
  txSegment : TCP
  txPacket : IP
  rxSourceMac : Mac
  lastRxSN : UInt32
  lastPayloadSize : ℕ
  connectionEstablished : Bool
  written : List UInt8

/-- `TCP_server` waiting for its first frame. -/
def Server.start (uninitialisedSegment : TCP) (uninitialisedPacket : IP)
    (uninitialisedSN : UInt32) : Server where
  point := .waitSYN
  txSegment := { uninitialisedSegment with payload := [] }
  txPacket := IP.new uninitialisedPacket
  rxSourceMac := []
  lastRxSN := uninitialisedSN
  lastPayloadSize := 0
  connectionEstablished := false
  written := []

/-- The sequence number that the server accepts next. -/
def Server.nextSN (server : Server) : UInt32 :=
  server.lastRxSN + UInt32.ofNat server.lastPayloadSize

def ServerCall.act (call : ServerCall) (server : Server) : Option (Server × Option MPDU) :=
  let txFrame := MPDU.ofPacket server.txPacket call.mac server.rxSourceMac
  match server.point with
  | .sendSYNACK => some ({ server with point := .waitACK }, some txFrame)
  | .resendSYNACK => some (server, some txFrame)
  | .sendReply =>
    some
      ({ server with
          point := if server.txSegment.details &&& TCP_FIN ≠ 0 then .returned else .waitSegment },
        some txFrame)
  | .waitSYN | .waitACK | .waitSegment | .returned | .outOfRange => none

def ServerCall.takeSYN (call : ServerCall) (server : Server) (rxFrame : MPDU) (rxPacket : IP)
    (rxSegment : TCP) : Server :=
  if rxSegment.details &&& TCP_SYN = 0 then server
  else
    let txSegment :=
      { server.txSegment with
        details := TCP_SYNACK, sequenceNumber := TCP_INITIAL_SN,
        ackNumber := rxSegment.sequenceNumber + 1, destinationPort := rxSegment.sourcePort,
        sourcePort := call.thisPort }
    { server with
      point := .sendSYNACK
      txSegment
      txPacket :=
        ((server.txPacket.encapTCP txSegment).setSourceIp call.ip).setDestinationIp
          rxPacket.sourceIp
      rxSourceMac := rxFrame.sourceMac }

def Server.takeACK (server : Server) (rxFrame : MPDU) (rxSegment : TCP) : Server :=
  if rxSegment.ackNumber ≠ server.txSegment.sequenceNumber + 1 ∨
      rxSegment.details &&& TCP_ACK = 0 then
    { server with point := .resendSYNACK, rxSourceMac := rxFrame.sourceMac }
  else
    { server with
      point := .waitSegment
      lastRxSN := rxSegment.sequenceNumber
      connectionEstablished := true }

def Server.takeSegment (server : Server) (rxFrame : MPDU) (rxSegment : TCP) : Server :=
  if rxSegment.sequenceNumber = server.nextSN then
    let txSegment :=
      { server.txSegment with
        details := rxSegment.details ||| TCP_ACK
        sequenceNumber := rxSegment.ackNumber
        ackNumber := rxSegment.sequenceNumber + UInt32.ofNat rxSegment.payload.length }
    { server with
      point := .sendReply
      txSegment
      txPacket := server.txPacket.encapTCP txSegment
      rxSourceMac := rxFrame.sourceMac
      lastRxSN := rxSegment.sequenceNumber
      lastPayloadSize := rxSegment.payload.length
      written := server.written ++ rxSegment.payload }
  else { server with point := .sendReply, rxSourceMac := rxFrame.sourceMac }

def ServerCall.take (call : ServerCall) (server : Server) (rxFrame : MPDU) : Option Server :=
  match server.point with
  | .waitSYN =>
    match decodeFrame rxFrame with
    | none => some { server with point := .outOfRange }
    | some (rxPacket, rxSegment) => some (call.takeSYN server rxFrame rxPacket rxSegment)
  | .waitACK =>
    match decodeFrame rxFrame with
    | none => some { server with point := .outOfRange }
    | some (_, rxSegment) => some (server.takeACK rxFrame rxSegment)
  | .waitSegment =>
    match decodeFrame rxFrame with
    | none => some { server with point := .outOfRange }
    | some (_, rxSegment) => some (server.takeSegment rxFrame rxSegment)
  | .returned => some server
  | .sendSYNACK | .resendSYNACK | .sendReply | .outOfRange => none

/-- `Host::TCP_server`. -/
def ServerCall.TCPServer (call : ServerCall) : Party Server MPDU MPDU where
  act := call.act
  take := call.take

/-! ### A client and a server -/

/-- One call of each function, the file to send, and the values that uninitialised members have. -/
structure Session where
  client : ClientCall
  server : ServerCall
  file : List UInt8
  fileSegment : TCP
  clientSegment : TCP
  clientPacket : IP
  serverSegment : TCP
  serverPacket : IP
  serverSN : UInt32

namespace Session

variable (session : Session)

/-- `segments_to_send`; empty only if `file_to_TCP_segments` has no result. -/
def segmentsToSend : List TCP :=
  (fileToTCPSegments session.fileSegment session.file session.client.thisPort
    session.client.destPort maximumPayloadBytes).getD []

/-- The two parties on sockets that receive only each other's frames. -/
def connection : ScheduledSystem (Duplex Client Server MPDU MPDU) Duplex.Event :=
  Duplex.system (session.client.TCPClient session.segmentsToSend) session.server.TCPServer
    (session.client.start session.clientSegment session.clientPacket)
    (Server.start session.serverSegment session.serverPacket session.serverSN)

/-- A file that is not empty is sent in segments that make it up. -/
theorem isSegmentation (hfile : session.file ≠ []) :
    IsSegmentation maximumPayloadBytes session.file session.segmentsToSend := by
  obtain ⟨segments, hsegments, hsegmentation⟩ := exists_segmentation session.fileSegment
    session.client.thisPort session.client.destPort hfile (show 1 ≤ maximumPayloadBytes by decide)
  rw [segmentsToSend, hsegments]
  exact hsegmentation

end Session

/-- Three bytes from one host to another. -/
def threeBytes : Session where
  client := ⟨[0, 0, 0, 0, 0, 1], 1, 30000, 2, 50000, [0, 0, 0, 0, 0, 2]⟩
  server := ⟨[0, 0, 0, 0, 0, 2], 2, 50000⟩
  file := [7, 8, 9]
  fileSegment := ⟨0, 0, 0, 0, 0, 0, 0, []⟩
  clientSegment := ⟨0, 0, 0, 0, 0, 0, 0, []⟩
  clientPacket := ⟨0, 0, 0, 0, 0, []⟩
  serverSegment := ⟨0, 0, 0, 0, 0, 0, 0, []⟩
  serverPacket := ⟨0, 0, 0, 0, 0, []⟩
  serverSN := 0

/-- A file of three segments. -/
def threeSegments : Session :=
  { threeBytes with file := List.replicate (2 * maximumPayloadBytes + 4) 7 }

end NetworkSimulation.Tcp
