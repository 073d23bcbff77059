import NetworkSimulation.Library.LoopRules
import NetworkSimulation.Library.ScheduledSystem
import NetworkSimulation.Stack.Demultiplexing

/-!
# Opening and closing sockets

`Host::create_socket` looks for a port that no open socket uses, from the requested one upwards. Its
`do` loop goes on while `port_found` is 0, and nothing in it sets `port_found` to anything else:
where a socket is open the search goes on for ever, also on a port that is free
(`createSocket_diverges`). Only a host without sockets gets one (`createsSocket_iff`), so two
sockets never share a port.
-/

set_option autoImplicit false
set_option relaxedAutoImplicit false

namespace NetworkSimulation.Stack

open Library

/-- What the search of `create_socket` changes. -/
structure PortSearch where
  testPortNumber : UInt16
  portFound : UInt8
  deriving DecidableEq

/-- The `for` loop of `create_socket`, which the first socket with the tested port ends. -/
def scanPorts : List Socket → PortSearch → PortSearch
  | [], search => search
  | socket :: rest, search =>
    if socket.port = search.testPortNumber then
      { portFound := 0, testPortNumber := search.testPortNumber + 1 }
    else scanPorts rest search

/-- A round of the `do` loop of `create_socket`. Nothing in it can fail. -/
def searchPort (openPorts : List Socket) (search : PortSearch) :
    Except (Stop Empty) (Round PortSearch PortSearch) :=
  let search := scanPorts openPorts search
  .ok (if search.portFound = 0 then .again search else .done search)

/-- `Host::create_socket`, its loop run for at most so many rounds: the new socket, and the open
ones after the call. -/
def createSocket (rounds : ℕ) (openPorts : List Socket) (requestedPortNumber : UInt16)
    (protocolNumber : UInt8) : Except (Stop Empty) (Socket × List Socket) :=
  let search : Except (Stop Empty) PortSearch :=
    if openPorts.length > 0 then
      loop (searchPort openPorts) rounds { testPortNumber := requestedPortNumber, portFound := 0 }
    else .ok { testPortNumber := requestedPortNumber, portFound := 0 }
  search.map fun found ↦
    let socket := { port := found.testPortNumber, protocol := protocolNumber }
    (socket, openPorts ++ [socket])

/-- `Host::delete_socket`. -/
def deleteSocket (openPorts : List Socket) (portNum : UInt16) : List Socket :=
  openPorts.filter fun socket ↦ socket.port ≠ portNum

/-! ### The search -/

theorem portFound_scanPorts (openPorts : List Socket) {search : PortSearch}
    (h : search.portFound = 0) : (scanPorts openPorts search).portFound = 0 := by
  induction openPorts with
  | nil => exact h
  | cons socket rest ih =>
    rw [scanPorts]
    split_ifs
    · rfl
    · exact ih

/-- The search of `create_socket` does not end. -/
theorem searchPort_diverges (openPorts : List Socket) (requestedPortNumber : UInt16)
    (rounds : ℕ) :
    loop (searchPort openPorts) rounds ⟨requestedPortNumber, 0⟩ = .error .outOfRounds := by
  have hround (search : PortSearch) (hsearch : search.portFound = 0) :
      ∃ next, searchPort openPorts search = .ok (.again next) ∧ next.portFound = 0 := by
    have hscanned := portFound_scanPorts openPorts hsearch
    refine ⟨_, ?_, hscanned⟩
    rw [searchPort, if_pos hscanned]
  exact loop_diverges hround rfl rounds

theorem createSocket_diverges {openPorts : List Socket} (hopen : openPorts ≠ []) (rounds : ℕ)
    (requestedPortNumber : UInt16) (protocolNumber : UInt8) :
    createSocket rounds openPorts requestedPortNumber protocolNumber = .error .outOfRounds := by
  simp only [createSocket]
  rw [if_pos (List.length_pos_iff.mpr hopen), searchPort_diverges]
  rfl

theorem createSocket_nil (rounds : ℕ) (requestedPortNumber : UInt16) (protocolNumber : UInt8) :
    createSocket rounds [] requestedPortNumber protocolNumber =
      .ok (⟨requestedPortNumber, protocolNumber⟩, [⟨requestedPortNumber, protocolNumber⟩]) := rfl

/-! ### What a call is for -/

/-- The call ends, and appends one socket: with the first port, counted upwards from the requested
one in 16 bits, that no open socket uses. -/
def CreatesSocket (openPorts : List Socket) (requestedPortNumber : UInt16)
    (protocolNumber : UInt8) : Prop :=
  ∃ rounds above, above < 65536 ∧
    createSocket rounds openPorts requestedPortNumber protocolNumber =
      .ok (⟨requestedPortNumber + UInt16.ofNat above, protocolNumber⟩,
        openPorts ++ [⟨requestedPortNumber + UInt16.ofNat above, protocolNumber⟩]) ∧
    (∀ socket ∈ openPorts, socket.port ≠ requestedPortNumber + UInt16.ofNat above) ∧
    ∀ below < above, ∃ socket ∈ openPorts,
      socket.port = requestedPortNumber + UInt16.ofNat below

def DistinctPorts (openPorts : List Socket) : Prop := (openPorts.map Socket.port).Nodup

/-- A call of one of the two functions. -/
inductive SocketCall
  | create (requestedPortNumber : UInt16) (protocolNumber : UInt8)
  | delete (portNum : UInt16)
  deriving DecidableEq

/-- Calls that return, one after the other, with a number of rounds for each search. -/
def socketCalls (openPorts : List Socket) : ScheduledSystem (List Socket) (ℕ × SocketCall) where
  init := openPorts
  step openPorts call :=
    match call with
    | (rounds, .create requestedPortNumber protocolNumber) =>
      (createSocket rounds openPorts requestedPortNumber protocolNumber).toOption.map Prod.snd
    | (_, .delete portNum) => some (deleteSocket openPorts portNum)

theorem DistinctPorts.step {openPorts later : List Socket} {call : ℕ × SocketCall}
    {start : List Socket} (h : DistinctPorts openPorts)
    (hstep : (socketCalls start).step openPorts call = some later) : DistinctPorts later := by
  obtain ⟨rounds, call⟩ := call
  cases call with
  | create requestedPortNumber protocolNumber =>
    by_cases hopen : openPorts = []
    · subst hopen
      cases hstep
      exact List.nodup_singleton _
    · change (createSocket rounds openPorts requestedPortNumber protocolNumber).toOption.map
        Prod.snd = some later at hstep
      rw [createSocket_diverges hopen] at hstep
      cases hstep
  | delete portNum =>
    cases hstep
    exact h.sublist (List.filter_sublist.map Socket.port)

/-- A call creates its socket exactly when no socket is open; and the ports stay distinct over every
sequence of calls. -/
theorem createsSocket_iff (openPorts : List Socket) (requestedPortNumber : UInt16)
    (protocolNumber : UInt8) (hdistinct : DistinctPorts openPorts) :
    (CreatesSocket openPorts requestedPortNumber protocolNumber ↔ openPorts = []) ∧
      ∀ later, (socketCalls openPorts).Reachable (fun _ _ ↦ True) later →
        DistinctPorts later := by
  refine ⟨⟨?_, ?_⟩, fun later hlater ↦ ?_⟩
  · rintro ⟨rounds, above, -, hcreate, -⟩
    by_contra hopen
    rw [createSocket_diverges hopen] at hcreate
    cases hcreate
  · rintro rfl
    refine ⟨0, 0, by decide, ?_, List.forall_mem_nil _, fun below hbelow ↦ ?_⟩
    · have hzero : requestedPortNumber + UInt16.ofNat 0 = requestedPortNumber := add_zero _
      rw [createSocket_nil, hzero, List.nil_append]
    · exact absurd hbelow (Nat.not_lt_zero _)
  · exact hlater.invariant (fun _ _ _ h _ hstep ↦ h.step hstep) hdistinct

theorem createsSocket_witness :
    (CreatesSocket [⟨30000, IP_PROTOCOL_TCP⟩] 30000 IP_PROTOCOL_UDP ↔
        [(⟨30000, IP_PROTOCOL_TCP⟩ : Socket)] = []) ∧
      ∀ later, (socketCalls [⟨30000, IP_PROTOCOL_TCP⟩]).Reachable (fun _ _ ↦ True) later →
        DistinctPorts later :=
  createsSocket_iff [⟨30000, IP_PROTOCOL_TCP⟩] 30000 IP_PROTOCOL_UDP (List.nodup_singleton _)

/-- A second socket, on a port that is free: the call does not return. -/
theorem not_createsSocket_second :
    ¬ CreatesSocket [⟨30000, IP_PROTOCOL_TCP⟩] 50000 IP_PROTOCOL_UDP := by
  rintro ⟨rounds, above, -, hcreate, -⟩
  rw [createSocket_diverges (List.cons_ne_nil _ _)] at hcreate
  cases hcreate

end NetworkSimulation.Stack
