import NetworkSimulation.Library.ScheduledSystem
import NetworkSimulation.Dhcp.Messages

/-!
# The DHCP server

`DHCPServer::run` looks the source of a frame up in its table before it parses the frame, and
answers from the entry found. The entry that `get_entry` returns where it finds none has an empty
address and an `ip` that nobody has written; that value is part of the event, so it may be any.

A table is only ever extended, by one entry for a source that has none (`process_discover`,
`process_request`). `Leased` says what the table means: which address a source has been given.
-/

set_option autoImplicit false
set_option relaxedAutoImplicit false

namespace NetworkSimulation.Dhcp

open Library Stack

structure DHCPEntry where
  mac : Mac
  ip : UInt32
  currentOpcode : UInt8
  deriving DecidableEq

abbrev Table := List DHCPEntry

/-- `get_entry`. The loop does not stop at an entry it finds, so the last one counts. -/
def getEntry (table : Table) (uninitialised : UInt32) (testMac : Mac) : DHCPEntry :=
  table.foldl (fun result entry ↦ if compareMacs testMac entry.mac then entry else result)
    ⟨[], uninitialised, DHCP_NO_ENTRY⟩

/-- The entry that is added for a source without one. -/
def newEntry (uninitialised : UInt32) (mac : Mac) : DHCPEntry where
  mac
  ip :=
    if compareMacs (createUniformMac 0x11) mac then createIp 111 111 111 111
    else if compareMacs (createUniformMac 0x22) mac then createIp 222 222 222 222
    else uninitialised -- "unexpected MAC" is printed, and the member stays as it is
  currentOpcode := DHCP_OFFER

/-- The members of the server that `run` only reads. -/
structure DHCPServer where
  gwMac : Mac
  gwIp : UInt32

namespace DHCPServer

variable (server : DHCPServer)

/-- The frame around an answer, which goes out in the packet and the segment received. -/
def reply (packet : IP) (segment : UDP) (message : DHCP) (destinationMac : Mac) : MPDU :=
  let segment := { segment with
    sourcePort := BOOTP_SERVER_PORT
    destinationPort := BOOTP_CLIENT_PORT
    payload := message.bytes }
  MPDU.ofPacket (packet.encapUDP segment) server.gwMac destinationMac

/-- One round of `run`: the table afterwards and the frames transmitted; `none` if a decoder reads
out of range. -/
def process (table : Table) (uninitialised : UInt32) (rxFrame : MPDU) :
    Option (Table × List MPDU) :=
  let entry := getEntry table uninitialised rxFrame.sourceMac
  match IP.generate rxFrame.SDU with
  | none => none
  | some packet =>
    match generateUDP packet.SDU with
    | none => none
    | some segment =>
      match generateDHCP segment.payload with
      | none => none
      | some message =>
        if message.opcode = DHCP_DISCOVER then
          let (entry, table) :=
            if entry.currentOpcode = DHCP_NO_ENTRY then
              let entry := newEntry entry.ip rxFrame.sourceMac
              (entry, table ++ [entry])
            else (entry, table)
          let message := { message with opcode := DHCP_OFFER, yourIp := entry.ip }
          let packet := (packet.setSourceIp server.gwIp).setDestinationIp createBroadcastIp
          some (table, [server.reply packet segment message entry.mac])
        else if message.opcode = DHCP_REQUEST then
          let message :=
            if message.clientIp = entry.ip then { message with opcode := DHCP_ACK }
            else { message with opcode := DHCP_NACK, yourIp := entry.ip }
          some (table, [server.reply packet segment message entry.mac])
        else some (table, [])

end DHCPServer

/-! ### Looking an entry up -/

section GetEntry

variable {table : Table} {uninitialised : UInt32} {mac : Mac} {entry : DHCPEntry}

@[simp] theorem getEntry_append_singleton : getEntry (table ++ [entry]) uninitialised mac =
    if compareMacs mac entry.mac then entry else getEntry table uninitialised mac := by
  rw [getEntry, List.foldl_append]
  rfl

/-- The table has an entry for the address. -/
def Known (table : Table) (mac : Mac) : Prop := ∃ entry ∈ table, compareMacs mac entry.mac = true

instance : Decidable (Known table mac) :=
  inferInstanceAs (Decidable (∃ entry ∈ table, compareMacs mac entry.mac = true))

theorem getEntry_of_known (uninitialised : UInt32) (h : Known table mac) :
    getEntry table uninitialised mac ∈ table ∧
      compareMacs mac (getEntry table uninitialised mac).mac = true := by
  induction table using List.reverseRecOn with
  | nil =>
    obtain ⟨_, hentry, -⟩ := h
    cases hentry
  | append_singleton table entry ih =>
    rw [getEntry_append_singleton]
    split_ifs with hlast
    · exact ⟨List.mem_append_right _ (List.mem_singleton_self _), hlast⟩
    · obtain ⟨found, hfound, hmac⟩ := h
      rcases List.mem_append.mp hfound with hbefore | hhere
      · obtain ⟨hmember, hcompare⟩ := ih ⟨found, hbefore, hmac⟩
        exact ⟨List.mem_append_left _ hmember, hcompare⟩
      · rw [List.mem_singleton.mp hhere] at hmac
        exact absurd hmac hlast

theorem getEntry_of_not_known (h : ¬ Known table mac) :
    getEntry table uninitialised mac = ⟨[], uninitialised, DHCP_NO_ENTRY⟩ := by
  induction table using List.reverseRecOn with
  | nil => rfl
  | append_singleton table entry ih =>
    have hlast : ¬ compareMacs mac entry.mac = true := fun hmac ↦
      h ⟨entry, List.mem_append_right _ (List.mem_singleton_self _), hmac⟩
    rw [getEntry_append_singleton, if_neg hlast]
    exact ih fun ⟨found, hfound, hmac⟩ ↦ h ⟨found, List.mem_append_left _ hfound, hmac⟩

end GetEntry

/-! ### What a table means -/

/-- Every entry is an offer, and no two are for the same address. -/
structure Sound (table : Table) : Prop where
  offered : ∀ entry ∈ table, entry.currentOpcode = DHCP_OFFER
  distinct : table.Pairwise fun first second ↦ compareMacs first.mac second.mac = false

/-- The table gives this address to this source. -/
def Leased (table : Table) (mac : Mac) (ip : UInt32) : Prop :=
  ∃ entry ∈ table, compareMacs mac entry.mac = true ∧ entry.ip = ip

/-- The table after a DISCOVER. -/
def extend (table : Table) (uninitialised : UInt32) (mac : Mac) : Table :=
  if Known table mac then table else table ++ [newEntry uninitialised mac]

section Leases

variable {table later : Table} {uninitialised ip ip' : UInt32} {mac mac' : Mac}
  {first second : DHCPEntry}

/-- An entry for an address is the only one for it. -/
theorem Sound.eq_of_mem (h : Sound table) (hfirst : first ∈ table) (hsecond : second ∈ table)
    (hmac : compareMacs first.mac second.mac = true) : first = second := by
  have hsymm : Std.Symm fun a b : DHCPEntry ↦ compareMacs a.mac b.mac = false :=
    ⟨fun a b hab ↦ compareMacs_comm b.mac a.mac ▸ hab⟩
  by_contra hne
  have hapart := h.distinct.forall hfirst hsecond hne
  rw [hmac] at hapart
  cases hapart

/-- A table gives a source one address. -/
theorem Leased.unique (hsound : Sound table) (h : Leased table mac ip)
    (h' : Leased table mac' ip') (hmac : compareMacs mac mac' = true) : ip = ip' := by
  obtain ⟨first, hfirst, hsame, rfl⟩ := h
  obtain ⟨second, hsecond, hsame', rfl⟩ := h'
  rw [compareMacs_comm] at hsame
  rw [hsound.eq_of_mem hfirst hsecond (compareMacs_trans hsame (compareMacs_trans hmac hsame'))]

theorem Leased.mono (hgrows : table <+: later) (h : Leased table mac ip) : Leased later mac ip := by
  obtain ⟨entry, hentry, hfound⟩ := h
  exact ⟨entry, hgrows.subset hentry, hfound⟩

theorem Known.mono (hgrows : table <+: later) (h : Known table mac) : Known later mac := by
  obtain ⟨entry, hentry, hmac⟩ := h
  exact ⟨entry, hgrows.subset hentry, hmac⟩

theorem Leased.known (h : Leased table mac ip) : Known table mac := by
  obtain ⟨entry, hentry, hmac, -⟩ := h
  exact ⟨entry, hentry, hmac⟩

/-- The entry looked up for a source that has one gives its address. -/
theorem leased_getEntry (h : Known table mac) :
    Leased table mac (getEntry table uninitialised mac).ip := by
  obtain ⟨hentry, hmac⟩ := getEntry_of_known uninitialised h
  exact ⟨_, hentry, hmac, rfl⟩

theorem isPrefix_extend : table <+: extend table uninitialised mac := by
  rw [extend]
  split_ifs
  · exact List.prefix_rfl
  · exact List.prefix_append _ _

theorem known_extend : Known (extend table uninitialised mac) mac := by
  rw [extend]
  split_ifs with hknown
  · exact hknown
  · exact ⟨newEntry uninitialised mac, List.mem_append_right _ (List.mem_singleton_self _),
      compareMacs_self mac⟩

theorem Sound.extend (h : Sound table) : Sound (extend table uninitialised mac) := by
  rw [Dhcp.extend]
  split_ifs with hknown
  · exact h
  · refine ⟨fun entry hentry ↦ ?_,
      List.pairwise_append.mpr ⟨h.distinct, List.pairwise_singleton _ _, ?_⟩⟩
    · rcases List.mem_append.mp hentry with hbefore | hnew
      · exact h.offered entry hbefore
      · rw [List.mem_singleton.mp hnew]
        rfl
    · intro entry hentry added hadded
      rw [List.mem_singleton.mp hadded]
      by_contra hmac
      rw [Bool.not_eq_false, compareMacs_comm] at hmac
      exact hknown ⟨entry, hentry, hmac⟩

end Leases

/-! ### What a frame does -/

namespace DHCPServer

section Process

variable {server : DHCPServer} {table : Table} {uninitialised : UInt32} {rxFrame : MPDU}
  {message : DHCP}

/-- The reply of the server: its addresses, its ports and its message. -/
structure Replies (server : DHCPServer) (reply : MPDU) (destinationMac : Mac) (message : DHCP) :
    Prop where
  sourceMac : reply.sourceMac = server.gwMac
  destinationMac : reply.destinationMac = destinationMac
  message : dhcpMessage reply = some message
  ports : ∃ segment, reply.udpSegment = some segment ∧ segment.sourcePort = BOOTP_SERVER_PORT ∧
    segment.destinationPort = BOOTP_CLIENT_PORT

theorem replies_reply (server : DHCPServer) (packet : IP) (segment : UDP) (message : DHCP)
    (destinationMac : Mac) :
    server.Replies (server.reply packet segment message destinationMac) destinationMac message where
  sourceMac := rfl
  destinationMac := rfl
  message := dhcpMessage_ofPacket (IP.carries_encap packet _ _) rfl _ _
  ports := ⟨_, udpSegment_of_dhcp (IP.carries_encap packet _ _) rfl _ _, rfl, rfl⟩

/-- A DISCOVER adds an entry for its source unless there is one, and is answered by an OFFER from
the entry. -/
theorem process_discover (server : DHCPServer) (uninitialised : UInt32) (hsound : Sound table)
    (hmessage : dhcpMessage rxFrame = some message) (hopcode : message.opcode = DHCP_DISCOVER) :
    ∃ reply, server.process table uninitialised rxFrame =
        some (extend table uninitialised rxFrame.sourceMac, [reply]) ∧
      ∃ entry ∈ extend table uninitialised rxFrame.sourceMac,
        compareMacs rxFrame.sourceMac entry.mac = true ∧
          server.Replies reply entry.mac ⟨DHCP_OFFER, message.clientIp, entry.ip⟩ := by
  obtain ⟨packet, segment, hpacket, hsegment, hdhcp⟩ := exists_of_dhcpMessage hmessage
  simp only [process, hpacket, hsegment, hdhcp, if_pos hopcode]
  by_cases hknown : Known table rxFrame.sourceMac
  · obtain ⟨hentry, hmac⟩ := getEntry_of_known uninitialised hknown
    have hoffered : (getEntry table uninitialised rxFrame.sourceMac).currentOpcode ≠
        DHCP_NO_ENTRY := by
      rw [hsound.offered _ hentry]
      decide
    rw [if_neg hoffered, extend, if_pos hknown]
    exact ⟨_, rfl, _, hentry, hmac, server.replies_reply _ _ _ _⟩
  · rw [getEntry_of_not_known hknown, extend, if_neg hknown, if_pos rfl]
    exact ⟨_, rfl, _, List.mem_append_right _ (List.mem_singleton_self _), compareMacs_self _,
      server.replies_reply _ _ _ _⟩

/-- What a REQUEST is answered with. -/
def answer (entry : DHCPEntry) (message : DHCP) : DHCP :=
  if message.clientIp = entry.ip then { message with opcode := DHCP_ACK }
  else { message with opcode := DHCP_NACK, yourIp := entry.ip }

/-- A REQUEST leaves the table as it is and is answered from the entry looked up. -/
theorem process_request (server : DHCPServer) (table : Table) (uninitialised : UInt32)
    (hmessage : dhcpMessage rxFrame = some message)
    (hopcode : message.opcode = DHCP_REQUEST) :
    ∃ reply, server.process table uninitialised rxFrame = some (table, [reply]) ∧
      server.Replies reply (getEntry table uninitialised rxFrame.sourceMac).mac
        (answer (getEntry table uninitialised rxFrame.sourceMac) message) := by
  obtain ⟨packet, segment, hpacket, hsegment, hdhcp⟩ := exists_of_dhcpMessage hmessage
  have hother : message.opcode ≠ DHCP_DISCOVER := by
    rw [hopcode]
    decide
  simp only [process, hpacket, hsegment, hdhcp, if_neg hother, if_pos hopcode]
  exact ⟨_, rfl, server.replies_reply _ _ _ _⟩

/-- Any other message is ignored. -/
theorem process_other (hmessage : dhcpMessage rxFrame = some message)
    (hdiscover : message.opcode ≠ DHCP_DISCOVER) (hrequest : message.opcode ≠ DHCP_REQUEST) :
    server.process table uninitialised rxFrame = some (table, []) := by
  obtain ⟨packet, segment, hpacket, hsegment, hdhcp⟩ := exists_of_dhcpMessage hmessage
  simp only [process, hpacket, hsegment, hdhcp, if_neg hdiscover, if_neg hrequest]

/-- A frame that the server can process has a message. -/
theorem exists_of_process {outcome : Table × List MPDU}
    (h : server.process table uninitialised rxFrame = some outcome) :
    ∃ message, dhcpMessage rxFrame = some message := by
  rw [process] at h
  cases hpacket : IP.generate rxFrame.SDU with
  | none => simp [hpacket] at h
  | some packet =>
    cases hsegment : generateUDP packet.SDU with
    | none => simp [hpacket, hsegment] at h
    | some segment =>
      cases hdhcp : generateDHCP segment.payload with
      | none => simp [hpacket, hsegment, hdhcp] at h
      | some message =>
        refine ⟨message, ?_⟩
        simp [dhcpMessage, MPDU.udpSegment, hpacket, hsegment, hdhcp]

/-- The three ways in which the server deals with a message. -/
inductive Deals (server : DHCPServer) (table : Table) (uninitialised : UInt32) (sourceMac : Mac)
    (message : DHCP) : Table → List MPDU → Prop
  | discover (hopcode : message.opcode = DHCP_DISCOVER) {reply : MPDU} {entry : DHCPEntry}
      (hentry : entry ∈ extend table uninitialised sourceMac)
      (hmac : compareMacs sourceMac entry.mac = true)
      (hreply : server.Replies reply entry.mac ⟨DHCP_OFFER, message.clientIp, entry.ip⟩) :
      Deals server table uninitialised sourceMac message (extend table uninitialised sourceMac)
        [reply]
  | request (hopcode : message.opcode = DHCP_REQUEST) {reply : MPDU}
      (hreply : server.Replies reply (getEntry table uninitialised sourceMac).mac
        (answer (getEntry table uninitialised sourceMac) message)) :
      Deals server table uninitialised sourceMac message table [reply]
  | other (hdiscover : message.opcode ≠ DHCP_DISCOVER) (hrequest : message.opcode ≠ DHCP_REQUEST) :
      Deals server table uninitialised sourceMac message table []

/-- A frame with a message is processed, in one of the three ways. -/
theorem exists_deals (server : DHCPServer) (uninitialised : UInt32) (hsound : Sound table)
    (hmessage : dhcpMessage rxFrame = some message) :
    ∃ table' replies, server.process table uninitialised rxFrame = some (table', replies) ∧
      server.Deals table uninitialised rxFrame.sourceMac message table' replies := by
  by_cases hdiscover : message.opcode = DHCP_DISCOVER
  · obtain ⟨reply, hprocess, entry, hentry, hmac, hreply⟩ :=
      server.process_discover uninitialised hsound hmessage hdiscover
    exact ⟨_, _, hprocess, .discover hdiscover hentry hmac hreply⟩
  by_cases hrequest : message.opcode = DHCP_REQUEST
  · obtain ⟨reply, hprocess, hreply⟩ :=
      server.process_request table uninitialised hmessage hrequest
    exact ⟨_, _, hprocess, .request hrequest hreply⟩
  · exact ⟨_, _, server.process_other hmessage hdiscover hrequest, .other hdiscover hrequest⟩

theorem deals_of_process (hsound : Sound table) {table' : Table} {replies : List MPDU}
    (h : server.process table uninitialised rxFrame = some (table', replies)) :
    ∃ message, dhcpMessage rxFrame = some message ∧
      server.Deals table uninitialised rxFrame.sourceMac message table' replies := by
  obtain ⟨message, hmessage⟩ := exists_of_process h
  obtain ⟨_, _, hprocess, hdeals⟩ :=
    exists_deals server uninitialised hsound hmessage
  rw [h] at hprocess
  cases hprocess
  exact ⟨message, hmessage, hdeals⟩

theorem Deals.sound (hsound : Sound table) {sourceMac : Mac} {table' : Table}
    {replies : List MPDU}
    (h : server.Deals table uninitialised sourceMac message table' replies) : Sound table' := by
  cases h with
  | discover => exact hsound.extend
  | request => exact hsound
  | other => exact hsound

theorem Deals.grows {sourceMac : Mac} {table' : Table} {replies : List MPDU}
    (h : server.Deals table uninitialised sourceMac message table' replies) : table <+: table' := by
  cases h with
  | discover => exact isPrefix_extend
  | request => exact List.prefix_rfl
  | other => exact List.prefix_rfl

end Process

end DHCPServer

/-! ### Frame after frame -/

/-- A frame from the queue, and the value of the member nobody has written. -/
structure Arrival where
  uninitialised : UInt32
  rxFrame : MPDU
  deriving DecidableEq

/-- A frame that was processed, the table after it and the frames transmitted. -/
structure Exchange where
  arrival : Arrival
  table : Table
  replies : List MPDU
  deriving DecidableEq

/-- The table, and what the server has done so far. -/
structure ServerState where
  table : Table
  exchanges : List Exchange
  deriving DecidableEq

/-- `DHCPServer::run` on the frames that arrive. -/
def DHCPServer.system (server : DHCPServer) : ScheduledSystem ServerState Arrival where
  init := ⟨[], []⟩
  step s arrival :=
    (server.process s.table arrival.uninitialised arrival.rxFrame).map fun (table, replies) ↦
      ⟨table, s.exchanges ++ [⟨arrival, table, replies⟩]⟩

def anyArrival (_ : ServerState) (_ : Arrival) : Prop := True

instance (s : ServerState) (arrival : Arrival) : Decidable (anyArrival s arrival) := .isTrue trivial

/-- What a step does to a sound table. -/
theorem DHCPServer.step_deals {server : DHCPServer} {s t : ServerState} {arrival : Arrival}
    (hsound : Sound s.table) (h : server.system.step s arrival = some t) :
    ∃ message replies, dhcpMessage arrival.rxFrame = some message ∧
      server.Deals s.table arrival.uninitialised arrival.rxFrame.sourceMac message t.table replies ∧
        t.exchanges = s.exchanges ++ [⟨arrival, t.table, replies⟩] := by
  obtain ⟨⟨table, replies⟩, hprocess, rfl⟩ := Option.map_eq_some_iff.mp h
  obtain ⟨message, hmessage, hdeals⟩ := deals_of_process hsound hprocess
  exact ⟨message, replies, hmessage, hdeals, rfl⟩

end NetworkSimulation.Dhcp
