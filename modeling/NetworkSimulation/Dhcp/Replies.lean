import NetworkSimulation.Dhcp.Leases

/-!
# What the server answers

The answer to a REQUEST is the message received with its opcode overwritten, so an ACK names the
address of the table only if the request does (`acksStored_iff`). Every answer is sent to the
address of the entry looked up, which is the source of the frame only if that has asked for an
address before (`repliesAddressed_iff`).
-/

set_option autoImplicit false
set_option relaxedAutoImplicit false

namespace NetworkSimulation.Dhcp

open Library Stack DHCPServer

/-! ### What an ACK confirms -/

/-- An ACK names the address that the table gave to the sender of the request when it was sent. -/
def AckStored (exchange : Exchange) : Prop :=
  ∀ reply ∈ exchange.replies, ∀ ack, dhcpMessage reply = some ack → ack.opcode = DHCP_ACK →
    Leased exchange.table exchange.arrival.rxFrame.sourceMac ack.yourIp

def AcksStored (s : ServerState) : Prop := ∀ exchange ∈ s.exchanges, AckStored exchange

/-- A REQUEST that will be granted, since its `client_ip` is that of the entry looked up, comes from
a client with an entry and names the same address as its `your_ip`. -/
def RequestsStored (s : ServerState) (arrival : Arrival) : Prop :=
  ∀ message ∈ dhcpMessage arrival.rxFrame, message.opcode = DHCP_REQUEST →
    message.clientIp =
        (getEntry s.table arrival.uninitialised arrival.rxFrame.sourceMac).ip →
      Known s.table arrival.rxFrame.sourceMac ∧ message.yourIp = message.clientIp

instance (s : ServerState) (arrival : Arrival) : Decidable (RequestsStored s arrival) :=
  inferInstanceAs (Decidable (∀ message ∈ dhcpMessage arrival.rxFrame, _))

section Acks

variable {server : DHCPServer} {s t : ServerState} {arrival : Arrival} {schedule : List Arrival}

/-- Whether the answer to a message is right is decided by the message and the table before it. -/
theorem ackStored_iff (hsound : Sound s.table) {message : DHCP} {table : Table}
    {replies : List MPDU} (hmessage : dhcpMessage arrival.rxFrame = some message)
    (h : server.Deals s.table arrival.uninitialised arrival.rxFrame.sourceMac message table
      replies) : AckStored ⟨arrival, table, replies⟩ ↔ RequestsStored s arrival := by
  have hrequests : RequestsStored s arrival ↔ (message.opcode = DHCP_REQUEST → message.clientIp =
        (getEntry s.table arrival.uninitialised arrival.rxFrame.sourceMac).ip →
      Known s.table arrival.rxFrame.sourceMac ∧ message.yourIp = message.clientIp) := by
    rw [RequestsStored, hmessage]
    simp
  rw [hrequests]
  cases h with
  | discover hopcode hentry hmac hreply =>
    refine iff_of_true ?_ fun hrequest ↦ ?_
    · intro reply hmember ack hack hgranted
      obtain rfl := List.mem_singleton.mp hmember
      cases hack.symm.trans hreply.message
      cases hgranted
    · cases hopcode.symm.trans hrequest
  | @request hopcode reply hreply =>
    have hstored : AckStored ⟨arrival, s.table, [reply]⟩ ↔
        ((answer (getEntry s.table arrival.uninitialised arrival.rxFrame.sourceMac) message).opcode =
          DHCP_ACK → Leased s.table arrival.rxFrame.sourceMac (answer
            (getEntry s.table arrival.uninitialised arrival.rxFrame.sourceMac) message).yourIp) := by
      simp [AckStored, hreply.message]
    rw [hstored, answer]
    split_ifs with hgranted
    · refine ⟨fun hleased _ _ ↦ ?_, fun hnamed _ ↦ ?_⟩
      · have hleased := hleased rfl
        exact ⟨hleased.known, (hleased.unique hsound (leased_getEntry hleased.known)
          (compareMacs_self _)).trans hgranted.symm⟩
      · obtain ⟨hknown, hsame⟩ := hnamed hopcode hgranted
        change Leased _ _ message.yourIp
        rw [hsame, hgranted]
        exact leased_getEntry hknown
    · have hrefused : DHCP_NACK ≠ DHCP_ACK := by decide
      exact iff_of_true (fun hack ↦ absurd hack hrefused) fun _ hsame ↦ absurd hsame hgranted
  | other hdiscover hrequest =>
    exact iff_of_true (fun reply hreply ↦ absurd hreply List.not_mem_nil)
      fun hopcode ↦ absurd hopcode hrequest

/-- In a run, every ACK names the address of the table exactly when every REQUEST that is granted
comes from a client with an entry and asks for one address only. -/
theorem acksStored_iff
    (h : server.system.run anyArrival server.system.init schedule = some s) :
    AcksStored s ↔ server.system.run RequestsStored server.system.init schedule = some s := by
  have hstep (u : ServerState) (arrival : Arrival) (v : ServerState) (hsound : Sound u.table)
      (_ : anyArrival u arrival) (hnext : server.system.step u arrival = some v) :
      Sound v.table ∧ (AcksStored v ↔ AcksStored u ∧ RequestsStored u arrival) := by
    obtain ⟨message, replies, hmessage, hdeals, hexchanges⟩ := step_deals hsound hnext
    refine ⟨hdeals.sound hsound, ?_⟩
    rw [AcksStored, hexchanges, List.forall_mem_append, List.forall_mem_singleton,
      ackStored_iff hsound hmessage hdeals]
    rfl
  have hinit : AcksStored server.system.init := nofun
  rw [ScheduledSystem.run_iff_of_step hstep consistent_init.sound h, and_iff_right hinit]

end Acks

/-- A client that asks for the address it was offered. -/
theorem acksStored_iff_witness :
    ∃ h : (gateway.system.run anyArrival gateway.system.init [discoverFrom 0x11,
        requestFrom 0x11 (createIp 111 111 111 111) (createIp 111 111 111 111)]).isSome,
      AcksStored (Option.get _ h) ↔ gateway.system.run RequestsStored gateway.system.init
        [discoverFrom 0x11,
          requestFrom 0x11 (createIp 111 111 111 111) (createIp 111 111 111 111)] =
            some (Option.get _ h) :=
  ⟨by decide +kernel, acksStored_iff (Option.some_get _).symm⟩

/-- A client that names another address as its `your_ip`. -/
theorem not_acksStored : ¬ ∀ (server : DHCPServer) (s : ServerState),
    server.system.Reachable anyArrival s → AcksStored s := by
  intro h
  have hother : ∃ hrun : (gateway.system.run anyArrival gateway.system.init [discoverFrom 0x11,
      requestFrom 0x11 (createIp 111 111 111 111) 0]).isSome,
      ¬ ∀ exchange ∈ (Option.get _ hrun).exchanges, ∀ reply ∈ exchange.replies,
        ∀ ack ∈ dhcpMessage reply, ack.opcode = DHCP_ACK →
          ∃ entry ∈ exchange.table,
            compareMacs exchange.arrival.rxFrame.sourceMac entry.mac = true ∧
              entry.ip = ack.yourIp := by decide +kernel
  obtain ⟨hrun, hother⟩ := hother
  exact hother fun exchange hexchange reply hreply ack hack ↦
    h gateway _ (ScheduledSystem.reachable_of_isSome_run hrun) exchange hexchange reply hreply ack
      hack

/-! ### Where a reply goes -/

/-- A frame with a DISCOVER or a REQUEST from an address of six bytes. -/
structure WellFormed (frame : MPDU) : Prop where
  length_sourceMac : frame.sourceMac.length = 6
  opcode : IsDiscover frame ∨ IsRequest frame

/-- The frame is answered by one reply, to its source. -/
def Addressed (exchange : Exchange) : Prop := ∃ reply, exchange.replies = [reply] ∧
  reply.destinationMac = exchange.arrival.rxFrame.sourceMac

/-- Every REQUEST comes from a client that has sent a DISCOVER before. -/
def DiscoversFirst (frames : List MPDU) : Prop :=
  ∀ before frame after, frames = before ++ frame :: after → IsRequest frame →
    ∃ earlier ∈ before, IsDiscover earlier ∧ earlier.sourceMac = frame.sourceMac

section Replies

variable {server : DHCPServer} {s t : ServerState} {arrival : Arrival} {schedule : List Arrival}

/-- The frames processed so far were well-formed, and which replies went back to the source is
decided by the frames before. -/
structure Settled (s : ServerState) : Prop where
  consistent : Consistent s
  wellFormed : ∀ exchange ∈ s.exchanges, WellFormed exchange.arrival.rxFrame
  addressed : ∀ before exchange after, s.exchanges = before ++ exchange :: after →
    (Addressed exchange ↔ (IsRequest exchange.arrival.rxFrame → ∃ earlier ∈ before,
      IsDiscover earlier.arrival.rxFrame ∧
        earlier.arrival.rxFrame.sourceMac = exchange.arrival.rxFrame.sourceMac))

/-- A client is known to the server once it has sent a DISCOVER. -/
theorem Settled.known_iff (hs : Settled s) {mac : Mac} (hmac : mac.length = 6) :
    Known s.table mac ↔ ∃ earlier ∈ s.exchanges, IsDiscover earlier.arrival.rxFrame ∧
      earlier.arrival.rxFrame.sourceMac = mac := by
  constructor
  · rintro ⟨entry, hentry, hsame⟩
    obtain ⟨earlier, hearlier, hdiscover, rfl⟩ := hs.consistent.origin entry hentry
    have hlength := (hs.wellFormed earlier hearlier).length_sourceMac
    exact ⟨earlier, hearlier, hdiscover, ((compareMacs_iff hmac hlength).mp hsame).symm⟩
  · rintro ⟨earlier, hearlier, hdiscover, rfl⟩
    exact hs.consistent.known earlier hearlier hdiscover

/-- Entries are for addresses of six bytes. -/
theorem Settled.length_mac (hs : Settled s) {entry : DHCPEntry} (hentry : entry ∈ s.table) :
    entry.mac.length = 6 := by
  obtain ⟨earlier, hearlier, -, rfl⟩ := hs.consistent.origin entry hentry
  exact (hs.wellFormed earlier hearlier).length_sourceMac

/-- A frame is answered to its source unless it is a REQUEST from a client without an entry. -/
theorem Settled.addressed_iff (hs : Settled s) (hframe : WellFormed arrival.rxFrame)
    {message : DHCP} {table : Table} {replies : List MPDU}
    (hmessage : dhcpMessage arrival.rxFrame = some message)
    (h : server.Deals s.table arrival.uninitialised arrival.rxFrame.sourceMac message table
      replies) :
    Addressed ⟨arrival, table, replies⟩ ↔
      (IsRequest arrival.rxFrame → Known s.table arrival.rxFrame.sourceMac) := by
  have hlength := hframe.length_sourceMac
  cases h with
  | @discover hopcode reply entry hentry hmac hreply =>
    refine iff_of_true ⟨reply, rfl, ?_⟩ fun hrequest ↦ ?_
    · have hsix : entry.mac.length = 6 := by
        rw [extend] at hentry
        split_ifs at hentry with hknown
        · exact hs.length_mac hentry
        · rcases List.mem_append.mp hentry with hbefore | hnew
          · exact hs.length_mac hbefore
          · rw [List.mem_singleton.mp hnew]
            exact hlength
      exact hreply.destinationMac.trans ((compareMacs_iff hlength hsix).mp hmac).symm
    · rw [isRequest_iff hmessage, hopcode] at hrequest
      cases hrequest
  | @request hopcode reply hreply =>
    rw [isRequest_iff hmessage]
    constructor
    · rintro ⟨other, hother, hdestination⟩ -
      by_contra hknown
      rw [← List.singleton_inj.mp hother, hreply.destinationMac, getEntry_of_not_known hknown]
        at hdestination
      rw [← hdestination] at hlength
      cases hlength
    · intro hknown
      obtain ⟨hentry, hmac⟩ := getEntry_of_known arrival.uninitialised
        (hknown hopcode)
      exact ⟨reply, rfl, hreply.destinationMac.trans
        ((compareMacs_iff hlength (hs.length_mac hentry)).mp hmac).symm⟩
  | other hdiscover hrequest =>
    rcases hframe.opcode with hopcode | hopcode
    · exact absurd ((isDiscover_iff hmessage).mp hopcode) hdiscover
    · exact absurd ((isRequest_iff hmessage).mp hopcode) hrequest

theorem Settled.step (hs : Settled s) (hframe : WellFormed arrival.rxFrame)
    (h : server.system.step s arrival = some t) : Settled t := by
  obtain ⟨message, replies, hmessage, hdeals, hexchanges⟩ := step_deals hs.consistent.sound h
  refine ⟨hs.consistent.step h, ?_, ?_⟩
  · rw [hexchanges, List.forall_mem_append, List.forall_mem_singleton]
    exact ⟨hs.wellFormed, hframe⟩
  · intro before exchange after hsplit
    rw [hexchanges] at hsplit
    cases after using List.reverseRecOn with
    | nil =>
      obtain ⟨rfl, hlast⟩ := List.append_inj' hsplit rfl
      obtain rfl := List.singleton_inj.mp hlast
      rw [hs.addressed_iff hframe hmessage hdeals, hs.known_iff hframe.length_sourceMac]
    | append_singleton after last =>
      rw [← List.cons_append, ← List.append_assoc] at hsplit
      exact hs.addressed before exchange after (List.append_inj' hsplit rfl).1

theorem settled_of_run (hschedule : ∀ arrival ∈ schedule, WellFormed arrival.rxFrame)
    (hs : Settled s) (h : server.system.run anyArrival s schedule = some t) : Settled t := by
  induction schedule generalizing s with
  | nil =>
    obtain rfl := Option.some.inj h
    exact hs
  | cons arrival rest ih =>
    obtain ⟨hframe, hrest⟩ := List.forall_mem_cons.mp hschedule
    obtain ⟨-, u, hstep, hrun⟩ := ScheduledSystem.run_cons_eq_some.mp h
    exact ih hrest (hs.step hframe hstep) hrun

/-- The frames of a history, in order. -/
theorem Settled.discoversFirst_iff (hs : Settled s) :
    (∀ exchange ∈ s.exchanges, Addressed exchange) ↔
      DiscoversFirst (s.exchanges.map fun exchange ↦ exchange.arrival.rxFrame) := by
  constructor
  · intro haddressed before frame after hsplit hrequest
    obtain ⟨before, rest, hexchanges, rfl, hrest⟩ := List.map_eq_append_iff.mp hsplit
    obtain ⟨exchange, after, rfl, rfl, rfl⟩ := List.map_eq_cons_iff.mp hrest
    have hhere : exchange ∈ s.exchanges := by
      rw [hexchanges]
      exact List.mem_append_right _ List.mem_cons_self
    obtain ⟨earlier, hearlier, hdiscover⟩ :=
      (hs.addressed before exchange after hexchanges).mp (haddressed exchange hhere) hrequest
    exact ⟨_, List.mem_map_of_mem hearlier, hdiscover⟩
  · intro hdiscovers exchange hexchange
    obtain ⟨before, after, hsplit⟩ := List.append_of_mem hexchange
    refine (hs.addressed before exchange after hsplit).mpr fun hrequest ↦ ?_
    obtain ⟨_, hearlier, hdiscover⟩ := hdiscovers (before.map fun exchange ↦ exchange.arrival.rxFrame)
      exchange.arrival.rxFrame (after.map fun exchange ↦ exchange.arrival.rxFrame)
      (by rw [hsplit, List.map_append, List.map_cons]) hrequest
    obtain ⟨earlier, hmember, rfl⟩ := List.mem_map.mp hearlier
    exact ⟨earlier, hmember, hdiscover⟩

theorem settled_init : Settled server.system.init where
  consistent := consistent_init
  wellFormed := nofun
  addressed before exchange after hsplit := by cases before <;> cases hsplit

theorem WellFormed.isSome_dhcpMessage {frame : MPDU} (h : WellFormed frame) :
    (dhcpMessage frame).isSome := by
  rcases h.opcode with hopcode | hopcode
  · exact Option.isSome_map ▸ Option.isSome_of_eq_some hopcode
  · exact Option.isSome_map ▸ Option.isSome_of_eq_some hopcode

/-- Every frame of a sequence is answered by one reply to its source exactly when every client sends
a DISCOVER before its first REQUEST. -/
theorem repliesAddressed_iff (server : DHCPServer)
    (hschedule : ∀ arrival ∈ schedule, WellFormed arrival.rxFrame) :
    ∃ s, server.system.run anyArrival server.system.init schedule = some s ∧
      s.exchanges.map Exchange.arrival = schedule ∧
      ((∀ exchange ∈ s.exchanges, Addressed exchange) ↔
        DiscoversFirst (schedule.map Arrival.rxFrame)) := by
  obtain ⟨s, hrun⟩ := exists_run server (s := server.system.init) consistent_init.sound
    fun arrival harrival ↦ (hschedule arrival harrival).isSome_dhcpMessage
  have hexchanges : s.exchanges.map Exchange.arrival = schedule := exchanges_of_run hrun
  refine ⟨s, hrun, hexchanges, ?_⟩
  rw [(settled_of_run hschedule settled_init hrun).discoversFirst_iff, ← hexchanges, List.map_map]
  rfl

end Replies

/-- A client that sends a DISCOVER first, and one that does not. -/
theorem repliesAddressed_iff_witness :
    ∃ s, gateway.system.run anyArrival gateway.system.init
        [discoverFrom 0x11, requestFrom 0x11 0 0, requestFrom 0x22 0 0] = some s ∧
      s.exchanges.map Exchange.arrival =
        [discoverFrom 0x11, requestFrom 0x11 0 0, requestFrom 0x22 0 0] ∧
      ((∀ exchange ∈ s.exchanges, Addressed exchange) ↔
        DiscoversFirst ([discoverFrom 0x11, requestFrom 0x11 0 0, requestFrom 0x22 0 0].map
          Arrival.rxFrame)) := by
  refine repliesAddressed_iff gateway ?_
  simp only [List.forall_mem_cons]
  exact ⟨⟨rfl, .inl (by decide +kernel)⟩, ⟨rfl, .inr (by decide +kernel)⟩,
    ⟨rfl, .inr (by decide +kernel)⟩, nofun⟩

/-- The reply to a client without an entry goes to no address at all. -/
theorem not_repliesAddressed : ¬ ∀ (server : DHCPServer) (schedule : List Arrival),
    (∀ arrival ∈ schedule, WellFormed arrival.rxFrame) →
      ∃ s, server.system.run anyArrival server.system.init schedule = some s ∧
        ∀ exchange ∈ s.exchanges, Addressed exchange := by
  intro h
  have hlost : ∃ hrun : (gateway.system.run anyArrival gateway.system.init
      [requestFrom 0x22 0 0]).isSome, ¬ ∀ exchange ∈ (Option.get _ hrun).exchanges,
        ∀ reply ∈ exchange.replies,
          reply.destinationMac = exchange.arrival.rxFrame.sourceMac := by decide +kernel
  obtain ⟨hrun, hlost⟩ := hlost
  obtain ⟨s, hs, haddressed⟩ := h gateway [requestFrom 0x22 0 0]
    (List.forall_mem_singleton.mpr ⟨rfl, .inr (by decide +kernel)⟩)
  refine hlost fun exchange hexchange reply hreply ↦ ?_
  have hsame : Option.get _ hrun = s := Option.get_of_eq_some hrun hs
  obtain ⟨only, honly, hdestination⟩ := haddressed exchange (hsame ▸ hexchange)
  rw [honly] at hreply
  rw [List.mem_singleton.mp hreply]
  exact hdestination

end NetworkSimulation.Dhcp
