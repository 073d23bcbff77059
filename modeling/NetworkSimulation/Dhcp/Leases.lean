import NetworkSimulation.Dhcp.Server

/-!
# The addresses that the server gives out

In every run the table is sound and only grows, and every OFFER names the address of the table
(`leases_stable`). Different clients have different addresses under a condition only: the server
expects two clients, and leaves the address of any other as it finds it in memory
(`distinctAddresses_iff`).
-/

set_option autoImplicit false
set_option relaxedAutoImplicit false

namespace NetworkSimulation.Dhcp

open Library Stack DHCPServer

/-- An OFFER of this address has been sent to this destination. -/
def ServerState.Offered (s : ServerState) (mac : Mac) (ip : UInt32) : Prop :=
  ∃ exchange ∈ s.exchanges, ∃ reply ∈ exchange.replies, reply.destinationMac = mac ∧
    ∃ message, dhcpMessage reply = some message ∧ message.opcode = DHCP_OFFER ∧ message.yourIp = ip

/-- What the table and the history of the server have to do with each other. -/
structure Consistent (s : ServerState) : Prop where
  sound : Sound s.table
  origin : ∀ entry ∈ s.table, ∃ exchange ∈ s.exchanges, IsDiscover exchange.arrival.rxFrame ∧
    entry = newEntry exchange.arrival.uninitialised exchange.arrival.rxFrame.sourceMac
  known : ∀ exchange ∈ s.exchanges, IsDiscover exchange.arrival.rxFrame →
    Known s.table exchange.arrival.rxFrame.sourceMac
  offered : ∀ mac ip, s.Offered mac ip → Leased s.table mac ip

section Runs

variable {server : DHCPServer} {s t : ServerState} {arrival : Arrival}
  {guard : ServerState → Arrival → Prop}

section Deals

variable {table table' : Table} {uninitialised : UInt32} {sourceMac : Mac} {message : DHCP}
  {replies : List MPDU}

/-- An OFFER goes out for a DISCOVER only. -/
theorem DHCPServer.Deals.leased_of_offer
    (h : server.Deals table uninitialised sourceMac message table' replies) {reply : MPDU}
    {offer : DHCP} (hreply : reply ∈ replies) (hmessage : dhcpMessage reply = some offer)
    (hoffer : offer.opcode = DHCP_OFFER) : Leased table' reply.destinationMac offer.yourIp := by
  cases h with
  | discover hopcode hentry hmac hreplies =>
    obtain rfl := List.mem_singleton.mp hreply
    cases hmessage.symm.trans hreplies.message
    rw [hreplies.destinationMac]
    exact ⟨_, hentry, compareMacs_self _, rfl⟩
  | request hopcode hreplies =>
    obtain rfl := List.mem_singleton.mp hreply
    cases hmessage.symm.trans hreplies.message
    rw [answer] at hoffer
    split_ifs at hoffer <;> cases hoffer
  | other => cases hreply

theorem DHCPServer.Deals.origin
    (h : server.Deals table uninitialised sourceMac message table' replies) {entry : DHCPEntry}
    (hentry : entry ∈ table') :
    entry ∈ table ∨ message.opcode = DHCP_DISCOVER ∧ entry = newEntry uninitialised sourceMac := by
  cases h with
  | discover hopcode =>
    rw [extend] at hentry
    split_ifs at hentry with hknown
    · exact .inl hentry
    · exact (List.mem_append.mp hentry).imp_right fun hnew ↦ ⟨hopcode, List.mem_singleton.mp hnew⟩
  | request => exact .inl hentry
  | other => exact .inl hentry

theorem DHCPServer.Deals.known
    (h : server.Deals table uninitialised sourceMac message table' replies)
    (hopcode : message.opcode = DHCP_DISCOVER) : Known table' sourceMac := by
  cases h with
  | discover => exact known_extend
  | request hrequest => cases hopcode.symm.trans hrequest
  | other hdiscover => exact absurd hopcode hdiscover

end Deals

theorem Consistent.step (hs : Consistent s) (h : server.system.step s arrival = some t) :
    Consistent t := by
  obtain ⟨message, replies, hmessage, hdeals, hexchanges⟩ := step_deals hs.sound h
  have hgrows := hdeals.grows
  constructor
  · exact hdeals.sound hs.sound
  · intro entry hentry
    rw [hexchanges]
    rcases hdeals.origin hentry with hbefore | ⟨hopcode, hnew⟩
    · obtain ⟨exchange, hexchange, horigin⟩ := hs.origin entry hbefore
      exact ⟨exchange, List.mem_append_left _ hexchange, horigin⟩
    · exact ⟨_, List.mem_append_right _ (List.mem_singleton_self _),
        (isDiscover_iff hmessage).mpr hopcode, hnew⟩
  · intro exchange hexchange hdiscover
    rw [hexchanges] at hexchange
    rcases List.mem_append.mp hexchange with hbefore | hnew
    · exact (hs.known exchange hbefore hdiscover).mono hgrows
    · rw [List.mem_singleton.mp hnew] at hdiscover ⊢
      exact hdeals.known ((isDiscover_iff hmessage).mp hdiscover)
  · rintro mac ip ⟨exchange, hexchange, reply, hreply, rfl, offer, hoffer, hopcode, rfl⟩
    rw [hexchanges] at hexchange
    rcases List.mem_append.mp hexchange with hbefore | hnew
    · exact (hs.offered _ _ ⟨exchange, hbefore, reply, hreply, rfl, offer, hoffer, hopcode, rfl⟩).mono
        hgrows
    · rw [List.mem_singleton.mp hnew] at hreply
      exact hdeals.leased_of_offer hreply hoffer hopcode

theorem consistent_init : Consistent server.system.init where
  sound := ⟨nofun, .nil⟩
  origin := nofun
  known := nofun
  offered := by
    rintro mac ip ⟨exchange, hexchange, -⟩
    cases hexchange

theorem Consistent.of_reachableFrom (hs : Consistent s)
    (h : server.system.ReachableFrom guard s t) : Consistent t :=
  h.invariant (fun _ _ _ hu _ hstep ↦ hu.step hstep) hs

theorem consistent_of_reachable (h : server.system.Reachable guard s) : Consistent s :=
  consistent_init.of_reachableFrom h

theorem isPrefix_of_reachableFrom (hs : Consistent s) (h : server.system.ReachableFrom guard s t) :
    s.table <+: t.table := by
  induction h with
  | refl => exact List.prefix_rfl
  | step hreach _ hstep ih =>
    obtain ⟨_, _, -, hdeals, -⟩ := step_deals (hs.of_reachableFrom hreach).sound hstep
    exact ih.trans hdeals.grows

/-! ### Leases are stable -/

/-- Whatever frames arrive, the table has one entry for each source and entries are only added, and
every OFFER names the address of the entry for its destination, so that all OFFERs to one
destination name the same. -/
theorem leases_stable (hs : server.system.Reachable anyArrival s)
    (ht : server.system.ReachableFrom anyArrival s t) :
    (t.table.Pairwise fun first second ↦ compareMacs first.mac second.mac = false) ∧
      s.table <+: t.table ∧
      (∀ mac ip, t.Offered mac ip → Leased t.table mac ip) ∧
      ∀ mac mac' ip ip', t.Offered mac ip → t.Offered mac' ip' → compareMacs mac mac' = true →
        ip = ip' := by
  have hconsistent := consistent_of_reachable (hs.trans ht)
  refine ⟨hconsistent.sound.distinct, isPrefix_of_reachableFrom (consistent_of_reachable hs) ht,
    hconsistent.offered, ?_⟩
  intro mac mac' ip ip' hoffer hoffer' hmac
  exact (hconsistent.offered mac ip hoffer).unique hconsistent.sound
    (hconsistent.offered mac' ip' hoffer') hmac

end Runs

/-! ### Frames of the clients used below -/

/-- A frame from a client, as `Host::DHCP_client` builds it. -/
def clientFrame (mac : Mac) (message : DHCP) : MPDU :=
  MPDU.ofPacket (IP.encapUDP ⟨12, 0, 0, 0, createBroadcastIp, []⟩
    ⟨BOOTP_CLIENT_PORT, BOOTP_SERVER_PORT, 0, 0, message.bytes⟩) mac createBroadcastMac

def gateway : DHCPServer := ⟨createUniformMac 0x99, createIp 123 123 123 123⟩

def discoverFrom (macByte : UInt8) : Arrival :=
  ⟨0, clientFrame (createUniformMac macByte) ⟨DHCP_DISCOVER, 0, 0⟩⟩

def requestFrom (macByte : UInt8) (clientIp yourIp : UInt32) : Arrival :=
  ⟨0, clientFrame (createUniformMac macByte) ⟨DHCP_REQUEST, clientIp, yourIp⟩⟩

/-- Two clients, one of which asks again. -/
theorem leases_stable_witness :
    ∃ hs : (gateway.system.run anyArrival gateway.system.init [discoverFrom 0x11]).isSome,
    ∃ ht : (gateway.system.run anyArrival (Option.get _ hs)
        [discoverFrom 0x33, discoverFrom 0x11]).isSome,
      ((Option.get _ ht).table.Pairwise fun first second ↦
        compareMacs first.mac second.mac = false) ∧
      (Option.get _ hs).table <+: (Option.get _ ht).table ∧
      (∀ mac ip, (Option.get _ ht).Offered mac ip → Leased (Option.get _ ht).table mac ip) ∧
      ∀ mac mac' ip ip', (Option.get _ ht).Offered mac ip → (Option.get _ ht).Offered mac' ip' →
        compareMacs mac mac' = true → ip = ip' :=
  ⟨by decide +kernel, by decide +kernel,
    leases_stable (ScheduledSystem.reachable_of_isSome_run _)
      (ScheduledSystem.reachableFrom_of_run (Option.some_get _).symm)⟩

/-! ### Different addresses for different clients -/

/-- The two client addresses that the server expects. -/
def Expected (mac : Mac) : Prop :=
  compareMacs (createUniformMac 0x11) mac = true ∨ compareMacs (createUniformMac 0x22) mac = true

/-- Entries for different clients hold different addresses, and so do the OFFERs to them. -/
def DistinctAddresses (s : ServerState) : Prop :=
  (∀ first ∈ s.table, ∀ second ∈ s.table, compareMacs first.mac second.mac = false →
    first.ip ≠ second.ip) ∧
  ∀ mac mac' ip ip', s.Offered mac ip → s.Offered mac' ip' → compareMacs mac mac' = false →
    ip ≠ ip'

/-- Clients that ask for an address are expected, unless there is only one. -/
def ExpectedOrAlone (frames : List MPDU) : Prop :=
  ∀ first ∈ frames, ∀ second ∈ frames, IsDiscover first → IsDiscover second →
    compareMacs first.sourceMac second.sourceMac = false →
      Expected first.sourceMac ∧ Expected second.sourceMac

section Addresses

variable {server : DHCPServer} {s t : ServerState} {schedule : List Arrival} {mac mac' : Mac}
  {uninitialised uninitialised' : UInt32}

theorem exchanges_of_run (h : server.system.run anyArrival s schedule = some t) :
    t.exchanges.map Exchange.arrival = s.exchanges.map Exchange.arrival ++ schedule := by
  induction schedule generalizing s with
  | nil =>
    obtain rfl := Option.some.inj h
    exact (List.append_nil _).symm
  | cons arrival rest ih =>
    obtain ⟨-, u, hstep, hrest⟩ := ScheduledSystem.run_cons_eq_some.mp h
    obtain ⟨_, -, rfl⟩ := Option.map_eq_some_iff.mp hstep
    rw [ih hrest, List.map_append, List.map_singleton, List.append_assoc]
    rfl

/-- Frames with messages are processed one after the other. -/
theorem exists_run (server : DHCPServer) (hsound : Sound s.table)
    (h : ∀ arrival ∈ schedule, (dhcpMessage arrival.rxFrame).isSome) :
    ∃ t, server.system.run anyArrival s schedule = some t := by
  induction schedule generalizing s with
  | nil => exact ⟨s, rfl⟩
  | cons arrival rest ih =>
    obtain ⟨hfirst, hrest⟩ := List.forall_mem_cons.mp h
    obtain ⟨message, hmessage⟩ := Option.isSome_iff_exists.mp hfirst
    obtain ⟨table, replies, hprocess, hdeals⟩ :=
      exists_deals server arrival.uninitialised hsound hmessage
    obtain ⟨t, ht⟩ := ih (s := ⟨table, s.exchanges ++ [⟨arrival, table, replies⟩]⟩)
      (hdeals.sound hsound) hrest
    refine ⟨t, ScheduledSystem.run_cons_eq_some.mpr ⟨trivial, _, ?_, ht⟩⟩
    change Option.map _ (server.process _ _ _) = _
    rw [hprocess]
    rfl

/-- The address of a new entry depends on what `compare_macs` sees. -/
theorem ip_newEntry_congr (h : compareMacs mac mac' = true) :
    (newEntry uninitialised mac).ip = (newEntry uninitialised mac').ip := by
  rw [newEntry, newEntry, compareMacs_congr (compareMacs_self _) h,
    compareMacs_congr (compareMacs_self _) h]

theorem ip_newEntry_first (h : compareMacs (createUniformMac 0x11) mac = true) :
    (newEntry uninitialised mac).ip = createIp 111 111 111 111 :=
  if_pos h

theorem ip_newEntry_second (h : compareMacs (createUniformMac 0x22) mac = true) :
    (newEntry uninitialised mac).ip = createIp 222 222 222 222 := by
  have hother : ¬ compareMacs (createUniformMac 0x11) mac = true := by
    intro hmac
    have hsame := compareMacs_trans hmac (compareMacs_comm mac _ ▸ h)
    revert hsame
    decide
  rw [newEntry, if_neg hother, if_pos h]

/-- Expected clients get different addresses. -/
theorem Expected.ip_ne (h : Expected mac) (h' : Expected mac')
    (hapart : compareMacs mac mac' = false) :
    (newEntry uninitialised mac).ip ≠ (newEntry uninitialised' mac').ip := by
  have hcommon (uniform : Mac) (hmac : compareMacs uniform mac = true)
      (hmac' : compareMacs uniform mac' = true) : False := by
    rw [compareMacs_comm] at hmac
    rw [compareMacs_trans hmac hmac'] at hapart
    cases hapart
  rcases h with h | h <;> rcases h' with h' | h'
  · exact (hcommon _ h h').elim
  · rw [ip_newEntry_first h, ip_newEntry_second h']
    decide
  · rw [ip_newEntry_second h, ip_newEntry_first h']
    decide
  · exact (hcommon _ h h').elim

theorem ip_newEntry_of_unexpected (h : ¬ Expected mac) :
    (newEntry uninitialised mac).ip = uninitialised := by
  rw [Expected, not_or] at h
  rw [newEntry, if_neg h.1, if_neg h.2]

/-- An unexpected client may get the address of any other. -/
theorem ip_newEntry_collides (h : ¬ Expected mac) :
    (newEntry (newEntry 0 mac').ip mac).ip = (newEntry (newEntry 0 mac').ip mac').ip := by
  rw [ip_newEntry_of_unexpected h]
  by_cases h' : Expected mac'
  · rcases h' with h' | h'
    · rw [ip_newEntry_first h', ip_newEntry_first h']
    · rw [ip_newEntry_second h', ip_newEntry_second h']
  · rw [ip_newEntry_of_unexpected h', ip_newEntry_of_unexpected h']

/-- The entry for a client that asked for an address, when the member nobody has written always has
the same value. -/
theorem exists_entry_of_discover {frames : List MPDU}
    (h : server.system.run anyArrival server.system.init (frames.map (Arrival.mk uninitialised)) =
      some s) {frame : MPDU} (hframe : frame ∈ frames) (hdiscover : IsDiscover frame) :
    ∃ entry ∈ s.table, compareMacs frame.sourceMac entry.mac = true ∧
      entry.ip = (newEntry uninitialised frame.sourceMac).ip := by
  have hconsistent := consistent_of_reachable (ScheduledSystem.reachableFrom_of_run h)
  have hexchanges := exchanges_of_run h
  have hmember : Arrival.mk uninitialised frame ∈ s.exchanges.map Exchange.arrival := by
    rw [hexchanges]
    exact List.mem_map_of_mem hframe
  obtain ⟨exchange, hexchange, harrival⟩ := List.mem_map.mp hmember
  obtain ⟨entry, hentry, hmac⟩ := hconsistent.known exchange hexchange (by rwa [harrival])
  obtain ⟨first, hfirst, -, rfl⟩ := hconsistent.origin entry hentry
  have horigin : first.arrival ∈ s.exchanges.map Exchange.arrival := List.mem_map_of_mem hfirst
  rw [hexchanges] at horigin
  obtain ⟨_, -, harrivalFirst⟩ := List.mem_map.mp horigin
  rw [harrival] at hmac
  refine ⟨_, hentry, hmac, ?_⟩
  rw [← harrivalFirst] at hmac ⊢
  exact (ip_newEntry_congr hmac).symm

/-- Clients that are expected, or alone, have different addresses. -/
theorem distinctAddresses_of_expectedOrAlone {frames : List MPDU}
    (hexpected : ExpectedOrAlone frames)
    (hschedule : ∀ arrival ∈ schedule, arrival.rxFrame ∈ frames)
    (h : server.system.run anyArrival server.system.init schedule = some s) :
    DistinctAddresses s := by
  have hconsistent := consistent_of_reachable (ScheduledSystem.reachableFrom_of_run h)
  have hframes (exchange : Exchange) (hexchange : exchange ∈ s.exchanges) :
      exchange.arrival.rxFrame ∈ frames := by
    refine hschedule _ ?_
    have hmember := List.mem_map_of_mem (f := Exchange.arrival) hexchange
    rwa [exchanges_of_run h] at hmember
  have hentries : ∀ first ∈ s.table, ∀ second ∈ s.table,
      compareMacs first.mac second.mac = false → first.ip ≠ second.ip := by
    intro first hfirst second hsecond hapart
    obtain ⟨exchange, hexchange, hdiscover, rfl⟩ := hconsistent.origin first hfirst
    obtain ⟨exchange', hexchange', hdiscover', rfl⟩ := hconsistent.origin second hsecond
    obtain ⟨hmac, hmac'⟩ := hexpected _ (hframes exchange hexchange) _ (hframes exchange' hexchange')
      hdiscover hdiscover' hapart
    exact hmac.ip_ne hmac' hapart
  refine ⟨hentries, fun mac mac' ip ip' hoffer hoffer' hapart ↦ ?_⟩
  obtain ⟨first, hfirst, hmac, rfl⟩ := hconsistent.offered mac ip hoffer
  obtain ⟨second, hsecond, hmac', rfl⟩ := hconsistent.offered mac' ip' hoffer'
  exact hentries first hfirst second hsecond (compareMacs_congr hmac hmac' ▸ hapart)

/-- A client that is neither may share its address. -/
theorem exists_shared_address (server : DHCPServer) {frames : List MPDU}
    (hframes : ∀ frame ∈ frames, (dhcpMessage frame).isSome)
    {first second : MPDU} (hfirst : first ∈ frames) (hsecond : second ∈ frames)
    (hdiscover : IsDiscover first) (hdiscover' : IsDiscover second)
    (hapart : compareMacs first.sourceMac second.sourceMac = false)
    (hunexpected : ¬ Expected first.sourceMac) :
    ∃ (schedule : List Arrival) (s : ServerState), schedule.map Arrival.rxFrame = frames ∧
      server.system.run anyArrival server.system.init schedule = some s ∧
      ∃ entry ∈ s.table, ∃ entry' ∈ s.table, compareMacs entry.mac entry'.mac = false ∧
        entry.ip = entry'.ip := by
  have hmessages : ∀ arrival ∈ frames.map (Arrival.mk (newEntry 0 second.sourceMac).ip),
      (dhcpMessage arrival.rxFrame).isSome := by
    intro arrival harrival
    obtain ⟨frame, hframe, rfl⟩ := List.mem_map.mp harrival
    exact hframes frame hframe
  obtain ⟨s, hs⟩ := exists_run server (s := server.system.init) consistent_init.sound hmessages
  obtain ⟨entry, hentry, hmac, hip⟩ := exists_entry_of_discover hs hfirst hdiscover
  obtain ⟨entry', hentry', hmac', hip'⟩ := exists_entry_of_discover hs hsecond hdiscover'
  have hschedule : (frames.map (Arrival.mk (newEntry 0 second.sourceMac).ip)).map
      Arrival.rxFrame = frames := by
    rw [List.map_map]
    exact List.map_id frames
  exact ⟨_, s, hschedule, hs, entry, hentry, entry', hentry',
    compareMacs_congr hmac hmac' ▸ hapart,
    hip.trans ((ip_newEntry_collides hunexpected).trans hip'.symm)⟩

/-- Different clients hold and are offered different addresses in every state of every run on these
frames, whatever the member nobody has written holds, exactly when the clients that ask for an
address are expected or there is only one. -/
theorem distinctAddresses_iff (server : DHCPServer) {frames : List MPDU}
    (hframes : ∀ frame ∈ frames, (dhcpMessage frame).isSome) :
    (∀ schedule s, schedule.map Arrival.rxFrame <+: frames →
      server.system.run anyArrival server.system.init schedule = some s → DistinctAddresses s) ↔
      ExpectedOrAlone frames := by
  constructor
  · intro hdistinct first hfirst second hsecond hdiscover hdiscover' hapart
    by_contra hunexpected
    rcases not_and_or.mp hunexpected with hunexpected | hunexpected
    · obtain ⟨schedule, s, rfl, hrun, entry, hentry, entry', hentry', hmac, hip⟩ :=
        exists_shared_address server hframes hfirst hsecond hdiscover hdiscover' hapart
          hunexpected
      exact (hdistinct schedule s List.prefix_rfl hrun).1 entry hentry entry' hentry' hmac hip
    · rw [compareMacs_comm] at hapart
      obtain ⟨schedule, s, rfl, hrun, entry, hentry, entry', hentry', hmac, hip⟩ :=
        exists_shared_address server hframes hsecond hfirst hdiscover' hdiscover hapart
          hunexpected
      exact (hdistinct schedule s List.prefix_rfl hrun).1 entry hentry entry' hentry' hmac hip
  · intro hexpected schedule s hschedule hrun
    refine distinctAddresses_of_expectedOrAlone hexpected (fun arrival harrival ↦ ?_) hrun
    exact hschedule.subset (List.mem_map_of_mem harrival)

end Addresses

/-- The two clients that are expected. -/
theorem distinctAddresses_iff_witness :
    (∀ schedule s,
      schedule.map Arrival.rxFrame <+: [(discoverFrom 0x11).rxFrame, (discoverFrom 0x22).rxFrame] →
        gateway.system.run anyArrival gateway.system.init schedule = some s →
          DistinctAddresses s) ↔
      ExpectedOrAlone [(discoverFrom 0x11).rxFrame, (discoverFrom 0x22).rxFrame] :=
  distinctAddresses_iff gateway (by decide +kernel)

/-- Two clients that are not, and the same value left over in memory for both. -/
theorem not_distinctAddresses : ¬ ∀ (server : DHCPServer) (s : ServerState),
    server.system.Reachable anyArrival s → DistinctAddresses s := by
  intro h
  have hshared : ∃ hrun : (gateway.system.run anyArrival gateway.system.init
      [discoverFrom 0x33, discoverFrom 0x44]).isSome,
      ¬ ∀ first ∈ (Option.get _ hrun).table, ∀ second ∈ (Option.get _ hrun).table,
        compareMacs first.mac second.mac = false → first.ip ≠ second.ip := by decide +kernel
  obtain ⟨hrun, hshared⟩ := hshared
  exact hshared (h gateway _ (ScheduledSystem.reachable_of_isSome_run hrun)).1

end NetworkSimulation.Dhcp
