import NetworkSimulation.Library.MessagePool
import NetworkSimulation.Switching.Network
import NetworkSimulation.Dhcp.Client
import NetworkSimulation.Dhcp.Gateway
import NetworkSimulation.Dhcp.Server

/-!
# Agreement between the clients and the server

Any number of clients run `DHCP_client` once against one server; the network may lose, repeat, delay
and reorder every frame. A client takes the frames that its host accepts, the server those that the
gateway passes on. A frame waiting in the socket of a client counts as in flight: it is taken when
`get_frame` returns it.

The client asks for the address it was offered and the server grants what was asked for, so the
address a client adopts is its own words. It is nevertheless the one of the table, since every
message in flight speaks of the address that the table gave its client (`Honest`).
-/

set_option autoImplicit false
set_option relaxedAutoImplicit false

namespace NetworkSimulation.Dhcp

open Library Stack

/-- The addresses of the clients, different as `compare_macs` sees them. -/
structure ClientMacs (C : Type*) where
  mac : C → Mac
  distinct : ∀ c d, compareMacs (mac c) (mac d) = true → c = d
  not_broadcast : ∀ c, isBroadcast (mac c) = false

/-- The table of the server, all it has sent, and the clients. -/
structure Parties (C : Type*) where
  table : Table
  replies : List MPDU
  clients : C → Client

/-- Who takes a frame: the server, with the value of the member nobody has written, or a client. -/
inductive Receiver (C : Type*)
  | server (uninitialised : UInt32)
  | client (c : C)
  deriving DecidableEq

variable {C : Type*} (macs : ClientMacs C) (server : DHCPServer)

/-- A client begins, or somebody takes a frame. -/
def parties [DecidableEq C] : Pool.Parties (Parties C) MPDU C (Receiver C) where
  act c core :=
    if (core.clients c).point = .start then
      let (client, frames) := (core.clients c).discover (macs.mac c)
      some ({ core with clients := Function.update core.clients c client }, frames)
    else none
  take
    | .server uninitialised, core, frame =>
      match passes frame with
      | none => none
      | some false => some (core, [])
      | some true =>
        (server.process core.table uninitialised frame).map fun (table, replies) ↦
          ({ core with table, replies := core.replies ++ replies }, replies)
    | .client c, core, frame =>
      if Switching.accepts (macs.mac c) frame then
        ((core.clients c).takeFrame (macs.mac c) frame).map fun (client, frames) ↦
          ({ core with clients := Function.update core.clients c client }, frames)
      else some (core, [])

/-- The server with an empty table, and the clients before their calls; `uninitialised` is what
their local variables happen to hold. -/
def network [DecidableEq C] (uninitialised : C → Client) :
    ScheduledSystem (Pool (Parties C) MPDU) (Pool.Event C (Receiver C)) :=
  (parties macs server).system ⟨[], [], fun c ↦ { uninitialised c with point := .start }⟩

def anyPartyEvent (_ : Pool (Parties C) MPDU) (_ : Pool.Event C (Receiver C)) : Prop := True

instance (s : Pool (Parties C) MPDU) (event : Pool.Event C (Receiver C)) :
    Decidable (anyPartyEvent s event) := .isTrue trivial

variable {macs server}

/-! ### Messages that speak of the table -/

/-- A message of a client: it asks for an address, or for the one the table gave the client. -/
def FromClient (macs : ClientMacs C) (table : Table) (frame : MPDU) (message : DHCP) (c : C) : Prop :=
  frame.sourceMac = macs.mac c ∧
    (message.opcode = DHCP_DISCOVER ∨
      message.opcode = DHCP_REQUEST ∧ message.yourIp = message.clientIp ∧
        Leased table (macs.mac c) message.clientIp)

/-- A message of the server: it offers or grants the address that the table gave the client. -/
def FromServer (macs : ClientMacs C) (table : Table) (frame : MPDU) (message : DHCP) (c : C) : Prop :=
  compareMacs frame.destinationMac (macs.mac c) = true ∧
    (message.opcode = DHCP_OFFER ∨ message.opcode = DHCP_ACK) ∧
      Leased table (macs.mac c) message.yourIp

/-- A frame in flight: a message from a client to the server or the other way. -/
def Honest (macs : ClientMacs C) (core : Parties C) (frame : MPDU) : Prop :=
  ∃ segment message c, frame.udpSegment = some segment ∧ dhcpMessage frame = some message ∧
    (segment.sourcePort = BOOTP_CLIENT_PORT ∧ segment.destinationPort = BOOTP_SERVER_PORT ∧
        FromClient macs core.table frame message c ∨
      segment.sourcePort = BOOTP_SERVER_PORT ∧ segment.destinationPort = BOOTP_CLIENT_PORT ∧
        FromServer macs core.table frame message c)

/-- A table that gave every client that has returned its address; and no request was refused. -/
structure Agreed (macs : ClientMacs C) (core : Parties C) : Prop where
  sound : Sound core.table
  asking : ∀ c, (core.clients c).point = .awaitsOffer →
    (core.clients c).txSegment.sourcePort = BOOTP_CLIENT_PORT ∧
      (core.clients c).txSegment.destinationPort = BOOTP_SERVER_PORT
  returned : ∀ c, (core.clients c).point = .returned →
    Leased core.table (macs.mac c) (core.clients c).ip
  granted : ∀ reply ∈ core.replies, ∀ message, dhcpMessage reply = some message →
    message.opcode ≠ DHCP_NACK

/-- Messages stay honest as the table grows. -/
theorem Honest.mono {core later : Parties C} {frame : MPDU} (hgrows : core.table <+: later.table)
    (h : Honest macs core frame) : Honest macs later frame := by
  obtain ⟨segment, message, c, hsegment, hmessage, hfrom⟩ := h
  refine ⟨segment, message, c, hsegment, hmessage, ?_⟩
  rcases hfrom with ⟨hsource, hdestination, hmac, hopcode⟩ |
    ⟨hsource, hdestination, hmac, hopcode, hleased⟩
  · exact .inl ⟨hsource, hdestination, hmac, hopcode.imp_right fun ⟨hrequest, hsame, hleased⟩ ↦
      ⟨hrequest, hsame, hleased.mono hgrows⟩⟩
  · exact .inr ⟨hsource, hdestination, hmac, hopcode, hleased.mono hgrows⟩

/-! ### What the clients do -/

theorem honest_of_sends {core : Parties C} {c : C} {frame : MPDU} {message : DHCP}
    (h : Client.Sends (macs.mac c) frame message)
    (hopcode : message.opcode = DHCP_DISCOVER ∨ message.opcode = DHCP_REQUEST ∧
      message.yourIp = message.clientIp ∧ Leased core.table (macs.mac c) message.clientIp) :
    Honest macs core frame := by
  obtain ⟨segment, hsegment, hsource, hdestination⟩ := h.ports
  exact ⟨segment, message, c, hsegment, h.message, .inl ⟨hsource, hdestination, h.sourceMac, hopcode⟩⟩

theorem honest_of_replies {core : Parties C} {c : C} {frame : MPDU} {destinationMac : Mac}
    {message : DHCP} (h : server.Replies frame destinationMac message)
    (hmac : compareMacs destinationMac (macs.mac c) = true)
    (hopcode : message.opcode = DHCP_OFFER ∨ message.opcode = DHCP_ACK)
    (hleased : Leased core.table (macs.mac c) message.yourIp) : Honest macs core frame := by
  obtain ⟨segment, hsegment, hsource, hdestination⟩ := h.ports
  exact ⟨segment, message, c, hsegment, h.message,
    .inr ⟨hsource, hdestination, h.destinationMac ▸ hmac, hopcode, hleased⟩⟩

/-- What a client gets into its socket is a message of the server to itself. -/
theorem fromServer_of_takes {core : Parties C} {c : C} {frame : MPDU}
    (hhonest : Honest macs core frame)
    (haccepts : Switching.accepts (macs.mac c) frame = true) {socket : Socket}
    (h : processFrame (core.clients c).openPorts frame = some (.sockets [socket])) :
    ∃ segment message, frame.udpSegment = some segment ∧ generateDHCP segment.payload = some message ∧
      segment.sourcePort = BOOTP_SERVER_PORT ∧
        (message.opcode = DHCP_OFFER ∨ message.opcode = DHCP_ACK) ∧
          Leased core.table (macs.mac c) message.yourIp := by
  obtain ⟨segment, message, d, hsegment, hmessage, hfrom⟩ := hhonest
  have hport := Client.destinationPort_of_processFrame hsegment h
  have hpayload : generateDHCP segment.payload = some message := by
    rwa [dhcpMessage, hsegment] at hmessage
  rcases hfrom with ⟨-, hdestination, -⟩ | ⟨hsource, -, hmac, hopcode, hleased⟩
  · rw [hport] at hdestination
    cases hdestination
  · have hsame : c = d := by
      rcases (Bool.or_eq_true _ _).mp haccepts with hthis | hbroadcast
      · refine macs.distinct c d ?_
        rw [compareMacs_comm] at hthis
        exact compareMacs_trans hthis hmac
      · rw [isBroadcast_eq_of_compareMacs hmac, macs.not_broadcast] at hbroadcast
        cases hbroadcast
    exact ⟨segment, message, hsegment, hpayload, hsource, hopcode, hsame ▸ hleased⟩

/-- What the gateway passes on is a message of a client. -/
theorem fromClient_of_passes {core : Parties C} {frame : MPDU} (hhonest : Honest macs core frame)
    (h : passes frame = some true) :
    ∃ message c, dhcpMessage frame = some message ∧ frame.sourceMac = macs.mac c ∧
      (message.opcode = DHCP_DISCOVER ∨ message.opcode = DHCP_REQUEST ∧
        message.yourIp = message.clientIp ∧ Leased core.table (macs.mac c) message.clientIp) := by
  obtain ⟨segment, message, c, hsegment, hmessage, hfrom⟩ := hhonest
  rw [passes_eq, hsegment, Option.map_some, Option.some_inj, decide_eq_true_iff] at h
  rcases hfrom with ⟨-, -, hsource, hopcode⟩ | ⟨-, hdestination, -⟩
  · exact ⟨message, c, hmessage, hsource, hopcode⟩
  · rw [h.2] at hdestination
    cases hdestination

/-- The server offers what the table holds, and grants it to a client that asks for it. -/
theorem replies_honest {table table' : Table} {uninitialised : UInt32} {mac : Mac} {message : DHCP}
    {replies : List MPDU} (hsound : Sound table)
    (hopcode : message.opcode = DHCP_DISCOVER ∨ message.opcode = DHCP_REQUEST ∧
      message.yourIp = message.clientIp ∧ Leased table mac message.clientIp)
    (h : server.Deals table uninitialised mac message table' replies) :
    ∀ reply ∈ replies, ∃ destinationMac answer, server.Replies reply destinationMac answer ∧
      compareMacs destinationMac mac = true ∧
        (answer.opcode = DHCP_OFFER ∨ answer.opcode = DHCP_ACK) ∧
          Leased table' mac answer.yourIp := by
  cases h with
  | @discover hdiscover reply entry hentry hmac hreply =>
    rw [List.forall_mem_singleton]
    exact ⟨_, _, hreply, compareMacs_comm mac _ ▸ hmac, .inl rfl, entry, hentry, hmac, rfl⟩
  | @request hrequest reply hreply =>
    rw [List.forall_mem_singleton]
    obtain hdiscover | ⟨-, hsame, hleased⟩ := hopcode
    · cases hdiscover.symm.trans hrequest
    · have hmac := (getEntry_of_known uninitialised hleased.known).2
      have hgranted : message.clientIp = (getEntry table uninitialised mac).ip :=
        hleased.unique hsound (leased_getEntry hleased.known) (compareMacs_self mac)
      rw [DHCPServer.answer, if_pos hgranted] at hreply
      refine ⟨_, _, hreply, compareMacs_comm mac _ ▸ hmac, .inr rfl, ?_⟩
      change Leased table mac message.yourIp
      rwa [hsame]
  | other => exact nofun

theorem keeps_refl {core : Parties C} (hagreed : Agreed macs core) :
    Pool.Parties.Keeps (Agreed macs) (Honest macs) core (core, []) :=
  ⟨hagreed, fun _ hframe ↦ hframe, nofun⟩

section Steps

variable [DecidableEq C]

/-- A client that does what the others do not notice. -/
theorem Agreed.update {core : Parties C} (h : Agreed macs core) {c : C} {client : Client}
    (hasking : client.point = .awaitsOffer → client.txSegment.sourcePort = BOOTP_CLIENT_PORT ∧
      client.txSegment.destinationPort = BOOTP_SERVER_PORT)
    (hreturned : client.point = .returned → Leased core.table (macs.mac c) client.ip) :
    Agreed macs { core with clients := Function.update core.clients c client } where
  sound := h.sound
  asking := (Function.forall_update_iff core.clients (p := fun _ client ↦
    client.point = .awaitsOffer → client.txSegment.sourcePort = BOOTP_CLIENT_PORT ∧
      client.txSegment.destinationPort = BOOTP_SERVER_PORT)).mpr ⟨hasking, fun d _ ↦ h.asking d⟩
  returned := (Function.forall_update_iff core.clients (p := fun d client ↦
    client.point = .returned → Leased core.table (macs.mac d) client.ip)).mpr
      ⟨hreturned, fun d _ ↦ h.returned d⟩
  granted := h.granted

/-- A client that begins sends an honest DISCOVER. -/
theorem keeps_act (c : C) (core : Parties C) (outcome : Parties C × List MPDU)
    (hagreed : Agreed macs core) (h : (parties macs server).act c core = some outcome) :
    Pool.Parties.Keeps (Agreed macs) (Honest macs) core outcome := by
  rw [parties] at h
  dsimp only at h
  split_ifs at h with hstart
  obtain rfl := Option.some.inj h
  refine ⟨hagreed.update (fun _ ↦ ⟨rfl, rfl⟩) nofun,
    fun frame hframe ↦ hframe.mono List.prefix_rfl, ?_⟩
  intro frame hframe
  obtain ⟨discover, hdiscover, hsends⟩ := Client.sends_discover (macs.mac c) (core.clients c)
  rw [hdiscover, List.mem_singleton] at hframe
  obtain rfl := hframe
  exact honest_of_sends hsends (.inl rfl)

/-- A client asks for what it was offered and adopts what it was granted. -/
theorem keeps_take_client {c : C} {core : Parties C} {frame : MPDU}
    {outcome : Parties C × List MPDU} (hagreed : Agreed macs core)
    (hhonest : Honest macs core frame)
    (h : (parties macs server).take (.client c) core frame = some outcome) :
    Pool.Parties.Keeps (Agreed macs) (Honest macs) core outcome := by
  rw [parties] at h
  dsimp only at h
  split_ifs at h with haccepts
  · obtain ⟨outcome, htakes, rfl⟩ := Option.map_eq_some_iff.mp h
    rcases Client.takeFrame_cases htakes with rfl | ⟨socket, hsocket, hreceive⟩
    · rw [Function.update_eq_self]
      exact keeps_refl hagreed
    · obtain ⟨segment, message, hsegment, hmessage, hsource, -, hleased⟩ :=
        fromServer_of_takes hhonest haccepts hsocket
      rw [Client.receive_eq hsegment hmessage hsource] at hreceive
      cases hpoint : (core.clients c).point with
      | start => simp [hpoint] at hreceive
      | returned => simp [hpoint] at hreceive
      | awaitsOffer =>
        simp only [hpoint, Option.some.injEq] at hreceive
        split_ifs at hreceive with hoffer
        · subst hreceive
          obtain ⟨hclient, hserver⟩ := hagreed.asking c hpoint
          obtain ⟨request, hrequest, hsends⟩ :=
            Client.sends_request (macs.mac c) message hclient hserver
          refine ⟨hagreed.update nofun nofun, fun frame hframe ↦ hframe.mono List.prefix_rfl, ?_⟩
          rw [hrequest, List.forall_mem_singleton]
          exact honest_of_sends hsends (.inr ⟨rfl, rfl, hleased⟩)
        · subst hreceive
          rw [Function.update_eq_self]
          exact keeps_refl hagreed
      | awaitsAck =>
        simp only [hpoint, Option.some.injEq] at hreceive
        split_ifs at hreceive with hack
        · subst hreceive
          exact ⟨hagreed.update nofun fun _ ↦ hleased,
            fun frame hframe ↦ hframe.mono List.prefix_rfl, nofun⟩
        · subst hreceive
          rw [Function.update_eq_self]
          exact keeps_refl hagreed
  · obtain rfl := Option.some.inj h
    exact keeps_refl hagreed

theorem keeps_take_server {uninitialised : UInt32} {core : Parties C} {frame : MPDU}
    {outcome : Parties C × List MPDU} (hagreed : Agreed macs core)
    (hhonest : Honest macs core frame)
    (h : (parties macs server).take (.server uninitialised) core frame = some outcome) :
    Pool.Parties.Keeps (Agreed macs) (Honest macs) core outcome := by
  rw [parties] at h
  dsimp only at h
  cases hpasses : passes frame with
  | none =>
    rw [hpasses] at h
    cases h
  | some passed =>
    rw [hpasses] at h
    cases passed with
    | false =>
      obtain rfl := Option.some.inj h
      exact keeps_refl hagreed
    | true =>
      obtain ⟨⟨table, replies⟩, hprocess, rfl⟩ := Option.map_eq_some_iff.mp h
      obtain ⟨message, c, hmessage, hsource, hopcode⟩ := fromClient_of_passes hhonest hpasses
      obtain ⟨processed, hprocessed, hdeals⟩ := DHCPServer.deals_of_process hagreed.sound hprocess
      obtain rfl : message = processed := Option.some.inj (hmessage.symm.trans hprocessed)
      rw [hsource] at hdeals
      have hgrows := hdeals.grows
      have hreplies := replies_honest hagreed.sound hopcode hdeals
      refine ⟨⟨hdeals.sound hagreed.sound, hagreed.asking,
        fun d hd ↦ (hagreed.returned d hd).mono hgrows, ?_⟩,
        fun frame hframe ↦ hframe.mono hgrows, ?_⟩
      · intro reply hreply
        rcases List.mem_append.mp hreply with hbefore | hnew
        · exact hagreed.granted reply hbefore
        · obtain ⟨destinationMac, answer, hanswer, -, hgrants, -⟩ := hreplies reply hnew
          intro received hreceived hnack
          obtain rfl : answer = received := Option.some.inj (hanswer.message.symm.trans hreceived)
          rcases hgrants with hoffer | hack
          · cases hoffer.symm.trans hnack
          · cases hack.symm.trans hnack
      · intro reply hreply
        obtain ⟨destinationMac, answer, hanswer, hmac, hgrants, hleased⟩ := hreplies reply hreply
        exact honest_of_replies hanswer hmac hgrants hleased

/-- However the calls and the frames interleave, a client that has returned has the address that the
table holds for it, and no client was ever sent a NACK. -/
theorem clients_agree {uninitialised : C → Client} {s : Pool (Parties C) MPDU}
    (h : (network macs server uninitialised).Reachable anyPartyEvent s) :
    (∀ c, (s.core.clients c).point = .returned →
      ∃ entry ∈ s.core.table, compareMacs (macs.mac c) entry.mac = true ∧
        entry.ip = (s.core.clients c).ip) ∧
      ∀ reply ∈ s.core.replies, ∀ message, dhcpMessage reply = some message →
        message.opcode ≠ DHCP_NACK := by
  have hstart : Agreed macs ⟨[], [], fun c ↦ { uninitialised c with point := .start }⟩ :=
    ⟨⟨nofun, .nil⟩, nofun, nofun, nofun⟩
  have hholds := Pool.Parties.invariant hstart keeps_act
    (fun receiver core frame outcome hagreed hhonest htake ↦ by
      cases receiver with
      | server uninitialised => exact keeps_take_server hagreed hhonest htake
      | client c => exact keeps_take_client hagreed hhonest htake) h
  exact ⟨hholds.1.returned, hholds.1.granted⟩

end Steps

/-- Two clients. -/
def twoClients : ClientMacs Bool where
  mac c := createUniformMac (if c then 0x33 else 0x11)
  distinct := by decide
  not_broadcast := by decide

def blankClient : Client := ⟨.start, 0, ⟨0, 0, 0⟩, ⟨0, 0, 0, 0, []⟩, ⟨0, 0, 0, 0, 0, []⟩⟩

/-- Both clients ask, a DISCOVER arrives twice and an OFFER is lost, and one client returns. -/
theorem clients_agree_witness :
    ∃ h : ((network twoClients ⟨createUniformMac 0x99, createIp 123 123 123 123⟩
        fun _ ↦ blankClient).run anyPartyEvent (ScheduledSystem.init (network twoClients
          ⟨createUniformMac 0x99, createIp 123 123 123 123⟩ fun _ ↦ blankClient))
        [.acts false, .acts true, .takes (.server 5) 1, .takes (.server 7) 1, .lose 2,
          .takes (.client true) 2, .takes (.server 0) 3, .takes (.server 0) 0,
          .takes (.client true) 4]).isSome,
      (∀ c, ((Option.get _ h).core.clients c).point = .returned →
        ∃ entry ∈ (Option.get _ h).core.table, compareMacs (twoClients.mac c) entry.mac = true ∧
          entry.ip = ((Option.get _ h).core.clients c).ip) ∧
        ∀ reply ∈ (Option.get _ h).core.replies, ∀ message, dhcpMessage reply = some message →
          message.opcode ≠ DHCP_NACK :=
  ⟨by decide +kernel, clients_agree (ScheduledSystem.reachable_of_isSome_run _)⟩

end NetworkSimulation.Dhcp
