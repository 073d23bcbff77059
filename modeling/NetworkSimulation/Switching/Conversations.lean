import NetworkSimulation.Library.StutteringRefinement
import NetworkSimulation.Switching.Channels

/-!
# Conversations

A server that sends to its client only, and not before a frame of the client has reached it, makes
the switches on the path from the client know the client first. So its answers are never flooded:
they stay on the path, and only the switches on the path learn the server (`Conversing`). A switch
that would send a frame back over the wire it came from lists the source and the destination at one
interface, and no switch on a path does that; so nothing is sent back, whatever else is on its way,
and the network is a channel that keeps the order with no condition on the switches
(`conversations_are_channels`).

A client may have many servers, and may send to all hosts. A server has one client.
-/

set_option autoImplicit false
set_option relaxedAutoImplicit false

namespace NetworkSimulation.Switching

open Stack Library Library.TreeRouting

variable {H S : Type*} {net : Topology H S} {clientOf : H → Option H}

/-! ### Who sends to whom -/

/-- A server sends to its client, and any other host to its servers or to all. -/
def AddressedTo (net : Topology H S) (clientOf : H → Option H) (host : H) (frame : MPDU) : Prop :=
  (∀ client ∈ clientOf host, compareMacs frame.destinationMac (net.mac client) = true) ∧
    (clientOf host = none → isBroadcast frame.destinationMac = true ∨
      ∃ server, host ∈ clientOf server ∧
        compareMacs frame.destinationMac (net.mac server) = true)

/-- A frame of the client has reached the server. -/
def World.Greeted (world : World net) (server client : H) : Prop :=
  ∃ delivery ∈ world.delivered, delivery.1 = server ∧
    delivery.2.frame.sourceMac = net.mac client

/-- Frames may be lost, and a server that sends has been greeted by its client. -/
def conversing (clientOf : H → Option H) (world : World net) : Event net → Prop
  | .send host frame => AddressedTo net clientOf host frame ∧
      ∀ client ∈ clientOf host, world.Greeted host client
  | _ => True

section Decide

variable [DecidableEq H] [Fintype H]

instance (host : H) (frame : MPDU) : Decidable (AddressedTo net clientOf host frame) := by
  unfold AddressedTo
  cases clientOf host <;> infer_instance

instance (world : World net) (server client : H) : Decidable (world.Greeted server client) :=
  inferInstanceAs (Decidable (∃ delivery ∈ world.delivered, _))

instance (world : World net) : ∀ event : Event net, Decidable (conversing clientOf world event)
  | .send host frame => inferInstanceAs (Decidable (AddressedTo net clientOf host frame ∧
      ∀ client ∈ clientOf host, world.Greeted host client))
  | .receive _ _ | .forward _ | .deliver _ | .lose _ _ => .isTrue trivial

end Decide

/-! ### The invariant -/

/-- The device that gets a frame from here. -/
def Topology.endOf (net : Topology H S) : Location H net.interfaces → H ⊕ S
  | .wire port => (net.peer port).device
  | .frameQueue switch => .inr switch

/-- Answers stay on the path, where the client is known, and only there is a server known. -/
structure Conversing (clientOf : H → Option H) (world : World net) : Prop where
  learned : Learned world
  addressed : ∀ location, ∀ copy ∈ world.queues location, ∀ host,
    copy.frame.sourceMac = net.mac host → AddressedTo net clientOf host copy.frame
  greeted : ∀ server, ∀ client ∈ clientOf server, world.Greeted server client →
    world.KnowsAt client (nextHop net.isTree (.inl server) (.inl client))
  answers : ∀ location, ∀ copy ∈ world.queues location, ∀ server, ∀ client ∈ clientOf server,
    copy.frame.sourceMac = net.mac server →
      net.Ahead server client location ∧ world.KnowsAt client (net.endOf location)
  known : ∀ switch server, ∀ client ∈ clientOf server, world.Knows server switch →
    .inr switch ∈ net.pathBetween (.inl server) (.inl client)

namespace Conversing

variable {world : World net}

/-- No switch lists a server and its client at one interface. -/
theorem not_both (hworld : Conversing clientOf world) {switch : S}
    {ifId : Fin (net.interfaces switch)} {server client : H} (hclient : client ∈ clientOf server)
    (hknown : world.Knows server switch) (hserver : net.LeadsTo (.inr ⟨switch, ifId⟩) (.inl server))
    (hleads : net.LeadsTo (.inr ⟨switch, ifId⟩) (.inl client)) : False := by
  have hpath := hworld.known switch server client hclient hknown
  have hend : (.inr switch : H ⊕ S) ≠ .inl client := by simp
  exact nextHop_ne_of_mem_path net.isTree hpath hend (hserver.symm.trans hleads)

/-- No switch is about to send a frame back. -/
theorem not_hairpin (hworld : Conversing clientOf world) (switch : S) :
    ¬ world.Hairpin switch := by
  rintro ⟨copy, hcopy, -, hlisted, hsame⟩
  have hmem : copy ∈ world.queues (.frameQueue switch) := List.mem_of_mem_head? hcopy
  obtain ⟨ifId, hlookup⟩ := Option.ne_none_iff_exists'.mp hlisted
  obtain ⟨found, hfound, hknown, hleads⟩ := hworld.learned.of_lookup hlookup
  obtain ⟨host, -, hmac⟩ := hworld.learned.origin _ copy hmem
  have hback : net.LeadsTo (.inr ⟨switch, ifId⟩) (.inl host) :=
    (hworld.learned.lookup_sourceMac_eq_some_iff hmem hmac).mp (hsame.symm.trans hlookup)
  obtain ⟨hanswer, hother⟩ := hworld.addressed _ copy hmem host hmac
  cases hclient : clientOf host with
  | some client =>
    obtain rfl := Topology.eq_of_compareMacs (hanswer client hclient) hfound
    exact hworld.not_both hclient (hworld.learned.behind _ copy hmem host hmac) hback hleads
  | none =>
    rcases hother hclient with hbroadcast | ⟨server, hserver, hto⟩
    · rw [isBroadcast_eq_of_compareMacs hfound, net.not_broadcast] at hbroadcast
      cases hbroadcast
    · obtain rfl := Topology.eq_of_compareMacs hto hfound
      exact hworld.not_both hserver hknown hleads hback

end Conversing

/-! ### What a step keeps -/

section Steps

variable [DecidableEq H] [DecidableEq S] {world next : World net}

theorem knowsAt_of_step {event : Event net} (h : world.step event = some next) {host : H}
    {device : H ⊕ S} (hknown : world.KnowsAt host device) : next.KnowsAt host device := by
  rcases device with other | switch
  · exact hknown
  · exact knows_of_step h host switch hknown

/-- Most of the invariant stays true of what has not moved. -/
theorem Conversing.step (hworld : Conversing clientOf world) {event : Event net}
    (h : world.step event = some next)
    (hqueues : ∀ location, ∀ copy ∈ next.queues location, copy ∈ world.queues location ∨
      ∀ host, copy.frame.sourceMac = net.mac host → AddressedTo net clientOf host copy.frame ∧
        ∀ client ∈ clientOf host,
          net.Ahead host client location ∧ next.KnowsAt client (net.endOf location))
    (hgreeted : ∀ server, ∀ client ∈ clientOf server, next.Greeted server client →
      world.Greeted server client ∨
        next.KnowsAt client (nextHop net.isTree (.inl server) (.inl client)))
    (hknown : ∀ switch server, ∀ client ∈ clientOf server, next.Knows server switch →
      world.Knows server switch ∨ .inr switch ∈ net.pathBetween (.inl server) (.inl client)) :
    Conversing clientOf next where
  learned := learned_step hworld.learned h
  addressed location copy hcopy host hmac := by
    rcases hqueues location copy hcopy with hbefore | hmoved
    · exact hworld.addressed location copy hbefore host hmac
    · exact (hmoved host hmac).1
  greeted server client hclient hnext := by
    rcases hgreeted server client hclient hnext with hbefore | hnow
    · exact knowsAt_of_step h (hworld.greeted server client hclient hbefore)
    · exact hnow
  answers location copy hcopy server client hclient hmac := by
    rcases hqueues location copy hcopy with hbefore | hmoved
    · have hanswer := hworld.answers location copy hbefore server client hclient hmac
      exact ⟨hanswer.1, knowsAt_of_step h hanswer.2⟩
    · exact (hmoved server hmac).2 client hclient
  known switch server client hclient hnext := by
    rcases hknown switch server client hclient hnext with hbefore | hnow
    · exact hworld.known switch server client hclient hbefore
    · exact hnow

/-- A host that sends an answer has been greeted. -/
theorem conversing_send (hroles : ∀ server, ∀ client ∈ clientOf server, clientOf client = none)
    {host : H} {frame : MPDU} (hworld : Conversing clientOf world)
    (hguard : conversing clientOf world (.send host frame))
    (h : world.step (.send host frame) = some next) : Conversing clientOf next := by
  have hkept := h
  obtain ⟨hmac, rfl⟩ := step_send h
  refine hworld.step hkept (fun location copy hcopy ↦ ?_) (fun _ _ _ hbefore ↦ .inl hbefore)
    fun _ _ _ _ hbefore ↦ .inl hbefore
  rcases QueueFamily.mem_add.mp hcopy with hbefore | ⟨rfl, rfl⟩
  · exact .inl hbefore
  · refine .inr fun other hother ↦ ?_
    obtain rfl : host = other := net.mac_injective (hmac.symm.trans hother)
    refine ⟨hguard.1, fun client hclient ↦ ?_⟩
    have hne : host ≠ client := by
      rintro rfl
      rw [hroles host host hclient] at hclient
      cases hclient
    refine ⟨Topology.ahead_host hne, ?_⟩
    have hleads : net.LeadsTo (.inl host) (.inl client) :=
      Topology.leadsTo_host fun heq ↦ hne (Sum.inl.inj heq)
    rw [Topology.endOf, hleads]
    exact hworld.greeted host client hclient (hguard.2 client hclient)

/-- A switch learns a server from an answer only, which is on the path. -/
theorem conversing_receive {switch : S} {inIf : Fin (net.interfaces switch)}
    (hworld : Conversing clientOf world) (h : world.step (.receive switch inIf) = some next) :
    Conversing clientOf next := by
  have hkept := h
  obtain ⟨taken, queues, hremove, rfl⟩ := step_receive h
  have htaken := QueueFamily.item_mem_of_remove hremove
  obtain ⟨source, -, hmac⟩ := hworld.learned.origin _ taken htaken
  have hpath {client : H} (hclient : client ∈ clientOf source) :
      .inr switch ∈ net.pathBetween (.inl source) (.inl client) :=
    (hworld.answers _ taken htaken source client hclient hmac).1.frameQueue
  refine hworld.step hkept (fun location copy hcopy ↦ ?_) (fun _ _ _ hbefore ↦ .inl hbefore)
    fun other server client hclient hknown ↦ ?_
  · rcases QueueFamily.mem_add.mp hcopy with hbefore | ⟨rfl, rfl⟩
    · exact .inl (QueueFamily.mem_of_remove hremove hbefore)
    · refine .inr fun host hhost ↦ ⟨hworld.addressed _ _ htaken host hhost, fun client hclient ↦ ?_⟩
      obtain ⟨hahead, hclientKnown⟩ := hworld.answers _ _ htaken host client hclient hhost
      refine ⟨hahead.frameQueue, knowsAt_of_step hkept ?_⟩
      rwa [Topology.endOf, net.peer_peer] at hclientKnown
  · rcases (hworld.learned.knows_receive inIf hmac server other).mp hknown with
      hbefore | ⟨rfl, rfl⟩
    · exact .inl hbefore
    · exact .inr (hpath hclient)

/-- An answer is not flooded, since the switch knows the client. -/
theorem conversing_forward {switch : S} (hworld : Conversing clientOf world)
    (h : world.step (.forward switch) = some next) : Conversing clientOf next := by
  have hkept := h
  obtain ⟨taken, queues, hremove, rfl⟩ := step_forward h
  have htaken := QueueFamily.item_mem_of_remove hremove
  refine hworld.step hkept (fun location copy hcopy ↦ ?_) (fun _ _ _ hbefore ↦ .inl hbefore)
    fun _ _ _ _ hbefore ↦ .inl hbefore
  rcases QueueFamily.mem_addAll.mp hcopy with hbefore | hsent
  · exact .inl (QueueFamily.mem_of_remove hremove hbefore)
  · obtain ⟨rfl, ifId, rfl, hport⟩ := mem_transmissions.mp hsent
    refine .inr fun host hhost ↦ ?_
    have haddressed := hworld.addressed _ _ htaken host hhost
    refine ⟨haddressed, fun client hclient ↦ ?_⟩
    obtain ⟨hahead, hknown⟩ := hworld.answers _ _ htaken host client hclient hhost
    obtain ⟨found, hfound, hleads⟩ :=
      hworld.learned.lookup_of_knows (haddressed.1 client hclient) hknown
    obtain rfl : ifId = found := by
      rcases hport with hlookup | ⟨hnone, -⟩
      · exact Option.some.inj (hlookup.symm.trans hfound)
      · rw [hnone] at hfound
        cases hfound
    refine ⟨Topology.Ahead.wire hahead hleads, ?_⟩
    rw [Topology.endOf, hleads]
    exact knowsAt_of_step hkept (hworld.learned.knowsAt_nextHop hknown)

/-- A greeting has been forwarded by the switch next to the server. -/
theorem conversing_deliver (hroles : ∀ server, ∀ client ∈ clientOf server, clientOf client = none)
    {host : H} (hworld : Conversing clientOf world)
    (h : world.step (.deliver host) = some next) : Conversing clientOf next := by
  have hkept := h
  obtain ⟨taken, queues, hremove, rfl⟩ := step_deliver h
  have htaken := QueueFamily.item_mem_of_remove hremove
  refine hworld.step hkept (fun _ _ hcopy ↦ .inl (QueueFamily.mem_of_remove hremove hcopy))
    (fun server client hclient hnext ↦ ?_) fun _ _ _ _ hbefore ↦ .inl hbefore
  obtain ⟨delivery, hdelivery, rfl, hmac⟩ := hnext
  by_cases hbefore : delivery ∈ world.delivered
  · exact .inl ⟨delivery, hbefore, rfl, hmac⟩
  · obtain rfl : delivery = (host, taken) := by
      dsimp only at hdelivery
      split_ifs at hdelivery with haccepts
      · exact List.mem_singleton.mp ((List.mem_append.mp hdelivery).resolve_left hbefore)
      · exact absurd hdelivery hbefore
    have hne : host ≠ client := by
      rintro rfl
      rw [hroles host host hclient] at hclient
      cases hclient
    have hleads : net.LeadsTo (.inl host) (.inl client) :=
      Topology.leadsTo_host fun heq ↦ hne (Sum.inl.inj heq)
    refine .inr (knowsAt_of_step hkept ?_)
    change world.KnowsAt client (nextHop net.isTree (.inl host) (.inl client))
    rw [Topology.LeadsTo, Port.device] at hleads
    rw [← hleads]
    exact hworld.learned.behind _ taken htaken client hmac

theorem conversing_step (hroles : ∀ server, ∀ client ∈ clientOf server, clientOf client = none)
    {event : Event net} (hworld : Conversing clientOf world)
    (hguard : conversing clientOf world event) (h : world.step event = some next) :
    Conversing clientOf next := by
  cases event with
  | send host frame => exact conversing_send hroles hworld hguard h
  | receive switch inIf => exact conversing_receive hworld h
  | forward switch => exact conversing_forward hworld h
  | deliver host => exact conversing_deliver hroles hworld h
  | lose location position =>
    have hkept := h
    obtain ⟨queues, hlose, rfl⟩ := step_lose h
    exact hworld.step hkept (fun _ _ hcopy ↦ .inl (QueueFamily.mem_of_lose hlose hcopy))
      (fun _ _ _ hbefore ↦ .inl hbefore) fun _ _ _ _ hbefore ↦ .inl hbefore

theorem conversing_init : Conversing clientOf (network net).init where
  learned := learned_init
  addressed _ _ hcopy := by cases hcopy
  greeted _ _ _ hgreeted := by
    obtain ⟨delivery, hdelivery, -⟩ := hgreeted
    cases hdelivery
  answers _ _ hcopy := by cases hcopy
  known _ _ _ _ hknown := by cases hknown

theorem conversing_of_reachable
    (hroles : ∀ server, ∀ client ∈ clientOf server, clientOf client = none)
    (h : (network net).Reachable (conversing clientOf) world) : Conversing clientOf world := by
  have hstep : ∀ (before : World net) event after, Conversing clientOf before →
      conversing clientOf before event → (network net).step before event = some after →
        Conversing clientOf after :=
    fun _ _ _ hbefore hguard hafter ↦ conversing_step hroles hbefore hguard hafter
  exact h.invariant hstep conversing_init

/-- So conversations run as if switches never sent a frame back. -/
theorem reachable_of_conversing
    (hroles : ∀ server, ∀ client ∈ clientOf server, clientOf client = none)
    {guard wanted : World net → Event net → Prop}
    (hguard : ∀ world event, guard world event → conversing clientOf world event)
    (hwanted : ∀ world event, guard world event →
      (∀ switch, event = .forward switch → ¬ world.Hairpin switch) → wanted world event)
    (h : (network net).Reachable guard world) : (network net).Reachable wanted world := by
  induction h with
  | refl => exact .refl
  | step hs hallowed hstep ih =>
    refine ih.step (hwanted _ _ hallowed fun switch _ ↦ ?_) hstep
    exact (conversing_of_reachable hroles (hs.mono hguard)).not_hairpin switch

/-! ### Conversations are channels -/

/-- In the conversations nothing is lost. -/
def conversingLossless (clientOf : H → Option H) (world : World net) (event : Event net) : Prop :=
  conversing clientOf world event ∧ lossless world event

instance [Fintype H] (world : World net) (event : Event net) :
    Decidable (conversingLossless clientOf world event) :=
  inferInstanceAs (Decidable (_ ∧ _))

variable [Fintype H] [Fintype S]

/-- From one host to another the frames arrive in order and without repetition. -/
theorem sublist_of_conversing
    (hroles : ∀ server, ∀ client ∈ clientOf server, clientOf client = none) {world : World net}
    (h : (network net).Reachable (conversing clientOf) world) {source target : H}
    (hne : source ≠ target) :
    (world.deliveredBetween source target).Sublist (world.sentBetween source target) := by
  refine (List.sublist_append_left _ _).trans (carried_sublist hne ?_)
  refine reachable_of_conversing hroles (fun _ _ hguard ↦ hguard) (fun before event _ hnone ↦ ?_) h
  cases event with
  | forward switch => exact hnone switch rfl
  | send host frame | receive switch inIf | deliver host | lose location position => exact trivial

/-- If nothing is lost, what was sent is what was delivered followed by what is on the way. -/
theorem carried_eq_of_conversing
    (hroles : ∀ server, ∀ client ∈ clientOf server, clientOf client = none) {world : World net}
    (h : (network net).Reachable (conversingLossless clientOf) world) {source target : H}
    (hne : source ≠ target) : world.carried source target = world.sentBetween source target := by
  refine carried_eq hne (reachable_of_conversing hroles (fun _ _ hguard ↦ hguard.1)
    (fun before event hguard hnone ↦ ?_) h)
  cases event with
  | forward switch => exact hnone switch rfl
  | lose location position => exact hguard.2
  | send host frame | receive switch inIf | deliver host => exact trivial

/-- Whatever is lost, no switch sends a frame back, the answers of a server stay on the path to its
client, and from one host to another the frames arrive in order and without repetition; if nothing
is lost, what was sent is what was delivered followed by what is on the way. -/
theorem conversations_are_channels
    (hroles : ∀ server, ∀ client ∈ clientOf server, clientOf client = none) (world : World net) :
    ((network net).Reachable (conversing clientOf) world →
      (∀ switch, ¬ world.Hairpin switch) ∧
      (∀ server, ∀ client ∈ clientOf server, ∀ location, ∀ copy ∈ world.queues location,
        copy.frame.sourceMac = net.mac server → net.OnPath server client location) ∧
      ∀ source target, source ≠ target →
        (world.deliveredBetween source target).Sublist (world.sentBetween source target)) ∧
    ((network net).Reachable (conversingLossless clientOf) world →
      ∀ source target, source ≠ target →
        world.deliveredBetween source target ++ world.onTheWay source target =
          world.sentBetween source target) := by
  refine ⟨fun h ↦ ?_, fun h source target hne ↦ carried_eq_of_conversing hroles h hne⟩
  have hworld := conversing_of_reachable hroles h
  refine ⟨hworld.not_hairpin, fun server client hclient location copy hcopy hmac ↦ ?_,
    fun source target hne ↦ sublist_of_conversing hroles h hne⟩
  exact (hworld.answers location copy hcopy server client hclient hmac).1.onPath

/-- Host 2 answers host 0, from behind the other switch. The greeting is flooded, once with the loss
of a copy and once without losses. -/
theorem conversations_are_channels_witness :
    (∃ h : ((network readmeNetwork).run
          (conversing fun host ↦ if host = 2 then some 0 else none) (network readmeNetwork).init
        [.send 0 (readmeFrame 0 2), .receive 0 ⟨0, by decide⟩, .forward 0, .receive 1 ⟨0, by decide⟩,
          .forward 1, .deliver 2, .lose (.wire (.inr ⟨1, ⟨1, by decide⟩⟩)) 0,
          .send 2 (readmeFrame 2 0), .receive 1 ⟨2, by decide⟩]).isSome,
      let world := Option.get _ h
      (∀ switch, ¬ world.Hairpin switch) ∧
      (∀ server, ∀ client ∈ (if server = 2 then some 0 else none), ∀ location,
        ∀ copy ∈ world.queues location, copy.frame.sourceMac = readmeNetwork.mac server →
          readmeNetwork.OnPath server client location) ∧
      ∀ source target, source ≠ target →
        (world.deliveredBetween source target).Sublist (world.sentBetween source target)) ∧
    ∃ h : ((network readmeNetwork).run
          (conversingLossless fun host ↦ if host = 2 then some 0 else none)
          (network readmeNetwork).init
        [.send 0 (readmeFrame 0 2), .receive 0 ⟨0, by decide⟩, .forward 0, .receive 1 ⟨0, by decide⟩,
          .forward 1, .deliver 2, .deliver 1, .send 2 (readmeFrame 2 0), .receive 1 ⟨2, by decide⟩,
          .forward 1, .receive 0 ⟨1, by decide⟩]).isSome,
      let world := Option.get _ h
      ∀ source target, source ≠ target →
        world.deliveredBetween source target ++ world.onTheWay source target =
          world.sentBetween source target :=
  ⟨⟨by decide +kernel, (conversations_are_channels (by decide) _).1
      (ScheduledSystem.reachable_of_isSome_run _)⟩,
    by decide +kernel, (conversations_are_channels (by decide) _).2
      (ScheduledSystem.reachable_of_isSome_run _)⟩

end Steps

end NetworkSimulation.Switching
