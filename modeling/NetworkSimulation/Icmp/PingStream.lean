import NetworkSimulation.Library.Feed
import NetworkSimulation.Icmp.Replies

/-!
# A ping and the stream of frames in its socket

While it waits `ping` reads frames from its socket until one is an echo reply, whose ever it is, and
counts the reply only if the identifier is its own. A reply to somebody else therefore ends an
iteration that counts no reception. It answers the requests that it reads on the way.

Whatever the stream is, as many requests have been sent as replies were read, and one more while the
ping waits (`Progress`). So the ping does what it is meant to do (`Orderly`) exactly when the
replies that its iterations take, as many as it has requests to send, are its own (`orderly_iff`).
-/

set_option autoImplicit false
set_option relaxedAutoImplicit false

namespace NetworkSimulation.Icmp

open Library Stack

/-- What goes out from a ping: a request of its own or the answer to one that it read. -/
inductive Transmission
  | request (frame : MPDU)
  | answer (frame : MPDU)

def Transmission.request? : Transmission → Option MPDU
  | request frame => some frame
  | answer _ => none

def Transmission.answer? : Transmission → Option MPDU
  | request _ => none
  | answer frame => some frame

/-- The requests among what has been sent. -/
def requests (sent : List Transmission) : List MPDU := sent.filterMap Transmission.request?

/-- The answers among what has been sent. -/
def answers (sent : List Transmission) : List MPDU := sent.filterMap Transmission.answer?

/-- The variables of the call, and the answer that is written and not sent yet. -/
structure Pinging where
  pinger : Pinger
  answer : Option MPDU

def isEchoRequest (frame : MPDU) : Bool := frame.icmpMessage.any fun message ↦
  message.type = ICMP_ECHO_REQUEST

def isEchoReply (frame : MPDU) : Bool := frame.icmpMessage.any fun message ↦
  message.type = ICMP_ECHO_REPLY

namespace PingCall

variable (call : PingCall)

def act (ping : Pinging) : Option (Pinging × Option Transmission) :=
  match ping.pinger.point with
  | .sendRequest =>
    let (pinger, request) := call.sendRequest ping.pinger
    some (⟨pinger, none⟩, some (.request request))
  | .sendReply =>
    some (⟨{ ping.pinger with point := .waitReply }, none⟩, ping.answer.map .answer)
  | .gotReply => some (⟨checkCount ping.pinger, none⟩, none)
  | .deleteSocket => some (⟨{ ping.pinger with point := .returned }, none⟩, none)
  | .start | .resolving | .createSocket | .waitReply | .returned => none

def take (ping : Pinging) (rxFrame : MPDU) : Option Pinging :=
  match ping.pinger.point with
  | .waitReply => (call.getFrame ping.pinger rxFrame).map fun (pinger, answer) ↦ ⟨pinger, answer⟩
  | .start | .resolving | .createSocket | .sendRequest | .sendReply | .gotReply | .deleteSocket
  | .returned => none

/-- `ping` on its socket. -/
def onSocket : Party Pinging MPDU Transmission where
  act := call.act
  take := call.take

/-- The ping that has opened its socket and is about to send its first request. -/
def opened (pinger : Pinger) : Pinging := ⟨call.createSocket pinger, none⟩

/-- A reply to a request of this ping. -/
def isOwnReply (frame : MPDU) : Bool := frame.icmpMessage.any fun message ↦
  message.type = ICMP_ECHO_REPLY ∧ message.identifier = call.identifier

/-- The frame that `process_ICMP_message` sends for a request. -/
def AnswersWith (request reply : MPDU) : Prop :=
  processICMPMessage call.address call.uninitialisedPacket request = some (some reply)

/-- The feeds that the ping comes to on a stream. -/
def Visits (pinger : Pinger) (stream : List MPDU) (feed : Feed Pinging MPDU Transmission) : Prop :=
  Feed.Reaches call.onSocket ⟨call.opened pinger, stream, []⟩ feed

/-- What a ping is meant to do. It sends a request, after the first, only when it has read a reply
of its own since the one before; it sends one answer for each request read; and when it returns it
has sent and received as many as it was asked for. -/
structure Orderly (pinger : Pinger) (stream : List MPDU) : Prop where
  awaitsReply : ∀ first sent second, call.Visits pinger stream first →
    first.state.pinger.point = .sendRequest → first.advance call.onSocket = some sent →
      sent.Reaches call.onSocket second → second.state.pinger.point = .sendRequest →
        ∃ between, first.unread = between ++ second.unread ∧
          ∃ frame ∈ between, call.isOwnReply frame = true
  answersOnce : ∀ feed, call.Visits pinger stream feed →
    feed.state.pinger.point ≠ .sendReply → ∃ read, stream = read ++ feed.unread ∧
      List.Forall₂ call.AnswersWith (read.filter isEchoRequest) (answers feed.sent)
  returns : ∀ feed, call.Visits pinger stream feed → feed.state.pinger.point = .returned →
    (requests feed.sent).length = call.count ∧ feed.state.pinger.receptions = call.count

end PingCall

/-! ### What the ping has done -/

/-- How far the ping is when it has read these frames. -/
structure Progress (call : PingCall) (read : List MPDU) (feed : Feed Pinging MPDU Transmission) :
    Prop where
  identifier : feed.state.pinger.pingToSend.identifier = call.identifier
  requests : (requests feed.sent).length = feed.state.pinger.transmissionAttempts
  attempts : feed.state.pinger.transmissionAttempts =
    (read.filter isEchoReply).length + feed.state.pinger.awaits
  checkCount : feed.state.pinger.checkCount =
    call.count - feed.state.pinger.transmissionAttempts
  receptions : feed.state.pinger.receptions = (read.filter call.isOwnReply).length
  answers : List.Forall₂ call.AnswersWith (read.filter isEchoRequest)
    (answers feed.sent ++ feed.state.answer.toList)
  pending : feed.state.pinger.point ≠ .sendReply → feed.state.answer = none
  within : (feed.state.pinger.transmissionAttempts : ℤ) ≤ call.count
  more : feed.state.pinger.point = .sendRequest →
    (feed.state.pinger.transmissionAttempts : ℤ) < call.count
  all : feed.state.pinger.point = .deleteSocket ∨ feed.state.pinger.point = .returned →
    (feed.state.pinger.transmissionAttempts : ℤ) = call.count

section Progress

variable {call : PingCall} {read rest : List MPDU} {feed next : Feed Pinging MPDU Transmission}
  {ping acted taken : Pinging} {sent : List Transmission} {output : Option Transmission}
  {rxFrame : MPDU} {message : ICMP}

theorem progress_opened (hcount : 1 ≤ call.count) (pinger : Pinger) (stream : List MPDU) :
    Progress call [] ⟨call.opened pinger, stream, []⟩ where
  identifier := rfl
  requests := rfl
  attempts := rfl
  checkCount := by
    change call.count = call.count - ((0 : ℕ) : ℤ)
    rw [Nat.cast_zero, sub_zero]
  receptions := rfl
  answers := .nil
  pending _ := rfl
  within := by
    change ((0 : ℕ) : ℤ) ≤ call.count
    omega
  more _ := by
    change ((0 : ℕ) : ℤ) < call.count
    omega
  all hend := by rcases hend with hend | hend <;> cases hend

/-- The requests and the answers sent, after one more transmission. -/
theorem requests_append (sent : List Transmission) (output : Option Transmission) :
    requests (sent ++ output.toList) =
      requests sent ++ (output.bind Transmission.request?).toList := by
  rw [Icmp.requests, List.filterMap_append]
  cases output with
  | none => rfl
  | some transmission => cases transmission <;> rfl

theorem answers_append (sent : List Transmission) (output : Option Transmission) :
    answers (sent ++ output.toList) =
      answers sent ++ (output.bind Transmission.answer?).toList := by
  rw [Icmp.answers, List.filterMap_append]
  cases output with
  | none => rfl
  | some transmission => cases transmission <;> rfl

/-- A step that sends no request keeps the account, if what it sends is the answer it had. -/
theorem Progress.keep (h : Progress call read ⟨ping, rest, sent⟩)
    (hidentifier : acted.pinger.pingToSend.identifier = ping.pinger.pingToSend.identifier)
    (hattempts : acted.pinger.transmissionAttempts = ping.pinger.transmissionAttempts)
    (hcheckCount : acted.pinger.checkCount = ping.pinger.checkCount)
    (hreceptions : acted.pinger.receptions = ping.pinger.receptions)
    (hawaits : acted.pinger.awaits = ping.pinger.awaits)
    (hrequest : output.bind Transmission.request? = none)
    (hanswer : output.bind Transmission.answer? = ping.answer) (hnone : acted.answer = none)
    (hmore : acted.pinger.point = .sendRequest →
      (ping.pinger.transmissionAttempts : ℤ) < call.count)
    (hall : acted.pinger.point = .deleteSocket ∨ acted.pinger.point = .returned →
      (ping.pinger.transmissionAttempts : ℤ) = call.count) :
    Progress call read ⟨acted, rest, sent ++ output.toList⟩ where
  identifier := hidentifier.trans h.identifier
  requests := by
    rw [requests_append, hrequest, Option.toList_none, List.append_nil, hattempts]
    exact h.requests
  attempts := by
    rw [hattempts, hawaits]
    exact h.attempts
  checkCount := by
    rw [hcheckCount, hattempts]
    exact h.checkCount
  receptions := hreceptions.trans h.receptions
  answers := by
    rw [answers_append, hanswer, hnone, Option.toList_none, List.append_nil]
    exact h.answers
  pending _ := hnone
  within := by
    rw [hattempts]
    exact h.within
  more hpoint := by
    rw [hattempts]
    exact hmore hpoint
  all hpoint := by
    rw [hattempts]
    exact hall hpoint

theorem Progress.sendRequest (h : Progress call read ⟨ping, rest, sent⟩)
    (hpoint : ping.pinger.point = .sendRequest) :
    Progress call read ⟨⟨(call.sendRequest ping.pinger).1, none⟩, rest,
      sent ++ [.request (call.sendRequest ping.pinger).2]⟩ := by
  have hnone : ping.answer = none := h.pending (by simp [hpoint])
  have hmore : (ping.pinger.transmissionAttempts : ℤ) < call.count := h.more hpoint
  have hcheckCount : ping.pinger.checkCount = call.count - ping.pinger.transmissionAttempts :=
    h.checkCount
  have hattempts := h.attempts
  have hanswers := h.answers
  have hnow : ((ping.pinger.transmissionAttempts + 1 : ℕ) : ℤ) =
      ping.pinger.transmissionAttempts + 1 := Nat.cast_succ _
  refine ⟨h.identifier, ?_, ?_, ?_, h.receptions, ?_, fun _ ↦ rfl, ?_, nofun, ?_⟩
  · rw [Icmp.requests, List.filterMap_append, List.length_append]
    exact congrArg (· + 1) h.requests
  · change ping.pinger.transmissionAttempts + 1 = _ + 1
    rw [hattempts, Pinger.awaits, hpoint]
    rfl
  · change ping.pinger.checkCount - 1 =
      call.count - ((ping.pinger.transmissionAttempts + 1 : ℕ) : ℤ)
    omega
  · rw [hnone] at hanswers
    rw [Icmp.answers, List.filterMap_append, List.append_assoc]
    exact hanswers
  · change ((ping.pinger.transmissionAttempts + 1 : ℕ) : ℤ) ≤ call.count
    omega
  · intro hend
    rcases hend with hend | hend <;> cases hend

theorem Progress.act (h : Progress call read ⟨ping, rest, sent⟩)
    (hact : call.act ping = some (acted, output)) :
    Progress call read ⟨acted, rest, sent ++ output.toList⟩ := by
  have hwithin : (ping.pinger.transmissionAttempts : ℤ) ≤ call.count := h.within
  have hcheckCount : ping.pinger.checkCount = call.count - ping.pinger.transmissionAttempts :=
    h.checkCount
  have hpending : ping.pinger.point ≠ .sendReply → ping.answer = none := h.pending
  rw [PingCall.act] at hact
  cases hpoint : ping.pinger.point with
  | sendRequest =>
    simp only [hpoint, Option.some.injEq, Prod.mk.injEq] at hact
    obtain ⟨rfl, rfl⟩ := hact
    exact h.sendRequest hpoint
  | sendReply =>
    simp only [hpoint, Option.some.injEq, Prod.mk.injEq] at hact
    obtain ⟨rfl, rfl⟩ := hact
    refine h.keep rfl rfl rfl rfl ?_ ?_ ?_ rfl nofun ?_
    · rw [Pinger.awaits, Pinger.awaits, hpoint]
    · cases ping.answer <;> rfl
    · cases ping.answer <;> rfl
    · intro hend
      rcases hend with hend | hend <;> cases hend
  | gotReply =>
    simp only [hpoint, Option.some.injEq, Prod.mk.injEq] at hact
    obtain ⟨rfl, rfl⟩ := hact
    have hnone := hpending (by simp [hpoint])
    by_cases hzero : ping.pinger.checkCount = 0
    · rw [PingCall.checkCount, if_pos hzero]
      refine h.keep rfl rfl rfl rfl ?_ rfl hnone.symm rfl nofun fun _ ↦ by omega
      rw [Pinger.awaits, Pinger.awaits, hpoint]
    · rw [PingCall.checkCount, if_neg hzero]
      refine h.keep rfl rfl rfl rfl ?_ rfl hnone.symm rfl (fun _ ↦ by omega) ?_
      · rw [Pinger.awaits, Pinger.awaits, hpoint]
      · intro hend
        rcases hend with hend | hend <;> cases hend
  | deleteSocket =>
    simp only [hpoint, Option.some.injEq, Prod.mk.injEq] at hact
    obtain ⟨rfl, rfl⟩ := hact
    have hnone := hpending (by simp [hpoint])
    refine h.keep rfl rfl rfl rfl ?_ rfl hnone.symm rfl nofun fun _ ↦ h.all (.inl hpoint)
    rw [Pinger.awaits, Pinger.awaits, hpoint]
  | start => simp [hpoint] at hact
  | resolving => simp [hpoint] at hact
  | createSocket => simp [hpoint] at hact
  | waitReply => simp [hpoint] at hact
  | returned => simp [hpoint] at hact

/-! ### What the ping does with a frame -/

theorem isEchoRequest_eq (hmessage : rxFrame.icmpMessage = some message) :
    isEchoRequest rxFrame = decide (message.type = ICMP_ECHO_REQUEST) := by
  rw [isEchoRequest, hmessage, Option.any_some]

theorem isEchoReply_eq (hmessage : rxFrame.icmpMessage = some message) :
    isEchoReply rxFrame = decide (message.type = ICMP_ECHO_REPLY) := by
  rw [isEchoReply, hmessage, Option.any_some]

theorem isOwnReply_eq (hmessage : rxFrame.icmpMessage = some message) :
    call.isOwnReply rxFrame =
      decide (message.type = ICMP_ECHO_REPLY ∧ message.identifier = call.identifier) := by
  rw [PingCall.isOwnReply, hmessage, Option.any_some]

theorem isEchoReply_of_isOwnReply (h : call.isOwnReply rxFrame = true) :
    isEchoReply rxFrame = true := by
  rw [PingCall.isOwnReply, Option.any_eq_true] at h
  obtain ⟨message, hmessage, hown⟩ := h
  rw [isEchoReply_eq hmessage, decide_eq_true (of_decide_eq_true hown).1]

theorem exists_answer (call : PingCall) (hmessage : rxFrame.icmpMessage = some message)
    (htype : message.type = ICMP_ECHO_REQUEST) : ∃ answer, call.AnswersWith rxFrame answer := by
  obtain ⟨packet, hpacket, hdecoded⟩ := Option.bind_eq_some_iff.mp hmessage
  let reply := { message with type := ICMP_ECHO_REPLY }
  refine ⟨MPDU.ofPacket ((((IP.new call.uninitialisedPacket).setSourceIp
    call.address.ip).setDestinationIp packet.sourceIp).encapICMP reply) call.address.mac
      rxFrame.sourceMac, ?_⟩
  simp only [PingCall.AnswersWith, processICMPMessage, hpacket, hdecoded, if_pos htype, reply]

theorem take_request (call : PingCall) (hpoint : ping.pinger.point = .waitReply)
    (hmessage : rxFrame.icmpMessage = some message) (htype : message.type = ICMP_ECHO_REQUEST) :
    ∃ answer, call.AnswersWith rxFrame answer ∧
      call.take ping rxFrame = some ⟨{ ping.pinger with point := .sendReply }, some answer⟩ := by
  obtain ⟨answer, hanswer⟩ := exists_answer call hmessage htype
  have hprocess : processICMPMessage call.address call.uninitialisedPacket rxFrame =
    some (some answer) := hanswer
  refine ⟨answer, hanswer, ?_⟩
  simp only [PingCall.take, hpoint, PingCall.getFrame, hmessage, if_pos htype, hprocess,
    Option.map_some]

theorem take_reply (call : PingCall) (hpoint : ping.pinger.point = .waitReply)
    (hmessage : rxFrame.icmpMessage = some message) (htype : message.type = ICMP_ECHO_REPLY) :
    call.take ping rxFrame = some
      ⟨{ ping.pinger with
          point := .gotReply
          receptions :=
            if message.identifier = ping.pinger.pingToSend.identifier then
              ping.pinger.receptions + 1
            else ping.pinger.receptions },
        none⟩ := by
  have hother : message.type ≠ ICMP_ECHO_REQUEST := by
    rw [htype]
    decide
  simp only [PingCall.take, hpoint, PingCall.getFrame, hmessage, if_neg hother, if_pos htype,
    Option.map_some]

theorem take_other (call : PingCall) (hpoint : ping.pinger.point = .waitReply)
    (hmessage : rxFrame.icmpMessage = some message) (hrequest : message.type ≠ ICMP_ECHO_REQUEST)
    (hreply : message.type ≠ ICMP_ECHO_REPLY) :
    call.take ping rxFrame = some ⟨ping.pinger, none⟩ := by
  simp only [PingCall.take, hpoint, PingCall.getFrame, hmessage, if_neg hrequest, if_neg hreply,
    Option.map_some]

/-- Only a ping that waits takes a frame, and only one that is decoded. -/
theorem exists_message_of_take (h : call.take ping rxFrame = some taken) :
    ping.pinger.point = .waitReply ∧ ∃ message, rxFrame.icmpMessage = some message := by
  rw [PingCall.take] at h
  cases hpoint : ping.pinger.point with
  | waitReply =>
    refine ⟨rfl, ?_⟩
    cases hmessage : rxFrame.icmpMessage with
    | none => simp [hpoint, PingCall.getFrame, hmessage] at h
    | some message => exact ⟨message, rfl⟩
  | start => simp [hpoint] at h
  | resolving => simp [hpoint] at h
  | createSocket => simp [hpoint] at h
  | sendRequest => simp [hpoint] at h
  | sendReply => simp [hpoint] at h
  | gotReply => simp [hpoint] at h
  | deleteSocket => simp [hpoint] at h
  | returned => simp [hpoint] at h

/-- A frame taken keeps the account, if the ping goes on waiting unless the frame is a reply, counts
the frame if it is a reply of its own and holds an answer to it if it is a request. -/
theorem Progress.takeFrame (h : Progress call read ⟨ping, rxFrame :: rest, sent⟩)
    (hpoint : ping.pinger.point = .waitReply)
    (hpingToSend : taken.pinger.pingToSend = ping.pinger.pingToSend)
    (hattempts : taken.pinger.transmissionAttempts = ping.pinger.transmissionAttempts)
    (hcheckCount : taken.pinger.checkCount = ping.pinger.checkCount)
    (hawaits : taken.pinger.awaits = if isEchoReply rxFrame then 0 else 1)
    (hreceptions : taken.pinger.receptions =
      ping.pinger.receptions + if call.isOwnReply rxFrame then 1 else 0)
    (hanswer : List.Forall₂ call.AnswersWith ([rxFrame].filter isEchoRequest)
      taken.answer.toList)
    (hpending : taken.pinger.point ≠ .sendReply → taken.answer = none)
    (hphase : taken.pinger.point = .waitReply ∨ taken.pinger.point = .sendReply ∨
      taken.pinger.point = .gotReply) :
    Progress call (read ++ [rxFrame]) ⟨taken, rest, sent⟩ := by
  have hnone : ping.answer = none := h.pending (by simp [hpoint])
  have hsent : ping.pinger.transmissionAttempts = (read.filter isEchoReply).length + 1 := by
    have hkept := h.attempts
    rwa [Pinger.awaits, hpoint] at hkept
  refine ⟨?_, ?_, ?_, ?_, ?_, ?_, hpending, ?_, ?_, ?_⟩
  · change taken.pinger.pingToSend.identifier = _
    rw [hpingToSend]
    exact h.identifier
  · exact h.requests.trans hattempts.symm
  · change taken.pinger.transmissionAttempts = _ + taken.pinger.awaits
    rw [hattempts, hsent, hawaits, List.filter_append, List.length_append, List.filter_singleton]
    cases isEchoReply rxFrame <;> rfl
  · change taken.pinger.checkCount = call.count - taken.pinger.transmissionAttempts
    rw [hcheckCount, hattempts]
    exact h.checkCount
  · have hread : ping.pinger.receptions = (read.filter call.isOwnReply).length := h.receptions
    change taken.pinger.receptions = _
    rw [hreceptions, hread, List.filter_append, List.length_append, List.filter_singleton]
    cases call.isOwnReply rxFrame <;> rfl
  · have hanswers := h.answers
    rw [hnone, Option.toList_none, List.append_nil] at hanswers
    rw [List.filter_append]
    exact List.rel_append hanswers hanswer
  · change (taken.pinger.transmissionAttempts : ℤ) ≤ call.count
    rw [hattempts]
    exact h.within
  · intro hsend
    rcases hphase with hphase | hphase | hphase <;> cases hphase.symm.trans hsend
  · intro hend
    rcases hend with hend | hend <;> rcases hphase with hphase | hphase | hphase <;>
      cases hphase.symm.trans hend

theorem Progress.take (h : Progress call read ⟨ping, rxFrame :: rest, sent⟩)
    (htake : call.take ping rxFrame = some taken) :
    Progress call (read ++ [rxFrame]) ⟨taken, rest, sent⟩ := by
  obtain ⟨hpoint, message, hmessage⟩ := exists_message_of_take htake
  have hidentifier : ping.pinger.pingToSend.identifier = call.identifier := h.identifier
  have hdistinct : ICMP_ECHO_REPLY ≠ ICMP_ECHO_REQUEST := by decide
  by_cases hrequest : message.type = ICMP_ECHO_REQUEST
  · obtain ⟨answer, hanswer, hrequested⟩ := take_request call hpoint hmessage hrequest
    have hreply : message.type ≠ ICMP_ECHO_REPLY := by
      rw [hrequest]
      exact hdistinct.symm
    rw [hrequested] at htake
    obtain rfl := Option.some.inj htake
    refine h.takeFrame hpoint rfl rfl rfl ?_ ?_ ?_ (fun hother ↦ absurd rfl hother)
      (.inr (.inl rfl))
    · rw [isEchoReply_eq hmessage, decide_eq_false hreply]
      rfl
    · rw [isOwnReply_eq hmessage, decide_eq_false fun hown ↦ hreply hown.1]
      rfl
    · rw [List.filter_singleton, isEchoRequest_eq hmessage, decide_eq_true hrequest]
      exact .cons hanswer .nil
  by_cases hreply : message.type = ICMP_ECHO_REPLY
  · rw [take_reply call hpoint hmessage hreply] at htake
    obtain rfl := Option.some.inj htake
    refine h.takeFrame hpoint rfl rfl rfl ?_ ?_ ?_ (fun _ ↦ rfl) (.inr (.inr rfl))
    · rw [isEchoReply_eq hmessage, decide_eq_true hreply]
      rfl
    · rw [isOwnReply_eq hmessage, hidentifier]
      by_cases hown : message.identifier = call.identifier
      · rw [if_pos hown, decide_eq_true ⟨hreply, hown⟩]
        rfl
      · rw [if_neg hown, decide_eq_false fun hboth ↦ hown hboth.2]
        rfl
    · rw [List.filter_singleton, isEchoRequest_eq hmessage, decide_eq_false hrequest]
      exact .nil
  · rw [take_other call hpoint hmessage hrequest hreply] at htake
    obtain rfl := Option.some.inj htake
    refine h.takeFrame hpoint rfl rfl rfl ?_ ?_ ?_ (fun _ ↦ rfl) (.inl hpoint)
    · rw [isEchoReply_eq hmessage, decide_eq_false hreply, Pinger.awaits, hpoint]
      rfl
    · rw [isOwnReply_eq hmessage, decide_eq_false fun hown ↦ hreply hown.1]
      rfl
    · rw [List.filter_singleton, isEchoRequest_eq hmessage, decide_eq_false hrequest]
      exact .nil

end Progress

/-! ### Runs -/

section Runs

variable {call : PingCall} {pinger : Pinger} {stream read rest : List MPDU} {rxFrame : MPDU}
  {feed first second sent next : Feed Pinging MPDU Transmission}

theorem exists_progress (hcount : 1 ≤ call.count) (h : call.Visits pinger stream feed) :
    ∃ read, stream = read ++ feed.unread ∧ Progress call read feed := by
  have hstep : ∀ first second : Feed Pinging MPDU Transmission,
      (∃ read, stream = read ++ first.unread ∧ Progress call read first) →
        first.advance call.onSocket = some second →
          ∃ read, stream = read ++ second.unread ∧ Progress call read second := by
    rintro ⟨ping, unread, sent⟩ second ⟨read, hstream, hprogress⟩ hadvance
    rcases Feed.advance_eq_some hadvance with
      ⟨acted, output, hact, rfl⟩ | ⟨-, rxFrame, rest, taken, hunread, htake, rfl⟩
    · exact ⟨read, hstream, hprogress.act hact⟩
    · change unread = rxFrame :: rest at hunread
      subst hunread
      refine ⟨read ++ [rxFrame], ?_, hprogress.take htake⟩
      rw [hstream, List.append_assoc]
      rfl
  exact h.invariant hstep ⟨[], rfl, progress_opened hcount pinger stream⟩

/-- While the ping waits it has sent one request more than it has read replies. -/
theorem Progress.checkCount_of_waits (h : Progress call read feed)
    (hpoint : feed.state.pinger.point = .waitReply) :
    feed.state.pinger.checkCount = call.count - ((read.filter isEchoReply).length + 1 : ℕ) := by
  rw [h.checkCount, h.attempts, Pinger.awaits, hpoint]

/-- The ping has taken no reply that is not among the first, as many as it has requests to send. -/
theorem Progress.mem_take (h : Progress call read feed) (hmem : rxFrame ∈ read.filter isEchoReply)
    (rest : List MPDU) :
    rxFrame ∈ ((read ++ rest).filter isEchoReply).take call.count.toNat := by
  have hfew : (read.filter isEchoReply).length ≤ call.count.toNat := by
    have hattempts := h.attempts
    have hwithin := h.within
    omega
  rw [List.filter_append, List.take_append, List.take_of_length_le hfew]
  exact List.mem_append_left _ hmem

theorem act_of_sendRequest {ping : Pinging} (h : ping.pinger.point = .sendRequest) :
    call.onSocket.act ping = some (⟨(call.sendRequest ping.pinger).1, none⟩,
      some (.request (call.sendRequest ping.pinger).2)) := by
  change call.act ping = _
  simp only [PingCall.act, h]

theorem act_of_waitReply {ping : Pinging} (h : ping.pinger.point = .waitReply) :
    call.onSocket.act ping = none := by
  change call.act ping = none
  simp only [PingCall.act, h]

theorem length_requests_sendRequest (hpoint : first.state.pinger.point = .sendRequest)
    (h : first.advance call.onSocket = some sent) :
    (requests sent.sent).length = (requests first.sent).length + 1 := by
  have hadvance : first.advance call.onSocket = some ⟨_, first.unread, first.sent ++ _⟩ :=
    Feed.advance_of_act (act_of_sendRequest hpoint)
  obtain rfl := Option.some.inj (h.symm.trans hadvance)
  rw [requests_append, List.length_append]
  rfl

/-! ### The replies are the ping's own -/

section Own

variable (hcount : 1 ≤ call.count)
  (hown : ∀ frame ∈ (stream.filter isEchoReply).take call.count.toNat,
    call.isOwnReply frame = true)

include hcount hown

theorem exists_own_reply (hfirst : call.Visits pinger stream first)
    (hpoint : first.state.pinger.point = .sendRequest)
    (hadvance : first.advance call.onSocket = some sent)
    (hreaches : sent.Reaches call.onSocket second)
    (hagain : second.state.pinger.point = .sendRequest) :
    ∃ between, first.unread = between ++ second.unread ∧
      ∃ frame ∈ between, call.isOwnReply frame = true := by
  have hsent : first.Reaches call.onSocket sent := .single hadvance
  obtain ⟨read, hstream, hprogress⟩ := exists_progress hcount hfirst
  obtain ⟨later, hlater, hprogress'⟩ :=
    exists_progress hcount ((hfirst.trans hsent).trans hreaches)
  obtain ⟨between, hbetween⟩ := (hsent.trans hreaches).grows.1
  have hread : later = read ++ between := by
    rw [hstream, ← hbetween, ← List.append_assoc] at hlater
    exact (List.append_cancel_right hlater).symm
  -- one more request has been sent, and each request but the last has got its reply
  have hmore : first.state.pinger.transmissionAttempts + 1 ≤
      second.state.pinger.transmissionAttempts := by
    rw [← hprogress.requests, ← hprogress'.requests, ← length_requests_sendRequest hpoint hadvance]
    exact (hreaches.grows.2.filterMap Transmission.request?).length_le
  have hbefore : first.state.pinger.transmissionAttempts = (read.filter isEchoReply).length := by
    rw [hprogress.attempts, Pinger.awaits, hpoint]
    rfl
  have hafter : second.state.pinger.transmissionAttempts = (later.filter isEchoReply).length := by
    rw [hprogress'.attempts, Pinger.awaits, hagain]
    rfl
  have hsome : 0 < (between.filter isEchoReply).length := by
    rw [hread, List.filter_append, List.length_append] at hafter
    omega
  obtain ⟨frame, hframe⟩ := List.exists_mem_of_length_pos hsome
  refine ⟨between, hbetween.symm, frame, List.mem_of_mem_filter hframe, hown frame ?_⟩
  rw [hlater, hread]
  rw [hread] at hprogress'
  refine hprogress'.mem_take ?_ second.unread
  rw [List.filter_append]
  exact List.mem_append_right _ hframe

theorem counts_of_returned (h : call.Visits pinger stream feed)
    (hpoint : feed.state.pinger.point = .returned) :
    (requests feed.sent).length = call.count ∧ feed.state.pinger.receptions = call.count := by
  obtain ⟨read, hstream, hprogress⟩ := exists_progress hcount h
  have hall : (feed.state.pinger.transmissionAttempts : ℤ) = call.count :=
    hprogress.all (.inr hpoint)
  have hattempts : feed.state.pinger.transmissionAttempts = (read.filter isEchoReply).length := by
    rw [hprogress.attempts, Pinger.awaits, hpoint]
    rfl
  have hsame : read.filter call.isOwnReply = read.filter isEchoReply := by
    refine List.filter_congr fun frame hframe ↦ ?_
    cases hreply : isEchoReply frame with
    | false =>
      cases hmine : call.isOwnReply frame with
      | false => rfl
      | true => exact absurd (isEchoReply_of_isOwnReply hmine) (by simp [hreply])
    | true =>
      refine hown frame ?_
      rw [hstream]
      exact hprogress.mem_take (List.mem_filter.mpr ⟨hframe, hreply⟩) _
  constructor
  · rw [hprogress.requests]
    exact hall
  · rw [hprogress.receptions, hsame, ← hattempts]
    exact hall

end Own

theorem answers_of_visits (hcount : 1 ≤ call.count) (h : call.Visits pinger stream feed)
    (hpoint : feed.state.pinger.point ≠ .sendReply) : ∃ read, stream = read ++ feed.unread ∧
      List.Forall₂ call.AnswersWith (read.filter isEchoRequest) (answers feed.sent) := by
  obtain ⟨read, hstream, hprogress⟩ := exists_progress hcount h
  have hanswers := hprogress.answers
  rw [hprogress.pending hpoint, Option.toList_none, List.append_nil] at hanswers
  exact ⟨read, hstream, hanswers⟩

/-! ### A reply to somebody else -/

/-- The ping waits for the reply to the request that it sent at the first feed, and has read no
reply since. -/
structure WaitsSince (call : PingCall) (pinger : Pinger) (stream : List MPDU)
    (first feed : Feed Pinging MPDU Transmission) : Prop where
  visits : call.Visits pinger stream first
  sends : first.state.pinger.point = .sendRequest
  reaches : ∃ sent, first.advance call.onSocket = some sent ∧ sent.Reaches call.onSocket feed
  waits : feed.state.pinger.point = .waitReply
  read : ∃ between, first.unread = between ++ feed.unread ∧
    ∀ frame ∈ between, isEchoReply frame = false

theorem exists_waitsSince_of_sendRequest (h : call.Visits pinger stream first)
    (hpoint : first.state.pinger.point = .sendRequest) :
    ∃ feed, WaitsSince call pinger stream first feed ∧ feed.unread = first.unread := by
  exact ⟨_, ⟨h, hpoint, ⟨_, Feed.advance_of_act (act_of_sendRequest hpoint), .refl⟩, rfl, [], rfl,
    fun frame hframe ↦ absurd hframe List.not_mem_nil⟩, rfl⟩

theorem WaitsSince.visits_feed (h : WaitsSince call pinger stream first feed) :
    call.Visits pinger stream feed := by
  obtain ⟨sent, hadvance, hreaches⟩ := h.reaches
  exact h.visits.trans ((Feed.Reaches.trans (.single hadvance) hreaches))

/-- A frame that is not a reply is answered or not, and the ping waits on. -/
theorem exists_reaches_of_not_reply (call : PingCall) {ping : Pinging} (rest : List MPDU)
    (sent : List Transmission) (hpoint : ping.pinger.point = .waitReply)
    (hframe : rxFrame.icmpMessage.isSome) (hreply : isEchoReply rxFrame = false) :
    ∃ next, Feed.Reaches call.onSocket ⟨ping, rxFrame :: rest, sent⟩ next ∧
      next.state.pinger.point = .waitReply ∧ next.unread = rest := by
  obtain ⟨message, hmessage⟩ := Option.isSome_iff_exists.mp hframe
  rw [isEchoReply_eq hmessage] at hreply
  by_cases hrequest : message.type = ICMP_ECHO_REQUEST
  · obtain ⟨answer, -, htake⟩ := take_request call hpoint hmessage hrequest
    exact ⟨_, (Feed.Reaches.of_take (act_of_waitReply hpoint) htake).trans (.of_act rfl), rfl, rfl⟩
  · have htake := take_other call hpoint hmessage hrequest (of_decide_eq_false hreply)
    exact ⟨_, .of_take (act_of_waitReply hpoint) htake, hpoint, rfl⟩

/-- A reply, whose ever it is, ends the iteration. -/
theorem exists_reaches_of_reply (call : PingCall) {ping : Pinging} (rest : List MPDU)
    (sent : List Transmission) (hpoint : ping.pinger.point = .waitReply)
    (hreply : isEchoReply rxFrame = true) :
    ∃ next, Feed.Reaches call.onSocket ⟨ping, rxFrame :: rest, sent⟩ next ∧ next.unread = rest ∧
      next.state.pinger.point =
        if ping.pinger.checkCount = 0 then .returned else .sendRequest := by
  rw [isEchoReply, Option.any_eq_true] at hreply
  obtain ⟨message, hmessage, htype⟩ := hreply
  have htake := take_reply call hpoint hmessage (of_decide_eq_true htype)
  have hgot : Feed.Reaches call.onSocket ⟨ping, rxFrame :: rest, sent⟩ 
      ⟨_, rest, sent ++ Option.toList none⟩ :=
    (Feed.Reaches.of_take (act_of_waitReply hpoint) htake).trans (.of_act rfl)
  by_cases hzero : ping.pinger.checkCount = 0
  · rw [PingCall.checkCount, if_pos hzero] at hgot
    exact ⟨_, hgot.trans (.of_act rfl), rfl, (if_pos hzero).symm⟩
  · rw [PingCall.checkCount, if_neg hzero] at hgot
    exact ⟨_, hgot, rfl, (if_neg hzero).symm⟩

/-- The ping comes to wait with what follows, if there are fewer replies before than it has requests
to send. -/
theorem exists_waitsSince (pinger : Pinger) (hcount : 1 ≤ call.count)
    (hstream : ∀ frame ∈ stream, frame.icmpMessage.isSome) (hsplit : stream = read ++ rest)
    (hfew : ((read.filter isEchoReply).length : ℤ) < call.count) :
    ∃ first feed, WaitsSince call pinger stream first feed ∧ feed.unread = rest := by
  induction read using List.reverseRecOn generalizing rest with
  | nil =>
    subst hsplit
    have hopened : call.Visits pinger stream ⟨call.opened pinger, stream, []⟩ := .refl
    exact ⟨_, exists_waitsSince_of_sendRequest hopened rfl⟩
  | append_singleton read frame ih =>
    rw [List.append_assoc, List.singleton_append] at hsplit
    rw [List.filter_append, List.length_append, List.filter_singleton] at hfew
    obtain ⟨first, ⟨ping, unread, sent⟩, hwaits, hunread⟩ := ih hsplit (by omega)
    change unread = frame :: rest at hunread
    subst hunread
    have hframe : frame.icmpMessage.isSome := by
      refine hstream frame ?_
      rw [hsplit]
      exact List.mem_append_right _ List.mem_cons_self
    cases hreply : isEchoReply frame with
    | false =>
      obtain ⟨next, hnext, hpoint, hrest⟩ :=
        exists_reaches_of_not_reply call rest sent hwaits.waits
          hframe hreply
      obtain ⟨after, hadvance, hreaches⟩ := hwaits.reaches
      obtain ⟨between, hbetween, hnone⟩ := hwaits.read
      refine ⟨first, next, ⟨hwaits.visits, hwaits.sends, ⟨after, hadvance, hreaches.trans hnext⟩,
        hpoint, between ++ [frame], ?_, ?_⟩, hrest⟩
      · rw [hbetween, hrest, List.append_assoc]
        rfl
      · intro other hother
        rcases List.mem_append.mp hother with hother | hother
        · exact hnone other hother
        · rw [List.mem_singleton.mp hother, hreply]
    | true =>
      obtain ⟨next, hnext, hrest, hpoint⟩ :=
        exists_reaches_of_reply call rest sent hwaits.waits hreply
      obtain ⟨seen, hseen, hprogress⟩ := exists_progress hcount hwaits.visits_feed
      obtain rfl : seen = read := List.append_cancel_right (hseen.symm.trans hsplit)
      have hleft : ping.pinger.checkCount ≠ 0 := by
        have hcheckCount : ping.pinger.checkCount = _ := hprogress.checkCount_of_waits hwaits.waits
        rw [hreply] at hfew
        simp only [cond_true, List.length_singleton] at hfew
        omega
      rw [if_neg hleft] at hpoint
      obtain ⟨feed, hfeed, hfeedRest⟩ :=
        exists_waitsSince_of_sendRequest (hwaits.visits_feed.trans hnext) hpoint
      exact ⟨next, feed, hfeed, hfeedRest.trans hrest⟩

/-- A foreign reply among those that the iterations take ends an iteration that counts nothing. -/
theorem own_of_orderly (hcount : 1 ≤ call.count)
    (hstream : ∀ frame ∈ stream, frame.icmpMessage.isSome) (h : call.Orderly pinger stream)
    (hmem : rxFrame ∈ (stream.filter isEchoReply).take call.count.toNat) :
    call.isOwnReply rxFrame = true := by
  obtain ⟨read, rest, hsplit, hfew⟩ := exists_split_of_mem_take_filter hmem
  have hreply : isEchoReply rxFrame = true :=
    (List.mem_filter.mp (List.mem_of_mem_take hmem)).2
  obtain ⟨first, ⟨ping, unread, sent⟩, hwaits, hunread⟩ :=
    exists_waitsSince pinger hcount hstream hsplit (by omega)
  change unread = rxFrame :: rest at hunread
  subst hunread
  obtain ⟨next, hnext, hrest, hpoint⟩ :=
    exists_reaches_of_reply call rest sent hwaits.waits hreply
  have hvisits : call.Visits pinger stream next := hwaits.visits_feed.trans hnext
  by_contra hforeign
  by_cases hzero : ping.pinger.checkCount = 0
  · -- the last iteration: one reception is missing
    rw [if_pos hzero] at hpoint
    have hreceptions : (next.state.pinger.receptions : ℤ) = call.count :=
      (h.returns next hvisits hpoint).2
    obtain ⟨seen, hseen, hprogress⟩ := exists_progress hcount hvisits
    obtain rfl : seen = read ++ [rxFrame] := by
      refine List.append_cancel_right (hseen.symm.trans (hsplit.trans ?_))
      rw [hrest, List.append_assoc, List.singleton_append]
    rw [hprogress.receptions, List.filter_append, List.length_append, List.filter_singleton,
      eq_false_of_ne_true hforeign] at hreceptions
    have hle : (read.filter call.isOwnReply).length ≤ (read.filter isEchoReply).length :=
      (List.monotone_filter_right read fun _ ↦ isEchoReply_of_isOwnReply).length_le
    simp only [cond_false, List.length_nil] at hreceptions
    omega
  · -- the next request goes out, and between the two there is only the foreign reply
    rw [if_neg hzero] at hpoint
    obtain ⟨after, hadvance, hreaches⟩ := hwaits.reaches
    obtain ⟨between, hbetween, frame, hframe, hown⟩ := h.awaitsReply first after next
      hwaits.visits hwaits.sends hadvance (hreaches.trans hnext) hpoint
    obtain ⟨skipped, hskipped, hnone⟩ := hwaits.read
    obtain rfl : between = skipped ++ [rxFrame] := by
      refine List.append_cancel_right (hbetween.symm.trans (hskipped.trans ?_))
      rw [hrest, List.append_assoc, List.singleton_append]
    rcases List.mem_append.mp hframe with hframe | hframe
    · have hother := hnone frame hframe
      rw [isEchoReply_of_isOwnReply hown] at hother
      cases hother
    · rw [List.mem_singleton.mp hframe] at hown
      exact hforeign hown

end Runs

/-- On a stream of ICMP frames the ping does what it is meant to do exactly when the replies that
its iterations take are replies to its own requests. -/
theorem PingCall.orderly_iff (call : PingCall) (hcount : 1 ≤ call.count) (pinger : Pinger)
    (stream : List MPDU) (hstream : ∀ frame ∈ stream, frame.icmpMessage.isSome) :
    call.Orderly pinger stream ↔
      ∀ frame ∈ (stream.filter isEchoReply).take call.count.toNat,
        call.isOwnReply frame = true := by
  constructor
  · intro horderly frame hframe
    exact own_of_orderly hcount hstream horderly hframe
  · intro hown
    exact
      { awaitsReply := fun first sent second hfirst hpoint hadvance hreaches hagain ↦
          exists_own_reply hcount hown hfirst hpoint hadvance hreaches hagain
        answersOnce := fun feed hfeed hpoint ↦ answers_of_visits hcount hfeed hpoint
        returns := fun feed hfeed hpoint ↦ counts_of_returned hcount hown hfeed hpoint }

/-- A ping of one request, with identifier 7. -/
def oneRequest : PingCall where
  address := ⟨createUniformMac 0x11, createIp 192 168 1 1⟩
  netmask := createIp 255 255 255 0
  routerMac := createUniformMac 0
  destinationIp := createIp 192 168 1 2
  count := 1
  identifier := 7
  uninitialisedPacket := ⟨0, 0, 0, 0, 0, []⟩

/-- A message from the host that is pinged. -/
def fromDestination (type : UInt8) (identifier : UInt16) : MPDU :=
  MPDU.ofPacket ((((IP.new ⟨0, 0, 0, 0, 0, []⟩).setSourceIp (createIp 192 168 1 2)).setDestinationIp
    (createIp 192 168 1 1)).encapICMP ⟨type, 0, 0, identifier, 1, []⟩)
      (createUniformMac 0x22) (createUniformMac 0x11)

def beforePing : Pinger :=
  ⟨[], .createSocket, createUniformMac 0x22, ⟨0, 0, 0, 0, 0, []⟩, ⟨0, 0, 0, 0, 0, []⟩, 0, 0, 0⟩

/-- A request comes before the first reply and between the two, and a reply to somebody else when all
is done. -/
theorem PingCall.orderly_witness :
    PingCall.Orderly { oneRequest with count := 2 } beforePing
      [fromDestination ICMP_ECHO_REQUEST 3, fromDestination ICMP_ECHO_REPLY 7,
        fromDestination ICMP_ECHO_REQUEST 4, fromDestination ICMP_ECHO_REPLY 7,
        fromDestination ICMP_ECHO_REPLY 5] :=
  (PingCall.orderly_iff { oneRequest with count := 2 } (by decide) beforePing _
    (by decide)).mpr (by decide)

/-- The reply to somebody else comes first. -/
theorem PingCall.not_forall_orderly : ¬ ∀ (call : PingCall) (pinger : Pinger)
    (stream : List MPDU), 1 ≤ call.count → (∀ frame ∈ stream, frame.icmpMessage.isSome) →
      call.Orderly pinger stream := by
  intro h
  have horderly := h oneRequest beforePing
    [fromDestination ICMP_ECHO_REPLY 5, fromDestination ICMP_ECHO_REPLY 7] (by decide) (by decide)
  have hown := own_of_orderly (by decide) (by decide) horderly List.mem_cons_self
  revert hown
  decide

end NetworkSimulation.Icmp
