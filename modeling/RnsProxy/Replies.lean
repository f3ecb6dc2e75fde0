import RnsProxy.Projection

/-!
# Replies to SOCKS5 requests

A SOCKS5 request ends with a reply on its control stream, whatever becomes of the session it asked
for. The handlers of TCP CONNECT and UDP ASSOCIATE are written alike, but `handle_tcp_connect` looks
at the outcome of the wait twice, and its second look never finds a failure. This file determines
the runs in which every request gets the reply it should get.
-/

namespace RnsProxy

/-- A SOCKS5 reply. -/
inductive SocksReply
  /-- The request has succeeded. -/
  | success
  /-- `ReplyError::GeneralFailure`. -/
  | generalFailure
  /-- `ReplyError::CommandNotSupported`. -/
  | commandNotSupported
  deriving DecidableEq, Repr

/-- The reply a request should get once the wait for the server has ended. -/
def SocksReply.ofWait : Except WaitFailure Unit → SocksReply
  | .ok () => success
  | .error _ => generalFailure

/-- The handler is past its reply. -/
def Pc.isSettled : Pc → Bool
  | relaying => true
  | closing _ => true
  | dropping _ => true
  | ended _ => true
  | _ => false

namespace Task

/-- How a step ends the wait for the server. -/
def waitEnd : Task × TaskAct → Option (Except WaitFailure Unit)
  | (task, act) =>
      match task.pc, act with
      | .waiting _, .recv (some frame) =>
          match frame.frameType with
          | .connectOk => some (.ok ())
          | .connectErr => some (.error .connectErr)
          | _ => none
      | .waiting _, .recv none => some (.error .channelClosed)
      | .waiting _, .timeout => some (.error .timeout)
      | _, _ => none

/-- The reply a step delivers to the application. -/
def delivered : Task × TaskAct → Option SocksReply
  | (task, act) =>
      match task.pc, act with
      | .replying _, .replied true => some .success
      | .replyingFailure _, .replied true => some .generalFailure
      | .replyingUnsupported, .replied true => some .commandNotSupported
      | _, _ => none

/-- Once the wait has ended and the handler is past its reply, the application has received exactly
one reply, a success exactly if the wait has ended with CONN_OK. -/
def AnswersRequest (past : List (Task × TaskAct)) (task : Task) : Prop :=
  ∀ outcome, past.filterMap waitEnd = [outcome] → task.pc.isSettled = true →
    past.filterMap delivered = [.ofWait outcome]

/-- The step neither ends the wait of a TCP CONNECT with a failure, nor fails to bind the local UDP
socket, nor fails to deliver a reply. -/
def Replies (task : Task) (act : TaskAct) : Prop :=
  match task.pc, act with
  | .waiting .socksTcp, .recv (some frame) => frame.frameType ≠ .connectErr
  | .waiting .socksTcp, .recv none => False
  | .waiting .socksTcp, .timeout => False
  | .binding _, .bound error => error = none
  | .replying _, .replied ok => ok = true
  | .replyingFailure _, .replied ok => ok = true
  | _, _ => True

/-! ## Where the handler stands and what has been replied -/

/-- What is known about the wait and the replies from where the handler of a connection to the
SOCKS5 listener stands. -/
def Expects (waits : List (Except WaitFailure Unit)) (replies : List SocksReply) : Pc → Prop
  | .handshake => waits = [] ∧ replies = []
  | .readCommand => waits = [] ∧ replies = []
  | .connecting flow _ _ => (flow = .socksTcp ∨ flow = .socksUdp) ∧ waits = [] ∧ replies = []
  | .waiting flow => (flow = .socksTcp ∨ flow = .socksUdp) ∧ waits = [] ∧ replies = []
  | .binding result => waits = [result] ∧ replies = []
  | .replying _ => waits = [.ok ()] ∧ replies = []
  | .replyingFailure why => waits = [.error why] ∧ replies = []
  | .replyingUnsupported => waits = [] ∧ replies = []
  | pc => pc.isSettled = true

variable {socks : FastSocks5} {sid : UInt32} {task next : Task} {act : TaskAct} {effect : Effect}
  {waits : List (Except WaitFailure Unit)} {replies : List SocksReply}

theorem expects_of_isSettled {pc : Pc} (settled : pc.isSettled = true) :
    Expects waits replies pc := by
  cases pc <;> first | exact settled | cases settled

theorem pendingSend_settled {frame : Frame} {after : Task}
    (pending : task.pendingSend = some (frame, after)) (settled : task.pc.isSettled = true) :
    after.pc.isSettled = true := by
  cases pendingSend_cases pending with
  | connect connecting => simp [connecting, Pc.isSettled] at settled
  | _ => rfl

theorem Step.of_isSettled (taken : Step socks task act next effect)
    (settled : task.pc.isSettled = true) :
    next.pc.isSettled = true ∧ waitEnd (task, act) = none ∧ delivered (task, act) = none := by
  have silent : waitEnd (task, act) = none ∧ delivered (task, act) = none := by
    generalize at_pc : task.pc = pc at settled
    cases pc <;> simp [Pc.isSettled] at settled <;> simp [waitEnd, delivered, at_pc]
  refine ⟨?_, silent⟩
  cases taken with
  | @move _ pc moves =>
      generalize task.pc = before at moves settled
      cases moves <;> cases settled
  | @send frame after pending =>
      exact (pendingSend_settled pending settled : after.pc.isSettled = true)
  | reply waiting => simp [waiting, Pc.isSettled] at settled
  | timeout waiting => simp [waiting, Pc.isSettled] at settled
  | replied => rfl
  | filtered filtering => simp [filtering, Pc.isSettled] at settled
  | select => rfl
  | dropSession => rfl
  | relay => exact settled

theorem expects_connectFailed {flow : Flow} (asked : flow = .socksTcp ∨ flow = .socksUdp)
    (why : WaitFailure) : Expects [.error why] [] (task.connectFailed why flow).pc := by
  rcases asked with rfl | rfl
  · rfl
  · exact ⟨rfl, rfl⟩

theorem expects_connected {flow : Flow} (asked : flow = .socksTcp ∨ flow = .socksUdp) :
    Expects [.ok ()] [] (task.connected flow).pc := by
  rcases asked with rfl | rfl
  · exact ⟨rfl, rfl⟩
  · exact ⟨rfl, rfl⟩

/-- A step keeps what is known about the wait and the replies. -/
theorem Step.expects (taken : Step socks task act next effect)
    (expects : Expects waits replies task.pc) :
    Expects (waits ++ (waitEnd (task, act)).toList) (replies ++ (delivered (task, act)).toList)
      next.pc := by
  by_cases settled : task.pc.isSettled = true
  · exact expects_of_isSettled (taken.of_isSettled settled).1
  · cases taken with
    | @move _ pc moves =>
        generalize at_pc : task.pc = before at moves expects settled
        cases moves <;> simp_all [Expects, waitEnd, delivered, Pc.isSettled]
    | @send frame after pending =>
        cases pendingSend_cases pending with
        | connect connecting => simpa [connecting, Expects, waitEnd, delivered] using expects
        | _ => exact expects_of_isSettled rfl
    | @reply flow result waiting =>
        rw [waiting] at expects
        obtain ⟨asked, rfl, rfl⟩ := expects
        cases result with
        | none => simpa [waitEnd, delivered, waiting, onReply] using expects_connectFailed asked _
        | some frame =>
            cases type : frame.frameType with
            | connectOk =>
                simpa [waitEnd, delivered, waiting, onReply, type] using expects_connected asked
            | connectErr =>
                simpa [waitEnd, delivered, waiting, onReply, type] using
                  expects_connectFailed asked _
            | _ => simp [waitEnd, delivered, waiting, onReply, type, Expects, asked]
    | @timeout flow waiting =>
        rw [waiting] at expects
        obtain ⟨asked, rfl, rfl⟩ := expects
        simpa [waitEnd, delivered, waiting] using expects_connectFailed asked _
    | replied => exact expects_of_isSettled rfl
    | filtered filtering => simp [filtering, Expects, Pc.isSettled] at expects
    | select => exact expects_of_isSettled rfl
    | dropSession => exact expects_of_isSettled rfl
    | @relay act relay after effect spawned taken =>
        have no_end : waitEnd (task, .relay act) = none := by simp [waitEnd]
        have no_reply : delivered (task, .relay act) = none := by simp [delivered]
        simpa [no_end, no_reply] using expects

/-- The handler is past its reply, and has delivered none. -/
def Missed (waits : List (Except WaitFailure Unit)) (replies : List SocksReply) (pc : Pc) : Prop :=
  pc.isSettled = true ∧ ∃ outcome, waits = [outcome] ∧ replies = []

/-- The handler has delivered the reply it should, if it is past its reply and has waited. -/
def Answered (waits : List (Except WaitFailure Unit)) (replies : List SocksReply) (pc : Pc) :
    Prop :=
  ∀ outcome, waits = [outcome] → pc.isSettled = true → replies = [.ofWait outcome]

theorem Missed.not_answered {pc : Pc} (missed : Missed waits replies pc) :
    ¬ Answered waits replies pc := by
  obtain ⟨settled, outcome, waited, nothing⟩ := missed
  intro answered
  simpa [nothing] using answered outcome waited settled

theorem Step.missed_of_missed (taken : Step socks task act next effect)
    (missed : Missed waits replies task.pc) :
    Missed (waits ++ (waitEnd (task, act)).toList) (replies ++ (delivered (task, act)).toList)
      next.pc := by
  obtain ⟨settled, waited⟩ := missed
  obtain ⟨settled_next, no_end, no_reply⟩ := taken.of_isSettled settled
  exact ⟨settled_next, by simpa [no_end, no_reply] using waited⟩

/-- A step that ends the wait of a TCP CONNECT with a failure, fails to bind the local UDP socket or
fails to deliver a reply leaves the request without one. -/
theorem Step.missed (taken : Step socks task act next effect)
    (expects : Expects waits replies task.pc) (not_met : ¬ task.Replies act) :
    Missed (waits ++ (waitEnd (task, act)).toList) (replies ++ (delivered (task, act)).toList)
      next.pc := by
  cases taken with
  | @move _ pc moves =>
      generalize at_pc : task.pc = before at moves expects
      cases moves <;> simp_all [Replies, Expects, Missed, waitEnd, delivered, Pc.isSettled]
  | @reply flow result waiting =>
      rw [waiting] at expects
      obtain ⟨asked, rfl, rfl⟩ := expects
      obtain rfl : flow = .socksTcp := by
        rcases asked with rfl | rfl
        · rfl
        · simp [Replies, waiting] at not_met
      cases result with
      | none =>
          exact ⟨rfl, .error .channelClosed, by simp [waitEnd, waiting],
            by simp [delivered, waiting]⟩
      | some frame =>
          have refused : frame.frameType = .connectErr := by
            simpa [Replies, waiting] using not_met
          refine ⟨by simp [onReply, refused, connectFailed, Pc.isSettled],
            .error .connectErr, ?_, ?_⟩
          · simp [waitEnd, waiting, refused]
          · simp [delivered, waiting]
  | @timeout flow waiting =>
      rw [waiting] at expects
      obtain ⟨asked, rfl, rfl⟩ := expects
      obtain rfl : flow = .socksTcp := by
        rcases asked with rfl | rfl
        · rfl
        · simp [Replies, waiting] at not_met
      exact ⟨rfl, .error .timeout, by simp [waitEnd, waiting], by simp [delivered, waiting]⟩
  | replied replying => simp [Replies, replying] at not_met
  | _ => simp [Replies] at not_met

/-- A step that does none of this leaves no request without its reply. -/
theorem Step.answered (taken : Step socks task act next effect)
    (expects : Expects waits replies task.pc) (answered : Answered waits replies task.pc)
    (met : task.Replies act) :
    Answered (waits ++ (waitEnd (task, act)).toList) (replies ++ (delivered (task, act)).toList)
      next.pc := by
  by_cases settled : task.pc.isSettled = true
  · obtain ⟨_, no_end, no_reply⟩ := taken.of_isSettled settled
    intro outcome waited _
    simpa [no_reply] using answered outcome (by simpa [no_end] using waited) settled
  · cases taken with
    | @move _ pc moves =>
        generalize at_pc : task.pc = before at moves expects
        cases moves <;>
          simp_all [Replies, Expects, Answered, waitEnd, delivered, Pc.isSettled, SocksReply.ofWait]
    | @send frame after pending =>
        cases pendingSend_cases pending with
        | connect => exact fun _ _ settled_next => by cases settled_next
        | refuse refusing => simp [refusing, Expects, Pc.isSettled] at expects
        | confirm confirming => simp [confirming, Expects, Pc.isSettled] at expects
        | close closing => simp [closing, Pc.isSettled] at settled
    | @reply flow result waiting =>
        -- a wait that ends properly leaves the reply still to be delivered
        suffices unsettled : (task.onReply flow result).pc.isSettled = false from
          fun _ _ settled_next => by simp [unsettled] at settled_next
        rw [waiting] at expects
        rcases expects.1 with rfl | rfl
        · cases result with
          | none => simp [Replies, waiting] at met
          | some frame =>
              cases type : frame.frameType with
              | connectErr => simp [Replies, waiting, type] at met
              | connectOk => simp [onReply, type, connected, Pc.isSettled]
              | _ => simp [onReply, type, waiting, Pc.isSettled]
        · cases result with
          | none => rfl
          | some frame =>
              cases type : frame.frameType <;>
                simp [onReply, type, connected, connectFailed, waiting, Pc.isSettled]
    | @timeout flow waiting =>
        rw [waiting] at expects
        rcases expects.1 with rfl | rfl
        · simp [Replies, waiting] at met
        · exact fun _ _ settled_next => by cases settled_next
    | @replied flow replying =>
        rw [replying] at expects
        obtain ⟨rfl, rfl⟩ := expects
        rintro outcome waited _
        obtain rfl : Except.ok () = outcome := by simpa [waitEnd, replying] using waited
        simp [delivered, replying, SocksReply.ofWait]
    | filtered filtering => simp [filtering, Expects, Pc.isSettled] at expects
    | select relaying => simp [relaying, Pc.isSettled] at settled
    | dropSession dropping => simp [dropping, Pc.isSettled] at settled
    | relay => exact fun _ _ settled_next => absurd settled_next settled

/-- Every request of a run is answered with one reply, a success exactly if the wait has ended with
CONN_OK, if and only if the wait of a TCP CONNECT does not end with a failure, the local UDP socket
is bound and the reply is delivered. -/
theorem answersRequest_iff {acts : List TaskAct} {final : Task}
    (execution : Execution.run (advance socks) (spawn .socks sid) acts = some final) :
    AnswersRequest (Execution.trace (advance socks) (spawn .socks sid) acts) final ↔
      Execution.Along (advance socks) Replies (spawn .socks sid) acts := by
  have expects_of_run {acts : List TaskAct} {task : Task}
      (execution : Execution.run (advance socks) (spawn .socks sid) acts = some task) :
      Expects ((Execution.trace (advance socks) (spawn .socks sid) acts).filterMap waitEnd)
        ((Execution.trace (advance socks) (spawn .socks sid) acts).filterMap delivered)
          task.pc := by
    refine Execution.run_history (fun past task =>
      Expects (past.filterMap waitEnd) (past.filterMap delivered) task.pc) ?_ ⟨rfl, rfl⟩ execution
    intro past before act after expects taken
    obtain ⟨effect, taken⟩ := advance_cases taken
    simpa only [Execution.filterMap_concat] using taken.expects expects
  constructor
  · intro answers
    refine Execution.along_iff_forall_split.mpr ?_
    rintro front act rest before rfl front_run
    by_contra not_met
    obtain ⟨middle, same_run, rest_run⟩ := Execution.run_append_eq_some.mp execution
    obtain rfl := Option.some.inj (front_run.symm.trans same_run)
    obtain ⟨after, advanced, last_run⟩ := Execution.run_cons_eq_some.mp rest_run
    obtain ⟨effect, taken⟩ := advance_cases advanced
    have missed := taken.missed (expects_of_run front_run) not_met
    rw [← Execution.filterMap_concat, ← Execution.filterMap_concat] at missed
    have missed_last := Execution.run_history_from
      (fun past task =>
        Missed (past.filterMap waitEnd) (past.filterMap delivered) task.pc)
      (fun past before act after missed taken => by
        obtain ⟨effect, taken⟩ := advance_cases taken
        simpa only [Execution.filterMap_concat] using taken.missed_of_missed missed)
      missed last_run
    rw [Execution.trace_append front_run, Execution.trace, advanced] at answers
    rw [List.append_assoc] at missed_last
    exact missed_last.not_answered answers
  · intro met
    refine (met.history (fun past task =>
      Expects (past.filterMap waitEnd) (past.filterMap delivered) task.pc ∧
        Answered (past.filterMap waitEnd) (past.filterMap delivered) task.pc)
      ?_ ⟨⟨rfl, rfl⟩, fun _ waited => by cases waited⟩ execution).2
    rintro past before act after ⟨expects, answered⟩ met taken
    obtain ⟨effect, taken⟩ := advance_cases taken
    simp only [Execution.filterMap_concat]
    exact ⟨taken.expects expects, taken.answered expects answered met⟩

/-- A SOCKS5 CONNECT request the server refuses. -/
def refusedConnect : List TaskAct :=
  [.handshake true, .command (some (.tcpConnect, localhost, 80)), .send,
    .recv (some ⟨.connectErr, 1, text "invalid ip address"⟩)]

/-- The application gets no reply. -/
theorem not_answersRequest_refusedConnect :
    ∃ final, Execution.run (advance .rfc1928) (spawn .socks 1) refusedConnect = some final ∧
      ¬ AnswersRequest (Execution.trace (advance .rfc1928) (spawn .socks 1) refusedConnect)
        final := by
  have missed :
      ∃ final, Execution.run (advance .rfc1928) (spawn .socks 1) refusedConnect = some final ∧
      final.pc.isSettled = true ∧
      (Execution.trace (advance .rfc1928) (spawn .socks 1) refusedConnect).filterMap waitEnd =
        [.error .connectErr] ∧
      (Execution.trace (advance .rfc1928) (spawn .socks 1) refusedConnect).filterMap delivered =
        [] :=
    ⟨_, rfl, rfl, rfl, rfl⟩
  obtain ⟨final, execution, settled, waited, nothing⟩ := missed
  refine ⟨final, execution, fun answers => ?_⟩
  have replied := answers _ waited settled
  rw [nothing] at replied
  cases replied

/-- Before the refusal arrives the run is covered by the condition. -/
theorem answersRequest_iff_refusedConnect_take :
    ∃ final, Execution.run (advance .rfc1928) (spawn .socks 1) (refusedConnect.take 3) =
      some final ∧
      (AnswersRequest (Execution.trace (advance .rfc1928) (spawn .socks 1) (refusedConnect.take 3))
          final ↔
        Execution.Along (advance .rfc1928) Replies (spawn .socks 1) (refusedConnect.take 3)) :=
  ⟨_, rfl, answersRequest_iff rfl⟩

end Task

end RnsProxy
