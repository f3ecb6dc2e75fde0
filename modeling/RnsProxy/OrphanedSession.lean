import RnsProxy.Client
import RnsProxy.SessionTable

/-!
# Sessions the server keeps and the client has given up

A session task of the client that ends after its CONNECT has reached a link owes the server a CLOSE,
unless the server has refused the session or the link is down. A handler that stops waiting for the
reply to CONNECT does not send one. This file determines the runs in which no session is orphaned.
-/

namespace RnsProxy

/-- CONN_ERR is among the frames. -/
def Refused (frames : List Frame) : Prop :=
  ∃ frame ∈ frames, frame.frameType = .connectErr

namespace Task

/-- Nothing has been sent. -/
def Unsent (task : Task) : Prop :=
  task.relay = none ∧ task.sent = [] ∧ task.answers = []

/-- CONNECT is all that has been sent. -/
def OnlyConnect (task : Task) : Prop :=
  task.relay = none ∧ task.sent.map Frame.frameType = [.connect]

/-- CONNECT has been sent first. -/
def ConnectFirst (task : Task) : Prop :=
  ∃ connect rest, task.sent = connect :: rest ∧ connect.frameType = .connect

/-- CLOSE has been sent after CONNECT. -/
def ClosedAfterConnect (task : Task) : Prop :=
  ∃ front connect middle close back, task.sent = front ++ connect :: (middle ++ close :: back) ∧
    connect.frameType = .connect ∧ close.frameType = .close

/-- What a session task of the client has sent and been answered, by the `await` its handler is
at. -/
def Accounts (task : Task) : Prop :=
  match task.pc with
  | .handshake => task.Unsent
  | .readCommand => task.Unsent
  | .connecting _ _ _ => task.Unsent
  | .replyingUnsupported => task.Unsent
  | .waiting _ => task.OnlyConnect ∧ ¬ Refused task.answers
  | .binding (.ok ()) => task.OnlyConnect ∧ ¬ Refused task.answers
  | .replying _ => task.OnlyConnect ∧ ¬ Refused task.answers
  | .binding (.error why) => task.OnlyConnect ∧ (Refused task.answers ↔ why = .connectErr)
  | .replyingFailure why => task.OnlyConnect ∧ (Refused task.answers ↔ why = .connectErr)
  | .relaying => task.ConnectFirst
  | .closing exit => (exit = .replyFailed ∨ exit = .relayEnded) ∧ task.ConnectFirst
  | .dropping (.connectFailed why) => task.OnlyConnect ∧ (Refused task.answers ↔ why = .connectErr)
  | .dropping exit => (exit = .replyFailed ∨ exit = .relayEnded) ∧ task.ClosedAfterConnect
  | .ended _ => True
  | _ => False

/-- The step ends a handler whose CONNECT has been sent and neither refused nor followed by
CLOSE. -/
def GivesUp (task : Task) (act : TaskAct) : Prop :=
  match act, task.pc with
  | .timeout, .waiting flow => flow ≠ .socksUdp
  | .recv none, .waiting flow => flow ≠ .socksUdp
  | .bound (some _), .binding result => result ≠ .error .connectErr
  | .dropSession, .dropping (.connectFailed why) => why ≠ .connectErr
  | _, _ => False

theorem OnlyConnect.connectFirst {task : Task} (only : task.OnlyConnect) : task.ConnectFirst := by
  obtain ⟨connect, sent, type⟩ := List.map_eq_singleton_iff.mp only.2
  exact ⟨connect, [], sent, type⟩

theorem accounts_spawn (listener : Listener) (sid : UInt32) :
    (spawn listener.start sid).Accounts := by
  cases listener <;> exact ⟨rfl, rfl, rfl⟩

section Answers

variable {task : Task}

theorem refused_append {frames : List Frame} {frame : Frame} :
    Refused (frames ++ [frame]) ↔ Refused frames ∨ frame.frameType = .connectErr := by
  simp [Refused, or_and_right, exists_or]

theorem accounts_connectFailed {why : WaitFailure} (only : task.OnlyConnect)
    (refused : Refused task.answers ↔ why = .connectErr) (flow : Flow) :
    (task.connectFailed why flow).Accounts := by
  cases flow with
  | socksUdp => exact ⟨only, refused⟩
  | _ => trivial

theorem accounts_connected (only : task.OnlyConnect) (not_refused : ¬ Refused task.answers)
    (flow : Flow) : (task.connected flow).Accounts := by
  cases flow with
  | socksTcp => exact ⟨only, not_refused⟩
  | socksUdp => exact ⟨only, not_refused⟩
  | forwardedTcp => exact only.connectFirst
  | forwardedUdp serverPort => exact only.connectFirst

theorem accounts_onReply {flow : Flow} (waiting : task.pc = .waiting flow) (only : task.OnlyConnect)
    (not_refused : ¬ Refused task.answers) (result : Option Frame) :
    (task.onReply flow result).Accounts := by
  cases result with
  | none => exact accounts_connectFailed only (by simp [not_refused]) flow
  | some frame =>
      simp only [onReply]
      split
      · rename_i confirmed
        refine accounts_connected ?_ ?_ flow
        · exact only
        · simp [refused_append, not_refused, confirmed]
      · rename_i refused
        refine accounts_connectFailed ?_ ?_ flow
        · exact only
        · simp [refused_append, refused]
      · rename_i not_refusal
        have other : frame.frameType ≠ .connectErr := not_refusal
        simp only [Accounts, waiting]
        exact ⟨only, by simp [refused_append, not_refused, other]⟩

end Answers

section Steps

variable {socks : FastSocks5} {task next : Task} {act : TaskAct} {effect : Effect}

theorem Accounts.move {pc : Pc} (accounts : task.Accounts) (moves : Moves task.pc act pc) :
    { task with pc }.Accounts := by
  rw [Accounts] at accounts
  generalize task.pc = before at moves accounts
  cases moves with
  | handshake => exact accounts
  | handshakeFailed => trivial
  | tcpConnect => exact accounts
  | udpAssociate => exact accounts
  | tcpBind => exact accounts
  | commandFailed => trivial
  | bound => exact accounts
  | boundAfterFailure => exact accounts
  | bindPanicked => trivial
  | replyFailed => exact ⟨.inl rfl, accounts.1.connectFirst⟩
  | repliedFailure => exact accounts
  | repliedUnsupported => trivial
  | _ => exact accounts.elim

theorem Accounts.send (accounts : task.Accounts) {frame : Frame}
    (pending : task.pendingSend = some (frame, next)) :
    { next with sent := task.sent ++ [frame] }.Accounts := by
  rw [Accounts] at accounts
  cases pendingSend_cases pending with
  | connect connecting =>
      simp only [connecting] at accounts
      obtain ⟨relay, sent, answers⟩ := accounts
      exact ⟨⟨relay, by simp [sent]⟩, by simp [Refused, answers]⟩
  | refuse refusing => simp only [refusing] at accounts
  | confirm confirming => simp only [confirming] at accounts
  | @close exit closing =>
      simp only [closing] at accounts
      obtain ⟨exits, connect, rest, sent, type⟩ := accounts
      have closed : ClosedAfterConnect
          { task with
            pc := .dropping exit
            sent :=
              task.sent ++ [{ frameType := .close, sessionId := task.sid, payload := [] }] } :=
        ⟨[], connect, rest, { frameType := .close, sessionId := task.sid, payload := [] }, [],
          by simp [sent], type, rfl⟩
      rcases exits with rfl | rfl
      · exact ⟨.inl rfl, closed⟩
      · exact ⟨.inr rfl, closed⟩

theorem ConnectFirst.append (first : task.ConnectFirst) {frames : List Frame}
    (sent : next.sent = task.sent ++ frames) : next.ConnectFirst := by
  obtain ⟨connect, rest, before, type⟩ := first
  exact ⟨connect, rest ++ frames, by simp [sent, before], type⟩

theorem ClosedAfterConnect.append (closed : task.ClosedAfterConnect) {frames : List Frame}
    (sent : next.sent = task.sent ++ frames) : next.ClosedAfterConnect := by
  obtain ⟨front, connect, middle, close, back, before, types⟩ := closed
  exact ⟨front, connect, middle, close, back ++ frames, by simp [sent, before], types⟩

theorem Accounts.relay (accounts : task.Accounts) {relay after : Relay}
    (spawned : task.relay = some relay) {frames : List Frame} :
    { task with relay := some after, sent := task.sent ++ frames }.Accounts := by
  have not_unsent : ¬ task.Unsent := fun unsent => by simp [unsent.1] at spawned
  have not_only : ¬ task.OnlyConnect := fun only => by simp [only.1] at spawned
  rw [Accounts] at accounts ⊢
  cases at_pc : task.pc with
  | relaying =>
      simp only [at_pc] at accounts
      exact accounts.append rfl
  | closing exit =>
      simp only [at_pc] at accounts
      exact ⟨accounts.1, accounts.2.append rfl⟩
  | dropping exit =>
      cases exit with
      | connectFailed why =>
          simp only [at_pc] at accounts
          exact absurd accounts.1 not_only
      | _ =>
          simp only [at_pc] at accounts ⊢
          exact ⟨accounts.1, accounts.2.append rfl⟩
  | ended exit => trivial
  | binding result =>
      cases result <;>
        · simp only [at_pc] at accounts
          exact absurd accounts.1 not_only
  | _ => simp_all

/-- Every step of a session task of the client keeps its account. -/
theorem Accounts.step (accounts : task.Accounts) (taken : Step socks task act next effect) :
    next.Accounts := by
  cases taken with
  | move moves => exact accounts.move moves
  | send pending => exact accounts.send pending
  | reply waiting =>
      simp only [Accounts, waiting] at accounts
      exact accounts_onReply waiting accounts.1 accounts.2 _
  | timeout waiting =>
      simp only [Accounts, waiting] at accounts
      exact accounts_connectFailed accounts.1 (by simp [accounts.2]) _
  | replied replying =>
      simp only [Accounts, replying] at accounts
      exact accounts.1.connectFirst
  | filtered filtering => simp [Accounts, filtering] at accounts
  | select relaying =>
      simp only [Accounts, relaying] at accounts
      exact ⟨.inr rfl, accounts⟩
  | dropSession => trivial
  | relay spawned => exact accounts.relay spawned

theorem OnlyConnect.not_closedAfterConnect (only : task.OnlyConnect) :
    ¬ task.ClosedAfterConnect := by
  rintro ⟨front, connect, middle, close, back, sent, _⟩
  have lengths := congrArg List.length only.2
  simp [sent] at lengths
  omega

theorem Step.of_givesUp (taken : Step socks task act next effect) (accounts : task.Accounts)
    (gives : task.GivesUp act) :
    task.hasEnded = false ∧ next.hasEnded = true ∧ effect.frames = [] ∧
      (∀ frame, effect ≠ .recv (some frame)) ∧ ¬ Refused next.answers ∧
      ¬ next.ClosedAfterConnect := by
  rw [Accounts] at accounts
  simp only [GivesUp] at gives
  split at gives
  · rename_i flow at_pc
    simp only [at_pc] at accounts
    cases taken with
    | move moves =>
        rw [at_pc] at moves
        cases moves
    | timeout waiting =>
        obtain rfl := Pc.waiting.inj (at_pc.symm.trans waiting)
        have ended := (task.hasEnded_connectFailed .timeout flow).mpr gives
        obtain ⟨pc, same⟩ := task.connectFailed_frame .timeout flow
        rw [same] at ended ⊢
        exact ⟨by simp [hasEnded, at_pc], ended, rfl, by simp, accounts.2,
          accounts.1.not_closedAfterConnect⟩
  · rename_i flow at_pc
    simp only [at_pc] at accounts
    cases taken with
    | move moves =>
        rw [at_pc] at moves
        cases moves
    | reply waiting =>
        obtain rfl := Pc.waiting.inj (at_pc.symm.trans waiting)
        have ended := (task.hasEnded_connectFailed .channelClosed flow).mpr gives
        obtain ⟨pc, same⟩ := task.connectFailed_frame .channelClosed flow
        simp only [onReply]
        rw [same] at ended ⊢
        exact ⟨by simp [hasEnded, at_pc], ended, rfl, by simp, accounts.2,
          accounts.1.not_closedAfterConnect⟩
  · rename_i error result at_pc
    have only : task.OnlyConnect ∧ ¬ Refused task.answers := by
      cases result with
      | ok =>
          simp only [at_pc] at accounts
          exact accounts
      | error why =>
          simp only [at_pc] at accounts
          exact ⟨accounts.1, fun refused => gives (by rw [accounts.2.mp refused])⟩
    cases taken with
    | move moves =>
        rw [at_pc] at moves
        cases moves
        exact ⟨by simp [hasEnded, at_pc], rfl, rfl, by simp, only.2,
          only.1.not_closedAfterConnect⟩
  · rename_i why at_pc
    simp only [at_pc] at accounts
    cases taken with
    | move moves =>
        rw [at_pc] at moves
        cases moves
    | dropSession =>
        exact ⟨by simp [hasEnded, at_pc], rfl, rfl, by simp, fun refused =>
          gives (accounts.2.mp refused), accounts.1.not_closedAfterConnect⟩
  · exact gives.elim

theorem Step.of_not_givesUp (taken : Step socks task act next effect) (accounts : task.Accounts)
    (running : task.hasEnded = false) (ended : next.hasEnded = true) (keeps : ¬ task.GivesUp act) :
    next.sent = [] ∨ Refused next.answers ∨ next.ClosedAfterConnect := by
  rw [Accounts] at accounts
  cases taken with
  | @move act pc moves =>
      simp only [GivesUp] at keeps
      generalize at_pc : task.pc = before at moves accounts keeps
      cases moves with
      | handshakeFailed => exact .inl accounts.2.1
      | commandFailed => exact .inl accounts.2.1
      | repliedUnsupported => exact .inl accounts.2.1
      | @bindPanicked result error =>
          obtain rfl : result = .error .connectErr := not_not.mp keeps
          exact .inr (.inl (accounts.2.mpr rfl))
      | _ => simp [hasEnded] at ended
  | send pending =>
      cases pendingSend_cases pending <;> simp [hasEnded, startRelay] at ended
  | @reply flow result waiting =>
      simp only [waiting] at accounts
      cases result with
      | none =>
          refine absurd ?_ keeps
          simpa [GivesUp, waiting, onReply, hasEnded_connectFailed] using ended
      | some frame =>
          simp only [onReply] at ended ⊢
          split at ended
          · simp [hasEnded_connected] at ended
          · rename_i refused
            have answered : Refused (task.answers ++ [frame]) := refused_append.mpr (.inr refused)
            obtain ⟨pc, same⟩ := connectFailed_frame
              { task with answers := task.answers ++ [frame] } .connectErr flow
            rw [same]
            exact .inr (.inl answered)
          · simp [hasEnded, waiting] at ended
  | timeout waiting =>
      refine absurd ?_ keeps
      simpa [GivesUp, waiting, hasEnded_connectFailed] using ended
  | replied => simp [startRelay, hasEnded] at ended
  | filtered filtering => simp [filtering] at accounts
  | select => simp [hasEnded] at ended
  | @dropSession exit dropping =>
      simp only [dropping] at accounts
      cases exit with
      | connectFailed why =>
          have refused : why = .connectErr := by simpa [GivesUp, dropping] using keeps
          exact .inr (.inl (accounts.2.mpr refused))
      | _ => exact .inr (.inr accounts.2)
  | relay =>
      have same : task.hasEnded = true := ended
      simp [running] at same

end Steps

end Task

/-! ## Runs of the client -/

namespace Client

/-- A CONNECT of the session on `chan` has been taken by `link`. -/
def ConnectHanded (client : Client) (chan : ChanId) (link : LinkId) : Prop :=
  ∃ frame, frame.frameType = .connect ∧
    (link, { origin := some chan, frame }) ∈ client.endpoint.mux.handed

/-- If the step ends a session task after its CONNECT was handed to a link, then the session has
received CONN_ERR, or that link is down, or the task has sent CLOSE after CONNECT. A CONNECT that is
handed to a link only after its task has ended is not considered. -/
def EndsProperly (linkMdu : ℕ+) (socks : FastSocks5) (client : Client) (act : ClientAct) : Prop :=
  ∀ chan taskAct task next after, act = .session chan taskAct →
    client.endpoint.tasks chan = some task → task.hasEnded = false →
    client.step linkMdu socks act = some next → next.endpoint.tasks chan = some after →
    after.hasEnded = true → ∀ link, client.ConnectHanded chan link →
    Refused (after.answers ++ next.endpoint.mux.channels chan) ∨ link ∈ client.down ∨
      after.ClosedAfterConnect

/-- A handler gives up only if the links that took its CONNECT are down, or CONN_ERR is in its
channel. -/
def GivesUpInTime (client : Client) (act : ClientAct) : Prop :=
  ∀ chan taskAct task, act = .session chan taskAct → client.endpoint.tasks chan = some task →
    task.GivesUp taskAct → ∀ link, client.ConnectHanded chan link →
    Refused (client.endpoint.mux.channels chan) ∨ link ∈ client.down

/-- What every run of the client keeps. -/
structure Accountable (client : Client) : Prop where
  /-- The tables agree. -/
  well : client.endpoint.WellFormed
  /-- The history of the send queue is complete. -/
  logged : client.endpoint.mux.Logged
  /-- Every session task keeps its account. -/
  accounts : ∀ chan task, client.endpoint.tasks chan = some task → task.Accounts

theorem accountable_new (link : LinkId) (listeners : List Listener) :
    Accountable (new link listeners) where
  well := wellFormed_new link listeners
  logged := ⟨Mux.logged_new.queued, Mux.logged_new.held, Mux.logged_new.handed⟩
  accounts chan task found := by simp [new, Endpoint.new] at found

section Steps

variable {linkMdu : ℕ+} {socks : FastSocks5} {client next : Client} {act : ClientAct}

theorem Accountable.step (accountable : Accountable client)
    (taken : Step linkMdu socks client act next) : Accountable next := by
  cases taken with
  | control controlled =>
      have same := (control_cases controlled).endpoint
      exact ⟨same ▸ accountable.well, same ▸ accountable.logged, same ▸ accountable.accounts⟩
  | endpoint controlled stepped =>
      have stepped := Endpoint.step_cases stepped
      refine ⟨accountable.well.step stepped, Endpoint.logged_step accountable.logged stepped, ?_⟩
      refine stepped.forall_tasks accountable.accounts ?_ fun _ _ _ _ accounts taken =>
        accounts.step taken
      rintro start sid rfl
      obtain ⟨listener, rfl⟩ := (control_cases controlled).spawn start sid rfl
      exact Task.accounts_spawn listener sid

/-- A session task that ends without giving up has nothing left to say. -/
theorem Accountable.endsProperly (accountable : Accountable client)
    (inTime : GivesUpInTime client act) : EndsProperly linkMdu socks client act := by
  rintro chan taskAct task next after rfl found running taken found_after ended link handed
  cases step_cases taken with
  | control controlled => cases controlled
  | endpoint controlled stepped =>
      cases controlled
      cases Endpoint.step_cases stepped with
      | session owned taken performs =>
          obtain rfl := Option.some.inj (found.symm.trans owned)
          obtain rfl : _ = after := by simpa using found_after
          have accounts := accountable.accounts chan task found
          by_cases gives : task.GivesUp taskAct
          · obtain ⟨_, _, _, not_received, _, _⟩ := taken.of_givesUp accounts gives
            rcases inTime chan taskAct task rfl found gives link handed with refused | down
            · obtain ⟨frame, member, type⟩ := refused
              rw [← performs.channels_eq not_received] at member
              exact .inl ⟨frame, List.mem_append_right _ member, type⟩
            · exact .inr (.inl down)
          · rcases taken.of_not_givesUp accounts running ended gives with
              nothing | refused | closed
            · obtain ⟨frame, _, member⟩ := handed
              have sent := accountable.well.mem_sent_of_handed accountable.logged found member
              rw [taken.sent_eq, List.append_eq_nil_iff] at nothing
              simp [nothing.1] at sent
            · obtain ⟨frame, member, type⟩ := refused
              exact .inl ⟨frame, List.mem_append_left _ member, type⟩
            · exact .inr (.inr closed)

/-- A session task that gives up too early orphans its session. -/
theorem Accountable.givesUpInTime (accountable : Accountable client)
    (taken : client.step linkMdu socks act = some next)
    (ends : EndsProperly linkMdu socks client act) : GivesUpInTime client act := by
  rintro chan taskAct task rfl found gives link handed
  cases step_cases taken with
  | control controlled => cases controlled
  | endpoint controlled stepped =>
      cases controlled
      cases Endpoint.step_cases stepped with
      | @session _ _ _ _ after _ _ owned step performs =>
          obtain rfl := Option.some.inj (found.symm.trans owned)
          obtain ⟨running, ended, _, not_received, not_refused, not_closed⟩ :=
            step.of_givesUp (accountable.accounts chan task found) gives
          rcases ends chan taskAct task _ after rfl found running taken (by simp) ended link handed
            with refused | down | closed
          · obtain ⟨frame, member, type⟩ := refused
            rcases List.mem_append.mp member with answered | waiting
            · exact absurd ⟨frame, answered, type⟩ not_refused
            · exact .inl ⟨frame, performs.channels_eq not_received ▸ waiting, type⟩
          · exact .inr down
          · exact absurd closed not_closed

end Steps

/-- No session is orphaned in a run exactly if no handler gives up (its wait for the reply times out
or its channel is closed, or its local socket cannot be bound) while a link that took its CONNECT
is up and no CONN_ERR has come. -/
theorem endsProperly_iff {linkMdu : ℕ+} {socks : FastSocks5} {link : LinkId}
    {listeners : List Listener} {actions : List ClientAct} {final : Client}
    (execution : Execution.run (step linkMdu socks) (new link listeners) actions = some final) :
    Execution.Along (step linkMdu socks) (EndsProperly linkMdu socks) (new link listeners)
        actions ↔
      Execution.Along (step linkMdu socks) GivesUpInTime (new link listeners) actions := by
  refine Execution.along_congr
    (fun before act after accountable _ taken => accountable.step (step_cases taken)) ?_
    (accountable_new link listeners) execution
  intro before act after accountable taken
  exact ⟨accountable.givesUpInTime taken, accountable.endsProperly⟩

/-- A connection to a forwarded port, whose CONNECT reaches the server but is answered too late. -/
def lateAnswer : List ClientAct :=
  [.accept 0, .isConnected 0, .nextSessionId 0, .registerSession 0, .session 0 .send,
    .sender .recv, .sender .readLink, .sender (.sent true), .session 0 .timeout]

/-- The server goes on relaying for a session the client has forgotten. -/
theorem not_endsProperly_lateAnswer :
    ∃ final, Execution.run (step 431 .rfc1928) (new 1 [.forwardedTcp 80]) lateAnswer = some final ∧
      ¬ Execution.Along (step 431 .rfc1928) (EndsProperly 431 .rfc1928)
        (new 1 [.forwardedTcp 80]) lateAnswer := by
  have ends : ∃ before task after final,
      Execution.run (step 431 .rfc1928) (new 1 [.forwardedTcp 80]) (lateAnswer.take 8) =
          some before ∧
        before.step 431 .rfc1928 (.session 0 .timeout) = some final ∧
        before.endpoint.tasks 0 = some task ∧ task.hasEnded = false ∧
        before.endpoint.mux.handed =
          [(1, ⟨some 0, ⟨.connect, 1, encodeConnectPayload localhost.name 80 false⟩⟩)] ∧
        before.down = [] ∧ final.endpoint.tasks 0 = some after ∧ after.hasEnded = true ∧
        after.answers = [] ∧ final.endpoint.mux.channels 0 = [] ∧
        after.sent.map Frame.frameType = [.connect] :=
    ⟨_, _, _, _, rfl, rfl, rfl, rfl, rfl, rfl, rfl, rfl, rfl, rfl, rfl⟩
  obtain ⟨before, task, after, final, front, taken, found, running, handed, up, found_after, ended,
    answers, channel, sent⟩ := ends
  refine ⟨final, ?_, fun along => ?_⟩
  · exact Execution.run_append_eq_some.mpr ⟨before, front, by simp [Execution.run_cons, taken]⟩
  · have proper := Execution.along_iff_forall_split.mp along (lateAnswer.take 8)
      (.session 0 .timeout) [] before rfl front
    have connect_handed : before.ConnectHanded 0 1 :=
      ⟨⟨.connect, 1, encodeConnectPayload localhost.name 80 false⟩, rfl, by simp [handed]⟩
    rcases proper 0 .timeout task final after rfl found running taken found_after ended 1
      connect_handed with refused | down | closed
    · simp [answers, channel, Refused] at refused
    · simp [up] at down
    · obtain ⟨start, connect, middle, close, back, split, _⟩ := closed
      have lengths := congrArg List.length sent
      simp [split] at lengths
      omega

/-- Before the wait times out the run is covered by the condition. -/
theorem endsProperly_iff_lateAnswer_take :
    Execution.Along (step 431 .rfc1928) (EndsProperly 431 .rfc1928) (new 1 [.forwardedTcp 80])
        (lateAnswer.take 8) ↔
      Execution.Along (step 431 .rfc1928) GivesUpInTime (new 1 [.forwardedTcp 80])
        (lateAnswer.take 8) :=
  endsProperly_iff (rfl : Execution.run (step 431 .rfc1928) (new 1 [.forwardedTcp 80])
    (lateAnswer.take 8) = some _)

end Client

end RnsProxy
