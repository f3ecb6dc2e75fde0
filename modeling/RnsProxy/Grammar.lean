import RnsProxy.Bookkeeping
import RnsProxy.Stages

/-!
# The session grammar

One endpoint opens a session with CONNECT (the client) or CONN_OK (the server), sends DATA, and
ends with CLOSE; a server that refuses a session sends CONN_ERR alone. A handler keeps to this
order, and so does a reader that is gone when its handler sends CLOSE. The readers of the UDP
relays are not: their handles are dropped, which leaves the tasks running. This file determines the
runs in which every session with an id of its own keeps to the grammar.
-/

namespace RnsProxy

/-- The frame type that opens a session. -/
def Side.opening : Side → FrameType
  | client => .connect
  | server => .connectOk

/-- The frames are a prefix of CONNECT DATA* CLOSE on the client, and of CONN_ERR or of
CONN_OK DATA* CLOSE on the server. -/
def FollowsGrammar (side : Side) (frames : List Frame) : Prop :=
  side = .server ∧ frames.map Frame.frameType <+: [.connectErr] ∨
    ∃ count, frames.map Frame.frameType <+:
      side.opening :: (List.replicate count .data ++ [.close])

/-- No frame follows CLOSE. -/
def CloseIsFinal (frames : List Frame) : Prop :=
  ∀ front close back, frames = front ++ close :: back → close.frameType = .close → back = []

theorem FollowsGrammar.closeIsFinal {side : Side} {frames : List Frame}
    (follows : FollowsGrammar side frames) : CloseIsFinal frames := by
  rintro front close back rfl closes
  rcases follows with ⟨_, short⟩ | ⟨count, short⟩
  · have member : FrameType.close ∈ [FrameType.connectErr] :=
      short.subset (by simp [← closes])
    simp at member
  · obtain ⟨rest, split⟩ := short
    have last : ((front.map Frame.frameType) ++ .close :: (back.map Frame.frameType ++ rest)) =
        (side.opening :: List.replicate count .data) ++ [.close] := by
      simpa [closes] using split
    have not_before : FrameType.close ∉ side.opening :: List.replicate count .data := by
      cases side <;> simp [Side.opening, List.mem_replicate]
    rcases List.append_eq_append_iff.mp last with ⟨more, before, after⟩ | ⟨more, before, after⟩
    · cases more with
      | nil => exact (by simpa using congrArg List.length after : back = [] ∧ rest = []).1
      | cons first more =>
          obtain ⟨rfl, _⟩ := List.cons.inj after
          exact absurd (before ▸ by simp) not_before
    · have lengths := congrArg List.length after
      simp only [List.length_cons, List.length_nil, List.length_append, List.length_map] at lengths
      exact List.eq_nil_of_length_eq_zero (by omega)

theorem closeIsFinal_concat {frames : List Frame}
    (open_ : ∀ frame ∈ frames, frame.frameType ≠ .close) (last : Frame) :
    CloseIsFinal (frames ++ [last]) := by
  intro front close back split closes
  rcases List.eq_nil_or_concat back with rfl | ⟨back, final, rfl⟩
  · rfl
  · rw [List.concat_eq_append, ← List.cons_append, ← List.append_assoc] at split
    have before := (List.append_inj' split rfl).1
    exact absurd closes (open_ close (by simp [before]))

/-! ## The phases of a handler -/

namespace Task

/-- The session is open and only DATA has followed its first frame. -/
def Opened (task : Task) : Prop :=
  ∃ count, task.sent.map Frame.frameType = task.side.opening :: List.replicate count .data

/-- What a task has sent once its handler has sent its last frame. A reader that is still there may
have sent more DATA. -/
def Closed (task : Task) : Prop :=
  (∃ count late, task.sent.map Frame.frameType =
    task.side.opening :: (List.replicate count .data ++ .close :: List.replicate late .data)) ∨
  task.relay = none ∧ FollowsGrammar task.side task.sent

/-- What a task has sent and spawned at each stage. -/
structure InPhase (task : Task) : Prop where
  /-- The handler is one of the task's own side. -/
  side : ∀ side, task.pc.side = some side → task.side = side
  /-- Nothing has been sent. -/
  opening : task.pc.stage = .opening → task.relay = none ∧ task.sent = []
  /-- The first frame has been sent. -/
  pending : task.pc.stage = .pending →
    task.relay = none ∧ task.sent.map Frame.frameType = [task.side.opening]
  /-- DATA may have been sent. -/
  established : task.pc.stage = .established → task.Opened
  /-- CLOSE has been sent, or the relay was never entered. -/
  closed : task.pc.stage = .closed → task.Closed

theorem Opened.followsGrammar {task : Task} (opened : task.Opened) :
    FollowsGrammar task.side task.sent := by
  obtain ⟨count, types⟩ := opened
  exact .inr ⟨count, [.close], by simp [types]⟩

theorem Closed.followsGrammar {task : Task} (closed : task.Closed)
    (final : CloseIsFinal task.sent) : FollowsGrammar task.side task.sent := by
  rcases closed with ⟨count, late, types⟩ | ⟨_, follows⟩
  · rw [← List.cons_append] at types
    obtain ⟨front, last, sent, _, closing⟩ := List.map_eq_append_iff.mp types
    obtain ⟨close, back, rfl, close_type, back_types⟩ := List.map_eq_cons_iff.mp closing
    obtain rfl := final front close back sent close_type
    exact .inr ⟨count, [], by simp [types, ← back_types]⟩
  · exact follows

/-- A task that keeps silent after CLOSE follows the grammar. -/
theorem InPhase.followsGrammar {task : Task} (phase : task.InPhase)
    (final : CloseIsFinal task.sent) : FollowsGrammar task.side task.sent := by
  cases stage : task.pc.stage with
  | opening => exact .inr ⟨0, by simp [(phase.opening stage).2]⟩
  | pending =>
      refine Opened.followsGrammar ⟨0, ?_⟩
      simpa using (phase.pending stage).2
  | established => exact (phase.established stage).followsGrammar
  | closed => exact (phase.closed stage).followsGrammar final

theorem InPhase.not_close {task : Task} (phase : task.InPhase) (stage : task.pc.stage ≠ .closed) :
    ∀ frame ∈ task.sent, frame.frameType ≠ .close := by
  have types : FrameType.close ∉ task.sent.map Frame.frameType := by
    cases at_stage : task.pc.stage with
    | opening => simp [(phase.opening at_stage).2]
    | pending =>
        rw [(phase.pending at_stage).2]
        cases task.side <;> simp [Side.opening]
    | established =>
        obtain ⟨count, types⟩ := phase.established at_stage
        rw [types]
        cases task.side <;> simp [Side.opening, List.mem_replicate]
    | closed => exact absurd at_stage stage
  exact fun frame member same => types (List.mem_map.mpr ⟨frame, member, same⟩)

theorem InPhase.sent_cons {task : Task} (phase : task.InPhase) {first : Frame} {rest : List Frame}
    (sent : task.sent = first :: rest) :
    (first.frameType = task.side.opening ∨ task.side = .server ∧ first.frameType = .connectErr) ∧
      ∀ frame ∈ rest, frame.frameType = .data ∨ frame.frameType = .close := by
  suffices types : (first.frameType = task.side.opening ∨
      task.side = .server ∧ first.frameType = .connectErr) ∧
      ∀ type ∈ rest.map Frame.frameType, type = .data ∨ type = .close from
    ⟨types.1, fun frame member => types.2 _ (List.mem_map_of_mem member)⟩
  have opened {types : List FrameType}
      (split : task.sent.map Frame.frameType = task.side.opening :: types)
      (each : ∀ type ∈ types, type = .data ∨ type = .close) :
      (first.frameType = task.side.opening ∨ task.side = .server ∧ first.frameType = .connectErr) ∧
        ∀ type ∈ rest.map Frame.frameType, type = .data ∨ type = .close := by
    rw [sent, List.map_cons] at split
    obtain ⟨head, tail⟩ := List.cons.inj split
    exact ⟨.inl head, tail ▸ each⟩
  cases stage : task.pc.stage with
  | opening => simp [(phase.opening stage).2] at sent
  | pending => exact opened (phase.pending stage).2 (by simp)
  | established =>
      obtain ⟨count, types⟩ := phase.established stage
      exact opened types (by simp [List.mem_replicate])
  | closed =>
      rcases phase.closed stage with ⟨count, late, types⟩ | ⟨_, ⟨side, short⟩ | ⟨count, short⟩⟩
      · exact opened types (by simp [List.mem_replicate, or_imp, forall_and])
      · rw [sent, List.map_cons, List.cons_prefix_cons, List.prefix_nil] at short
        exact ⟨.inr ⟨side, short.1⟩, by simp [short.2]⟩
      · rw [sent, List.map_cons, List.cons_prefix_cons] at short
        refine ⟨.inl short.1, fun type member => ?_⟩
        have listed := short.2.subset member
        simp only [List.mem_append, List.mem_replicate, List.mem_singleton] at listed
        exact listed.imp_left And.right

theorem InPhase.not_connectErr {task : Task} (phase : task.InPhase) {relay : Relay}
    (spawned : task.relay = some relay) : ∀ frame ∈ task.sent, frame.frameType ≠ .connectErr := by
  suffices types : FrameType.connectErr ∉ task.sent.map Frame.frameType from
    fun frame member same => types (List.mem_map.mpr ⟨frame, member, same⟩)
  have opens : FrameType.connectErr ≠ task.side.opening := by
    cases task.side <;> simp [Side.opening]
  cases stage : task.pc.stage with
  | opening => simp [(phase.opening stage).1] at spawned
  | pending => simp [(phase.pending stage).1] at spawned
  | established =>
      obtain ⟨count, types⟩ := phase.established stage
      simp [types, opens, List.mem_replicate]
  | closed =>
      rcases phase.closed stage with ⟨count, late, types⟩ | ⟨absent, _⟩
      · simp [types, opens, List.mem_replicate]
      · simp [absent] at spawned

theorem inPhase_spawn (start : Start) (sid : UInt32) : (spawn start sid).InPhase := by
  cases start <;> constructor <;> simp [spawn, Start.pc, Start.side, Pc.side, Pc.stage]

/-! ## What a step does to the phase -/

theorem inPhase_of_sent_nil {task : Task}
    (side : ∀ side, task.pc.side = some side → task.side = side)
    (relay : task.relay = none) (sent : task.sent = [])
    (stage : task.pc.stage = .opening ∨ task.pc.stage = .closed) : task.InPhase := by
  refine ⟨side, fun _ => ⟨relay, sent⟩, ?_, ?_, fun _ => .inr ⟨relay, .inr ⟨0, ?_⟩⟩⟩
  · rcases stage with stage | stage <;> simp [stage]
  · rcases stage with stage | stage <;> simp [stage]
  · simp [sent]

theorem inPhase_of_sent_opening {task : Task}
    (side : ∀ side, task.pc.side = some side → task.side = side) (relay : task.relay = none)
    (sent : task.sent.map Frame.frameType = [task.side.opening])
    (stage : task.pc.stage ≠ .opening) : task.InPhase := by
  have opened : task.Opened := ⟨0, by simpa using sent⟩
  exact ⟨side, fun same => absurd same stage, fun _ => ⟨relay, sent⟩, fun _ => opened,
    fun _ => .inr ⟨relay, opened.followsGrammar⟩⟩

theorem inPhase_of_opened {task : Task} (side : ∀ side, task.pc.side = some side → task.side = side)
    (opened : task.Opened) (stage : task.pc.stage = .established) : task.InPhase :=
  ⟨side, by simp [stage], by simp [stage], fun _ => opened, by simp [stage]⟩

theorem inPhase_of_closed {task : Task} (side : ∀ side, task.pc.side = some side → task.side = side)
    (closed : task.Closed) (stage : task.pc.stage = .closed) : task.InPhase :=
  ⟨side, by simp [stage], by simp [stage], by simp [stage], fun _ => closed⟩

theorem inPhase_connectFailed {task : Task} (side : task.side = .client)
    (relay : task.relay = none) (sent : task.sent.map Frame.frameType = [task.side.opening])
    (why : WaitFailure) (flow : Flow) : (task.connectFailed why flow).InPhase := by
  cases flow <;>
    exact inPhase_of_sent_opening (by simp [connectFailed, Pc.side, side]) relay sent
      (by simp [connectFailed, Pc.stage])

theorem inPhase_connected {task : Task} (side : task.side = .client) (relay : task.relay = none)
    (sent : task.sent.map Frame.frameType = [task.side.opening]) (flow : Flow) :
    (task.connected flow).InPhase := by
  cases flow with
  | socksTcp =>
      exact inPhase_of_sent_opening (by simp [connected, Pc.side, side]) relay sent
        (by simp [connected, Pc.stage])
  | socksUdp =>
      exact inPhase_of_sent_opening (by simp [connected, Pc.side, side]) relay sent
        (by simp [connected, Pc.stage])
  | forwardedTcp =>
      exact inPhase_of_opened (by simp [connected, startRelay, Pc.side]) ⟨0, sent⟩ rfl
  | forwardedUdp serverPort =>
      exact inPhase_of_opened (by simp [connected, startRelay, Pc.side]) ⟨0, sent⟩ rfl

theorem InPhase.onReply {task : Task} (phase : task.InPhase) {flow : Flow}
    (waiting : task.pc = .waiting flow) (result : Option Frame) :
    (task.onReply flow result).InPhase := by
  have side : task.side = .client := phase.side .client (by simp [waiting, Pc.side])
  obtain ⟨relay, sent⟩ := phase.pending (by simp [waiting, Pc.stage])
  cases result with
  | none => exact inPhase_connectFailed side relay sent .channelClosed flow
  | some frame =>
      simp only [Task.onReply]
      split
      · refine inPhase_connected ?_ ?_ ?_ flow
        exacts [side, relay, sent]
      · refine inPhase_connectFailed ?_ ?_ ?_ .connectErr flow
        exacts [side, relay, sent]
      · exact inPhase_of_sent_opening (by simp [waiting, Pc.side, side]) relay sent
          (by simp [waiting, Pc.stage])

/-- Sending the frame of the handler leads to the next stage. -/
theorem InPhase.send {task next : Task} {frame : Frame} (phase : task.InPhase)
    (pending : task.pendingSend = some (frame, next)) :
    { next with sent := task.sent ++ [frame] }.InPhase := by
  cases pendingSend_cases pending with
  | connect connecting =>
      have side : task.side = .client := phase.side .client (by simp [connecting, Pc.side])
      obtain ⟨relay, sent⟩ := phase.opening (by simp [connecting, Pc.stage])
      exact inPhase_of_sent_opening (by simp [Pc.side, side]) relay
        (by simp [sent, side, Side.opening]) (by simp [Pc.stage])
  | refuse refusing =>
      have side : task.side = .server := phase.side .server (by simp [refusing, Pc.side])
      obtain ⟨relay, sent⟩ := phase.opening (by simp [refusing, Pc.stage])
      exact inPhase_of_closed (by simp [Pc.side])
        (.inr ⟨relay, .inl ⟨side, [], by simp [sent]⟩⟩) rfl
  | confirm confirming =>
      have side : task.side = .server := phase.side .server (by simp [confirming, Pc.side])
      obtain ⟨relay, sent⟩ := phase.opening (by simp [confirming, Pc.stage])
      exact inPhase_of_opened (by simp [startRelay, Pc.side])
        ⟨0, by simp [startRelay, sent, side, Side.opening]⟩ rfl
  | close closing =>
      obtain ⟨count, types⟩ := phase.established (by simp [closing, Pc.stage])
      exact inPhase_of_closed (by simp [Pc.side]) (.inl ⟨count, 0, by simp [types]⟩) rfl

theorem InPhase.relay {socks : FastSocks5} {task : Task} {act : RelayAct} {relay next : Relay}
    {effect : Effect} (phase : task.InPhase) (spawned : task.relay = some relay)
    (taken : Relay.Step socks task.sid relay act next effect) :
    { task with relay := some next, sent := task.sent ++ effect.frames }.InPhase := by
  cases stage : task.pc.stage with
  | opening => simp [(phase.opening stage).1] at spawned
  | pending => simp [(phase.pending stage).1] at spawned
  | established =>
      obtain ⟨count, types⟩ := phase.established stage
      refine inPhase_of_opened phase.side ?_ stage
      rcases taken.frames_eq with nothing | ⟨_, payload, sends⟩
      · exact ⟨count, by simp [nothing, types]⟩
      · exact ⟨count + 1, by simp [sends, types, List.replicate_succ']⟩
  | closed =>
      refine inPhase_of_closed phase.side ?_ stage
      rcases phase.closed stage with ⟨count, late, types⟩ | ⟨absent, _⟩
      · rcases taken.frames_eq with nothing | ⟨_, payload, sends⟩
        · exact .inl ⟨count, late, by simp [nothing, types]⟩
        · exact .inl ⟨count, late + 1, by simp [sends, types, List.replicate_succ']⟩
      · simp [absent] at spawned

/-- Every step of a task keeps the phase. -/
theorem InPhase.step {socks : FastSocks5} {task next : Task} {act : TaskAct} {effect : Effect}
    (phase : task.InPhase) (taken : Step socks task act next effect) : next.InPhase := by
  cases taken with
  | move moves =>
      obtain ⟨stages, sides⟩ := moves.stage
      have side := fun side same => phase.side side (sides side same)
      rcases stages with ⟨stage, later⟩ | ⟨stage, later⟩
      · obtain ⟨relay, sent⟩ := phase.opening stage
        exact inPhase_of_sent_nil side relay sent later
      · obtain ⟨relay, sent⟩ := phase.pending stage
        exact inPhase_of_sent_opening side relay sent later
  | send pending => exact phase.send pending
  | reply waiting => exact phase.onReply waiting _
  | timeout waiting =>
      obtain ⟨relay, sent⟩ := phase.pending (by simp [waiting, Pc.stage])
      exact inPhase_connectFailed (phase.side .client (by simp [waiting, Pc.side])) relay sent _ _
  | replied replying =>
      obtain ⟨_, sent⟩ := phase.pending (by simp [replying, Pc.stage])
      exact inPhase_of_opened (by simp [startRelay, Pc.side])
        ⟨0, by simpa [startRelay] using sent⟩ rfl
  | @filtered answer addr config filtering =>
      obtain ⟨relay, sent⟩ := phase.opening (by simp [filtering, Pc.stage])
      have side : task.side = .server := phase.side .server (by simp [filtering, Pc.side])
      rw [onFiltered]
      split
      · exact inPhase_of_sent_nil (by simp [Pc.side, side]) relay sent (.inl rfl)
      · exact inPhase_of_sent_nil (by simp [Pc.side, side]) relay sent (.inl rfl)
  | select relaying =>
      exact inPhase_of_opened (by simp [Pc.side])
        (phase.established (by simp [relaying, Pc.stage])) rfl
  | dropSession dropping =>
      exact inPhase_of_closed (by simp [Pc.side]) (phase.closed (by simp [dropping, Pc.stage])) rfl
  | relay spawned taken => exact phase.relay spawned taken

/-- A task whose handler has not yet sent its last frame, or that sends nothing, keeps CLOSE
final. -/
theorem InPhase.closeIsFinal {socks : FastSocks5} {task next : Task} {act : TaskAct}
    {effect : Effect} (phase : task.InPhase) (final : CloseIsFinal task.sent)
    (taken : Step socks task act next effect)
    (silent : act = .relay .readerSend → task.pc.stage ≠ .closed) : CloseIsFinal next.sent := by
  have quiet_or_open : effect.frames = [] ∨
      task.pc.stage ≠ .closed ∧ ∃ frame, effect.frames = [frame] := by
    cases taken with
    | send pending =>
        refine .inr ⟨?_, _, rfl⟩
        cases pendingSend_cases pending <;> simp [*, Pc.stage]
    | relay _ taken =>
        rcases taken.frames_eq with nothing | ⟨rfl, payload, sends⟩
        · exact .inl nothing
        · exact .inr ⟨silent rfl, _, sends⟩
    | _ => exact .inl rfl
  rw [taken.sent_eq]
  rcases quiet_or_open with nothing | ⟨stage, frame, sends⟩
  · simpa [nothing] using final
  · rw [sends]
    exact closeIsFinal_concat (phase.not_close stage) frame

end Task

/-! ## Runs of an endpoint -/

namespace Endpoint

/-- Every session with an id of its own follows the grammar, and its CLOSE is final. -/
def SessionsOrderly (ep : Endpoint) : Prop :=
  ∀ chan task, ep.tasks chan = some task → ep.Fresh chan task.sid →
    FollowsGrammar task.side (ep.mux.enqueued task.sid) ∧ CloseIsFinal (ep.mux.enqueued task.sid)

/-- The step is not the send of a reader whose handler has sent its last frame. -/
def SendsBeforeClose (ep : Endpoint) (act : EndpointAct) : Prop :=
  ∀ held chan task, act = .session held chan (.relay .readerSend) → ep.tasks chan = some task →
    ep.Fresh chan task.sid → task.pc.stage ≠ .closed

/-- The tables and the histories agree, and every task is in phase. -/
structure InPhase (ep : Endpoint) : Prop where
  /-- The tables and the histories agree. -/
  well : WellFormed ep
  /-- Every task is in phase. -/
  phase : ∀ chan task, ep.tasks chan = some task → task.InPhase

/-- No task with an id of its own has sent anything after CLOSE. -/
def Silent (ep : Endpoint) : Prop :=
  ∀ chan task, ep.tasks chan = some task → ep.Fresh chan task.sid → CloseIsFinal task.sent

theorem inPhase_new : InPhase new :=
  ⟨wellFormed_new, fun chan task found => by simp [new] at found⟩

theorem silent_new : Silent new :=
  fun chan task found => by simp [new] at found

theorem InPhase.sessionsOrderly_iff_silent {ep : Endpoint} (phase : InPhase ep) :
    SessionsOrderly ep ↔ Silent ep := by
  refine forall₄_congr fun chan task found fresh => ?_
  rw [phase.well.enqueued_eq found fresh]
  exact ⟨And.right, fun final => ⟨(phase.phase chan task found).followsGrammar final, final⟩⟩

section Steps

variable {linkMdu : ℕ+} {socks : FastSocks5} {ep next : Endpoint}

/-- A step of a session task makes no session id less fresh. -/
theorem fresh_session {held : Bool} {chan other : ChanId} {sid : UInt32} {act : TaskAct}
    {task after : Task} {effect : Effect} {mux : Mux} (found : ep.tasks chan = some task)
    (taken : Task.Step socks task act after effect)
    (performs : Performs ep held chan task.sid effect mux) :
    Fresh { mux, tasks := Function.update ep.tasks chan (some after) } other sid ↔
      ep.Fresh other sid := by
  apply and_congr
  · constructor
    · intro unique chan' task' found' same_sid
      obtain ⟨later, found_later, kept_sid⟩ := tasks_session found taken found'
      exact unique chan' later found_later (kept_sid.trans same_sid)
    · intro unique chan' task' found' same_sid
      rcases update_some_cases found' with ⟨rfl, rfl⟩ | ⟨_, found'⟩
      · exact unique chan' task found (taken.identity.1.symm.trans same_sid)
      · exact unique chan' task' found' same_sid
  · simp [performs.log_eq, or_imp, forall_and]

theorem Fresh.of_step {act : EndpointAct} (well : WellFormed ep) {chan : ChanId} {sid : UInt32}
    (taken : Step linkMdu socks ep act next) (fresh : next.Fresh chan sid) :
    ep.Fresh chan sid := by
  cases taken with
  | session found taken performs => exact (fresh_session found taken performs).mp fresh
  | spawn =>
      exact ⟨fun other task found same_sid =>
        fresh.1 other task (well.tasks_spawn found) same_sid, fresh.2⟩
  | refuse =>
      exact ⟨fresh.1, fun out member => fresh.2 out (List.mem_append_left _ member)⟩
  | @dispatch frame =>
      obtain ⟨channels, same⟩ := ep.mux.dispatch_frame frame
      rw [same] at fresh
      exact fresh
  | sender taken =>
      obtain ⟨linkId, dataSenderBuf, sender, wire, handed, rfl⟩ := taken.frame
      exact fresh
  | _ => exact fresh

theorem InPhase.step {act : EndpointAct} (phase : InPhase ep)
    (taken : Step linkMdu socks ep act next) : InPhase next :=
  ⟨phase.well.step taken, taken.forall_tasks phase.phase
    (fun start sid _ => Task.inPhase_spawn start sid) fun _ _ _ _ before taken => before.step taken⟩

theorem inPhase_of_reachable
    (reachable : Execution.Reachable (Endpoint.step linkMdu socks) new ep) :
    InPhase ep :=
  reachable.invariant inPhase_new fun _ _ _ phase taken => phase.step (step_cases taken)

/-- A reader that has sent its DATA in time keeps the sessions silent after CLOSE. -/
theorem InPhase.silent {act : EndpointAct} (phase : InPhase ep) (silent : Silent ep)
    (quiet : SendsBeforeClose ep act) (taken : Step linkMdu socks ep act next) : Silent next := by
  intro chan task found fresh
  have fresh_before := fresh.of_step phase.well taken
  cases taken with
  | @session held owner act before after effect mux owned taken performs =>
      rcases update_some_cases found with ⟨rfl, rfl⟩ | ⟨_, found⟩
      · rw [taken.identity.1] at fresh_before
        refine (phase.phase chan before owned).closeIsFinal (silent chan before owned fresh_before)
          taken fun sends => ?_
        exact quiet held chan before (by rw [sends]) owned fresh_before
      · exact silent chan task found fresh_before
  | @spawn start sid =>
      rcases update_some_cases found with ⟨rfl, rfl⟩ | ⟨_, found⟩
      · intro front close back split
        simp [Task.spawn] at split
      · exact silent chan task found fresh_before
  | _ => exact silent chan task found fresh_before

/-- A reader that sends DATA after CLOSE breaks the silence. -/
theorem InPhase.sendsBeforeClose {act : EndpointAct} (phase : InPhase ep)
    (taken : Step linkMdu socks ep act next) (silent : Silent next) :
    SendsBeforeClose ep act := by
  rintro held chan task rfl found fresh closed
  cases taken with
  | @session _ _ _ before after effect mux owned taken performs =>
      obtain rfl := Option.some.inj (found.symm.trans owned)
      have fresh_after := (fresh_session found taken performs).mpr fresh
      rw [← taken.identity.1] at fresh_after
      have final := silent chan after (by simp) fresh_after
      rw [taken.sent_eq] at final
      cases taken with
      | move moves => exact absurd moves Task.Moves.not_relay
      | relay spawned taken =>
          cases taken with
          | readerSend =>
              rcases (phase.phase chan task found).closed closed with
                ⟨count, late, types⟩ | ⟨absent, _⟩
              · rw [← List.cons_append] at types
                obtain ⟨front, last, sent, _, closing⟩ := List.map_eq_append_iff.mp types
                obtain ⟨close, back, rfl, close_type, _⟩ := List.map_eq_cons_iff.mp closing
                have nothing := final front close _
                  (by rw [sent, List.append_assoc]; rfl) close_type
                simp [Effect.frames] at nothing
              · simp [absent] at spawned

end Steps

/-- Every session with an id of its own follows the grammar throughout a run exactly if no reader
sends DATA once the handler of its session has sent CLOSE. -/
theorem sessionsOrderly_iff {linkMdu : ℕ+} {socks : FastSocks5} {actions : List EndpointAct}
    {final : Endpoint} (execution : Execution.run (step linkMdu socks) new actions = some final) :
    Execution.Always (step linkMdu socks) SessionsOrderly new actions ↔
      Execution.Along (step linkMdu socks) SendsBeforeClose new actions := by
  have strong_good : ∀ ep : Endpoint, ep.InPhase ∧ ep.Silent → SessionsOrderly ep :=
    fun ep both => both.1.sessionsOrderly_iff_silent.mpr both.2
  refine Execution.always_iff_along strong_good ?_ ?_ ⟨inPhase_new, silent_new⟩ execution
  · rintro before act after ⟨phase, silent⟩ quiet taken
    exact ⟨phase.step (step_cases taken), phase.silent silent quiet (step_cases taken)⟩
  · rintro before act after ⟨phase, _⟩ taken orderly
    have phase_after := phase.step (step_cases taken)
    exact phase.sendsBeforeClose (step_cases taken)
      (phase_after.sessionsOrderly_iff_silent.mp orderly)

/-- A SOCKS5 UDP session on the client: the application closes its control connection while the
reader is sending a datagram. -/
def lateDatagram : List EndpointAct :=
  [.setLinkId 1, .nextSessionId, .spawn .socks 1, .session true 0 (.handshake true),
    .session true 0 (.command (some (.udpAssociate, localhost, 53))), .session true 0 .send,
    .dispatch ⟨.connectOk, 1, []⟩, .session true 0 (.recv (some ⟨.connectOk, 1, []⟩)),
    .session true 0 (.bound none), .session true 0 (.replied true),
    .session true 0 (.relay (.read ⟨.v4 Ipv4Addr.LOCALHOST, 4000⟩ [1, 2])),
    .session true 0 (.relay (.watched false)), .session true 0 .select, .session true 0 .send,
    .session true 0 (.relay .readerSend)]

/-- The datagram follows CLOSE. -/
theorem not_sessionsOrderly_lateDatagram :
    (Execution.run (step 431 .rfc1928) new lateDatagram).isSome = true ∧
      ¬ Execution.Always (step 431 .rfc1928) SessionsOrderly new lateDatagram := by
  have ends : ∃ final, Execution.run (step 431 .rfc1928) new lateDatagram = some final ∧
      final.mux.nextChan = 1 ∧ (∃ task, final.tasks 0 = some task ∧ task.sid = 1) ∧
      final.mux.log =
        [⟨some 0, ⟨.connect, 1, encodeConnectPayload localhost.name 53 true⟩⟩,
          ⟨some 0, ⟨.close, 1, []⟩⟩, ⟨some 0, ⟨.data, 1, [1, 2]⟩⟩] :=
    ⟨_, rfl, rfl, ⟨_, rfl, rfl⟩, rfl⟩
  obtain ⟨final, execution, created, ⟨task, found, sid⟩, log⟩ := ends
  refine ⟨by simp [execution], fun always => ?_⟩
  have fresh : final.Fresh 0 task.sid := by
    have unused := (wellFormed_of_reachable ⟨lateDatagram, execution⟩).unused
    refine ⟨fun other task owns _ => ?_, by simp [log]⟩
    by_contra later
    simp [unused other (created ▸ Nat.one_le_iff_ne_zero.mpr later)] at owns
  have close_final := (always.last execution 0 task found fresh).2
  have nothing := close_final [⟨.connect, 1, encodeConnectPayload localhost.name 53 true⟩]
    ⟨.close, 1, []⟩ [⟨.data, 1, [1, 2]⟩] (by simp [Mux.enqueued, log, sid]) rfl
  simp at nothing

/-- Without its last step the run is covered by the condition. -/
theorem sessionsOrderly_iff_lateDatagram_take :
    Execution.Always (step 431 .rfc1928) SessionsOrderly new (lateDatagram.take 14) ↔
      Execution.Along (step 431 .rfc1928) SendsBeforeClose new (lateDatagram.take 14) :=
  sessionsOrderly_iff
    (rfl : Execution.run (step 431 .rfc1928) new (lateDatagram.take 14) = some _)

end Endpoint

end RnsProxy
