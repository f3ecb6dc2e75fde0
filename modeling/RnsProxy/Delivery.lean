import RnsProxy.Tunnel

/-!
# What a session takes from its channel

A session task takes the frames of its channel first in the wait for a reply and then in the writer
of its relay. At an end of a link that stays up, and with session ids of their own, every frame that
is dispatched to a session is taken by its task or waits in its channel, until the task has dropped
the session.
-/

namespace RnsProxy

/-- The frames an effect takes from the session channel. -/
def Effect.received : Effect → List Frame
  | recv (some frame) => [frame]
  | _ => []

theorem Relay.Step.received_eq {socks : FastSocks5} {sid : UInt32} {relay next : Relay}
    {act : RelayAct} {effect : Effect} (taken : Relay.Step socks sid relay act next effect) :
    next.received = relay.received ++ effect.received := by
  cases taken with
  | @read source available =>
      obtain ⟨_, _, _, _, _, same⟩ := relay.onRead_frame socks source (available.take READ_BUFFER)
      simp [same, Effect.received]
  | @recvFrame frame =>
      obtain ⟨_, _, same⟩ := relay.onFrame_frame socks frame
      simp [same, Effect.received]
  | @resolved answer target data =>
      obtain ⟨_, _, same⟩ := relay.onResolved_frame socks answer data
      simp [same, Effect.received]
  | _ => simp [Effect.received]

namespace Task

/-- The frames the handler and its writer have taken from the session channel. -/
def taken (task : Task) : List Frame :=
  task.answers ++ (task.relay.elim [] Relay.received)

theorem taken_of_absent {task : Task} (absent : task.relay = none) : task.taken = task.answers := by
  simp [Task.taken, absent]

theorem taken_connected (task : Task) (flow : Flow) (absent : task.relay = none) :
    (task.connected flow).taken = task.answers := by
  cases flow with
  | socksTcp => exact taken_of_absent absent
  | socksUdp => exact taken_of_absent absent
  | forwardedTcp => simp [Task.taken, connected, startRelay, Relay.start]
  | forwardedUdp serverPort => simp [Task.taken, connected, startRelay, Relay.start]

theorem taken_connectFailed (task : Task) (why : WaitFailure) (flow : Flow) :
    (task.connectFailed why flow).taken = task.taken := by
  obtain ⟨pc, same⟩ := task.connectFailed_frame why flow
  rw [same]
  rfl

section Steps

variable {socks : FastSocks5} {task next : Task} {act : TaskAct} {effect : Effect}

theorem Step.taken_eq (taken : Step socks task act next effect) (inTime : task.SpawnsInTime) :
    next.taken = task.taken ++ effect.received := by
  cases taken with
  | send pending =>
      cases pendingSend_cases pending with
      | confirm confirming =>
          have absent := inTime (.inl (by simp [confirming, Pc.stage]))
          simp [Task.taken, Effect.received, startRelay, Relay.start, absent]
      | _ => simp [Task.taken, Effect.received]
  | @reply flow result waiting =>
      have absent := inTime (.inr (by simp [waiting, Pc.stage]))
      cases result with
      | none => simp [onReply, taken_connectFailed, Effect.received]
      | some frame =>
          simp only [onReply]
          split
          · rw [taken_connected _ flow (by exact absent)]
            simp [Task.taken, absent, Effect.received]
          · rw [taken_connectFailed]
            simp [Task.taken, absent, Effect.received]
          · simp [Task.taken, absent, Effect.received]
  | timeout => simp [taken_connectFailed, Effect.received]
  | replied replying =>
      have absent := inTime (.inr (by simp [replying, Pc.stage]))
      simp [Task.taken, startRelay, Relay.start, absent, Effect.received]
  | @filtered answer addr config =>
      obtain ⟨pc, io, same⟩ := task.onFiltered_frame config answer
      simp [same, Task.taken, Effect.received]
  | select _ spawned => simp [Task.taken, spawned, Effect.received]
  | relay spawned taken => simp [Task.taken, spawned, taken.received_eq]
  | _ => simp [Task.taken, Effect.received]

/-- A handler takes nothing after a reply has ended its wait. -/
structure Awaits (task : Task) : Prop where
  /-- It takes nothing before it waits. -/
  opening : task.pc.stage = .opening → task.answers = []
  /-- A handler of the server does not wait. -/
  server : task.side = .server → task.answers = []
  /-- A reply ends the wait. -/
  reply : ∀ first rest, task.answers = first :: rest →
    first.frameType = .connectOk ∨ first.frameType = .connectErr →
    rest = [] ∧ ∀ flow, task.pc ≠ .waiting flow

theorem awaits_spawn (start : Start) (sid : UInt32) : (spawn start sid).Awaits :=
  ⟨fun _ => rfl, fun _ => rfl, fun _ _ taken => by simp [spawn] at taken⟩

theorem Awaits.of_same (awaits : task.Awaits) (answers : next.answers = task.answers)
    (side : next.side = task.side)
    (opening : next.pc.stage = .opening → task.pc.stage = .opening)
    (waiting : ∀ flow, next.pc = .waiting flow → task.pc = .waiting flow ∨ task.answers = []) :
    next.Awaits := by
  refine ⟨fun stage => ?_, fun serves => ?_, fun first rest split reply => ?_⟩
  · exact answers.trans (awaits.opening (opening stage))
  · exact answers.trans (awaits.server (side.symm.trans serves))
  · have split := answers.symm.trans split
    obtain ⟨last, past⟩ := awaits.reply first rest split reply
    refine ⟨last, fun flow waits => ?_⟩
    rcases waiting flow waits with same | nothing
    · exact past flow same
    · simp [nothing] at split

theorem pc_connectFailed (task : Task) (why : WaitFailure) (flow : Flow) :
    (task.connectFailed why flow).pc.stage ≠ .opening ∧
      ∀ other, (task.connectFailed why flow).pc ≠ .waiting other := by
  cases flow <;> simp [connectFailed, Pc.stage]

theorem pc_connected (task : Task) (flow : Flow) :
    (task.connected flow).pc.stage ≠ .opening ∧
      ∀ other, (task.connected flow).pc ≠ .waiting other := by
  cases flow <;> simp [connected, startRelay, Pc.stage]

theorem Awaits.onReply (awaits : task.Awaits) (phase : task.InPhase) {flow : Flow}
    (waiting : task.pc = .waiting flow) (result : Option Frame) :
    (task.onReply flow result).Awaits := by
  have client : task.side = .client := phase.side .client (by simp [waiting, Pc.side])
  cases result with
  | none =>
      obtain ⟨stage, past⟩ := task.pc_connectFailed .channelClosed flow
      obtain ⟨pc, same⟩ := task.connectFailed_frame .channelClosed flow
      refine awaits.of_same ?_ ?_ (fun opening => absurd opening stage)
        fun other waits => absurd waits (past other)
      · simp [Task.onReply, same]
      · simp [Task.onReply, same]
  | some frame =>
      obtain ⟨pc, relay, same⟩ := task.onReply_frame flow (some frame)
      have later : (task.onReply flow (some frame)).pc.stage ≠ .opening ∧
          (frame.frameType = .connectOk ∨ frame.frameType = .connectErr →
            ∀ other, (task.onReply flow (some frame)).pc ≠ .waiting other) := by
        simp only [Task.onReply]
        split
        · exact ⟨(pc_connected _ flow).1, fun _ => (pc_connected _ flow).2⟩
        · exact ⟨(pc_connectFailed _ _ flow).1, fun _ => (pc_connectFailed _ _ flow).2⟩
        · rename_i not_ok not_err
          refine ⟨by simp [waiting, Pc.stage], ?_⟩
          rintro (ok | err)
          · exact absurd ok not_ok
          · exact absurd err not_err
      refine ⟨fun opening => absurd opening later.1, fun serves => ?_,
        fun first rest split reply => ?_⟩
      · simp [same, client] at serves
      · have split : task.answers ++ [frame] = first :: rest := by simpa [same] using split
        cases taken : task.answers with
        | nil =>
            obtain ⟨rfl, rfl⟩ : frame = first ∧ rest = [] := by simpa [taken, eq_comm] using split
            exact ⟨rfl, later.2 reply⟩
        | cons head tail =>
            obtain rfl : head = first := by
              rw [taken] at split
              exact (List.cons.inj split).1
            exact absurd waiting ((awaits.reply head tail taken reply).2 flow)

theorem Awaits.step (awaits : task.Awaits) (phase : task.InPhase)
    (taken : Step socks task act next effect) : next.Awaits := by
  cases taken with
  | @move act pc moves =>
      refine awaits.of_same rfl rfl (fun opening => ?_) fun flow waits => ?_
      · rcases moves.stage.1 with ⟨before, _⟩ | ⟨_, after⟩
        · exact before
        · exact absurd opening after
      · obtain rfl : pc = .waiting flow := waits
        generalize task.pc = before at moves
        cases moves
  | send pending =>
      cases pendingSend_cases pending with
      | connect connecting =>
          have nothing := awaits.opening (by simp [connecting, Pc.stage])
          exact awaits.of_same rfl rfl (by simp [Pc.stage]) fun _ _ => .inr nothing
      | refuse => exact awaits.of_same rfl rfl (by simp [Pc.stage]) (by simp)
      | confirm =>
          exact awaits.of_same rfl rfl (by simp [startRelay, Pc.stage]) (by simp [startRelay])
      | close => exact awaits.of_same rfl rfl (by simp [Pc.stage]) (by simp)
  | reply waiting => exact awaits.onReply phase waiting _
  | @timeout flow =>
      obtain ⟨stage, past⟩ := task.pc_connectFailed .timeout flow
      obtain ⟨pc, same⟩ := task.connectFailed_frame .timeout flow
      exact awaits.of_same (by simp [same]) (by simp [same]) (fun opening => absurd opening stage)
        fun other waits => absurd waits (past other)
  | replied => exact awaits.of_same rfl rfl (by simp [startRelay, Pc.stage]) (by simp [startRelay])
  | @filtered answer addr config filtering =>
      obtain ⟨pc, io, same⟩ := task.onFiltered_frame config answer
      refine awaits.of_same (by simp [same]) (by simp [same])
        (fun _ => by simp [filtering, Pc.stage]) fun flow waits => ?_
      rw [onFiltered] at waits
      split at waits <;> cases waits
  | select => exact awaits.of_same rfl rfl (by simp [Pc.stage]) (by simp)
  | dropSession => exact awaits.of_same rfl rfl (by simp [Pc.stage]) (by simp)
  | relay => exact awaits.of_same rfl rfl id fun _ waits => .inl waits

/-- What holds of every session task at an end of a link that stays up. -/
structure Sound (side : Side) (task : Task) : Prop where
  /-- It runs in the program at this end. -/
  side : task.side = side
  /-- It sends in order. -/
  phase : task.InPhase
  /-- It spawns its relay in time. -/
  inTime : task.SpawnsInTime
  /-- What it sends fits a frame. -/
  short : task.Short
  /-- It waits for one reply. -/
  awaits : task.Awaits
  /-- Its relay loses nothing. -/
  streams : task.Streams

theorem sound_spawn {side : Side} {start : Start} (spawns : start.side = side) (sid : UInt32) :
    (spawn start sid).Sound side :=
  ⟨spawns, inPhase_spawn start sid, spawnsInTime_spawn start sid, short_spawn start sid,
    awaits_spawn start sid, streams_spawn start sid⟩

theorem Sound.step {side : Side} (sound : task.Sound side)
    (taken : Step socks task act next effect)
    (closes : act = .relay (.recv none) → task.pc ≠ .relaying) : next.Sound side where
  side := taken.identity.2.trans sound.side
  phase := sound.phase.step taken
  inTime := sound.inTime.step taken
  short := (sound.short.step sound.inTime taken).1
  awaits := sound.awaits.step sound.phase taken
  streams := sound.streams.step sound.inTime taken closes

end Steps

end Task

/-! ## An end of a link that stays up -/

namespace Endpoint

/-- Every task has a session id of its own, which the event loop has not refused. -/
def AllFresh (ep : Endpoint) : Prop :=
  ∀ chan task, ep.tasks chan = some task → ep.Fresh chan task.sid

/-- No task has the session id, and the event loop has not refused it. -/
def Unused (ep : Endpoint) (sid : UInt32) : Prop :=
  (∀ chan task, ep.tasks chan = some task → task.sid ≠ sid) ∧
    ∀ out ∈ ep.mux.log, out.origin = none → out.frame.sessionId ≠ sid

/-- Every task whose handler has not returned is registered. -/
def Registered (ep : Endpoint) : Prop :=
  ∀ chan task, ep.tasks chan = some task → task.hasEnded = false →
    ep.mux.sessions task.sid = some chan

/-- The frames of a session that its task has taken, and those in its channel. -/
def inbox (ep : Endpoint) (chan : ChanId) (task : Task) : List Frame :=
  task.taken ++ ep.mux.channels chan

/-- What holds of an end of a link that stays up. -/
structure Sound (side : Side) (ep : Endpoint) : Prop where
  /-- The tables and the histories agree. -/
  well : WellFormed ep
  /-- Every task is sound. -/
  tasks : ∀ chan task, ep.tasks chan = some task → task.Sound side
  /-- Every task has a session id of its own. -/
  fresh : ep.AllFresh
  /-- Every task whose handler has not returned is registered. -/
  registered : ep.Registered
  /-- Only the server refuses a session, and every frame fits. -/
  log : ∀ out ∈ ep.mux.log, (out.origin = none → side = .server) ∧ out.frame.Fits

theorem sound_new (side : Side) (link : LinkId) :
    Sound side { new with mux := Mux.new.setLinkId link } where
  well := wellFormed_new.of_tasks_eq rfl (fun _ _ found => found) (List.append_nil _).symm (by simp)
  tasks chan task found := by simp [new] at found
  fresh chan task found := by simp [new] at found
  registered chan task found := by simp [new] at found
  log out member := by simp [Mux.new, Mux.setLinkId] at member

section Steps

variable {linkMdu : ℕ+} {socks : FastSocks5} {ep next : Endpoint} {act : EndpointAct}

theorem AllFresh.step (fresh : ep.AllFresh) (taken : Step linkMdu socks ep act next)
    (spawns : ∀ start sid, act = .spawn start sid → ep.Unused sid)
    (refuses : ∀ sid, act = .refuse sid → ep.Unused sid) : next.AllFresh := by
  intro chan task found
  cases taken with
  | @session held owner act before after effect mux owned taken performs =>
      apply (fresh_session owned taken performs).mpr
      rcases update_some_cases found with ⟨rfl, rfl⟩ | ⟨_, found⟩
      · rw [taken.identity.1]
        exact fresh chan before owned
      · exact fresh chan task found
  | @spawn start sid =>
      obtain ⟨no_task, no_refusal⟩ := spawns start sid rfl
      rcases update_some_cases found with ⟨rfl, rfl⟩ | ⟨_, found⟩
      · refine ⟨fun other task' found' same_sid => ?_, no_refusal⟩
        by_contra different
        exact no_task other task' (by simpa [different] using found') same_sid
      · refine ⟨fun other task' found' same_sid => ?_, (fresh chan task found).2⟩
        rcases update_some_cases found' with ⟨rfl, rfl⟩ | ⟨_, found'⟩
        · exact absurd same_sid.symm (no_task chan task found)
        · exact (fresh chan task found).1 other task' found' same_sid
  | @refuse sid =>
      refine ⟨(fresh chan task found).1, fun out member => ?_⟩
      rcases List.mem_append.mp member with old | new
      · exact (fresh chan task found).2 out old
      · obtain rfl := List.mem_singleton.mp new
        exact fun _ => ((refuses sid rfl).1 chan task found).symm
  | @dispatch frame =>
      obtain ⟨channels, same⟩ := ep.mux.dispatch_frame frame
      rw [same]
      exact fresh chan task found
  | sender taken =>
      obtain ⟨linkId, dataSenderBuf, sender, wire, handed, rfl⟩ := taken.frame
      exact fresh chan task found
  | _ => exact fresh chan task found

theorem Registered.step {side : Side} (registered : ep.Registered) (fresh : ep.AllFresh)
    (fresh_after : next.AllFresh) (permits : side.Permits act)
    (taken : Step linkMdu socks ep act next) : next.Registered := by
  intro chan task found running
  cases taken with
  | @session held owner act before after effect mux owned taken performs =>
      rcases update_some_cases found with ⟨rfl, rfl⟩ | ⟨same, found⟩
      · have running_before : before.hasEnded = false := by
          by_contra ended
          simp [taken.hasEnded (by simpa using ended)] at running
        have still := registered chan before owned running_before
        rw [taken.identity.1]
        cases performs with
        | dropSession =>
            cases taken with
            | dropSession => simp [Task.hasEnded] at running
            | relay _ taken => cases taken
        | _ => exact still
      · have still := registered chan task found running
        have other_sid : task.sid ≠ before.sid := fun same_sid =>
          same ((fresh owner before owned).1 chan task found same_sid)
        cases performs with
        | dropSession => simpa [Mux.dropSession, other_sid] using still
        | _ => exact still
  | @spawn start sid =>
      rcases update_some_cases found with ⟨rfl, rfl⟩ | ⟨same, found_before⟩
      · simp [Mux.registerSession, Task.spawn]
      · have other_sid : task.sid ≠ sid := fun same_sid =>
          same ((fresh_after ep.mux.nextChan (Task.spawn start sid) (by simp)).1 chan task found
            same_sid)
        simpa [Mux.registerSession, other_sid] using registered chan task found_before running
  | @dispatch frame =>
      obtain ⟨channels, same⟩ := ep.mux.dispatch_frame frame
      rw [same]
      exact registered chan task found running
  | sender taken =>
      obtain ⟨linkId, dataSenderBuf, sender, wire, handed, rfl⟩ := taken.frame
      exact registered chan task found running
  | resetSessions => exact permits.elim
  | _ => exact registered chan task found running

theorem Sound.task_step {side : Side} (sound : Sound side ep) {chan : ChanId} {act : TaskAct}
    {task after : Task} {effect : Effect} {mux : Mux} (found : ep.tasks chan = some task)
    (taken : Task.Step socks task act after effect)
    (performs : Performs ep true chan task.sid effect mux) : after.Sound side := by
  apply (sound.tasks chan task found).step taken
  rintro rfl relaying
  have still := sound.registered chan task found (by simp [Task.hasEnded, relaying])
  cases taken with
  | move moves => exact Task.Moves.not_relay moves
  | relay _ taken =>
      cases taken with
      | recvClosed =>
          cases performs with
          | recvClosed _ closed => simp [senderLives, still] at closed

/-- Every step keeps an end of a link that stays up sound. -/
theorem Sound.step {side : Side} (sound : Sound side ep) (permits : side.Permits act)
    (taken : Step linkMdu socks ep act next)
    (spawns : ∀ start sid, act = .spawn start sid → ep.Unused sid)
    (refuses : ∀ sid, act = .refuse sid → ep.Unused sid) : Sound side next := by
  have fresh := sound.fresh.step taken spawns refuses
  refine ⟨sound.well.step taken, ?_, fresh,
    sound.registered.step sound.fresh fresh permits taken, ?_⟩
  · intro chan task found
    cases taken with
    | @session held owner act before after effect mux owned taken performs =>
        rcases update_some_cases found with ⟨rfl, rfl⟩ | ⟨_, found⟩
        · obtain rfl : held = true := permits
          exact sound.task_step owned taken performs
        · exact sound.tasks chan task found
    | @spawn start sid =>
        rcases update_some_cases found with ⟨rfl, rfl⟩ | ⟨_, found⟩
        · exact Task.sound_spawn permits sid
        · exact sound.tasks chan task found
    | _ => exact sound.tasks chan task found
  · intro out member
    cases taken with
    | @session held owner act before after effect mux owned taken performs =>
        have before_sound := sound.tasks owner before owned
        rw [performs.log_eq, List.mem_append, List.mem_map] at member
        rcases member with old | ⟨frame, sent, rfl⟩
        · exact sound.log out old
        · exact ⟨by simp, (before_sound.short.step before_sound.inTime taken).2 frame sent⟩
    | @refuse sid =>
        rcases List.mem_append.mp member with old | new
        · exact sound.log out old
        · obtain rfl := List.mem_singleton.mp new
          exact ⟨fun _ => permits, (by decide : (text "invalid payload").length ≤ 65535)⟩
    | @dispatch frame =>
        obtain ⟨channels, same⟩ := ep.mux.dispatch_frame frame
        rw [same] at member
        exact sound.log out member
    | sender taken =>
        obtain ⟨linkId, dataSenderBuf, sender, wire, handed, rfl⟩ := taken.frame
        exact sound.log out member
    | _ => exact sound.log out member

end Steps

end Endpoint

end RnsProxy
