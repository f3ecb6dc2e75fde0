import RnsProxy.Server

/-!
# The runs inside a run

The server runs many multiplexers, and a multiplexer many session tasks. This file takes a run
apart: what a run of the server does to one multiplexer is a run of an endpoint, and what a run of
an endpoint does to one session task is a run of that task. Whatever holds of every run of a part
then holds of the part inside the whole.
-/

namespace RnsProxy

namespace Task

/-- One step of a session task, without what it does to the multiplexer. -/
def advance (socks : FastSocks5) (task : Task) (act : TaskAct) : Option Task :=
  (task.step socks act).map Prod.fst

variable {socks : FastSocks5} {task next : Task} {act : TaskAct}

theorem advance_eq_some :
    task.advance socks act = some next ↔ ∃ effect, task.step socks act = some (next, effect) := by
  simp [advance]

theorem advance_cases (taken : task.advance socks act = some next) :
    ∃ effect, Step socks task act next effect := by
  obtain ⟨effect, taken⟩ := advance_eq_some.mp taken
  exact ⟨effect, step_cases taken⟩

end Task

namespace Endpoint

/-- The action of a session task that a step of an endpoint is. -/
def taskAct (chan : ChanId) : EndpointAct → Option TaskAct
  | .session _ owner act => if owner = chan then some act else none
  | _ => none

/-- The session task that a step of an endpoint spawns. -/
def spawned : EndpointAct → Option (Start × UInt32)
  | .spawn start sid => some (start, sid)
  | _ => none

/-- What the steps of an endpoint so far say about its session tasks. -/
structure Accounted (socks : FastSocks5) (past : List EndpointAct) (ep : Endpoint) : Prop where
  /-- The channels are numbered in the order of the spawns. -/
  nextChan : ep.mux.nextChan = (past.filterMap spawned).length
  /-- A task that was never spawned has done nothing. -/
  unused : ∀ chan, ep.mux.nextChan ≤ chan → past.filterMap (taskAct chan) = []
  /-- A task that was spawned is there. -/
  created : ∀ chan < ep.mux.nextChan, ∃ task, ep.tasks chan = some task
  /-- Every task has done its own steps since it was spawned. -/
  task : ∀ chan task, ep.tasks chan = some task →
    ∃ start, (past.filterMap spawned)[chan]? = some (start, task.sid) ∧
      Execution.run (Task.advance socks) (Task.spawn start task.sid)
        (past.filterMap (taskAct chan)) = some task

section Steps

variable {linkMdu : ℕ+} {socks : FastSocks5} {ep next : Endpoint} {act : EndpointAct}
  {past : List EndpointAct}

theorem accounted_new : Accounted socks [] new where
  nextChan := rfl
  unused _ _ := rfl
  created chan bound := absurd bound (Nat.not_lt_zero chan)
  task chan task found := by simp [new] at found

theorem Accounted.session (accounted : Accounted socks past ep) (well : WellFormed ep) {held : Bool}
    {chan : ChanId} {act : TaskAct} {task after : Task} {effect : Effect} {mux : Mux}
    (found : ep.tasks chan = some task) (taken : task.step socks act = some (after, effect))
    (nextChan : mux.nextChan = ep.mux.nextChan) :
    Accounted socks (past ++ [.session held chan act])
      { mux, tasks := Function.update ep.tasks chan (some after) } where
  nextChan := by simp [nextChan, accounted.nextChan, spawned]
  unused other bound := by
    rw [nextChan] at bound
    have different : chan ≠ other := by
      rintro rfl
      simp [well.unused chan bound] at found
    simp [accounted.unused other bound, taskAct, different]
  created other bound := by
    by_cases same : other = chan
    · exact ⟨after, by simp [same]⟩
    · simpa [same] using accounted.created other (nextChan ▸ bound)
  task other owner owns := by
    rcases update_some_cases owns with ⟨rfl, rfl⟩ | ⟨different, owns⟩
    · obtain ⟨start, listed, execution⟩ := accounted.task other task found
      have same_sid := (Task.step_cases taken).identity.1
      refine ⟨start, by simpa [spawned, same_sid, List.filterMap_cons] using listed, ?_⟩
      rw [List.filterMap_append, same_sid]
      refine Execution.run_append_eq_some.mpr ⟨task, execution, ?_⟩
      simp [taskAct, Execution.run_cons, Task.advance, taken]
    · obtain ⟨start, listed, execution⟩ := accounted.task other owner owns
      refine ⟨start, by simpa [spawned, List.filterMap_cons] using listed, ?_⟩
      simpa [taskAct, Ne.symm different] using execution

theorem Accounted.spawn (accounted : Accounted socks past ep) (start : Start) (sid : UInt32) :
    Accounted socks (past ++ [.spawn start sid])
      { mux := (ep.mux.registerSession sid).2
        tasks := Function.update ep.tasks ep.mux.nextChan (some (Task.spawn start sid)) } where
  nextChan := by simp [Mux.registerSession, accounted.nextChan, spawned]
  unused chan bound := by
    have bound : ep.mux.nextChan < chan := bound
    simp [accounted.unused chan bound.le, taskAct]
  created chan bound := by
    rcases Nat.lt_succ_iff_lt_or_eq.mp bound with old | rfl
    · simpa [old.ne] using accounted.created chan old
    · exact ⟨Task.spawn start sid, by simp⟩
  task chan task found := by
    rcases update_some_cases found with ⟨rfl, rfl⟩ | ⟨_, found⟩
    · refine ⟨start, ?_, ?_⟩
      · simp [spawned, accounted.nextChan, Task.spawn]
      · have same_sid : (Task.spawn start sid).sid = sid := rfl
        simp [accounted.unused _ le_rfl, taskAct, List.filterMap_cons, same_sid]
    · obtain ⟨start', listed, execution⟩ := accounted.task chan task found
      have created : chan < (past.filterMap spawned).length :=
        (List.getElem?_eq_some_iff.mp listed).1
      refine ⟨start', ?_, by simpa [taskAct, List.filterMap_cons] using execution⟩
      rw [List.filterMap_append, List.getElem?_append_left created, listed]

theorem Accounted.of_tasks_eq (accounted : Accounted socks past ep) {mux : Mux}
    (nextChan : mux.nextChan = ep.mux.nextChan) (not_spawned : spawned act = none)
    (no_task : ∀ chan, taskAct chan act = none) :
    Accounted socks (past ++ [act]) { ep with mux } where
  nextChan := by simp [nextChan, accounted.nextChan, not_spawned]
  unused chan bound := by
    have unused := accounted.unused chan (by simpa [nextChan] using bound)
    simp [unused, no_task]
  created chan bound := accounted.created chan (nextChan ▸ bound)
  task chan task found := by
    obtain ⟨start, listed, execution⟩ := accounted.task chan task found
    exact ⟨start, by simpa [not_spawned] using listed, by simpa [no_task] using execution⟩

theorem Accounted.step (accounted : Accounted socks past ep) (well : WellFormed ep)
    (taken : ep.step linkMdu socks act = some next) : Accounted socks (past ++ [act]) next := by
  cases act with
  | session held chan act =>
      simp only [Endpoint.step] at taken
      split at taken
      · rename_i task found
        split at taken
        · rename_i after effect stepped
          obtain ⟨mux, performed, rfl⟩ := Option.map_eq_some_iff.mp taken
          exact accounted.session well found stepped (perform_cases performed).nextChan_eq
        · cases taken
      · cases taken
  | spawn start sid =>
      cases taken
      exact accounted.spawn start sid
  | refuse sid =>
      obtain ⟨mux, sent, rfl⟩ := Option.map_eq_some_iff.mp taken
      obtain ⟨_, rfl⟩ := Mux.sendFrame_eq_some.mp sent
      exact accounted.of_tasks_eq rfl rfl fun _ => rfl
  | dispatch frame =>
      cases taken
      obtain ⟨channels, same⟩ := ep.mux.dispatch_frame frame
      rw [same]
      exact accounted.of_tasks_eq rfl rfl fun _ => rfl
  | sender act =>
      obtain ⟨mux, stepped, rfl⟩ := Option.map_eq_some_iff.mp taken
      obtain ⟨linkId, dataSenderBuf, sender, wire, handed, rfl⟩ :=
        (Mux.senderStep_cases stepped).frame
      exact accounted.of_tasks_eq rfl rfl fun _ => rfl
  | _ =>
      cases taken
      exact accounted.of_tasks_eq rfl rfl fun _ => rfl

/-- Every session task inside a run of an endpoint has made a run of its own. -/
theorem accounted_of_run {actions : List EndpointAct} {final : Endpoint}
    (execution : Execution.run (step linkMdu socks) new actions = some final) :
    WellFormed final ∧ Accounted socks actions final := by
  have extended : ∀ past before action after, WellFormed before ∧ Accounted socks past before →
      step linkMdu socks before action = some after →
      WellFormed after ∧ Accounted socks (past ++ [action]) after := by
    rintro past before action after ⟨well, accounted⟩ taken
    exact ⟨well.step (step_cases taken), accounted.step well taken⟩
  exact Execution.run_past (fun past ep => WellFormed ep ∧ Accounted socks past ep)
    extended ⟨wellFormed_new, accounted_new⟩ execution

end Steps

end Endpoint

namespace Server

/-- What a step of the server does to one multiplexer. -/
def actOn (muxId : MuxId) (server : Server) : ServerAct → Option EndpointAct
  | .event (.linkEstablished link false) =>
      if server.nextMux = muxId then some (.setLinkId link) else none
  | .event (.linkData link data) =>
      if server.linkMuxes link = some muxId then some (.receive data) else none
  | .event _ => none
  | .frame =>
      match server.handling with
      | some (handled, frame :: _) =>
          if handled = muxId then onFrame server.filterConfig frame else none
      | _ => none
  | .session owner chan act =>
      if owner = muxId then some (.session (server.held owner) chan act) else none
  | .sender owner act => if owner = muxId then some (.sender act) else none

/-- The steps of the server that concern one multiplexer, in order. -/
def muxActs (muxId : MuxId) (past : List (Server × ServerAct)) : List EndpointAct :=
  past.filterMap fun taken => taken.1.actOn muxId taken.2

/-- The actions of an endpoint that the server performs. It never resets a multiplexer, and spawns
its own session tasks only. -/
def Does (filterConfig : FilterConfig) : EndpointAct → Prop
  | .spawn start _ => Spawns filterConfig start
  | .nextSessionId => False
  | .resetLinkId => False
  | .resetSessions => False
  | .resetRecvBuf => False
  | _ => True

theorem does_onFrame {filterConfig : FilterConfig} {frame : Frame} {act : EndpointAct}
    (reaction : onFrame filterConfig frame = some act) : Does filterConfig act := by
  rcases onFrame_cases reaction with ⟨start, rfl, ⟨host, port, rfl⟩ | rfl⟩ | rfl | rfl
  · exact .inl ⟨_, rfl⟩
  · exact .inr rfl
  · trivial
  · trivial

theorem does_of_actOn {server : Server} {act : ServerAct} {muxId : MuxId}
    {endpointAct : EndpointAct} (acts : server.actOn muxId act = some endpointAct) :
    Does server.filterConfig endpointAct := by
  simp only [actOn] at acts
  split at acts
  · obtain rfl := Option.some.inj (Option.ite_none_right_eq_some.mp acts).2
    trivial
  · obtain rfl := Option.some.inj (Option.ite_none_right_eq_some.mp acts).2
    trivial
  · cases acts
  · split at acts
    · exact does_onFrame (Option.ite_none_right_eq_some.mp acts).2
    · cases acts
  · obtain rfl := Option.some.inj (Option.ite_none_right_eq_some.mp acts).2
    trivial
  · obtain rfl := Option.some.inj (Option.ite_none_right_eq_some.mp acts).2
    trivial

theorem actOn_eq_session {server : Server} {act : ServerAct} {muxId : MuxId} {held : Bool}
    {chan : ChanId} {taskAct : TaskAct} :
    server.actOn muxId act = some (.session held chan taskAct) ↔
      act = .session muxId chan taskAct ∧ held = server.held muxId := by
  constructor
  · intro acts
    simp only [actOn] at acts
    split at acts
    · cases (Option.ite_none_right_eq_some.mp acts).2
    · cases (Option.ite_none_right_eq_some.mp acts).2
    · cases acts
    · split at acts
      · rcases onFrame_cases (Option.ite_none_right_eq_some.mp acts).2 with
          ⟨start, spawns, _⟩ | refuses | dispatches
        · cases spawns
        · cases refuses
        · cases dispatches
      · cases acts
    · obtain ⟨rfl, same⟩ := Option.ite_none_right_eq_some.mp acts
      cases same
      exact ⟨rfl, rfl⟩
    · cases (Option.ite_none_right_eq_some.mp acts).2
  · rintro ⟨rfl, rfl⟩
    simp [actOn]

section Steps

variable {linkMdu : ℕ+} {socks : FastSocks5} {server next : Server} {act : ServerAct}

/-- A step of the server does to a multiplexer what it says, and nothing to the others. -/
theorem Step.muxes (taken : Step linkMdu socks server act next)
    (well : WellFormed linkMdu socks server) (muxId : MuxId) :
    Execution.attempt (Endpoint.step linkMdu socks) (server.muxes muxId) (server.actOn muxId act) =
      some (next.muxes muxId) := by
  cases taken with
  | @established link idle =>
      by_cases same : server.nextMux = muxId
      · subst same
        simp [Execution.attempt, actOn, well.unused _ le_rfl, Endpoint.step, Endpoint.new]
      · simp [Execution.attempt, actOn, same, Ne.symm same]
  | closed => rfl
  | @data link data owner idle known =>
      by_cases same : owner = muxId
      · subst same
        simp [Execution.attempt, actOn, known, Endpoint.step]
      · simp [Execution.attempt, actOn, known, same, Ne.symm same]
  | @ignored event idle same =>
      cases event with
      | linkEstablished link isInitiator =>
          cases isInitiator with
          | false =>
              have advanced := congrArg Server.nextMux same
              simp [onEvent] at advanced
          | true => rfl
      | linkClosed link => rfl
      | linkData link data =>
          cases known : server.linkMuxes link with
          | none => simp [Execution.attempt, actOn, known]
          | some owner =>
              have busy := congrArg Server.handling same
              simp [onEvent, known, idle] at busy
      | pathUpdated => rfl
  | @frame owner frame rest endpointAct ep handling reaction taken =>
      by_cases same : owner = muxId
      · subst same
        simp [Execution.attempt, actOn, handling, reaction, taken]
      · simp [Execution.attempt, actOn, handling, same, Ne.symm same]
  | @skipped owner frame rest handling reaction =>
      simp [Execution.attempt, actOn, handling, reaction]
  | @handled owner handling => simp [Execution.attempt, actOn, handling]
  | @session owner chan act ep taken =>
      by_cases same : owner = muxId
      · subst same
        simp [Execution.attempt, actOn, taken]
      · simp [Execution.attempt, actOn, same, Ne.symm same]
  | @sender owner act ep taken =>
      by_cases same : owner = muxId
      · subst same
        simp [Execution.attempt, actOn, taken]
      · simp [Execution.attempt, actOn, same, Ne.symm same]

/-- Every multiplexer inside a run of the server has made a run of its own. -/
theorem run_muxActs {filterConfig : FilterConfig} {actions : List ServerAct} {final : Server}
    (execution : Execution.run (step linkMdu socks) (new filterConfig) actions = some final)
    (muxId : MuxId) :
    Execution.run (Endpoint.step linkMdu socks) Endpoint.new
        (muxActs muxId (Execution.trace (step linkMdu socks) (new filterConfig) actions)) =
      some (final.muxes muxId) := by
  have matched : ∀ before act after ep,
      WellFormed linkMdu socks before ∧ before.muxes muxId = ep →
      step linkMdu socks before act = some after →
      ∃ later, Execution.attempt (Endpoint.step linkMdu socks) ep (before.actOn muxId act) =
          some later ∧ WellFormed linkMdu socks after ∧ after.muxes muxId = later := by
    rintro before act after ep ⟨well, rfl⟩ taken
    have taken := step_cases taken
    exact ⟨_, taken.muxes well muxId, well.step taken, rfl⟩
  obtain ⟨ep, made, _, same⟩ := Execution.run_project
    (fun server ep => WellFormed linkMdu socks server ∧ server.muxes muxId = ep)
    (fun taken => taken.1.actOn muxId taken.2) matched ⟨wellFormed_new filterConfig, rfl⟩ execution
  rw [same]
  exact made

end Steps

end Server

end RnsProxy
