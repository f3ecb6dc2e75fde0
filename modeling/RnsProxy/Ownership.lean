import RnsProxy.ClosedLink
import RnsProxy.Projection

/-!
# Who removes a registration

The session table of a multiplexer knows sessions by their id alone. A second CONNECT frame with an
id that is still in use replaces the registration of the first session, and when the task of the
first session ends it removes whatever is registered under the id. This file determines the runs in
which a session task only ever removes its own registration, and in which frames therefore reach the
session connected last.
-/

namespace RnsProxy

namespace Endpoint

/-- No session with this id was connected after the one on `chan`. -/
def Latest (ep : Endpoint) (chan : ChanId) (sid : UInt32) : Prop :=
  ∀ other task, ep.tasks other = some task → task.sid = sid → other ≤ chan

/-- A session task that drops its session is the latest one with its id, or the latest one has
ended. -/
def EndsInOrder (ep : Endpoint) (act : EndpointAct) : Prop :=
  ∀ held chan task, act = .session held chan .dropSession → ep.tasks chan = some task →
    ∀ other latest, ep.tasks other = some latest → latest.sid = task.sid →
      ep.Latest other task.sid → other = chan ∨ latest.hasEnded = true

/-- The session table knows the latest session of every id. -/
structure KnowsLatest (ep : Endpoint) : Prop where
  /-- A registered session is the latest one. -/
  registered : ∀ sid chan, ep.mux.sessions sid = some chan → ep.Latest chan sid
  /-- The latest session is registered until it has ended. -/
  running : ∀ chan task, ep.tasks chan = some task → ep.Latest chan task.sid →
    task.hasEnded = false → ep.mux.sessions task.sid = some chan

theorem knowsLatest_new : KnowsLatest new where
  registered sid chan found := by simp [new, Mux.new] at found
  running chan task found := by simp [new] at found

section Steps

variable {linkMdu : ℕ+} {socks : FastSocks5} {ep next : Endpoint} {act : EndpointAct}

/-- A step of a session task leaves the order of the sessions as it is. -/
theorem latest_session {chan other : ChanId} {act : TaskAct} {task after : Task} {effect : Effect}
    {mux : Mux} {sid : UInt32} (found : ep.tasks chan = some task)
    (taken : Task.Step socks task act after effect) :
    Latest { mux, tasks := Function.update ep.tasks chan (some after) } other sid ↔
      ep.Latest other sid := by
  constructor
  · intro latest third owner owns same_sid
    obtain ⟨later, owns_later, kept_sid⟩ := tasks_session found taken owns
    exact latest third later owns_later (kept_sid.trans same_sid)
  · intro latest third owner owns same_sid
    rcases update_some_cases owns with ⟨rfl, rfl⟩ | ⟨_, owns⟩
    · exact latest third task found (taken.identity.1.symm.trans same_sid)
    · exact latest third owner owns same_sid

theorem KnowsLatest.session (knows : KnowsLatest ep) {held : Bool} {chan : ChanId} {act : TaskAct}
    {task after : Task} {effect : Effect} {mux : Mux}
    (inOrder : EndsInOrder ep (.session held chan act)) (found : ep.tasks chan = some task)
    (taken : Task.Step socks task act after effect)
    (performs : Performs ep held chan task.sid effect mux) :
    KnowsLatest { mux, tasks := Function.update ep.tasks chan (some after) } where
  registered sid other registered := by
    rw [latest_session found taken]
    exact knows.registered sid other (performs.sessions_of_some registered)
  running other owner owns latest running := by
    rw [latest_session found taken] at latest
    -- the session was the latest one before, and was running
    obtain ⟨before, owned, same_sid, running_before, still⟩ :
        ∃ before, ep.tasks other = some before ∧ before.sid = owner.sid ∧
          before.hasEnded = false ∧ (other = chan → after.hasEnded = false) := by
      rcases update_some_cases owns with ⟨rfl, rfl⟩ | ⟨different, owns⟩
      · refine ⟨task, found, taken.identity.1.symm, ?_, fun _ => running⟩
        rw [← Bool.not_eq_true]
        intro ended
        simp [taken.hasEnded ended] at running
      · exact ⟨owner, owns, rfl, running, fun same => absurd same different⟩
    have registered := knows.running other before owned (same_sid ▸ latest) running_before
    rw [← same_sid]
    cases performs with
    | dropSession =>
        by_cases same : before.sid = task.sid
        · -- dropping would have removed a running session
          have act_eq : act = .dropSession := by
            cases taken with
            | dropSession => rfl
            | relay _ taken => cases taken
          subst act_eq
          rcases inOrder held chan task rfl found other before owned same
            (by rw [← same, same_sid]; exact latest) with rfl | ended
          · cases taken with
            | dropSession dropping => simp [Task.hasEnded] at still
          · simp [ended] at running_before
        · simpa [Mux.dropSession, same] using registered
    | _ => exact registered

theorem KnowsLatest.spawn (knows : KnowsLatest ep) (well : WellFormed ep) (start : Start)
    (sid : UInt32) :
    KnowsLatest
      { mux := (ep.mux.registerSession sid).2
        tasks := Function.update ep.tasks ep.mux.nextChan (some (Task.spawn start sid)) } where
  registered other chan found := by
    intro third task owns same_sid
    rcases update_some_cases found with ⟨rfl, rfl⟩ | ⟨different, found⟩
    · rcases update_some_cases owns with ⟨rfl, _⟩ | ⟨_, owns⟩
      · exact le_rfl
      · by_contra later
        simp [well.unused third (not_le.mp later).le] at owns
    · rcases update_some_cases owns with ⟨rfl, rfl⟩ | ⟨_, owns⟩
      · exact absurd same_sid.symm different
      · exact knows.registered other chan found third task owns same_sid
  running chan task found latest running := by
    rcases update_some_cases found with ⟨rfl, rfl⟩ | ⟨_, found⟩
    · simp [Mux.registerSession, Task.spawn]
    · have different : task.sid ≠ sid := by
        intro same_sid
        have spawned_first := latest ep.mux.nextChan (Task.spawn start sid) (by simp) same_sid.symm
        simp [well.unused chan spawned_first] at found
      have latest_before : ep.Latest chan task.sid := fun other owner owns same_sid =>
        latest other owner (well.tasks_spawn owns) same_sid
      simpa [Mux.registerSession, different] using
        knows.running chan task found latest_before running

/-- A step that ends sessions in order keeps the latest sessions known, unless the multiplexer is
reset. -/
theorem KnowsLatest.step (knows : KnowsLatest ep) (well : WellFormed ep)
    (taken : Step linkMdu socks ep act next) (inOrder : EndsInOrder ep act)
    (not_reset : act ≠ .resetSessions) : KnowsLatest next := by
  cases taken with
  | session found taken performs => exact knows.session inOrder found taken performs
  | @spawn start sid => exact knows.spawn well start sid
  | @dispatch frame =>
      obtain ⟨channels, same⟩ := ep.mux.dispatch_frame frame
      rw [same]
      exact ⟨knows.registered, knows.running⟩
  | sender taken =>
      obtain ⟨linkId, dataSenderBuf, sender, wire, handed, rfl⟩ := taken.frame
      exact ⟨knows.registered, knows.running⟩
  | resetSessions => exact absurd rfl not_reset
  | _ => exact ⟨knows.registered, knows.running⟩

end Steps

end Endpoint

namespace Server

/-- `drop_session` of a session task removes no registration but that of the task itself. -/
def DropsOwn (server : Server) (act : ServerAct) : Prop :=
  ∀ muxId chan task, act = .session muxId chan .dropSession →
    (server.muxes muxId).tasks chan = some task →
    ∀ owner, (server.muxes muxId).mux.sessions task.sid = some owner → owner = chan

/-- A DATA or CLOSE frame reaches the latest session with its id, unless that session has ended. -/
def ReachesLatest (linkMdu : ℕ+) (socks : FastSocks5) (server : Server) (act : ServerAct) : Prop :=
  ∀ muxId frame rest next, act = .frame → server.handling = some (muxId, frame :: rest) →
    frame.frameType = .data ∨ frame.frameType = .close →
    server.step linkMdu socks .frame = some next →
    ∀ chan task, (server.muxes muxId).tasks chan = some task → task.sid = frame.sessionId →
      (server.muxes muxId).Latest chan task.sid → task.hasEnded = false →
      (next.muxes muxId).mux.channels chan = (server.muxes muxId).mux.channels chan ++ [frame]

/-- A session task that drops its session is the latest one with its id on its link, or the latest
one has ended. -/
def EndsInOrder (server : Server) (act : ServerAct) : Prop :=
  ∀ muxId chan task, act = .session muxId chan .dropSession →
    (server.muxes muxId).tasks chan = some task →
    ∀ other latest, (server.muxes muxId).tasks other = some latest → latest.sid = task.sid →
      (server.muxes muxId).Latest other task.sid → other = chan ∨ latest.hasEnded = true

/-- What the runs keep in which sessions end in order. -/
structure Ordered (linkMdu : ℕ+) (socks : FastSocks5) (server : Server) : Prop where
  /-- What every run keeps. -/
  steady : Steady linkMdu socks server
  /-- The session tables know the latest sessions. -/
  knows : ∀ muxId, (server.muxes muxId).KnowsLatest

section Steps

variable {linkMdu : ℕ+} {socks : FastSocks5} {server next : Server} {act : ServerAct}

theorem ordered_new {filterConfig : FilterConfig} : Ordered linkMdu socks (new filterConfig) :=
  ⟨steady_new, fun _ => Endpoint.knowsLatest_new⟩

theorem Ordered.step (ordered : Ordered linkMdu socks server)
    (taken : Step linkMdu socks server act next) (inOrder : EndsInOrder server act) :
    Ordered linkMdu socks next := by
  refine ⟨ordered.steady.step taken, fun muxId => ?_⟩
  have effect := taken.muxes ordered.steady.well muxId
  cases acts : server.actOn muxId act with
  | none =>
      rw [acts] at effect
      rw [← Option.some.inj effect]
      exact ordered.knows muxId
  | some endpointAct =>
      rw [acts] at effect
      have well := Endpoint.wellFormed_of_reachable (ordered.steady.well.endpoint muxId)
      refine (ordered.knows muxId).step well (Endpoint.step_cases effect) ?_ ?_
      · rintro held chan task rfl
        exact inOrder muxId chan task (actOn_eq_session.mp acts).1
      · rintro rfl
        exact does_of_actOn acts

/-- In order, a session task that drops its session drops its own registration, and drops in
order. -/
theorem Ordered.dropsOwn_iff (ordered : Ordered linkMdu socks server) :
    DropsOwn server act ↔ EndsInOrder server act := by
  refine forall_congr' fun muxId => forall_congr' fun chan => forall_congr' fun task =>
    forall₂_congr fun _ found => ?_
  constructor
  · intro own other latest owns same_sid is_latest
    by_contra! running
    have registered := (ordered.knows muxId).running other latest owns (same_sid ▸ is_latest)
      (by simpa using running.2)
    exact running.1 (own other (same_sid ▸ registered))
  · intro inOrder owner registered
    obtain ⟨latest, owns, same_sid, running⟩ :=
      ordered.steady.live muxId task.sid owner registered
    rcases inOrder owner latest owns same_sid ((ordered.knows muxId).registered _ _ registered) with
      same | ended
    · exact same
    · simp [ended] at running

theorem Ordered.reachesLatest (ordered : Ordered linkMdu socks server) :
    ReachesLatest linkMdu socks server act := by
  rintro muxId frame rest next rfl handling type taken chan task found same_sid latest running
  have registered := (ordered.knows muxId).running chan task found latest running
  have reaction : onFrame server.filterConfig frame = some (.dispatch frame) := by
    rcases type with type | type <;> simp [onFrame, type]
  simp only [Server.step, handling, reaction, Endpoint.step, Option.map_some,
    Option.some.injEq] at taken
  subst taken
  simp [Mux.dispatch, ← same_sid, registered]

end Steps

/-- A session task removes no registration but its own, and DATA and CLOSE frames reach the session
connected last with their id until it ends, exactly in the runs in which no session task drops its
session while a later one with the same id is the latest and still running. -/
theorem dropsOwn_reachesLatest_iff {linkMdu : ℕ+} {socks : FastSocks5} {filterConfig : FilterConfig}
    {actions : List ServerAct} {final : Server}
    (execution : Execution.run (step linkMdu socks) (new filterConfig) actions = some final) :
    Execution.Along (step linkMdu socks)
        (fun server act => DropsOwn server act ∧ ReachesLatest linkMdu socks server act)
        (new filterConfig) actions ↔
      Execution.Along (step linkMdu socks) EndsInOrder (new filterConfig) actions := by
  have start : Ordered linkMdu socks (new filterConfig) := ordered_new
  refine Execution.along_congr ?_ ?_ start execution
  · rintro before act after ordered ⟨own, _⟩ taken
    exact ordered.step (step_cases taken) (ordered.dropsOwn_iff.mp own)
  · intro before act after ordered _
    rw [ordered.dropsOwn_iff]
    exact and_iff_left ordered.reachesLatest

/-- A client opens two UDP sessions with the same id, and the first one ends. -/
def reusedId : List ServerAct :=
  [.event (.linkEstablished 1 false),
    .event (.linkData 1 (Frame.encode ⟨.connect, 7, encodeConnectPayload "0.0.0.0" 0 true⟩ ++
      Frame.encode ⟨.connect, 7, encodeConnectPayload "0.0.0.0" 0 true⟩)),
    .frame, .frame, .frame, .session 0 0 (.bound none), .session 0 0 .send,
    .session 0 0 (.relay (.recv none)), .session 0 0 .select, .session 0 0 .send,
    .session 0 0 .dropSession]

/-- The first session removes the registration of the second, which is still running. -/
theorem not_dropsOwn_reusedId :
    ∃ final, Execution.run (step 431 .rfc1928) (new (serverConfig true true)) reusedId =
      some final ∧
      ¬ Execution.Along (step 431 .rfc1928)
        (fun server act => DropsOwn server act ∧ ReachesLatest 431 .rfc1928 server act)
        (new (serverConfig true true)) reusedId := by
  have ends : ∃ before task final,
      Execution.run (step 431 .rfc1928) (new (serverConfig true true)) (reusedId.take 10) =
          some before ∧
        before.step 431 .rfc1928 (.session 0 0 .dropSession) = some final ∧
        (before.muxes 0).tasks 0 = some task ∧
        (before.muxes 0).mux.sessions task.sid = some 1 :=
    ⟨_, _, _, rfl, rfl, rfl, rfl⟩
  obtain ⟨before, task, final, front, taken, found, registered⟩ := ends
  refine ⟨final, ?_, fun along => ?_⟩
  · exact Execution.run_append_eq_some.mpr ⟨before, front, by simp [Execution.run_cons, taken]⟩
  · obtain ⟨own, _⟩ := Execution.along_iff_forall_split.mp along (reusedId.take 10)
      (.session 0 0 .dropSession) [] before rfl front
    have same := own 0 0 task rfl found 1 registered
    cases same

/-- Before the first session drops its id the run is covered by the condition. -/
theorem dropsOwn_reachesLatest_iff_reusedId_take :
    Execution.Along (step 431 .rfc1928)
        (fun server act => DropsOwn server act ∧ ReachesLatest 431 .rfc1928 server act)
        (new (serverConfig true true)) (reusedId.take 10) ↔
      Execution.Along (step 431 .rfc1928) EndsInOrder (new (serverConfig true true))
        (reusedId.take 10) :=
  dropsOwn_reachesLatest_iff (rfl : Execution.run (step 431 .rfc1928)
    (new (serverConfig true true)) (reusedId.take 10) = some _)

end Server

end RnsProxy
