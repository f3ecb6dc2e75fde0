import RnsProxy.Admission
import RnsProxy.Datagrams

/-!
# The ends inside a run of a tunnel

What a run of a tunnel does to one of its ends is a run of an endpoint. A session task at either end
has therefore made a run of its own since it was spawned: on the client by an accept loop, on the
server for a CONNECT frame that the event loop has handled.
-/

namespace RnsProxy

namespace Tunnel

/-- What a step of a tunnel does to one end. -/
def actAt (side : Side) (tunnel : Tunnel) : TunnelAct → Option EndpointAct
  | .session other chan act => if other = side then some (.session true chan act) else none
  | .sender other act => if other = side then some (.sender act) else none
  | .nextSessionId => if side = .client then some .nextSessionId else none
  | .accept listener sid => if side = .client then some (.spawn listener.start sid) else none
  | .deliver other =>
      if other = side then
        (tunnel.ends side.peer).mux.wire[(tunnel.inbound side).delivered]?.map fun packet =>
          .receive packet.2
      else none
  | .handle other =>
      if other = side then (tunnel.inbound side).pending.head?.bind (side.reaction
        tunnel.filterConfig) else none

/-- The frame that an event loop handles in a step. -/
def handles (side : Side) (tunnel : Tunnel) : TunnelAct → Option Frame
  | .handle other => if other = side then (tunnel.inbound side).pending.head? else none
  | _ => none

/-- The steps of a tunnel that concern one end, in order. -/
def actsAt (side : Side) (past : List (Tunnel × TunnelAct)) : List EndpointAct :=
  past.filterMap fun taken => taken.1.actAt side taken.2

section Steps

variable {linkMdu : ℕ+} {socks : FastSocks5} {tunnel next : Tunnel} {act : TunnelAct}

/-- A step of a tunnel does to an end what it says, and nothing to the other. -/
theorem attempt_actAt (taken : tunnel.step linkMdu socks act = some next) (side : Side) :
    Execution.attempt (Endpoint.step linkMdu socks) (tunnel.ends side) (tunnel.actAt side act) =
      some (next.ends side) := by
  cases act with
  | session other chan act =>
      obtain ⟨ep, stepped, rfl⟩ := Option.map_eq_some_iff.mp taken
      by_cases same : other = side
      · subst same
        simp [actAt, Execution.attempt, stepped, setEnd]
      · simp [actAt, Execution.attempt, setEnd, same, Ne.symm same]
  | sender other act =>
      simp only [step, Option.ite_none_left_eq_some, Option.map_eq_some_iff] at taken
      obtain ⟨_, ep, stepped, rfl⟩ := taken
      by_cases same : other = side
      · subst same
        simp [actAt, Execution.attempt, stepped, setEnd]
      · simp [actAt, Execution.attempt, setEnd, same, Ne.symm same]
  | nextSessionId =>
      simp only [step, Option.map_eq_some_iff] at taken
      obtain ⟨ep, stepped, rfl⟩ := taken
      cases side with
      | client => simp [actAt, Execution.attempt, stepped, setEnd]
      | server => simp [actAt, Execution.attempt, setEnd]
  | accept listener sid =>
      simp only [step, Option.map_eq_some_iff] at taken
      obtain ⟨ep, stepped, rfl⟩ := taken
      cases side with
      | client => simp [actAt, Execution.attempt, stepped, setEnd]
      | server => simp [actAt, Execution.attempt, setEnd]
  | deliver other =>
      simp only [step] at taken
      split at taken
      · rename_i link packet _ arrives
        cases taken
        by_cases same : other = side
        · subst same
          simp [actAt, Execution.attempt, Endpoint.step, setEnd, setInbound, arrives]
        · simp [actAt, Execution.attempt, setEnd, setInbound, same, Ne.symm same]
      · cases taken
  | handle other =>
      simp only [step] at taken
      split at taken
      · rename_i frame rest decoded
        by_cases same : other = side
        · subst same
          split at taken
          · rename_i endpointAct reacts
            obtain ⟨ep, stepped, rfl⟩ := Option.map_eq_some_iff.mp taken
            simp [actAt, Execution.attempt, stepped, setEnd, decoded, reacts]
          · rename_i reacts
            cases taken
            simp [actAt, Execution.attempt, setInbound, decoded, reacts]
        · split at taken
          · obtain ⟨ep, stepped, rfl⟩ := Option.map_eq_some_iff.mp taken
            simp [actAt, Execution.attempt, setEnd, setInbound, same, Ne.symm same]
          · cases taken
            simp [actAt, Execution.attempt, setInbound, same]
      · cases taken

theorem handled_step (taken : tunnel.step linkMdu socks act = some next) (side : Side) :
    (next.inbound side).handled =
      (tunnel.inbound side).handled ++ (tunnel.handles side act).toList := by
  cases act with
  | deliver other =>
      simp only [step] at taken
      split at taken
      · cases taken
        by_cases same : side = other
        · subst same
          simp [handles, setInbound]
        · simp [handles, setEnd, setInbound, same]
      · cases taken
  | handle other =>
      simp only [step] at taken
      split at taken
      · rename_i frame rest decoded
        have moved : next.inbound = (tunnel.setInbound other
            { tunnel.inbound other with
              pending := rest
              handled := (tunnel.inbound other).handled ++ [frame] }).inbound := by
          split at taken
          · obtain ⟨ep, _, rfl⟩ := Option.map_eq_some_iff.mp taken
            rfl
          · cases taken
            rfl
        by_cases same : side = other
        · subst same
          simp [moved, setInbound, handles, decoded]
        · simp [moved, setInbound, handles, same, Ne.symm same]
      · cases taken
  | sender other act =>
      simp only [step, Option.ite_none_left_eq_some, Option.map_eq_some_iff] at taken
      obtain ⟨_, ep, _, rfl⟩ := taken
      simp [handles, setEnd]
  | _ =>
      simp only [step, Option.map_eq_some_iff] at taken
      obtain ⟨ep, _, rfl⟩ := taken
      simp [handles, setEnd]

end Steps

section Runs

variable {linkMdu : ℕ+} {socks : FastSocks5} {filterConfig : FilterConfig} {link : LinkId}
  {acts : List TunnelAct} {tunnel : Tunnel}

theorem run_actsAt
    (execution : Execution.run (step linkMdu socks) (new filterConfig link) acts = some tunnel)
    (side : Side) :
    Execution.run (Endpoint.step linkMdu socks) Endpoint.new
        (.setLinkId link ::
          actsAt side (Execution.trace (step linkMdu socks) (new filterConfig link) acts)) =
      some (tunnel.ends side) := by
  obtain ⟨ep, made, same⟩ := Execution.run_project
    (fun tunnel ep => tunnel.ends side = ep) (fun taken => taken.1.actAt side taken.2)
    (fun before act after ep same taken =>
      ⟨_, same ▸ attempt_actAt taken side, rfl⟩) rfl execution
  rw [same]
  exact Execution.run_cons_eq_some.mpr ⟨_, rfl, made⟩

theorem handled_of_run
    (execution : Execution.run (step linkMdu socks) (new filterConfig link) acts = some tunnel)
    (side : Side) :
    (tunnel.inbound side).handled =
      (Execution.trace (step linkMdu socks) (new filterConfig link) acts).filterMap
        fun taken => taken.1.handles side taken.2 := by
  refine Execution.run_history (fun past tunnel => (tunnel.inbound side).handled =
    past.filterMap fun taken => taken.1.handles side taken.2) ?_ rfl execution
  intro past before act after same taken
  rw [handled_step taken side, same, Execution.filterMap_concat]

theorem filterConfig_step {next : Tunnel} {act : TunnelAct}
    (taken : tunnel.step linkMdu socks act = some next) :
    next.filterConfig = tunnel.filterConfig := by
  cases step_cases taken <;> rfl

theorem filterConfig_of_run
    (execution : Execution.run (step linkMdu socks) (new filterConfig link) acts = some tunnel) :
    ∀ taken ∈ Execution.trace (step linkMdu socks) (new filterConfig link) acts,
      taken.1.filterConfig = filterConfig := by
  refine (Execution.run_history (fun past tunnel => tunnel.filterConfig = filterConfig ∧
    ∀ taken ∈ past, taken.1.filterConfig = filterConfig) ?_ ⟨rfl, by simp⟩ execution).2
  rintro past before act after ⟨same, earlier⟩ taken
  refine ⟨(filterConfig_step taken).trans same, fun step member => ?_⟩
  rcases List.mem_append.mp member with old | now
  · exact earlier step old
  · obtain rfl := List.mem_singleton.mp now
    exact same

/-- The steps of a session task are the same in the run of the tunnel and in that of its end. -/
theorem taskAct_actAt (side : Side) (chan : ChanId) (tunnel : Tunnel) (act : TunnelAct) :
    (tunnel.actAt side act).bind (Endpoint.taskAct chan) = taskAct side chan act := by
  cases act with
  | session other owner act =>
      by_cases same : other = side <;> simp [actAt, taskAct, Endpoint.taskAct, same]
  | sender other act =>
      by_cases same : other = side <;> simp [actAt, taskAct, same, Endpoint.taskAct]
  | nextSessionId => cases side <;> rfl
  | accept listener sid => cases side <;> rfl
  | deliver other =>
      by_cases same : other = side
      · cases arrives : (tunnel.ends side.peer).mux.wire[(tunnel.inbound side).delivered]? <;>
          simp [actAt, taskAct, same, arrives, Endpoint.taskAct]
      · simp [actAt, taskAct, same]
  | handle other =>
      by_cases same : other = side
      · cases decoded : (tunnel.inbound side).pending.head? with
        | none => simp [actAt, taskAct, same, decoded]
        | some frame =>
            cases reacts : side.reaction tunnel.filterConfig frame with
            | none => simp [actAt, taskAct, same, decoded, reacts]
            | some made => simp [actAt, taskAct, same, decoded, reacts, taskAct_reaction reacts]
      · simp [actAt, taskAct, same]

theorem sessionActs_of_run
    (execution : Execution.run (step linkMdu socks) (new filterConfig link) acts = some tunnel)
    (side : Side) (chan : ChanId) :
    (actsAt side (Execution.trace (step linkMdu socks) (new filterConfig link) acts)).filterMap
        (Endpoint.taskAct chan) = sessionActs side chan acts := by
  rw [actsAt, List.filterMap_filterMap, sessionActs]
  conv_rhs => rw [← Execution.trace_map_snd execution]
  rw [List.filterMap_map]
  exact List.filterMap_congr fun taken _ => taskAct_actAt side chan taken.1 taken.2

/-! ## Where the sessions come from -/

/-- What a session task is spawned for: a connection that was accepted, or a CONNECT frame that was
handled. -/
def Begins (filterConfig : FilterConfig) (acts : List TunnelAct) (handled : List Frame)
    (start : Start) (sid : UInt32) : Side → Prop
  | .client => ∃ listener, start = listener.start ∧ .accept listener sid ∈ acts
  | .server => ∃ frame ∈ handled, frame.frameType = .connect ∧ frame.sessionId = sid ∧
      Server.starts filterConfig frame = some start

theorem begins_of_actAt {side : Side} {act : TunnelAct} {start : Start} {sid : UInt32}
    (spawns : tunnel.actAt side act = some (.spawn start sid)) :
    Begins tunnel.filterConfig [act] (tunnel.handles side act).toList start sid side := by
  cases act with
  | session other chan act => simp [actAt] at spawns
  | sender other act => simp [actAt] at spawns
  | nextSessionId => simp [actAt] at spawns
  | accept listener other =>
      simp only [actAt, Option.ite_none_right_eq_some, Option.some.injEq,
        EndpointAct.spawn.injEq] at spawns
      obtain ⟨rfl, rfl, rfl⟩ := spawns
      exact ⟨listener, rfl, by simp⟩
  | deliver other => simp [actAt] at spawns
  | handle other =>
      simp only [actAt, Option.ite_none_right_eq_some, Option.bind_eq_some_iff] at spawns
      obtain ⟨rfl, frame, decoded, reacts⟩ := spawns
      cases other with
      | client => simp [Side.reaction] at reacts
      | server =>
          have opened := Server.opens_onFrame tunnel.filterConfig frame
          rw [show Server.onFrame tunnel.filterConfig frame = some (.spawn start sid) from reacts]
            at opened
          have opened : some (sid, some start) =
              if frame.frameType = .connect then
                some (frame.sessionId, Server.starts tunnel.filterConfig frame) else none := opened
          split_ifs at opened with connects
          obtain ⟨rfl, starts⟩ := Prod.mk.inj (Option.some.inj opened)
          exact ⟨frame, by simp [handles, decoded], connects, rfl, starts.symm⟩

theorem origin_of_run
    (execution : Execution.run (step linkMdu socks) (new filterConfig link) acts = some tunnel)
    {side : Side} {chan : ChanId} {task : Task}
    (found : (tunnel.ends side).tasks chan = some task) :
    ∃ start, Begins filterConfig acts (tunnel.inbound side).handled start task.sid side ∧
      Execution.run (Task.advance socks) (Task.spawn start task.sid)
        (sessionActs side chan acts) = some task := by
  obtain ⟨_, accounted⟩ := Endpoint.accounted_of_run (run_actsAt execution side)
  obtain ⟨start, listed, own⟩ := accounted.task chan task found
  have own_acts := sessionActs_of_run execution side chan
  refine ⟨start, ?_, by simpa [← own_acts, List.filterMap_cons, Endpoint.taskAct] using own⟩
  have member := List.mem_of_getElem? listed
  simp only [List.filterMap_cons, Endpoint.spawned, actsAt, List.filterMap_filterMap,
    List.mem_filterMap, Option.bind_eq_some_iff] at member
  obtain ⟨⟨earlier, act⟩, taken, endpointAct, made, spawns⟩ := member
  obtain rfl : endpointAct = .spawn start task.sid := by
    cases endpointAct <;> simp_all [Endpoint.spawned]
  have begins := begins_of_actAt made
  rw [filterConfig_of_run execution _ taken] at begins
  have performed : act ∈ acts := by
    rw [← Execution.trace_map_snd execution]
    exact List.mem_map_of_mem taken
  cases side with
  | client =>
      obtain ⟨listener, same, accepts⟩ := begins
      obtain rfl := List.mem_singleton.mp accepts
      exact ⟨listener, same, performed⟩
  | server =>
      obtain ⟨frame, handled, rest⟩ := begins
      refine ⟨frame, ?_, rest⟩
      rw [handled_of_run execution]
      exact List.mem_filterMap.mpr ⟨_, taken, Option.mem_toList.mp handled⟩

end Runs

end Tunnel

end RnsProxy
