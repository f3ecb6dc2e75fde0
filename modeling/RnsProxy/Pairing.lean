import RnsProxy.OrderlyClose
import RnsProxy.Settling

/-!
# The two ends of a session

What is left to do for a session are the steps its two ends may still take, and the work with the
frames that have been sent at one end and not been taken at the other. Nothing adds to it but new
input at either end.
-/

namespace RnsProxy

/-- What the two ends of a session may still do, with the frames that neither has taken. -/
def pairWork (source sink : Task) : ℕ :=
  source.remaining + sink.remaining + (readWork source.sent - readWork sink.taken) +
    (readWork sink.sent - readWork source.taken)

theorem pairWork_comm (source sink : Task) : pairWork source sink = pairWork sink source := by
  simp only [pairWork]
  omega

namespace Tunnel

/-- Two tasks are the two ends of a session. -/
structure Paired (tunnel : Tunnel) (side : Side) (chan peerChan : ChanId) (source sink : Task) :
    Prop where
  /-- The task at one end. -/
  sends : (tunnel.ends side).tasks chan = some source
  /-- The task at the other end. -/
  receives : (tunnel.ends side.peer).tasks peerChan = some sink
  /-- They belong to one session. -/
  same_sid : sink.sid = source.sid

/-- The steps of the transport, and those of the two ends of a session that take nothing in. -/
inductive Settles (side : Side) (chan peerChan : ChanId) : TunnelAct → Prop
  | transports {act} (transports : act.Transports) : Settles side chan peerChan act
  | source {act} (settles : act.Settles) : Settles side chan peerChan (.session side chan act)
  | sink {act} (settles : act.Settles) :
      Settles side chan peerChan (.session side.peer peerChan act)

section Runs

variable {linkMdu : ℕ+} {socks : FastSocks5} {filterConfig : FilterConfig} {link : LinkId}
  {tunnel next : Tunnel} {side : Side} {chan peerChan : ChanId} {source sink : Task}

theorem regular_of_reachable
    (reachable : Execution.Reachable (step linkMdu socks) (new filterConfig link) tunnel)
    (side : Side) : (tunnel.ends side).Regular := by
  obtain ⟨acts, execution⟩ := reachable
  exact Endpoint.regular_of_reachable ⟨_, run_actsAt execution side⟩

theorem Paired.symm (paired : tunnel.Paired side chan peerChan source sink) :
    tunnel.Paired side.peer peerChan chan sink source :=
  ⟨paired.receives, by simpa using paired.sends, paired.same_sid.symm⟩

theorem Paired.readWork_le (paired : tunnel.Paired side chan peerChan source sink)
    (coherent : tunnel.Coherent) : readWork sink.taken ≤ readWork source.sent :=
  readWork_le_of_sublist
    ((coherent.taken_isPrefix paired.sends paired.receives paired.same_sid).sublist.trans
      List.filter_sublist)

theorem step_session_eq_none {taskAct : TaskAct} :
    tunnel.step linkMdu socks (.session side chan taskAct) = none ↔
      (tunnel.ends side).step linkMdu socks (.session true chan taskAct) = none :=
  Option.map_eq_none_iff

theorem sessionStep_cases {taskAct : TaskAct}
    (taken : tunnel.step linkMdu socks (.session side chan taskAct) = some next) :
    ∃ task after effect mux, (tunnel.ends side).tasks chan = some task ∧
      Task.Step socks task taskAct after effect ∧
      Endpoint.Performs (tunnel.ends side) true chan task.sid effect mux ∧
      next = tunnel.setEnd side
        { mux, tasks := Function.update (tunnel.ends side).tasks chan (some after) } := by
  obtain ⟨ep, stepped, rfl⟩ := Option.map_eq_some_iff.mp taken
  cases Endpoint.step_cases stepped with
  | session found moved performs => exact ⟨_, _, _, _, found, moved, performs, rfl⟩

theorem work_setEnd {effect : Effect} {sid : UInt32} {mux : Mux} (tasks : ChanId → Option Task)
    (performs : Endpoint.Performs (tunnel.ends side) true chan sid effect mux) :
    (tunnel.setEnd side { mux, tasks }).work linkMdu + readWork effect.frames =
      tunnel.work linkMdu + sentWork linkMdu effect.frames := by
  cases side with
  | client =>
      cases performs <;>
        simp [work, workTo, setEnd, Side.peer, Mux.work, Mux.dropSession, Effect.frames, sentWork]
      omega
  | server =>
      cases performs <;>
        simp [work, workTo, setEnd, Side.peer, Mux.work, Mux.dropSession, Effect.frames, sentWork]
      omega

theorem DistinctIds.setEnd (distinct : tunnel.DistinctIds) {mux : Mux} {task after : Task}
    (found : (tunnel.ends side).tasks chan = some task) (same_sid : after.sid = task.sid) :
    (tunnel.setEnd side
      { mux
        tasks := Function.update (tunnel.ends side).tasks chan (some after) }).DistinctIds := by
  cases side with
  | server => simpa [DistinctIds, Tunnel.setEnd] using distinct
  | client =>
      have kept : ∀ other later,
          Function.update (tunnel.ends .client).tasks chan (some after) other = some later →
          ∃ earlier, (tunnel.ends .client).tasks other = some earlier ∧
            later.sid = earlier.sid := by
        intro other later here
        rcases update_some_cases here with ⟨rfl, rfl⟩ | ⟨_, here⟩
        · exact ⟨task, found, same_sid⟩
        · exact ⟨later, here, rfl⟩
      intro first second later later' here there same
      simp only [Tunnel.setEnd, Function.update_self] at here there
      obtain ⟨earlier, found_earlier, sid⟩ := kept first later here
      obtain ⟨earlier', found_earlier', sid'⟩ := kept second later' there
      exact distinct first second earlier earlier' found_earlier found_earlier'
        (sid.symm.trans (same.trans sid'))

theorem Paired.sessionStep (paired : tunnel.Paired side chan peerChan source sink)
    (distinct : tunnel.DistinctIds) {act : TaskAct}
    (taken : tunnel.step linkMdu socks (.session side chan act) = some next) :
    ∃ after effect, Task.Step socks source act after effect ∧ next.DistinctIds ∧
      next.Paired side chan peerChan after sink ∧
      next.work linkMdu + readWork effect.frames =
        tunnel.work linkMdu + sentWork linkMdu effect.frames := by
  obtain ⟨task, after, effect, mux, found, moved, performs, rfl⟩ := sessionStep_cases taken
  obtain rfl := Option.some.inj (paired.sends.symm.trans found)
  have other : side.peer ≠ side := side.peer_ne
  refine ⟨after, effect, moved, distinct.setEnd found moved.identity.1, ⟨?_, ?_, ?_⟩,
    work_setEnd _ performs⟩
  · simp [setEnd]
  · simpa [setEnd, other] using paired.receives
  · exact paired.same_sid.trans moved.identity.1.symm

theorem Paired.work_lt (paired : tunnel.Paired side chan peerChan source sink)
    (reachable : Execution.Reachable (step linkMdu socks) (new filterConfig link) tunnel)
    (distinct : tunnel.DistinctIds) {act : TaskAct} (settles : act.Settles)
    (taken : tunnel.step linkMdu socks (.session side chan act) = some next) {after : Task}
    {effect : Effect} (moved : Task.Step socks source act after effect)
    (distinct_next : next.DistinctIds) (later : next.Paired side chan peerChan after sink)
    (work : next.work linkMdu + readWork effect.frames =
      tunnel.work linkMdu + sentWork linkMdu effect.frames) :
    next.work linkMdu + pairWork after sink < tunnel.work linkMdu + pairWork source sink := by
  have coherent := coherent_of_reachable reachable distinct
  have coherent_next := coherent_of_reachable (reachable.tail taken) distinct_next
  have regular := (regular_of_reachable reachable side).tasks chan source paired.sends
  have less := moved.remaining_lt linkMdu settles regular
  have sent : readWork after.sent = readWork source.sent + readWork effect.frames := by
    rw [moved.sent_eq, readWork_append]
  have taken : readWork after.taken = readWork source.taken + readWork effect.received := by
    rw [moved.taken_eq regular.inTime, readWork_append]
  have taken_le := later.symm.readWork_le coherent_next
  have taken_le_sent := paired.readWork_le coherent
  simp only [pairWork]
  omega

/-- The work with one session, besides that of the transport. -/
def sessionWork (side : Side) (chan peerChan : ChanId) (tunnel : Tunnel) : ℕ :=
  match (tunnel.ends side).tasks chan, (tunnel.ends side.peer).tasks peerChan with
  | some source, some sink => pairWork source sink
  | _, _ => 0

theorem Paired.sessionWork_eq (paired : tunnel.Paired side chan peerChan source sink) :
    sessionWork side chan peerChan tunnel = pairWork source sink := by
  simp [sessionWork, paired.sends, paired.receives]

/-- Two ends of a session stay the two ends of a session, and have less left to do. -/
theorem Paired.step (paired : tunnel.Paired side chan peerChan source sink)
    (reachable : Execution.Reachable (Tunnel.step linkMdu socks) (new filterConfig link) tunnel)
    (distinct : tunnel.DistinctIds) {act : TunnelAct} (settles : Settles side chan peerChan act)
    (taken : tunnel.step linkMdu socks act = some next) :
    next.DistinctIds ∧ ∃ source' sink', next.Paired side chan peerChan source' sink' ∧
      source.sent <+: source'.sent ∧
      next.work linkMdu + pairWork source' sink' < tunnel.work linkMdu + pairWork source sink := by
  cases settles with
  | transports transports =>
      have start : MovedOn linkMdu socks tunnel tunnel := ⟨.refl tunnel, fun _ _ _ => id, rfl⟩
      have draining := descends reachable distinct
      have falls := draining.falls tunnel act next start transports taken
      have moved := draining.kept tunnel act next start transports taken
      exact ⟨moved.distinctIds distinct, source, sink,
        ⟨moved.sessions side chan source paired.sends,
          moved.sessions side.peer peerChan sink paired.receives, paired.same_sid⟩,
        List.prefix_rfl, Nat.add_lt_add_right falls _⟩
  | source settles =>
      obtain ⟨after, effect, moved, distinct_next, later, work⟩ := paired.sessionStep distinct taken
      exact ⟨distinct_next, after, sink, later, moved.sent_eq ▸ List.prefix_append _ _,
        paired.work_lt reachable distinct settles taken moved distinct_next later work⟩
  | sink settles =>
      obtain ⟨after, effect, moved, distinct_next, later, work⟩ :=
        paired.symm.sessionStep distinct taken
      have less :=
        paired.symm.work_lt reachable distinct settles taken moved distinct_next later work
      rw [pairWork_comm after, pairWork_comm sink] at less
      exact ⟨distinct_next, source, after, by simpa using later.symm, List.prefix_rfl, less⟩

/-- A session in a tunnel a run has reached. -/
structure HasSession (linkMdu : ℕ+) (socks : FastSocks5) (filterConfig : FilterConfig)
    (link : LinkId) (side : Side) (chan peerChan : ChanId) (tunnel : Tunnel) : Prop where
  /-- The tunnel is the result of a run. -/
  reachable : Execution.Reachable (step linkMdu socks) (new filterConfig link) tunnel
  /-- Its sessions have ids of their own. -/
  distinct : tunnel.DistinctIds
  /-- The session has two ends. -/
  paired : ∃ source sink, tunnel.Paired side chan peerChan source sink

theorem descends_settles :
    Execution.Descends (step linkMdu socks) (Settles side chan peerChan)
      (HasSession linkMdu socks filterConfig link side chan peerChan)
      fun tunnel => tunnel.work linkMdu + sessionWork side chan peerChan tunnel where
  kept := by
    rintro before act after ⟨reachable, distinct, source, sink, paired⟩ settles taken
    obtain ⟨distinct_after, source', sink', later, _⟩ :=
      paired.step reachable distinct settles taken
    exact ⟨reachable.tail taken, distinct_after, source', sink', later⟩
  falls := by
    rintro before act after ⟨reachable, distinct, source, sink, paired⟩ settles taken
    obtain ⟨_, source', sink', later, _, less⟩ := paired.step reachable distinct settles taken
    rw [later.sessionWork_eq, paired.sessionWork_eq]
    exact less

end Runs

end Tunnel

end RnsProxy
