import RnsProxy.CleanCut
import RnsProxy.SessionIds
import RnsProxy.Settling

/-!
# The sessions of a lost link

A client that has lost its link clears its session table and establishes another link. The session
tasks are told nothing. Each of them finds out by itself, when its channel yields no more frames,
and ends, with whatever it was waiting for: what it still sends is taken by the link sender.
-/

namespace RnsProxy

/-! ## What a link sender has left to do -/

/-- The steps a link sender may still take before it is idle. -/
def LinkSender.unsent (linkMdu : ℕ+) : LinkSender → ℕ
  | idle => 0
  | picked out => 2 + (linkChunks linkMdu out.frame).length
  | sending _ _ rest => 1 + rest.length
  | failed _ _ => 1

/-- The steps it may still take before its queue is empty, too. -/
def Mux.unsent (linkMdu : ℕ+) (mux : Mux) : ℕ :=
  (mux.dataSenderBuf.map fun out => 3 + (linkChunks linkMdu out.frame).length).sum +
    mux.sender.unsent linkMdu

namespace Endpoint

variable {linkMdu : ℕ+} {socks : FastSocks5} {ep next : Endpoint} {act : EndpointAct}
  {chan : ChanId} {task : Task}

/-- The session on the channel is not registered, so that its channel takes no more frames. -/
structure CutOff (ep : Endpoint) (chan : ChanId) (task : Task) : Prop where
  /-- The task of the session. -/
  found : ep.tasks chan = some task
  /-- It is not registered. -/
  unregistered : ep.mux.sessions task.sid ≠ some chan

theorem CutOff.step (cutOff : ep.CutOff chan task) (well : WellFormed ep)
    (taken : Step linkMdu socks ep act next) :
    ∃ after, next.CutOff chan after ∧ after.sid = task.sid := by
  have unregistered (other : ∀ start sid, act ≠ .spawn start sid) :
      next.mux.sessions task.sid ≠ some chan := fun registered =>
    cutOff.unregistered (taken.sessions_of_some other registered)
  cases taken with
  | @session held owner act before after effect mux owned moved performs =>
      have unregistered := unregistered (by simp)
      by_cases same : chan = owner
      · subst same
        obtain rfl := Option.some.inj (cutOff.found.symm.trans owned)
        have same_sid := moved.identity.1
        exact ⟨after, ⟨by simp, same_sid ▸ unregistered⟩, same_sid⟩
      · exact ⟨task, ⟨by simpa [same] using cutOff.found, unregistered⟩, rfl⟩
  | @spawn start sid =>
      refine ⟨task, ⟨well.tasks_spawn cutOff.found, ?_⟩, rfl⟩
      have other := well.ne_nextChan cutOff.found
      by_cases same : task.sid = sid
      · simpa [Mux.registerSession, same] using Ne.symm other
      · simpa [Mux.registerSession, same] using cutOff.unregistered
  | _ => exact ⟨task, ⟨cutOff.found, unregistered (by simp)⟩, rfl⟩

end Endpoint

/-! ## What a client does with them -/

namespace Client

/-- The steps of the link sender, and those of a session that take nothing in. -/
inductive Settles (chan : ChanId) : ClientAct → Prop
  | sender {act} : Settles chan (.sender act)
  | session {act} (settles : act.Settles) : Settles chan (.session chan act)

variable {linkMdu : ℕ+} {socks : FastSocks5} {link : LinkId} {listeners : List Listener}
  {client next : Client} {act : ClientAct} {chan : ChanId} {task : Task}

/-- A session that has been cut off in a client a run has reached. -/
structure LeftBehind (linkMdu : ℕ+) (socks : FastSocks5) (link : LinkId)
    (listeners : List Listener) (chan : ChanId) (sid : UInt32) (client : Client) : Prop where
  /-- The client is the result of a run. -/
  reachable : Execution.Reachable (step linkMdu socks) (new link listeners) client
  /-- The session has been cut off. -/
  cutOff : ∃ task, client.endpoint.CutOff chan task ∧ task.sid = sid

/-- Whatever the client does, the session stays cut off. -/
theorem LeftBehind.step {sid : UInt32}
    (left : LeftBehind linkMdu socks link listeners chan sid client)
    (taken : client.step linkMdu socks act = some next) :
    LeftBehind linkMdu socks link listeners chan sid next := by
  refine ⟨left.reachable.tail taken, ?_⟩
  obtain ⟨task, cutOff, same_sid⟩ := left.cutOff
  cases step_cases taken with
  | control controlled =>
      rw [(control_cases controlled).endpoint]
      exact ⟨task, cutOff, same_sid⟩
  | endpoint _ stepped =>
      have well := Endpoint.wellFormed_of_reachable (endpoint_reachable left.reachable)
      obtain ⟨after, later, same⟩ := cutOff.step well (Endpoint.step_cases stepped)
      exact ⟨after, later, same.trans same_sid⟩

end Client

end RnsProxy
