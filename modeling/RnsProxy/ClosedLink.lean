import RnsProxy.Mediation
import RnsProxy.SessionTable
import RnsProxy.Stages

/-!
# Sessions of a closed link

When a link goes down the server drops the handle of its multiplexer. The session tasks hold clones
of that handle, the handle owns the session table, and the table owns the senders of the channels
the tasks wait on: a session that is registered at that moment keeps its own channel open. This
file determines the runs in which no session of a closed link has an open receiver.
-/

namespace RnsProxy

namespace Endpoint

/-- No session whose receiver is still held is registered. -/
def ReceiversClosed (ep : Endpoint) : Prop :=
  ∀ chan task, ep.tasks chan = some task → task.holdsReceiver = true →
    ep.mux.sessions task.sid ≠ some chan

variable {linkMdu : ℕ+} {socks : FastSocks5} {ep next : Endpoint} {act : EndpointAct}

/-- No task spawns its relay before its session is established. -/
def SpawnsInTime (ep : Endpoint) : Prop :=
  ∀ chan task, ep.tasks chan = some task → task.SpawnsInTime

theorem spawnsInTime_of_reachable (reachable : Execution.Reachable (step linkMdu socks) new ep) :
    SpawnsInTime ep := by
  refine reachable.invariant ?_ fun before act after each taken => ?_
  · intro chan task found
    simp [new] at found
  · exact (step_cases taken).forall_tasks each
      (fun start sid _ => Task.spawnsInTime_spawn start sid)
      fun _ _ _ _ inTime taken => inTime.step taken

theorem ReceiversClosed.step (closed : ReceiversClosed ep)
    (inTime : SpawnsInTime ep)
    (taken : Step linkMdu socks ep act next) (not_spawn : ∀ start sid, act ≠ .spawn start sid) :
    ReceiversClosed next := by
  intro chan task found holds registered
  cases taken with
  | @session held owner act before after effect mux owned taken performs =>
      have registered_before := performs.sessions_of_some registered
      rcases update_some_cases found with ⟨rfl, rfl⟩ | ⟨_, found⟩
      · rw [taken.identity.1] at registered_before
        exact closed chan before owned (taken.holdsReceiver_of (inTime chan before owned) holds)
          registered_before
      · exact closed chan task found holds registered_before
  | @spawn start sid => exact not_spawn start sid rfl
  | @dispatch frame =>
      obtain ⟨channels, same⟩ := ep.mux.dispatch_frame frame
      rw [same] at registered
      exact closed chan task found holds registered
  | sender taken =>
      obtain ⟨linkId, dataSenderBuf, sender, wire, handed, rfl⟩ := taken.frame
      exact closed chan task found holds registered
  | resetSessions => simp [Mux.resetSessions] at registered
  | _ => exact closed chan task found holds registered

end Endpoint

namespace Server

/-- `session_rx.recv()` waits for more frames once those in the channel are read: some task of the
session holds the receiver, and the sender is registered in a table that still exists. -/
def ReceiverOpen (server : Server) (muxId : MuxId) (chan : ChanId) (task : Task) : Prop :=
  task.holdsReceiver = true ∧
    (server.muxes muxId).senderLives (server.held muxId) chan task.sid = true

/-- No session of a multiplexer that was removed because its link was closed has an open
receiver. A multiplexer that a second `LinkEstablished` of its link has replaced in the table is not
among those. -/
def ClosedLinksEnd (server : Server) : Prop :=
  ∀ muxId ∈ server.closed, ∀ chan task, (server.muxes muxId).tasks chan = some task →
    ¬ server.ReceiverOpen muxId chan task

/-- A link whose closing is processed has no registered session left whose receiver is held. -/
def ClosesIdleLink (server : Server) (act : ServerAct) : Prop :=
  ∀ link muxId, act = .event (.linkClosed link) → server.linkMuxes link = some muxId →
    (server.muxes muxId).ReceiversClosed

/-- What every run of the server keeps. -/
structure Steady (linkMdu : ℕ+) (socks : FastSocks5) (server : Server) : Prop where
  /-- Every session task is one of the server. -/
  filtered : server.Filtered
  /-- The tables agree. -/
  well : WellFormed linkMdu socks server
  /-- The session tables hold only live sessions. -/
  live : ∀ muxId, (server.muxes muxId).HoldsOnlyLive

section Steps

variable {linkMdu : ℕ+} {socks : FastSocks5} {filterConfig : FilterConfig} {server next : Server}
  {act : ServerAct}

/-- A handler of the server ends only after it has dropped its session. -/
theorem not_abandons_of_serves {config : FilterConfig} {task : Task} {act : TaskAct}
    (serves : task.pc.Serves config) : ¬ task.Abandons act := by
  simp only [Task.Abandons]
  generalize task.pc = pc at *
  split <;> first | exact serves.elim | exact id

theorem Steady.step (steady : Steady linkMdu socks server)
    (taken : Step linkMdu socks server act next) : Steady linkMdu socks next := by
  refine ⟨steady.filtered.step taken, steady.well.step taken, ?_⟩
  refine taken.forall_endpoints steady.live (fun link => Endpoint.holdsOnlyLive_new)
    fun muxId act ep stepped _ => ?_
  refine (steady.live muxId).step (Endpoint.wellFormed_of_reachable (steady.well.endpoint muxId))
    (Endpoint.step_cases stepped) ?_
  rintro held chan taskAct task rfl found abandons
  exact absurd abandons (not_abandons_of_serves (steady.filtered muxId chan task found).pc)

theorem steady_new : Steady linkMdu socks (new filterConfig) where
  filtered _ _ _ found := by simp [new, Endpoint.new] at found
  well := wellFormed_new filterConfig
  live _ := Endpoint.holdsOnlyLive_new

/-- A session that is registered has a task that holds the multiplexer. -/
theorem Steady.tasksHold (steady : Steady linkMdu socks server) {muxId : MuxId} {sid : UInt32}
    {chan : ChanId} (registered : (server.muxes muxId).mux.sessions sid = some chan) :
    tasksHold (server.muxes muxId) = true := by
  obtain ⟨task, found, _, running⟩ := steady.live muxId sid chan registered
  have created : chan < (server.muxes muxId).mux.nextChan := by
    by_contra unused
    have absent := (Endpoint.wellFormed_of_reachable (steady.well.endpoint muxId)).unused chan
      (not_lt.mp unused)
    simp [found] at absent
  rw [Server.tasksHold, List.any_eq_true]
  exact ⟨chan, List.mem_range.mpr created, by simp [found, Task.holdsMux, running]⟩

/-- For a multiplexer that the table and the event loop have let go, only its session tasks
count. -/
theorem Steady.receiverOpen_iff (steady : Steady linkMdu socks server) {muxId : MuxId}
    {chan : ChanId} {task : Task} :
    server.ReceiverOpen muxId chan task ↔
      task.holdsReceiver = true ∧ (server.muxes muxId).mux.sessions task.sid = some chan := by
  rw [ReceiverOpen, Endpoint.senderLives, Bool.and_eq_true, beq_iff_eq]
  refine and_congr_right fun _ => and_iff_right_of_imp fun registered => ?_
  simp [held, steady.tasksHold registered]

theorem Steady.closedLinksEnd_iff_receiversClosed (steady : Steady linkMdu socks server) :
    server.ClosedLinksEnd ↔ ∀ muxId ∈ server.closed, (server.muxes muxId).ReceiversClosed := by
  refine forall₂_congr fun muxId removed => forall₃_congr fun chan task found => ?_
  rw [steady.receiverOpen_iff, not_and]

theorem Steady.receiversClosed (steady : Steady linkMdu socks server) {muxId : MuxId}
    (removed : muxId ∈ server.closed) (closed : (server.muxes muxId).ReceiversClosed)
    (taken : Step linkMdu socks server act next) : (next.muxes muxId).ReceiversClosed := by
  have inTime := Endpoint.spawnsInTime_of_reachable (steady.well.endpoint muxId)
  obtain ⟨used, unlisted⟩ := steady.well.closed muxId removed
  have updated : ∀ other act ep, (server.muxes other).step linkMdu socks act = some ep →
      (other = muxId → ∀ start sid, act ≠ .spawn start sid) →
      (Function.update server.muxes other ep muxId).ReceiversClosed := by
    intro other act ep stepped not_spawn
    by_cases same : muxId = other
    · subst same
      simpa using closed.step inTime (Endpoint.step_cases stepped) (not_spawn rfl)
    · simpa [same] using closed
  cases taken with
  | established => simpa [used.ne] using closed
  | data => exact updated _ (.receive _) _ rfl (by simp)
  | @frame handled frame rest act ep handling reaction taken =>
      apply updated handled act ep taken
      rintro rfl
      exact absurd (steady.well.handling handled _ handling) unlisted
  | session taken => exact updated _ _ _ taken (by simp)
  | sender taken => exact updated _ _ _ taken (by simp)
  | _ => exact closed

/-- Closing a link with no session left keeps the sessions of closed links ended. -/
theorem Steady.closedLinksEnd (steady : Steady linkMdu socks server)
    (ends : server.ClosedLinksEnd) (idle : ClosesIdleLink server act)
    (taken : Step linkMdu socks server act next) : next.ClosedLinksEnd := by
  rw [steady.closedLinksEnd_iff_receiversClosed] at ends
  rw [(steady.step taken).closedLinksEnd_iff_receiversClosed]
  have kept : ∀ muxId ∈ server.closed, (next.muxes muxId).ReceiversClosed :=
    fun muxId removed => steady.receiversClosed removed (ends muxId removed) taken
  cases taken with
  | @closed link =>
      intro muxId removed
      rcases List.mem_append.mp removed with old | new
      · exact kept muxId old
      · exact idle link muxId rfl (Option.mem_toList.mp new)
  | _ => exact kept

/-- Closing a link with a session left leaves that session with an open receiver. -/
theorem Steady.closesIdleLink (steady : Steady linkMdu socks server)
    (taken : Step linkMdu socks server act next) (ends : next.ClosedLinksEnd) :
    ClosesIdleLink server act := by
  rintro link muxId rfl listed
  rw [(steady.step taken).closedLinksEnd_iff_receiversClosed] at ends
  cases taken with
  | closed => exact ends muxId (by simp [listed])
  | ignored _ same =>
      have removed := congrFun (congrArg Server.linkMuxes same) link
      simp [onEvent, listed] at removed

end Steps

/-- No session of a closed link keeps an open receiver, throughout a run, exactly if every link
whose closing is processed has no registered session left. -/
theorem closedLinksEnd_iff {linkMdu : ℕ+} {socks : FastSocks5} {filterConfig : FilterConfig}
    {actions : List ServerAct} {final : Server}
    (execution : Execution.run (step linkMdu socks) (new filterConfig) actions = some final) :
    Execution.Always (step linkMdu socks) ClosedLinksEnd (new filterConfig) actions ↔
      Execution.Along (step linkMdu socks) ClosesIdleLink (new filterConfig) actions := by
  have start : Steady linkMdu socks (new filterConfig) ∧ (new filterConfig).ClosedLinksEnd :=
    ⟨steady_new, fun muxId removed => by simp [new] at removed⟩
  have strong_good : ∀ server : Server, Steady linkMdu socks server ∧ server.ClosedLinksEnd →
      server.ClosedLinksEnd := fun _ both => both.2
  refine Execution.always_iff_along strong_good ?_ ?_ start execution
  · rintro before act after ⟨steady, ends⟩ idle taken
    have taken := step_cases taken
    exact ⟨steady.step taken, steady.closedLinksEnd ends idle taken⟩
  · rintro before act after ⟨steady, ends⟩ taken ends_after
    exact steady.closesIdleLink (step_cases taken) ends_after

/-- A client opens a UDP session and its link goes down. -/
def linkLost : List ServerAct :=
  [.event (.linkEstablished 1 false),
    .event (.linkData 1 (Frame.encode ⟨.connect, 7, encodeConnectPayload "0.0.0.0" 0 true⟩)),
    .frame, .frame, .session 0 0 (.bound none), .session 0 0 .send, .event (.linkClosed 1)]

/-- The session goes on waiting for frames that can no longer come. -/
theorem not_closedLinksEnd_linkLost :
    ∃ final, Execution.run (step 431 .rfc1928) (new (serverConfig true true)) linkLost =
      some final ∧
      ¬ Execution.Always (step 431 .rfc1928) ClosedLinksEnd (new (serverConfig true true))
        linkLost := by
  have ends : ∃ final task,
      Execution.run (step 431 .rfc1928) (new (serverConfig true true)) linkLost = some final ∧
        final.closed = [0] ∧ (final.muxes 0).tasks 0 = some task ∧ final.ReceiverOpen 0 0 task :=
    ⟨_, _, rfl, rfl, rfl, rfl, rfl⟩
  obtain ⟨final, task, execution, closed, found, receiverOpen⟩ := ends
  refine ⟨final, execution, fun always => ?_⟩
  exact always.last execution 0 (by simp [closed]) 0 task found receiverOpen

/-- Before the link goes down the run is covered by the condition. -/
theorem closedLinksEnd_iff_linkLost_take :
    Execution.Always (step 431 .rfc1928) ClosedLinksEnd (new (serverConfig true true))
        (linkLost.take 6) ↔
      Execution.Along (step 431 .rfc1928) ClosesIdleLink (new (serverConfig true true))
        (linkLost.take 6) :=
  closedLinksEnd_iff (rfl : Execution.run (step 431 .rfc1928) (new (serverConfig true true))
    (linkLost.take 6) = some _)

end Server

end RnsProxy
