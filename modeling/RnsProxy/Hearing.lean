import RnsProxy.Admission
import RnsProxy.Coherence
import RnsProxy.Settling

/-!
# What the sessions of one end hear

An event loop hands the frames of its link to the sessions that are registered for them, and at the
server a CONNECT registers the session that hears the frames after it. This holds whatever becomes
of the link, of the handlers and of the session table: a session that has been dropped, replaced or
forgotten hears nothing any more, and what it has heard before is a beginning of what came for it.
-/

namespace RnsProxy

/-- The frame is a CONNECT for the session id. -/
def Frame.opens (sid : UInt32) (frame : Frame) : Bool :=
  frame.frameType == .connect && frame.sessionId == sid

theorem Frame.opens_eq_true {sid : UInt32} {frame : Frame} :
    frame.opens sid = true ↔ frame.frameType = .connect ∧ frame.sessionId = sid := by
  simp [Frame.opens]

namespace Endpoint

/-! ## One session in one step -/

/-- A session goes on without a frame being dispatched to it. -/
structure Continues (socks : FastSocks5) (ep next : Endpoint) (chan : ChanId) (task later : Task) :
    Prop where
  /-- It was there before. -/
  found : ep.tasks chan = some task
  /-- Its task has acted at most. -/
  own : ∃ acts, Execution.run (Task.advance socks) task acts = some later
  /-- It keeps its id. -/
  same_sid : later.sid = task.sid
  /-- What it takes, it takes from its channel. -/
  inbox : next.inbox chan later = ep.inbox chan task
  /-- It is not registered again. -/
  registered : next.mux.sessions task.sid = some chan → ep.mux.sessions task.sid = some chan

section Steps

variable {linkMdu : ℕ+} {socks : FastSocks5} {ep next : Endpoint} {act : EndpointAct}
  {chan : ChanId} {task later : Task}

theorem Continues.of_same (found : next.tasks chan = some task) (tasks : next.tasks = ep.tasks)
    (channels : next.mux.channels = ep.mux.channels)
    (registered : next.mux.sessions task.sid = some chan → ep.mux.sessions task.sid = some chan) :
    Continues socks ep next chan task task :=
  ⟨tasks ▸ found, ⟨[], rfl⟩, rfl, by simp [Endpoint.inbox, channels], registered⟩

theorem Continues.session (regular : ep.Regular) {held : Bool} {owner : ChanId} {taskAct : TaskAct}
    {before after : Task} {effect : Effect} {mux : Mux} (owned : ep.tasks owner = some before)
    (taken : before.step socks taskAct = some (after, effect))
    (performs : Performs ep held owner before.sid effect mux)
    (found : Function.update ep.tasks owner (some after) chan = some later) :
    ∃ task, Continues socks ep { mux, tasks := Function.update ep.tasks owner (some after) } chan
      task later := by
  obtain ⟨received, others⟩ := performs.received_append
  have moved := Task.step_cases taken
  rcases update_some_cases found with ⟨rfl, rfl⟩ | ⟨same, found⟩
  · refine ⟨before, owned, ⟨[taskAct], ?_⟩, moved.identity.1, ?_, performs.sessions_of_some⟩
    · simp [Execution.run_cons, Task.advance, taken]
    · have inTime := (regular.tasks chan before owned).inTime
      simp [Endpoint.inbox, moved.taken_eq inTime, ← received]
  · exact ⟨later, found, ⟨[], rfl⟩, rfl, by simp [Endpoint.inbox, others chan same],
      performs.sessions_of_some⟩

/-- Beside `register_session` and `dispatch` nothing concerns what a session hears. -/
theorem continues_of_step (regular : ep.Regular) (taken : ep.step linkMdu socks act = some next)
    (not_spawned : ∀ start sid, act ≠ .spawn start sid)
    (not_dispatched : ∀ frame, act ≠ .dispatch frame) (found : next.tasks chan = some later) :
    ∃ task, Continues socks ep next chan task later := by
  cases act with
  | session held owner taskAct =>
      simp only [Endpoint.step] at taken
      split at taken
      · split at taken
        · obtain ⟨mux, performed, rfl⟩ := Option.map_eq_some_iff.mp taken
          exact Continues.session regular ‹_› ‹_› (perform_cases performed) found
        · cases taken
      · cases taken
  | spawn start sid => exact absurd rfl (not_spawned start sid)
  | dispatch frame => exact absurd rfl (not_dispatched frame)
  | refuse sid =>
      obtain ⟨mux, sent, rfl⟩ := Option.map_eq_some_iff.mp taken
      obtain ⟨_, rfl⟩ := Mux.sendFrame_eq_some.mp sent
      exact ⟨later, Continues.of_same found rfl rfl id⟩
  | sender senderAct =>
      obtain ⟨mux, stepped, rfl⟩ := Option.map_eq_some_iff.mp taken
      obtain ⟨linkId, dataSenderBuf, sender, wire, handed, rfl⟩ :=
        (Mux.senderStep_cases stepped).frame
      exact ⟨later, Continues.of_same found rfl rfl id⟩
  | resetSessions =>
      cases taken
      exact ⟨later, Continues.of_same found rfl rfl (by simp [Mux.resetSessions])⟩
  | _ =>
      cases taken
      exact ⟨later, Continues.of_same found rfl rfl id⟩

theorem continues_of_spawn {start : Start} {sid : UInt32}
    (taken : ep.step linkMdu socks (.spawn start sid) = some next)
    (found : next.tasks chan = some later) :
    chan = ep.mux.nextChan ∧ later = Task.spawn start sid ∧ next.inbox chan later = [] ∨
      Continues socks ep next chan later later := by
  cases taken
  rcases update_some_cases found with ⟨rfl, rfl⟩ | ⟨other, found⟩
  · refine .inl ⟨rfl, rfl, ?_⟩
    simp [Endpoint.inbox, Task.taken, Task.spawn, Mux.registerSession]
  · have other : chan ≠ ep.mux.nextChan := other
    refine .inr ⟨found, ⟨[], rfl⟩, rfl, ?_, fun registered => ?_⟩
    · simp [Endpoint.inbox, Mux.registerSession, other]
    · by_cases same : later.sid = sid
      · have replaced : ep.mux.nextChan = chan := by
          simpa [Mux.registerSession, same] using registered
        exact absurd replaced.symm other
      · simpa [Mux.registerSession, same] using registered

/-- A frame is dispatched: the session that is registered for it hears it, and no other. -/
theorem inbox_dispatch (well : WellFormed ep) (frame : Frame) (found : ep.tasks chan = some task) :
    (ep.mux.sessions task.sid = some chan ∧ frame.sessionId = task.sid ∧
      inbox { ep with mux := ep.mux.dispatch frame } chan task = ep.inbox chan task ++ [frame]) ∨
      (ep.mux.sessions task.sid = some chan → frame.sessionId ≠ task.sid) ∧
        inbox { ep with mux := ep.mux.dispatch frame } chan task = ep.inbox chan task := by
  cases registered : ep.mux.sessions frame.sessionId with
  | none =>
      have same : ep.mux.dispatch frame = ep.mux := by simp [Mux.dispatch, registered]
      refine .inr ⟨fun own same_sid => ?_, by rw [same]⟩
      simp [same_sid, own] at registered
  | some owner =>
      obtain ⟨owns, found_owner, owner_sid⟩ := well.registered _ _ registered
      have same : ep.mux.dispatch frame =
          { ep.mux with
            channels :=
              Function.update ep.mux.channels owner (ep.mux.channels owner ++ [frame]) } := by
        simp [Mux.dispatch, registered]
      rw [same]
      by_cases at_chan : chan = owner
      · subst at_chan
        obtain rfl := Option.some.inj (found.symm.trans found_owner)
        exact .inl ⟨owner_sid ▸ registered, owner_sid.symm, by simp [Endpoint.inbox]⟩
      · refine .inr ⟨fun own same_sid => ?_, by simp [Endpoint.inbox, at_chan]⟩
        rw [same_sid, own] at registered
        exact at_chan (Option.some.inj registered)

end Steps

/-! ## A session of the server -/

/-- A session of the server was spawned for a CONNECT, and has heard what came for it since. -/
structure Heard (socks : FastSocks5) (filterConfig : FilterConfig) (ep : Endpoint)
    (handled : List Frame) (chan : ChanId) (task : Task) (connect : Frame) (since : List Frame) :
    Prop where
  /-- The frames that were handled after its CONNECT. -/
  split : ∃ earlier, handled = earlier ++ connect :: since
  /-- It was spawned for a CONNECT with its id. -/
  opens : connect.opens task.sid = true
  /-- It does what the CONNECT asks for. -/
  own : ∃ start acts, Server.starts filterConfig connect = some start ∧
    Execution.run (Task.advance socks) (Task.spawn start task.sid) acts = some task
  /-- It has heard a beginning of what came for it. -/
  isPrefix : ep.inbox chan task <+: Side.server.dispatched task.sid since
  /-- It has heard everything as long as it is registered. -/
  registered : ep.mux.sessions task.sid = some chan →
    ep.inbox chan task = Side.server.dispatched task.sid since

/-- What the sessions of one of the server's multiplexers have heard of the frames that were
handled for it. -/
structure Hearing (socks : FastSocks5) (filterConfig : FilterConfig) (ep : Endpoint)
    (handled : List Frame) : Prop where
  /-- Every session goes back to a CONNECT. -/
  heard : ∀ chan task, ep.tasks chan = some task →
    ∃ connect since, Heard socks filterConfig ep handled chan task connect since
  /-- Two sessions with one id go back to two of them. -/
  twice : ∀ chan other task task', ep.tasks chan = some task → ep.tasks other = some task' →
    task.sid = task'.sid → chan ≠ other → 2 ≤ handled.countP (Frame.opens task.sid)
  /-- A session is refused only where it was asked for in vain. -/
  refused : ∀ out ∈ ep.mux.log, out.origin = none →
    ∃ connect ∈ handled, connect.opens out.frame.sessionId = true ∧
      Server.starts filterConfig connect = none

section Steps

variable {linkMdu : ℕ+} {socks : FastSocks5} {filterConfig : FilterConfig} {ep next : Endpoint}
  {act : EndpointAct} {handled : List Frame} {chan : ChanId} {task later : Task} {frame : Frame}
  {connect : Frame} {since : List Frame}

theorem hearing_new (link : LinkId) :
    Hearing socks filterConfig { new with mux := Mux.new.setLinkId link } [] where
  heard chan task found := by simp [new] at found
  twice chan other task task' found := by simp [new] at found
  refused out member := by simp [Mux.new, Mux.setLinkId] at member

theorem Hearing.count_pos (hearing : Hearing socks filterConfig ep handled)
    (found : ep.tasks chan = some task) : 0 < handled.countP (Frame.opens task.sid) := by
  obtain ⟨connect, since, heard⟩ := hearing.heard chan task found
  obtain ⟨earlier, rfl⟩ := heard.split
  exact List.countP_pos_iff.mpr ⟨connect, by simp, heard.opens⟩

/-- A session goes on, while a frame is handled that is not dispatched. -/
theorem Heard.continues (heard : Heard socks filterConfig ep handled chan task connect since)
    (continues : Continues socks ep next chan task later) {more : List Frame}
    (rejected : ∀ frame ∈ more, Side.server.admits frame = false) :
    Heard socks filterConfig next (handled ++ more) chan later connect (since ++ more) := by
  have same : Side.server.dispatched later.sid (since ++ more) =
      Side.server.dispatched task.sid since := by
    have nothing : (framesOf task.sid more).filter Side.server.admits = [] := by
      rw [List.filter_eq_nil_iff]
      intro frame member
      simp [rejected frame (mem_framesOf.mp member).1]
    rw [continues.same_sid, Side.dispatched, framesOf_append, List.filter_append, nothing,
      List.append_nil]
    rfl
  obtain ⟨earlier, split⟩ := heard.split
  obtain ⟨start, acts, starts, own⟩ := heard.own
  obtain ⟨made, run⟩ := continues.own
  refine ⟨⟨earlier, by simp [split]⟩, continues.same_sid ▸ heard.opens,
    ⟨start, acts ++ made, starts, ?_⟩, ?_, fun registered => ?_⟩
  · rw [continues.same_sid]
    exact Execution.run_append_eq_some.mpr ⟨task, own, run⟩
  · rw [same, continues.inbox]
    exact heard.isPrefix
  · rw [same, continues.inbox]
    rw [continues.same_sid] at registered
    exact heard.registered (continues.registered registered)

/-- Whatever an endpoint does beside registering and dispatching, while a frame is handled that is
neither. -/
theorem Hearing.continues (hearing : Hearing socks filterConfig ep handled) (regular : ep.Regular)
    (taken : ep.step linkMdu socks act = some next)
    (not_spawned : ∀ start sid, act ≠ .spawn start sid)
    (not_dispatched : ∀ frame, act ≠ .dispatch frame) {more : List Frame}
    (rejected : ∀ frame ∈ more, Side.server.admits frame = false)
    (refuses : ∀ sid, act = .refuse sid → ∃ connect ∈ more, connect.opens sid = true ∧
      Server.starts filterConfig connect = none) :
    Hearing socks filterConfig next (handled ++ more) where
  heard chan later found := by
    obtain ⟨task, continues⟩ :=
      continues_of_step regular taken not_spawned not_dispatched found
    obtain ⟨connect, since, heard⟩ := hearing.heard chan task continues.found
    exact ⟨connect, since ++ more, heard.continues continues rejected⟩
  twice chan other later later' found found' same apart := by
    obtain ⟨task, continues⟩ :=
      continues_of_step regular taken not_spawned not_dispatched found
    obtain ⟨task', continues'⟩ :=
      continues_of_step regular taken not_spawned not_dispatched found'
    rw [continues.same_sid, continues'.same_sid] at same
    rw [continues.same_sid, List.countP_append]
    exact (hearing.twice chan other task task' continues.found continues'.found same apart).trans
      (Nat.le_add_right _ _)
  refused out member origin := by
    have old_or_new : out ∈ ep.mux.log ∨ ∃ sid, act = .refuse sid ∧ out.frame.sessionId = sid := by
      cases step_cases taken with
      | session found moved performs =>
          rw [performs.log_eq, List.mem_append, List.mem_map] at member
          rcases member with old | ⟨frame, _, rfl⟩
          · exact .inl old
          · cases origin
      | @refuse sid =>
          rcases List.mem_append.mp member with old | new
          · exact .inl old
          · exact .inr ⟨sid, rfl, by rw [List.mem_singleton.mp new]; rfl⟩
      | dispatch => exact absurd rfl (not_dispatched _)
      | sender moved =>
          obtain ⟨linkId, dataSenderBuf, sender, wire, handed, rfl⟩ := moved.frame
          exact .inl member
      | _ => exact .inl member
    rcases old_or_new with old | ⟨sid, refuses_sid, rfl⟩
    · obtain ⟨connect, known, opens⟩ := hearing.refused out old origin
      exact ⟨connect, List.mem_append_left _ known, opens⟩
    · obtain ⟨connect, known, opens⟩ := refuses _ refuses_sid
      exact ⟨connect, List.mem_append_right _ known, opens⟩

/-- No frame is handled. -/
theorem Hearing.goes_on (hearing : Hearing socks filterConfig ep handled) (regular : ep.Regular)
    (taken : ep.step linkMdu socks act = some next)
    (not_spawned : ∀ start sid, act ≠ .spawn start sid)
    (not_dispatched : ∀ frame, act ≠ .dispatch frame) (not_refused : ∀ sid, act ≠ .refuse sid) :
    Hearing socks filterConfig next handled := by
  rw [← List.append_nil handled]
  exact hearing.continues regular taken not_spawned not_dispatched (by simp)
    fun sid refuses => absurd refuses (not_refused sid)

theorem Hearing.spawn (hearing : Hearing socks filterConfig ep handled) {start : Start}
    (connects : frame.frameType = .connect)
    (starts : Server.starts filterConfig frame = some start)
    (taken : ep.step linkMdu socks (.spawn start frame.sessionId) = some next) :
    Hearing socks filterConfig next (handled ++ [frame]) := by
  have opens : frame.opens frame.sessionId = true := Frame.opens_eq_true.mpr ⟨connects, rfl⟩
  have rejected : ∀ other ∈ [frame], Side.server.admits other = false := by
    simp [Side.admits, connects]
  have counted (sid : UInt32) (same : sid = frame.sessionId) (some_task : 0 < handled.countP
      (Frame.opens sid)) : 2 ≤ (handled ++ [frame]).countP (Frame.opens sid) := by
    subst same
    rw [List.countP_append, List.countP_singleton, if_pos opens]
    omega
  refine ⟨fun chan later found => ?_, fun chan other later later' found found' same apart => ?_,
    fun out member origin => ?_⟩
  · rcases continues_of_spawn taken found with ⟨rfl, rfl, empty⟩ | continues
    · refine ⟨frame, [], ⟨handled, rfl⟩, opens, ⟨start, [], starts, rfl⟩, ?_, fun _ => ?_⟩
      · rw [empty]
        exact List.nil_prefix
      · rw [empty]
        rfl
    · obtain ⟨connect, since, heard⟩ := hearing.heard chan later continues.found
      exact ⟨connect, since ++ [frame], heard.continues continues rejected⟩
  · rcases continues_of_spawn taken found with ⟨rfl, rfl, _⟩ | continues <;>
      rcases continues_of_spawn taken found' with ⟨rfl, rfl, _⟩ | continues'
    · exact absurd rfl apart
    · exact counted _ rfl (same.symm ▸ hearing.count_pos continues'.found)
    · exact counted _ same (hearing.count_pos continues.found)
    · rw [List.countP_append]
      exact (hearing.twice chan other later later' continues.found continues'.found same
        apart).trans (Nat.le_add_right _ _)
  · cases taken
    obtain ⟨connect, known, opens⟩ := hearing.refused out member origin
    exact ⟨connect, List.mem_append_left _ known, opens⟩

theorem Hearing.dispatch (hearing : Hearing socks filterConfig ep handled) (well : WellFormed ep)
    (admitted : Side.server.admits frame = true) :
    Hearing socks filterConfig { ep with mux := ep.mux.dispatch frame } (handled ++ [frame]) := by
  obtain ⟨channels, dispatched⟩ := ep.mux.dispatch_frame frame
  refine ⟨fun chan task found => ?_, fun chan other task task' found found' same apart => ?_,
    fun out member origin => ?_⟩
  · obtain ⟨connect, since, heard⟩ := hearing.heard chan task found
    obtain ⟨earlier, split⟩ := heard.split
    have sessions : (ep.mux.dispatch frame).sessions = ep.mux.sessions := by rw [dispatched]
    have extended := Side.server.dispatched_concat task.sid since frame
    refine ⟨connect, since ++ [frame], ⟨earlier, by simp [split]⟩, heard.opens, heard.own, ?_,
      fun registered => ?_⟩
    · rcases inbox_dispatch well frame found with ⟨registered, same_sid, inbox⟩ | ⟨_, inbox⟩
      · rw [inbox, extended, heard.registered registered, if_pos ⟨same_sid, admitted⟩]
      · rw [inbox, extended]
        exact heard.isPrefix.trans (List.prefix_append _ _)
    · have registered : ep.mux.sessions task.sid = some chan := sessions ▸ registered
      rcases inbox_dispatch well frame found with ⟨_, same_sid, inbox⟩ | ⟨other, inbox⟩
      · rw [inbox, extended, heard.registered registered, if_pos ⟨same_sid, admitted⟩]
      · rw [inbox, extended, heard.registered registered,
          if_neg fun same => other registered same.1, List.append_nil]
  · rw [List.countP_append]
    exact (hearing.twice chan other task task' found found' same apart).trans
      (Nat.le_add_right _ _)
  · have member : out ∈ ep.mux.log := by
      rw [dispatched] at member
      exact member
    obtain ⟨connect, known, opens⟩ := hearing.refused out member origin
    exact ⟨connect, List.mem_append_left _ known, opens⟩

/-- The event loop of the server handles a frame. -/
theorem Hearing.handle (hearing : Hearing socks filterConfig ep handled) (regular : ep.Regular)
    (reaction : Server.onFrame filterConfig frame = some act)
    (taken : ep.step linkMdu socks act = some next) :
    Hearing socks filterConfig next (handled ++ [frame]) := by
  have reaction : Side.server.reaction filterConfig frame = some act := reaction
  have opened := Server.opens_onFrame filterConfig frame
  rcases Side.server.reaction_cases filterConfig frame with
    ⟨admitted, dispatches⟩ | ⟨rejected, nothing | ⟨_, connects, asks⟩⟩
  · obtain rfl := Option.some.inj (dispatches.symm.trans reaction)
    cases taken
    exact hearing.dispatch regular.well admitted
  · cases nothing.symm.trans reaction
  · rw [if_pos connects, show Server.onFrame filterConfig frame = some act from reaction,
      Option.bind_some] at opened
    rcases asks with ⟨start, _, spawns⟩ | refuses
    · obtain rfl := Option.some.inj (spawns.symm.trans reaction)
      exact hearing.spawn connects (Prod.mk.inj (Option.some.inj opened)).2.symm taken
    · obtain rfl := Option.some.inj (refuses.symm.trans reaction)
      refine hearing.continues regular taken (by simp) (by simp) (by simpa using rejected) ?_
      rintro _ ⟨⟩
      exact ⟨frame, by simp, Frame.opens_eq_true.mpr ⟨connects, rfl⟩,
        (Prod.mk.inj (Option.some.inj opened)).2.symm⟩

/-- The event loop of the server skips a frame. -/
theorem Hearing.skip (hearing : Hearing socks filterConfig ep handled)
    (reaction : Server.onFrame filterConfig frame = none) :
    Hearing socks filterConfig ep (handled ++ [frame]) := by
  have reaction : Side.server.reaction filterConfig frame = none := reaction
  have rejected : ∀ other ∈ [frame], Side.server.admits other = false := by
    rcases Side.server.reaction_cases filterConfig frame with ⟨_, dispatches⟩ | ⟨rejected, _⟩
    · cases dispatches.symm.trans reaction
    · simpa using rejected
  refine ⟨fun chan task found => ?_, fun chan other task task' found found' same apart => ?_,
    fun out member origin => ?_⟩
  · obtain ⟨connect, since, heard⟩ := hearing.heard chan task found
    exact ⟨connect, since ++ [frame],
      heard.continues ⟨found, ⟨[], rfl⟩, rfl, rfl, id⟩ rejected⟩
  · rw [List.countP_append]
    exact (hearing.twice chan other task task' found found' same apart).trans
      (Nat.le_add_right _ _)
  · obtain ⟨connect, known, opens⟩ := hearing.refused out member origin
    exact ⟨connect, List.mem_append_left _ known, opens⟩

end Steps

end Endpoint

end RnsProxy
