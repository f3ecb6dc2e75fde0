import RnsProxy.Endpoint

/-!
# Whose frames the send queue holds

The history of the send queue names for every frame the task it came from. This file relates that
history to the histories of the tasks and the session table to the tasks, over every run of an
endpoint.
-/

namespace RnsProxy

/-- The frames that entered the send queue for a session, in order. -/
def Mux.enqueued (mux : Mux) (sid : UInt32) : List Frame :=
  (mux.log.map Outgoing.frame).filter fun frame => frame.sessionId == sid

/-- The frames that one task, or the event loop, put into the send queue, in order. -/
def Mux.enqueuedBy (mux : Mux) (origin : Option ChanId) : List Frame :=
  (mux.log.filter fun out => out.origin == origin).map Outgoing.frame

/-- The link sender is busy with a frame. -/
def LinkSender.Holds (out : Outgoing) : LinkSender → Prop
  | idle => False
  | picked held => held = out
  | sending _ held _ => held = out
  | failed _ held => held = out

/-- Whatever waits in the send queue, is at the link sender or has been taken by a link has entered
the send queue. -/
structure Mux.Logged (mux : Mux) : Prop where
  /-- The queue. -/
  queued : ∀ out ∈ mux.dataSenderBuf, out ∈ mux.log
  /-- The link sender. -/
  held : ∀ out, mux.sender.Holds out → out ∈ mux.log
  /-- The links. -/
  handed : ∀ link out, (link, out) ∈ mux.handed → out ∈ mux.log

theorem Mux.logged_new : Mux.new.Logged where
  queued out member := by simp [Mux.new] at member
  held out holds := by simp [Mux.new, LinkSender.Holds] at holds
  handed link out member := by simp [Mux.new] at member

/-- A frame enters the history with the send queue. -/
theorem Mux.Logged.append {mux : Mux} (logged : mux.Logged) (out : Outgoing) :
    { mux with dataSenderBuf := mux.dataSenderBuf ++ [out], log := mux.log ++ [out] }.Logged where
  queued other member := by
    rcases List.mem_append.mp member with old | new
    · exact List.mem_append_left _ (logged.queued other old)
    · exact List.mem_append_right _ new
  held other holds := List.mem_append_left _ (logged.held other holds)
  handed link other member := List.mem_append_left _ (logged.handed link other member)

theorem Mux.Logged.senderStep {linkMdu : ℕ+} {mux next : Mux} {act : Mux.SenderAct}
    (logged : mux.Logged) (taken : Mux.SenderStep linkMdu mux act next) : next.Logged := by
  cases taken with
  | recv idle queued =>
      refine ⟨fun other member => logged.queued other (by simp [queued, member]), ?_, logged.handed⟩
      rintro other rfl
      exact logged.queued _ (by simp [queued])
  | readLink picked =>
      exact ⟨logged.queued, fun other holds => logged.held other (by rwa [picked]), logged.handed⟩
  | dropFrame => exact ⟨logged.queued, fun other holds => holds.elim, logged.handed⟩
  | sentLast sending =>
      refine ⟨logged.queued, fun other holds => holds.elim, fun link other member => ?_⟩
      rcases List.mem_append.mp member with old | new
      · exact logged.handed link other old
      · obtain ⟨rfl, rfl⟩ := Prod.mk.inj (List.mem_singleton.mp new)
        exact logged.held _ (by simp [sending, LinkSender.Holds])
  | sentChunk sending =>
      exact ⟨logged.queued, fun other holds => logged.held other (by rwa [sending]), logged.handed⟩
  | sendFailed sending =>
      exact ⟨logged.queued, fun other holds => logged.held other (by rwa [sending]), logged.handed⟩
  | clearLink => exact ⟨logged.queued, fun other holds => holds.elim, logged.handed⟩

namespace Endpoint

/-- The tables and the histories of an endpoint agree. -/
structure WellFormed (ep : Endpoint) : Prop where
  /-- No task has a channel that was never created. -/
  unused : ∀ chan, ep.mux.nextChan ≤ chan → ep.tasks chan = none
  /-- A registered channel belongs to a task with that session id. -/
  registered : ∀ sid chan, ep.mux.sessions sid = some chan →
    ∃ task, ep.tasks chan = some task ∧ task.sid = sid
  /-- Every task has put into the send queue what it says it has sent. -/
  sent : ∀ chan task, ep.tasks chan = some task → ep.mux.enqueuedBy (some chan) = task.sent
  /-- A frame in the history comes from a task with its session id. -/
  origin : ∀ out ∈ ep.mux.log, ∀ chan, out.origin = some chan →
    ∃ task, ep.tasks chan = some task ∧ task.sid = out.frame.sessionId

/-- A session task is not on the next channel. -/
theorem WellFormed.ne_nextChan {ep : Endpoint} (well : WellFormed ep) {chan : ChanId} {task : Task}
    (found : ep.tasks chan = some task) : chan ≠ ep.mux.nextChan := by
  rintro rfl
  simp [well.unused _ le_rfl] at found

theorem WellFormed.tasks_spawn {ep : Endpoint} (well : WellFormed ep) {chan : ChanId}
    {task spawned : Task} (found : ep.tasks chan = some task) :
    Function.update ep.tasks ep.mux.nextChan (some spawned) chan = some task := by
  rw [Function.update_of_ne (well.ne_nextChan found), found]

/-- No other task has the session id of the task on `chan`, and the event loop has refused no
CONNECT frame with it. -/
def Fresh (ep : Endpoint) (chan : ChanId) (sid : UInt32) : Prop :=
  (∀ other task, ep.tasks other = some task → task.sid = sid → other = chan) ∧
    ∀ out ∈ ep.mux.log, out.origin = none → out.frame.sessionId ≠ sid

theorem wellFormed_new : WellFormed new where
  unused _ _ := rfl
  registered sid chan found := by simp [new, Mux.new] at found
  sent chan task found := by simp [new] at found
  origin out member := by simp [new, Mux.new] at member

section Performs

variable {ep : Endpoint} {held : Bool} {chan : ChanId} {sid : UInt32} {effect : Effect} {mux : Mux}

theorem Performs.nextChan_eq (performs : Performs ep held chan sid effect mux) :
    mux.nextChan = ep.mux.nextChan := by
  cases performs with
  | _ => rfl

theorem Performs.log_eq (performs : Performs ep held chan sid effect mux) :
    mux.log = ep.mux.log ++
      effect.frames.map fun frame => { origin := some chan, frame } := by
  cases performs with
  | send => rfl
  | _ => simp [Effect.frames, Mux.dropSession]

theorem Performs.channels_eq (performs : Performs ep held chan sid effect mux)
    (not_received : ∀ frame, effect ≠ .recv (some frame)) : mux.channels = ep.mux.channels := by
  cases performs with
  | recv => exact absurd rfl (not_received _)
  | _ => rfl

theorem Performs.sessions_of_some (performs : Performs ep held chan sid effect mux)
    {other : UInt32} {registered : ChanId} (found : mux.sessions other = some registered) :
    ep.mux.sessions other = some registered := by
  cases performs with
  | dropSession =>
      by_cases same : other = sid
      · simp [Mux.dropSession, same] at found
      · simpa [Mux.dropSession, same] using found
  | _ => exact found

end Performs

section Steps

variable {linkMdu : ℕ+} {socks : FastSocks5} {ep next : Endpoint} {act : EndpointAct}

theorem WellFormed.of_tasks_eq (well : WellFormed ep) {mux : Mux}
    (nextChan : mux.nextChan = ep.mux.nextChan)
    (sessions : ∀ sid chan, mux.sessions sid = some chan → ep.mux.sessions sid = some chan)
    {refusals : List Outgoing} (log : mux.log = ep.mux.log ++ refusals)
    (refused : ∀ out ∈ refusals, out.origin = none) :
    WellFormed { ep with mux } where
  unused chan bound := well.unused chan (by simpa [nextChan] using bound)
  registered sid chan found := well.registered sid chan (sessions sid chan found)
  sent chan task found := by
    have none_sent : (refusals.filter fun out => out.origin == some chan) = [] := by
      rw [List.filter_eq_nil_iff]
      intro out member
      simp [refused out member]
    rw [← well.sent chan task found]
    simp [Mux.enqueuedBy, log, none_sent]
  origin out member chan owner := by
    rw [log, List.mem_append] at member
    rcases member with old | new
    · exact well.origin out old chan owner
    · simp [refused out new] at owner

/-- Every session task keeps its session id when one of them acts. -/
theorem tasks_session {chan other : ChanId} {act : TaskAct} {task after owner : Task}
    {effect : Effect} (found : ep.tasks chan = some task)
    (taken : Task.Step socks task act after effect) (owns : ep.tasks other = some owner) :
    ∃ later, Function.update ep.tasks chan (some after) other = some later ∧
      later.sid = owner.sid := by
  by_cases same : other = chan
  · subst same
    obtain rfl := Option.some.inj (found.symm.trans owns)
    exact ⟨after, by simp, taken.identity.1⟩
  · exact ⟨owner, by simp [same, owns], rfl⟩

theorem WellFormed.session (well : WellFormed ep) {held : Bool} {chan : ChanId} {act : TaskAct}
    {task after : Task} {effect : Effect} {mux : Mux} (found : ep.tasks chan = some task)
    (taken : Task.Step socks task act after effect)
    (performs : Performs ep held chan task.sid effect mux) :
    WellFormed { mux, tasks := Function.update ep.tasks chan (some after) } where
  unused other bound := by
    rw [performs.nextChan_eq] at bound
    have unused := well.unused other bound
    have different : other ≠ chan := by
      rintro rfl
      simp [found] at unused
    simpa [different] using unused
  registered sid other registered := by
    obtain ⟨owner, owns, same_sid⟩ :=
      well.registered sid other (performs.sessions_of_some registered)
    obtain ⟨later, owns_later, kept_sid⟩ := tasks_session found taken owns
    exact ⟨later, owns_later, kept_sid.trans same_sid⟩
  sent other owner owns := by
    rcases update_some_cases owns with ⟨rfl, rfl⟩ | ⟨same, owns⟩
    · have before := well.sent other task found
      rw [taken.sent_eq, ← before]
      simp [Mux.enqueuedBy, performs.log_eq, List.filter_map, Function.comp_def]
    · rw [← well.sent other owner owns]
      simp [Mux.enqueuedBy, performs.log_eq, Ne.symm same]
  origin out member owner owned := by
    rw [performs.log_eq, List.mem_append, List.mem_map] at member
    rcases member with old | ⟨frame, sent, rfl⟩
    · obtain ⟨task', owns, same_sid⟩ := well.origin out old owner owned
      obtain ⟨later, owns_later, kept_sid⟩ := tasks_session found taken owns
      exact ⟨later, owns_later, kept_sid.trans same_sid⟩
    · obtain rfl := Option.some.inj owned
      exact ⟨after, by simp, taken.identity.1.trans (taken.sessionId_of_mem frame sent).symm⟩

theorem WellFormed.spawn (well : WellFormed ep) (start : Start) (sid : UInt32) :
    WellFormed
      { mux := (ep.mux.registerSession sid).2
        tasks := Function.update ep.tasks ep.mux.nextChan (some (Task.spawn start sid)) } where
  unused chan bound := by
    have bound : ep.mux.nextChan < chan := bound
    simpa [bound.ne'] using well.unused chan bound.le
  registered other chan found := by
    rcases update_some_cases found with ⟨rfl, rfl⟩ | ⟨_, found⟩
    · exact ⟨Task.spawn start other, by simp, rfl⟩
    · obtain ⟨task, owns, same_sid⟩ := well.registered other chan found
      exact ⟨task, well.tasks_spawn owns, same_sid⟩
  sent chan task owns := by
    rcases update_some_cases owns with ⟨rfl, rfl⟩ | ⟨_, owns⟩
    · have nothing : (ep.mux.log.filter fun out => out.origin == some ep.mux.nextChan) = [] := by
        rw [List.filter_eq_nil_iff]
        intro out member owner
        obtain ⟨task, owns, _⟩ := well.origin out member _ (by simpa using owner)
        exact well.ne_nextChan owns rfl
      simp [Mux.enqueuedBy, Mux.registerSession, nothing, Task.spawn]
    · exact well.sent chan task owns
  origin out member chan owner := by
    obtain ⟨task, owns, same_sid⟩ := well.origin out member chan owner
    exact ⟨task, well.tasks_spawn owns, same_sid⟩

/-- A property of tasks that every spawned task has and every step of a task keeps. -/
theorem Step.forall_tasks {property : Task → Prop} (taken : Step linkMdu socks ep act next)
    (each : ∀ chan task, ep.tasks chan = some task → property task)
    (spawned : ∀ start sid, act = .spawn start sid → property (Task.spawn start sid))
    (kept : ∀ task act after effect, property task → Task.Step socks task act after effect →
      property after) :
    ∀ chan task, next.tasks chan = some task → property task := by
  intro chan task found
  cases taken with
  | @session held owner act before after effect mux owned taken performs =>
      rcases update_some_cases found with ⟨rfl, rfl⟩ | ⟨_, found⟩
      · exact kept before act after effect (each chan before owned) taken
      · exact each chan task found
  | @spawn start sid =>
      rcases update_some_cases found with ⟨rfl, rfl⟩ | ⟨_, found⟩
      · exact spawned start sid rfl
      · exact each chan task found
  | _ => exact each chan task found

/-- Every step keeps an endpoint well formed. -/
theorem WellFormed.step (well : WellFormed ep) (taken : Step linkMdu socks ep act next) :
    WellFormed next := by
  cases taken with
  | session found taken performs => exact well.session found taken performs
  | @spawn start sid => exact well.spawn start sid
  | refuse => exact well.of_tasks_eq rfl (fun _ _ found => found) rfl (by simp)
  | @dispatch frame =>
      obtain ⟨channels, same⟩ := ep.mux.dispatch_frame frame
      rw [same]
      exact well.of_tasks_eq rfl (fun _ _ found => found) (List.append_nil _).symm (by simp)
  | sender taken =>
      obtain ⟨linkId, dataSenderBuf, sender, wire, handed, rfl⟩ := taken.frame
      exact well.of_tasks_eq rfl (fun _ _ found => found) (List.append_nil _).symm (by simp)
  | resetSessions =>
      exact well.of_tasks_eq rfl (by simp [Mux.resetSessions]) (List.append_nil _).symm (by simp)
  | _ => exact well.of_tasks_eq rfl (fun _ _ found => found) (List.append_nil _).symm (by simp)

theorem logged_step (logged : ep.mux.Logged) (taken : Step linkMdu socks ep act next) :
    next.mux.Logged := by
  cases taken with
  | session _ _ performs =>
      cases performs with
      | send => exact logged.append _
      | _ => exact ⟨logged.queued, logged.held, logged.handed⟩
  | refuse => exact logged.append _
  | @dispatch frame =>
      obtain ⟨channels, same⟩ := ep.mux.dispatch_frame frame
      rw [same]
      exact ⟨logged.queued, logged.held, logged.handed⟩
  | sender taken => exact logged.senderStep taken
  | _ => exact ⟨logged.queued, logged.held, logged.handed⟩

/-- Every endpoint a run reaches is well formed. -/
theorem wellFormed_of_reachable (reachable : Execution.Reachable (step linkMdu socks) new ep) :
    WellFormed ep :=
  reachable.invariant wellFormed_new fun _ _ _ well taken => well.step (step_cases taken)

theorem WellFormed.mem_sent_of_handed (well : WellFormed ep) (logged : ep.mux.Logged)
    {chan : ChanId} {task : Task} (found : ep.tasks chan = some task) {link : LinkId}
    {frame : Frame} (handed : (link, { origin := some chan, frame }) ∈ ep.mux.handed) :
    frame ∈ task.sent := by
  rw [← well.sent chan task found, Mux.enqueuedBy, List.mem_map]
  exact ⟨_, List.mem_filter.mpr ⟨logged.handed link _ handed, by simp⟩, rfl⟩

theorem WellFormed.enqueued_eq (well : WellFormed ep) {chan : ChanId} {task : Task}
    (found : ep.tasks chan = some task) (fresh : ep.Fresh chan task.sid) :
    ep.mux.enqueued task.sid = task.sent := by
  rw [← well.sent chan task found, Mux.enqueued, Mux.enqueuedBy, List.filter_map]
  congr 1
  refine List.filter_congr fun out member => ?_
  rw [Function.comp_apply, Bool.eq_iff_iff, beq_iff_eq, beq_iff_eq]
  constructor
  · intro same_sid
    cases owner : out.origin with
    | none => exact absurd same_sid (fresh.2 out member owner)
    | some other =>
        obtain ⟨task', owns, owner_sid⟩ := well.origin out member other owner
        rw [fresh.1 other task' owns (owner_sid.trans same_sid)]
  · intro owner
    obtain ⟨task', owns, owner_sid⟩ := well.origin out member chan owner
    obtain rfl := Option.some.inj (found.symm.trans owns)
    exact owner_sid.symm

end Steps

end Endpoint

end RnsProxy
