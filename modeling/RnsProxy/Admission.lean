import Mathlib.Data.List.Nodup
import RnsProxy.ClosedLink
import RnsProxy.Projection

/-!
# How the server answers a CONNECT

A CONNECT frame is refused by the event loop, or it starts a session task that answers it after the
resolver, the filter, the connection attempt or the bind have spoken. This file shows that in a run
in which no session id is connected twice every CONNECT gets one reply, and which one.
-/

namespace RnsProxy

/-- What decides whether the server opens a session: the answers of the resolver and of the
socket. -/
def TaskAct.isOutcome : TaskAct → Bool
  | .resolved _ => true
  | .opened _ => true
  | .bound _ => true
  | _ => false

/-- The outside world lets a session be opened: for TCP the resolved address passes the filter and
the connection succeeds, for UDP the bind succeeds. -/
def Start.Admits (acts : List TaskAct) : Start → Prop
  | .serverTcp _ config =>
      ∃ answer addr, .resolved answer ∈ acts ∧
        filterAndConvert answer (some config) .tcp = some addr ∧ .opened none ∈ acts
  | .serverUdp _ => .bound none ∈ acts
  | _ => False

/-- The frames that answer a CONNECT. -/
def Frame.isReply (frame : Frame) : Bool :=
  frame.frameType == .connectOk || frame.frameType == .connectErr

/-- No DATA comes before CONN_OK. -/
def OkBeforeData (frames : List Frame) : Prop :=
  ∀ front data back, frames = front ++ data :: back → data.frameType = .data →
    ∃ ok ∈ front, ok.frameType = .connectOk

namespace Task

/-- Where the answers of the outside world lead a handler of the server, before it has sent
anything. -/
inductive Leads : Start → List TaskAct → Pc → Prop
  | filtering {addr config} : Leads (.serverTcp addr config) [] (.filtering addr config)
  | forbidden {addr config answer}
      (filtered : filterAndConvert answer (some config) .tcp = none) :
      Leads (.serverTcp addr config) [.resolved answer] (.refusing (text "invalid ip address"))
  | allowed {addr config answer target}
      (filtered : filterAndConvert answer (some config) .tcp = some target) :
      Leads (.serverTcp addr config) [.resolved answer] (.opening target)
  | opened {addr config answer target}
      (filtered : filterAndConvert answer (some config) .tcp = some target) :
      Leads (.serverTcp addr config) [.resolved answer, .opened none]
        (.confirming .bidirectionalTcp)
  | unreachable {addr config answer target error}
      (filtered : filterAndConvert answer (some config) .tcp = some target) :
      Leads (.serverTcp addr config) [.resolved answer, .opened (some error)]
        (.refusing error.bytes)
  | binding {config} : Leads (.serverUdp config) [] (.serverBinding config)
  | bound {config} :
      Leads (.serverUdp config) [.bound none] (.confirming (.udpServerSide config))
  | bindFailed {config error} :
      Leads (.serverUdp config) [.bound (some error)] (.refusing error.bytes)

/-- A handler is on its way to a reply. -/
theorem Leads.stage {start : Start} {outcomes : List TaskAct} {pc : Pc}
    (leads : Leads start outcomes pc) : pc.stage = .opening := by
  cases leads <;> rfl

theorem mem_outcomes {acts outcomes : List TaskAct} {act : TaskAct}
    (known : acts.filter TaskAct.isOutcome = outcomes) (outcome : act.isOutcome = true) :
    act ∈ acts ↔ act ∈ outcomes := by
  rw [← known, List.mem_filter, and_iff_left outcome]

/-- A handler that confirms a session has been allowed to. -/
theorem Leads.admits {start : Start} {acts : List TaskAct} {kind : RelayKind}
    (leads : Leads start (acts.filter TaskAct.isOutcome) (.confirming kind)) :
    start.Admits acts := by
  generalize known : acts.filter TaskAct.isOutcome = outcomes at leads
  cases leads with
  | @opened addr config answer target filtered =>
      exact ⟨answer, target, (mem_outcomes known rfl).mpr (by simp), filtered,
        (mem_outcomes known rfl).mpr (by simp)⟩
  | bound => exact (mem_outcomes known rfl).mpr (by simp)

theorem Leads.not_admits {start : Start} {acts : List TaskAct} {payload : Bytes}
    (leads : Leads start (acts.filter TaskAct.isOutcome) (.refusing payload)) :
    ¬ start.Admits acts := by
  generalize known : acts.filter TaskAct.isOutcome = outcomes at leads
  cases leads with
  | forbidden =>
      rintro ⟨_, _, _, _, opened⟩
      simpa using (mem_outcomes known rfl).mp opened
  | unreachable =>
      rintro ⟨_, _, _, _, opened⟩
      simpa using (mem_outcomes known rfl).mp opened
  | bindFailed =>
      intro bound
      have bound : TaskAct.bound none ∈ acts := bound
      simpa using (mem_outcomes known rfl).mp bound

/-- How far a handler of the server has come from the point to which the outside world led it. -/
inductive Answers (task : Task) : Pc → Prop
  /-- It has sent nothing. -/
  | silent {pc} (at_pc : task.pc = pc) (relay : task.relay = none) (sent : task.sent = []) :
      Answers task pc
  /-- It has confirmed the session. -/
  | confirmed {kind} (rest) (later : task.pc.stage = .established ∨ task.pc.stage = .closed)
      (sent : task.sent =
        { frameType := .connectOk, sessionId := task.sid, payload := [] } :: rest)
      (relayed : ∀ frame ∈ rest, frame.frameType = .data ∨ frame.frameType = .close) :
      Answers task (.confirming kind)
  /-- It has refused the session. -/
  | refused {payload} (later : task.pc.stage = .closed) (relay : task.relay = none)
      (sent : task.sent = [{ frameType := .connectErr, sessionId := task.sid, payload }]) :
      Answers task (.refusing payload)

/-- Before its reply a handler has sent nothing, and afterwards exactly one reply: CONN_OK if the
outside world lets the session be opened, and CONN_ERR otherwise. -/
theorem Answers.replies {task : Task} {start : Start} {acts : List TaskAct} {pc : Pc}
    (answers : task.Answers pc) (leads : Leads start (acts.filter TaskAct.isOutcome) pc) :
    (task.pc.stage = .opening → task.sent.filter Frame.isReply = []) ∧
      (task.pc.stage ≠ .opening → ∃ reply, task.sent.filter Frame.isReply = [reply] ∧
        (reply.frameType = .connectOk ↔ start.Admits acts) ∧
        (reply.frameType = .connectErr ↔ ¬ start.Admits acts)) := by
  cases answers with
  | silent at_pc relay sent =>
      exact ⟨fun _ => by simp [sent], fun replied => absurd (at_pc ▸ leads.stage) replied⟩
  | confirmed rest later sent relayed =>
      have control : rest.filter Frame.isReply = [] := by
        rw [List.filter_eq_nil_iff]
        intro frame member
        rcases relayed frame member with data | close
        · simp [Frame.isReply, data]
        · simp [Frame.isReply, close]
      refine ⟨fun early => by simp [early] at later, fun _ =>
        ⟨{ frameType := .connectOk, sessionId := task.sid, payload := [] }, ?_, ?_, ?_⟩⟩
      · rw [sent, List.filter_cons_of_pos (by simp [Frame.isReply]), control]
      · simp [leads.admits]
      · simp [leads.admits]
  | @refused payload later relay sent =>
      refine ⟨fun early => by simp [early] at later, fun _ =>
        ⟨{ frameType := .connectErr, sessionId := task.sid, payload }, ?_, ?_, ?_⟩⟩
      · rw [sent, List.filter_cons_of_pos (by simp [Frame.isReply]), List.filter_nil]
      · simp [leads.not_admits]
      · simp [leads.not_admits]

/-- A handler sends CONN_OK before it relays anything. -/
theorem Answers.okBeforeData {task : Task} {pc : Pc} (answers : task.Answers pc) :
    OkBeforeData task.sent := by
  intro front data back split data_type
  cases answers with
  | silent at_pc relay sent => simp [sent] at split
  | confirmed rest later sent relayed =>
      cases front with
      | nil =>
          obtain ⟨rfl, _⟩ := List.cons.inj (sent.symm.trans split)
          cases data_type
      | cons first front =>
          obtain ⟨rfl, _⟩ := List.cons.inj (sent.symm.trans split)
          exact ⟨_, List.mem_cons_self, rfl⟩
  | refused later relay sent =>
      have member : data ∈ task.sent := by simp [split]
      rw [sent, List.mem_singleton] at member
      rw [member] at data_type
      cases data_type

section Steps

variable {socks : FastSocks5} {task next : Task} {act : TaskAct} {start : Start}
  {past : List TaskAct}

theorem filter_outcomes_concat (past : List TaskAct) (act : TaskAct) :
    (past ++ [act]).filter TaskAct.isOutcome =
      past.filter TaskAct.isOutcome ++ if act.isOutcome then [act] else [] := by
  rw [List.filter_append]
  cases outcome : act.isOutcome <;> simp [outcome]

/-- A step of a handler that has sent nothing. -/
theorem Answers.step_silent {pc : Pc} {effect : Effect} (at_pc : task.pc = pc)
    (relay : task.relay = none) (sent : task.sent = [])
    (leads : Leads start (past.filter TaskAct.isOutcome) pc)
    (taken : Step socks task act next effect) :
    ∃ later, Leads start ((past ++ [act]).filter TaskAct.isOutcome) later ∧ next.Answers later := by
  have stage : task.pc.stage = .opening := at_pc ▸ leads.stage
  rw [filter_outcomes_concat]
  generalize past.filter TaskAct.isOutcome = outcomes at leads
  cases taken with
  | @move act after moves =>
      refine ⟨after, ?_, .silent rfl relay sent⟩
      rw [at_pc] at moves
      cases moves <;> cases leads
      · exact .opened ‹_›
      · exact .unreachable ‹_›
      · exact .bound
      · exact .bindFailed
  | @send frame after pending =>
      refine ⟨pc, ?_, ?_⟩
      · simpa [TaskAct.isOutcome] using leads
      · cases pendingSend_cases pending with
        | connect connecting =>
            cases at_pc.symm.trans connecting
            cases leads
        | refuse refusing =>
            cases at_pc.symm.trans refusing
            exact .refused rfl relay (by simp [sent])
        | confirm confirming =>
            cases at_pc.symm.trans confirming
            exact .confirmed [] (.inl rfl) (by simp [sent, startRelay]) (by simp)
        | close closing =>
            cases at_pc.symm.trans closing
            cases leads
  | @filtered answer addr config filtering =>
      obtain rfl : pc = .filtering addr config := at_pc.symm.trans filtering
      cases leads
      rw [onFiltered]
      cases filtered : filterAndConvert answer (some config) .tcp with
      | some target => exact ⟨_, .allowed filtered, .silent rfl relay sent⟩
      | none => exact ⟨_, .forbidden filtered, .silent rfl relay sent⟩
  | reply waiting => simp [waiting, Pc.stage] at stage
  | timeout waiting => simp [waiting, Pc.stage] at stage
  | replied replying => simp [replying, Pc.stage] at stage
  | select relaying => simp [relaying, Pc.stage] at stage
  | dropSession dropping => simp [dropping, Pc.stage] at stage
  | relay spawned => simp [relay] at spawned

theorem Step.not_outcome {effect : Effect} (taken : Step socks task act next effect)
    (later : task.pc.stage = .established ∨ task.pc.stage = .closed) : act.isOutcome = false := by
  cases taken with
  | move moves =>
      rcases moves.stage.1 with ⟨early, _⟩ | ⟨early, _⟩ <;> simp [early] at later
  | filtered filtering => simp [filtering, Pc.stage] at later
  | _ => rfl

/-- After the reply a handler sends DATA and CLOSE only. -/
theorem Step.after_reply {effect : Effect} (taken : Step socks task act next effect)
    (later : task.pc.stage = .established ∨ task.pc.stage = .closed) :
    (next.pc.stage = .established ∨ next.pc.stage = .closed) ∧
      ∀ frame ∈ effect.frames, frame.frameType = .data ∨ frame.frameType = .close := by
  cases taken with
  | move moves =>
      rcases moves.stage.1 with ⟨early, _⟩ | ⟨early, _⟩ <;> simp [early] at later
  | send pending =>
      cases pendingSend_cases pending with
      | connect connecting => simp [connecting, Pc.stage] at later
      | refuse refusing => simp [refusing, Pc.stage] at later
      | confirm confirming => simp [confirming, Pc.stage] at later
      | close => exact ⟨.inr rfl, by simp [Effect.frames]⟩
  | reply waiting => simp [waiting, Pc.stage] at later
  | timeout waiting => simp [waiting, Pc.stage] at later
  | replied replying => simp [replying, Pc.stage] at later
  | filtered filtering => simp [filtering, Pc.stage] at later
  | select => exact ⟨.inl rfl, by simp [Effect.frames]⟩
  | dropSession => exact ⟨.inr rfl, by simp [Effect.frames]⟩
  | relay _ taken =>
      refine ⟨later, fun frame member => .inl ?_⟩
      rcases taken.frames_eq with nothing | ⟨_, payload, sends⟩
      · simp [nothing] at member
      · rw [sends, List.mem_singleton] at member
        rw [member]

/-- A handler that has refused the session only drops it. -/
theorem Step.after_refusal {effect : Effect} (taken : Step socks task act next effect)
    (closed : task.pc.stage = .closed) (relay : task.relay = none) :
    next.pc.stage = .closed ∧ next.relay = none ∧ effect.frames = [] := by
  cases taken with
  | move moves =>
      rcases moves.stage.1 with ⟨early, _⟩ | ⟨early, _⟩ <;> simp [early] at closed
  | send pending =>
      cases pendingSend_cases pending with
      | connect connecting => simp [connecting, Pc.stage] at closed
      | refuse refusing => simp [refusing, Pc.stage] at closed
      | confirm confirming => simp [confirming, Pc.stage] at closed
      | close closing => simp [closing, Pc.stage] at closed
  | reply waiting => simp [waiting, Pc.stage] at closed
  | timeout waiting => simp [waiting, Pc.stage] at closed
  | replied replying => simp [replying, Pc.stage] at closed
  | filtered filtering => simp [filtering, Pc.stage] at closed
  | select relaying => simp [relaying, Pc.stage] at closed
  | dropSession => exact ⟨rfl, relay, rfl⟩
  | relay spawned => simp [relay] at spawned

theorem Answers.step {pc : Pc} {effect : Effect} (answers : task.Answers pc)
    (leads : Leads start (past.filter TaskAct.isOutcome) pc)
    (taken : Step socks task act next effect) :
    ∃ later, Leads start ((past ++ [act]).filter TaskAct.isOutcome) later ∧ next.Answers later := by
  cases answers with
  | silent at_pc relay sent => exact step_silent at_pc relay sent leads taken
  | @confirmed kind rest later sent relayed =>
      have kept : (past ++ [act]).filter TaskAct.isOutcome = past.filter TaskAct.isOutcome := by
        simp [taken.not_outcome later]
      obtain ⟨later, frames⟩ := taken.after_reply later
      refine ⟨_, kept ▸ leads, .confirmed (rest ++ effect.frames) later ?_ fun frame member => ?_⟩
      · rw [taken.sent_eq, sent, taken.identity.1, List.cons_append]
      · rcases List.mem_append.mp member with old | new
        · exact relayed frame old
        · exact frames frame new
  | @refused payload later relay sent =>
      have kept : (past ++ [act]).filter TaskAct.isOutcome = past.filter TaskAct.isOutcome := by
        simp [taken.not_outcome (.inr later)]
      obtain ⟨later, relay, frames⟩ := taken.after_refusal later relay
      refine ⟨_, kept ▸ leads, .refused later relay ?_⟩
      rw [taken.sent_eq, sent, frames, taken.identity.1, List.append_nil]

/-- Every run of a session task of the server leads it to its reply and beyond. -/
theorem answers_of_run {acts : List TaskAct} {sid : UInt32} {filterConfig : FilterConfig}
    (spawns : Server.Spawns filterConfig start)
    (execution : Execution.run (advance socks) (spawn start sid) acts = some task) :
    ∃ pc, Leads start (acts.filter TaskAct.isOutcome) pc ∧ task.Answers pc := by
  have start_leads : ∃ pc, Leads start ([].filter TaskAct.isOutcome) pc ∧
      (spawn start sid).Answers pc := by
    rcases spawns with ⟨addr, rfl⟩ | rfl
    · exact ⟨_, .filtering, .silent rfl rfl rfl⟩
    · exact ⟨_, .binding, .silent rfl rfl rfl⟩
  have extended : ∀ past before act after,
      (∃ pc, Leads start (past.filter TaskAct.isOutcome) pc ∧ before.Answers pc) →
      advance socks before act = some after →
      ∃ pc, Leads start ((past ++ [act]).filter TaskAct.isOutcome) pc ∧ after.Answers pc := by
    rintro past before act after ⟨pc, leads, answers⟩ taken
    obtain ⟨effect, taken⟩ := advance_cases taken
    exact answers.step leads taken
  exact Execution.run_past (fun past task =>
    ∃ pc, Leads start (past.filter TaskAct.isOutcome) pc ∧ task.Answers pc) extended start_leads
    execution

end Steps

end Task

namespace Endpoint

/-- The id for which a step of the event loop opens a session or refuses to. -/
def opens : EndpointAct → Option (UInt32 × Option Start)
  | .spawn start sid => some (sid, some start)
  | .refuse sid => some (sid, none)
  | _ => none

/-- The id for which a step of the event loop refuses a session. -/
def refuses : EndpointAct → Option UInt32
  | .refuse sid => some sid
  | _ => none

/-- The replies to a CONNECT are as they have to be. -/
def Answered (acts : List EndpointAct) (ep : Endpoint) (sid : UInt32) : Option Start → Prop
  | some start =>
      ∃ chan task, ep.tasks chan = some task ∧ task.sid = sid ∧
        (task.pc.stage = .opening → (ep.mux.enqueued sid).filter Frame.isReply = []) ∧
        (task.pc.stage ≠ .opening →
          ∃ reply, (ep.mux.enqueued sid).filter Frame.isReply = [reply] ∧
            (reply.frameType = .connectOk ↔ start.Admits (acts.filterMap (taskAct chan))) ∧
            (reply.frameType = .connectErr ↔ ¬ start.Admits (acts.filterMap (taskAct chan)))) ∧
        (task.hasEnded = true → ep.mux.sessions sid = none)
  | none =>
      (ep.mux.enqueued sid).filter Frame.isReply = [refusal sid] ∧ ep.mux.sessions sid = none

section Runs

variable {linkMdu : ℕ+} {socks : FastSocks5} {acts : List EndpointAct} {ep : Endpoint}

theorem mem_spawned_iff {start : Start} {sid : UInt32} :
    (start, sid) ∈ acts.filterMap spawned ↔ (sid, some start) ∈ acts.filterMap opens := by
  simp only [List.mem_filterMap]
  refine exists_congr fun act => and_congr_right fun _ => ?_
  cases act <;> simp [spawned, opens, and_comm]

theorem mem_refuses_iff {sid : UInt32} :
    sid ∈ acts.filterMap refuses ↔ (sid, none) ∈ acts.filterMap opens := by
  simp only [List.mem_filterMap]
  refine exists_congr fun act => and_congr_right fun _ => ?_
  cases act <;> simp [refuses, opens]

theorem spawned_sublist (acts : List EndpointAct) :
    ((acts.filterMap spawned).map Prod.snd).Sublist ((acts.filterMap opens).map Prod.fst) := by
  rw [List.map_filterMap, List.map_filterMap]
  exact Execution.filterMap_sublist
    (fun act sid chosen => by cases act <;> simp_all [spawned, opens]) acts

theorem refuses_sublist (acts : List EndpointAct) :
    (acts.filterMap refuses).Sublist ((acts.filterMap opens).map Prod.fst) := by
  rw [List.map_filterMap]
  exact Execution.filterMap_sublist
    (fun act sid chosen => by cases act <;> simp_all [refuses, opens]) acts

theorem Step.enqueuedBy_none {next : Endpoint} {act : EndpointAct}
    (taken : Step linkMdu socks ep act next) :
    next.mux.enqueuedBy none = ep.mux.enqueuedBy none ++ (refuses act).toList.map refusal := by
  cases taken with
  | session found taken performs =>
      simp [Mux.enqueuedBy, performs.log_eq, refuses, List.filter_map]
  | refuse => simp [Mux.enqueuedBy, refuses]
  | @dispatch frame =>
      obtain ⟨channels, same⟩ := ep.mux.dispatch_frame frame
      simp [same, Mux.enqueuedBy, refuses]
  | sender taken =>
      obtain ⟨linkId, dataSenderBuf, sender, wire, handed, rfl⟩ := taken.frame
      exact (List.append_nil _).symm
  | _ => exact (List.append_nil _).symm

theorem enqueuedBy_none_of_run
    (execution : Execution.run (Endpoint.step linkMdu socks) new acts = some ep) :
    ep.mux.enqueuedBy none = (acts.filterMap refuses).map refusal := by
  have extended : ∀ past before act after,
      before.mux.enqueuedBy none = (past.filterMap refuses).map refusal →
      Endpoint.step linkMdu socks before act = some after →
      after.mux.enqueuedBy none = ((past ++ [act]).filterMap refuses).map refusal := by
    intro past before act after so_far taken
    rw [Execution.filterMap_concat, List.map_append, ← so_far]
    exact (step_cases taken).enqueuedBy_none
  exact Execution.run_past
    (fun past ep => ep.mux.enqueuedBy none = (past.filterMap refuses).map refusal) extended rfl
    execution

theorem refused_of_mem_log
    (execution : Execution.run (Endpoint.step linkMdu socks) new acts = some ep) {out : Outgoing}
    (member : out ∈ ep.mux.log) (origin : out.origin = none) :
    out.frame.sessionId ∈ acts.filterMap refuses := by
  have queued : out.frame ∈ ep.mux.enqueuedBy none := by
    rw [Mux.enqueuedBy, List.mem_map]
    exact ⟨out, List.mem_filter.mpr ⟨member, by simp [origin]⟩, rfl⟩
  rw [enqueuedBy_none_of_run execution, List.mem_map] at queued
  obtain ⟨sid, refused, same⟩ := queued
  rw [← same]
  exact refused

/-- A session id is opened once, and not refused as well. -/
theorem opens_unique (distinct : ((acts.filterMap opens).map Prod.fst).Nodup) {sid : UInt32}
    {start other : Option Start} (opened : (sid, start) ∈ acts.filterMap opens)
    (opened' : (sid, other) ∈ acts.filterMap opens) : start = other :=
  congrArg Prod.snd (List.inj_on_of_nodup_map distinct opened opened' rfl)

theorem fresh_of_opens (accounted : Accounted socks acts ep)
    (execution : Execution.run (Endpoint.step linkMdu socks) new acts = some ep)
    (distinct : ((acts.filterMap opens).map Prod.fst).Nodup) {start : Start} {sid : UInt32}
    {chan : ChanId} (listed : (acts.filterMap spawned)[chan]? = some (start, sid)) :
    ep.Fresh chan sid := by
  constructor
  · intro other task found same_sid
    obtain ⟨_, listed', _⟩ := accounted.task other task found
    have nodup := distinct.sublist (spawned_sublist acts)
    have bound : other < ((acts.filterMap spawned).map Prod.snd).length := by
      simpa using (List.getElem?_eq_some_iff.mp listed').1
    exact (List.getElem?_inj bound nodup).mp (by simp [listed, listed', same_sid])
  · rintro out member origin rfl
    have refused := mem_refuses_iff.mp (refused_of_mem_log execution member origin)
    have opened := mem_spawned_iff.mp (List.mem_of_getElem? listed)
    cases opens_unique distinct opened refused

theorem no_task_of_refuses (accounted : Accounted socks acts ep)
    (distinct : ((acts.filterMap opens).map Prod.fst).Nodup) {sid : UInt32}
    (refused : (sid, none) ∈ acts.filterMap opens) {chan : ChanId} {task : Task}
    (found : ep.tasks chan = some task) : task.sid ≠ sid := by
  rintro rfl
  obtain ⟨start, listed, _⟩ := accounted.task chan task found
  have opened := mem_spawned_iff.mp (List.mem_of_getElem? listed)
  cases opens_unique distinct opened refused

theorem enqueued_of_refuses (accounted : Accounted socks acts ep) (well : WellFormed ep)
    (execution : Execution.run (Endpoint.step linkMdu socks) new acts = some ep)
    (distinct : ((acts.filterMap opens).map Prod.fst).Nodup) {sid : UInt32}
    (refused : (sid, none) ∈ acts.filterMap opens) : ep.mux.enqueued sid = [refusal sid] := by
  have queued_by_loop : ∀ out ∈ ep.mux.log, out.frame.sessionId = sid → out.origin = none := by
    intro out member same_sid
    by_contra origin
    obtain ⟨chan, origin⟩ := Option.ne_none_iff_exists'.mp origin
    obtain ⟨task, found, task_sid⟩ := well.origin out member chan origin
    exact no_task_of_refuses accounted distinct refused found (task_sid.trans same_sid)
  have same : ep.mux.enqueued sid =
      (ep.mux.enqueuedBy none).filter fun frame => frame.sessionId == sid := by
    rw [Mux.enqueued, Mux.enqueuedBy, List.filter_map, List.filter_map, List.filter_filter]
    congr 1
    refine List.filter_congr fun out member => ?_
    by_cases same_sid : out.frame.sessionId = sid
    · simp [same_sid, queued_by_loop out member same_sid]
    · simp [same_sid]
  have once : (acts.filterMap refuses).filter (· == sid) = [sid] := by
    have nodup := distinct.sublist (refuses_sublist acts)
    rw [List.filter_beq, List.count_eq_one_of_mem nodup (mem_refuses_iff.mpr refused)]
    rfl
  have ids : (fun frame : Frame => frame.sessionId == sid) ∘ refusal = (· == sid) := rfl
  rw [same, enqueuedBy_none_of_run execution, List.filter_map, ids, once]
  rfl

/-- In a run in which no id is opened twice, every opening is answered, and CONN_OK comes before
DATA. -/
theorem answered_of_run
    (execution : Execution.run (Endpoint.step linkMdu socks) new acts = some ep)
    (live : ep.HoldsOnlyLive) {filterConfig : FilterConfig}
    (serves : ∀ act ∈ acts, Server.Does filterConfig act)
    (distinct : ((acts.filterMap opens).map Prod.fst).Nodup) {sid : UInt32} {start : Option Start}
    (opened : (sid, start) ∈ acts.filterMap opens) :
    Answered acts ep sid start ∧ OkBeforeData (ep.mux.enqueued sid) := by
  obtain ⟨well, accounted⟩ := accounted_of_run execution
  cases start with
  | none =>
      have queued := enqueued_of_refuses accounted well execution distinct opened
      rw [Answered, queued]
      refine ⟨⟨rfl, ?_⟩, ?_⟩
      · by_contra registered
        obtain ⟨chan, registered⟩ := Option.ne_none_iff_exists'.mp registered
        obtain ⟨task, found, same_sid⟩ := well.registered sid chan registered
        exact no_task_of_refuses accounted distinct opened found same_sid
      · intro front data back split data_type
        have member : data ∈ [refusal sid] := by simp [split]
        rw [List.mem_singleton.mp member] at data_type
        cases data_type
  | some start =>
      obtain ⟨chan, listed⟩ := List.getElem?_of_mem (mem_spawned_iff.mpr opened)
      have bound : chan < ep.mux.nextChan := by
        rw [accounted.nextChan]
        exact (List.getElem?_eq_some_iff.mp listed).1
      obtain ⟨task, found⟩ := accounted.created chan bound
      obtain ⟨_, listed', task_run⟩ := accounted.task chan task found
      obtain ⟨rfl, rfl⟩ := Prod.mk.inj (Option.some.inj (listed.symm.trans listed'))
      have spawns : Server.Spawns filterConfig start := by
        obtain ⟨act, member, opens_act⟩ := List.mem_filterMap.mp opened
        have act_serves := serves act member
        cases act <;> cases opens_act
        exact act_serves
      obtain ⟨pc, leads, answers⟩ := Task.answers_of_run spawns task_run
      have fresh := fresh_of_opens accounted execution distinct listed
      have queued := well.enqueued_eq found fresh
      obtain ⟨early, replied⟩ := answers.replies leads
      rw [Answered, queued]
      refine ⟨⟨chan, task, found, rfl, early, replied, fun ended => ?_⟩, answers.okBeforeData⟩
      by_contra registered
      obtain ⟨other, registered⟩ := Option.ne_none_iff_exists'.mp registered
      obtain ⟨owner, owns, owner_sid, running⟩ := live _ other registered
      obtain rfl := fresh.1 other owner owns owner_sid
      obtain rfl := Option.some.inj (found.symm.trans owns)
      simp [ended] at running

end Runs

end Endpoint

namespace Server

/-- The CONNECT frame that the event loop handles for a multiplexer in a step. -/
def connects (muxId : MuxId) : Server × ServerAct → Option Frame
  | (server, .frame) =>
      match server.handling with
      | some (handled, frame :: _) =>
          if handled = muxId ∧ frame.frameType = .connect then some frame else none
      | _ => none
  | _ => none

/-- The session task that a CONNECT frame starts, if its payload can be parsed. -/
def starts (filterConfig : FilterConfig) (frame : Frame) : Option Start :=
  (decodeConnectPayload frame.payload).map fun (host, port, udp) =>
    if udp then .serverUdp filterConfig else .serverTcp (.domain host port) filterConfig

/-- A CONNECT frame opens its id or refuses it, and nothing else does. -/
theorem opens_onFrame (filterConfig : FilterConfig) (frame : Frame) :
    (onFrame filterConfig frame).bind Endpoint.opens =
      if frame.frameType = .connect then some (frame.sessionId, starts filterConfig frame)
      else none := by
  rw [onFrame, starts]
  cases type : frame.frameType with
  | connect =>
      cases decodeConnectPayload frame.payload with
      | none => rfl
      | some request =>
          obtain ⟨host, port, udp⟩ := request
          cases udp <;> rfl
  | _ => rfl

theorem opens_actOn (muxId : MuxId) (server : Server) (act : ServerAct) :
    (server.actOn muxId act).bind Endpoint.opens =
      (connects muxId (server, act)).map fun frame =>
        (frame.sessionId, starts server.filterConfig frame) := by
  cases act with
  | event event =>
      cases event with
      | linkEstablished link isInitiator =>
          cases isInitiator with
          | true => rfl
          | false =>
              by_cases next : server.nextMux = muxId <;>
                simp [actOn, connects, Endpoint.opens, next]
      | linkClosed link => rfl
      | linkData link data =>
          by_cases known : server.linkMuxes link = some muxId <;>
            simp [actOn, connects, Endpoint.opens, known]
      | pathUpdated => rfl
  | frame =>
      rcases handling : server.handling with _ | ⟨handled, _ | ⟨frame, rest⟩⟩
      · simp [actOn, connects, handling]
      · simp [actOn, connects, handling]
      · by_cases same : handled = muxId
        · by_cases type : frame.frameType = .connect <;>
            simp [actOn, connects, handling, same, opens_onFrame, type]
        · simp [actOn, connects, handling, same]
  | session owner chan taskAct =>
      by_cases same : owner = muxId <;> simp [actOn, connects, Endpoint.opens, same]
  | sender owner senderAct =>
      by_cases same : owner = muxId <;> simp [actOn, connects, Endpoint.opens, same]

/-- What the steps of the server so far have opened on a multiplexer. -/
structure Opens (filterConfig : FilterConfig) (muxId : MuxId) (past : List (Server × ServerAct))
    (server : Server) : Prop where
  /-- The filter is the one the server was started with. -/
  config : server.filterConfig = filterConfig
  /-- The multiplexer does what the server makes it do. -/
  does : ∀ act ∈ muxActs muxId past, Does filterConfig act
  /-- The sessions are those that were asked for. -/
  opens : (muxActs muxId past).filterMap Endpoint.opens =
    (past.filterMap (connects muxId)).map fun frame =>
      (frame.sessionId, starts filterConfig frame)

section Runs

variable {linkMdu : ℕ+} {socks : FastSocks5} {filterConfig : FilterConfig}
  {acts : List ServerAct} {final : Server}

theorem Opens.step {muxId : MuxId} {past : List (Server × ServerAct)} {server next : Server}
    {act : ServerAct} (so_far : Opens filterConfig muxId past server)
    (taken : Step linkMdu socks server act next) :
    Opens filterConfig muxId (past ++ [(server, act)]) next := by
  have acts_concat : muxActs muxId (past ++ [(server, act)]) =
      muxActs muxId past ++ (server.actOn muxId act).toList := Execution.filterMap_concat ..
  refine ⟨?_, fun made member => ?_, ?_⟩
  · rw [← so_far.config]
    cases taken <;> rfl
  · rw [acts_concat] at member
    rcases List.mem_append.mp member with old | new
    · exact so_far.does made old
    · rw [← so_far.config]
      exact does_of_actOn (Option.mem_toList.mp new)
  · have now := opens_actOn muxId server act
    rw [so_far.config] at now
    rw [acts_concat, List.filterMap_append, so_far.opens, Execution.filterMap_concat,
      List.map_append, ← Option.toList_map, ← now]
    cases server.actOn muxId act with
    | none => simp
    | some made => cases opened : Endpoint.opens made <;> simp [opened]

/-- What a run of the server opens on a multiplexer is what the CONNECT frames ask for. -/
theorem opens_of_run
    (execution : Execution.run (Server.step linkMdu socks) (new filterConfig) acts = some final)
    (muxId : MuxId) :
    Opens filterConfig muxId
      (Execution.trace (Server.step linkMdu socks) (new filterConfig) acts) final :=
  Execution.run_history (Opens filterConfig muxId)
    (fun _ _ _ _ so_far taken => so_far.step (step_cases taken))
    ⟨rfl, fun act member => (by cases member), rfl⟩ execution

/-- In a run of the server in which no session id is connected twice on a multiplexer, every CONNECT
frame that is handled for it gets its reply: none while the handler waits for the outside world,
then exactly one. A frame that cannot be parsed is refused at once. CONN_OK comes before DATA, and
the id of a session that was refused or has ended is not in the session table. -/
theorem answersConnects
    (execution : Execution.run (Server.step linkMdu socks) (new filterConfig) acts = some final)
    (muxId : MuxId) :
    let past := Execution.trace (Server.step linkMdu socks) (new filterConfig) acts
    ((past.filterMap (connects muxId)).map Frame.sessionId).Nodup →
      ∀ frame ∈ past.filterMap (connects muxId),
        Endpoint.Answered (muxActs muxId past) (final.muxes muxId) frame.sessionId
            (starts filterConfig frame) ∧
          OkBeforeData ((final.muxes muxId).mux.enqueued frame.sessionId) := by
  intro past distinct frame member
  obtain ⟨_, serves, opened⟩ := opens_of_run execution muxId
  have steady : Steady linkMdu socks final :=
    Execution.run_invariant (fun _ _ _ steady taken => steady.step (step_cases taken)) steady_new
      execution
  refine Endpoint.answered_of_run (run_muxActs execution muxId) (steady.live muxId) serves ?_ ?_
  · rw [opened, List.map_map]
    exact distinct
  · rw [opened]
    exact List.mem_map_of_mem member

end Runs

/-- A packet with three CONNECT frames: one that cannot be parsed, one for UDP, and one for a host
that cannot be resolved. -/
def threeConnects : List ServerAct :=
  [.event (.linkEstablished 1 false),
    .event (.linkData 1 (Frame.encode ⟨.connect, 1, []⟩ ++
      Frame.encode ⟨.connect, 2, encodeConnectPayload "0.0.0.0" 0 true⟩ ++
      Frame.encode ⟨.connect, 3, encodeConnectPayload "localhost" 80 false⟩)),
    .frame, .frame, .frame, .frame, .session 0 0 (.bound none), .session 0 1 (.resolved none),
    .session 0 1 .send, .session 0 0 .send, .session 0 1 .dropSession]

/-- Each of the three frames is answered. -/
theorem answersConnects_threeConnects :
    ∃ final, Execution.run (step 431 .rfc1928) (new (serverConfig true true)) threeConnects =
        some final ∧
      ((Execution.trace (step 431 .rfc1928) (new (serverConfig true true))
        threeConnects).filterMap (connects 0)).map Frame.sessionId = [1, 2, 3] ∧
      ∀ frame ∈ (Execution.trace (step 431 .rfc1928) (new (serverConfig true true))
          threeConnects).filterMap (connects 0),
        Endpoint.Answered (muxActs 0 (Execution.trace (step 431 .rfc1928)
            (new (serverConfig true true)) threeConnects)) (final.muxes 0) frame.sessionId
            (starts (serverConfig true true) frame) ∧
          OkBeforeData ((final.muxes 0).mux.enqueued frame.sessionId) := by
  have ends : ∃ final, Execution.run (step 431 .rfc1928) (new (serverConfig true true))
        threeConnects = some final ∧
      ((Execution.trace (step 431 .rfc1928) (new (serverConfig true true))
        threeConnects).filterMap (connects 0)).map Frame.sessionId = [1, 2, 3] :=
    ⟨_, rfl, rfl⟩
  obtain ⟨final, execution, ids⟩ := ends
  exact ⟨final, execution, ids, answersConnects execution 0 (by rw [ids]; decide)⟩

end Server

end RnsProxy
