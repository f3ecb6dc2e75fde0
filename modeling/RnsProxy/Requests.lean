import RnsProxy.ConnectPayload
import RnsProxy.Ends

/-!
# What a session is asked for

A session of the client asks the server for a host, a port and a protocol: those of the SOCKS5
request it has read, or those of the forwarded port it was accepted on. The frame that carries the
request passes the multiplexer, the link and the parser of the other end. This file shows that the
server opens the session that was asked for, for whoever asked for it, and that the client is told
the truth about it.
-/

namespace RnsProxy

/-- What a session of the client asks the server for. -/
structure Request where
  /-- The flow that asks. -/
  flow : Flow
  /-- The host. -/
  host : Host
  /-- The port. -/
  port : UInt16
  deriving DecidableEq

namespace Request

/-- The CONNECT frame. -/
def frame (request : Request) (sid : UInt32) : Frame where
  frameType := .connect
  sessionId := sid
  payload := encodeConnectPayload request.host.name request.port request.flow.udp

/-- The session task that serves the request. -/
def start (request : Request) (filterConfig : FilterConfig) : Start :=
  if request.flow.udp then .serverUdp filterConfig
  else .serverTcp (.domain request.host.name request.port) filterConfig

/-- The relay that serves the request. -/
def serverRelay (request : Request) (filterConfig : FilterConfig) : RelayKind :=
  if request.flow.udp then .udpServerSide filterConfig else .bidirectionalTcp

theorem decode_frame (request : Request) (sid : UInt32) :
    decodeConnectPayload (request.frame sid).payload =
      some (request.host.name, request.port, request.flow.udp) := by
  have short : (hostBytes request.host.name).length ≤ 255 := request.host.short
  refine (decodeConnectPayload_eq_some_iff _ _ _ _).mpr ⟨short, settingsByte request.flow.udp, [],
    ?_, by cases request.flow.udp <;> rfl⟩
  simp [frame, encodeConnectPayload_eq]

theorem starts_frame (request : Request) (filterConfig : FilterConfig) (sid : UInt32) :
    Server.starts filterConfig (request.frame sid) = some (request.start filterConfig) := by
  rw [Server.starts, decode_frame]
  rfl

end Request

/-- The request of a SOCKS5 command. A BIND request asks the server for nothing. -/
def TaskAct.request : TaskAct → Option Request
  | .command (some (.tcpConnect, host, port)) => some ⟨.socksTcp, host, port⟩
  | .command (some (.udpAssociate, host, port)) => some ⟨.socksUdp, host, port⟩
  | _ => none

/-- The request of a session of the client that has taken some steps. -/
def Start.request (past : List TaskAct) : Start → Option Request
  | .socks => past.findSome? TaskAct.request
  | .forwardedTcp serverPort => some ⟨.forwardedTcp, localhost, serverPort⟩
  | .forwardedUdp serverPort => some ⟨.forwardedUdp serverPort, localhost, serverPort⟩
  | .serverTcp _ _ => none
  | .serverUdp _ => none

/-- The flow a handler is in once its CONNECT has been sent. -/
def Pc.flow : Pc → Option Flow
  | waiting flow => some flow
  | binding _ => some .socksUdp
  | replying flow => some flow
  | _ => none

/-! ## Sessions of the client -/

theorem Start.request_concat {start : Start} {past : List TaskAct} {request : Request}
    (asked : start.request past = some request) (act : TaskAct) :
    start.request (past ++ [act]) = some request := by
  cases start with
  | socks =>
      rw [Start.request] at asked
      rw [Start.request, List.findSome?_append, asked, Option.some_or]
  | _ => exact asked

namespace Task

/-- A session of the client asks for what its start or its application wants, and ends in the relay
for that. -/
structure Asks (start : Start) (past : List TaskAct) (task : Task) : Prop where
  /-- The application has asked for nothing yet. -/
  unread : task.pc = .handshake ∨ task.pc = .readCommand →
    start = .socks ∧ past.findSome? TaskAct.request = none
  /-- The handler is sending the request. -/
  connecting : ∀ flow host port, task.pc = .connecting flow host port →
    start.request past = some ⟨flow, host, port⟩
  /-- The handler waits for the session to be opened. -/
  pending : ∀ flow, task.pc.flow = some flow →
    ∃ request, start.request past = some request ∧ request.flow = flow
  /-- The first frame is the request. -/
  sent : ∀ frame, task.sent.head? = some frame →
    ∃ request, start.request past = some request ∧ frame = request.frame task.sid
  /-- The relay is that of the request. -/
  relay : ∀ relay, task.relay = some relay →
    ∃ request, start.request past = some request ∧ relay.kind = request.flow.relay

section Steps

variable {socks : FastSocks5} {task next : Task} {act : TaskAct} {effect : Effect} {start : Start}
  {past : List TaskAct}

theorem asks_spawn {listener : Listener} (sid : UInt32) :
    (spawn listener.start sid).Asks listener.start [] := by
  cases listener <;> constructor <;>
    simp [spawn, Listener.start, Start.pc, Start.request, Pc.flow, eq_comm]

theorem Asks.later (asks : task.Asks start past) (same_sid : next.sid = task.sid)
    (asked : next.pc ≠ .handshake ∧ next.pc ≠ .readCommand ∧
      ∀ flow host port, next.pc ≠ .connecting flow host port)
    (flow : ∀ flow, next.pc.flow = some flow → task.pc.flow = some flow)
    (sent : task.sent <+: next.sent) (opens : task.sent = [] → next.sent = [])
    (relay : ∀ after, next.relay = some after →
      ∃ before, task.relay = some before ∧ after.kind = before.kind) :
    next.Asks start (past ++ [act]) where
  unread early := by
    rcases early with at_pc | at_pc
    · exact absurd at_pc asked.1
    · exact absurd at_pc asked.2.1
  connecting other host port at_pc := absurd at_pc (asked.2.2 other host port)
  pending other waits := by
    obtain ⟨request, known, same⟩ := asks.pending other (flow other waits)
    exact ⟨request, Start.request_concat known act, same⟩
  sent frame first := by
    have first : task.sent.head? = some frame := by
      cases before : task.sent with
      | nil => simp [opens before] at first
      | cons head tail =>
          obtain ⟨more, split⟩ := sent
          rw [← split, before] at first
          exact first
    obtain ⟨request, known, same⟩ := asks.sent frame first
    exact ⟨request, Start.request_concat known act, same_sid ▸ same⟩
  relay after found := by
    obtain ⟨before, found, kind⟩ := relay after found
    obtain ⟨request, known, same⟩ := asks.relay before found
    exact ⟨request, Start.request_concat known act, kind.trans same⟩

theorem Asks.startRelay (asks : task.Asks start past) {flow : Flow}
    (waits : task.pc.flow = some flow) :
    (task.startRelay flow.relay).Asks start (past ++ [act]) := by
  obtain ⟨request, known, same⟩ := asks.pending flow waits
  have known := Start.request_concat known act
  have later : ({ task with pc := .relaying, relay := none } : Task).Asks start (past ++ [act]) :=
    asks.later rfl (by simp) (by simp [Pc.flow]) List.prefix_rfl id (by simp)
  refine ⟨later.unread, later.connecting, later.pending, later.sent, fun relay found => ?_⟩
  obtain rfl := Option.some.inj found
  exact ⟨request, known, congrArg Flow.relay same.symm⟩

theorem Asks.connectFailed (asks : task.Asks start past) {flow : Flow}
    (waits : task.pc.flow = some flow) (why : WaitFailure) :
    (task.connectFailed why flow).Asks start (past ++ [act]) := by
  cases flow with
  | socksUdp =>
      refine asks.later rfl (by simp [Task.connectFailed]) (fun flow same => ?_) List.prefix_rfl id
        fun after found => ⟨after, found, rfl⟩
      obtain rfl : Flow.socksUdp = flow := Option.some.inj same
      exact waits
  | _ =>
      exact asks.later rfl (by simp [Task.connectFailed]) (by simp [Task.connectFailed, Pc.flow])
        List.prefix_rfl id fun after found => ⟨after, found, rfl⟩

theorem Asks.connected (asks : task.Asks start past) {flow : Flow}
    (waits : task.pc.flow = some flow) :
    (task.connected flow).Asks start (past ++ [act]) := by
  cases flow with
  | socksTcp =>
      refine asks.later rfl (by simp [Task.connected]) (fun flow same => ?_) List.prefix_rfl id
        fun after found => ⟨after, found, rfl⟩
      obtain rfl : Flow.socksTcp = flow := Option.some.inj same
      exact waits
  | socksUdp =>
      refine asks.later rfl (by simp [Task.connected]) (fun flow same => ?_) List.prefix_rfl id
        fun after found => ⟨after, found, rfl⟩
      obtain rfl : Flow.socksUdp = flow := Option.some.inj same
      exact waits
  | forwardedTcp => exact asks.startRelay waits
  | forwardedUdp serverPort => exact asks.startRelay waits

theorem InPhase.sent_ne_nil (phase : task.InPhase)
    (past : task.pc.stage = .established ∨ ∃ relay, task.relay = some relay) : task.sent ≠ [] := by
  intro silent
  have nothing : task.sent.map Frame.frameType = [] := by simp [silent]
  rcases past with established | ⟨relay, spawned⟩
  · obtain ⟨count, types⟩ := phase.established established
    simp [types] at nothing
  · cases stage : task.pc.stage with
    | opening => simp [(phase.opening stage).1] at spawned
    | pending => simp [(phase.pending stage).1] at spawned
    | established =>
        obtain ⟨count, types⟩ := phase.established stage
        simp [types] at nothing
    | closed =>
        rcases phase.closed stage with ⟨count, late, types⟩ | ⟨absent, _⟩
        · simp [types] at nothing
        · simp [absent] at spawned

/-- Only the first frame of a session is a CONNECT frame. -/
theorem InPhase.head_of_connect (phase : task.InPhase) {frame : Frame} (sent : frame ∈ task.sent)
    (connects : frame.frameType = .connect) : task.sent.head? = some frame := by
  cases frames : task.sent with
  | nil => simp [frames] at sent
  | cons head rest =>
      rw [frames] at sent
      rcases List.mem_cons.mp sent with rfl | later
      · rfl
      · have types := (phase.sent_cons frames).2 frame later
        simp [connects] at types

theorem Asks.move (asks : task.Asks start past) (phase : task.InPhase) {pc : Pc}
    (moves : Moves task.pc act pc) : Asks start (past ++ [act]) { task with pc } := by
  -- where the application may still ask, the task has neither sent nor spawned anything
  have reading (early : task.pc.stage = .opening) : task.relay = none ∧ task.sent = [] :=
    phase.opening early
  have asking {command : Command} {host : Host} {port : UInt16} {request : Request}
      (at_pc : task.pc = .readCommand)
      (asked : TaskAct.request (.command (some (command, host, port))) = some request) :
      start.request (past ++ [.command (some (command, host, port))]) = some request := by
    obtain ⟨rfl, nothing⟩ := asks.unread (.inr at_pc)
    simp [Start.request, List.findSome?_append, nothing, asked]
  generalize before : task.pc = pc₀ at moves
  cases moves with
  | handshake =>
      obtain ⟨absent, silent⟩ := reading (by simp [before, Pc.stage])
      obtain ⟨rfl, nothing⟩ := asks.unread (.inl before)
      exact ⟨fun _ => ⟨rfl, by simp [List.findSome?_append, nothing, TaskAct.request]⟩, by simp,
        by simp [Pc.flow], by simp [silent], by simp [absent]⟩
  | tcpConnect =>
      obtain ⟨absent, silent⟩ := reading (by simp [before, Pc.stage])
      refine ⟨by simp, fun flow host port same => ?_, by simp [Pc.flow], by simp [silent],
        by simp [absent]⟩
      cases same
      exact asking before rfl
  | udpAssociate =>
      obtain ⟨absent, silent⟩ := reading (by simp [before, Pc.stage])
      refine ⟨by simp, fun flow host port same => ?_, by simp [Pc.flow], by simp [silent],
        by simp [absent]⟩
      cases same
      exact asking before rfl
  | _ =>
      exact asks.later rfl (by simp) (by simp [before, Pc.flow]) List.prefix_rfl id
        fun after found => ⟨after, found, rfl⟩

/-- Every step of a session of the client keeps it to its request. -/
theorem Asks.step (asks : task.Asks start past) (phase : task.InPhase)
    (client : task.side = .client) (taken : Step socks task act next effect) :
    next.Asks start (past ++ [act]) := by
  cases taken with
  | move moves => exact asks.move phase moves
  | send pending =>
      have not_server {pc : Pc} (at_pc : task.pc = pc) (serves : pc.side = some .server) :
          False := by
        have server := phase.side .server (at_pc ▸ serves)
        cases client.symm.trans server
      cases pendingSend_cases pending with
      | @connect flow host port connecting =>
          obtain ⟨absent, silent⟩ := phase.opening (by simp [connecting, Pc.stage])
          have known := Start.request_concat (asks.connecting flow host port connecting) .send
          refine ⟨by simp, by simp, fun other same => ?_, fun frame first => ?_, by simp [absent]⟩
          · exact ⟨_, known, Option.some.inj same⟩
          · simp only [silent, List.nil_append, List.head?_cons, Option.some.injEq] at first
            exact ⟨_, known, first.symm⟩
      | refuse refusing => exact (not_server refusing rfl).elim
      | confirm confirming => exact (not_server confirming rfl).elim
      | close closing =>
          have opened := phase.sent_ne_nil (.inl (by simp [closing, Pc.stage]))
          exact asks.later rfl (by simp) (by simp [Pc.flow]) (List.prefix_append _ _)
            (fun silent => absurd silent opened) fun after found => ⟨after, found, rfl⟩
  | @reply flow result waiting =>
      have waits : task.pc.flow = some flow := by simp [waiting, Pc.flow]
      cases result with
      | none => exact asks.connectFailed waits .channelClosed
      | some frame =>
          have answered : Asks start past { task with answers := task.answers ++ [frame] } :=
            ⟨asks.unread, asks.connecting, asks.pending, asks.sent, asks.relay⟩
          simp only [onReply]
          split
          · exact answered.connected waits
          · exact answered.connectFailed waits .connectErr
          · exact answered.later rfl (by simp [waiting]) (fun _ => id) List.prefix_rfl id
              fun after found => ⟨after, found, rfl⟩
  | @timeout flow waiting => exact asks.connectFailed (by simp [waiting, Pc.flow]) .timeout
  | replied replying => exact asks.startRelay (by simp [replying, Pc.flow])
  | @filtered answer addr config filtering =>
      have serves := phase.side .server (by simp [filtering, Pc.side])
      cases client.symm.trans serves
  | @select relay _ found =>
      refine asks.later rfl (by simp) (by simp [Pc.flow]) List.prefix_rfl id fun after later => ?_
      obtain rfl := Option.some.inj later
      exact ⟨relay, found, rfl⟩
  | dropSession =>
      exact asks.later rfl (by simp) (by simp [Pc.flow]) List.prefix_rfl id
        fun after found => ⟨after, found, rfl⟩
  | @relay act relay after effect found taken =>
      have late : task.pc.stage ≠ .opening := by
        intro early
        simp [(phase.opening early).1] at found
      refine asks.later rfl ?_ (fun _ => id) (List.prefix_append _ _)
        (fun silent => absurd silent (phase.sent_ne_nil (.inr ⟨relay, found⟩))) fun last later => ?_
      · refine ⟨?_, ?_, fun flow host port => ?_⟩
        all_goals
          intro at_pc
          have at_pc : task.pc = _ := at_pc
          simp [at_pc, Pc.stage] at late
      · obtain rfl := Option.some.inj later
        exact ⟨relay, found, taken.same_kind.1⟩

theorem asks_of_run {listener : Listener} {sid : UInt32}
    (execution : Execution.run (advance socks) (spawn listener.start sid) past = some task) :
    task.Asks listener.start past := by
  suffices kept : task.InPhase ∧ task.side = .client ∧ task.Asks listener.start past from kept.2.2
  refine Execution.run_past (fun past (task : Task) => task.InPhase ∧ task.side = .client ∧
    task.Asks listener.start past) ?_
    ⟨inPhase_spawn listener.start sid, listener.side_start, asks_spawn sid⟩ execution
  rintro past before act after ⟨phase, client, asks⟩ taken
  obtain ⟨effect, taken⟩ := advance_cases taken
  exact ⟨phase.step taken, taken.identity.2.trans client, asks.step phase client taken⟩

end Steps

end Task

/-! ## What the client is told -/

/-- What a handler that has ended so has been told about its session. -/
def Exit.verdict : Exit → Option (Except WaitFailure Unit)
  | connectFailed why => some (.error why)
  | replyFailed => some (.ok ())
  | _ => none

/-- What a handler has been told about its session. -/
def Pc.verdict : Pc → Option (Except WaitFailure Unit)
  | binding result => some result
  | replying _ => some (.ok ())
  | replyingFailure why => some (.error why)
  | closing exit => exit.verdict
  | dropping exit => exit.verdict
  | ended exit => exit.verdict
  | _ => none

namespace Task

/-- The session is open, as far as the client knows. -/
def Accepted (task : Task) : Prop :=
  task.pc.verdict = some (.ok ()) ∨ ∃ relay, task.relay = some relay

/-- The server has refused the session, as far as the client knows. -/
def Refused (task : Task) : Prop :=
  task.pc.verdict = some (.error .connectErr)

/-- A session of the client takes to be open what was confirmed, and to be refused what was
refused. -/
structure Told (task : Task) : Prop where
  /-- CONN_OK was received. -/
  accepted : task.Accepted → ∃ frame ∈ task.answers, frame.frameType = .connectOk
  /-- CONN_ERR was received. -/
  refused : task.Refused → ∃ frame ∈ task.answers, frame.frameType = .connectErr

section Steps

variable {socks : FastSocks5} {task next : Task} {act : TaskAct} {effect : Effect}

theorem Told.later (told : task.Told) (answers : ∀ frame ∈ task.answers, frame ∈ next.answers)
    (accepted : next.Accepted → task.Accepted) (refused : next.Refused → task.Refused) :
    next.Told where
  accepted opened := by
    obtain ⟨frame, member, ok⟩ := told.accepted (accepted opened)
    exact ⟨frame, answers frame member, ok⟩
  refused rejected := by
    obtain ⟨frame, member, err⟩ := told.refused (refused rejected)
    exact ⟨frame, answers frame member, err⟩

theorem Told.move (told : task.Told) {pc : Pc} (moves : Moves task.pc act pc) :
    Told { task with pc } := by
  have same : pc.verdict = none ∨ pc.verdict = task.pc.verdict := by
    generalize task.pc = before at moves
    cases moves <;> simp [Pc.verdict, Exit.verdict]
  refine told.later (fun _ => id) (fun accepted => ?_) fun refused => ?_
  · rcases accepted with verdict | relay
    · rcases same with nothing | same
      · cases nothing.symm.trans verdict
      · exact .inl (same.symm.trans verdict)
    · exact .inr relay
  · rcases same with nothing | same
    · cases nothing.symm.trans refused
    · exact same.symm.trans refused

/-- A wait that fails without an answer does not tell of a refusal. -/
theorem told_connectFailed (absent : task.relay = none) {why : WaitFailure}
    (flow : Flow)
    (answered : why = .connectErr → ∃ frame ∈ task.answers, frame.frameType = .connectErr) :
    (task.connectFailed why flow).Told := by
  have verdict : (task.connectFailed why flow).pc.verdict = some (.error why) := by
    cases flow <;> rfl
  obtain ⟨pc, same⟩ := task.connectFailed_frame why flow
  have same_answers : (task.connectFailed why flow).answers = task.answers := by simp [same]
  have same_relay : (task.connectFailed why flow).relay = none := by simp [same, absent]
  refine ⟨fun accepted => ?_, fun refused => ?_⟩
  · rcases accepted with ok | ⟨relay, found⟩
    · cases verdict.symm.trans ok
    · cases same_relay.symm.trans found
  · rw [same_answers]
    refine answered ?_
    cases verdict.symm.trans refused
    rfl

theorem told_connected (flow : Flow)
    (answered : ∃ frame ∈ task.answers, frame.frameType = .connectOk) :
    (task.connected flow).Told := by
  obtain ⟨pc, relay, same⟩ := task.connected_frame flow
  have same_answers : (task.connected flow).answers = task.answers := by simp [same]
  refine ⟨fun _ => same_answers ▸ answered, fun refused => ?_⟩
  cases flow <;> cases refused

/-- Every step of a session of the client tells it the truth about the frames it has received. -/
theorem Told.step (told : task.Told) (phase : task.InPhase) (inTime : task.SpawnsInTime)
    (client : task.side = .client) (taken : Step socks task act next effect) : next.Told := by
  have not_server {pc : Pc} (at_pc : task.pc = pc) (serves : pc.side = some .server) : False := by
    cases client.symm.trans (phase.side .server (at_pc ▸ serves))
  cases taken with
  | move moves => exact told.move moves
  | send pending =>
      cases pendingSend_cases pending with
      | connect =>
          refine told.later (fun _ => id) (fun accepted => ?_) fun refused => by cases refused
          rcases accepted with verdict | relay
          · cases verdict
          · exact .inr relay
      | refuse refusing => exact (not_server refusing rfl).elim
      | confirm confirming => exact (not_server confirming rfl).elim
      | @close exit closing =>
          have same : task.pc.verdict = (Pc.dropping exit).verdict := by rw [closing]; rfl
          exact told.later (fun _ => id) (.imp_left same.trans) same.trans
  | @reply flow result waiting =>
      have absent : task.relay = none := inTime (.inr (by simp [waiting, Pc.stage]))
      cases result with
      | none => exact told_connectFailed absent flow (by simp)
      | some frame =>
          simp only [onReply]
          split
          · exact told_connected flow ⟨frame, by simp, ‹_›⟩
          · refine told_connectFailed ?_ flow fun _ => ⟨frame, by simp, ‹_›⟩
            exact absent
          · exact told.later (fun _ => List.mem_append_left _) id id
  | @timeout flow waiting =>
      have absent : task.relay = none := inTime (.inr (by simp [waiting, Pc.stage]))
      exact told_connectFailed absent flow (by simp)
  | @replied flow replying =>
      refine told.later (fun _ => id) (fun _ => .inl ?_) fun refused => by cases refused
      rw [replying]
      rfl
  | filtered filtering => exact (not_server filtering rfl).elim
  | @select relay _ found =>
      exact told.later (fun _ => id) (fun _ => .inr ⟨relay, found⟩) fun refused => by cases refused
  | @dropSession exit dropping =>
      have same : task.pc.verdict = (Pc.ended exit).verdict := by rw [dropping]; rfl
      exact told.later (fun _ => id) (.imp_left same.trans) same.trans
  | @relay relayAct relay after effect found taken =>
      exact told.later (fun _ => id) (fun _ => .inr ⟨relay, found⟩) id

theorem told_of_run {listener : Listener} {sid : UInt32} {past : List TaskAct}
    (execution : Execution.run (advance socks) (spawn listener.start sid) past = some task) :
    task.Told := by
  have kept : ∀ before act after,
      before.InPhase ∧ before.SpawnsInTime ∧ before.side = .client ∧ before.Told →
      advance socks before act = some after →
      after.InPhase ∧ after.SpawnsInTime ∧ after.side = .client ∧ after.Told := by
    rintro before act after ⟨phase, inTime, client, told⟩ taken
    obtain ⟨effect, taken⟩ := advance_cases taken
    exact ⟨phase.step taken, inTime.step taken, taken.identity.2.trans client,
      told.step phase inTime client taken⟩
  have fresh : (spawn listener.start sid).Told := by
    have nothing : (spawn listener.start sid).pc.verdict = none := by cases listener <;> rfl
    refine ⟨fun accepted => ?_, fun refused => by cases nothing.symm.trans refused⟩
    rcases accepted with ok | ⟨relay, found⟩
    · cases nothing.symm.trans ok
    · cases found
  exact (Execution.run_invariant kept
    ⟨inPhase_spawn listener.start sid, spawnsInTime_spawn listener.start sid, listener.side_start,
      fresh⟩ execution).2.2.2

end Steps

end Task

/-! ## Sessions of the server -/

/-- What the handler of a TCP session does on the way to a connection. -/
def dialled (target : SocketAddr) : List Io :=
  [.resolved (some (.ip target)), .checked target .tcp true, .connect target]

/-- What a session of the server has done once it is open: for TCP it has connected to an address
its resolver gave and its filter allows, for UDP it has bound a socket. -/
def Start.Opened (kind : RelayKind) (io : List Io) : Start → Prop
  | .serverTcp _ config => kind = .bidirectionalTcp ∧
      ∃ target, allowedIp target config .tcp = true ∧ io = dialled target
  | .serverUdp config => kind = .udpServerSide config ∧ io = []
  | _ => False

/-- Where a handler of the server stands, with what it has done. -/
inductive Attends : Start → Pc → List Io → Prop
  | filtering {addr config} : Attends (.serverTcp addr config) (.filtering addr config) []
  | opening {addr config target} (allowed : allowedIp target config .tcp = true) :
      Attends (.serverTcp addr config) (.opening target) (dialled target)
  | serverBinding {config} : Attends (.serverUdp config) (.serverBinding config) []
  | refusing {start payload io} : Attends start (.refusing payload) io
  | confirming {start kind io} (opened : start.Opened kind io) : Attends start (.confirming kind) io
  | later {start pc io} (late : pc.stage = .established ∨ pc.stage = .closed) : Attends start pc io

namespace Task

/-- A session of the server does what it was started for. -/
structure Serves (start : Start) (task : Task) : Prop where
  /-- Where the handler stands. -/
  attends : Attends start task.pc task.io
  /-- There is a relay only once the session is open, and it is the one for that. -/
  relay : ∀ relay, task.relay = some relay → start.Opened relay.kind task.io
  /-- CONN_OK is sent with the relay. -/
  confirmed : ∀ frame ∈ task.sent, frame.frameType = .connectOk → ∃ relay, task.relay = some relay

section Steps

variable {socks : FastSocks5} {task next : Task} {act : TaskAct} {effect : Effect} {start : Start}

theorem serves_spawn {filterConfig : FilterConfig} (spawns : Server.Spawns filterConfig start)
    (sid : UInt32) : (spawn start sid).Serves start := by
  rcases spawns with ⟨addr, rfl⟩ | rfl
  · exact ⟨.filtering, by simp [spawn], by simp [spawn]⟩
  · exact ⟨.serverBinding, by simp [spawn], by simp [spawn]⟩

theorem Serves.later (serves : task.Serves start)
    (late : next.pc.stage = .established ∨ next.pc.stage = .closed) (io : next.io = task.io)
    (relay : ∀ after, next.relay = some after →
      ∃ before, task.relay = some before ∧ after.kind = before.kind)
    (kept : ∀ before, task.relay = some before → ∃ after, next.relay = some after)
    (sent : ∀ frame ∈ next.sent, frame.frameType = .connectOk → frame ∈ task.sent) :
    next.Serves start where
  attends := .later late
  relay after found := by
    obtain ⟨before, found, kind⟩ := relay after found
    rw [kind, io]
    exact serves.relay before found
  confirmed frame member ok := by
    obtain ⟨before, found⟩ := serves.confirmed frame (sent frame member ok) ok
    exact kept before found

theorem Serves.move (serves : task.Serves start) {pc : Pc} (moves : Moves task.pc act pc) :
    Serves start { task with pc } := by
  have attends := serves.attends
  refine ⟨?_, serves.relay, serves.confirmed⟩
  change Attends start pc task.io
  generalize task.pc = before at moves attends
  generalize task.io = io at attends
  cases moves with
  | opened =>
      cases attends with
      | opening allowed => exact .confirming ⟨rfl, _, allowed, rfl⟩
      | later late => simp [Pc.stage] at late
  | serverBound =>
      cases attends with
      | serverBinding => exact .confirming ⟨rfl, rfl⟩
      | later late => simp [Pc.stage] at late
  | openFailed => exact .refusing
  | serverBindFailed => exact .refusing
  | replyFailed => exact .later (.inl rfl)
  | repliedFailure => exact .later (.inr rfl)
  | repliedUnsupported => exact .later (.inr rfl)
  | handshakeFailed => exact .later (.inr rfl)
  | commandFailed => exact .later (.inr rfl)
  | bindPanicked => exact .later (.inr rfl)
  | _ =>
      cases attends with
      | later late => simp [Pc.stage] at late

/-- Every step of a session of the server keeps it to what it was started for. -/
theorem Serves.step (serves : task.Serves start) (inTime : task.SpawnsInTime)
    (taken : Step socks task act next effect) : next.Serves start := by
  have attends := serves.attends
  cases taken with
  | move moves => exact serves.move moves
  | send pending =>
      cases pendingSend_cases pending with
      | connect connecting =>
          rw [connecting] at attends
          cases attends with
          | later late => simp [Pc.stage] at late
      | refuse refusing =>
          refine serves.later (.inr rfl) rfl (fun after found => ⟨after, found, rfl⟩)
            (fun before found => ⟨before, found⟩) fun frame member ok => ?_
          rcases List.mem_append.mp member with old | now
          · exact old
          · obtain rfl := List.mem_singleton.mp now
            cases ok
      | @confirm kind confirming =>
          rw [confirming] at attends
          cases attends with
          | confirming opened =>
              refine ⟨.later (.inl rfl), fun relay found => ?_, fun _ _ _ => ⟨_, rfl⟩⟩
              obtain rfl := Option.some.inj found
              exact opened
          | later late => simp [Pc.stage] at late
      | close closing =>
          refine serves.later (.inr rfl) rfl (fun after found => ⟨after, found, rfl⟩)
            (fun before found => ⟨before, found⟩) fun frame member ok => ?_
          rcases List.mem_append.mp member with old | now
          · exact old
          · obtain rfl := List.mem_singleton.mp now
            cases ok
  | reply waiting =>
      rw [waiting] at attends
      cases attends with
      | later late => simp [Pc.stage] at late
  | timeout waiting =>
      rw [waiting] at attends
      cases attends with
      | later late => simp [Pc.stage] at late
  | replied replying =>
      rw [replying] at attends
      cases attends with
      | later late => simp [Pc.stage] at late
  | @filtered answer addr config filtering =>
      have absent : task.relay = none := inTime (.inl (by simp [filtering, Pc.stage]))
      have silent (frame : Frame) (member : frame ∈ task.sent) : frame.frameType ≠ .connectOk := by
        intro ok
        obtain ⟨relay, found⟩ := serves.confirmed frame member ok
        simp [absent] at found
      rw [filtering] at attends
      generalize known : task.io = io at attends
      cases attends with
      | filtering =>
          rw [onFiltered]
          split
          · rename_i target passed
            refine ⟨?_, by simp [absent], fun frame member ok => absurd ok (silent frame member)⟩
            have allowed := (filterAndConvert_eq_some.mp passed).2
            simpa [known, filterIo_of_allowed passed, dialled] using Attends.opening allowed
          · exact ⟨.refusing, by simp [absent],
              fun frame member ok => absurd ok (silent frame member)⟩
      | later late => simp [Pc.stage] at late
  | @select relay _ found =>
      refine serves.later (.inl rfl) rfl (fun after later => ?_) (fun _ _ => ⟨_, rfl⟩)
        fun _ member _ => member
      obtain rfl := Option.some.inj later
      exact ⟨relay, found, rfl⟩
  | dropSession =>
      exact serves.later (.inr rfl) rfl (fun after found => ⟨after, found, rfl⟩)
        (fun before found => ⟨before, found⟩) fun _ member _ => member
  | @relay relayAct relay after effect found taken =>
      have late : task.pc.stage = .established ∨ task.pc.stage = .closed := by
        by_contra early
        have absent := inTime (by cases stage : task.pc.stage <;> simp_all)
        simp [absent] at found
      refine serves.later late rfl (fun last later => ?_) (fun _ _ => ⟨_, rfl⟩)
        fun frame member ok => ?_
      · obtain rfl := Option.some.inj later
        exact ⟨relay, found, taken.same_kind.1⟩
      · rcases List.mem_append.mp member with old | now
        · exact old
        · rcases taken.frames_eq with nothing | ⟨_, payload, sent⟩
          · simp [nothing] at now
          · rw [sent] at now
            obtain rfl := List.mem_singleton.mp now
            cases ok

theorem serves_of_run {filterConfig : FilterConfig} (spawns : Server.Spawns filterConfig start)
    {sid : UInt32} {past : List TaskAct}
    (execution : Execution.run (advance socks) (spawn start sid) past = some task) :
    task.Serves start := by
  suffices kept : task.SpawnsInTime ∧ task.Serves start from kept.2
  have kept : ∀ before act after, before.SpawnsInTime ∧ before.Serves start →
      advance socks before act = some after → after.SpawnsInTime ∧ after.Serves start := by
    rintro before act after ⟨inTime, serves⟩ taken
    obtain ⟨effect, taken⟩ := advance_cases taken
    exact ⟨inTime.step taken, serves.step inTime taken⟩
  exact Execution.run_invariant kept ⟨spawnsInTime_spawn start sid, serves_spawn spawns sid⟩
    execution

end Steps

end Task

theorem Request.spawns_start (request : Request) (filterConfig : FilterConfig) :
    Server.Spawns filterConfig (request.start filterConfig) := by
  rw [start]
  split
  · exact .inr rfl
  · exact .inl ⟨_, rfl⟩

theorem Request.serverRelay_of_opened {request : Request} {filterConfig : FilterConfig}
    {kind : RelayKind} {io : List Io} (opened : (request.start filterConfig).Opened kind io) :
    kind = request.serverRelay filterConfig := by
  rw [start] at opened
  rw [serverRelay]
  split_ifs at opened ⊢ with udp
  · exact opened.1
  · exact opened.1

/-! ## Both ends -/

namespace Tunnel

theorem refuses_of_actAt {tunnel : Tunnel} {act : TunnelAct} {sid : UInt32}
    (refuses : (tunnel.actAt .server act).bind Endpoint.opens = some (sid, none)) :
    ∃ frame, tunnel.handles .server act = some frame ∧ frame.frameType = .connect ∧
      Server.starts tunnel.filterConfig frame = none := by
  cases act with
  | session other chan act =>
      by_cases same : other = .server <;> simp [actAt, same, Endpoint.opens] at refuses
  | sender other act =>
      by_cases same : other = .server <;> simp [actAt, same, Endpoint.opens] at refuses
  | nextSessionId => simp [actAt] at refuses
  | accept listener other => simp [actAt] at refuses
  | deliver other =>
      by_cases same : other = .server
      · simp only [actAt, if_pos same, Option.bind_map, Option.bind_eq_some_iff] at refuses
        obtain ⟨packet, _, opens⟩ := refuses
        cases opens
      · simp [actAt, same] at refuses
  | handle other =>
      simp only [actAt, Option.bind_eq_some_iff, Option.ite_none_right_eq_some] at refuses
      obtain ⟨made, ⟨rfl, frame, decoded, reacts⟩, opens⟩ := refuses
      have opened := Server.opens_onFrame tunnel.filterConfig frame
      rw [show Server.onFrame tunnel.filterConfig frame = some made from reacts, Option.bind_some,
        opens] at opened
      split_ifs at opened with connects
      exact ⟨frame, by simp [handles, decoded], connects,
        (Prod.mk.inj (Option.some.inj opened)).2.symm⟩

theorem opens_of_handles {tunnel : Tunnel} {act : TunnelAct} {frame : Frame}
    (handles : tunnel.handles .server act = some frame) (connects : frame.frameType = .connect) :
    (tunnel.actAt .server act).bind Endpoint.opens =
      some (frame.sessionId, Server.starts tunnel.filterConfig frame) := by
  cases act with
  | handle other =>
      simp only [Tunnel.handles, Option.ite_none_right_eq_some] at handles
      obtain ⟨rfl, decoded⟩ := handles
      have opened := Server.opens_onFrame tunnel.filterConfig frame
      rw [if_pos connects] at opened
      simpa [actAt, decoded, Side.reaction] using opened
  | _ => simp [Tunnel.handles] at handles

section Runs

variable {linkMdu : ℕ+} {socks : FastSocks5} {filterConfig : FilterConfig} {link : LinkId}
  {acts : List TunnelAct} {tunnel : Tunnel}

theorem client_of_run
    (execution : Execution.run (step linkMdu socks) (new filterConfig link) acts = some tunnel)
    {chan : ChanId} {task : Task} (found : (tunnel.ends .client).tasks chan = some task) :
    ∃ listener, .accept listener task.sid ∈ acts ∧
      task.Asks listener.start (sessionActs .client chan acts) ∧ task.Told := by
  obtain ⟨start, ⟨listener, rfl, accepted⟩, own⟩ := origin_of_run execution found
  exact ⟨listener, accepted, Task.asks_of_run own, Task.told_of_run own⟩

/-- Every CONNECT frame the server handles is the request of a session of the client. -/
theorem request_of_handled
    (execution : Execution.run (step linkMdu socks) (new filterConfig link) acts = some tunnel)
    (distinct : tunnel.DistinctIds) {frame : Frame}
    (handled : frame ∈ (tunnel.inbound .server).handled) (connects : frame.frameType = .connect) :
    ∃ chan task listener request,
      (tunnel.ends .client).tasks chan = some task ∧ task.sid = frame.sessionId ∧
      .accept listener task.sid ∈ acts ∧
      listener.start.request (sessionActs .client chan acts) = some request ∧
      frame = request.frame task.sid ∧ task.sent.head? = some frame ∧
      ∀ relay, task.relay = some relay → relay.kind = request.flow.relay := by
  have coherent := coherent_of_reachable ⟨acts, execution⟩ distinct
  have logged := coherent.mem_log_of_handled .client handled
  obtain ⟨chan, task, found, same_sid⟩ := coherent.task_of_mem logged
  obtain ⟨listener, accepted, asks, _⟩ := client_of_run execution found
  have sent : frame ∈ task.sent := by
    rw [← coherent.sent_eq found]
    exact mem_framesOf.mpr ⟨logged, same_sid.symm⟩
  have phase := ((coherent.sound .client).tasks chan task found).phase
  have first := phase.head_of_connect sent connects
  obtain ⟨request, known, same⟩ := asks.sent frame first
  refine ⟨chan, task, listener, request, found, same_sid, accepted, known, same, first,
    fun relay spawned => ?_⟩
  obtain ⟨other, known_other, kind⟩ := asks.relay relay spawned
  obtain rfl : other = request := Option.some.inj (known_other.symm.trans known)
  exact kind

/-- The server has a session for every CONNECT frame it has handled. -/
theorem server_of_handled
    (execution : Execution.run (step linkMdu socks) (new filterConfig link) acts = some tunnel)
    (distinct : tunnel.DistinctIds) {frame : Frame}
    (handled : frame ∈ (tunnel.inbound .server).handled) (connects : frame.frameType = .connect) :
    ∃ chan sink, (tunnel.ends .server).tasks chan = some sink ∧ sink.sid = frame.sessionId := by
  obtain ⟨_, _, _, request, _, _, _, _, same, _⟩ :=
    request_of_handled execution distinct handled connects
  rw [handled_of_run execution] at handled
  obtain ⟨⟨earlier, act⟩, taken, handles⟩ := List.mem_filterMap.mp handled
  have opens := opens_of_handles handles connects
  rw [filterConfig_of_run execution _ taken, same, request.starts_frame, ← same] at opens
  obtain ⟨endpointAct, made, opens⟩ := Option.bind_eq_some_iff.mp opens
  have spawns : Endpoint.spawned endpointAct =
      some (request.start filterConfig, frame.sessionId) := by
    cases endpointAct with
    | spawn start sid =>
        obtain ⟨same_sid, same_start⟩ := Prod.mk.inj (Option.some.inj opens)
        exact congrArg some (Prod.ext (Option.some.inj same_start) same_sid)
    | _ => cases opens
  obtain ⟨_, accounted⟩ := Endpoint.accounted_of_run (run_actsAt execution .server)
  -- the channels are numbered in the order of the spawns
  have member : (request.start filterConfig, frame.sessionId) ∈
      (.setLinkId link :: actsAt .server (Execution.trace (step linkMdu socks)
        (new filterConfig link) acts)).filterMap Endpoint.spawned := by
    refine List.mem_filterMap.mpr ⟨endpointAct, List.mem_cons_of_mem _ ?_, spawns⟩
    exact List.mem_filterMap.mpr ⟨_, taken, made⟩
  obtain ⟨chan, listed⟩ := List.mem_iff_getElem?.mp member
  obtain ⟨bound, _⟩ := List.getElem?_eq_some_iff.mp listed
  obtain ⟨sink, found⟩ := accounted.created chan (accounted.nextChan ▸ bound)
  obtain ⟨start, own, _⟩ := accounted.task chan sink found
  exact ⟨chan, sink, found, (Prod.mk.inj (Option.some.inj (own.symm.trans listed))).2⟩

theorem origin_of_mem_log
    (execution : Execution.run (step linkMdu socks) (new filterConfig link) acts = some tunnel)
    (distinct : tunnel.DistinctIds) {out : Outgoing}
    (member : out ∈ (tunnel.ends .server).mux.log) : out.origin ≠ none := by
  intro origin
  have refused := Endpoint.refused_of_mem_log (run_actsAt execution .server) member origin
  have opened := Endpoint.mem_refuses_iff.mp refused
  simp only [List.filterMap_cons, Endpoint.opens, actsAt, List.filterMap_filterMap,
    List.mem_filterMap] at opened
  obtain ⟨⟨earlier, act⟩, taken, opens⟩ := opened
  obtain ⟨frame, handled, connects, starts⟩ := refuses_of_actAt opens
  rw [filterConfig_of_run execution _ taken] at starts
  have handled : frame ∈ (tunnel.inbound .server).handled := by
    rw [handled_of_run execution]
    exact List.mem_filterMap.mpr ⟨_, taken, handled⟩
  obtain ⟨_, _, _, request, _, _, _, _, same, _⟩ :=
    request_of_handled execution distinct handled connects
  rw [same, request.starts_frame] at starts
  cases starts

/-- A session of the server with the session of the client that has asked for it. -/
structure AskedFor (socks : FastSocks5) (filterConfig : FilterConfig) (acts : List TunnelAct)
    (tunnel : Tunnel) (chan : ChanId) (sink : Task) (peer : ChanId) (source : Task)
    (request : Request) : Prop where
  /-- The client has the session. -/
  found : (tunnel.ends .client).tasks peer = some source
  /-- It has the same id. -/
  same_sid : source.sid = sink.sid
  /-- It was accepted, and the request is the one of its listener or its application. -/
  asked : ∃ listener, .accept listener source.sid ∈ acts ∧
    listener.start.request (sessionActs .client peer acts) = some request
  /-- The first frame of the session is the CONNECT that names its host, port and protocol. -/
  opening : source.sent.head? = some (request.frame source.sid)
  /-- The server serves that very request. -/
  served : Execution.run (Task.advance socks) (Task.spawn (request.start filterConfig) sink.sid)
    (sessionActs .server chan acts) = some sink
  /-- The client relays for the flow that asked. -/
  client : ∀ relay, source.relay = some relay → relay.kind = request.flow.relay
  /-- The server relays by the protocol that was asked for. -/
  server : ∀ relay, sink.relay = some relay → relay.kind = request.serverRelay filterConfig

theorem askedFor_of_run
    (execution : Execution.run (step linkMdu socks) (new filterConfig link) acts = some tunnel)
    (distinct : tunnel.DistinctIds) {chan : ChanId} {sink : Task}
    (found : (tunnel.ends .server).tasks chan = some sink) :
    ∃ peer source request, tunnel.AskedFor socks filterConfig acts chan sink peer source request ∧
      sink.Serves (request.start filterConfig) := by
  obtain ⟨start, ⟨frame, handled, connects, same_sid, starts⟩, own⟩ :=
    origin_of_run execution found
  obtain ⟨peer, source, listener, request, found_source, source_sid, accepted, known, same, first,
    relays⟩ := request_of_handled execution distinct handled connects
  obtain rfl : start = request.start filterConfig := by
    rw [same, request.starts_frame] at starts
    exact (Option.some.inj starts).symm
  have serves := Task.serves_of_run (request.spawns_start filterConfig) own
  exact ⟨peer, source, request,
    { found := found_source
      same_sid := source_sid.trans same_sid
      asked := ⟨listener, accepted, known⟩
      opening := first.trans (congrArg some same)
      served := own
      client := relays
      server := fun relay spawned => Request.serverRelay_of_opened (serves.relay relay spawned) },
    serves⟩

/-- In every run of a tunnel whose sessions have ids of their own, each session of the server serves
the request of exactly one session of the client, and no other session has its id. The CONNECT of
that session names the host, the port and the protocol that were asked for; both ends relay by that
protocol, and for TCP the session of the server is spawned for that host and port. The server
refuses none of the requests it is sent for being malformed. -/
theorem servesRequests
    (execution : Execution.run (step linkMdu socks) (new filterConfig link) acts = some tunnel)
    (distinct : tunnel.DistinctIds) :
    (∀ chan sink, (tunnel.ends .server).tasks chan = some sink →
      (∃ peer source request,
        tunnel.AskedFor socks filterConfig acts chan sink peer source request) ∧
      (∀ peer source other task, (tunnel.ends .client).tasks peer = some source →
        (tunnel.ends .client).tasks other = some task → source.sid = sink.sid →
        task.sid = sink.sid → peer = other) ∧
      ∀ other task, (tunnel.ends .server).tasks other = some task → task.sid = sink.sid →
        other = chan) ∧
    ∀ out ∈ (tunnel.ends .server).mux.log, out.origin ≠ none := by
  refine ⟨fun chan sink found => ⟨?_, ?_, ?_⟩, fun out => origin_of_mem_log execution distinct⟩
  · obtain ⟨peer, source, request, askedFor, _⟩ := askedFor_of_run execution distinct found
    exact ⟨peer, source, request, askedFor⟩
  · intro peer source other task found_source found_task source_sid task_sid
    exact distinct peer other source task found_source found_task (source_sid.trans task_sid.symm)
  · have coherent := coherent_of_reachable ⟨acts, execution⟩ distinct
    exact ((coherent.sound .server).fresh chan sink found).1

/-- A connection to a forwarded port is served as a request for that port. -/
theorem servesRequests_openSession :
    ∃ tunnel sink, Execution.run (step 431 .rfc1928) (new (serverConfig false false) 1)
        openSession = some tunnel ∧
      (tunnel.ends .server).tasks 0 = some sink ∧
      ∃ peer source request, tunnel.AskedFor .rfc1928 (serverConfig false false) openSession 0 sink
        peer source request := by
  have ends : ∃ tunnel sink, Execution.run (step 431 .rfc1928) (new (serverConfig false false) 1)
        openSession = some tunnel ∧
      (tunnel.ends .server).tasks 0 = some sink ∧ (tunnel.ends .client).mux.nextChan = 1 :=
    ⟨_, _, rfl, rfl, rfl⟩
  obtain ⟨tunnel, sink, execution, found, single⟩ := ends
  have distinct := distinctIds_of_single ⟨openSession, execution⟩ single
  exact ⟨tunnel, sink, execution, found, ((servesRequests execution distinct).1 0 sink found).1⟩

theorem sent_of_answered
    (execution : Execution.run (step linkMdu socks) (new filterConfig link) acts = some tunnel)
    (distinct : tunnel.DistinctIds) {chan : ChanId} {source : Task}
    (found : (tunnel.ends .client).tasks chan = some source) {frame : Frame}
    (answered : frame ∈ source.answers) :
    ∃ peer sink, (tunnel.ends .server).tasks peer = some sink ∧ sink.sid = source.sid ∧
      frame ∈ sink.sent := by
  have coherent := coherent_of_reachable ⟨acts, execution⟩ distinct
  have taken : frame ∈ (tunnel.ends .client).inbox chan source := by
    simp [Endpoint.inbox, Task.taken, answered]
  have dispatched := (coherent.delivers .client chan source found).1.subset taken
  obtain ⟨handled, same_sid⟩ := mem_framesOf.mp (List.mem_filter.mp dispatched).1
  have logged := coherent.mem_log_of_handled .server handled
  obtain ⟨out, member, rfl⟩ := List.mem_map.mp logged
  cases origin : out.origin with
  | none => exact absurd origin (origin_of_mem_log execution distinct member)
  | some peer =>
      obtain ⟨sink, found_sink, sink_sid⟩ :=
        (coherent.sound .server).well.origin out member peer origin
      refine ⟨peer, sink, found_sink, sink_sid.trans same_sid, ?_⟩
      rw [← coherent.sent_eq found_sink]
      exact mem_framesOf.mpr ⟨logged, sink_sid.symm⟩

/-- In every run of a tunnel whose sessions have ids of their own, a session of the client takes to
be open only what the server has opened: for TCP the server has connected to an address its resolver
gave for the request and its filter allows. A session of the client takes to be refused only what
the server has refused with CONN_ERR, and then the server relays nothing. -/
theorem tellsTruth
    (execution : Execution.run (step linkMdu socks) (new filterConfig link) acts = some tunnel)
    (distinct : tunnel.DistinctIds) {chan : ChanId} {source : Task}
    (found : (tunnel.ends .client).tasks chan = some source) :
    (source.Accepted → ∃ peer sink request relay,
      tunnel.AskedFor socks filterConfig acts peer sink chan source request ∧
      (tunnel.ends .server).tasks peer = some sink ∧ sink.relay = some relay ∧
      (request.start filterConfig).Opened relay.kind sink.io) ∧
    (source.Refused → ∃ peer sink, (tunnel.ends .server).tasks peer = some sink ∧
      sink.sid = source.sid ∧ (∃ frame ∈ sink.sent, frame.frameType = .connectErr) ∧
      sink.relay = none ∧ sink.pc.stage = .closed) := by
  have coherent := coherent_of_reachable ⟨acts, execution⟩ distinct
  obtain ⟨_, _, _, told⟩ := client_of_run execution found
  refine ⟨fun accepted => ?_, fun refused => ?_⟩
  · obtain ⟨frame, answered, ok⟩ := told.accepted accepted
    obtain ⟨peer, sink, found_sink, same_sid, sent⟩ :=
      sent_of_answered execution distinct found answered
    obtain ⟨other, task, request, askedFor, serves⟩ :=
      askedFor_of_run execution distinct found_sink
    obtain rfl : other = chan := distinct other chan task source askedFor.found found
      (askedFor.same_sid.trans same_sid)
    obtain rfl := Option.some.inj (askedFor.found.symm.trans found)
    obtain ⟨relay, spawned⟩ := serves.confirmed frame sent ok
    exact ⟨peer, sink, request, relay, askedFor, found_sink, spawned, serves.relay relay spawned⟩
  · obtain ⟨frame, answered, err⟩ := told.refused refused
    obtain ⟨peer, sink, found_sink, same_sid, sent⟩ :=
      sent_of_answered execution distinct found answered
    have sound := (coherent.sound .server).tasks peer sink found_sink
    refine ⟨peer, sink, found_sink, same_sid, ⟨frame, sent, err⟩, ?_, ?_⟩
    · by_contra spawned
      obtain ⟨relay, spawned⟩ := Option.ne_none_iff_exists'.mp spawned
      exact sound.phase.not_connectErr spawned frame sent err
    · have type : FrameType.connectErr ∈ sink.sent.map Frame.frameType :=
        List.mem_map.mpr ⟨frame, sent, err⟩
      have opens : FrameType.connectErr ≠ sink.side.opening := by
        cases sink.side <;> simp [Side.opening]
      cases stage : sink.pc.stage with
      | opening => simp [(sound.phase.opening stage).2] at sent
      | pending => simp [(sound.phase.pending stage).2, opens] at type
      | established =>
          obtain ⟨count, types⟩ := sound.phase.established stage
          simp [types, opens, List.mem_replicate] at type
      | closed => rfl

/-- The session of a forwarded port is open at both ends. -/
theorem tellsTruth_openSession :
    ∃ tunnel source, Execution.run (step 431 .rfc1928) (new (serverConfig false false) 1)
        openSession = some tunnel ∧
      (tunnel.ends .client).tasks 0 = some source ∧ source.Accepted ∧
      ∃ peer sink relay, (tunnel.ends .server).tasks peer = some sink ∧
        sink.relay = some relay := by
  have ends : ∃ tunnel source relay,
      Execution.run (step 431 .rfc1928) (new (serverConfig false false) 1) openSession =
        some tunnel ∧
      (tunnel.ends .client).tasks 0 = some source ∧ source.relay = some relay ∧
      (tunnel.ends .client).mux.nextChan = 1 :=
    ⟨_, _, _, rfl, rfl, rfl, rfl⟩
  obtain ⟨tunnel, source, relay, execution, found, spawned, single⟩ := ends
  have distinct := distinctIds_of_single ⟨openSession, execution⟩ single
  have accepted : source.Accepted := .inr ⟨relay, spawned⟩
  obtain ⟨peer, sink, _, relay, _, found_sink, spawned_sink, _⟩ :=
    (tellsTruth execution distinct found).1 accepted
  exact ⟨tunnel, source, execution, found, accepted, peer, sink, relay, found_sink, spawned_sink⟩

end Runs

end Tunnel

end RnsProxy
