import RnsProxy.EndToEnd
import RnsProxy.Upstream

/-!
# Sessions and the links they come over

A session of the server belongs to exactly one session of the client, however often the client has
lost its link and reconnected, whichever link the session came over, and whatever end of the
packets of a link was lost: it does what that session asks for, and writes to its target a beginning
of what that session has read.
-/

namespace RnsProxy

/-! ## A writer whose channel may be closed at any time -/

/-- A writer writes in order, and up to its end it loses nothing. -/
structure Relay.InOrder (relay : Relay) : Prop where
  /-- It has written a beginning of what it has received. -/
  isPrefix : relay.written <+: dataOf relay.received
  /-- It loses nothing as long as it runs. -/
  running : relay.writer ≠ .finished → relay.Writes

theorem Relay.Step.written_eq {socks : FastSocks5} {sid : UInt32} {relay next : Relay}
    {act : RelayAct} {effect : Effect} (taken : Relay.Step socks sid relay act next effect)
    (finished : relay.writer = .finished) :
    next.written = relay.written ∧ next.received = relay.received := by
  cases taken with
  | @read source available =>
      obtain ⟨_, _, _, _, _, same⟩ := relay.onRead_frame socks source (available.take READ_BUFFER)
      simp [same]
  | recvFrame receiving => simp [finished] at receiving
  | wrote writing => simp [finished] at writing
  | @resolved answer target data =>
      obtain ⟨_, _, same⟩ := relay.onResolved_frame socks answer data
      simp [same]
  | _ => exact ⟨rfl, rfl⟩

theorem Relay.InOrder.step {socks : FastSocks5} {sid : UInt32} {relay next : Relay}
    {act : RelayAct} {effect : Effect} (inOrder : relay.InOrder) (tcp : relay.kind.isTcp = true)
    (taken : Relay.Step socks sid relay act next effect) : next.InOrder := by
  by_cases finished : relay.writer = .finished
  · obtain ⟨written, received⟩ := taken.written_eq finished
    refine ⟨by rw [written, received]; exact inOrder.isPrefix, fun running => ?_⟩
    exact absurd (taken.writer_finished finished) running
  · by_cases closed : act = .recv none
    · subst closed
      cases taken with
      | recvClosed => exact ⟨inOrder.isPrefix, fun running => absurd rfl running⟩
    · have writes := (inOrder.running finished).step tcp taken fun same => absurd same closed
      exact ⟨writes.isPrefix, fun _ => writes⟩

namespace Task

/-- The bytes a session has read from its stream. -/
def read (task : Task) : Bytes :=
  task.relay.elim [] Relay.taken

/-- The TCP relay of a session writes in order. -/
def InOrder (task : Task) : Prop :=
  ∀ relay, task.relay = some relay → relay.kind.isTcp = true → relay.InOrder

variable {socks : FastSocks5} {task next : Task} {act : TaskAct} {effect : Effect}

theorem InOrder.step (inOrder : task.InOrder) (inTime : task.SpawnsInTime)
    (taken : Step socks task act next effect) : next.InOrder := by
  intro relay spawned tcp
  cases taken.relayChange inTime with
  | kept aside same control => exact inOrder relay (same.symm.trans spawned) tcp
  | @spawned kind absent relaying started control =>
      obtain rfl := Option.some.inj (started.symm.trans spawned)
      exact ⟨(Relay.writes_start kind).isPrefix, fun _ => Relay.writes_start kind⟩
  | select relaying found ready later silent =>
      obtain rfl := Option.some.inj (later.symm.trans spawned)
      obtain ⟨isPrefix, running⟩ := inOrder _ found tcp
      refine ⟨isPrefix, fun still => ?_⟩
      have writes := running still
      rw [RelayKind.program_of_isTcp socks tcp]
      exact ⟨writes.exact, writes.isPrefix, writes.stopped, fun _ => .inr (.inr rfl)⟩
  | relay acts found taken later same_pc =>
      obtain rfl := Option.some.inj (later.symm.trans spawned)
      have before_tcp := taken.same_kind.1 ▸ tcp
      exact (inOrder _ found before_tcp).step before_tcp taken

/-- What holds of a session task in every run. -/
structure Steady (task : Task) : Prop where
  /-- It sends in order. -/
  phase : task.InPhase
  /-- It spawns its relay in time. -/
  inTime : task.SpawnsInTime
  /-- It waits for one reply. -/
  awaits : task.Awaits
  /-- It writes in order. -/
  inOrder : task.InOrder
  /-- It reads no more than it sends and has in its hand. -/
  paced : task.Paced

theorem steady_of_run {start : Start} {sid : UInt32} {acts : List TaskAct}
    (execution : Execution.run (advance socks) (spawn start sid) acts = some task) :
    task.Steady := by
  refine Execution.run_invariant (fun before act after steady taken => ?_)
    ⟨inPhase_spawn start sid, spawnsInTime_spawn start sid, awaits_spawn start sid,
      fun relay spawned => by simp [spawn] at spawned, paced_spawn start sid⟩ execution
  obtain ⟨effect, taken⟩ := advance_cases taken
  exact ⟨steady.phase.step taken, steady.inTime.step taken, steady.awaits.step steady.phase taken,
    steady.inOrder.step steady.inTime taken, steady.paced.step steady.inTime taken⟩

theorem side_of_run {start : Start} {sid : UInt32} {acts : List TaskAct}
    (execution : Execution.run (advance socks) (spawn start sid) acts = some task) :
    task.side = start.side := by
  have kept : ∀ before act after, side before = start.side →
      advance socks before act = some after → side after = start.side := by
    intro before act after same taken
    obtain ⟨effect, taken⟩ := advance_cases taken
    exact taken.identity.2.trans same
  exact Execution.run_invariant kept rfl execution

theorem Steady.dataOf_sent_isPrefix (steady : task.Steady)
    (tcp : ∀ relay, task.relay = some relay → relay.kind.isTcp = true) :
    dataOf task.sent <+: task.read := by
  cases spawned : task.relay with
  | none => simp [dataOf_eq_nil (steady.paced.silent spawned)]
  | some relay =>
      obtain ⟨hand, read, _⟩ := (steady.paced.relay relay spawned (tcp relay spawned)).hand
      simp [Task.read, spawned, read]

theorem Steady.written_isPrefix (steady : task.Steady)
    (tcp : ∀ relay, task.relay = some relay → relay.kind.isTcp = true)
    (control : dataOf task.answers = []) : task.written <+: dataOf task.taken := by
  cases spawned : task.relay with
  | none => simp [Task.written, spawned]
  | some relay =>
      have isPrefix := (steady.inOrder relay spawned (tcp relay spawned)).isPrefix
      simpa [Task.written, Task.taken, spawned, control] using isPrefix

theorem Steady.written_isPrefix_read {sink source : Task} (writes : sink.Steady)
    (reads : source.Steady)
    (tcp_sink : ∀ relay, sink.relay = some relay → relay.kind.isTcp = true)
    (tcp : ∀ relay, source.relay = some relay → relay.kind.isTcp = true)
    (control : dataOf sink.answers = []) (taken : dataOf sink.taken <+: dataOf source.sent) :
    sink.written <+: source.read :=
  calc
    sink.written <+: dataOf sink.taken := writes.written_isPrefix tcp_sink control
    _ <+: dataOf source.sent := taken
    _ <+: source.read := reads.dataOf_sent_isPrefix tcp

end Task

theorem Flow.isTcp_relay {flow : Flow} (tcp : flow.udp = false) : flow.relay.isTcp = true := by
  cases flow <;> first | rfl | cases tcp

namespace Request

theorem side_start (request : Request) (filterConfig : FilterConfig) :
    (request.start filterConfig).side = .server := by
  rw [start]
  split <;> rfl

theorem isTcp_of_run {socks : FastSocks5} {request : Request} {filterConfig : FilterConfig}
    {sid : UInt32} {own : List TaskAct} {sink : Task} (tcp : request.flow.udp = false)
    (execution : Execution.run (Task.advance socks)
      (Task.spawn (request.start filterConfig) sid) own = some sink) :
    ∀ relay, sink.relay = some relay → relay.kind.isTcp = true := by
  intro relay spawned
  have opened :=
    (Task.serves_of_run (request.spawns_start filterConfig) execution).relay relay spawned
  rw [start, if_neg (by simp [tcp])] at opened
  rw [opened.1]
  rfl

end Request

/-! ## What the client sends -/

/-- What enters the send queue in a step: frames of a task, or a refusal. -/
theorem Endpoint.Step.mem_log {linkMdu : ℕ+} {socks : FastSocks5} {ep next : Endpoint}
    {act : EndpointAct} (taken : Endpoint.Step linkMdu socks ep act next) {out : Outgoing}
    (member : out ∈ next.mux.log) :
    out ∈ ep.mux.log ∨
      (∃ chan task taskAct after effect, ep.tasks chan = some task ∧
        Task.Step socks task taskAct after effect ∧ out.frame ∈ effect.frames ∧
        out.origin = some chan) ∨
      ∃ sid, act = .refuse sid ∧ out = { origin := none, frame := refusal sid } := by
  cases taken with
  | @session held chan taskAct task after effect mux found moved performs =>
      rw [performs.log_eq, List.mem_append, List.mem_map] at member
      rcases member with old | ⟨frame, sent, rfl⟩
      · exact .inl old
      · exact .inr (.inl ⟨chan, task, taskAct, after, effect, found, moved, sent, rfl⟩)
  | @refuse sid =>
      rcases List.mem_append.mp member with old | new
      · exact .inl old
      · exact .inr (.inr ⟨sid, rfl, List.mem_singleton.mp new⟩)
  | @dispatch frame =>
      obtain ⟨channels, same⟩ := ep.mux.dispatch_frame frame
      rw [same] at member
      exact .inl member
  | sender moved =>
      obtain ⟨linkId, dataSenderBuf, sender, wire, handed, rfl⟩ := moved.frame
      exact .inl member
  | _ => exact .inl member

theorem Endpoint.log_fits_of_reachable {linkMdu : ℕ+} {socks : FastSocks5} {ep : Endpoint}
    (reachable : Execution.Reachable (Endpoint.step linkMdu socks) Endpoint.new ep) :
    ∀ out ∈ ep.mux.log, out.frame.Fits := by
  have start : Endpoint.new.Regular ∧ ∀ out ∈ Endpoint.new.mux.log, out.frame.Fits :=
    ⟨regular_new, by simp [new, Mux.new]⟩
  have kept : ∀ (before : Endpoint) act (after : Endpoint),
      (before.Regular ∧ ∀ out ∈ before.mux.log, out.frame.Fits) →
      before.step linkMdu socks act = some after →
      after.Regular ∧ ∀ out ∈ after.mux.log, out.frame.Fits := by
    rintro before act after ⟨regular, fits⟩ taken
    have moved := step_cases taken
    refine ⟨regular.step moved, fun out member => ?_⟩
    rcases moved.mem_log member with old | ⟨_, task, _, _, _, found, acted, sent, _⟩ | ⟨_, _, rfl⟩
    · exact fits out old
    · have steady := regular.tasks _ task found
      exact (steady.short.step steady.inTime acted).2 out.frame sent
    · exact (by decide : (text "invalid payload").length ≤ 65535)
  exact (reachable.invariant start kept).2

theorem Endpoint.WellFormed.framesOf_log {ep : Endpoint} (well : ep.WellFormed) {chan : ChanId}
    {task : Task} (found : ep.tasks chan = some task) (fresh : ep.Fresh chan task.sid) :
    framesOf task.sid (ep.mux.log.map Outgoing.frame) = task.sent :=
  well.enqueued_eq found fresh

theorem Task.InPhase.split_of_connect {task : Task} (phase : task.InPhase) {front back : List Frame}
    {connect : Frame} (sent : task.sent = front ++ connect :: back)
    (connects : connect.frameType = .connect) : front = [] := by
  cases front with
  | nil => rfl
  | cons first front =>
      have types := (phase.sent_cons sent).2 connect (by simp)
      simp [connects] at types

theorem Task.InPhase.countP_opens_le {task : Task} (phase : task.InPhase) (sid : UInt32) :
    task.sent.countP (Frame.opens sid) ≤ 1 := by
  cases sent : task.sent with
  | nil => simp
  | cons first rest =>
      have nothing : rest.countP (Frame.opens sid) = 0 := by
        rw [List.countP_eq_zero]
        intro frame member opens
        have types := (phase.sent_cons sent).2 frame member
        simp [(Frame.opens_eq_true.mp opens).1] at types
      rw [List.countP_cons, nothing]
      split <;> omega

theorem countP_opens_framesOf (sid : UInt32) (frames : List Frame) :
    (framesOf sid frames).countP (Frame.opens sid) = frames.countP (Frame.opens sid) := by
  rw [framesOf, List.countP_filter]
  refine List.countP_congr fun frame _ => ?_
  simp [Frame.opens_eq_true, and_comm]

namespace Client

variable {linkMdu : ℕ+} {socks : FastSocks5} {first : LinkId} {listeners : List Listener}
  {client : Client}

theorem Turn.not_refuses {act : ClientAct} {dispatcher : Dispatcher} {sid : UInt32} :
    ¬ Turn client act dispatcher (some (.refuse sid)) := by
  intro turn
  cases turn with
  | loop ofLoop does => exact does _ rfl

theorem origin_of_reachable
    (reachable : Execution.Reachable (step linkMdu socks) (new first listeners) client) :
    ∀ out ∈ client.endpoint.mux.log, out.origin ≠ none := by
  have start : ∀ out ∈ (new first listeners).endpoint.mux.log, out.origin ≠ none := by
    simp [new, Mux.new, Mux.setLinkId]
  have kept : ∀ (before : Client) act (after : Client),
      (∀ out ∈ before.endpoint.mux.log, out.origin ≠ none) →
      before.step linkMdu socks act = some after →
      ∀ out ∈ after.endpoint.mux.log, out.origin ≠ none := by
    intro before act after owned taken
    obtain ⟨endpointAct, turn, stepped⟩ := turn_of_step taken
    refine Execution.attempt_invariant (fun ep : Endpoint => ∀ out ∈ ep.mux.log, out.origin ≠ none)
      owned (fun made chosen moved out member => ?_) stepped
    rcases (Endpoint.step_cases moved).mem_log member with
      old | ⟨_, _, _, _, _, _, _, _, owner⟩ | ⟨sid, rfl, _⟩
    · exact owned out old
    · simp [owner]
    · exact absurd (chosen ▸ turn) Turn.not_refuses
  exact reachable.invariant start kept

theorem allFresh_of_distinctIds
    (reachable : Execution.Reachable (step linkMdu socks) (new first listeners) client)
    (distinct : client.endpoint.DistinctIds) : client.endpoint.AllFresh := fun chan task found =>
  ⟨fun other task' found' same => distinct other chan task' task found' found same,
    fun out member refused => absurd refused (origin_of_reachable reachable out member)⟩

theorem source_of_mem_log
    (reachable : Execution.Reachable (step linkMdu socks) (new first listeners) client)
    (distinct : client.endpoint.DistinctIds) {frame : Frame}
    (sent : frame ∈ client.endpoint.mux.log.map Outgoing.frame) :
    ∃ chan task, client.endpoint.tasks chan = some task ∧ task.sid = frame.sessionId ∧
      framesOf task.sid (client.endpoint.mux.log.map Outgoing.frame) = task.sent := by
  have well := Endpoint.wellFormed_of_reachable (endpoint_reachable reachable)
  obtain ⟨out, member, rfl⟩ := List.mem_map.mp sent
  obtain ⟨chan, owner⟩ :=
    Option.ne_none_iff_exists'.mp (origin_of_reachable reachable out member)
  obtain ⟨task, found, same_sid⟩ := well.origin out member chan owner
  exact ⟨chan, task, found, same_sid,
    well.framesOf_log found (allFresh_of_distinctIds reachable distinct chan task found)⟩

/-- The client sends one CONNECT with each id at most. -/
theorem connects_once
    (reachable : Execution.Reachable (step linkMdu socks) (new first listeners) client)
    (distinct : client.endpoint.DistinctIds) (sid : UInt32) :
    (client.endpoint.mux.log.map Outgoing.frame).countP (Frame.opens sid) ≤ 1 := by
  by_cases sent : ∃ frame ∈ client.endpoint.mux.log.map Outgoing.frame, frame.opens sid = true
  · obtain ⟨frame, member, opens⟩ := sent
    obtain ⟨chan, task, found, task_sid, sent⟩ := source_of_mem_log reachable distinct member
    have phase :=
      (Endpoint.inPhase_of_reachable (endpoint_reachable reachable)).phase chan task found
    rw [← (Frame.opens_eq_true.mp opens).2, ← task_sid, ← countP_opens_framesOf, sent]
    exact phase.countP_opens_le task.sid
  · rw [List.countP_eq_zero.mpr fun frame member opens => sent ⟨frame, member, opens⟩]
    exact Nat.zero_le 1

end Client

/-! ## Client and server -/

namespace Network

section Runs

variable {linkMdu : ℕ+} {socks : FastSocks5} {filterConfig : FilterConfig} {first : LinkId}
  {listeners : List Listener} {acts : List DeploymentAct} {network : Network}
  {routed : List Routed}

/-- Whatever the two programs, the nodes and the links do, the client uses a link it has created,
and the server decodes what the links of the client have delivered. -/
theorem roams_of_reachable
    (reachable : Execution.Reachable (step linkMdu socks) (new filterConfig first listeners)
      network) :
    (∃ routed, network.client.Roams network.links routed) ∧
      network.Upward linkMdu socks filterConfig := by
  have start : (∃ routed, (new filterConfig first listeners).client.Roams [first] routed) ∧
      (new filterConfig first listeners).Upward linkMdu socks filterConfig :=
    ⟨⟨[], Client.roams_new first listeners⟩, upward_new filterConfig first listeners⟩
  have kept : ∀ (before : Network) act (after : Network),
      ((∃ routed, before.client.Roams before.links routed) ∧
        before.Upward linkMdu socks filterConfig) →
      before.step linkMdu socks act = some after →
      (∃ routed, after.client.Roams after.links routed) ∧
        after.Upward linkMdu socks filterConfig := by
    rintro before act after ⟨⟨routed, roams⟩, up⟩ taken
    cases act with
    | client act =>
        refine ⟨?_, up.client_step taken⟩
        obtain ⟨permits, client, stepped, rfl⟩ := step_client taken
        obtain ⟨more, later⟩ := roams.step stepped
          (fun link creates => (fresh_of_permits (creates ▸ permits)).1)
          (fun link member => mem_links_record.mpr (.inl member))
          fun link creates => mem_links_record.mpr (.inr creates)
        exact ⟨routed ++ more, later⟩
    | server act =>
        refine ⟨?_, up.server_step taken⟩
        obtain ⟨_, server, _, rfl⟩ := step_server taken
        rw [links_record_server]
        exact ⟨routed, roams⟩
  exact reachable.invariant start kept

theorem client_of_run
    (execution : Execution.run (step linkMdu socks) (new filterConfig first listeners) acts =
      some network) :
    Execution.run (Client.step linkMdu socks) (Client.new first listeners)
      (acts.filterMap DeploymentAct.clientAct) = some network.client := by
  have matched : ∀ before act after image, client before = image →
      step linkMdu socks before act = some after →
      ∃ later, Execution.attempt (Client.step linkMdu socks) image act.clientAct = some later ∧
        client after = later := by
    rintro before act after image rfl taken
    cases act with
    | client act =>
        obtain ⟨_, client, stepped, rfl⟩ := step_client taken
        exact ⟨client, stepped, rfl⟩
    | server act =>
        obtain ⟨_, server, _, rfl⟩ := step_server taken
        exact ⟨_, rfl, rfl⟩
  obtain ⟨client, made, same⟩ := Execution.run_project
    (fun network image => Network.client network = image) (fun taken => taken.2.clientAct)
    matched rfl execution
  subst same
  rw [← Execution.trace_map_snd execution, List.filterMap_map]
  exact made

/-- What the server has handled for a link of the client is a beginning of what the client has given
to the link. -/
theorem Upward.handled_isPrefix (up : Upward linkMdu socks filterConfig network)
    (roams : network.client.Roams network.links routed)
    (fits : ∀ out ∈ network.client.endpoint.mux.log, out.frame.Fits) {muxId : MuxId}
    (used : muxId < network.server.nextMux) (own : network.server.linkOf muxId ∈ network.links) :
    ∃ handled, handled <+: framesOn (network.server.linkOf muxId) routed ∧
      (network.server.muxes muxId).Hearing socks filterConfig handled := by
  obtain ⟨handled, received, hearing⟩ := up.intake muxId used own
  refine ⟨handled, ?_, hearing⟩
  have decoded := roams.routes.decoded fits
    (List.take_prefix (network.delivered .server (network.server.linkOf muxId))
      (network.client.endpoint.mux.packetsOn (network.server.linkOf muxId)))
  rw [show receiveAll [] ((network.client.endpoint.mux.packetsOn (network.server.linkOf muxId)).take
    (network.delivered .server (network.server.linkOf muxId))) = _ from received] at decoded
  exact (List.prefix_append _ _).trans decoded

theorem mem_log_of_framesOn {mux : Mux} (routes : mux.Routes routed) {link : LinkId} {frame : Frame}
    (member : frame ∈ framesOn link routed) : frame ∈ mux.log.map Outgoing.frame := by
  obtain ⟨front, back, split⟩ := routes.log_split link
  rw [split]
  exact List.mem_append_left _ (List.mem_append_right _ member)

/-- The frames of a session that go to the link of its CONNECT are a beginning of what it has
sent. -/
theorem sent_of_connect {mux : Mux} (routes : mux.Routes routed) {link : LinkId} {source : Task}
    (phase : source.InPhase)
    (sent : framesOf source.sid (mux.log.map Outgoing.frame) = source.sent)
    {earlier since : List Frame} {connect : Frame} (opens : connect.opens source.sid = true)
    (handled : earlier ++ connect :: since <+: framesOn link routed) :
    source.sent.head? = some connect ∧ framesOf source.sid since <+: source.sent.tail := by
  obtain ⟨front, back, split⟩ := routes.log_split link
  obtain ⟨more, rest⟩ := handled
  obtain ⟨connects, own⟩ := Frame.opens_eq_true.mp opens
  have opening : framesOf source.sid [connect] = [connect] := by simp [framesOf, own]
  have whole : source.sent =
      (framesOf source.sid front ++ framesOf source.sid earlier) ++
        connect :: (framesOf source.sid since ++ framesOf source.sid (more ++ back)) := by
    rw [← sent, split, ← rest, show connect :: since = [connect] ++ since from rfl]
    simp only [framesOf_append, opening]
    simp
  have nothing := phase.split_of_connect whole connects
  rw [nothing, List.nil_append] at whole
  rw [whole]
  exact ⟨rfl, List.prefix_append _ _⟩

/-- A CONNECT that the server has handled comes from a session of the client. -/
structure ComesFrom (listeners : List Listener) (acts : List DeploymentAct) (client : Client)
    (connect : Frame) (since : List Frame) (chan : ChanId) (source : Task) (request : Request) :
    Prop where
  /-- The session. -/
  found : client.endpoint.tasks chan = some source
  /-- What a task in this state keeps to. -/
  steady : source.Steady
  /-- The session was accepted on one of the listeners, and this is what is asked for. -/
  asked : ∃ listener ∈ listeners, listener.start.request
    ((acts.filterMap DeploymentAct.clientAct).filterMap (ClientAct.taskAct chan)) = some request
  /-- The CONNECT asks for it. -/
  connects : connect = request.frame source.sid
  /-- It comes first. -/
  first : source.sent.head? = some connect
  /-- What the server has handled after it, the session has sent after it. -/
  since : framesOf source.sid since <+: source.sent.tail
  /-- The session relays what it asks for. -/
  relay : ∀ relay, source.relay = some relay → relay.kind = request.flow.relay

theorem ComesFrom.opening {client : Client} {connect : Frame} {since : List Frame} {chan : ChanId}
    {source : Task} {request : Request}
    (comes : ComesFrom listeners acts client connect since chan source request) :
    source.sent.head? = some (request.frame source.sid) :=
  comes.first.trans (congrArg some comes.connects)

theorem comesFrom_of_handled
    (execution : Execution.run (step linkMdu socks) (new filterConfig first listeners) acts =
      some network)
    (distinct : network.client.endpoint.DistinctIds)
    (routes : network.client.endpoint.mux.Routes routed) {link : LinkId} {connect : Frame}
    {earlier since : List Frame} (begins : earlier ++ connect :: since <+: framesOn link routed)
    {sid : UInt32} (opens : connect.opens sid = true) :
    ∃ chan source request, source.sid = sid ∧
      ComesFrom listeners acts network.client connect since chan source request := by
  have clientRun := client_of_run execution
  have sent : connect ∈ network.client.endpoint.mux.log.map Outgoing.frame :=
    mem_log_of_framesOn routes (begins.subset (by simp))
  obtain ⟨chan, source, found, source_sid, sent⟩ :=
    Client.source_of_mem_log ⟨_, clientRun⟩ distinct sent
  have same_sid : source.sid = sid := source_sid.trans (Frame.opens_eq_true.mp opens).2
  obtain ⟨listener, listed, own⟩ := Client.origin_of_run clientRun found
  have steady := Task.steady_of_run own
  have asks := Task.asks_of_run own
  obtain ⟨head, tail⟩ := sent_of_connect routes steady.phase sent (same_sid ▸ opens) begins
  obtain ⟨request, known, connects⟩ := asks.sent connect head
  refine ⟨chan, source, request, same_sid, found, steady, ⟨listener, listed, known⟩, connects,
    head, tail, fun relay spawned => ?_⟩
  obtain ⟨request', known', kind⟩ := asks.relay relay spawned
  obtain rfl : request = request' := Option.some.inj (known.symm.trans known')
  exact kind

theorem Upward.used_of_found (up : Upward linkMdu socks filterConfig network) {muxId : MuxId}
    {peer : ChanId} {task : Task} (found : (network.server.muxes muxId).tasks peer = some task) :
    muxId < network.server.nextMux := by
  by_contra unused
  rw [up.well.unused muxId (not_lt.mp unused)] at found
  cases found

theorem Upward.sink_unique (up : Upward linkMdu socks filterConfig network)
    (roams : network.client.Roams network.links routed)
    (fits : ∀ out ∈ network.client.endpoint.mux.log, out.frame.Fits)
    (once : ∀ sid,
      (network.client.endpoint.mux.log.map Outgoing.frame).countP (Frame.opens sid) ≤ 1)
    {muxId other : MuxId} {peer peer' : ChanId} {sink task : Task}
    (own : network.server.linkOf muxId ∈ network.links)
    (found : (network.server.muxes muxId).tasks peer = some sink)
    (own' : network.server.linkOf other ∈ network.links)
    (found' : (network.server.muxes other).tasks peer' = some task)
    (same_sid : task.sid = sink.sid) : other = muxId ∧ peer' = peer := by
  have used := up.used_of_found found
  have used' := up.used_of_found found'
  obtain ⟨handled, begins, hearing⟩ := up.handled_isPrefix roams fits used own
  obtain ⟨handled', begins', hearing'⟩ := up.handled_isPrefix roams fits used' own'
  obtain ⟨connect, since, heard⟩ := hearing.heard peer sink found
  obtain ⟨connect', since', heard'⟩ := hearing'.heard peer' task found'
  obtain ⟨earlier, split⟩ := heard.split
  obtain ⟨earlier', split'⟩ := heard'.split
  have same_link := roams.routes.link_unique (once sink.sid)
    (begins'.subset (by simp [split'])) (same_sid ▸ heard'.opens)
    (begins.subset (by simp [split])) heard.opens
  obtain rfl := up.unique other used' muxId used same_link
  refine ⟨rfl, ?_⟩
  by_contra apart
  have twice := hearing.twice peer' peer task sink found' found same_sid apart
  have on_link : handled.countP (Frame.opens sink.sid) ≤
      (framesOn (network.server.linkOf other) routed).countP (Frame.opens sink.sid) :=
    begins.sublist.countP_le
  obtain ⟨front, back, split⟩ := roams.routes.log_split (network.server.linkOf other)
  have at_once := once sink.sid
  rw [same_sid] at twice
  rw [split, List.countP_append, List.countP_append] at at_once
  omega

/-- A session of the server goes back to a session of the client. -/
theorem source_of_sink
    (execution : Execution.run (step linkMdu socks) (new filterConfig first listeners) acts =
      some network)
    (distinct : network.client.endpoint.DistinctIds) {muxId : MuxId}
    (own : network.server.linkOf muxId ∈ network.links) {peer : ChanId} {sink : Task}
    (found_sink : (network.server.muxes muxId).tasks peer = some sink) :
    ∃ connect since chan source request, source.sid = sink.sid ∧
      ComesFrom listeners acts network.client connect since chan source request ∧
      (∃ own, Execution.run (Task.advance socks)
        (Task.spawn (request.start filterConfig) sink.sid) own = some sink) ∧
      sink.taken <+: Side.server.dispatched sink.sid since := by
  obtain ⟨⟨routed, roams⟩, up⟩ := roams_of_reachable ⟨acts, execution⟩
  have clientRun := client_of_run execution
  have fits := Endpoint.log_fits_of_reachable (Client.endpoint_reachable ⟨_, clientRun⟩)
  obtain ⟨handled, begins, hearing⟩ :=
    up.handled_isPrefix roams fits (up.used_of_found found_sink) own
  obtain ⟨connect, since, heard⟩ := hearing.heard peer sink found_sink
  obtain ⟨earlier, rfl⟩ := heard.split
  obtain ⟨chan, source, request, same_sid, comes⟩ :=
    comesFrom_of_handled execution distinct roams.routes begins heard.opens
  obtain ⟨start, acts_sink, starts, own_sink⟩ := heard.own
  obtain rfl : start = request.start filterConfig := by
    rw [comes.connects, request.starts_frame] at starts
    exact (Option.some.inj starts).symm
  exact ⟨connect, since, chan, source, request, same_sid, comes, ⟨_, own_sink⟩,
    (List.prefix_append _ _).trans heard.isPrefix⟩

/-- A session of the client, and the session of the server that was opened for it. -/
structure OpenedFor (socks : FastSocks5) (filterConfig : FilterConfig) (listeners : List Listener)
    (acts : List DeploymentAct) (network : Network) (muxId : MuxId) (peer : ChanId) (sink : Task)
    (chan : ChanId) (source : Task) (request : Request) : Prop where
  /-- The session of the client. -/
  found : network.client.endpoint.tasks chan = some source
  /-- The two have the same id. -/
  same_sid : source.sid = sink.sid
  /-- The session of the client was accepted on one of the listeners, and this is what the listener
  or the application asks for. -/
  asked : ∃ listener ∈ listeners, listener.start.request
    ((acts.filterMap DeploymentAct.clientAct).filterMap (ClientAct.taskAct chan)) = some request
  /-- The first frame of the session is the CONNECT that names its host, port and protocol. -/
  opening : source.sent.head? = some (request.frame source.sid)
  /-- The session of the server was spawned for it. -/
  served : ∃ own, Execution.run (Task.advance socks)
    (Task.spawn (request.start filterConfig) sink.sid) own = some sink
  /-- No other session of the server was, on whatever link of the client. -/
  only : ∀ muxId' peer' task, network.server.linkOf muxId' ∈ network.links →
    (network.server.muxes muxId').tasks peer' = some task → task.sid = sink.sid →
    muxId' = muxId ∧ peer' = peer
  /-- It has taken a beginning of what the other has sent. -/
  heard : sink.taken <+: source.sent.tail.filter Side.server.admits
  /-- For TCP it has written a beginning of what the other has read. -/
  written : request.flow.udp = false → sink.written <+: source.read

/-- In every run of a client and a server whose links come and go, each of which delivers a
beginning of what it is handed, whatever else the two programs do, and as long as the client has
given out fewer than `2 ^ 32` session ids: each session of the server on a link of the client was
opened for one session of the client, and for no session of the client are there two. The CONNECT of
that session names the host, the port and the protocol that its listener or its application asks
for; for TCP the session of the server was spawned for that host and port, and has written to its
target nothing but a beginning of what the session of the client has read. -/
theorem opensForOne
    (execution : Execution.run (step linkMdu socks) (new filterConfig first listeners) acts =
      some network)
    (few : (acts.filterMap DeploymentAct.clientAct).countP ClientAct.allocates < 2 ^ 32)
    {muxId : MuxId} (own : network.server.linkOf muxId ∈ network.links) {peer : ChanId}
    {sink : Task} (found_sink : (network.server.muxes muxId).tasks peer = some sink) :
    ∃ chan source request,
      OpenedFor socks filterConfig listeners acts network muxId peer sink chan source request := by
  obtain ⟨⟨routed, roams⟩, up⟩ := roams_of_reachable ⟨acts, execution⟩
  have clientRun := client_of_run execution
  have fits := Endpoint.log_fits_of_reachable (Client.endpoint_reachable ⟨_, clientRun⟩)
  have distinct := Client.distinctIds_of_run clientRun few
  have once := Client.connects_once ⟨_, clientRun⟩ distinct
  obtain ⟨connect, since, chan, source, request, same_sid, comes, ⟨acts_sink, own_sink⟩, heard⟩ :=
    source_of_sink execution distinct own found_sink
  have taken : sink.taken <+: source.sent.tail.filter Side.server.admits := by
    refine heard.trans ?_
    rw [Side.dispatched, ← same_sid]
    exact comes.since.filter _
  refine ⟨chan, source, request, comes.found, same_sid, comes.asked, comes.opening, ⟨_, own_sink⟩,
    fun muxId' peer' task own' found' task_sid =>
      up.sink_unique roams fits once own found_sink own' found' task_sid, taken, fun tcp => ?_⟩
  have steady_sink := Task.steady_of_run own_sink
  have serving : sink.side = .server := (Task.side_of_run own_sink).trans (request.side_start _)
  refine steady_sink.written_isPrefix_read comes.steady (Request.isTcp_of_run tcp own_sink)
    (fun relay spawned => comes.relay relay spawned ▸ Flow.isTcp_relay tcp)
    (by simp [steady_sink.awaits.server serving]) ?_
  calc
    dataOf sink.taken <+: dataOf (source.sent.tail.filter Side.server.admits) :=
      dataOf_isPrefix taken
    _ = dataOf source.sent.tail := Tunnel.dataOf_filter_admits .server _
    _ = dataOf source.sent := by
      obtain ⟨rest, whole⟩ := List.head?_eq_some_iff.mp comes.first
      have opening : dataOf [connect] = [] :=
        dataOf_eq_nil (by simp [comes.connects, Request.frame])
      rw [whole, List.tail_cons, ← List.singleton_append, dataOf_append, opening, List.nil_append]

/-- The first link goes down with the CONNECT of the first session. The second session opens on the
second link, reads three bytes, and the server has written two of them. -/
def secondLink : List DeploymentAct :=
  [.client (.accept 0), .client (.isConnected 0), .client (.nextSessionId 0),
    .client (.registerSession 0), .client (.session 0 .send), .client (.sender .recv),
    .client (.sender .readLink), .client (.sender (.sent false)), .client (.sender .clearLink),
    .client (.linkDown 1), .client (.event (some (.linkClosed 1))), .client .reset, .client .reset,
    .client .reset, .client (.attempt (.created 2)), .server (.event (.linkEstablished 2 false)),
    .client (.event (some (.linkEstablished 2 true))), .client .setLinkId, .client (.accept 0),
    .client (.isConnected 0), .client (.nextSessionId 0), .client (.registerSession 0),
    .client (.session 1 .send), .client (.sender .recv), .client (.sender .readLink),
    .client (.sender (.sent true)),
    .server (.event (.linkData 2
      (Frame.encode ⟨.connect, 2, encodeConnectPayload "127.0.0.1" 80 false⟩))),
    .server .frame, .server .frame,
    .server (.session 0 0 (.resolved (some (.ip ⟨.v4 .LOCALHOST, 80⟩)))),
    .server (.session 0 0 (.opened none)), .server (.session 0 0 .send),
    .server (.sender 0 .recv), .server (.sender 0 .readLink), .server (.sender 0 (.sent true)),
    .client (.event (some (.linkData 2 (Frame.encode ⟨.connectOk, 2, []⟩)))), .client .dispatch,
    .client .dispatch, .client (.session 1 (.recv (some ⟨.connectOk, 2, []⟩))),
    .client (.session 1 (.relay (.read ⟨.v4 .LOCALHOST, 4000⟩ [1, 2, 3]))),
    .client (.session 1 (.relay .readerSend)), .client (.sender .recv), .client (.sender .readLink),
    .client (.sender (.sent true)),
    .server (.event (.linkData 2 (Frame.encode ⟨.data, 2, [1, 2, 3]⟩))), .server .frame,
    .server .frame, .server (.session 0 0 (.relay (.recv (some ⟨.data, 2, [1, 2, 3]⟩)))),
    .server (.session 0 0 (.relay (.wrote 2)))]

/-- They are the first it has read; it is the second session of the client that has read them. -/
theorem opensForOne_secondLink :
    ∃ network sink, Execution.run (step 431 .rfc1928)
        (new (connectVecMergingForward [80] [] []) 1 [.forwardedTcp 80]) secondLink =
          some network ∧
      sink.written = [1, 2] ∧
      ∃ chan source request, OpenedFor .rfc1928 (connectVecMergingForward [80] [] [])
        [.forwardedTcp 80] secondLink network 0 0 sink chan source request := by
  have ends : ∃ network sink, Execution.run (step 431 .rfc1928)
        (new (connectVecMergingForward [80] [] []) 1 [.forwardedTcp 80]) secondLink =
          some network ∧
      network.server.linkOf 0 = 2 ∧ network.links = [1, 2] ∧
      (network.server.muxes 0).tasks 0 = some sink ∧ sink.written = [1, 2] :=
    ⟨_, _, rfl, rfl, rfl, rfl, rfl⟩
  obtain ⟨network, sink, execution, link, links, found, written⟩ := ends
  exact ⟨network, sink, execution, written,
    opensForOne execution (by decide) (by simp [link, links]) found⟩

end Runs

end Network

end RnsProxy
