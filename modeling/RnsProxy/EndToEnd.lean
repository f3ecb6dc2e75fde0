import RnsProxy.Backpressure
import RnsProxy.Completion
import RnsProxy.Deployment
import RnsProxy.Numbering
import RnsProxy.PortForwarding

/-!
# From the application to the target

An application connects to a listener of the client, and the server connects to a target for it.
Between them are the accept loop and the session task of the client, the multiplexers, the link, the
event loop and the session task of the server, and beside them whatever else the two programs do.
This file puts together what has been shown of each of them.
-/

namespace RnsProxy

/-! ## The client -/

/-- The step of a session task that a step of the client is. -/
def ClientAct.taskAct (chan : ChanId) : ClientAct → Option TaskAct
  | session owner act => if owner = chan then some act else none
  | _ => none

namespace Client

variable {linkMdu : ℕ+} {socks : FastSocks5} {link : LinkId} {listeners : List Listener}
  {client next : Client} {act : ClientAct} {acts : List ClientAct}

/-- What a step of the client does to its multiplexer. -/
def actAt (client : Client) (act : ClientAct) : Option EndpointAct :=
  (client.control act).bind Prod.snd

theorem attempt_actAt (taken : client.step linkMdu socks act = some next) :
    Execution.attempt (Endpoint.step linkMdu socks) client.endpoint (client.actAt act) =
      some next.endpoint := by
  cases step_cases taken with
  | control controlled =>
      simp [actAt, controlled, Execution.attempt, (control_cases controlled).endpoint]
  | endpoint controlled stepped => simp [actAt, controlled, Execution.attempt, stepped]

/-- The session tasks take the same steps in the client and in its multiplexer. -/
theorem taskAct_actAt (chan : ChanId) (client : Client) (act : ClientAct) :
    (client.actAt act).bind (Endpoint.taskAct chan) = act.taskAct chan := by
  cases controlled : client.control act with
  | none =>
      cases act with
      | session owner act => cases controlled
      | _ => simp [actAt, controlled, ClientAct.taskAct]
  | some reaction =>
      obtain ⟨middle, made⟩ := reaction
      have session := (control_cases controlled).session
      cases act with
      | session owner act =>
          rw [actAt, controlled, Option.bind_some, (session true owner act).mpr ⟨rfl, rfl⟩]
          rfl
      | _ =>
          rw [actAt, controlled, Option.bind_some]
          cases made with
          | none => rfl
          | some made =>
              cases made with
              | session held owner act => simpa using session held owner act
              | _ => rfl

theorem listeners_of_run
    (execution : Execution.run (step linkMdu socks) (new link listeners) acts = some client) :
    ∀ taken ∈ Execution.trace (step linkMdu socks) (new link listeners) acts,
      taken.1.loops.map AcceptLoop.listener = listeners := by
  refine (Execution.run_history (fun past client => ListensTo listeners client ∧
    ∀ taken ∈ past, taken.1.loops.map AcceptLoop.listener = listeners) ?_
    ⟨listensTo_new, by simp⟩ execution).2
  rintro past before act after ⟨listens, earlier⟩ taken
  refine ⟨listens.step taken, fun step member => ?_⟩
  rcases List.mem_append.mp member with old | now
  · exact earlier step old
  · obtain rfl := List.mem_singleton.mp now
    exact listens.loops

/-- A session task of the client has made a run of its own since one of the listeners accepted its
connection. -/
theorem origin_of_run
    (execution : Execution.run (step linkMdu socks) (new link listeners) acts = some client)
    {chan : ChanId} {task : Task} (found : client.endpoint.tasks chan = some task) :
    ∃ listener ∈ listeners,
      Execution.run (Task.advance socks) (Task.spawn listener.start task.sid)
        (acts.filterMap (ClientAct.taskAct chan)) = some task := by
  obtain ⟨ep, made, same⟩ := Execution.run_project
    (fun client ep => endpoint client = ep) (fun taken => taken.1.actAt taken.2)
    (fun before act after ep same taken => ⟨_, same ▸ attempt_actAt taken, rfl⟩) rfl execution
  subst same
  have linked : Execution.run (Endpoint.step linkMdu socks) Endpoint.new
      (.setLinkId link :: (Execution.trace (step linkMdu socks) (new link listeners) acts).filterMap
        fun taken => taken.1.actAt taken.2) = some client.endpoint :=
    Execution.run_cons_eq_some.mpr ⟨_, rfl, made⟩
  obtain ⟨start, listed, own⟩ := (Endpoint.accounted_of_run linked).2.task chan task found
  have member := List.mem_of_getElem? listed
  simp only [List.filterMap_cons, Endpoint.spawned, List.filterMap_filterMap, List.mem_filterMap,
    Option.bind_eq_some_iff] at member
  obtain ⟨⟨earlier, act⟩, taken, endpointAct, acted, spawns⟩ := member
  obtain rfl : endpointAct = .spawn start task.sid := by
    cases endpointAct <;> simp_all [Endpoint.spawned]
  obtain ⟨⟨middle, _⟩, controlled, rfl⟩ := Option.bind_eq_some_iff.mp acted
  obtain ⟨listener, known, rfl⟩ := (control_listeners controlled).2 start task.sid rfl
  rw [listeners_of_run execution _ taken] at known
  refine ⟨listener, known, ?_⟩
  simp only [List.filterMap_cons, Endpoint.taskAct, List.filterMap_filterMap, taskAct_actAt] at own
  rw [← Execution.trace_map_snd execution, List.filterMap_map]
  exact own

end Client

/-! ## The tunnel -/

theorem dataOf_isPrefix {front back : List Frame} (isPrefix : front <+: back) :
    dataOf front <+: dataOf back := by
  obtain ⟨rest, rfl⟩ := isPrefix
  rw [dataOf_append]
  exact List.prefix_append _ _

namespace Tunnel

variable {linkMdu : ℕ+} {socks : FastSocks5} {filterConfig : FilterConfig} {link : LinkId}
  {acts : List TunnelAct} {tunnel : Tunnel} {side : Side} {chan peerChan : ChanId}
  {source sink : Task} {reads writes : Relay}

/-- At no time has one end of a TCP session written anything but the beginning of what the other end
has read. -/
theorem Paired.written_isPrefix (paired : tunnel.Paired side chan peerChan source sink)
    (reachable : Execution.Reachable (Tunnel.step linkMdu socks) (new filterConfig link) tunnel)
    (distinct : tunnel.DistinctIds) (spawned : source.relay = some reads)
    (spawned_sink : sink.relay = some writes) (tcp : reads.kind.isTcp = true)
    (tcp_sink : writes.kind.isTcp = true) : writes.written <+: reads.taken := by
  have coherent := coherent_of_reachable reachable distinct
  obtain ⟨acts, execution⟩ := reachable
  have paced := Endpoint.paced_of_reachable ⟨_, run_actsAt execution side⟩
  obtain ⟨hand, read, _⟩ := ((paced chan source paired.sends).2.relay reads spawned tcp).hand
  have receiver := (coherent.sound side.peer).tasks peerChan sink paired.receives
  have control : dataOf sink.answers = [] :=
    dataOf_eq_nil fun frame member =>
      (coherent.answers_control paired.sends paired.receives paired.same_sid frame member).1
  calc
    writes.written <+: dataOf writes.received :=
      (receiver.streams.relay writes spawned_sink tcp_sink).writes.isPrefix
    _ = dataOf sink.taken := by simp [Task.taken, spawned_sink, control]
    _ <+: dataOf (source.sent.filter side.peer.admits) :=
      dataOf_isPrefix (coherent.taken_isPrefix paired.sends paired.receives paired.same_sid)
    _ = dataOf source.sent := dataOf_filter_admits side.peer source.sent
    _ <+: reads.taken := read ▸ List.prefix_append _ _

/-- A session of the server was spawned for the first frame of the session of the client with its
id. -/
theorem opening_of_run
    (execution : Execution.run (step linkMdu socks) (new filterConfig link) acts = some tunnel)
    (distinct : tunnel.DistinctIds) (found : (tunnel.ends .client).tasks chan = some source)
    (found_sink : (tunnel.ends .server).tasks peerChan = some sink)
    (same_sid : sink.sid = source.sid) :
    ∃ frame start own, source.sent.head? = some frame ∧
      Server.starts filterConfig frame = some start ∧
      Execution.run (Task.advance socks) (Task.spawn start sink.sid) own = some sink := by
  have coherent := coherent_of_reachable ⟨acts, execution⟩ distinct
  obtain ⟨start, ⟨frame, handled, connects, frame_sid, starts⟩, own⟩ :=
    origin_of_run execution found_sink
  have sent : frame ∈ source.sent := by
    rw [← coherent.sent_eq found]
    exact mem_framesOf.mpr ⟨coherent.mem_log_of_handled .client handled, frame_sid.trans same_sid⟩
  have phase := ((coherent.sound .client).tasks chan source found).phase
  exact ⟨frame, start, _, phase.head_of_connect sent connects, starts, own⟩

end Tunnel

/-! ## The two programs -/

/-- The step of the client that a step of the two programs is. -/
def DeploymentAct.clientAct : DeploymentAct → Option ClientAct
  | client act => some act
  | server _ => none

namespace Deployment

variable {linkMdu : ℕ+} {socks : FastSocks5} {filterConfig : FilterConfig} {link : LinkId}
  {listeners : List Listener} {acts : List DeploymentAct} {deployment : Deployment}

theorem client_of_run
    (execution : Execution.run (step linkMdu socks link) (new filterConfig link listeners) acts =
      some deployment) :
    Execution.run (Client.step linkMdu socks) (Client.new link listeners)
      (acts.filterMap DeploymentAct.clientAct) = some deployment.client := by
  have matched : ∀ before act after image, client before = image →
      step linkMdu socks link before act = some after →
      ∃ later, Execution.attempt (Client.step linkMdu socks) image act.clientAct = some later ∧
        client after = later := by
    rintro before act after image rfl taken
    simp only [step, Option.ite_none_right_eq_some] at taken
    obtain ⟨_, taken⟩ := taken
    cases act with
    | client act =>
        obtain ⟨client, stepped, rfl⟩ := Option.map_eq_some_iff.mp taken
        exact ⟨client, stepped, rfl⟩
    | server act =>
        obtain ⟨server, _, rfl⟩ := Option.map_eq_some_iff.mp taken
        exact ⟨_, rfl, rfl⟩
  obtain ⟨client, made, same⟩ := Execution.run_project
    (fun deployment image => Deployment.client deployment = image) (fun taken => taken.2.clientAct)
    matched rfl execution
  subst same
  rw [← Execution.trace_map_snd execution, List.filterMap_map]
  exact made

/-- The session of the server that serves a TCP session of the client. -/
structure ServedBy (socks : FastSocks5) (filterConfig : FilterConfig) (listeners : List Listener)
    (acts : List DeploymentAct) (deployment : Deployment) (chan : ChanId) (sid : UInt32)
    (request : Request) (peer : ChanId) (sink : Task) (relay : Relay) (target : SocketAddr) :
    Prop where
  /-- The connection was accepted on one of the listeners, and this is what the listener or the
  application asks for. -/
  asked : ∃ listener ∈ listeners, listener.start.request
    ((acts.filterMap DeploymentAct.clientAct).filterMap (ClientAct.taskAct chan)) = some request
  /-- The server has a session with the id, on the multiplexer for the link. -/
  found : (deployment.server.muxes 0).tasks peer = some sink
  /-- It has the id. -/
  same_sid : sink.sid = sid
  /-- No other session has. -/
  only : ∀ other task, (deployment.server.muxes 0).tasks other = some task → task.sid = sid →
    other = peer
  /-- Its handler was spawned for that host and port. -/
  served : ∃ own, Execution.run (Task.advance socks)
    (Task.spawn (.serverTcp (.domain request.host.name request.port) filterConfig) sid) own =
      some sink
  /-- It relays. -/
  relay : sink.relay = some relay
  /-- The filter allows the target. -/
  allowed : allowedIp target filterConfig .tcp = true
  /-- The resolver answered the target, and the server has connected to it and to nothing else. -/
  io : sink.io = dialled target

/-- In every run of the client and the server on a link that stays up, whatever else the two
programs do, and as long as the client has given out fewer than `2 ^ 32` session ids: for each TCP
connection that the client relays there is exactly one session of the server. It was spawned for
the host and the port that the listener or the application asks for, and has connected to one
address the filter allows. At no time has either end written anything but the beginning of what the
other has read. -/
theorem servesConnections
    (execution : Execution.run (step linkMdu socks link) (new filterConfig link listeners) acts =
      some deployment)
    (few : (acts.filterMap DeploymentAct.clientAct).countP ClientAct.allocates < 2 ^ 32)
    {chan : ChanId} {source : Task} {near : Relay}
    (found : deployment.client.endpoint.tasks chan = some source)
    (spawned : source.relay = some near) (tcp : near.kind.isTcp = true) :
    ∃ request peer sink far target,
      ServedBy socks filterConfig listeners acts deployment chan source.sid request peer sink far
        target ∧
      far.written <+: near.taken ∧ near.written <+: far.taken := by
  obtain ⟨tunnel, ⟨tunnelActs, tunnelRun⟩, contains⟩ := contains_of_reachable ⟨acts, execution⟩
  have clientRun := client_of_run execution
  have distinct : tunnel.DistinctIds := by
    rw [Tunnel.DistinctIds, contains.client]
    exact Client.distinctIds_of_run clientRun few
  have coherent := Tunnel.coherent_of_reachable ⟨tunnelActs, tunnelRun⟩ distinct
  have found : (tunnel.ends .client).tasks chan = some source := contains.client ▸ found
  -- what the client has asked for
  obtain ⟨listener, listed, own⟩ := Client.origin_of_run clientRun (contains.client ▸ found)
  have asks := Task.asks_of_run own
  obtain ⟨request, known, kind⟩ := asks.relay near spawned
  -- the server has answered
  obtain ⟨answer, answered, ok⟩ := (Task.told_of_run own).accepted (.inr ⟨near, spawned⟩)
  obtain ⟨peer, sink, found_sink, same_sid, sent⟩ :=
    Tunnel.sent_of_answered tunnelRun distinct found answered
  -- for what it was asked
  obtain ⟨frame, start, acts_sink, opening, starts, own_sink⟩ :=
    Tunnel.opening_of_run tunnelRun distinct found found_sink same_sid
  obtain ⟨request', known', rfl⟩ := asks.sent frame opening
  obtain rfl : request = request' := Option.some.inj (known.symm.trans known')
  obtain rfl : start = request.start filterConfig := by
    rw [request.starts_frame] at starts
    exact (Option.some.inj starts).symm
  have serves := Task.serves_of_run (request.spawns_start filterConfig) own_sink
  obtain ⟨far, spawned_sink⟩ := serves.confirmed answer sent ok
  have opened := serves.relay far spawned_sink
  have protocol : request.flow.udp = false := by
    rw [kind] at tcp
    cases flow : request.flow <;> simp [flow, Flow.relay, RelayKind.isTcp] at tcp <;> rfl
  simp only [Request.start, protocol, Bool.false_eq_true, if_false] at opened own_sink
  obtain ⟨far_kind, target, allowed, io⟩ := opened
  have tcp_sink : far.kind.isTcp = true := by rw [far_kind]; rfl
  have paired : tunnel.Paired .client chan peer source sink := ⟨found, found_sink, same_sid⟩
  refine ⟨request, peer, sink, far, target, ⟨⟨listener, listed, known⟩,
    contains.server ▸ found_sink, same_sid, fun other task here sid => ?_,
    ⟨acts_sink, same_sid ▸ own_sink⟩, spawned_sink, allowed, io⟩, ?_, ?_⟩
  · exact ((coherent.sound .server).fresh peer sink found_sink).1 other task
      (contains.server ▸ here) (sid.trans same_sid.symm)
  · exact paired.written_isPrefix ⟨tunnelActs, tunnelRun⟩ distinct spawned spawned_sink tcp tcp_sink
  · have back := paired.symm
    exact back.written_isPrefix ⟨tunnelActs, tunnelRun⟩ distinct spawned_sink spawned tcp_sink tcp

/-- An application connects to a forwarded port and sends three bytes, of which the server has
written two. -/
def firstBytes : List DeploymentAct :=
  [.client (.accept 0), .client (.isConnected 0), .client (.nextSessionId 0),
    .client (.registerSession 0), .client (.session 0 .send), .client (.sender .recv),
    .client (.sender .readLink), .client (.sender (.sent true)),
    .server (.event (.linkData 1
      (Frame.encode ⟨.connect, 1, encodeConnectPayload "127.0.0.1" 80 false⟩))),
    .server .frame, .server .frame,
    .server (.session 0 0 (.resolved (some (.ip ⟨.v4 .LOCALHOST, 80⟩)))),
    .server (.session 0 0 (.opened none)), .server (.session 0 0 .send),
    .server (.sender 0 .recv), .server (.sender 0 .readLink), .server (.sender 0 (.sent true)),
    .client (.event (some (.linkData 1 (Frame.encode ⟨.connectOk, 1, []⟩)))), .client .dispatch,
    .client .dispatch, .client (.session 0 (.recv (some ⟨.connectOk, 1, []⟩))),
    .client (.session 0 (.relay (.read ⟨.v4 .LOCALHOST, 4000⟩ [1, 2, 3]))),
    .client (.session 0 (.relay .readerSend)), .client (.sender .recv), .client (.sender .readLink),
    .client (.sender (.sent true)),
    .server (.event (.linkData 1 (Frame.encode ⟨.data, 1, [1, 2, 3]⟩))), .server .frame,
    .server .frame, .server (.session 0 0 (.relay (.recv (some ⟨.data, 1, [1, 2, 3]⟩)))),
    .server (.session 0 0 (.relay (.wrote 2)))]

/-- They are the first the application has sent. -/
theorem servesConnections_firstBytes :
    ∃ deployment, ∃ near far : Relay, Execution.run (step 431 .rfc1928 1)
        (new (connectVecMergingForward [80] [] []) 1 [.forwardedTcp 80]) firstBytes =
          some deployment ∧
      near.taken = [1, 2, 3] ∧ far.written <+: near.taken ∧
      ∃ request peer sink target, ServedBy .rfc1928 (connectVecMergingForward [80] [] [])
        [.forwardedTcp 80] firstBytes deployment 0 1 request peer sink far target := by
  have ends : ∃ deployment source, ∃ near : Relay, Execution.run (step 431 .rfc1928 1)
        (new (connectVecMergingForward [80] [] []) 1 [.forwardedTcp 80]) firstBytes =
          some deployment ∧
      deployment.client.endpoint.tasks 0 = some source ∧ source.sid = 1 ∧
      source.relay = some near ∧ near.kind.isTcp = true ∧ near.taken = [1, 2, 3] :=
    ⟨_, _, _, rfl, rfl, rfl, rfl, rfl, rfl⟩
  obtain ⟨deployment, source, near, execution, found, same_sid, spawned, tcp, taken⟩ := ends
  obtain ⟨request, peer, sink, far, target, served, written, _⟩ :=
    servesConnections execution (by decide) found spawned tcp
  exact ⟨deployment, near, far, execution, taken, written, request, peer, sink, target,
    same_sid ▸ served⟩

end Deployment

end RnsProxy
