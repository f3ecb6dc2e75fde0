import RnsProxy.FilterList
import RnsProxy.Mediation
import RnsProxy.Requests

/-!
# Port forwarding

`rns-proxy connect` opens local ports and tunnels each of them to a port of the server's host,
`rns-proxy forward` is a server that lets clients reach the listed ports of its host and nothing
else. The client asks for the ports it was started with and for no others, whatever happens to its
link, and a server that lists them accepts what it asks for. The server keeps to its list whatever
any client sends.
-/

namespace RnsProxy

/-- A local port of the client with the port of the server it is tunnelled to. -/
structure ForwardedPort where
  /-- The port on the server's host. -/
  serverPort : UInt16
  /-- The port the client listens on. -/
  clientPort : UInt16
  /-- The protocols. -/
  type : PortType
  deriving DecidableEq

/-- `connect_vec_merging_connect`: the forwarded ports of the command line. -/
def connectVecMergingConnect (tcpPort udpPort bothPort : List (UInt16 × UInt16)) :
    List ForwardedPort :=
  (tcpPort.map fun port => { serverPort := port.1, clientPort := port.2, type := .tcp }) ++
    (udpPort.map fun port => { serverPort := port.1, clientPort := port.2, type := .udp }) ++
    bothPort.map fun port => { serverPort := port.1, clientPort := port.2, type := .tcpUdp }

/-- The tunnels that are spawned for a port. -/
def ForwardedPort.listeners (port : ForwardedPort) : List Listener :=
  match port.type with
  | .tcp => [.forwardedTcp port.serverPort]
  | .udp => [.forwardedUdp port.serverPort]
  | .tcpUdp => [.forwardedTcp port.serverPort, .forwardedUdp port.serverPort]

/-- `run_client_forward`, with its first link established. -/
def Client.runClientForward (link : LinkId) (ports : List ForwardedPort) : Client :=
  .new link (ports.flatMap ForwardedPort.listeners)

/-- The protocol of a CONNECT request. -/
def protocol (udp : Bool) : PortType :=
  if udp then .udp else .tcp

/-- A port of the server is forwarded for a protocol. -/
def Forwards (portType : PortType) (ports : List ForwardedPort) (serverPort : UInt16) : Prop :=
  ∃ port ∈ ports, port.serverPort = serverPort ∧ port.type.matches portType = true

theorem forwards_append {portType : PortType} {front back : List ForwardedPort}
    {serverPort : UInt16} :
    Forwards portType (front ++ back) serverPort ↔
      Forwards portType front serverPort ∨ Forwards portType back serverPort := by
  simp [Forwards, or_and_right, exists_or]

theorem forwards_map {portType own : PortType} {ports : List (UInt16 × UInt16)}
    {serverPort : UInt16} :
    Forwards portType
        (ports.map fun port => { serverPort := port.1, clientPort := port.2, type := own })
        serverPort ↔
      own.matches portType = true ∧ serverPort ∈ ports.map Prod.fst := by
  simp only [Forwards, List.mem_map]
  constructor
  · rintro ⟨_, ⟨port, member, rfl⟩, rfl, meets⟩
    exact ⟨meets, port, member, rfl⟩
  · rintro ⟨meets, port, member, rfl⟩
    exact ⟨_, ⟨port, member, rfl⟩, rfl, meets⟩

/-- A forwarded port is one that a forward server with the same lists accepts. -/
theorem allowedIp_of_forwards {tcpPort udpPort bothPort : List (UInt16 × UInt16)}
    {portType : PortType} {addr : SocketAddr} (loopback : addr.ip.Loopback)
    (forwards : Forwards portType (connectVecMergingConnect tcpPort udpPort bothPort) addr.port) :
    allowedIp addr (connectVecMergingForward (tcpPort.map Prod.fst) (udpPort.map Prod.fst)
      (bothPort.map Prod.fst)) portType = true := by
  simp only [connectVecMergingConnect, forwards_append, forwards_map, PortType.matches_iff]
    at forwards
  refine (allowedIp_forward_iff _ _ _ addr portType).mpr ⟨loopback, ?_⟩
  rcases forwards with (⟨tcp | both, listed⟩ | ⟨udp | both, listed⟩) | ⟨_, listed⟩
  · exact .inl ⟨tcp.symm, listed⟩
  · cases both
  · exact .inr (.inl ⟨udp.symm, listed⟩)
  · cases both
  · exact .inr (.inr listed)

/-! ## The client asks for forwarded ports only -/

/-- A session task of the client that was accepted on one of the listeners. -/
structure Task.AcceptedOn (listeners : List Listener) (task : Task) : Prop where
  /-- It belongs to the client. -/
  side : task.side = .client
  /-- It sends in order. -/
  phase : task.InPhase
  /-- It asks for what it was accepted for. -/
  asks : ∃ listener ∈ listeners, ∃ past, task.Asks listener.start past

theorem Task.AcceptedOn.step {socks : FastSocks5} {listeners : List Listener} {task next : Task}
    {act : TaskAct} {effect : Effect} (accepted : task.AcceptedOn listeners)
    (taken : Step socks task act next effect) : next.AcceptedOn listeners := by
  obtain ⟨listener, member, past, asks⟩ := accepted.asks
  exact ⟨taken.identity.2.trans accepted.side, accepted.phase.step taken, listener, member,
    past ++ [act], asks.step accepted.phase accepted.side taken⟩

namespace Client

variable {linkMdu : ℕ+} {socks : FastSocks5} {listeners : List Listener} {link : LinkId}

/-- What a client keeps that was started with some listeners. -/
structure ListensTo (listeners : List Listener) (client : Client) : Prop where
  /-- The accept loops are those of the listeners. -/
  loops : client.loops.map AcceptLoop.listener = listeners
  /-- Every session task was accepted on one of them, and asks for what it was accepted for. -/
  tasks : ∀ chan task, client.endpoint.tasks chan = some task → task.AcceptedOn listeners

theorem listensTo_new : ListensTo listeners (new link listeners) where
  loops := by simp [new, Function.comp_def]
  tasks chan task found := by simp [new, Endpoint.new] at found

/-- An accept loop keeps its listener, and spawns tasks for it only. -/
theorem control_listeners {client next : Client} {act : ClientAct}
    {endpointAct : Option EndpointAct}
    (controlled : client.control act = some (next, endpointAct)) :
    next.loops.map AcceptLoop.listener = client.loops.map AcceptLoop.listener ∧
      ∀ start sid, endpointAct = some (.spawn start sid) →
        ∃ listener ∈ client.loops.map AcceptLoop.listener, start = listener.start := by
  have stays {loop : ℕ} {listener : Listener} {before after : AcceptStage}
      (found : client.loops[loop]? = some ⟨listener, before⟩) :
      (client.setStage loop listener after).loops.map AcceptLoop.listener =
        client.loops.map AcceptLoop.listener := by
    refine List.ext_getElem? fun other => ?_
    simp only [setStage, List.getElem?_map, List.getElem?_set]
    split_ifs with same bound
    · simp [← same, found]
    · simp [← same, List.getElem?_eq_none (not_lt.mp bound)]
    · rfl
  cases act with
  | registerSession loop =>
      simp only [control] at controlled
      split at controlled <;> cases controlled
      rename_i listener sid found
      refine ⟨stays found, fun start other spawns => ⟨listener, ?_, ?_⟩⟩
      · exact List.mem_map.mpr ⟨_, List.mem_of_getElem? found, rfl⟩
      · cases spawns
        rfl
  | session chan act => cases controlled; exact ⟨rfl, by simp⟩
  | sender act => cases controlled; exact ⟨rfl, by simp⟩
  | accept loop =>
      simp only [control] at controlled
      split at controlled <;> cases controlled
      exact ⟨stays ‹_›, by simp⟩
  | isConnected loop =>
      simp only [control] at controlled
      split at controlled <;> cases controlled
      exact ⟨stays ‹_›, by simp⟩
  | nextSessionId loop =>
      simp only [control] at controlled
      split at controlled <;> cases controlled
      exact ⟨stays ‹_›, by simp⟩
  | event event =>
      simp only [control, Option.ite_none_right_eq_some, Option.map_eq_some_iff] at controlled
      obtain ⟨_, ⟨dispatcher, reaction⟩, reacted, same⟩ := controlled
      cases same
      refine ⟨rfl, fun start sid spawns => ?_⟩
      obtain ⟨_, received⟩ := onEvent_receives reacted _ spawns
      cases received
  | dispatch =>
      simp only [control] at controlled
      split at controlled <;> cases controlled <;> exact ⟨rfl, by simp⟩
  | reset =>
      simp only [control] at controlled
      split at controlled <;> cases controlled <;> exact ⟨rfl, by simp⟩
  | attempt outcome =>
      simp only [control] at controlled
      split at controlled <;> cases controlled
      exact ⟨rfl, by simp⟩
  | setLinkId =>
      simp only [control] at controlled
      split at controlled <;> cases controlled
      exact ⟨rfl, by simp⟩
  | linkDown link => cases controlled; exact ⟨rfl, by simp⟩

theorem ListensTo.step {client next : Client} {act : ClientAct}
    (listens : ListensTo listeners client)
    (taken : client.step linkMdu socks act = some next) : ListensTo listeners next := by
  cases step_cases taken with
  | control controlled =>
      obtain ⟨same, _⟩ := control_listeners controlled
      refine ⟨same.trans listens.loops, ?_⟩
      rw [(control_cases controlled).endpoint]
      exact listens.tasks
  | endpoint controlled stepped =>
      obtain ⟨same, spawns⟩ := control_listeners controlled
      refine ⟨same.trans listens.loops, ?_⟩
      refine (Endpoint.step_cases stepped).forall_tasks listens.tasks
        (fun start sid made => ?_) fun task act after effect before moved => before.step moved
      obtain ⟨listener, member, rfl⟩ := spawns start sid (congrArg some made)
      exact ⟨listener.side_start, Task.inPhase_spawn listener.start sid, listener,
        listens.loops ▸ member, [], Task.asks_spawn sid⟩

theorem request_of_mem_log {client : Client}
    (reachable : Execution.Reachable (step linkMdu socks) (new link listeners) client)
    {out : Outgoing} (member : out ∈ client.endpoint.mux.log)
    (connects : out.frame.frameType = .connect) :
    ∃ listener ∈ listeners, ∃ past request, listener.start.request past = some request ∧
      out.frame = request.frame out.frame.sessionId := by
  obtain ⟨acts, execution⟩ := endpoint_reachable reachable
  have well := Endpoint.wellFormed_of_reachable ⟨acts, execution⟩
  have queued {origin : Option ChanId} (owner : out.origin = origin) :
      out.frame ∈ client.endpoint.mux.enqueuedBy origin :=
    List.mem_map.mpr ⟨out, List.mem_filter.mpr ⟨member, by simp [owner]⟩, rfl⟩
  cases origin : out.origin with
  | none =>
      have refused := queued origin
      rw [Endpoint.enqueuedBy_none_of_run execution, List.mem_map] at refused
      obtain ⟨sid, _, same⟩ := refused
      simp [← same, Endpoint.refusal] at connects
  | some chan =>
      obtain ⟨task, found, same_sid⟩ := well.origin out member chan origin
      have sent : out.frame ∈ task.sent := well.sent chan task found ▸ queued origin
      have listens : ListensTo listeners client :=
        reachable.invariant listensTo_new fun _ _ _ listens taken => listens.step taken
      have accepted := listens.tasks chan task found
      obtain ⟨listener, listed, past, asks⟩ := accepted.asks
      obtain ⟨request, known, same⟩ :=
        asks.sent out.frame (accepted.phase.head_of_connect sent connects)
      exact ⟨listener, listed, past, request, known, same_sid ▸ same⟩

theorem request_of_listeners {ports : List ForwardedPort} {listener : Listener}
    (listed : listener ∈ ports.flatMap ForwardedPort.listeners) {past : List TaskAct}
    {request : Request} (known : listener.start.request past = some request) :
    request.host = localhost ∧ Forwards (protocol request.flow.udp) ports request.port := by
  obtain ⟨port, member, spawned⟩ := List.mem_flatMap.mp listed
  have cases_of : listener = .forwardedTcp port.serverPort ∧ port.type.matches .tcp = true ∨
      listener = .forwardedUdp port.serverPort ∧ port.type.matches .udp = true := by
    rcases port with ⟨serverPort, clientPort, _ | _ | _⟩ <;>
      simpa [ForwardedPort.listeners, PortType.matches] using spawned
  rcases cases_of with ⟨rfl, meets⟩ | ⟨rfl, meets⟩
  · cases known
    exact ⟨rfl, port, member, rfl, meets⟩
  · cases known
    exact ⟨rfl, port, member, rfl, meets⟩

/-- In every run of a client that forwards ports, whatever the server and the link do, each CONNECT
frame asks for a port of the list, at the host of the server, for a protocol it is listed for. A
forward server with the same lists parses the frame and accepts every loopback address with that
port. -/
theorem asksForForwardedPorts {tcpPort udpPort bothPort : List (UInt16 × UInt16)}
    {acts : List ClientAct} {client : Client}
    (execution : Execution.run (step linkMdu socks)
      (runClientForward link (connectVecMergingConnect tcpPort udpPort bothPort)) acts =
        some client)
    {out : Outgoing} (member : out ∈ client.endpoint.mux.log)
    (connects : out.frame.frameType = .connect) :
    ∃ serverPort udp,
      decodeConnectPayload out.frame.payload = some (localhost.name, serverPort, udp) ∧
      Forwards (protocol udp) (connectVecMergingConnect tcpPort udpPort bothPort) serverPort ∧
      ∀ addr : SocketAddr, addr.ip.Loopback → addr.port = serverPort →
        allowedIp addr (connectVecMergingForward (tcpPort.map Prod.fst) (udpPort.map Prod.fst)
          (bothPort.map Prod.fst)) (protocol udp) = true := by
  obtain ⟨listener, listed, past, request, known, same⟩ :=
    request_of_mem_log ⟨acts, execution⟩ member connects
  obtain ⟨host, forwards⟩ := request_of_listeners listed known
  refine ⟨request.port, request.flow.udp, ?_, forwards, fun addr loopback same_port => ?_⟩
  · rw [same, request.decode_frame, host]
  · exact allowedIp_of_forwards loopback (same_port ▸ forwards)

/-- An application connects to the UDP tunnel of a port that is forwarded for both protocols. -/
def udpConnection : List ClientAct :=
  [.accept 2, .isConnected 2, .nextSessionId 2, .registerSession 2, .session 0 .send]

/-- The client asks for the port on the server's host. -/
theorem asksForForwardedPorts_udpConnection :
    ∃ client out, Execution.run (step 431 .rfc1928)
        (runClientForward 1 (connectVecMergingConnect [(80, 8080)] [] [(53, 5353)]))
        udpConnection = some client ∧
      client.endpoint.mux.log = [out] ∧
      ∃ serverPort udp,
        decodeConnectPayload out.frame.payload = some (localhost.name, serverPort, udp) ∧
        Forwards (protocol udp) (connectVecMergingConnect [(80, 8080)] [] [(53, 5353)])
          serverPort := by
  have ends : ∃ client out, Execution.run (step 431 .rfc1928)
        (runClientForward 1 (connectVecMergingConnect [(80, 8080)] [] [(53, 5353)]))
        udpConnection = some client ∧
      client.endpoint.mux.log = [out] ∧ out.frame.frameType = .connect :=
    ⟨_, _, rfl, rfl, rfl⟩
  obtain ⟨client, out, execution, log, connects⟩ := ends
  obtain ⟨serverPort, udp, decoded, forwards, _⟩ :=
    asksForForwardedPorts execution (by simp [log]) connects
  exact ⟨client, out, execution, log, serverPort, udp, decoded, forwards⟩

end Client

/-! ## The server keeps to its list -/

/-- Every address that is used is allowed. -/
theorem Mediated.allowed {config : FilterConfig} {history : List Io}
    (mediated : Mediated config history) :
    (∀ addr, .connect addr ∈ history → allowedIp addr config .tcp = true) ∧
      (∀ addr data, .sendTo addr data ∈ history → allowedIp addr config .udp = true) ∧
      ∀ source payload, .forwarded source payload ∈ history →
        allowedIp source config .udp = true := by
  refine ⟨fun addr used => ?_, fun addr data used => ?_, fun source payload used => ?_⟩ <;>
    obtain ⟨before, after, split⟩ := List.append_of_mem used
  · exact (mediated before _ after split).choose_spec.2
  · exact (mediated before _ after split).choose_spec.2
  · exact (mediated before _ after split).choose_spec.choose_spec.choose_spec.2.2

/-- A session task of the server that does what it was started for, and no more than the filter
allows. -/
structure Task.KeepsTo (config : FilterConfig) (task : Task) : Prop where
  /-- Every use of an address is mediated. -/
  filtered : task.Filtered config
  /-- It spawns its relay in time. -/
  inTime : task.SpawnsInTime
  /-- It does what it was started for. -/
  serves : ∃ start, Server.Spawns config start ∧ task.Serves start

theorem Task.keepsTo_spawn {config : FilterConfig} {start : Start}
    (spawns : Server.Spawns config start) (sid : UInt32) : (spawn start sid).KeepsTo config :=
  ⟨filtered_spawn spawns, spawnsInTime_spawn start sid, start, spawns, serves_spawn spawns sid⟩

theorem Task.KeepsTo.step {socks : FastSocks5} {config : FilterConfig} {task next : Task}
    {act : TaskAct} {effect : Effect} (keeps : task.KeepsTo config)
    (taken : Step socks task act next effect) : next.KeepsTo config := by
  obtain ⟨start, spawns, serves⟩ := keeps.serves
  exact ⟨keeps.filtered.step taken, keeps.inTime.step taken, start, spawns,
    serves.step keeps.inTime taken⟩

/-- Every session task of an endpoint keeps to the filter. -/
def Endpoint.KeepsTo (config : FilterConfig) (ep : Endpoint) : Prop :=
  ∀ chan task, ep.tasks chan = some task → task.KeepsTo config

/-- An open TCP session is connected to an address the filter allows, and to no other. -/
theorem Task.KeepsTo.dialled {config : FilterConfig} {task : Task} (keeps : task.KeepsTo config)
    {relay : Relay} (spawned : task.relay = some relay) (tcp : relay.kind = .bidirectionalTcp) :
    ∃ target, allowedIp target config .tcp = true ∧ task.io = RnsProxy.dialled target := by
  obtain ⟨start, spawns, serves⟩ := keeps.serves
  have opened := serves.relay relay spawned
  rcases spawns with ⟨addr, rfl⟩ | rfl
  · exact opened.2
  · cases tcp.symm.trans opened.1

namespace Server

variable {linkMdu : ℕ+} {socks : FastSocks5}

theorem keepsTo_of_reachable {config : FilterConfig} {server : Server}
    (reachable : Execution.Reachable (step linkMdu socks) (new config) server) {muxId : MuxId}
    {chan : ChanId} {task : Task} (found : (server.muxes muxId).tasks chan = some task) :
    task.KeepsTo config := by
  have kept : ∀ before act after,
      (∀ muxId, (muxes before muxId).KeepsTo before.filterConfig) →
      step linkMdu socks before act = some after →
      ∀ muxId, (muxes after muxId).KeepsTo after.filterConfig := by
    intro before act after keeps taken
    have same_config : after.filterConfig = before.filterConfig := by
      cases step_cases taken <;> rfl
    rw [same_config]
    refine (step_cases taken).forall_endpoints keeps (fun link chan task found => ?_)
      fun muxId act ep moved spawned => ?_
    · simp [Endpoint.new] at found
    · exact (Endpoint.step_cases moved).forall_tasks (keeps muxId)
        (fun start sid spawns => Task.keepsTo_spawn (spawned start sid spawns) sid)
        fun task act after effect before taken => before.step taken
  have start : ∀ muxId, ((new config).muxes muxId).KeepsTo (new config).filterConfig := by
    intro muxId chan task found
    simp [new, Endpoint.new] at found
  rw [← filterConfig_of_reachable reachable]
  exact reachable.invariant start kept muxId chan task found

/-- In every run of a forward server, whatever the clients send and the resolver answers, each open
TCP session is connected to one loopback address with a port of the TCP or of the common list. The
server opens no other TCP connections, and sends datagrams to and forwards them from loopback
addresses with a port of the UDP or of the common list only. -/
theorem reachesListedPorts {tcpPort udpPort bothPort : List UInt16} {acts : List ServerAct}
    {server : Server}
    (execution : Execution.run (step linkMdu socks)
      (new (connectVecMergingForward tcpPort udpPort bothPort)) acts = some server)
    {muxId : MuxId} {chan : ChanId} {task : Task}
    (found : (server.muxes muxId).tasks chan = some task) :
    (∀ relay, task.relay = some relay → relay.kind = .bidirectionalTcp → ∃ target,
      target.ip.Loopback ∧ (target.port ∈ tcpPort ∨ target.port ∈ bothPort) ∧
        task.io = dialled target) ∧
    ∀ history ∈ task.histories,
      (∀ addr, .connect addr ∈ history →
        addr.ip.Loopback ∧ (addr.port ∈ tcpPort ∨ addr.port ∈ bothPort)) ∧
      (∀ addr data, .sendTo addr data ∈ history →
        addr.ip.Loopback ∧ (addr.port ∈ udpPort ∨ addr.port ∈ bothPort)) ∧
      ∀ source payload, .forwarded source payload ∈ history →
        source.ip.Loopback ∧ (source.port ∈ udpPort ∨ source.port ∈ bothPort) := by
  have keeps := keepsTo_of_reachable ⟨acts, execution⟩ found
  have tcp {addr : SocketAddr}
      (allowed : allowedIp addr (connectVecMergingForward tcpPort udpPort bothPort) .tcp = true) :
      addr.ip.Loopback ∧ (addr.port ∈ tcpPort ∨ addr.port ∈ bothPort) := by
    simpa using (allowedIp_forward_iff tcpPort udpPort bothPort addr .tcp).mp allowed
  have udp {addr : SocketAddr}
      (allowed : allowedIp addr (connectVecMergingForward tcpPort udpPort bothPort) .udp = true) :
      addr.ip.Loopback ∧ (addr.port ∈ udpPort ∨ addr.port ∈ bothPort) := by
    simpa using (allowedIp_forward_iff tcpPort udpPort bothPort addr .udp).mp allowed
  refine ⟨fun relay spawned isTcp => ?_, fun history member => ?_⟩
  · obtain ⟨target, allowed, io⟩ := keeps.dialled spawned isTcp
    exact ⟨target, (tcp allowed).1, (tcp allowed).2, io⟩
  · obtain ⟨connects, sends, forwards⟩ := (keeps.filtered.mediated history member).allowed
    exact ⟨fun addr used => tcp (connects addr used),
      fun addr data used => udp (sends addr data used),
      fun source payload used => udp (forwards source payload used)⟩

/-- A client asks a forward server for a port that is listed. -/
def listedConnection : List ServerAct :=
  [.event (.linkEstablished 1 false),
    .event (.linkData 1 (Frame.encode ⟨.connect, 7, encodeConnectPayload "127.0.0.1" 80 false⟩)),
    .frame, .frame, .session 0 0 (.resolved (some (.ip ⟨.v4 .LOCALHOST, 80⟩))),
    .session 0 0 (.opened none), .session 0 0 .send]

/-- The session is connected to the listed port. -/
theorem reachesListedPorts_listedConnection :
    ∃ server task relay, Execution.run (step 431 .rfc1928)
        (new (connectVecMergingForward [80] [] [])) listedConnection = some server ∧
      (server.muxes 0).tasks 0 = some task ∧ task.relay = some relay ∧
      ∃ target, target.ip.Loopback ∧ (target.port ∈ [(80 : UInt16)] ∨ target.port ∈ []) ∧
        task.io = dialled target := by
  have ends : ∃ server task relay, Execution.run (step 431 .rfc1928)
        (new (connectVecMergingForward [80] [] [])) listedConnection = some server ∧
      (server.muxes 0).tasks 0 = some task ∧ task.relay = some relay ∧
      relay.kind = .bidirectionalTcp :=
    ⟨_, _, _, rfl, rfl, rfl, rfl⟩
  obtain ⟨server, task, relay, execution, found, spawned, tcp⟩ := ends
  exact ⟨server, task, relay, execution, found, spawned,
    (reachesListedPorts execution found).1 relay spawned tcp⟩

end Server

end RnsProxy
