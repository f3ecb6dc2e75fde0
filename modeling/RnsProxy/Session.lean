import RnsProxy.Relay

/-!
# Session tasks

Every session is handled by a task of its own on either side. On the client the task comes from
one of four places (a SOCKS5 CONNECT or UDP ASSOCIATE request, a connection to a forwarded TCP port
or a forwarded UDP port), on the server from a CONNECT frame for TCP or for UDP. A task is a
handler, modelled by the `await` it is suspended at, and the relay tasks it has spawned, which may
outlive it. Everything the outside world decides is an argument of an action.
-/

namespace RnsProxy

/-- A host name that fits a CONNECT payload, as the one-byte length of a SOCKS5 domain name and the
textual form of an IP address guarantee. -/
structure Host where
  /-- The name. -/
  name : String
  /-- Its length fits one byte. -/
  short : name.toUTF8.size ≤ 255
  deriving DecidableEq

/-- The text of an I/O error, short enough for a frame. -/
structure ErrorText where
  /-- The text. -/
  bytes : Bytes
  /-- It fits a frame. -/
  short : bytes.length ≤ 65535
  deriving DecidableEq

/-- `as_bytes` of a string. -/
def text (string : String) : Bytes :=
  string.toUTF8.data.toList

/-- The client flows that open a session on the server. -/
inductive Flow
  /-- `handle_tcp_connect` for a SOCKS5 CONNECT request. -/
  | socksTcp
  /-- `handle_udp_connect` for a SOCKS5 UDP ASSOCIATE request. -/
  | socksUdp
  /-- The task `tcp_tunnel` spawns. -/
  | forwardedTcp
  /-- The task `udp_tunnel` spawns. -/
  | forwardedUdp (serverPort : UInt16)
  deriving DecidableEq, Repr

/-- The protocol a flow asks the server for. -/
def Flow.udp : Flow → Bool
  | socksTcp => false
  | socksUdp => true
  | forwardedTcp => false
  | forwardedUdp _ => true

/-- The relay a flow ends in. -/
def Flow.relay : Flow → RelayKind
  | socksTcp => .bidirectionalTcp
  | socksUdp => .udpClientSide
  | forwardedTcp => .forwardedTcp
  | forwardedUdp serverPort => .forwardedUdp serverPort

/-- Why the wait for a reply to CONNECT fails. -/
inductive WaitFailure
  /-- CONN_ERR was received. -/
  | connectErr
  /-- 60 seconds have passed. -/
  | timeout
  /-- The session channel was closed. -/
  | channelClosed
  deriving DecidableEq, Repr

/-- How a session task has ended. -/
inductive Exit
  /-- `accept_no_auth` failed. -/
  | handshakeFailed
  /-- `read_command` failed. -/
  | commandFailed
  /-- The request was a BIND. -/
  | unsupported
  /-- The session could not be opened. -/
  | connectFailed (why : WaitFailure)
  /-- Binding the local UDP socket panicked. -/
  | bindPanicked
  /-- The success reply could not be delivered. -/
  | replyFailed
  /-- The server refused the session. -/
  | refused
  /-- The relay ended. -/
  | relayEnded
  deriving DecidableEq, Repr

/-- The `await` a handler is suspended at. -/
inductive Pc
  /-- `Socks5ServerProtocol::accept_no_auth`. -/
  | handshake
  /-- `proto.read_command`. -/
  | readCommand
  /-- `mux.send(FrameType::Connect, ..)`. -/
  | connecting (flow : Flow) (host : Host) (port : UInt16)
  /-- The wait for CONN_OK or CONN_ERR. -/
  | waiting (flow : Flow)
  /-- `UdpSocket::bind` of `handle_udp_connect`, with the result of the wait. -/
  | binding (result : Except WaitFailure Unit)
  /-- `proto.reply_success`. -/
  | replying (flow : Flow)
  /-- `proto.reply_error` of `handle_udp_connect`. -/
  | replyingFailure (why : WaitFailure)
  /-- `proto.reply_error` for a BIND request. -/
  | replyingUnsupported
  /-- `filter_and_convert` of `handle_server_session_tcp`. -/
  | filtering (addr : TargetAddr) (config : FilterConfig)
  /-- `TcpStream::connect`. -/
  | opening (addr : SocketAddr)
  /-- `UdpSocket::bind` of `handle_server_session_udp`. -/
  | serverBinding (config : FilterConfig)
  /-- `mux.send(FrameType::ConnectErr, ..)`. -/
  | refusing (payload : Bytes)
  /-- `mux.send(FrameType::ConnectOk, ..)`, with the relay that follows. -/
  | confirming (kind : RelayKind)
  /-- `select!` on the relay tasks. -/
  | relaying
  /-- `mux.send(FrameType::Close, ..)`. -/
  | closing (exit : Exit)
  /-- `mux.drop_session`. -/
  | dropping (exit : Exit)
  /-- The handler has returned. -/
  | ended (exit : Exit)
  deriving DecidableEq

/-- Which program a session task belongs to. -/
inductive Side
  /-- The client. -/
  | client
  /-- The server. -/
  | server
  deriving DecidableEq, Repr

/-- A session task: its handler and the relay tasks it has spawned. -/
structure Task where
  /-- The program it belongs to. -/
  side : Side
  /-- The session id. -/
  sid : UInt32
  /-- Where the handler stands. -/
  pc : Pc
  /-- The relay tasks. -/
  relay : Option Relay
  /-- History: the frames the task has sent, in order. -/
  sent : List Frame
  /-- History: the frames the handler itself has taken from the session channel. -/
  answers : List Frame
  /-- History: what the handler has done at its sockets. -/
  io : List Io
  deriving DecidableEq

/-- What a session task is spawned for. -/
inductive Start
  /-- A connection to the SOCKS5 listener. -/
  | socks
  /-- A connection to a forwarded TCP port. -/
  | forwardedTcp (serverPort : UInt16)
  /-- A connection to a forwarded UDP port. -/
  | forwardedUdp (serverPort : UInt16)
  /-- A CONNECT frame for TCP. -/
  | serverTcp (addr : TargetAddr) (config : FilterConfig)
  /-- A CONNECT frame for UDP. -/
  | serverUdp (config : FilterConfig)
  deriving DecidableEq, Repr

/-- The program that spawns a session task. -/
def Start.side : Start → Side
  | socks => .client
  | forwardedTcp _ => .client
  | forwardedUdp _ => .client
  | serverTcp _ _ => .server
  | serverUdp _ => .server

/-- The host of every forwarded connection. -/
def localhost : Host := ⟨"127.0.0.1", by decide⟩

/-- The first `await` of a session task. -/
def Start.pc : Start → Pc
  | socks => .handshake
  | forwardedTcp serverPort => .connecting .forwardedTcp localhost serverPort
  | forwardedUdp serverPort => .connecting (.forwardedUdp serverPort) localhost serverPort
  | serverTcp addr config => .filtering addr config
  | serverUdp config => .serverBinding config

/-- A SOCKS5 command. -/
inductive Command
  /-- CONNECT. -/
  | tcpConnect
  /-- UDP ASSOCIATE. -/
  | udpAssociate
  /-- BIND. -/
  | tcpBind
  deriving DecidableEq, Repr

/-- The steps of a session task, with what the outside world answers. -/
inductive TaskAct
  /-- The SOCKS5 handshake returns. -/
  | handshake (ok : Bool)
  /-- The SOCKS5 command is read, with the target as host and port. -/
  | command (request : Option (Command × Host × UInt16))
  /-- The handler's frame enters the send queue. -/
  | send
  /-- The handler's `session_rx.recv()` returns. -/
  | recv (result : Option Frame)
  /-- The wait for a reply times out. -/
  | timeout
  /-- `UdpSocket::bind` returns. -/
  | bound (error : Option ErrorText)
  /-- A SOCKS5 reply is delivered, or not. -/
  | replied (ok : Bool)
  /-- The resolver answers the handler. -/
  | resolved (answer : Option TargetAddr)
  /-- `TcpStream::connect` returns. -/
  | opened (error : Option ErrorText)
  /-- `select!` returns. -/
  | select
  /-- `drop_session` returns. -/
  | dropSession
  /-- A step of a relay task. -/
  | relay (act : RelayAct)
  deriving DecidableEq

namespace Task

/-- A task as it is spawned. -/
def spawn (start : Start) (sid : UInt32) : Task where
  side := start.side
  sid := sid
  pc := start.pc
  relay := none
  sent := []
  answers := []
  io := []

/-- Enter the relay. -/
def startRelay (task : Task) (kind : RelayKind) : Task :=
  { task with pc := .relaying, relay := some (Relay.start kind) }

/-- The wait for a reply has succeeded. -/
def connected (task : Task) : Flow → Task
  | .socksTcp => { task with pc := .replying .socksTcp }
  | .socksUdp => { task with pc := .binding (.ok ()) }
  | .forwardedTcp => task.startRelay (Flow.relay .forwardedTcp)
  | .forwardedUdp serverPort => task.startRelay (Flow.relay (.forwardedUdp serverPort))

/-- The wait for a reply has failed. Only `handle_udp_connect` goes on to reply and to drop the
session. -/
def connectFailed (task : Task) (why : WaitFailure) : Flow → Task
  | .socksUdp => { task with pc := .binding (.error why) }
  | .socksTcp => { task with pc := .ended (.connectFailed why) }
  | .forwardedTcp => { task with pc := .ended (.connectFailed why) }
  | .forwardedUdp _ => { task with pc := .ended (.connectFailed why) }

/-- The frame the handler is sending, and the task once the send queue has accepted it. -/
def pendingSend (task : Task) : Option (Frame × Task) :=
  match task.pc with
  | .connecting flow host port =>
      some
        ({ frameType := .connect, sessionId := task.sid,
            payload := encodeConnectPayload host.name port flow.udp },
          { task with pc := .waiting flow })
  | .refusing payload =>
      some
        ({ frameType := .connectErr, sessionId := task.sid, payload },
          { task with pc := .dropping .refused })
  | .confirming kind =>
      some
        ({ frameType := .connectOk, sessionId := task.sid, payload := [] }, task.startRelay kind)
  | .closing exit =>
      some
        ({ frameType := .close, sessionId := task.sid, payload := [] },
          { task with pc := .dropping exit })
  | _ => none

/-- The handler takes a frame from the session channel while it waits for a reply. -/
def onReply (task : Task) (flow : Flow) : Option Frame → Task
  | some frame =>
      let task := { task with answers := task.answers ++ [frame] }
      match frame.frameType with
      | .connectOk => task.connected flow
      | .connectErr => task.connectFailed .connectErr flow
      | _ => task
  | none => task.connectFailed .channelClosed flow

/-- `handle_server_session_tcp` after `filter_and_convert`. -/
def onFiltered (task : Task) (config : FilterConfig) (answer : Option TargetAddr) : Task :=
  match filterAndConvert answer (some config) .tcp with
  | some addr =>
      { task with
        pc := .opening addr
        io := task.io ++ filterIo answer config .tcp ++ [.connect addr] }
  | none =>
      { task with
        pc := .refusing (text "invalid ip address")
        io := task.io ++ filterIo answer config .tcp }

/-- One step of a session task. -/
def step (socks : FastSocks5) (task : Task) (act : TaskAct) : Option (Task × Effect) :=
  match act, task.pc with
  | .handshake true, .handshake => some ({ task with pc := .readCommand }, .none)
  | .handshake false, .handshake => some ({ task with pc := .ended .handshakeFailed }, .none)
  | .command (some (.tcpConnect, host, port)), .readCommand =>
      some ({ task with pc := .connecting .socksTcp host port }, .none)
  | .command (some (.udpAssociate, host, port)), .readCommand =>
      some ({ task with pc := .connecting .socksUdp host port }, .none)
  | .command (some (.tcpBind, _, _)), .readCommand =>
      some ({ task with pc := .replyingUnsupported }, .none)
  | .command none, .readCommand => some ({ task with pc := .ended .commandFailed }, .none)
  | .send, _ =>
      task.pendingSend.map fun pending =>
        ({ pending.2 with sent := task.sent ++ [pending.1] }, .send pending.1)
  | .recv result, .waiting flow => some (task.onReply flow result, .recv result)
  | .timeout, .waiting flow => some (task.connectFailed .timeout flow, .none)
  | .bound none, .binding (.ok ()) => some ({ task with pc := .replying .socksUdp }, .none)
  | .bound none, .binding (.error why) => some ({ task with pc := .replyingFailure why }, .none)
  | .bound (some _), .binding _ => some ({ task with pc := .ended .bindPanicked }, .none)
  | .replied true, .replying flow => some (task.startRelay flow.relay, .none)
  | .replied false, .replying _ => some ({ task with pc := .closing .replyFailed }, .none)
  | .replied _, .replyingFailure why =>
      some ({ task with pc := .dropping (.connectFailed why) }, .none)
  | .replied _, .replyingUnsupported => some ({ task with pc := .ended .unsupported }, .none)
  | .resolved answer, .filtering _ config => some (task.onFiltered config answer, .none)
  | .opened none, .opening _ => some ({ task with pc := .confirming .bidirectionalTcp }, .none)
  | .opened (some error), .opening _ => some ({ task with pc := .refusing error.bytes }, .none)
  | .bound none, .serverBinding config =>
      some ({ task with pc := .confirming (.udpServerSide config) }, .none)
  | .bound (some error), .serverBinding _ =>
      some ({ task with pc := .refusing error.bytes }, .none)
  | .select, .relaying =>
      match task.relay with
      | some relay =>
          if relay.selectReady then
            some
              ({ task with
                  pc := .closing .relayEnded
                  relay := some { relay with aborted := (relay.kind.program socks).aborts } },
                .none)
          else none
      | none => none
  | .dropSession, .dropping exit => some ({ task with pc := .ended exit }, .dropSession)
  | .relay act, _ =>
      match task.relay with
      | some relay =>
          match relay.step socks task.sid act with
          | some (relay, effect) =>
              some ({ task with relay := some relay, sent := task.sent ++ effect.frames }, effect)
          | none => none
      | none => none
  | _, _ => none

/-- The handler has returned. -/
def hasEnded (task : Task) : Bool :=
  match task.pc with
  | .ended _ => true
  | _ => false

/-- Some task of the session still holds `session_rx`. -/
def holdsReceiver (task : Task) : Bool :=
  match task.relay with
  | some relay => relay.writer != .finished
  | none => !task.hasEnded

/-- Some task of the session still holds a clone of the multiplexer handle: the handler, or the
reader through `mux_fwd`. -/
def holdsMux (task : Task) : Bool :=
  !task.hasEnded ||
    match task.relay with
    | some relay => relay.reader != .finished
    | none => false

/-! ## What each step can do -/

/-- The steps of a handler that touch nothing but where it stands. -/
inductive Moves : Pc → TaskAct → Pc → Prop
  | handshake : Moves .handshake (.handshake true) .readCommand
  | handshakeFailed : Moves .handshake (.handshake false) (.ended .handshakeFailed)
  | tcpConnect {host port} :
      Moves .readCommand (.command (some (.tcpConnect, host, port)))
        (.connecting .socksTcp host port)
  | udpAssociate {host port} :
      Moves .readCommand (.command (some (.udpAssociate, host, port)))
        (.connecting .socksUdp host port)
  | tcpBind {host port} :
      Moves .readCommand (.command (some (.tcpBind, host, port))) .replyingUnsupported
  | commandFailed : Moves .readCommand (.command none) (.ended .commandFailed)
  | bound : Moves (.binding (.ok ())) (.bound none) (.replying .socksUdp)
  | boundAfterFailure {why} :
      Moves (.binding (.error why)) (.bound none) (.replyingFailure why)
  | bindPanicked {result error} :
      Moves (.binding result) (.bound (some error)) (.ended .bindPanicked)
  | replyFailed {flow} : Moves (.replying flow) (.replied false) (.closing .replyFailed)
  | repliedFailure {why ok} :
      Moves (.replyingFailure why) (.replied ok) (.dropping (.connectFailed why))
  | repliedUnsupported {ok} : Moves .replyingUnsupported (.replied ok) (.ended .unsupported)
  | opened {addr} : Moves (.opening addr) (.opened none) (.confirming .bidirectionalTcp)
  | openFailed {addr error} :
      Moves (.opening addr) (.opened (some error)) (.refusing error.bytes)
  | serverBound {config} :
      Moves (.serverBinding config) (.bound none) (.confirming (.udpServerSide config))
  | serverBindFailed {config error} :
      Moves (.serverBinding config) (.bound (some error)) (.refusing error.bytes)

theorem Moves.not_relay {before after : Pc} {act : RelayAct} :
    ¬ Moves before (.relay act) after := by
  intro moves
  cases moves

/-- The frames that a handler sends of its own, each with where the handler stands before and
after. -/
inductive Sends (task : Task) : Frame → Task → Prop
  | connect {flow host port} (connecting : task.pc = .connecting flow host port) :
      Sends task
        { frameType := .connect, sessionId := task.sid,
          payload := encodeConnectPayload host.name port flow.udp }
        { task with pc := .waiting flow }
  | refuse {payload} (refusing : task.pc = .refusing payload) :
      Sends task { frameType := .connectErr, sessionId := task.sid, payload }
        { task with pc := .dropping .refused }
  | confirm {kind} (confirming : task.pc = .confirming kind) :
      Sends task { frameType := .connectOk, sessionId := task.sid, payload := [] }
        (task.startRelay kind)
  | close {exit} (closing : task.pc = .closing exit) :
      Sends task { frameType := .close, sessionId := task.sid, payload := [] }
        { task with pc := .dropping exit }

theorem pendingSend_cases {task next : Task} {frame : Frame}
    (pending : task.pendingSend = some (frame, next)) : Sends task frame next := by
  rw [pendingSend] at pending
  split at pending <;> cases pending
  · exact .connect ‹_›
  · exact .refuse ‹_›
  · exact .confirm ‹_›
  · exact .close ‹_›

/-- The steps of a session task, each with its guard and its effect. -/
inductive Step (socks : FastSocks5) (task : Task) : TaskAct → Task → Effect → Prop
  | move {act pc} (moves : Moves task.pc act pc) : Step socks task act { task with pc } .none
  | send {frame next} (pending : task.pendingSend = some (frame, next)) :
      Step socks task .send { next with sent := task.sent ++ [frame] } (.send frame)
  | reply {flow result} (waiting : task.pc = .waiting flow) :
      Step socks task (.recv result) (task.onReply flow result) (.recv result)
  | timeout {flow} (waiting : task.pc = .waiting flow) :
      Step socks task .timeout (task.connectFailed .timeout flow) .none
  | replied {flow} (replying : task.pc = .replying flow) :
      Step socks task (.replied true) (task.startRelay flow.relay) .none
  | filtered {answer addr config} (filtering : task.pc = .filtering addr config) :
      Step socks task (.resolved answer) (task.onFiltered config answer) .none
  | select {relay} (relaying : task.pc = .relaying) (spawned : task.relay = some relay)
      (ready : relay.selectReady = true) :
      Step socks task .select
        { task with
          pc := .closing .relayEnded
          relay := some { relay with aborted := (relay.kind.program socks).aborts } }
        .none
  | dropSession {exit} (dropping : task.pc = .dropping exit) :
      Step socks task .dropSession { task with pc := .ended exit } .dropSession
  | relay {act relay next effect} (spawned : task.relay = some relay)
      (taken : Relay.Step socks task.sid relay act next effect) :
      Step socks task (.relay act)
        { task with relay := some next, sent := task.sent ++ effect.frames } effect

theorem step_cases {socks : FastSocks5} {task next : Task} {act : TaskAct} {effect : Effect}
    (taken : task.step socks act = some (next, effect)) : Step socks task act next effect := by
  simp only [step] at taken
  split at taken
  case h_7 =>
    obtain ⟨⟨frame, after⟩, pending, rfl, rfl⟩ := by
      simpa only [Option.map_eq_some_iff, Prod.mk.injEq] using taken
    exact .send pending
  case h_8 waiting =>
    cases taken
    exact .reply waiting
  case h_9 waiting =>
    cases taken
    exact .timeout waiting
  case h_13 replying =>
    cases taken
    exact .replied replying
  case h_17 filtering =>
    cases taken
    exact .filtered filtering
  case h_22 relaying =>
    split at taken
    · split at taken
      · cases taken
        exact .select relaying ‹_› ‹_›
      · cases taken
    · cases taken
  case h_23 dropping =>
    cases taken
    exact .dropSession dropping
  case h_24 =>
    split at taken
    · split at taken
      · cases taken
        exact .relay ‹_› (Relay.step_cases ‹_›)
      · cases taken
    · cases taken
  case h_25 => cases taken
  all_goals
    cases taken
    refine .move ?_
    rename_i at_pc
    rw [at_pc]
    constructor

/-! ## What no step changes -/

theorem connected_frame (task : Task) (flow : Flow) :
    ∃ pc relay, task.connected flow = { task with pc, relay } := by
  cases flow with
  | socksTcp => exact ⟨_, task.relay, rfl⟩
  | socksUdp => exact ⟨_, task.relay, rfl⟩
  | forwardedTcp => exact ⟨_, _, rfl⟩
  | forwardedUdp serverPort => exact ⟨_, _, rfl⟩

theorem connectFailed_frame (task : Task) (why : WaitFailure) (flow : Flow) :
    ∃ pc, task.connectFailed why flow = { task with pc } := by
  cases flow with
  | socksTcp => exact ⟨_, rfl⟩
  | socksUdp => exact ⟨_, rfl⟩
  | forwardedTcp => exact ⟨_, rfl⟩
  | forwardedUdp serverPort => exact ⟨_, rfl⟩

theorem onReply_frame (task : Task) (flow : Flow) (result : Option Frame) :
    ∃ pc relay, task.onReply flow result =
      { task with pc, relay, answers := task.answers ++ result.toList } := by
  cases result with
  | none =>
      obtain ⟨pc, same⟩ := task.connectFailed_frame .channelClosed flow
      exact ⟨pc, task.relay, by simp [onReply, same]⟩
  | some frame =>
      simp only [onReply]
      split
      · exact connected_frame _ flow
      · obtain ⟨pc, same⟩ := connectFailed_frame
          { task with answers := task.answers ++ [frame] } .connectErr flow
        exact ⟨pc, task.relay, same⟩
      · exact ⟨task.pc, task.relay, rfl⟩

theorem onFiltered_frame (task : Task) (config : FilterConfig) (answer : Option TargetAddr) :
    ∃ pc io, task.onFiltered config answer = { task with pc, io } := by
  rw [onFiltered]
  split
  · exact ⟨_, _, rfl⟩
  · exact ⟨_, _, rfl⟩

/-- The frame the handler is sending belongs to its session, and sending it changes only where the
handler stands and what it has spawned. -/
theorem pendingSend_frame {task next : Task} {frame : Frame}
    (pending : task.pendingSend = some (frame, next)) :
    frame.sessionId = task.sid ∧ ∃ pc relay, next = { task with pc, relay } := by
  cases pendingSend_cases pending with
  | connect => exact ⟨rfl, _, task.relay, rfl⟩
  | refuse => exact ⟨rfl, _, task.relay, rfl⟩
  | confirm => exact ⟨rfl, _, _, rfl⟩
  | close => exact ⟨rfl, _, task.relay, rfl⟩

section Steps

variable {socks : FastSocks5} {task next : Task} {act : TaskAct} {effect : Effect}

/-- A task keeps its session id and its side. -/
theorem Step.identity (taken : Step socks task act next effect) :
    next.sid = task.sid ∧ next.side = task.side := by
  cases taken with
  | send pending =>
      obtain ⟨_, pc, relay, rfl⟩ := pendingSend_frame pending
      exact ⟨rfl, rfl⟩
  | @reply flow result =>
      obtain ⟨pc, relay, same⟩ := task.onReply_frame flow result
      simp [same]
  | @timeout flow =>
      obtain ⟨pc, same⟩ := task.connectFailed_frame .timeout flow
      simp [same]
  | @filtered answer addr config =>
      obtain ⟨pc, io, same⟩ := task.onFiltered_frame config answer
      simp [same]
  | _ => exact ⟨rfl, rfl⟩

theorem Step.sent_eq (taken : Step socks task act next effect) :
    next.sent = task.sent ++ effect.frames := by
  cases taken with
  | move => simp [Effect.frames]
  | send => rfl
  | @reply flow result =>
      obtain ⟨pc, relay, same⟩ := task.onReply_frame flow result
      simp [same, Effect.frames]
  | @timeout flow =>
      obtain ⟨pc, same⟩ := task.connectFailed_frame .timeout flow
      simp [same, Effect.frames]
  | replied => simp [Effect.frames, startRelay]
  | @filtered answer addr config =>
      obtain ⟨pc, io, same⟩ := task.onFiltered_frame config answer
      simp [same, Effect.frames]
  | select => simp [Effect.frames]
  | dropSession => simp [Effect.frames]
  | relay => rfl

theorem Step.sessionId_of_mem (taken : Step socks task act next effect) :
    ∀ frame ∈ effect.frames, frame.sessionId = task.sid := by
  cases taken with
  | send pending =>
      intro frame sent
      obtain rfl := List.mem_singleton.mp sent
      exact (pendingSend_frame pending).1
  | relay _ taken =>
      cases taken with
      | readerSend => simp [Effect.frames]
      | _ => simp [Effect.frames]
  | _ => simp [Effect.frames]

end Steps

end Task

end RnsProxy
