import RnsProxy.Filter

/-!
# Relays

A relay joins a local stream or socket to a session. Each of the five relay functions of the
source spawns a reader task (local to link) and a writer task (link to local), one of them a third
task that watches the SOCKS5 control connection, and waits until any of these ends. They differ in
what the reader makes of the bytes it reads, in what the writer makes of a frame, and in whether
the surviving task is aborted: the TCP relays call `abort`, the UDP relays only drop the join
handle, which detaches the task.
-/

namespace RnsProxy

/-- The functions of `fast_socks5` the relays call. -/
structure FastSocks5 where
  /-- `new_udp_header`. -/
  newUdpHeader : SocketAddr → Option Bytes
  /-- `parse_udp_request`: fragment number, target and data. -/
  parseUdpRequest : Bytes → Option (UInt8 × TargetAddr × Bytes)
  /-- A SOCKS5 UDP header holds at most a 255 byte host name besides seven bytes. -/
  length_newUdpHeader : ∀ addr header, newUdpHeader addr = some header → header.length ≤ 262

/-- An address as SOCKS5 encodes it: type, octets and port. -/
def socksAddress (addr : SocketAddr) : Bytes :=
  match addr.ip with
  | .v4 ip => 1 :: [ip.a, ip.b, ip.c, ip.d] ++ beBytes16 addr.port
  | .v6 ip =>
      4 :: [ip.s₀, ip.s₁, ip.s₂, ip.s₃, ip.s₄, ip.s₅, ip.s₆, ip.s₇].flatMap beBytes16 ++
        beBytes16 addr.port

/-- The UDP requests of RFC 1928: two reserved bytes, a fragment number, the target, the data. -/
def FastSocks5.rfc1928 : FastSocks5 where
  newUdpHeader addr := some (0 :: 0 :: 0 :: socksAddress addr)
  parseUdpRequest
    | 0 :: 0 :: frag :: 1 :: a :: b :: c :: d :: port₀ :: port₁ :: data =>
        some (frag, .ip ⟨.v4 ⟨a, b, c, d⟩, ofBeBytes16 port₀ port₁⟩, data)
    | 0 :: 0 :: frag :: 3 :: len :: rest =>
        match String.fromUTF8? ⟨(rest.take len.toNat).toArray⟩, rest.drop len.toNat with
        | some host, port₀ :: port₁ :: data =>
            some (frag, .domain host (ofBeBytes16 port₀ port₁), data)
        | _, _ => none
    | 0 :: 0 :: frag :: 4 :: a₀ :: a₁ :: b₀ :: b₁ :: c₀ :: c₁ :: d₀ :: d₁ :: e₀ :: e₁ :: f₀ :: f₁ ::
        g₀ :: g₁ :: h₀ :: h₁ :: port₀ :: port₁ :: data =>
        some
          (frag,
            .ip
              ⟨.v6 ⟨ofBeBytes16 a₀ a₁, ofBeBytes16 b₀ b₁, ofBeBytes16 c₀ c₁, ofBeBytes16 d₀ d₁,
                  ofBeBytes16 e₀ e₁, ofBeBytes16 f₀ f₁, ofBeBytes16 g₀ g₁, ofBeBytes16 h₀ h₁⟩,
                ofBeBytes16 port₀ port₁⟩,
            data)
    | _ => none
  length_newUdpHeader addr header wrapped := by
    cases wrapped
    rcases addr with ⟨ip | ip, port⟩ <;> simp [socksAddress, beBytes16]

/-- History: what a session task does at its sockets and at the resolver. -/
inductive Io
  /-- `resolve_dns` answers. -/
  | resolved (answer : Option TargetAddr)
  /-- `allowed_ip` is asked about an address. -/
  | checked (addr : SocketAddr) (portType : PortType) (allowed : Bool)
  /-- `TcpStream::connect` is called. -/
  | connect (addr : SocketAddr)
  /-- `send_to` is called. -/
  | sendTo (addr : SocketAddr) (data : Bytes)
  /-- `read` or `recv_from` returns. -/
  | received (source : SocketAddr) (data : Bytes)
  /-- A frame made from a received datagram enters the send queue. -/
  | forwarded (source : SocketAddr) (payload : Bytes)
  deriving DecidableEq, Repr

/-- What `filter_and_convert` does on the way to its result. -/
def filterIo (answer : Option TargetAddr) (config : FilterConfig) (portType : PortType) : List Io :=
  .resolved answer ::
    match targetToSocket answer with
    | some addr => [.checked addr portType (allowedIp addr config portType)]
    | none => []

/-- What a reader does with the bytes of one nonempty read. -/
inductive ReaderOutcome
  /-- Leave the loop. -/
  | stop
  /-- Read on. -/
  | skip
  /-- Send a DATA frame. -/
  | send (payload : Bytes)
  deriving DecidableEq, Repr

/-- What a writer does with one frame. -/
inductive WriterOutcome
  /-- Leave the loop. -/
  | stop
  /-- Wait for the next frame. -/
  | ignore
  /-- `write_all` to the local stream. -/
  | write (data : Bytes)
  /-- Send one datagram, to the connected peer if no address is given. -/
  | datagram (addr : Option SocketAddr) (data : Bytes)
  /-- Resolve and filter the target of a datagram. -/
  | resolve (target : TargetAddr) (data : Bytes)
  deriving DecidableEq, Repr

/-- What distinguishes one relay function from another. -/
structure RelayProgram where
  /-- What the reader makes of a nonempty read. -/
  onRead : SocketAddr → Bytes → ReaderOutcome
  /-- The checks the reader makes on the source of a read. -/
  onReadIo : SocketAddr → List Io
  /-- What the writer makes of a frame, given the port of the local application if known. -/
  onFrame : Option UInt16 → Frame → WriterOutcome
  /-- The filter the writer applies to the target of a datagram. -/
  filter : Option FilterConfig
  /-- The reader records the port of the local application under a mutex both tasks share. -/
  recordsPort : Bool
  /-- A third task watches the SOCKS5 control connection. -/
  watches : Bool
  /-- The surviving task is aborted, not detached. -/
  aborts : Bool

/-- The buffer of every reader. -/
def READ_BUFFER : ℕ := 4096

/-- The common body of the TCP relays. -/
def tcpRelayProgram : RelayProgram where
  onRead _ data := .send data
  onReadIo _ := []
  onFrame _ frame :=
    match frame.frameType with
    | .data => .write frame.payload
    | .close => .stop
    | .connectErr => .stop
    | _ => .ignore
  filter := none
  recordsPort := false
  watches := false
  aborts := true

/-- `relay_bidirectional_tcp`. -/
def relayBidirectionalTcp : RelayProgram := tcpRelayProgram

/-- `relay_forwarded_tcp`. -/
def relayForwardedTcp : RelayProgram := tcpRelayProgram

/-- `relay_bidirectional_udp_client_side`. -/
def relayBidirectionalUdpClientSide : RelayProgram where
  onRead _ data := .send data
  onReadIo _ := []
  onFrame clientLocalPort frame :=
    match frame.frameType with
    | .data =>
        match clientLocalPort with
        | some port => .datagram (some ⟨.v4 Ipv4Addr.LOCALHOST, port⟩) frame.payload
        | none => .ignore
    | .close => .stop
    | _ => .ignore
  filter := none
  recordsPort := true
  watches := true
  aborts := false

/-- `relay_bidirectional_udp_server_side`. -/
def relayBidirectionalUdpServerSide (socks : FastSocks5) (config : FilterConfig) :
    RelayProgram where
  onRead source data :=
    if allowedIp source config .udp then
      match socks.newUdpHeader source with
      | some header => .send (header ++ data)
      -- `expect` panics and the task ends
      | none => .stop
    else .skip
  onReadIo source := [.checked source .udp (allowedIp source config .udp)]
  onFrame _ frame :=
    match frame.frameType with
    | .data =>
        match socks.parseUdpRequest frame.payload with
        | some (_, target, data) => .resolve target data
        | none => .stop
    | .close => .stop
    | _ => .ignore
  filter := some config
  recordsPort := false
  watches := false
  aborts := false

/-- `relay_forwarded_udp`. -/
def relayForwardedUdp (socks : FastSocks5) (serverPort : UInt16) : RelayProgram where
  onRead _ data :=
    match socks.newUdpHeader ⟨.v4 Ipv4Addr.LOCALHOST, serverPort⟩ with
    | some header => .send (header ++ data)
    -- `expect` panics and the task ends
    | none => .stop
  onReadIo _ := []
  onFrame _ frame :=
    match frame.frameType with
    | .data =>
        match socks.parseUdpRequest frame.payload with
        | some (_, _, data) => .datagram none data
        | none => .stop
    | .close => .stop
    | _ => .ignore
  filter := none
  recordsPort := false
  watches := false
  aborts := false

/-- The relay functions. -/
inductive RelayKind
  /-- `relay_bidirectional_tcp`. -/
  | bidirectionalTcp
  /-- `relay_forwarded_tcp`. -/
  | forwardedTcp
  /-- `relay_bidirectional_udp_client_side`. -/
  | udpClientSide
  /-- `relay_bidirectional_udp_server_side`. -/
  | udpServerSide (config : FilterConfig)
  /-- `relay_forwarded_udp`. -/
  | forwardedUdp (serverPort : UInt16)
  deriving DecidableEq, Repr

/-- The body of a relay function. -/
def RelayKind.program (socks : FastSocks5) : RelayKind → RelayProgram
  | bidirectionalTcp => relayBidirectionalTcp
  | forwardedTcp => relayForwardedTcp
  | udpClientSide => relayBidirectionalUdpClientSide
  | udpServerSide config => relayBidirectionalUdpServerSide socks config
  | forwardedUdp serverPort => relayForwardedUdp socks serverPort

/-- Where a reader task stands. -/
inductive Reader
  /-- Waiting in `read` or `recv_from`. -/
  | reading
  /-- Sending a DATA frame made from what it has read. -/
  | holding (source : SocketAddr) (payload : Bytes)
  /-- Ended. -/
  | finished
  deriving DecidableEq, Repr

/-- The reader is sending a frame. -/
def Reader.isHolding : Reader → Bool
  | .holding _ _ => true
  | _ => false

/-- Where a writer task stands. -/
inductive Writer
  /-- Waiting in `session_rx.recv()`. -/
  | receiving
  /-- In `write_all`, with these bytes still to be written. -/
  | writing (rest : Bytes)
  /-- Sending a datagram. -/
  | sending
  /-- Waiting for the resolver. -/
  | resolving (target : TargetAddr) (data : Bytes)
  /-- Ended; the receiver of the session channel is dropped. -/
  | finished
  deriving DecidableEq, Repr

/-- The tasks a relay has spawned, with what they share. -/
structure Relay where
  /-- The relay function. -/
  kind : RelayKind
  /-- The reader task. -/
  reader : Reader
  /-- The writer task. -/
  writer : Writer
  /-- The task on the control connection is running. -/
  watching : Bool
  /-- The port of the local application, where the relay records it. -/
  clientLocalPort : Option UInt16
  /-- `abort` has been called on the surviving task. -/
  aborted : Bool
  /-- History: the reader has come to the end of its stream. -/
  sawEof : Bool
  /-- History: a read or a write has failed. -/
  failed : Bool
  /-- History: the bytes the reader has read. -/
  taken : Bytes
  /-- History: the frames the writer has taken from the session channel. -/
  received : List Frame
  /-- History: the bytes `write_all` has written. -/
  written : Bytes
  /-- History: what the reader has done at its socket. -/
  readerIo : List Io
  /-- History: what the writer has done at its socket. -/
  writerIo : List Io
  deriving DecidableEq, Repr

/-- What a step of a session task does to the multiplexer. -/
inductive Effect
  /-- Nothing. -/
  | none
  /-- `send_frame` completes. -/
  | send (frame : Frame)
  /-- `session_rx.recv()` returns. -/
  | recv (result : Option Frame)
  /-- `drop_session`. -/
  | dropSession
  deriving DecidableEq, Repr

/-- The frames an effect puts into the send queue. -/
def Effect.frames : Effect → List Frame
  | send frame => [frame]
  | _ => []

/-- The steps of the tasks of a relay, with what the outside world answers. -/
inductive RelayAct
  /-- The reader reads from what is available; `[]` is the end of the stream. -/
  | read (source : SocketAddr) (available : Bytes)
  /-- The read fails. -/
  | readFailed
  /-- The reader's DATA frame enters the send queue. -/
  | readerSend
  /-- The writer's `session_rx.recv()` returns. -/
  | recv (result : Option Frame)
  /-- The resolver answers the writer. -/
  | resolved (answer : Option TargetAddr)
  /-- The local stream takes some bytes. -/
  | wrote (count : ℕ)
  /-- `write_all` or `send_to` returns. -/
  | writeDone
  /-- `write_all` or `send_to` fails. -/
  | writeFailed
  /-- A read on the control connection returns, with whether it is still open. -/
  | watched (stillOpen : Bool)
  /-- An aborted reader is dropped. -/
  | cancelReader
  /-- An aborted writer is dropped. -/
  | cancelWriter
  deriving DecidableEq, Repr

namespace Relay

/-- The tasks of a relay as they are spawned. -/
def start (kind : RelayKind) : Relay where
  kind := kind
  reader := .reading
  writer := .receiving
  watching := true
  clientLocalPort := none
  aborted := false
  sawEof := false
  failed := false
  taken := []
  received := []
  written := []
  readerIo := []
  writerIo := []

/-- A read returns, with the bytes that fit the buffer. -/
def onRead (socks : FastSocks5) (relay : Relay) (source : SocketAddr) (data : Bytes) : Relay :=
  if data = [] then { relay with reader := .finished, sawEof := true }
  else
    { relay with
      reader :=
        match (relay.kind.program socks).onRead source data with
        | .stop => .finished
        | .skip => .reading
        | .send payload => .holding source payload
      clientLocalPort :=
        if (relay.kind.program socks).recordsPort then some source.port else relay.clientLocalPort
      taken := relay.taken ++ data
      readerIo :=
        relay.readerIo ++ .received source data :: (relay.kind.program socks).onReadIo source }

/-- The writer turns to a frame. -/
def onFrame (socks : FastSocks5) (relay : Relay) (frame : Frame) : Relay :=
  match (relay.kind.program socks).onFrame relay.clientLocalPort frame with
  | .stop => { relay with writer := .finished, received := relay.received ++ [frame] }
  | .ignore => { relay with received := relay.received ++ [frame] }
  | .write data => { relay with writer := .writing data, received := relay.received ++ [frame] }
  | .datagram addr data =>
      { relay with
        writer := .sending
        received := relay.received ++ [frame]
        writerIo := relay.writerIo ++ (addr.map fun addr => Io.sendTo addr data).toList }
  | .resolve target data =>
      { relay with writer := .resolving target data, received := relay.received ++ [frame] }

/-- The resolver answers: a datagram goes to the address that passed the filter. -/
def onResolved (socks : FastSocks5) (relay : Relay) (answer : Option TargetAddr) (data : Bytes) :
    Relay :=
  match (relay.kind.program socks).filter with
  | some config =>
      match filterAndConvert answer (some config) .udp with
      | some addr =>
          { relay with
            writer := .sending
            writerIo := relay.writerIo ++ filterIo answer config .udp ++ [.sendTo addr data] }
      | none =>
          { relay with
            writer := .receiving
            writerIo := relay.writerIo ++ filterIo answer config .udp }
  | none => relay

/-- One step of one of the tasks. `abort` is only a request: until the runtime drops an aborted
task at a suspension point, the task goes on. -/
def step (socks : FastSocks5) (sid : UInt32) (relay : Relay) : RelayAct → Option (Relay × Effect)
  | .read source available =>
      -- the client side reader records the port under the mutex a sending writer holds
      if relay.reader = .reading ∧
          ¬ ((relay.kind.program socks).recordsPort = true ∧ relay.writer = .sending) then
        some (relay.onRead socks source (available.take READ_BUFFER), .none)
      else none
  | .readFailed =>
      if relay.reader = .reading then
        some ({ relay with reader := .finished, failed := true }, .none)
      else none
  | .readerSend =>
      match relay.reader with
      | .holding source payload =>
          some
            ({ relay with
                reader := .reading
                readerIo := relay.readerIo ++ [.forwarded source payload] },
              .send { frameType := .data, sessionId := sid, payload })
      | _ => none
  | .recv none =>
      if relay.writer = .receiving then
        some ({ relay with writer := .finished }, .recv none)
      else none
  | .recv (some frame) =>
      -- before a DATA frame the client side writer takes the mutex a sending reader holds
      if relay.writer = .receiving ∧
          ¬ ((relay.kind.program socks).recordsPort = true ∧ frame.frameType = .data ∧
            relay.reader.isHolding = true) then
        some (relay.onFrame socks frame, .recv (some frame))
      else none
  | .resolved answer =>
      match relay.writer with
      | .resolving _ data => some (relay.onResolved socks answer data, .none)
      | _ => none
  | .wrote count =>
      match relay.writer with
      | .writing rest =>
          if 0 < count ∧ count ≤ rest.length then
            some
              ({ relay with
                  writer := .writing (rest.drop count)
                  written := relay.written ++ rest.take count },
                .none)
          else none
      | _ => none
  | .writeDone =>
      if relay.writer = .writing [] ∨ relay.writer = .sending then
        some ({ relay with writer := .receiving }, .none)
      else none
  | .writeFailed =>
      match relay.writer with
      | .writing _ => some ({ relay with writer := .finished, failed := true }, .none)
      | .sending => some ({ relay with writer := .finished, failed := true }, .none)
      | _ => none
  | .watched stillOpen =>
      if (relay.kind.program socks).watches = true ∧ relay.watching = true then
        some ({ relay with watching := stillOpen }, .none)
      else none
  | .cancelReader =>
      if relay.aborted = true ∧ relay.reader ≠ .finished then
        some ({ relay with reader := .finished }, .none)
      else none
  | .cancelWriter =>
      if relay.aborted = true ∧ relay.writer ≠ .finished then
        some ({ relay with writer := .finished }, .none)
      else none

/-- Some task of the relay has ended, so that `select!` returns. -/
def selectReady (relay : Relay) : Bool :=
  relay.reader == .finished || relay.writer == .finished || !relay.watching

/-! ## What each step can do -/

theorem onRead_frame (socks : FastSocks5) (relay : Relay) (source : SocketAddr) (data : Bytes) :
    ∃ reader clientLocalPort sawEof taken readerIo, relay.onRead socks source data =
      { relay with reader, clientLocalPort, sawEof, taken, readerIo } := by
  rw [onRead]
  split
  · exact ⟨.finished, relay.clientLocalPort, true, relay.taken, relay.readerIo, rfl⟩
  · exact ⟨_, _, relay.sawEof, _, _, rfl⟩

theorem onFrame_frame (socks : FastSocks5) (relay : Relay) (frame : Frame) :
    ∃ writer writerIo, relay.onFrame socks frame =
      { relay with writer, received := relay.received ++ [frame], writerIo } := by
  rw [onFrame]
  split
  · exact ⟨.finished, relay.writerIo, rfl⟩
  · exact ⟨relay.writer, relay.writerIo, rfl⟩
  · exact ⟨_, relay.writerIo, rfl⟩
  · exact ⟨_, _, rfl⟩
  · exact ⟨_, relay.writerIo, rfl⟩

theorem onResolved_frame (socks : FastSocks5) (relay : Relay) (answer : Option TargetAddr)
    (data : Bytes) :
    ∃ writer writerIo, relay.onResolved socks answer data = { relay with writer, writerIo } := by
  rw [onResolved]
  split
  · split
    · exact ⟨_, _, rfl⟩
    · exact ⟨_, _, rfl⟩
  · exact ⟨relay.writer, relay.writerIo, rfl⟩

/-- The steps of the relay tasks, each with its guard and its effect. -/
inductive Step (socks : FastSocks5) (sid : UInt32) (relay : Relay) :
    RelayAct → Relay → Effect → Prop
  | read {source available} (reading : relay.reader = .reading)
      (unlocked : ¬ ((relay.kind.program socks).recordsPort = true ∧ relay.writer = .sending)) :
      Step socks sid relay (.read source available)
        (relay.onRead socks source (available.take READ_BUFFER)) .none
  | readFailed (reading : relay.reader = .reading) :
      Step socks sid relay .readFailed { relay with reader := .finished, failed := true } .none
  | readerSend {source payload} (holding : relay.reader = .holding source payload) :
      Step socks sid relay .readerSend
        { relay with
          reader := .reading
          readerIo := relay.readerIo ++ [.forwarded source payload] }
        (.send { frameType := .data, sessionId := sid, payload })
  | recvClosed (receiving : relay.writer = .receiving) :
      Step socks sid relay (.recv none) { relay with writer := .finished } (.recv none)
  | recvFrame {frame} (receiving : relay.writer = .receiving)
      (unlocked : ¬ ((relay.kind.program socks).recordsPort = true ∧ frame.frameType = .data ∧
        relay.reader.isHolding = true)) :
      Step socks sid relay (.recv (some frame)) (relay.onFrame socks frame) (.recv (some frame))
  | resolved {answer target data} (resolving : relay.writer = .resolving target data) :
      Step socks sid relay (.resolved answer) (relay.onResolved socks answer data) .none
  | wrote {count rest} (writing : relay.writer = .writing rest)
      (progress : 0 < count ∧ count ≤ rest.length) :
      Step socks sid relay (.wrote count)
        { relay with
          writer := .writing (rest.drop count)
          written := relay.written ++ rest.take count }
        .none
  | writeDone (finishing : relay.writer = .writing [] ∨ relay.writer = .sending) :
      Step socks sid relay .writeDone { relay with writer := .receiving } .none
  | writeFailed (busy : (∃ rest, relay.writer = .writing rest) ∨ relay.writer = .sending) :
      Step socks sid relay .writeFailed { relay with writer := .finished, failed := true } .none
  | watched {stillOpen} (watches : (relay.kind.program socks).watches = true)
      (watching : relay.watching = true) :
      Step socks sid relay (.watched stillOpen) { relay with watching := stillOpen } .none
  | cancelReader (aborted : relay.aborted = true) (running : relay.reader ≠ .finished) :
      Step socks sid relay .cancelReader { relay with reader := .finished } .none
  | cancelWriter (aborted : relay.aborted = true) (running : relay.writer ≠ .finished) :
      Step socks sid relay .cancelWriter { relay with writer := .finished } .none

theorem step_cases {socks : FastSocks5} {sid : UInt32} {relay next : Relay} {act : RelayAct}
    {effect : Effect} (taken : relay.step socks sid act = some (next, effect)) :
    Step socks sid relay act next effect := by
  cases act with
  | read source available =>
      simp only [step, Option.ite_none_right_eq_some, Option.some.injEq, Prod.mk.injEq] at taken
      obtain ⟨⟨reading, unlocked⟩, rfl, rfl⟩ := taken
      exact .read reading unlocked
  | readFailed =>
      simp only [step, Option.ite_none_right_eq_some, Option.some.injEq, Prod.mk.injEq] at taken
      obtain ⟨reading, rfl, rfl⟩ := taken
      exact .readFailed reading
  | readerSend =>
      simp only [step] at taken
      split at taken
      · cases taken
        exact .readerSend ‹_›
      · cases taken
  | recv result =>
      cases result with
      | none =>
          simp only [step, Option.ite_none_right_eq_some, Option.some.injEq, Prod.mk.injEq] at taken
          obtain ⟨receiving, rfl, rfl⟩ := taken
          exact .recvClosed receiving
      | some frame =>
          simp only [step, Option.ite_none_right_eq_some, Option.some.injEq, Prod.mk.injEq] at taken
          obtain ⟨⟨receiving, unlocked⟩, rfl, rfl⟩ := taken
          exact .recvFrame receiving unlocked
  | resolved answer =>
      simp only [step] at taken
      split at taken
      · cases taken
        exact .resolved ‹_›
      · cases taken
  | wrote count =>
      simp only [step] at taken
      split at taken
      · simp only [Option.ite_none_right_eq_some, Option.some.injEq, Prod.mk.injEq] at taken
        obtain ⟨progress, rfl, rfl⟩ := taken
        exact .wrote ‹_› progress
      · cases taken
  | writeDone =>
      simp only [step, Option.ite_none_right_eq_some, Option.some.injEq, Prod.mk.injEq] at taken
      obtain ⟨finishing, rfl, rfl⟩ := taken
      exact .writeDone finishing
  | writeFailed =>
      simp only [step] at taken
      split at taken
      · cases taken
        exact .writeFailed (.inl ⟨_, ‹_›⟩)
      · cases taken
        exact .writeFailed (.inr ‹_›)
      · cases taken
  | watched stillOpen =>
      simp only [step, Option.ite_none_right_eq_some, Option.some.injEq, Prod.mk.injEq] at taken
      obtain ⟨⟨watches, watching⟩, rfl, rfl⟩ := taken
      exact .watched watches watching
  | cancelReader =>
      simp only [step, Option.ite_none_right_eq_some, Option.some.injEq, Prod.mk.injEq] at taken
      obtain ⟨⟨aborted, running⟩, rfl, rfl⟩ := taken
      exact .cancelReader aborted running
  | cancelWriter =>
      simp only [step, Option.ite_none_right_eq_some, Option.some.injEq, Prod.mk.injEq] at taken
      obtain ⟨⟨aborted, running⟩, rfl, rfl⟩ := taken
      exact .cancelWriter aborted running

theorem Step.frames_eq {socks : FastSocks5} {sid : UInt32} {relay next : Relay} {act : RelayAct}
    {effect : Effect} (taken : Step socks sid relay act next effect) :
    effect.frames = [] ∨ act = .readerSend ∧
      ∃ payload, effect.frames = [{ frameType := .data, sessionId := sid, payload }] := by
  cases taken with
  | @readerSend source payload => exact .inr ⟨rfl, payload, rfl⟩
  | _ => exact .inl rfl

theorem Step.writer_finished {socks : FastSocks5} {sid : UInt32} {relay next : Relay}
    {act : RelayAct} {effect : Effect} (taken : Step socks sid relay act next effect)
    (finished : relay.writer = .finished) : next.writer = .finished := by
  cases taken with
  | @read source available =>
      obtain ⟨_, _, _, _, _, same⟩ := relay.onRead_frame socks source (available.take READ_BUFFER)
      simpa [same] using finished
  | recvFrame receiving => simp [finished] at receiving
  | resolved resolving => simp [finished] at resolving
  | wrote writing => simp [finished] at writing
  | writeDone finishing => simp [finished] at finishing
  | _ => simp [finished]

end Relay

end RnsProxy
