import RnsProxy.EndToEnd

/-!
# The datagrams of UDP sessions

A UDP session takes the datagrams of an application to the targets it names, or to the port that is
forwarded, and brings back those of the hosts the filter allows. A datagram travels with an address:
that of its target on the way out, that of its sender on the way back. This file shows that the
relays of both kinds of UDP session keep the datagrams in order, leave none of them out between the
two sockets, and tell the truth about the addresses.
-/

namespace RnsProxy

/-- The address and the data in a UDP request. -/
def FastSocks5.addressed (socks : FastSocks5) (payload : Bytes) : Option (TargetAddr × Bytes) :=
  (socks.parseUdpRequest payload).map Prod.snd

/-- What the application asks for with a datagram, of which the first `READ_BUFFER` bytes count:
that the data in its UDP request goes to the target there, or that all of it goes to the port that
is forwarded. -/
def RelayKind.asks (socks : FastSocks5) :
    RelayKind → SocketAddr × Bytes → Option (TargetAddr × Bytes)
  | udpClientSide, arrival => socks.addressed (arrival.2.take READ_BUFFER)
  | forwardedUdp serverPort, arrival =>
      some (.ip ⟨.v4 Ipv4Addr.LOCALHOST, serverPort⟩, arrival.2.take READ_BUFFER)
  | _, _ => none

/-- What the server passes on of a datagram, its first `READ_BUFFER` bytes at most, with its
sender. -/
def FilterConfig.passes (config : FilterConfig) (arrival : SocketAddr × Bytes) :
    Option (TargetAddr × Bytes) :=
  if allowedIp arrival.1 config .udp then some (.ip arrival.1, arrival.2.take READ_BUFFER) else none

/-- What the server does with a datagram when the resolver has answered for its target. -/
def FilterConfig.deals (config : FilterConfig) (data : Bytes) (answer : Option TargetAddr) :
    List Io :=
  filterIo answer config .udp ++
    ((filterAndConvert answer (some config) .udp).map fun addr => Io.sendTo addr data).toList

/-- The datagram for whose target a writer waits. -/
def Writer.pending : Writer → List (TargetAddr × Bytes)
  | resolving target data => [(target, data)]
  | _ => []

theorem payloads_isPrefix {front back : List Frame} (isPrefix : front <+: back) :
    payloads front <+: payloads back := by
  obtain ⟨rest, rfl⟩ := isPrefix
  rw [payloads_append]
  exact List.prefix_append _ _

theorem payloads_filter_admits (side : Side) (frames : List Frame) :
    payloads (frames.filter side.admits) = payloads frames := by
  induction frames with
  | nil => rfl
  | cons frame frames ih =>
      rw [List.filter_cons]
      split
      · rw [← List.singleton_append, payloads_append, ih, ← payloads_append, List.singleton_append]
      · rename_i rejected
        have control : frame.frameType ≠ .data := by
          intro data
          cases side <;> simp [Side.admits, data] at rejected
        simpa [payloads, control] using ih

/-! ## The relay tasks at one end -/

namespace Relay

/-- The datagrams in the frames a writer has taken. -/
def datagrams (socks : FastSocks5) (relay : Relay) : List (TargetAddr × Bytes) :=
  (payloads relay.received).filterMap socks.addressed

/-- A reader leaves out nothing of what arrives: all of what it is to forward has been sent or is in
its hand, in the order of arrival, up to where it has ended. -/
structure Feeds (socks : FastSocks5) (arrivals : List (SocketAddr × Bytes)) (sent : List Frame)
    (relay : Relay) : Prop where
  /-- No task has been aborted. -/
  aborted : relay.aborted = false
  /-- Nothing is left out while it runs. -/
  exact : relay.reader ≠ .finished →
    payloads sent ++ relay.reader.held = arrivals.filterMap (relay.kind.forwarded socks)
  /-- Nothing is left out before it ended. -/
  isPrefix : payloads sent ++ relay.reader.held <+:
    arrivals.filterMap (relay.kind.forwarded socks)

/-- The writer of the server deals with the datagrams it takes one after the other: each of them is
resolved once, and sent once to the address the resolver answers if the filter allows it. -/
def DealsWith (socks : FastSocks5) (config : FilterConfig) (relay : Relay) : Prop :=
  ∃ answered : List ((TargetAddr × Bytes) × Option TargetAddr),
    relay.datagrams socks = answered.map Prod.fst ++ relay.writer.pending ∧
      relay.writerIo = answered.flatMap fun entry => config.deals entry.1.2 entry.2

variable {socks : FastSocks5} {sid : UInt32} {relay next : Relay} {act : RelayAct} {effect : Effect}
  {arrivals : List (SocketAddr × Bytes)} {sent : List Frame} {config : FilterConfig}

theorem feeds_start (kind : RelayKind) (silent : payloads sent = []) :
    (start kind).Feeds socks [] sent :=
  ⟨rfl, by simp [start, Reader.held, silent], by simp [start, Reader.held, silent]⟩

theorem dealsWith_start (kind : RelayKind) : (start kind).DealsWith socks config :=
  ⟨[], rfl, rfl⟩

theorem Feeds.of_same (feeds : relay.Feeds socks arrivals sent) (kind : next.kind = relay.kind)
    (aborted : next.aborted = relay.aborted) (reader : next.reader = relay.reader)
    {later : List (SocketAddr × Bytes)} {frames : List Frame} (nothing : later = [])
    (silent : frames = []) : next.Feeds socks (arrivals ++ later) (sent ++ frames) := by
  rw [nothing, silent, List.append_nil, List.append_nil]
  refine ⟨aborted.trans feeds.aborted, fun running => ?_, ?_⟩
  · rw [kind, reader]
    exact feeds.exact (reader ▸ running)
  · rw [kind, reader]
    exact feeds.isPrefix

/-- A reader that ends with nothing in its hand has left nothing out. -/
theorem Feeds.finish (feeds : relay.Feeds socks arrivals sent) (reading : relay.reader = .reading)
    (later : List (SocketAddr × Bytes)) (failed sawEof : Bool) (clientLocalPort : Option UInt16)
    (taken : Bytes) (readerIo : List Io) :
    Feeds socks (arrivals ++ later) sent
      { relay with reader := .finished, failed, sawEof, clientLocalPort, taken, readerIo } := by
  refine ⟨feeds.aborted, by simp, ?_⟩
  have before := feeds.isPrefix
  simp only [reading, Reader.held] at before ⊢
  rw [List.filterMap_append]
  exact before.trans (List.prefix_append _ _)

/-- A reader holds what it forwards of a datagram. -/
theorem Feeds.onRead (feeds : relay.Feeds socks arrivals sent) (reading : relay.reader = .reading)
    (source : SocketAddr) (available : Bytes) :
    (relay.onRead socks source (available.take READ_BUFFER)).Feeds socks
      (arrivals ++ [(source, available)]) sent := by
  have before : payloads sent = arrivals.filterMap (relay.kind.forwarded socks) := by
    simpa [reading, Reader.held] using feeds.exact (by simp [reading])
  rw [Relay.onRead]
  split
  · exact feeds.finish reading _ _ _ _ _ _
  · cases read : (relay.kind.program socks).onRead source (available.take READ_BUFFER) with
    | stop => exact feeds.finish reading _ _ _ _ _ _
    | skip =>
        have exact : payloads sent =
            (arrivals ++ [(source, available)]).filterMap (relay.kind.forwarded socks) := by
          simp [RelayKind.forwarded, read, before]
        exact ⟨feeds.aborted, by simp [Reader.held, exact], by simp [Reader.held, exact]⟩
    | send payload =>
        have exact : payloads sent ++ [payload] =
            (arrivals ++ [(source, available)]).filterMap (relay.kind.forwarded socks) := by
          simp [RelayKind.forwarded, read, before]
        exact ⟨feeds.aborted, by simp [Reader.held, exact], by simp [Reader.held, exact]⟩

theorem Feeds.step (feeds : relay.Feeds socks arrivals sent)
    (taken : Step socks sid relay act next effect) :
    next.Feeds socks (arrivals ++ act.arrival.toList) (sent ++ effect.frames) := by
  cases taken with
  | @read source available reading =>
      simpa [Effect.frames, RelayAct.arrival] using feeds.onRead reading source available
  | @readerSend source payload holding =>
      refine ⟨feeds.aborted, fun _ => ?_, ?_⟩
      · simpa [holding, Reader.held, payloads, Effect.frames, RelayAct.arrival]
          using feeds.exact (by simp [holding])
      · simpa [holding, Reader.held, payloads, Effect.frames, RelayAct.arrival]
          using feeds.isPrefix
  | readFailed reading =>
      simpa [Effect.frames, RelayAct.arrival] using feeds.finish reading [] true relay.sawEof
        relay.clientLocalPort relay.taken relay.readerIo
  | cancelReader aborted => simp [feeds.aborted] at aborted
  | @recvFrame frame =>
      obtain ⟨writer, writerIo, same⟩ := relay.onFrame_frame socks frame
      exact feeds.of_same (by rw [same]) (by rw [same]) (by rw [same]) rfl rfl
  | @resolved answer target data =>
      obtain ⟨writer, writerIo, same⟩ := relay.onResolved_frame socks answer data
      exact feeds.of_same (by rw [same]) (by rw [same]) (by rw [same]) rfl rfl
  | _ => apply feeds.of_same <;> rfl

/-- The server takes the datagram in a DATA frame to the resolver. -/
theorem DealsWith.onFrame (deals : relay.DealsWith socks config)
    (kind : relay.kind = .udpServerSide config) (receiving : relay.writer = .receiving)
    (frame : Frame) : (relay.onFrame socks frame).DealsWith socks config := by
  obtain ⟨answered, taken, io⟩ := deals
  simp only [receiving, Writer.pending, List.append_nil] at taken
  have program : relay.kind.program socks = relayBidirectionalUdpServerSide socks config := by
    rw [kind]
    rfl
  refine ⟨answered, ?_, ?_⟩
  · rw [Relay.onFrame, program]
    cases type : frame.frameType with
    | data =>
        cases parsed : socks.parseUdpRequest frame.payload with
        | none =>
            simp [relayBidirectionalUdpServerSide, type, parsed, datagrams, payloads,
              FastSocks5.addressed, Writer.pending, ← taken]
        | some request =>
            simp [relayBidirectionalUdpServerSide, type, parsed, datagrams, payloads,
              FastSocks5.addressed, Writer.pending, ← taken]
    | _ =>
        simp [relayBidirectionalUdpServerSide, type, datagrams, payloads, Writer.pending, receiving,
          ← taken]
  · rw [Relay.onFrame, program]
    cases type : frame.frameType with
    | data =>
        cases parsed : socks.parseUdpRequest frame.payload <;>
          simp [relayBidirectionalUdpServerSide, type, parsed, io]
    | _ => simp [relayBidirectionalUdpServerSide, type, io]

/-- The resolver answers, and the server sends the datagram or drops it. -/
theorem DealsWith.onResolved (deals : relay.DealsWith socks config)
    (kind : relay.kind = .udpServerSide config) {target : TargetAddr} {data : Bytes}
    (resolving : relay.writer = .resolving target data) (answer : Option TargetAddr) :
    (relay.onResolved socks answer data).DealsWith socks config := by
  obtain ⟨answered, taken, io⟩ := deals
  have program : relay.kind.program socks = relayBidirectionalUdpServerSide socks config := by
    rw [kind]
    rfl
  refine ⟨answered ++ [((target, data), answer)], ?_, ?_⟩
  · rw [Relay.onResolved, program]
    cases sends : filterAndConvert answer (some config) .udp <;>
      simpa [relayBidirectionalUdpServerSide, sends, datagrams, resolving, Writer.pending]
        using taken
  · rw [Relay.onResolved, program]
    cases sends : filterAndConvert answer (some config) .udp <;>
      simp [relayBidirectionalUdpServerSide, sends, FilterConfig.deals, io]

theorem DealsWith.of_same (deals : relay.DealsWith socks config)
    (received : next.received = relay.received) (writerIo : next.writerIo = relay.writerIo)
    (pending : next.writer.pending = relay.writer.pending) : next.DealsWith socks config := by
  obtain ⟨answered, taken, io⟩ := deals
  exact ⟨answered, by rw [datagrams, received, pending]; exact taken, writerIo.trans io⟩

theorem DealsWith.step (deals : relay.DealsWith socks config)
    (kind : relay.kind = .udpServerSide config) (aborted : relay.aborted = false)
    (taken : Step socks sid relay act next effect) : next.DealsWith socks config := by
  cases taken with
  | @read source available =>
      obtain ⟨reader, port, sawEof, read, readerIo, same⟩ :=
        relay.onRead_frame socks source (available.take READ_BUFFER)
      exact deals.of_same (by rw [same]) (by rw [same]) (by rw [same])
  | recvFrame receiving => exact deals.onFrame kind receiving _
  | resolved resolving => exact deals.onResolved kind resolving _
  | recvClosed receiving => exact deals.of_same rfl rfl (by simp [receiving, Writer.pending])
  | wrote writing => exact deals.of_same rfl rfl (by simp [writing, Writer.pending])
  | writeDone finishing =>
      refine deals.of_same rfl rfl ?_
      rcases finishing with writing | sending
      · simp [writing, Writer.pending]
      · simp [sending, Writer.pending]
  | writeFailed busy =>
      refine deals.of_same rfl rfl ?_
      rcases busy with ⟨rest, writing⟩ | sending
      · simp [writing, Writer.pending]
      · simp [sending, Writer.pending]
  | cancelWriter requested => simp [aborted] at requested
  | _ => exact deals.of_same rfl rfl rfl

end Relay

/-! ## A session task at one end -/

namespace Task

/-- What the relay of a session task does with the datagrams it gets. -/
structure Passes (socks : FastSocks5) (past : List TaskAct) (task : Task) : Prop where
  /-- There is no relay before the session is established. -/
  inTime : task.SpawnsInTime
  /-- Without a relay no DATA frame is sent. -/
  silent : task.relay = none → payloads task.sent = []
  /-- Without a relay nothing arrives. -/
  idle : task.relay = none → arrivals past = []
  /-- A reader that is not aborted leaves nothing out. -/
  feeds : ∀ relay, task.relay = some relay → (relay.kind.program socks).aborts = false →
    relay.Feeds socks (arrivals past) task.sent
  /-- The server deals with one datagram after the other. -/
  deals : ∀ relay config, task.relay = some relay → relay.kind = .udpServerSide config →
    relay.DealsWith socks config

variable {socks : FastSocks5} {task next : Task} {act : TaskAct} {effect : Effect}
  {past : List TaskAct}

theorem passes_spawn (socks : FastSocks5) (start : Start) (sid : UInt32) :
    (spawn start sid).Passes socks [] where
  inTime := spawnsInTime_spawn start sid
  silent _ := rfl
  idle _ := rfl
  feeds relay spawned := by simp [spawn] at spawned
  deals relay config spawned := by simp [spawn] at spawned

theorem Step.relayAct_eq (taken : Step socks task act next effect) :
    act.relayAct = none ∨ ∃ relay after relayAct, act.relayAct = some relayAct ∧
      task.relay = some relay ∧ Relay.Step socks task.sid relay relayAct after effect ∧
      next.relay = some after := by
  cases taken with
  | move moves =>
      cases relays : act.relayAct with
      | none => exact .inl rfl
      | some relayAct =>
          cases act with
          | relay act => exact absurd moves Moves.not_relay
          | _ => cases relays
  | relay spawned stepped => exact .inr ⟨_, _, _, rfl, spawned, stepped, rfl⟩
  | _ => exact .inl rfl

theorem Passes.step (passes : task.Passes socks past) (taken : Step socks task act next effect) :
    next.Passes socks (past ++ [act]) := by
  have inTime := passes.inTime.step taken
  have sent := taken.sent_eq
  rcases taken.relayAct_eq with aside | ⟨before, after, relayAct, acts, found, stepped, later⟩
  · have arrived : arrivals (past ++ [act]) = arrivals past := by
      simp [arrivals, aside]
    cases taken.relayChange passes.inTime with
    | kept _ same control =>
        have same_payloads : payloads next.sent = payloads task.sent := by
          rw [sent, payloads_append, payloads_eq_nil control, List.append_nil]
        refine ⟨inTime, fun absent => ?_, fun absent => ?_, fun relay spawned keeps => ?_,
          fun relay config spawned => passes.deals relay config (same.symm.trans spawned)⟩
        · exact same_payloads.trans (passes.silent (same.symm.trans absent))
        · exact arrived.trans (passes.idle (same.symm.trans absent))
        · have before := passes.feeds relay (same.symm.trans spawned) keeps
          rw [arrived]
          exact ⟨before.aborted, by rw [same_payloads]; exact before.exact,
            by rw [same_payloads]; exact before.isPrefix⟩
    | @spawned kind absent _ started control =>
        have silent : payloads next.sent = [] := by
          rw [sent, payloads_append, passes.silent absent, payloads_eq_nil control, List.append_nil]
        refine ⟨inTime, fun _ => silent, fun _ => arrived.trans (passes.idle absent),
          fun relay spawned keeps => ?_, fun relay config spawned same => ?_⟩
        all_goals obtain rfl := Option.some.inj (started.symm.trans spawned)
        · rw [arrived, passes.idle absent]
          exact Relay.feeds_start kind silent
        · exact Relay.dealsWith_start kind
    | @select relay _ found _ aborts silent =>
        have same_sent : next.sent = task.sent := by
          rw [sent, silent]
          exact List.append_nil _
        refine ⟨inTime, fun absent => ?_, fun absent => ?_, fun after spawned keeps => ?_,
          fun after config spawned same => ?_⟩
        · simp [aborts] at absent
        · simp [aborts] at absent
        all_goals obtain rfl := Option.some.inj (aborts.symm.trans spawned)
        · rw [arrived, same_sent]
          have before := passes.feeds relay found keeps
          exact ⟨keeps, before.exact, before.isPrefix⟩
        · exact passes.deals relay config found same
    | relay acts => simp [acts, TaskAct.relayAct] at aside
  · have arrived : arrivals (past ++ [act]) = arrivals past ++ relayAct.arrival.toList := by
      rw [arrivals_concat]
      cases arrival : relayAct.arrival <;> simp [arrivals, acts, arrival]
    obtain ⟨kind, _⟩ := stepped.same_kind
    refine ⟨inTime, fun absent => ?_, fun absent => ?_, fun relay spawned keeps => ?_,
      fun relay config spawned same => ?_⟩
    · simp [later] at absent
    · simp [later] at absent
    all_goals obtain rfl := Option.some.inj (later.symm.trans spawned)
    · rw [arrived, sent]
      exact (passes.feeds before found (kind ▸ keeps)).step stepped
    · have serves : before.kind = .udpServerSide config := kind.symm.trans same
      have keeps : (before.kind.program socks).aborts = false := by
        rw [serves]
        rfl
      exact (passes.deals before config found serves).step serves
        (passes.feeds before found keeps).aborted stepped

theorem passes_of_run {start : Start} {sid : UInt32}
    (execution : Execution.run (advance socks) (spawn start sid) past = some task) :
    task.Passes socks past := by
  refine Execution.run_past (Passes socks) ?_ (passes_spawn socks start sid) execution
  intro past before act after passes taken
  obtain ⟨effect, taken⟩ := advance_cases taken
  exact passes.step taken

end Task

/-! ## Both ends -/

theorem addressed_of_server {socks : FastSocks5} (unwraps : socks.Unwraps) (config : FilterConfig)
    (arrival : SocketAddr × Bytes) :
    ((RelayKind.udpServerSide config).forwarded socks arrival).bind socks.addressed =
      config.passes arrival := by
  obtain ⟨source, available⟩ := arrival
  obtain ⟨header, wrapped, undoes⟩ := unwraps source
  obtain ⟨fragment, parsed⟩ := undoes (available.take READ_BUFFER)
  cases allowed : allowedIp source config .udp <;>
    simp [RelayKind.forwarded, RelayKind.program, relayBidirectionalUdpServerSide, allowed, wrapped,
      FilterConfig.passes, FastSocks5.addressed, parsed]

theorem addressed_of_client {socks : FastSocks5} (unwraps : socks.Unwraps) {flow : Flow}
    (udp : flow.udp = true) (arrival : SocketAddr × Bytes) :
    (flow.relay.forwarded socks arrival).bind socks.addressed = flow.relay.asks socks arrival := by
  cases flow with
  | socksUdp => rfl
  | forwardedUdp serverPort =>
      obtain ⟨header, wrapped, undoes⟩ := unwraps ⟨.v4 Ipv4Addr.LOCALHOST, serverPort⟩
      obtain ⟨fragment, parsed⟩ := undoes (arrival.2.take READ_BUFFER)
      simp [Flow.relay, RelayKind.forwarded, RelayKind.program, relayForwardedUdp, wrapped,
        RelayKind.asks, FastSocks5.addressed, parsed]
  | socksTcp => cases udp
  | forwardedTcp => cases udp

namespace Tunnel

variable {linkMdu : ℕ+} {socks : FastSocks5} {filterConfig : FilterConfig} {link : LinkId}
  {acts : List TunnelAct} {tunnel : Tunnel} {side : Side} {chan peerChan : ChanId}
  {source sink : Task} {reads writes : Relay}

theorem Paired.payloads_isPrefix (paired : tunnel.Paired side chan peerChan source sink)
    (coherent : tunnel.Coherent) (spawned : sink.relay = some writes) :
    payloads writes.received <+: payloads source.sent := by
  have control : payloads sink.answers = [] :=
    payloads_eq_nil fun frame member =>
      (coherent.answers_control paired.sends paired.receives paired.same_sid frame member).1
  calc
    payloads writes.received = payloads sink.taken := by
      rw [Task.taken, spawned, Option.elim_some, payloads_append, control, List.nil_append]
    _ <+: payloads (source.sent.filter side.peer.admits) :=
      RnsProxy.payloads_isPrefix
        (coherent.taken_isPrefix paired.sends paired.receives paired.same_sid)
    _ = payloads source.sent := payloads_filter_admits side.peer source.sent

theorem Paired.datagrams_isPrefix (paired : tunnel.Paired side chan peerChan source sink)
    (execution : Execution.run (Tunnel.step linkMdu socks) (new filterConfig link) acts =
      some tunnel)
    (distinct : tunnel.DistinctIds) (spawned : source.relay = some reads)
    (spawned_sink : sink.relay = some writes)
    (keeps : (reads.kind.program socks).aborts = false) :
    writes.datagrams socks <+: (arrivals side chan acts).filterMap fun arrival =>
      (reads.kind.forwarded socks arrival).bind socks.addressed := by
  obtain ⟨start, _, own⟩ := origin_of_run execution paired.sends
  have feeds := (Task.passes_of_run own).feeds reads spawned keeps
  have received := paired.payloads_isPrefix (coherent_of_reachable ⟨acts, execution⟩ distinct)
    spawned_sink
  rw [← List.filterMap_filterMap]
  exact ((received.trans (List.prefix_append _ _)).trans feeds.isPrefix).filterMap _

/-- In every run of a tunnel whose sessions have ids of their own, and for every UDP session, of a
SOCKS5 association or of a forwarded port: what the server has taken are the first datagrams the
application has asked for, none left out, each with its target; it has dealt with them one after the
other, with one question to the resolver for each and one datagram to its answer if the filter
allows it; and what the client has taken are the first datagrams that have passed the filter at the
server, none left out, each with its sender. Of every datagram the first `READ_BUFFER` bytes
count. -/
theorem relaysDatagrams (unwraps : socks.Unwraps)
    (execution : Execution.run (step linkMdu socks) (new filterConfig link) acts = some tunnel)
    (distinct : tunnel.DistinctIds) (paired : tunnel.Paired .client chan peerChan source sink)
    {near far : Relay} (spawned : source.relay = some near) (spawned_sink : sink.relay = some far)
    (udp : near.kind.isTcp = false) :
    far.datagrams socks <+: (arrivals .client chan acts).filterMap (near.kind.asks socks) ∧
    (∃ answered : List ((TargetAddr × Bytes) × Option TargetAddr),
      far.datagrams socks = answered.map Prod.fst ++ far.writer.pending ∧
        far.writerIo = answered.flatMap fun entry => filterConfig.deals entry.1.2 entry.2) ∧
    near.datagrams socks <+: (arrivals .server peerChan acts).filterMap filterConfig.passes := by
  -- the request says which relays the two ends run
  obtain ⟨listener, _, asks, _⟩ := client_of_run execution paired.sends
  obtain ⟨request, known, kind⟩ := asks.relay near spawned
  obtain ⟨frame, start, _, opening, starts, own⟩ :=
    opening_of_run execution distinct paired.sends paired.receives paired.same_sid
  obtain ⟨request', known', rfl⟩ := asks.sent frame opening
  obtain rfl : request = request' := Option.some.inj (known.symm.trans known')
  obtain rfl : start = request.start filterConfig := by
    rw [request.starts_frame] at starts
    exact (Option.some.inj starts).symm
  have protocol : request.flow.udp = true := by
    rw [kind] at udp
    cases flow : request.flow <;> simp [flow, Flow.relay, RelayKind.isTcp] at udp <;> rfl
  have far_kind : far.kind = .udpServerSide filterConfig := by
    have opened := (Task.serves_of_run (request.spawns_start filterConfig) own).relay far
      spawned_sink
    rw [Request.start, if_pos protocol] at opened
    exact opened.1
  have keeps : (near.kind.program socks).aborts = false := by
    rw [kind]
    cases flow : request.flow <;> simp [flow, Flow.udp] at protocol <;> rfl
  have keeps_sink : (far.kind.program socks).aborts = false := by rw [far_kind]; rfl
  refine ⟨?_, ?_, ?_⟩
  · have taken := paired.datagrams_isPrefix execution distinct spawned spawned_sink keeps
    rw [kind] at taken ⊢
    rwa [funext (addressed_of_client unwraps protocol)] at taken
  · exact (Task.passes_of_run own).deals far filterConfig spawned_sink far_kind
  · have taken := paired.symm.datagrams_isPrefix execution distinct spawned_sink spawned keeps_sink
    rw [far_kind] at taken
    rwa [funext (addressed_of_server unwraps filterConfig)] at taken

/-- An application sends a datagram to a forwarded UDP port, and the service on the server's host
answers it. -/
def forwardedExchange : List TunnelAct :=
  [.accept (.forwardedUdp 53) 1, .session .client 0 .send] ++ passFrame .client ++
    [.session .server 0 (.bound none), .session .server 0 .send] ++ passFrame .server ++
    [.session .client 0 (.recv (some ⟨.connectOk, 1, []⟩)),
      .session .client 0 (.relay (.read ⟨.v4 Ipv4Addr.LOCALHOST, 4000⟩ [7])),
      .session .client 0 (.relay .readerSend)] ++
    passFrame .client ++
    [.session .server 0 (.relay (.recv (some ⟨.data, 1, [0, 0, 0, 1, 127, 0, 0, 1, 0, 53, 7]⟩))),
      .session .server 0 (.relay (.resolved (some (.ip ⟨.v4 Ipv4Addr.LOCALHOST, 53⟩)))),
      .session .server 0 (.relay .writeDone),
      .session .server 0 (.relay (.read ⟨.v4 Ipv4Addr.LOCALHOST, 53⟩ [9])),
      .session .server 0 (.relay .readerSend)] ++
    passFrame .server ++
    [.session .client 0 (.relay (.recv (some ⟨.data, 1, [0, 0, 0, 1, 127, 0, 0, 1, 0, 53, 9]⟩)))]

/-- Both datagrams keep their addresses. -/
theorem relaysDatagrams_forwardedExchange :
    ∃ tunnel, ∃ near far : Relay,
      Execution.run (step 431 .rfc1928) (new (serverConfig false false) 1) forwardedExchange =
        some tunnel ∧
      far.datagrams .rfc1928 = [(.ip ⟨.v4 Ipv4Addr.LOCALHOST, 53⟩, [7])] ∧
      near.datagrams .rfc1928 = [(.ip ⟨.v4 Ipv4Addr.LOCALHOST, 53⟩, [9])] ∧
      far.datagrams .rfc1928 <+: (arrivals .client 0 forwardedExchange).filterMap
        (near.kind.asks .rfc1928) ∧
      near.datagrams .rfc1928 <+: (arrivals .server 0 forwardedExchange).filterMap
        (serverConfig false false).passes := by
  have ends : ∃ tunnel source sink, ∃ near far : Relay,
      Execution.run (step 431 .rfc1928) (new (serverConfig false false) 1) forwardedExchange =
        some tunnel ∧
      (tunnel.ends .client).tasks 0 = some source ∧ (tunnel.ends .server).tasks 0 = some sink ∧
      sink.sid = source.sid ∧ source.relay = some near ∧ sink.relay = some far ∧
      near.kind.isTcp = false ∧ (tunnel.ends .client).mux.nextChan = 1 ∧
      far.datagrams .rfc1928 = [(.ip ⟨.v4 Ipv4Addr.LOCALHOST, 53⟩, [7])] ∧
      near.datagrams .rfc1928 = [(.ip ⟨.v4 Ipv4Addr.LOCALHOST, 53⟩, [9])] :=
    ⟨_, _, _, _, _, rfl, rfl, rfl, rfl, rfl, rfl, rfl, rfl, rfl, rfl⟩
  obtain ⟨tunnel, source, sink, near, far, execution, sends, receives, same_sid, spawned,
    spawned_sink, udp, single, asked, told⟩ := ends
  obtain ⟨out, _, back⟩ := relaysDatagrams FastSocks5.unwraps_rfc1928 execution
    (distinctIds_of_single ⟨_, execution⟩ single) ⟨sends, receives, same_sid⟩ spawned spawned_sink
    udp
  exact ⟨tunnel, near, far, execution, asked, told, out, back⟩

end Tunnel

end RnsProxy
