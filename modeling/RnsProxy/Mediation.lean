import RnsProxy.Server

/-!
# Complete mediation by the filter

Whatever frames the clients send, whatever the resolver answers and whatever datagrams arrive, the
server opens connections and sends datagrams only to addresses the filter has allowed, and forwards
only datagrams from such addresses. The address it uses is the one it has checked: in the history
of every session the use follows the check of that very address.
-/

namespace RnsProxy

/-- The uses of an address that the filter decides about, each preceded by the check of that very
address. For a target the check is preceded by the answer of the resolver it is about, for a source
by the arrival of the datagram. -/
def Io.Mediated (config : FilterConfig) (before : List Io) : Io → Prop
  | .connect addr => ∃ earlier,
      before = earlier ++ [.resolved (some (.ip addr)), .checked addr .tcp true] ∧
        allowedIp addr config .tcp = true
  | .sendTo addr _ => ∃ earlier,
      before = earlier ++ [.resolved (some (.ip addr)), .checked addr .udp true] ∧
        allowedIp addr config .udp = true
  | .forwarded source payload => ∃ earlier header data,
      before = earlier ++ [.received source data, .checked source .udp true] ∧
        payload = header ++ data ∧ allowedIp source config .udp = true
  | .resolved _ => True
  | .checked _ _ _ => True
  | .received _ _ => True

/-- Every use of an address in a history is mediated. -/
def Mediated (config : FilterConfig) (history : List Io) : Prop :=
  ∀ before event after, history = before ++ event :: after → event.Mediated config before

variable {config : FilterConfig}

theorem mediated_nil : Mediated config [] := by
  intro before event after split
  simp at split

theorem mediated_concat {history : List Io} {event : Io} :
    Mediated config (history ++ [event]) ↔
      Mediated config history ∧ event.Mediated config history := by
  constructor
  · intro mediated
    refine ⟨fun before earlier after split => ?_, mediated history event [] rfl⟩
    exact mediated before earlier (after ++ [event]) (by simp [split])
  · rintro ⟨mediated, last⟩ before other after split
    rcases List.eq_nil_or_concat after with rfl | ⟨after, final, rfl⟩
    · obtain ⟨rfl, same⟩ := List.append_inj' split rfl
      obtain rfl := List.singleton_inj.mp same
      exact last
    · rw [List.concat_eq_append, ← List.cons_append, ← List.append_assoc] at split
      exact mediated before other after (List.append_inj' split rfl).1

/-- Events that use no address need no mediation. -/
theorem Mediated.append {history events : List Io} (mediated : Mediated config history)
    (harmless : ∀ event ∈ events, ∀ before, event.Mediated config before) :
    Mediated config (history ++ events) := by
  induction events using List.reverseRecOn with
  | nil => simpa using mediated
  | append_singleton events event ih =>
      rw [← List.append_assoc]
      refine mediated_concat.mpr ⟨ih fun earlier member => ?_, ?_⟩
      · exact harmless earlier (List.mem_append_left _ member)
      · exact harmless event (by simp) _

theorem mediated_filterIo {answer : Option TargetAddr} {portType : PortType} :
    ∀ event ∈ filterIo answer config portType, ∀ before, event.Mediated config before := by
  intro event member before
  simp only [filterIo, List.mem_cons] at member
  rcases member with rfl | checked
  · trivial
  · split at checked
    · obtain rfl := List.mem_singleton.mp checked
      trivial
    · simp at checked

theorem filterIo_of_allowed {answer : Option TargetAddr} {portType : PortType} {addr : SocketAddr}
    (passed : filterAndConvert answer (some config) portType = some addr) :
    filterIo answer config portType =
      [.resolved (some (.ip addr)), .checked addr portType true] := by
  obtain ⟨rfl, allowed⟩ := filterAndConvert_eq_some.mp passed
  simp [filterIo, targetToSocket, allowed]

/-! ## Relays of the server -/

/-- What the relays of the server keep: they are of the two kinds the server starts, with the
filter of the server, and mediate every use of an address. -/
structure Relay.Filtered (config : FilterConfig) (relay : Relay) : Prop where
  /-- The server starts relays of two kinds. -/
  kind : relay.kind = .bidirectionalTcp ∨ relay.kind = .udpServerSide config
  /-- The writer is mediated. -/
  writer : Mediated config relay.writerIo
  /-- The reader of a UDP relay is mediated. -/
  reader : relay.kind ≠ .bidirectionalTcp → Mediated config relay.readerIo
  /-- A datagram the reader of a UDP relay is about to forward has passed the filter. -/
  holding : relay.kind ≠ .bidirectionalTcp → ∀ source payload,
    relay.reader = .holding source payload →
      (Io.forwarded source payload).Mediated config relay.readerIo

namespace Relay

theorem filtered_start {kind : RelayKind}
    (known : kind = .bidirectionalTcp ∨ kind = .udpServerSide config) :
    (start kind).Filtered config :=
  ⟨known, mediated_nil, fun _ => mediated_nil, fun _ _ _ holding => by cases holding⟩

variable {socks : FastSocks5} {relay : Relay}

theorem Filtered.of_writer (filtered : relay.Filtered config) {writer : Writer}
    {received : List Frame} {written : Bytes} {writerIo : List Io}
    (mediated : Mediated config writerIo) :
    { relay with writer, received, written, writerIo }.Filtered config :=
  ⟨filtered.kind, mediated, filtered.reader, filtered.holding⟩

theorem Filtered.onRead (filtered : relay.Filtered config) (source : SocketAddr) (data : Bytes) :
    (relay.onRead socks source data).Filtered config := by
  rw [Relay.onRead]
  split
  · exact ⟨filtered.kind, filtered.writer, filtered.reader, fun _ _ _ holding => by cases holding⟩
  · rcases filtered.kind with tcp | udp
    · exact ⟨filtered.kind, filtered.writer, absurd tcp, absurd tcp⟩
    · refine ⟨filtered.kind, filtered.writer, fun isUdp => ?_,
        fun isUdp other payload holding => ?_⟩
      · refine (filtered.reader isUdp).append fun event member before => ?_
        simp only [udp, RelayKind.program, relayBidirectionalUdpServerSide, List.mem_cons] at member
        rcases member with rfl | rfl | none
        · trivial
        · trivial
        · simp at none
      · simp only [udp, RelayKind.program, relayBidirectionalUdpServerSide] at holding ⊢
        split_ifs at holding with allowed
        · cases wrapped : socks.newUdpHeader source with
          | none => simp [wrapped] at holding
          | some header =>
              simp only [wrapped, Reader.holding.injEq] at holding
              obtain ⟨rfl, rfl⟩ := holding
              exact ⟨relay.readerIo, header, data, by simp [allowed], rfl, allowed⟩

theorem Filtered.onFrame (filtered : relay.Filtered config) (frame : Frame) :
    (relay.onFrame socks frame).Filtered config := by
  obtain ⟨writer, writerIo, same⟩ := relay.onFrame_frame socks frame
  have nothing_sent : writerIo = relay.writerIo := by
    have sends_nothing : ∀ addr data,
        (relay.kind.program socks).onFrame relay.clientLocalPort frame ≠ .datagram addr data := by
      intro addr data
      rcases filtered.kind with tcp | udp
      · simp only [tcp, RelayKind.program, relayBidirectionalTcp, tcpRelayProgram]
        split <;> simp
      · simp only [udp, RelayKind.program, relayBidirectionalUdpServerSide]
        split
        · split <;> simp
        · simp
        · simp
    have writer_same := congrArg Relay.writerIo same
    rw [Relay.onFrame] at writer_same
    split at writer_same
    case h_4 => exact absurd ‹_› (sends_nothing _ _)
    all_goals exact writer_same.symm
  rw [same, nothing_sent]
  exact filtered.of_writer filtered.writer

theorem Filtered.onResolved (filtered : relay.Filtered config) (answer : Option TargetAddr)
    (data : Bytes) : (relay.onResolved socks answer data).Filtered config := by
  rw [Relay.onResolved]
  split
  · rename_i filter applied
    obtain rfl : filter = config := by
      rcases filtered.kind with tcp | udp
      · simp [tcp, RelayKind.program, relayBidirectionalTcp, tcpRelayProgram] at applied
      · have same : config = filter := by
          simpa [udp, RelayKind.program, relayBidirectionalUdpServerSide] using applied
        exact same.symm
    split
    · rename_i addr passed
      refine filtered.of_writer (mediated_concat.mpr ⟨?_, relay.writerIo, ?_, ?_⟩)
      · exact filtered.writer.append mediated_filterIo
      · rw [filterIo_of_allowed passed]
      · exact (filterAndConvert_eq_some.mp passed).2
    · exact filtered.of_writer (filtered.writer.append mediated_filterIo)
  · exact filtered

/-- Every step of a relay of the server keeps it filtered. -/
theorem Filtered.step {sid : UInt32} {act : RelayAct} {next : Relay} {effect : Effect}
    (filtered : relay.Filtered config) (taken : Step socks sid relay act next effect) :
    next.Filtered config := by
  cases taken with
  | read => exact filtered.onRead _ _
  | readFailed =>
      exact ⟨filtered.kind, filtered.writer, filtered.reader, fun _ _ _ holding => by cases holding⟩
  | readerSend holding =>
      refine ⟨filtered.kind, filtered.writer, fun isUdp => ?_,
        fun _ _ _ holding => by cases holding⟩
      exact mediated_concat.mpr ⟨filtered.reader isUdp, filtered.holding isUdp _ _ holding⟩
  | recvClosed => exact filtered.of_writer filtered.writer
  | recvFrame => exact filtered.onFrame _
  | resolved => exact filtered.onResolved _ _
  | wrote => exact filtered.of_writer filtered.writer
  | writeDone => exact filtered.of_writer filtered.writer
  | writeFailed => exact ⟨filtered.kind, filtered.writer, filtered.reader, filtered.holding⟩
  | watched => exact ⟨filtered.kind, filtered.writer, filtered.reader, filtered.holding⟩
  | cancelReader =>
      exact ⟨filtered.kind, filtered.writer, filtered.reader, fun _ _ _ holding => by cases holding⟩
  | cancelWriter => exact filtered.of_writer filtered.writer

end Relay

/-! ## Session tasks of the server -/

/-- The places a handler of the server can be at, with the filter of the server. -/
def Pc.Serves (config : FilterConfig) : Pc → Prop
  | filtering _ filter => filter = config
  | opening _ => True
  | serverBinding filter => filter = config
  | refusing _ => True
  | confirming kind => kind = .bidirectionalTcp ∨ kind = .udpServerSide config
  | relaying => True
  | closing _ => True
  | dropping _ => True
  | ended _ => True
  | handshake => False
  | readCommand => False
  | connecting _ _ _ => False
  | waiting _ => False
  | binding _ => False
  | replying _ => False
  | replyingFailure _ => False
  | replyingUnsupported => False

/-- What the session tasks of the server keep. -/
structure Task.Filtered (config : FilterConfig) (task : Task) : Prop where
  /-- The handler is one of the server, with the filter of the server. -/
  pc : task.pc.Serves config
  /-- The handler is mediated. -/
  io : Mediated config task.io
  /-- The relay is mediated. -/
  relay : ∀ relay, task.relay = some relay → relay.Filtered config

namespace Task

variable {socks : FastSocks5} {task next : Task}

theorem filtered_spawn {start : Start} {sid : UInt32} (serves : Server.Spawns config start) :
    (spawn start sid).Filtered config := by
  rcases serves with ⟨addr, rfl⟩ | rfl
  · exact ⟨rfl, mediated_nil, fun _ none => by simp [spawn] at none⟩
  · exact ⟨rfl, mediated_nil, fun _ none => by simp [spawn] at none⟩

/-- A handler of the server moves to a place of the server. -/
theorem Moves.serves {before after : Pc} {act : TaskAct} (moves : Moves before act after)
    (serves : before.Serves config) : after.Serves config := by
  cases moves with
  | opened => exact .inl rfl
  | openFailed => trivial
  | serverBound => exact .inr (congrArg RelayKind.udpServerSide serves)
  | serverBindFailed => trivial
  | _ => exact serves.elim

theorem Filtered.startRelay (filtered : task.Filtered config) {kind : RelayKind}
    (known : kind = .bidirectionalTcp ∨ kind = .udpServerSide config) :
    (task.startRelay kind).Filtered config := by
  refine ⟨trivial, filtered.io, fun relay started => ?_⟩
  obtain rfl : Relay.start kind = relay := by simpa [Task.startRelay] using started
  exact Relay.filtered_start known

theorem Filtered.pendingSend (filtered : task.Filtered config) {frame : Frame}
    (pending : task.pendingSend = some (frame, next)) : next.Filtered config := by
  have serves := filtered.pc
  cases pendingSend_cases pending with
  | connect connecting =>
      rw [connecting] at serves
      exact serves.elim
  | refuse => exact ⟨trivial, filtered.io, filtered.relay⟩
  | confirm confirming =>
      rw [confirming] at serves
      exact filtered.startRelay serves
  | close => exact ⟨trivial, filtered.io, filtered.relay⟩

theorem Filtered.onFiltered (filtered : task.Filtered config) (answer : Option TargetAddr) :
    (task.onFiltered config answer).Filtered config := by
  rw [Task.onFiltered]
  split
  · rename_i addr passed
    refine ⟨trivial, mediated_concat.mpr ⟨?_, task.io, ?_, ?_⟩, filtered.relay⟩
    · exact filtered.io.append mediated_filterIo
    · rw [filterIo_of_allowed passed]
    · exact (filterAndConvert_eq_some.mp passed).2
  · exact ⟨trivial, filtered.io.append mediated_filterIo, filtered.relay⟩

/-- Every step of a session task of the server keeps it filtered. -/
theorem Filtered.step {act : TaskAct} {effect : Effect} (filtered : task.Filtered config)
    (taken : Step socks task act next effect) : next.Filtered config := by
  have serves := filtered.pc
  cases taken with
  | move moves => exact ⟨moves.serves serves, filtered.io, filtered.relay⟩
  | send pending =>
      have later := filtered.pendingSend pending
      exact ⟨later.pc, later.io, later.relay⟩
  | reply waiting =>
      rw [waiting] at serves
      exact serves.elim
  | timeout waiting =>
      rw [waiting] at serves
      exact serves.elim
  | replied replying =>
      rw [replying] at serves
      exact serves.elim
  | filtered filtering =>
      rw [filtering] at serves
      obtain rfl := serves
      exact filtered.onFiltered _
  | @select relay _ spawned =>
      refine ⟨trivial, filtered.io, fun other same => ?_⟩
      obtain rfl := Option.some.inj same
      have before := filtered.relay relay spawned
      exact ⟨before.kind, before.writer, before.reader, before.holding⟩
  | dropSession => exact ⟨trivial, filtered.io, filtered.relay⟩
  | @relay act relay after effect spawned taken =>
      refine ⟨serves, filtered.io, fun other same => ?_⟩
      obtain rfl := Option.some.inj same
      exact (filtered.relay relay spawned).step taken

/-- What a session task does at its sockets, task by task. The reader of a TCP relay is left out: it
reads from the connection the handler has opened, not datagrams. -/
def histories (task : Task) : List (List Io) :=
  task.io ::
    match task.relay with
    | some relay =>
        relay.writerIo :: if relay.kind = .bidirectionalTcp then [] else [relay.readerIo]
    | none => []

theorem Filtered.mediated (filtered : task.Filtered config) :
    ∀ history ∈ task.histories, Mediated config history := by
  intro history member
  rcases List.mem_cons.mp member with rfl | member
  · exact filtered.io
  · split at member
    · rename_i relay spawned
      have relay_filtered := filtered.relay relay spawned
      rcases List.mem_cons.mp member with rfl | member
      · exact relay_filtered.writer
      · split_ifs at member with tcp
        · simp at member
        · obtain rfl := List.mem_singleton.mp member
          exact relay_filtered.reader tcp
    · simp at member

end Task

/-! ## Runs of the server -/

/-- Every session task of an endpoint is filtered. -/
def Endpoint.Filtered (config : FilterConfig) (ep : Endpoint) : Prop :=
  ∀ chan task, ep.tasks chan = some task → task.Filtered config

namespace Server

variable {linkMdu : ℕ+} {socks : FastSocks5}

/-- Every session task of the server is filtered. -/
def Filtered (server : Server) : Prop :=
  ∀ muxId, (server.muxes muxId).Filtered server.filterConfig

theorem Filtered.step {server next : Server} {act : ServerAct} (filtered : server.Filtered)
    (taken : Step linkMdu socks server act next) : next.Filtered := by
  have same_config : next.filterConfig = server.filterConfig := by
    cases taken <;> rfl
  rw [Filtered]
  rw [same_config]
  refine taken.forall_endpoints filtered (fun link chan task found => ?_)
    fun muxId act ep taken spawned => ?_
  · simp [Endpoint.new] at found
  · refine (Endpoint.step_cases taken).forall_tasks (filtered muxId)
      (fun start sid spawns => Task.filtered_spawn (spawned start sid spawns)) ?_
    intro task act after effect before taken
    exact before.step taken

/-- Every use of an address by the server is mediated: the address is allowed by the filter, and it
is the very address the filter was asked about just before. -/
def CompletelyMediated (server : Server) (config : FilterConfig) : Prop :=
  ∀ muxId chan task history, (server.muxes muxId).tasks chan = some task →
    history ∈ task.histories →
    (∀ addr, .connect addr ∈ history → allowedIp addr config .tcp = true) ∧
      (∀ addr data, .sendTo addr data ∈ history → allowedIp addr config .udp = true) ∧
      (∀ source payload, .forwarded source payload ∈ history →
        allowedIp source config .udp = true) ∧
      Mediated config history

/-- The server is completely mediated in every state of every run. -/
theorem completelyMediated {config : FilterConfig} {actions : List ServerAct} {server : Server}
    (execution : Execution.run (step linkMdu socks) (new config) actions = some server) :
    server.CompletelyMediated config := by
  have reachable : Execution.Reachable (step linkMdu socks) (new config) server :=
    ⟨actions, execution⟩
  have filtered : server.Filtered := by
    refine reachable.invariant ?_ fun _ _ _ filtered taken => filtered.step (step_cases taken)
    intro muxId chan task found
    simp [new, Endpoint.new] at found
  intro muxId chan task history found member
  have mediated : Mediated config history := by
    have task_filtered := filtered muxId chan task found
    rw [filterConfig_of_reachable reachable] at task_filtered
    exact task_filtered.mediated history member
  refine ⟨fun addr used => ?_, fun addr data used => ?_, fun source payload used => ?_, mediated⟩
  · obtain ⟨before, after, split⟩ := List.append_of_mem used
    obtain ⟨_, _, allowed⟩ := mediated before _ after split
    exact allowed
  · obtain ⟨before, after, split⟩ := List.append_of_mem used
    obtain ⟨_, _, allowed⟩ := mediated before _ after split
    exact allowed
  · obtain ⟨before, after, split⟩ := List.append_of_mem used
    obtain ⟨_, _, _, _, _, allowed⟩ := mediated before _ after split
    exact allowed

/-- A client asks for a web server, and the name resolves to a public address. -/
def outboundConnection : List ServerAct :=
  [.event (.linkEstablished 1 false),
    .event (.linkData 1
      (Frame.encode ⟨.connect, 7, encodeConnectPayload "example.org" 80 false⟩)),
    .frame, .frame, .session 0 0 (.resolved (some (.ip ⟨.v4 ⟨93, 184, 216, 34⟩, 80⟩)))]

/-- The connection is opened to the address that was checked. -/
theorem completelyMediated_outboundConnection :
    ∃ server task, Execution.run (step 431 .rfc1928) (new (serverConfig true true))
        outboundConnection = some server ∧
      (server.muxes 0).tasks 0 = some task ∧
      task.io =
        [.resolved (some (.ip ⟨.v4 ⟨93, 184, 216, 34⟩, 80⟩)),
          .checked ⟨.v4 ⟨93, 184, 216, 34⟩, 80⟩ .tcp true,
          .connect ⟨.v4 ⟨93, 184, 216, 34⟩, 80⟩] ∧
      server.CompletelyMediated (serverConfig true true) :=
  ⟨_, _, rfl, rfl, rfl,
    completelyMediated (rfl : Execution.run (step 431 .rfc1928) (new (serverConfig true true))
      outboundConnection = some _)⟩

end Server

end RnsProxy
