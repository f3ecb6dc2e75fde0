import RnsProxy.Stages

/-!
# The byte streams of a TCP relay

A TCP relay turns the bytes its reader reads into DATA frames and the DATA frames its writer
receives into bytes. This file states for each of the two tasks which bytes it has in its hand, and
how it can have come to its end.
-/

namespace RnsProxy

/-! ## The bytes a list of frames carries -/

/-- The payloads of the DATA frames. -/
def dataOf (frames : List Frame) : Bytes :=
  (frames.filter fun frame => frame.frameType == .data).flatMap Frame.payload

@[simp]
theorem dataOf_nil : dataOf [] = [] := rfl

@[simp]
theorem dataOf_append (left right : List Frame) :
    dataOf (left ++ right) = dataOf left ++ dataOf right := by
  simp [dataOf]

theorem dataOf_singleton_of_data {frame : Frame} (data : frame.frameType = .data) :
    dataOf [frame] = frame.payload := by
  simp [dataOf, data]

theorem dataOf_eq_nil {frames : List Frame} (control : ∀ frame ∈ frames, frame.frameType ≠ .data) :
    dataOf frames = [] := by
  have none_left : (frames.filter fun frame => frame.frameType == .data) = [] := by
    simpa [List.filter_eq_nil_iff] using control
  simp [dataOf, none_left]

/-- A TCP writer leaves its loop at this frame. -/
def Frame.Stops (frame : Frame) : Prop :=
  frame.frameType = .close ∨ frame.frameType = .connectErr

/-! ## The two tasks of a TCP relay -/

/-- The relay joins a TCP stream. -/
def RelayKind.isTcp : RelayKind → Bool
  | bidirectionalTcp => true
  | forwardedTcp => true
  | udpClientSide => false
  | udpServerSide _ => false
  | forwardedUdp _ => false

theorem RelayKind.program_of_isTcp (socks : FastSocks5) {kind : RelayKind}
    (tcp : kind.isTcp = true) : kind.program socks = tcpRelayProgram := by
  cases kind with
  | bidirectionalTcp => rfl
  | forwardedTcp => rfl
  | udpClientSide => cases tcp
  | udpServerSide config => cases tcp
  | forwardedUdp serverPort => cases tcp

/-- The bytes a reader has read and not yet sent. -/
def Reader.hand : Reader → Bytes
  | reading => []
  | holding _ payload => payload
  | finished => []

/-- The bytes a writer has received and not yet written. -/
def Writer.hand : Writer → Bytes
  | receiving => []
  | writing rest => rest
  | sending => []
  | resolving _ _ => []
  | finished => []

namespace Relay

/-- The reader of a relay that has sent these bytes loses nothing, and ends for a reason. -/
structure Reads (relay : Relay) (sent : Bytes) : Prop where
  /-- What it has read is what it has sent and what it has in its hand. -/
  exact : relay.reader ≠ .finished → relay.taken = sent ++ relay.reader.hand
  /-- It ends with its stream. -/
  ends : relay.reader = .finished →
    relay.sawEof = true ∨ relay.failed = true ∨ relay.aborted = true

/-- The writer has received a frame at which it stops. -/
def Stopped (relay : Relay) : Prop :=
  ∃ stop ∈ relay.received, stop.Stops

/-- The writer of a relay loses nothing, and ends for a reason. -/
structure Writes (relay : Relay) : Prop where
  /-- What it has received is what it has written and what it has in its hand. -/
  exact : relay.writer ≠ .finished →
    dataOf relay.received = relay.written ++ relay.writer.hand ∧ ¬ relay.Stopped
  /-- It writes in order. -/
  isPrefix : relay.written <+: dataOf relay.received
  /-- It stops only when it has written everything. -/
  stopped : relay.Stopped → ∃ front stop, relay.received = front ++ [stop] ∧
    (∀ frame ∈ front, ¬ frame.Stops) ∧ relay.written = dataOf front
  /-- It ends where it stops. -/
  ends : relay.writer = .finished →
    relay.Stopped ∨ relay.failed = true ∨ relay.aborted = true

theorem reads_start (kind : RelayKind) : (start kind).Reads [] :=
  ⟨fun _ => rfl, by simp [start]⟩

theorem not_stopped_start (kind : RelayKind) : ¬ (start kind).Stopped := by
  simp [Stopped, start]

theorem writes_start (kind : RelayKind) : (start kind).Writes :=
  ⟨fun _ => ⟨rfl, not_stopped_start kind⟩, by simp [start],
    fun stopped => absurd stopped (not_stopped_start kind), by simp [start]⟩

section Steps

variable {socks : FastSocks5} {relay : Relay} {sent : Bytes}

/-- The reader of a TCP relay holds what it has just read. -/
theorem Reads.onRead (reads : relay.Reads sent) (tcp : relay.kind.isTcp = true)
    (reading : relay.reader = .reading) (source : SocketAddr) (data : Bytes) :
    (relay.onRead socks source data).Reads sent := by
  rw [Relay.onRead]
  split
  · exact ⟨by simp, by simp⟩
  · rw [RelayKind.program_of_isTcp socks tcp]
    have taken := reads.exact (by simp [reading])
    exact ⟨fun _ => by simp [tcpRelayProgram, taken, reading, Reader.hand],
      by simp [tcpRelayProgram]⟩

/-- A writer that has not stopped loses nothing when it is cut short. -/
theorem Writes.finish (writes : relay.Writes) (running : relay.writer ≠ .finished) {failed : Bool}
    (why : failed = true ∨ relay.aborted = true) :
    { relay with writer := .finished, failed }.Writes :=
  ⟨by simp, writes.isPrefix, fun stopped => absurd stopped (writes.exact running).2,
    fun _ => .inr why⟩

/-- The writer of a TCP relay writes DATA, and stops at CLOSE and CONN_ERR. -/
theorem Writes.onFrame (writes : relay.Writes) (tcp : relay.kind.isTcp = true)
    (receiving : relay.writer = .receiving) (frame : Frame) :
    (relay.onFrame socks frame).Writes := by
  obtain ⟨exact, open_⟩ := writes.exact (by simp [receiving])
  have open_after (goes_on : ¬ frame.Stops) :
      ¬ ∃ stop ∈ relay.received ++ [frame], stop.Stops := by
    rintro ⟨stop, member, stops⟩
    rcases List.mem_append.mp member with old | new
    · exact open_ ⟨stop, old, stops⟩
    · exact goes_on (List.mem_singleton.mp new ▸ stops)
  have written : relay.written = dataOf relay.received := by
    simpa [receiving, Writer.hand] using exact.symm
  have isPrefix : relay.written <+: dataOf (relay.received ++ [frame]) := by
    simp [written]
  have finish (stops : frame.Stops) :
      { relay with writer := .finished, received := relay.received ++ [frame] }.Writes :=
    ⟨by simp, isPrefix,
      fun _ => ⟨_, _, rfl, fun other member stops => open_ ⟨other, member, stops⟩, written⟩,
      fun _ => .inl ⟨frame, by simp, stops⟩⟩
  have ignore (goes_on : ¬ frame.Stops) (control : frame.frameType ≠ .data) :
      { relay with received := relay.received ++ [frame] }.Writes := by
    have nothing : dataOf [frame] = [] := dataOf_eq_nil (by simpa using control)
    exact ⟨fun _ => ⟨by simp [written, nothing, receiving, Writer.hand], open_after goes_on⟩,
      isPrefix, fun stopped => absurd stopped (open_after goes_on), by simp [receiving]⟩
  rw [Relay.onFrame]
  rw [RelayKind.program_of_isTcp socks tcp]
  cases kind : frame.frameType with
  | data =>
      have goes_on : ¬ frame.Stops := by simp [Frame.Stops, kind]
      simp only [tcpRelayProgram, kind]
      exact ⟨fun _ => ⟨by simp [written, dataOf_singleton_of_data kind, Writer.hand],
        open_after goes_on⟩, isPrefix, fun stopped => absurd stopped (open_after goes_on), by simp⟩
  | close =>
      simp only [tcpRelayProgram, kind]
      exact finish (.inl kind)
  | connectErr =>
      simp only [tcpRelayProgram, kind]
      exact finish (.inr kind)
  | connect =>
      simp only [tcpRelayProgram, kind]
      exact ignore (by simp [Frame.Stops, kind]) (by simp [kind])
  | connectOk =>
      simp only [tcpRelayProgram, kind]
      exact ignore (by simp [Frame.Stops, kind]) (by simp [kind])

variable {sid : UInt32} {next : Relay} {act : RelayAct} {effect : Effect}

theorem Step.same_kind (taken : Step socks sid relay act next effect) :
    next.kind = relay.kind ∧ next.aborted = relay.aborted := by
  cases taken with
  | @read source available =>
      obtain ⟨_, _, _, _, _, same⟩ := relay.onRead_frame socks source (available.take READ_BUFFER)
      simp [same]
  | @recvFrame frame =>
      obtain ⟨_, _, same⟩ := relay.onFrame_frame socks frame
      simp [same]
  | @resolved answer target data =>
      obtain ⟨_, _, same⟩ := relay.onResolved_frame socks answer data
      simp [same]
  | _ => exact ⟨rfl, rfl⟩

theorem Reads.of_same (reads : relay.Reads sent) (reader : next.reader = relay.reader)
    (taken : next.taken = relay.taken) (sawEof : next.sawEof = relay.sawEof)
    (failed : relay.failed = true → next.failed = true)
    (aborted : relay.aborted = true → next.aborted = true) : next.Reads (sent ++ []) := by
  refine ⟨fun running => ?_, fun finished => ?_⟩
  · rw [reader] at running ⊢
    simpa [taken] using reads.exact running
  · rw [sawEof]
    exact (reads.ends (reader ▸ finished)).imp_right (Or.imp failed aborted)

theorem Reads.step (reads : relay.Reads sent) (tcp : relay.kind.isTcp = true)
    (taken : Step socks sid relay act next effect) : next.Reads (sent ++ dataOf effect.frames) := by
  cases taken with
  | read reading => simpa [Effect.frames] using reads.onRead tcp reading _ _
  | readFailed => exact ⟨by simp, by simp⟩
  | readerSend holding =>
      have taken := reads.exact (by simp [holding])
      refine ⟨fun _ => ?_, by simp⟩
      simp [taken, holding, Effect.frames, Reader.hand, dataOf_singleton_of_data]
  | @recvFrame frame =>
      obtain ⟨_, _, same⟩ := relay.onFrame_frame socks frame
      rw [same]
      exact reads.of_same rfl rfl rfl id id
  | @resolved answer target data =>
      obtain ⟨_, _, same⟩ := relay.onResolved_frame socks answer data
      rw [same]
      exact reads.of_same rfl rfl rfl id id
  | writeFailed => exact reads.of_same rfl rfl rfl (fun _ => rfl) id
  | cancelReader aborted => exact ⟨by simp, by simp [aborted]⟩
  | _ => exact reads.of_same rfl rfl rfl id id

/-- Every step of a TCP relay keeps the writer exact, if the session channel is closed only after
the relay has been aborted. -/
theorem Writes.step (writes : relay.Writes) (tcp : relay.kind.isTcp = true)
    (taken : Step socks sid relay act next effect)
    (closes : act = .recv none → relay.aborted = true) : next.Writes := by
  cases taken with
  | @read source available =>
      obtain ⟨_, _, _, _, _, same⟩ := relay.onRead_frame socks source (available.take READ_BUFFER)
      rw [same]
      exact ⟨writes.exact, writes.isPrefix, writes.stopped, writes.ends⟩
  | readFailed =>
      exact ⟨writes.exact, writes.isPrefix, writes.stopped,
        fun finished => (writes.ends finished).imp_right fun _ => .inl rfl⟩
  | recvClosed receiving => exact writes.finish (by simp [receiving]) (.inr (closes rfl))
  | recvFrame receiving => exact writes.onFrame tcp receiving _
  | @resolved answer target data resolving =>
      have same : relay.onResolved socks answer data = relay := by
        simp [onResolved, RelayKind.program_of_isTcp socks tcp, tcpRelayProgram]
      rwa [same]
  | @wrote count rest writing progress =>
      obtain ⟨exact, open_⟩ := writes.exact (by simp [writing])
      have exact :
          dataOf relay.received = (relay.written ++ rest.take count) ++ rest.drop count := by
        simpa [writing, Writer.hand] using exact
      exact ⟨fun _ => ⟨exact, open_⟩, ⟨_, exact.symm⟩, fun stopped => absurd stopped open_, by simp⟩
  | writeDone finishing =>
      obtain ⟨exact, open_⟩ := writes.exact (by rcases finishing with busy | busy <;> simp [busy])
      refine ⟨fun _ => ⟨?_, open_⟩, writes.isPrefix, fun stopped => absurd stopped open_, by simp⟩
      rcases finishing with busy | busy <;> simpa [busy, Writer.hand] using exact
  | writeFailed busy =>
      refine writes.finish ?_ (.inl rfl)
      rcases busy with ⟨rest, busy⟩ | busy <;> simp [busy]
  | cancelWriter aborted running => exact writes.finish running (.inr aborted)
  | _ => exact ⟨writes.exact, writes.isPrefix, writes.stopped, writes.ends⟩

/-- A reader that has ended does nothing any more. -/
theorem Step.reader_finished (taken : Step socks sid relay act next effect)
    (finished : relay.reader = .finished) : next.reader = .finished := by
  cases taken with
  | read reading => simp [finished] at reading
  | readerSend holding => simp [finished] at holding
  | @recvFrame frame =>
      obtain ⟨_, _, same⟩ := relay.onFrame_frame socks frame
      simpa [same] using finished
  | @resolved answer target data =>
      obtain ⟨_, _, same⟩ := relay.onResolved_frame socks answer data
      simpa [same] using finished
  | _ => first | exact finished | rfl

/-- The reasons for which a TCP relay is aborted. -/
def Reason (relay : Relay) : Prop :=
  relay.sawEof = true ∨ relay.failed = true ∨ relay.Stopped

/-- A reason to abort a relay remains one. -/
theorem Step.reason (taken : Step socks sid relay act next effect) (reason : relay.Reason) :
    next.Reason := by
  unfold Reason at *
  cases taken with
  | @read source available =>
      rw [onRead]
      split
      · exact .inl rfl
      · exact reason
  | readFailed => exact .inr (.inl rfl)
  | @recvFrame frame =>
      obtain ⟨_, _, same⟩ := relay.onFrame_frame socks frame
      rw [same]
      refine reason.imp_right (Or.imp_right ?_)
      rintro ⟨stop, member, stops⟩
      exact ⟨stop, List.mem_append_left _ member, stops⟩
  | @resolved answer target data =>
      obtain ⟨_, _, same⟩ := relay.onResolved_frame socks answer data
      rwa [same]
  | writeFailed => exact .inr (.inl rfl)
  | _ => exact reason

/-- A TCP relay that has sent these bytes loses nothing, and is aborted for a reason, once one of
its tasks has ended. -/
structure Streams (relay : Relay) (sent : Bytes) (relaying : Prop) : Prop where
  /-- The reader loses nothing. -/
  reads : relay.Reads sent
  /-- The writer loses nothing. -/
  writes : relay.Writes
  /-- No third task has ended. -/
  watching : relay.watching = true
  /-- It is aborted for a reason. -/
  reason : relay.aborted = true → relay.Reason
  /-- The handler aborts it when it leaves the `select!`. -/
  ended : ¬ relaying → relay.aborted = true ∧ (relay.reader = .finished ∨ relay.writer = .finished)

theorem streams_start (kind : RelayKind) {relaying : Prop} (runs : relaying) :
    (start kind).Streams [] relaying :=
  ⟨reads_start kind, writes_start kind, rfl, by simp [start], absurd runs⟩

variable {relaying : Prop}

theorem Streams.reason_of_finished (streams : relay.Streams sent relaying)
    (finished : relay.reader = .finished ∨ relay.writer = .finished) : relay.Reason := by
  rcases finished with finished | finished
  · rcases streams.reads.ends finished with sawEof | failed | aborted
    · exact .inl sawEof
    · exact .inr (.inl failed)
    · exact streams.reason aborted
  · rcases streams.writes.ends finished with stopped | failed | aborted
    · exact .inr (.inr stopped)
    · exact .inr (.inl failed)
    · exact streams.reason aborted

/-- The `select!` of a TCP relay aborts it. -/
theorem Streams.select (streams : relay.Streams sent relaying) (tcp : relay.kind.isTcp = true)
    (ready : relay.selectReady = true) (still : Prop) :
    { relay with aborted := (relay.kind.program socks).aborts }.Streams sent still := by
  have finished : relay.reader = .finished ∨ relay.writer = .finished := by
    simpa [selectReady, streams.watching] using ready
  have reason := streams.reason_of_finished finished
  rw [RelayKind.program_of_isTcp socks tcp]
  exact ⟨⟨streams.reads.exact, fun _ => .inr (.inr rfl)⟩,
    ⟨streams.writes.exact, streams.writes.isPrefix, streams.writes.stopped,
      fun _ => .inr (.inr rfl)⟩,
    streams.watching, fun _ => reason, fun _ => ⟨rfl, finished⟩⟩

/-- Every step of the tasks of a TCP relay keeps its streams exact. -/
theorem Streams.step (streams : relay.Streams sent relaying) (tcp : relay.kind.isTcp = true)
    (taken : Step socks sid relay act next effect) (closes : act = .recv none → ¬ relaying) :
    next.Streams (sent ++ dataOf effect.frames) relaying where
  reads := streams.reads.step tcp taken
  writes := streams.writes.step tcp taken fun receives => (streams.ended (closes receives)).1
  watching := by
    cases taken with
    | @read source available =>
        obtain ⟨_, _, _, _, _, same⟩ := relay.onRead_frame socks source (available.take READ_BUFFER)
        simpa [same] using streams.watching
    | @recvFrame frame =>
        obtain ⟨_, _, same⟩ := relay.onFrame_frame socks frame
        simpa [same] using streams.watching
    | @resolved answer target data =>
        obtain ⟨_, _, same⟩ := relay.onResolved_frame socks answer data
        simpa [same] using streams.watching
    | watched watches => simp [RelayKind.program_of_isTcp socks tcp, tcpRelayProgram] at watches
    | _ => exact streams.watching
  reason aborted := taken.reason (streams.reason (taken.same_kind.2 ▸ aborted))
  ended still := by
    obtain ⟨aborted, finished⟩ := streams.ended still
    exact ⟨taken.same_kind.2.trans aborted,
      finished.imp taken.reader_finished taken.writer_finished⟩

end Steps

end Relay

namespace Task

/-- The TCP relay of a task loses nothing, and without a relay the task has sent no DATA. -/
structure Streams (task : Task) : Prop where
  /-- Only a relay sends DATA. -/
  silent : task.relay = none → dataOf task.sent = []
  /-- The relay. -/
  relay : ∀ relay, task.relay = some relay → relay.kind.isTcp = true →
    relay.Streams (dataOf task.sent) (task.pc = .relaying)

theorem streams_spawn (start : Start) (sid : UInt32) : (spawn start sid).Streams :=
  ⟨fun _ => rfl, fun relay spawned => by simp [spawn] at spawned⟩

/-- Every step of a task keeps its streams exact, if the session channel is closed only after the
handler has left its relay. -/
theorem Streams.step {socks : FastSocks5} {task next : Task} {act : TaskAct} {effect : Effect}
    (streams : task.Streams) (inTime : task.SpawnsInTime) (taken : Step socks task act next effect)
    (closes : act = .relay (.recv none) → task.pc ≠ .relaying) : next.Streams := by
  have sent := taken.sent_eq
  cases taken.relayChange inTime with
  | kept aside same control =>
      have same_data : dataOf next.sent = dataOf task.sent := by simp [sent, dataOf_eq_nil control]
      refine ⟨fun absent => ?_, fun relay spawned tcp => ?_⟩
      · rw [same_data]
        exact streams.silent (same.symm.trans absent)
      · have before := streams.relay relay (same.symm.trans spawned) tcp
        rw [same_data]
        exact ⟨before.reads, before.writes, before.watching, before.reason,
          fun _ => before.ended aside⟩
  | @spawned kind absent relaying started control =>
      refine ⟨fun absent => by simp [absent] at started, fun relay spawned tcp => ?_⟩
      obtain rfl := Option.some.inj (started.symm.trans spawned)
      have nothing : dataOf next.sent = [] := by
        simp [sent, dataOf_eq_nil control, streams.silent absent]
      rw [nothing]
      exact Relay.streams_start kind relaying
  | select relaying found ready later silent =>
      refine ⟨fun absent => by simp [absent] at later, fun relay spawned tcp => ?_⟩
      obtain rfl := Option.some.inj (later.symm.trans spawned)
      have same_data : dataOf next.sent = dataOf task.sent := by simp [sent, silent, Effect.frames]
      rw [same_data]
      exact (streams.relay _ found tcp).select tcp ready _
  | @relay relayAct before after acts found taken later same_pc =>
      refine ⟨fun absent => by simp [absent] at later, fun relay spawned tcp => ?_⟩
      obtain rfl := Option.some.inj (later.symm.trans spawned)
      have before_tcp : before.kind.isTcp = true := taken.same_kind.1 ▸ tcp
      have steps := (streams.relay before found before_tcp).step before_tcp taken fun receives =>
        closes (by rw [acts, receives])
      rw [sent, dataOf_append, same_pc]
      exact steps

end Task

end RnsProxy
