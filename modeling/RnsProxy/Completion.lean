import RnsProxy.Pairing

/-!
# Streams that arrive

Where both relays of a TCP session run, what the one has read is written by the other as soon as the
tasks in between get to act: the reader sends what it has in its hand, the transport conveys it, the
writer takes it from its channel and writes it. These steps come to an end however they are
scheduled, and then nothing is left in between.
-/

namespace RnsProxy

theorem Task.Step.relay_cases {socks : FastSocks5} {task next : Task} {act : RelayAct}
    {effect : Effect} (taken : Step socks task (.relay act) next effect) :
    ∃ before after, task.relay = some before ∧ Relay.Step socks task.sid before act after effect ∧
      next = { task with relay := some after, sent := task.sent ++ effect.frames } := by
  generalize same : TaskAct.relay act = taskAct at taken
  cases taken with
  | relay spawned stepped =>
      cases same
      exact ⟨_, _, spawned, stepped, rfl⟩
  | move moves => exact absurd (same ▸ moves) Moves.not_relay
  | _ => cases same

namespace Tunnel

/-- A TCP session whose relays run at both ends. -/
structure Joined (tunnel : Tunnel) (side : Side) (chan peerChan : ChanId) (source sink : Task)
    (reads writes : Relay) : Prop extends tunnel.Paired side chan peerChan source sink where
  /-- The relay at one end. -/
  spawned : source.relay = some reads
  /-- The relay at the other end. -/
  spawned_sink : sink.relay = some writes
  /-- The handler at one end waits for its relay. -/
  relaying : source.pc = .relaying
  /-- So does the handler at the other end. -/
  relaying_sink : sink.pc = .relaying
  /-- The one relay reads a TCP stream. -/
  tcp : reads.kind.isTcp = true
  /-- The other relay writes a TCP stream. -/
  tcp_sink : writes.kind.isTcp = true
  /-- The reader is running. -/
  reader : reads.reader ≠ .finished
  /-- The writer is running. -/
  writer : writes.writer ≠ .finished

/-- The steps that carry bytes from one stream to another. -/
inductive Carries (side : Side) (chan peerChan : ChanId) : TunnelAct → Prop
  | transports {act} (transports : act.Transports) : Carries side chan peerChan act
  | readerSend : Carries side chan peerChan (.session side chan (.relay .readerSend))
  | recv {frame} :
      Carries side chan peerChan (.session side.peer peerChan (.relay (.recv (some frame))))
  | wrote {count} : Carries side chan peerChan (.session side.peer peerChan (.relay (.wrote count)))
  | writeDone : Carries side chan peerChan (.session side.peer peerChan (.relay .writeDone))

theorem Carries.settles {side : Side} {chan peerChan : ChanId} {act : TunnelAct}
    (carries : Carries side chan peerChan act) : Settles side chan peerChan act := by
  cases carries with
  | transports transports => exact .transports transports
  | readerSend => exact .source trivial
  | recv => exact .sink trivial
  | wrote => exact .sink trivial
  | writeDone => exact .sink trivial

section Runs

variable {linkMdu : ℕ+} {socks : FastSocks5} {filterConfig : FilterConfig} {link : LinkId}
  {tunnel next : Tunnel} {side : Side} {chan peerChan : ChanId} {source sink : Task}
  {reads writes : Relay}

theorem Paired.sent_eq (paired : tunnel.Paired side chan peerChan source sink)
    (coherent : tunnel.Coherent) (relaying : source.pc = .relaying) :
    ∃ first rest, source.sent = first :: rest ∧ first.frameType = side.opening ∧
      ∀ frame ∈ rest, frame.frameType = .data := by
  have sound := (coherent.sound side).tasks chan source paired.sends
  obtain ⟨count, types⟩ := sound.phase.established (by simp [relaying, Pc.stage])
  rw [sound.side] at types
  cases frames : source.sent with
  | nil => simp [frames] at types
  | cons first rest =>
      rw [frames, List.map_cons] at types
      obtain ⟨opens, data⟩ := List.cons.inj types
      refine ⟨first, rest, rfl, opens, fun frame member => ?_⟩
      have type : frame.frameType ∈ List.replicate count FrameType.data :=
        data ▸ List.mem_map_of_mem member
      exact List.eq_of_mem_replicate type

theorem Paired.data_of_received (paired : tunnel.Paired side chan peerChan source sink)
    (reachable : Execution.Reachable (Tunnel.step linkMdu socks) (new filterConfig link) tunnel)
    (distinct : tunnel.DistinctIds) (relaying : source.pc = .relaying)
    (spawned : sink.relay = some writes) {frame : Frame} (received : frame ∈ writes.received) :
    frame.frameType = .data := by
  have coherent := coherent_of_reachable reachable distinct
  obtain ⟨first, rest, sent, opens, data⟩ := paired.sent_eq coherent relaying
  have taken := coherent.taken_isPrefix paired.sends paired.receives paired.same_sid
  rw [sent] at taken
  cases side with
  | client =>
      have member : frame ∈ (first :: rest).filter Side.client.peer.admits :=
        taken.subset (by simp [Task.taken, spawned, received])
      obtain ⟨sent, admits⟩ := List.mem_filter.mp member
      rcases List.mem_cons.mp sent with rfl | later
      · simp [Side.peer, Side.admits, opens, Side.opening] at admits
      · exact data frame later
  | server =>
      -- the reply that opened the session has been taken by the handler
      obtain ⟨acts, execution⟩ := reachable
      obtain ⟨_, _, _, told⟩ := client_of_run execution paired.receives
      obtain ⟨answer, answered, _⟩ := told.accepted (.inr ⟨writes, spawned⟩)
      cases answers : sink.answers with
      | nil => simp [answers] at answered
      | cons head tail =>
          have all : (first :: rest).filter Side.client.admits = first :: rest :=
            List.filter_eq_self.mpr fun _ _ => rfl
          have taken : head :: (tail ++ writes.received) <+: first :: rest := by
            simpa [Task.taken, answers, spawned, Side.peer, all] using taken
          have later := (List.cons_prefix_cons.mp taken).2
          exact data frame (later.subset (List.mem_append_right _ received))

/-! ## What each step does to the session -/

/-- The writer of a TCP relay writes DATA. -/
theorem onFrame_data {relay : Relay} (tcp : relay.kind.isTcp = true) {frame : Frame}
    (data : frame.frameType = .data) :
    relay.onFrame socks frame =
      { relay with
        writer := .writing frame.payload
        received := relay.received ++ [frame] } := by
  rw [Relay.onFrame, RelayKind.program_of_isTcp socks tcp]
  simp [tcpRelayProgram, data]

theorem Joined.writerStep (joined : tunnel.Joined side chan peerChan source sink reads writes)
    (distinct : tunnel.DistinctIds) {act : RelayAct}
    (taken : tunnel.step linkMdu socks (.session side.peer peerChan (.relay act)) = some next) :
    next.DistinctIds ∧ ∃ after sink' effect, Relay.Step socks sink.sid writes act after effect ∧
      next.Paired side chan peerChan source sink' ∧ sink'.relay = some after ∧
      (after.writer ≠ .finished → next.Joined side chan peerChan source sink' reads after) := by
  obtain ⟨sink', effect, moved, distinct_next, later, _⟩ :=
    joined.toPaired.symm.sessionStep distinct taken
  have paired : next.Paired side chan peerChan source sink' := by simpa using later.symm
  obtain ⟨before, after, spawned, stepped, rfl⟩ := moved.relay_cases
  obtain rfl := Option.some.inj (joined.spawned_sink.symm.trans spawned)
  refine ⟨distinct_next, after, _, effect, stepped, paired, rfl, fun running => ?_⟩
  exact
    { joined with
      sends := paired.sends
      receives := paired.receives
      same_sid := paired.same_sid
      spawned_sink := rfl
      tcp_sink := stepped.same_kind.1 ▸ joined.tcp_sink
      writer := running }

theorem Joined.step (joined : tunnel.Joined side chan peerChan source sink reads writes)
    (reachable : Execution.Reachable (Tunnel.step linkMdu socks) (new filterConfig link) tunnel)
    (distinct : tunnel.DistinctIds) {act : TunnelAct} (carries : Carries side chan peerChan act)
    (taken : tunnel.step linkMdu socks act = some next) :
    ∃ source' sink' reads' writes',
      next.Joined side chan peerChan source' sink' reads' writes' ∧ reads'.taken = reads.taken := by
  cases carries with
  | transports transports =>
      have well := (kept_of_reachable reachable).well
      exact ⟨source, sink, reads, writes,
        { joined with
          sends := (tasks_of_transports transports taken (well side)).1 chan source joined.sends
          receives :=
            (tasks_of_transports transports taken (well side.peer)).1 peerChan sink
              joined.receives },
        rfl⟩
  | readerSend =>
      obtain ⟨source', effect, moved, _, later, _⟩ := joined.toPaired.sessionStep distinct taken
      obtain ⟨before, after, spawned, stepped, rfl⟩ := moved.relay_cases
      obtain rfl := Option.some.inj (joined.spawned.symm.trans spawned)
      cases stepped with
      | readerSend =>
          exact ⟨_, sink, _, writes,
            { joined with
              sends := later.sends
              receives := later.receives
              same_sid := later.same_sid
              spawned := rfl
              reader := by simp },
            rfl⟩
  | @recv frame =>
      obtain ⟨distinct_next, after, sink', effect, stepped, paired, spawned, goes_on⟩ :=
        joined.writerStep distinct taken
      refine ⟨source, sink', reads, after, goes_on ?_, rfl⟩
      have takes : frame ∈ after.received := by
        rw [stepped.received_eq]
        cases stepped with
        | recvFrame => simp [Effect.received]
      have data := paired.data_of_received (reachable.tail taken) distinct_next joined.relaying
        spawned takes
      cases stepped with
      | recvFrame => simp [onFrame_data joined.tcp_sink data]
  | wrote =>
      obtain ⟨_, after, sink', effect, stepped, _, _, goes_on⟩ := joined.writerStep distinct taken
      refine ⟨source, sink', reads, after, goes_on ?_, rfl⟩
      cases stepped with
      | wrote => simp
  | writeDone =>
      obtain ⟨_, after, sink', effect, stepped, _, _, goes_on⟩ := joined.writerStep distinct taken
      refine ⟨source, sink', reads, after, goes_on ?_, rfl⟩
      cases stepped with
      | writeDone => simp

/-! ## Where nothing is left to carry -/

theorem Joined.reading_of_stuck
    (joined : tunnel.Joined side chan peerChan source sink reads writes)
    (stuck : Execution.Stuck (Tunnel.step linkMdu socks) (Carries side chan peerChan) tunnel)
    (drained : tunnel.Drained) : reads.reader = .reading := by
  have empty := Endpoint.reader_of_blocked joined.sends joined.spawned (drained.queue side)
    (step_session_eq_none.mp (stuck _ .readerSend))
  cases reader : reads.reader with
  | reading => rfl
  | holding address payload => simp [reader, Reader.isHolding] at empty
  | finished => exact absurd reader joined.reader

theorem Joined.receiving_of_stuck
    (joined : tunnel.Joined side chan peerChan source sink reads writes)
    (stuck : Execution.Stuck (Tunnel.step linkMdu socks) (Carries side chan peerChan) tunnel)
    (heeds : writes.Heeds) :
    writes.writer = .receiving ∧ (tunnel.ends side.peer).mux.channels peerChan = [] := by
  have unresolved : ∀ target data, writes.writer ≠ .resolving target data := by
    intro target data resolving
    obtain ⟨config, udp⟩ := heeds.resolving target data resolving
    simpa [udp, RelayKind.isTcp] using joined.tcp_sink
  have unlocked : (writes.kind.program socks).recordsPort = true →
      writes.reader.isHolding = false := by
    simp [RelayKind.program_of_isTcp socks joined.tcp_sink, tcpRelayProgram]
  exact (Endpoint.writer_of_blocked joined.receives joined.spawned_sink unresolved unlocked
    (fun _ => step_session_eq_none.mp (stuck _ .recv))
    (fun _ => step_session_eq_none.mp (stuck _ .wrote))
    (step_session_eq_none.mp (stuck _ .writeDone))).resolve_left joined.writer

theorem dataOf_filter_admits (side : Side) (frames : List Frame) :
    dataOf (frames.filter side.admits) = dataOf frames := by
  induction frames with
  | nil => rfl
  | cons frame frames ih =>
      rw [List.filter_cons]
      split
      · rw [← List.singleton_append, dataOf_append, ih, ← dataOf_append, List.singleton_append]
      · rename_i rejected
        have control : frame.frameType ≠ .data := by
          intro data
          cases side <;> simp [Side.admits, data] at rejected
        have nothing : dataOf [frame] = [] := dataOf_eq_nil (by simpa using control)
        rw [ih, ← List.singleton_append, dataOf_append, nothing, List.nil_append]

theorem Joined.written_of_stuck
    (joined : tunnel.Joined side chan peerChan source sink reads writes)
    (reachable : Execution.Reachable (Tunnel.step linkMdu socks) (new filterConfig link) tunnel)
    (distinct : tunnel.DistinctIds)
    (stuck : Execution.Stuck (Tunnel.step linkMdu socks) (Carries side chan peerChan) tunnel) :
    writes.written = reads.taken := by
  have coherent := coherent_of_reachable reachable distinct
  have drained := drained_of_stuck coherent (settled_of_reachable reachable)
    fun act transports => stuck act (.transports transports)
  have delivered := drained.delivered_of_reachable reachable distinct
  have heeds : writes.Heeds :=
    ((regular_of_reachable reachable side.peer).tasks peerChan sink joined.receives).heeds writes
      joined.spawned_sink
  obtain ⟨receiving, channel⟩ := joined.receiving_of_stuck stuck heeds
  have reading := joined.reading_of_stuck stuck drained
  have running : sink.hasEnded = false := by simp [Task.hasEnded, joined.relaying_sink]
  have all : sink.taken = source.sent.filter side.peer.admits := by
    have inbox := delivered.inbox side.peer peerChan sink chan source joined.receives
      (by simpa using joined.sends) joined.same_sid.symm running
    simpa [Endpoint.inbox, channel] using inbox
  have control : dataOf sink.answers = [] :=
    dataOf_eq_nil fun frame member =>
      (coherent.answers_control joined.sends joined.receives joined.same_sid frame member).1
  have sender := (coherent.sound side).tasks chan source joined.sends
  have receiver := (coherent.sound side.peer).tasks peerChan sink joined.receives
  have written : dataOf writes.received = writes.written := by
    have exact := ((receiver.streams.relay writes joined.spawned_sink joined.tcp_sink).writes.exact
      joined.writer).1
    simpa [receiving, Writer.hand] using exact
  have read : reads.taken = dataOf source.sent := by
    have exact := (sender.streams.relay reads joined.spawned joined.tcp).reads.exact joined.reader
    simpa [reading, Reader.hand] using exact
  calc
    writes.written = dataOf sink.taken := by
      simp [Task.taken, joined.spawned_sink, control, written]
    _ = dataOf source.sent := by rw [all, dataOf_filter_admits]
    _ = reads.taken := read.symm

/-- The relays of a session run after its reader has read these bytes. -/
def Streaming (side : Side) (chan peerChan : ChanId) (bytes : Bytes) (tunnel : Tunnel) : Prop :=
  ∃ source sink reads writes,
    tunnel.Joined side chan peerChan source sink reads writes ∧ reads.taken = bytes

/-- The steps that carry bytes come to an end. -/
theorem descends_carries (bytes : Bytes) :
    Execution.Descends (step linkMdu socks) (Carries side chan peerChan)
      (fun tunnel => HasSession linkMdu socks filterConfig link side chan peerChan tunnel ∧
        Streaming side chan peerChan bytes tunnel)
      fun tunnel => tunnel.work linkMdu + sessionWork side chan peerChan tunnel := by
  refine descends_settles.strengthen (fun _ => Carries.settles) ?_
  rintro before act after has ⟨source, sink, reads, writes, joined, same⟩ carries taken
  obtain ⟨source', sink', reads', writes', later, kept⟩ :=
    joined.step has.reachable has.distinct carries taken
  exact ⟨source', sink', reads', writes', later, kept.trans same⟩

/-- From every state of a tunnel whose sessions have ids of their own, and for every TCP session
whose relays run at both ends: the steps of the transport, the sends of the one reader and the
receives and writes of the other writer come to an end however they are scheduled, and where they
end every byte the reader has read has been written at the other end. -/
theorem streamCompletes
    (reachable : Execution.Reachable (step linkMdu socks) (new filterConfig link) tunnel)
    (distinct : tunnel.DistinctIds)
    (joined : tunnel.Joined side chan peerChan source sink reads writes) :
    (∀ acts after, Execution.Only (Carries side chan peerChan) acts →
      Execution.run (step linkMdu socks) tunnel acts = some after →
      acts.length ≤ tunnel.work linkMdu + pairWork source sink) ∧
    (∃ acts after, Execution.Only (Carries side chan peerChan) acts ∧
      Execution.run (step linkMdu socks) tunnel acts = some after ∧
      Execution.Stuck (step linkMdu socks) (Carries side chan peerChan) after) ∧
    ∀ acts after, Execution.Only (Carries side chan peerChan) acts →
      Execution.run (step linkMdu socks) tunnel acts = some after →
      Execution.Stuck (step linkMdu socks) (Carries side chan peerChan) after →
      ∃ source' sink' reads' writes',
        after.Joined side chan peerChan source' sink' reads' writes' ∧
        reads'.taken = reads.taken ∧ writes'.written = reads.taken := by
  have start : HasSession linkMdu socks filterConfig link side chan peerChan tunnel ∧
      Streaming side chan peerChan reads.taken tunnel :=
    ⟨⟨reachable, distinct, source, sink, joined.toPaired⟩, source, sink, reads, writes, joined, rfl⟩
  have descending : Execution.Descends (step linkMdu socks) (Carries side chan peerChan)
      (fun tunnel => HasSession linkMdu socks filterConfig link side chan peerChan tunnel ∧
        Streaming side chan peerChan reads.taken tunnel) _ :=
    descends_carries reads.taken
  refine ⟨fun acts after only execution => ?_, descending.exists_stuck start,
    fun acts after only execution stuck => ?_⟩
  · rw [← joined.toPaired.sessionWork_eq]
    exact (Nat.le_add_right _ _).trans (descending.length_le start only execution)
  · obtain ⟨has, source', sink', reads', writes', later, same⟩ :=
      descending.run_kept start only execution
    have written := later.written_of_stuck has.reachable has.distinct stuck
    exact ⟨source', sink', reads', writes', later, same, written.trans same⟩

end Runs

/-- What the application has sent in `partialTransfer` gets to the other end. -/
theorem streamCompletes_partialTransfer :
    ∃ final, Execution.run (step 431 .rfc1928) (new (serverConfig false false) 1) partialTransfer =
        some final ∧
      ∃ acts after source sink reads writes, Execution.Only (Carries .client 0 0) acts ∧
        Execution.run (step 431 .rfc1928) final acts = some after ∧
        after.Joined .client 0 0 source sink reads writes ∧ reads.taken = [1, 2, 3, 4, 5] ∧
        writes.written = [1, 2, 3, 4, 5] := by
  have ends : ∃ final source sink reads writes,
      Execution.run (step 431 .rfc1928) (new (serverConfig false false) 1) partialTransfer =
        some final ∧
      (final.ends .client).tasks 0 = some source ∧ (final.ends .server).tasks 0 = some sink ∧
      sink.sid = source.sid ∧ source.relay = some reads ∧ sink.relay = some writes ∧
      (final.ends .client).mux.nextChan = 1 ∧ reads.taken = [1, 2, 3, 4, 5] ∧
      (source.pc == .relaying && sink.pc == .relaying && reads.kind.isTcp && writes.kind.isTcp &&
        reads.reader != .finished && writes.writer != .finished) = true :=
    ⟨_, _, _, _, _, rfl, rfl, rfl, rfl, rfl, rfl, rfl, rfl, rfl⟩
  obtain ⟨final, source, sink, reads, writes, execution, sends, receives, same_sid, spawned,
    spawned_sink, single, taken, running⟩ := ends
  simp only [Bool.and_eq_true, beq_iff_eq, bne_iff_ne, ne_eq] at running
  obtain ⟨⟨⟨⟨⟨relaying, relaying_sink⟩, tcp⟩, tcp_sink⟩, reader⟩, writer⟩ := running
  have reachable :
      Execution.Reachable (step 431 .rfc1928) (new (serverConfig false false) 1) final :=
    ⟨partialTransfer, execution⟩
  have joined : final.Joined .client 0 0 source sink reads writes :=
    { sends, receives, same_sid, spawned, spawned_sink, relaying, relaying_sink, tcp, tcp_sink,
      reader, writer }
  obtain ⟨_, ⟨acts, after, only, carried, stuck⟩, completes⟩ :=
    streamCompletes reachable (distinctIds_of_single reachable single) joined
  obtain ⟨source', sink', reads', writes', later, same, written⟩ :=
    completes acts after only carried stuck
  exact ⟨final, execution, acts, after, source', sink', reads', writes', only, carried, later,
    same.trans taken, written.trans taken⟩

end Tunnel

end RnsProxy
