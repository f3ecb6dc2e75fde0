import RnsProxy.Coherence

/-!
# Conservation of the byte streams

In a tunnel whose sessions have ids of their own, the bytes a TCP relay has read at one end are
those the relay at the other end has written, followed by those that are still somewhere between the
two: in the hand of the writer, in the session channel, among the decoded frames, in the reassembly
buffer, on the link, in the link sender, in the send queue or in the hand of the reader.
-/

namespace RnsProxy

/-- Both tasks of a TCP relay are running. -/
structure Relay.Running (relay : Relay) : Prop where
  /-- It joins a TCP stream. -/
  tcp : relay.kind.isTcp = true
  /-- The reader is running. -/
  reader : relay.reader ≠ .finished
  /-- The writer is running. -/
  writer : relay.writer ≠ .finished

namespace Task

/-- The bytes a session has written to its stream. -/
def written (task : Task) : Bytes :=
  task.relay.elim [] Relay.written

/-- The bytes the writer of a session has in its hand. -/
def writerHand (task : Task) : Bytes :=
  task.relay.elim [] fun relay => relay.writer.hand

/-- The relay of a TCP session is running, or its handler has not come to it yet. -/
def Listens (task : Task) : Prop :=
  (∃ relay, task.relay = some relay ∧ relay.Running) ∨
    task.pc.stage = .opening ∨ task.pc.stage = .pending

variable {side : Side} {task : Task}

theorem Sound.running_of_listens (sound : task.Sound side) (listens : task.Listens) :
    task.hasEnded = false := by
  rcases listens with ⟨relay, spawned, running⟩ | early
  · by_cases relaying : task.pc = .relaying
    · simp [hasEnded, relaying]
    · rcases ((sound.streams.relay relay spawned running.tcp).ended relaying).2 with ended | ended
      · exact absurd ended running.reader
      · exact absurd ended running.writer
  · by_contra ended
    rw [hasEnded] at ended
    split at ended
    · rename_i exit at_pc
      simp [at_pc, Pc.stage] at early
    · exact ended rfl

/-- What a session that listens has taken, it has written or has in its hand. -/
theorem Sound.dataOf_taken (sound : task.Sound side) (listens : task.Listens) :
    dataOf task.taken = dataOf task.answers ++ task.written ++ task.writerHand := by
  rcases listens with ⟨relay, spawned, running⟩ | early
  · have exact := ((sound.streams.relay relay spawned running.tcp).writes.exact running.writer).1
    simp [Task.taken, written, writerHand, spawned, exact]
  · simp [Task.taken, written, writerHand, sound.inTime early]

end Task

namespace Tunnel

/-- What becomes of the bytes in the reassembly buffer, on the link, in the link sender and in the
send queue of one direction: the frames, and what is left over. -/
def underway (tunnel : Tunnel) (side : Side) : List Frame × Bytes :=
  receiveData (tunnel.ends side.peer).mux.recvBuf
    ((tunnel.ends side).mux.underway (tunnel.inbound side.peer))

variable {tunnel : Tunnel}

/-- What a task has sent has been handled at the other end, is decoded or underway. -/
theorem Coherent.sent_split (coherent : tunnel.Coherent) {side : Side} {chan : ChanId} {task : Task}
    (found : (tunnel.ends side).tasks chan = some task) :
    task.sent = framesOf task.sid (tunnel.inbound side.peer).handled ++
        framesOf task.sid (tunnel.inbound side.peer).pending ++
        framesOf task.sid (tunnel.underway side).1 ∧
      (tunnel.underway side).2 = [] := by
  obtain ⟨inFlight, conveys⟩ := coherent.conveys side
  have underway : tunnel.underway side = (inFlight, []) := conveys.receiveData_eq
  rw [underway, ← coherent.sent_eq found, conveys.frames]
  exact ⟨by simp, rfl⟩

section Sessions

variable {side : Side} {chan peerChan : ChanId} {source sink : Task}

/-- A handler takes neither DATA nor CLOSE in its wait. -/
theorem Coherent.answers_control (coherent : tunnel.Coherent)
    (sends : (tunnel.ends side).tasks chan = some source)
    (receives : (tunnel.ends side.peer).tasks peerChan = some sink)
    (same_sid : sink.sid = source.sid) :
    ∀ frame ∈ sink.answers, frame.frameType ≠ .data ∧ frame.frameType ≠ .close := by
  have sound := (coherent.sound side.peer).tasks peerChan sink receives
  cases taken : sink.answers with
  | nil => simp
  | cons first rest =>
      have client : side.peer = .client := by
        by_contra server
        have serves : sink.side = .server := by
          rw [sound.side]
          cases side <;> simp_all [Side.peer]
        simp [sound.awaits.server serves] at taken
      have server : side = .server := by
        cases side with
        | client => cases client
        | server => rfl
      -- the first frame a client session takes is the first its server session has sent
      have dispatched : side.peer.dispatched source.sid (tunnel.inbound side.peer).handled =
          framesOf source.sid (tunnel.inbound side.peer).handled := by
        simp [Side.dispatched, client, Side.admits]
      have begins : first :: rest <+: source.sent := by
        calc
          first :: rest <+: (tunnel.ends side.peer).inbox peerChan sink := by
            simp [Endpoint.inbox, Task.taken, taken]
          _ <+: framesOf source.sid (tunnel.inbound side.peer).handled := by
            rw [← dispatched, ← same_sid]
            exact (coherent.delivers side.peer peerChan sink receives).1
          _ <+: source.sent := by
            rw [(coherent.sent_split sends).1, List.append_assoc]
            exact List.prefix_append _ _
      obtain ⟨more, sent⟩ := begins
      have sent : source.sent = first :: (rest ++ more) := sent.symm
      have sender := (coherent.sound side).tasks chan source sends
      have reply : first.frameType = .connectOk ∨ first.frameType = .connectErr := by
        have opens := (sender.phase.sent_cons sent).1
        rw [sender.side, server] at opens
        exact opens.imp_right And.right
      obtain rfl := (sound.awaits.reply first rest taken reply).1
      rcases reply with ok | err
      · simp [ok]
      · simp [err]

/-- As long as the relays of a TCP session are running, or the receiving end has not come to it
yet, the bytes read from the one stream are those written to the other and those in between, in this
order. -/
theorem streamConserved {linkMdu : ℕ+} {socks : FastSocks5} {filterConfig : FilterConfig}
    {link : LinkId}
    (reachable : Execution.Reachable (step linkMdu socks) (new filterConfig link) tunnel)
    (distinct : tunnel.DistinctIds) (sends : (tunnel.ends side).tasks chan = some source)
    (receives : (tunnel.ends side.peer).tasks peerChan = some sink)
    (same_sid : sink.sid = source.sid) {relay : Relay} (spawned : source.relay = some relay)
    (running : relay.Running) (listens : sink.Listens) :
    relay.taken =
        sink.written ++ sink.writerHand ++
          dataOf ((tunnel.ends side.peer).mux.channels peerChan) ++
          dataOf (framesOf source.sid (tunnel.inbound side.peer).pending) ++
          dataOf (framesOf source.sid (tunnel.underway side).1) ++ relay.reader.hand ∧
      (tunnel.underway side).2 = [] ∧ sink.written <+: relay.taken := by
  have coherent := coherent_of_reachable reachable distinct
  have sender := (coherent.sound side).tasks chan source sends
  have receiver := (coherent.sound side.peer).tasks peerChan sink receives
  obtain ⟨sent, nothing_left⟩ := coherent.sent_split sends
  have read := (sender.streams.relay relay spawned running.tcp).reads.exact running.reader
  have no_data : dataOf sink.answers = [] :=
    dataOf_eq_nil fun frame member =>
      (coherent.answers_control sends receives same_sid frame member).1
  have handled : dataOf (framesOf source.sid (tunnel.inbound side.peer).handled) =
      sink.written ++ sink.writerHand ++
        dataOf ((tunnel.ends side.peer).mux.channels peerChan) := by
    have registered := (coherent.sound side.peer).registered peerChan sink receives
      (receiver.running_of_listens listens)
    have delivered := (coherent.delivers side.peer peerChan sink receives).2 registered
    rw [← same_sid, ← Side.dataOf_dispatched side.peer, ← delivered, Endpoint.inbox, dataOf_append,
      receiver.dataOf_taken listens, no_data, List.nil_append]
  have conserved : relay.taken = sink.written ++ sink.writerHand ++
      dataOf ((tunnel.ends side.peer).mux.channels peerChan) ++
      dataOf (framesOf source.sid (tunnel.inbound side.peer).pending) ++
      dataOf (framesOf source.sid (tunnel.underway side).1) ++ relay.reader.hand := by
    calc
      relay.taken = dataOf source.sent ++ relay.reader.hand := read
      _ = _ := by rw [sent, dataOf_append, dataOf_append, handled]
  refine ⟨conserved, nothing_left, ?_⟩
  rw [conserved]
  simp only [List.append_assoc]
  exact List.prefix_append _ _

end Sessions

/-- The link sender at one end hands over a short frame, and the other end handles it. -/
def passFrame (side : Side) : List TunnelAct :=
  [.sender side .recv, .sender side .readLink, .sender side (.sent true), .deliver side.peer,
    .handle side.peer]

/-- A connection to a forwarded port is accepted, and the server opens the one it asks for. -/
def openSession : List TunnelAct :=
  [.accept (.forwardedTcp 80) 1, .session .client 0 .send] ++ passFrame .client ++
    [.session .server 0 (.resolved (some (.ip ⟨.v4 Ipv4Addr.LOCALHOST, 80⟩))),
      .session .server 0 (.opened none), .session .server 0 .send] ++
    passFrame .server ++ [.session .client 0 (.recv (some ⟨.connectOk, 1, []⟩))]

/-- The application sends five bytes in two pieces, and the server writes the first of them. -/
def partialTransfer : List TunnelAct :=
  openSession ++
    [.session .client 0 (.relay (.read ⟨.v4 Ipv4Addr.LOCALHOST, 4000⟩ [1, 2, 3])),
      .session .client 0 (.relay .readerSend),
      .session .client 0 (.relay (.read ⟨.v4 Ipv4Addr.LOCALHOST, 4000⟩ [4, 5]))] ++
    passFrame .client ++
    [.session .server 0 (.relay (.recv (some ⟨.data, 1, [1, 2, 3]⟩))),
      .session .server 0 (.relay (.wrote 1))]

/-- The other four bytes are in the hands of the writer and of the reader. -/
theorem streamConserved_partialTransfer :
    ∃ final source sink relay,
      Execution.run (step 431 .rfc1928) (new (serverConfig false false) 1) partialTransfer =
        some final ∧
      (final.ends .client).tasks 0 = some source ∧ (final.ends .server).tasks 0 = some sink ∧
      source.relay = some relay ∧ relay.taken = [1, 2, 3, 4, 5] ∧ sink.written = [1] ∧
      relay.taken =
        sink.written ++ sink.writerHand ++ dataOf ((final.ends .server).mux.channels 0) ++
          dataOf (framesOf source.sid (final.inbound .server).pending) ++
          dataOf (framesOf source.sid (final.underway .client).1) ++ relay.reader.hand := by
  have ends : ∃ final source sink relay sinkRelay,
      Execution.run (step 431 .rfc1928) (new (serverConfig false false) 1) partialTransfer =
        some final ∧
      (final.ends .client).tasks 0 = some source ∧ (final.ends .server).tasks 0 = some sink ∧
      sink.sid = source.sid ∧ source.relay = some relay ∧ sink.relay = some sinkRelay ∧
      (final.ends .client).mux.nextChan = 1 ∧ relay.taken = [1, 2, 3, 4, 5] ∧ sink.written = [1] ∧
      (relay.kind.isTcp && relay.reader != .finished && relay.writer != .finished &&
        sinkRelay.kind.isTcp && sinkRelay.reader != .finished &&
        sinkRelay.writer != .finished) = true :=
    ⟨_, _, _, _, _, rfl, rfl, rfl, rfl, rfl, rfl, rfl, rfl, rfl, rfl⟩
  obtain ⟨final, source, sink, relay, sinkRelay, execution, sends, receives, same_sid, spawned,
    spawned_sink, single, taken, written, running⟩ := ends
  simp only [Bool.and_eq_true, bne_iff_ne, ne_eq] at running
  obtain ⟨⟨⟨⟨⟨tcp, reader⟩, writer⟩, sink_tcp⟩, sink_reader⟩, sink_writer⟩ := running
  have reachable :
      Execution.Reachable (step 431 .rfc1928) (new (serverConfig false false) 1) final :=
    ⟨partialTransfer, execution⟩
  exact ⟨final, source, sink, relay, execution, sends, receives, spawned, taken, written,
    (streamConserved reachable (distinctIds_of_single reachable single) sends receives same_sid
      spawned ⟨tcp, reader, writer⟩
      (.inl ⟨sinkRelay, spawned_sink, sink_tcp, sink_reader, sink_writer⟩)).1⟩

end Tunnel

end RnsProxy
