import RnsProxy.Conservation

/-!
# What an orderly close delivers

When either direction of a TCP relay finishes, the relay aborts the other one, sends CLOSE and drops
the session. An end that learns of the close from the other end has written everything that was sent
to it before. An end whose own stream has come to its end may discard what it has not yet written.
-/

namespace RnsProxy

/-- The bytes of the DATA frames before the first CLOSE. -/
def dataBeforeClose (frames : List Frame) : Bytes :=
  dataOf (frames.takeWhile fun frame => frame.frameType != .close)

theorem dataBeforeClose_append {front : List Frame}
    (not_closed : ∀ frame ∈ front, frame.frameType ≠ .close) (back : List Frame) :
    dataBeforeClose (front ++ back) = dataOf front ++ dataBeforeClose back := by
  simp only [dataBeforeClose]
  rw [List.takeWhile_append_of_pos (by simpa using not_closed), dataOf_append]

theorem dataBeforeClose_close {close : Frame} (closes : close.frameType = .close)
    (back : List Frame) : dataBeforeClose (close :: back) = [] := by
  simp [dataBeforeClose, closes]

/-- Frames other than DATA and CLOSE do not matter. -/
theorem dataBeforeClose_filter {keep : Frame → Bool}
    (kept : ∀ frame, frame.frameType = .data ∨ frame.frameType = .close → keep frame = true)
    (frames : List Frame) : dataBeforeClose (frames.filter keep) = dataBeforeClose frames := by
  induction frames with
  | nil => rfl
  | cons frame frames ih =>
      by_cases closes : frame.frameType = .close
      · rw [List.filter_cons_of_pos (kept frame (.inr closes)), dataBeforeClose_close closes,
          dataBeforeClose_close closes]
      · have single : ∀ other ∈ [frame], other.frameType ≠ .close := by simpa using closes
        have unfold_cons (rest : List Frame) :
            dataBeforeClose (frame :: rest) = dataOf [frame] ++ dataBeforeClose rest :=
          dataBeforeClose_append single rest
        cases keeps : keep frame with
        | true => rw [List.filter_cons_of_pos keeps, unfold_cons, unfold_cons, ih]
        | false =>
            have control : frame.frameType ≠ .data := by
              intro data
              simp [kept frame (.inl data)] at keeps
            rw [List.filter_cons_of_neg (by simp [keeps]), unfold_cons, ih,
              dataOf_eq_nil (by simpa using control), List.nil_append]

theorem Side.dataBeforeClose_filter_admits (side : Side) (frames : List Frame) :
    dataBeforeClose (frames.filter side.admits) = dataBeforeClose frames := by
  refine dataBeforeClose_filter (fun frame carries => ?_) frames
  cases side with
  | client => rfl
  | server => rcases carries with data | closes <;> simp [admits, *]

/-- A TCP writer that has ended without an error has stopped at a frame, unless its own stream has
come to its end. -/
theorem Relay.Streams.stopped {relay : Relay} {sent : Bytes} {relaying : Prop}
    (streams : relay.Streams sent relaying) (finished : relay.writer = .finished)
    (no_error : relay.failed = false) (open_ : relay.sawEof = false) : relay.Stopped := by
  rcases streams.reason_of_finished (.inr finished) with sawEof | failed | stopped
  · simp [open_] at sawEof
  · simp [no_error] at failed
  · exact stopped

namespace Tunnel

variable {tunnel : Tunnel} {side : Side} {chan peerChan : ChanId} {source sink : Task}

/-- What a session has taken is what the session at the other end has sent, as far as its event loop
admits it. -/
theorem Coherent.taken_isPrefix (coherent : tunnel.Coherent)
    (sends : (tunnel.ends side).tasks chan = some source)
    (receives : (tunnel.ends side.peer).tasks peerChan = some sink)
    (same_sid : sink.sid = source.sid) :
    sink.taken <+: source.sent.filter side.peer.admits := by
  calc
    sink.taken <+: (tunnel.ends side.peer).inbox peerChan sink := List.prefix_append _ _
    _ <+: side.peer.dispatched sink.sid (tunnel.inbound side.peer).handled :=
      (coherent.delivers side.peer peerChan sink receives).1
    _ <+: source.sent.filter side.peer.admits := by
      rw [(coherent.sent_split sends).1, same_sid, List.append_assoc, List.filter_append]
      exact List.prefix_append _ _

/-- In every run, and for every TCP session with an id of its own whose writer has ended without an
error, what has been written is the beginning of what the other end sent before its CLOSE. It is all
of it if the writer's own stream has not come to its end, or if the writer has taken the CLOSE. -/
theorem orderlyClose {linkMdu : ℕ+} {socks : FastSocks5} {filterConfig : FilterConfig}
    {link : LinkId}
    (reachable : Execution.Reachable (step linkMdu socks) (new filterConfig link) tunnel)
    (distinct : tunnel.DistinctIds) (sends : (tunnel.ends side).tasks chan = some source)
    (receives : (tunnel.ends side.peer).tasks peerChan = some sink)
    (same_sid : sink.sid = source.sid) {relay sinkRelay : Relay}
    (spawned : source.relay = some relay) (spawned_sink : sink.relay = some sinkRelay)
    (tcp : sinkRelay.kind.isTcp = true) (finished : sinkRelay.writer = .finished)
    (no_error : sinkRelay.failed = false) :
    sinkRelay.written <+: dataBeforeClose source.sent ∧
      (sinkRelay.sawEof = false ∨
          (∃ close ∈ sinkRelay.received, close.frameType = .close) →
        sinkRelay.written = dataBeforeClose source.sent) := by
  have coherent := coherent_of_reachable reachable distinct
  have sender := (coherent.sound side).tasks chan source sends
  have streams := ((coherent.sound side.peer).tasks peerChan sink receives).streams.relay sinkRelay
    spawned_sink tcp
  obtain ⟨rest, split⟩ := coherent.taken_isPrefix sends receives same_sid
  have split :
      source.sent.filter side.peer.admits = sink.answers ++ (sinkRelay.received ++ rest) := by
    simp [← split, Task.taken, spawned_sink]
  have control := coherent.answers_control sends receives same_sid
  have sent : dataBeforeClose source.sent = dataBeforeClose (sinkRelay.received ++ rest) := by
    rw [← side.peer.dataBeforeClose_filter_admits, split,
      dataBeforeClose_append fun frame member => (control frame member).2,
      dataOf_eq_nil fun frame member => (control frame member).1, List.nil_append]
  have closed (stopped : sinkRelay.Stopped) : sinkRelay.written = dataBeforeClose source.sent := by
    obtain ⟨front, stop, received, before, written⟩ := streams.writes.stopped stopped
    have member : stop ∈ source.sent := by
      have listed : stop ∈ source.sent.filter side.peer.admits := by simp [split, received]
      exact List.mem_of_mem_filter listed
    have closes : stop.frameType = .close := by
      obtain ⟨other, other_member, stops⟩ := stopped
      have stops : stop.Stops := by
        rw [received] at other_member
        rcases List.mem_append.mp other_member with earlier | last
        · exact absurd stops (before other earlier)
        · exact List.mem_singleton.mp last ▸ stops
      exact stops.resolve_right (sender.phase.not_connectErr spawned stop member)
    rw [sent, received, List.append_assoc, dataBeforeClose_append fun frame earlier same =>
      before frame earlier (.inl same), List.singleton_append, dataBeforeClose_close closes,
      List.append_nil, written]
  constructor
  · by_cases stopped : sinkRelay.Stopped
    · rw [closed stopped]
    · rw [sent, dataBeforeClose_append fun frame member same => stopped ⟨frame, member, .inl same⟩]
      exact streams.writes.isPrefix.trans (List.prefix_append _ _)
  · rintro (open_ | ⟨close, member, closes⟩)
    · exact closed (streams.stopped finished no_error open_)
    · exact closed ⟨close, member, .inl closes⟩

/-- Once the relay tasks of a TCP session have ended at both ends without an error, each end has
written every byte the other end sent as DATA before its CLOSE. -/
def LosesNothing (tunnel : Tunnel) : Prop :=
  ∀ side chan peerChan source sink relay sinkRelay, (tunnel.ends side).tasks chan = some source →
    (tunnel.ends side.peer).tasks peerChan = some sink → sink.sid = source.sid →
    source.relay = some relay → sink.relay = some sinkRelay → relay.kind.isTcp = true →
    sinkRelay.kind.isTcp = true → relay.reader = .finished → relay.writer = .finished →
    sinkRelay.reader = .finished → sinkRelay.writer = .finished → relay.failed = false →
    sinkRelay.failed = false → sinkRelay.written = dataBeforeClose source.sent

/-- The target has sent a byte when the application, after three bytes of its own, closes its
sending side. -/
def halfClose : List TunnelAct :=
  openSession ++
    [.session .server 0 (.relay (.read ⟨.v4 Ipv4Addr.LOCALHOST, 80⟩ [9])),
      .session .server 0 (.relay .readerSend),
      .session .client 0 (.relay (.read ⟨.v4 Ipv4Addr.LOCALHOST, 4000⟩ [1, 2, 3])),
      .session .client 0 (.relay .readerSend),
      .session .client 0 (.relay (.read ⟨.v4 Ipv4Addr.LOCALHOST, 4000⟩ [])),
      .session .client 0 .select, .session .client 0 (.relay .cancelWriter),
      .session .client 0 .send] ++
    passFrame .client ++ passFrame .client ++
    [.session .server 0 (.relay (.recv (some ⟨.data, 1, [1, 2, 3]⟩))),
      .session .server 0 (.relay (.wrote 3)), .session .server 0 (.relay .writeDone),
      .session .server 0 (.relay (.recv (some ⟨.close, 1, []⟩))), .session .server 0 .select,
      .session .server 0 (.relay .cancelReader)]

/-- The byte of the target is never written. -/
theorem not_losesNothing_halfClose :
    ∃ final,
      Execution.run (step 431 .rfc1928) (new (serverConfig false false) 1) halfClose = some final ∧
      final.DistinctIds ∧ ¬ final.LosesNothing := by
  have ends : ∃ final source sink relay sinkRelay,
      Execution.run (step 431 .rfc1928) (new (serverConfig false false) 1) halfClose = some final ∧
      (final.ends .server).tasks 0 = some source ∧ (final.ends .client).tasks 0 = some sink ∧
      sink.sid = source.sid ∧ source.relay = some relay ∧ sink.relay = some sinkRelay ∧
      relay.kind.isTcp = true ∧ sinkRelay.kind.isTcp = true ∧ relay.reader = .finished ∧
      relay.writer = .finished ∧ sinkRelay.reader = .finished ∧ sinkRelay.writer = .finished ∧
      relay.failed = false ∧ sinkRelay.failed = false ∧ (final.ends .client).mux.nextChan = 1 ∧
      sinkRelay.written = [] ∧ source.sent = [⟨.connectOk, 1, []⟩, ⟨.data, 1, [9]⟩] :=
    ⟨_, _, _, _, _, rfl, rfl, rfl, rfl, rfl, rfl, rfl, rfl, rfl, rfl, rfl, rfl, rfl, rfl, rfl, rfl,
      rfl⟩
  obtain ⟨final, source, sink, relay, sinkRelay, execution, sends, receives, same_sid, spawned,
    spawned_sink, tcp, sink_tcp, reader, writer, sink_reader, sink_writer, no_error, sink_no_error,
    single, written, sent⟩ := ends
  refine ⟨final, execution, distinctIds_of_single ⟨halfClose, execution⟩ single, fun lossless => ?_⟩
  have all := lossless .server 0 0 source sink relay sinkRelay sends receives same_sid spawned
    spawned_sink tcp sink_tcp reader writer sink_reader sink_writer no_error sink_no_error
  simp [written, sent, dataBeforeClose, dataOf] at all

/-- The bytes of the application are. -/
theorem orderlyClose_halfClose :
    ∃ final source sink sinkRelay,
      Execution.run (step 431 .rfc1928) (new (serverConfig false false) 1) halfClose = some final ∧
      (final.ends .client).tasks 0 = some source ∧ (final.ends .server).tasks 0 = some sink ∧
      sink.relay = some sinkRelay ∧ sinkRelay.written = [1, 2, 3] ∧
      sinkRelay.written = dataBeforeClose source.sent := by
  have ends : ∃ final source sink relay sinkRelay,
      Execution.run (step 431 .rfc1928) (new (serverConfig false false) 1) halfClose = some final ∧
      (final.ends .client).tasks 0 = some source ∧ (final.ends .server).tasks 0 = some sink ∧
      sink.sid = source.sid ∧ source.relay = some relay ∧ sink.relay = some sinkRelay ∧
      sinkRelay.kind.isTcp = true ∧ sinkRelay.writer = .finished ∧ sinkRelay.failed = false ∧
      sinkRelay.sawEof = false ∧ (final.ends .client).mux.nextChan = 1 ∧
      sinkRelay.written = [1, 2, 3] :=
    ⟨_, _, _, _, _, rfl, rfl, rfl, rfl, rfl, rfl, rfl, rfl, rfl, rfl, rfl, rfl⟩
  obtain ⟨final, source, sink, relay, sinkRelay, execution, sends, receives, same_sid, spawned,
    spawned_sink, tcp, finished, no_error, open_, single, written⟩ := ends
  have reachable :
      Execution.Reachable (step 431 .rfc1928) (new (serverConfig false false) 1) final :=
    ⟨halfClose, execution⟩
  exact ⟨final, source, sink, sinkRelay, execution, sends, receives, spawned_sink, written,
    (orderlyClose reachable (distinctIds_of_single reachable single) sends receives same_sid spawned
      spawned_sink tcp finished no_error).2 (.inl open_)⟩

end Tunnel

end RnsProxy
