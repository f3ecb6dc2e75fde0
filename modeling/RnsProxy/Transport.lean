import RnsProxy.Bookkeeping
import RnsProxy.Stages

/-!
# What a link carries

Between the send queue of one end of a link and the event loop of the other, a frame passes the link
sender, the link and the reassembly buffer. As long as the link is up, the frames that have entered
the queue are those that have been handled, those that have been decoded, and those whose bytes are
on the way.
-/

namespace RnsProxy

/-! ## Every frame fits the length field -/

/-- The payload a reader holds fits a frame. -/
def Relay.Short (relay : Relay) : Prop :=
  ∀ source payload, relay.reader = .holding source payload → payload.length ≤ 65535

/-- Everything a task is about to send fits a frame. -/
structure Task.Short (task : Task) : Prop where
  /-- The text of an error. -/
  refusing : ∀ payload, task.pc = .refusing payload → payload.length ≤ 65535
  /-- What the reader holds. -/
  relay : ∀ relay, task.relay = some relay → relay.Short

theorem FastSocks5.length_append_le {socks : FastSocks5} {addr : SocketAddr} {header data : Bytes}
    (wrapped : socks.newUdpHeader addr = some header) (read : data.length ≤ READ_BUFFER) :
    (header ++ data).length ≤ 65535 := by
  have header_length := socks.length_newUdpHeader addr header wrapped
  rw [READ_BUFFER] at read
  rw [List.length_append]
  omega

/-- What a reader makes of one read fits a frame. -/
theorem RelayKind.length_onRead {socks : FastSocks5} {kind : RelayKind} {source : SocketAddr}
    {data payload : Bytes} (read : data.length ≤ READ_BUFFER)
    (sends : (kind.program socks).onRead source data = .send payload) :
    payload.length ≤ 65535 := by
  have plain : data.length ≤ 65535 := read.trans (by decide)
  cases kind with
  | bidirectionalTcp =>
      cases sends
      exact plain
  | forwardedTcp =>
      cases sends
      exact plain
  | udpClientSide =>
      cases sends
      exact plain
  | udpServerSide config =>
      simp only [program, relayBidirectionalUdpServerSide] at sends
      split at sends
      · split at sends
        · cases sends
          exact FastSocks5.length_append_le ‹_› read
        · cases sends
      · cases sends
  | forwardedUdp serverPort =>
      simp only [program, relayForwardedUdp] at sends
      split at sends
      · cases sends
        exact FastSocks5.length_append_le ‹_› read
      · cases sends

theorem Relay.short_of_ne_holding {relay : Relay}
    (other : ∀ source payload, relay.reader ≠ .holding source payload) : relay.Short :=
  fun source payload holding => absurd holding (other source payload)

theorem Relay.Short.step {socks : FastSocks5} {sid : UInt32} {relay next : Relay} {act : RelayAct}
    {effect : Effect} (short : relay.Short) (taken : Relay.Step socks sid relay act next effect) :
    next.Short ∧ ∀ frame ∈ effect.frames, frame.Fits := by
  cases taken with
  | @read source available =>
      refine ⟨?_, by simp [Effect.frames]⟩
      rw [Relay.onRead]
      split
      · exact short_of_ne_holding (by simp)
      · intro other payload holding
        dsimp only at holding
        split at holding
        · cases holding
        · cases holding
        · rename_i sends
          cases holding
          exact RelayKind.length_onRead (List.length_take_le _ _) sends
  | readFailed => exact ⟨short_of_ne_holding (by simp), by simp [Effect.frames]⟩
  | @readerSend source payload holding =>
      refine ⟨short_of_ne_holding (by simp), fun frame sends => ?_⟩
      obtain rfl := List.mem_singleton.mp sends
      exact short source payload holding
  | @recvFrame frame =>
      obtain ⟨_, _, same⟩ := relay.onFrame_frame socks frame
      rw [same]
      exact ⟨short, by simp [Effect.frames]⟩
  | @resolved answer target data =>
      obtain ⟨_, _, same⟩ := relay.onResolved_frame socks answer data
      rw [same]
      exact ⟨short, by simp [Effect.frames]⟩
  | cancelReader => exact ⟨short_of_ne_holding (by simp), by simp [Effect.frames]⟩
  | _ => exact ⟨short, by simp [Effect.frames]⟩

namespace Task

theorem short_spawn (start : Start) (sid : UInt32) : (spawn start sid).Short :=
  ⟨by cases start <;> simp [spawn, Start.pc], fun relay spawned => by simp [spawn] at spawned⟩

theorem length_encodeConnectPayload (host : Host) (port : UInt16) (udp : Bool) :
    (encodeConnectPayload host.name port udp).length ≤ 65535 := by
  have short : host.name.toUTF8.data.size ≤ 255 := host.short
  simp only [encodeConnectPayload, beBytes16, List.length_append, List.length_cons,
    List.length_nil, Array.length_toList]
  omega

theorem Short.of_pendingSend {task next : Task} {frame : Frame} (short : task.Short)
    (pending : task.pendingSend = some (frame, next)) :
    frame.Fits ∧ ∀ payload, next.pc ≠ .refusing payload := by
  cases pendingSend_cases pending with
  | connect => exact ⟨length_encodeConnectPayload _ _ _, by simp⟩
  | @refuse payload refusing => exact ⟨short.refusing payload refusing, by simp⟩
  | confirm => exact ⟨Nat.zero_le _, by simp [startRelay]⟩
  | close => exact ⟨Nat.zero_le _, by simp⟩

theorem onReply_ne_refusing {task : Task} {flow : Flow} (waiting : task.pc = .waiting flow)
    (result : Option Frame) (payload : Bytes) :
    (task.onReply flow result).pc ≠ .refusing payload := by
  cases result with
  | none => cases flow <;> simp [onReply, connectFailed]
  | some frame =>
      simp only [onReply]
      split
      · cases flow <;> simp [connected, startRelay]
      · cases flow <;> simp [connectFailed]
      · simp [waiting]

theorem Short.step {socks : FastSocks5} {task next : Task} {act : TaskAct} {effect : Effect}
    (short : task.Short) (inTime : task.SpawnsInTime) (taken : Step socks task act next effect) :
    next.Short ∧ ∀ frame ∈ effect.frames, frame.Fits := by
  have relay : ∀ relay, next.relay = some relay → relay.Short := by
    intro relay spawned
    cases taken.relayChange inTime with
    | kept _ same => exact short.relay relay (same.symm.trans spawned)
    | spawned _ _ started =>
        obtain rfl := Option.some.inj (started.symm.trans spawned)
        exact Relay.short_of_ne_holding (by simp [Relay.start])
    | @select before _ found _ aborts =>
        obtain rfl := Option.some.inj (aborts.symm.trans spawned)
        exact short.relay before found
    | relay _ found taken later =>
        obtain rfl := Option.some.inj (later.symm.trans spawned)
        exact ((short.relay _ found).step taken).1
  cases taken with
  | @move act pc moves =>
      refine ⟨⟨fun payload refusing => ?_, relay⟩, by simp [Effect.frames]⟩
      cases (show pc = .refusing payload from refusing)
      generalize task.pc = before at moves
      cases moves with
      | @openFailed addr error => exact error.short
      | @serverBindFailed config error => exact error.short
  | @send frame after pending =>
      obtain ⟨fits, other⟩ := short.of_pendingSend pending
      exact ⟨⟨fun payload refusing => absurd refusing (other payload), relay⟩,
        by simpa [Effect.frames] using fits⟩
  | @reply flow result waiting =>
      exact ⟨⟨fun payload refusing => absurd refusing (onReply_ne_refusing waiting result payload),
        relay⟩, by simp [Effect.frames]⟩
  | @timeout flow =>
      refine ⟨⟨fun payload refusing => ?_, relay⟩, by simp [Effect.frames]⟩
      cases flow <;> simp [connectFailed] at refusing
  | @filtered answer addr config =>
      refine ⟨⟨fun payload refusing => ?_, relay⟩, by simp [Effect.frames]⟩
      rw [onFiltered] at refusing
      split at refusing
      · cases refusing
      · cases refusing
        decide
  | relay spawned taken =>
      exact ⟨⟨short.refusing, relay⟩, ((short.relay _ spawned).step taken).2⟩
  | _ => exact ⟨⟨by simp [startRelay], relay⟩, by simp [Effect.frames]⟩

end Task

/-! ## One direction of a link -/

/-- How far the event loop at the receiving end of a link has come. -/
structure Inbound where
  /-- The number of packets it has been given. -/
  delivered : ℕ
  /-- The frames of the last packet it has still to handle. -/
  pending : List Frame
  /-- History: the frames it has handled. -/
  handled : List Frame

/-- An event loop that has been given nothing. -/
def Inbound.new : Inbound where
  delivered := 0
  pending := []
  handled := []

/-- The bytes of the packets a link has taken and not yet delivered. -/
def Inbound.onLink (inbound : Inbound) (wire : List (LinkId × Bytes)) : Bytes :=
  (wire.drop inbound.delivered).flatMap Prod.snd

/-- The bytes of its frame a link sender has still to send. -/
def LinkSender.rest : LinkSender → Bytes
  | idle => []
  | picked out => out.frame.encode
  | sending _ _ rest => rest.flatten
  | failed _ _ => []

/-- The bytes in the send queue. -/
def Mux.queued (mux : Mux) : Bytes :=
  mux.dataSenderBuf.flatMap fun out => out.frame.encode

/-- The bytes between the reassembly buffer of one end and the sessions of the other. -/
def Mux.underway (out : Mux) (inbound : Inbound) : Bytes :=
  inbound.onLink out.wire ++ out.sender.rest ++ out.queued

/-- A link that is up conveys what enters the send queue: the frames are those that have been
handled or decoded, and those whose bytes are on the way. -/
structure Conveys (out : Mux) (recvBuf : Bytes) (inbound : Inbound) (inFlight : List Frame) :
    Prop where
  /-- The link sender has a link. -/
  active : out.linkId ≠ none
  /-- The link takes every packet. -/
  working : ∀ link held, out.sender ≠ .failed link held
  /-- Only packets the link has taken are delivered. -/
  delivered : inbound.delivered ≤ out.wire.length
  /-- Every frame fits. -/
  fits : ∀ frame ∈ inFlight, frame.Fits
  /-- The frames. -/
  frames : out.log.map Outgoing.frame = inbound.handled ++ inbound.pending ++ inFlight
  /-- The bytes of the frames on the way. -/
  bytes : recvBuf ++ out.underway inbound = inFlight.flatMap Frame.encode

namespace Conveys

theorem start (link : LinkId) : Conveys (Mux.new.setLinkId link) [] Inbound.new [] :=
  ⟨by simp [Mux.setLinkId], by simp [Mux.setLinkId, Mux.new], by simp [Inbound.new],
    by simp, rfl, rfl⟩

variable {out : Mux} {recvBuf : Bytes} {inbound : Inbound} {inFlight : List Frame}

/-- The bytes on the way are decoded to exactly the frames in flight. -/
theorem receiveData_eq (conveys : Conveys out recvBuf inbound inFlight) :
    receiveData recvBuf (out.underway inbound) = (inFlight, []) := by
  rw [receiveData, Framing.feed, conveys.bytes]
  exact Frame.code.drain_encodeAll conveys.fits

theorem senderStep {linkMdu : ℕ+} {next : Mux} {act : Mux.SenderAct}
    (conveys : Conveys out recvBuf inbound inFlight) (up : act ≠ .sent false)
    (taken : Mux.SenderStep linkMdu out act next) : Conveys next recvBuf inbound inFlight := by
  have onLink_append (link : LinkId) (chunk : Bytes) :
      inbound.onLink (out.wire ++ [(link, chunk)]) = inbound.onLink out.wire ++ chunk := by
    simp [Inbound.onLink, List.drop_append_of_le_length conveys.delivered]
  have delivered (link : LinkId) (chunk : Bytes) :
      inbound.delivered ≤ (out.wire ++ [(link, chunk)]).length := by
    simpa using conveys.delivered.trans (Nat.le_succ _)
  have bytes := conveys.bytes
  cases taken with
  | recv idle queued =>
      refine ⟨conveys.active, by simp, conveys.delivered, conveys.fits, conveys.frames, ?_⟩
      simpa [Mux.underway, Mux.queued, LinkSender.rest, idle, queued] using bytes
  | readLink picked =>
      refine ⟨conveys.active, by simp, conveys.delivered, conveys.fits, conveys.frames, ?_⟩
      simpa [Mux.underway, Mux.queued, LinkSender.rest, picked, linkChunks_flatten] using bytes
  | dropFrame _ inactive => exact absurd inactive conveys.active
  | sentLast sending =>
      refine ⟨conveys.active, by simp, delivered _ _, conveys.fits, conveys.frames, ?_⟩
      simpa [Mux.underway, Mux.queued, LinkSender.rest, sending, onLink_append] using bytes
  | sentChunk sending =>
      refine ⟨conveys.active, by simp, delivered _ _, conveys.fits, conveys.frames, ?_⟩
      simpa [Mux.underway, Mux.queued, LinkSender.rest, sending, onLink_append] using bytes
  | sendFailed => exact absurd rfl up
  | clearLink failed => exact absurd failed (conveys.working _ _)

/-- A frame that enters the send queue is on the way. -/
theorem enqueue (conveys : Conveys out recvBuf inbound inFlight) {entry : Outgoing}
    (fits : entry.frame.Fits) :
    Conveys { out with dataSenderBuf := out.dataSenderBuf ++ [entry], log := out.log ++ [entry] }
      recvBuf inbound (inFlight ++ [entry.frame]) where
  active := conveys.active
  working := conveys.working
  delivered := conveys.delivered
  fits frame member := by
    rcases List.mem_append.mp member with old | new
    · exact conveys.fits frame old
    · exact List.mem_singleton.mp new ▸ fits
  frames := by simp [conveys.frames]
  bytes := by
    have queued : Mux.underway
        { out with dataSenderBuf := out.dataSenderBuf ++ [entry], log := out.log ++ [entry] }
        inbound = out.underway inbound ++ entry.frame.encode := by
      simp [Mux.underway, Mux.queued]
    rw [queued, ← List.append_assoc, conveys.bytes]
    simp

theorem of_same (conveys : Conveys out recvBuf inbound inFlight) {next : Mux}
    (linkId : next.linkId = out.linkId) (sender : next.sender = out.sender)
    (wire : next.wire = out.wire) (queue : next.dataSenderBuf = out.dataSenderBuf)
    (log : next.log = out.log) : Conveys next recvBuf inbound inFlight := by
  obtain ⟨active, working, delivered, fits, frames, bytes⟩ := conveys
  refine ⟨linkId ▸ active, sender ▸ working, wire ▸ delivered, fits, log ▸ frames, ?_⟩
  simpa [Mux.underway, Mux.queued, sender, wire, queue] using bytes

/-- A packet is delivered, and its complete frames are decoded. -/
theorem deliver (conveys : Conveys out recvBuf inbound inFlight) (idle : inbound.pending = [])
    {link : LinkId} {packet : Bytes} (next : out.wire[inbound.delivered]? = some (link, packet)) :
    ∃ later,
      Conveys out (receiveData recvBuf packet).2
        { inbound with
          delivered := inbound.delivered + 1
          pending := (receiveData recvBuf packet).1 }
        later := by
  obtain ⟨bound, at_front⟩ := List.getElem?_eq_some_iff.mp next
  have onLink : inbound.onLink out.wire =
      packet ++ Inbound.onLink { inbound with delivered := inbound.delivered + 1 } out.wire := by
    simp [Inbound.onLink, List.drop_eq_getElem_cons bound, at_front]
  have stream : Frame.code.encodeAll inFlight = (recvBuf ++ packet) ++
      out.underway { inbound with delivered := inbound.delivered + 1 } := by
    rw [Frame.encodeAll_code, ← conveys.bytes]
    simp [Mux.underway, onLink]
  obtain ⟨done, later, tail, arrived, drained, remaining⟩ :=
    Frame.code.drain_of_prefix conveys.fits stream
  have received : receiveData recvBuf packet = (done, tail) := drained
  refine ⟨later, ?_⟩
  rw [received]
  exact
    { active := conveys.active
      working := conveys.working
      delivered := bound
      fits := fun frame member => conveys.fits frame (by simp [arrived.split, member])
      frames := by simp [conveys.frames, idle, arrived.split]
      bytes := remaining.symm }

/-- A frame is handled. -/
theorem handle (conveys : Conveys out recvBuf inbound inFlight) {frame : Frame} {rest : List Frame}
    (decoded : inbound.pending = frame :: rest) :
    Conveys out recvBuf { inbound with pending := rest, handled := inbound.handled ++ [frame] }
      inFlight :=
  ⟨conveys.active, conveys.working, conveys.delivered, conveys.fits,
    by simp [conveys.frames, decoded], conveys.bytes⟩

end Conveys

end RnsProxy
