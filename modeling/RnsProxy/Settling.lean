import Mathlib.Algebra.Order.BigOperators.Group.List
import Mathlib.Algebra.Order.Group.Nat
import RnsProxy.Draining
import RnsProxy.SessionTable

/-!
# Sessions that settle

Left without new input from its stream or socket, a session does not go on for ever: a handler
passes each of its `await`s once, a reader sends what it has in its hand, and a writer takes what
the other end has sent and is done with it. What either task of a session may do, and what the
transport then has to do, is bounded from the start.
-/

namespace RnsProxy

/-- The steps of a session task other than reading from its stream, socket or control connection. -/
def TaskAct.Settles : TaskAct → Prop
  | relay (.read _ _) => False
  | relay (.watched _) => False
  | _ => True

/-! ## What a writer heeds -/

/-- A writer resolves names only for the UDP relay of the server, and ends at CLOSE. -/
structure Relay.Heeds (relay : Relay) : Prop where
  /-- The resolver is asked for UDP targets. -/
  resolving : ∀ target data, relay.writer = .resolving target data →
    ∃ config, relay.kind = .udpServerSide config
  /-- No frame is taken after CLOSE. -/
  close : (∃ frame ∈ relay.received, frame.frameType = .close) → relay.writer = .finished

namespace RelayKind

/-- Every relay stops at CLOSE. -/
theorem onFrame_close (socks : FastSocks5) (kind : RelayKind) (clientLocalPort : Option UInt16)
    {frame : Frame} (closes : frame.frameType = .close) :
    (kind.program socks).onFrame clientLocalPort frame = .stop := by
  cases kind <;>
    simp [program, relayBidirectionalTcp, relayForwardedTcp, tcpRelayProgram,
      relayBidirectionalUdpClientSide, relayBidirectionalUdpServerSide, relayForwardedUdp, closes]

/-- A relay writes the payload of a frame. -/
theorem onFrame_write {socks : FastSocks5} {kind : RelayKind} {clientLocalPort : Option UInt16}
    {frame : Frame} {data : Bytes}
    (writes : (kind.program socks).onFrame clientLocalPort frame = .write data) :
    data = frame.payload := by
  cases kind with
  | bidirectionalTcp =>
      simp only [program, relayBidirectionalTcp, tcpRelayProgram] at writes
      split at writes <;> cases writes
      rfl
  | forwardedTcp =>
      simp only [program, relayForwardedTcp, tcpRelayProgram] at writes
      split at writes <;> cases writes
      rfl
  | udpClientSide =>
      simp only [program, relayBidirectionalUdpClientSide] at writes
      split at writes
      · split at writes <;> cases writes
      all_goals cases writes
  | udpServerSide config =>
      simp only [program, relayBidirectionalUdpServerSide] at writes
      split at writes
      · split at writes <;> cases writes
      all_goals cases writes
  | forwardedUdp serverPort =>
      simp only [program, relayForwardedUdp] at writes
      split at writes
      · split at writes <;> cases writes
      all_goals cases writes

/-- Only the UDP relay of the server resolves targets. -/
theorem onFrame_resolve {socks : FastSocks5} {kind : RelayKind} {clientLocalPort : Option UInt16}
    {frame : Frame} {target : TargetAddr} {data : Bytes}
    (resolves : (kind.program socks).onFrame clientLocalPort frame = .resolve target data) :
    ∃ config, kind = .udpServerSide config := by
  cases kind with
  | bidirectionalTcp =>
      simp only [program, relayBidirectionalTcp, tcpRelayProgram] at resolves
      split at resolves <;> cases resolves
  | forwardedTcp =>
      simp only [program, relayForwardedTcp, tcpRelayProgram] at resolves
      split at resolves <;> cases resolves
  | udpClientSide =>
      simp only [program, relayBidirectionalUdpClientSide] at resolves
      split at resolves
      · split at resolves <;> cases resolves
      all_goals cases resolves
  | udpServerSide config => exact ⟨config, rfl⟩
  | forwardedUdp serverPort =>
      simp only [program, relayForwardedUdp] at resolves
      split at resolves
      · split at resolves <;> cases resolves
      all_goals cases resolves

end RelayKind

namespace Relay

variable {socks : FastSocks5} {sid : UInt32} {relay next : Relay} {act : RelayAct} {effect : Effect}

theorem heeds_start (kind : RelayKind) : (start kind).Heeds :=
  ⟨by simp [start], by simp [start]⟩

theorem Heeds.of_same (heeds : relay.Heeds) (kind : next.kind = relay.kind)
    (received : next.received = relay.received)
    (resolving : ∀ target data, next.writer = .resolving target data →
      relay.writer = .resolving target data)
    (finished : relay.writer = .finished → next.writer = .finished) : next.Heeds :=
  ⟨fun target data waits => kind ▸ heeds.resolving target data (resolving target data waits),
    fun closed => finished (heeds.close (received ▸ closed))⟩

theorem Heeds.onFrame (heeds : relay.Heeds) (receiving : relay.writer = .receiving)
    (frame : Frame) : (relay.onFrame socks frame).Heeds := by
  have open_ : ¬ ∃ frame ∈ relay.received, frame.frameType = .close := by
    intro closed
    simp [heeds.close closed] at receiving
  have closes (closed : ∃ other ∈ relay.received ++ [frame], other.frameType = .close) :
      (relay.kind.program socks).onFrame relay.clientLocalPort frame = .stop := by
    obtain ⟨other, member, close⟩ := closed
    rcases List.mem_append.mp member with old | new
    · exact absurd ⟨other, old, close⟩ open_
    · exact RelayKind.onFrame_close socks relay.kind _ (List.mem_singleton.mp new ▸ close)
  rw [Relay.onFrame]
  split
  · exact ⟨by simp, fun _ => rfl⟩
  all_goals rename_i outcome
  · exact ⟨by simp [receiving], fun closed => by simp [closes closed] at outcome⟩
  · exact ⟨by simp, fun closed => by simp [closes closed] at outcome⟩
  · exact ⟨by simp, fun closed => by simp [closes closed] at outcome⟩
  · exact ⟨fun _ _ _ => RelayKind.onFrame_resolve outcome,
      fun closed => by simp [closes closed] at outcome⟩

theorem Heeds.step (heeds : relay.Heeds) (taken : Step socks sid relay act next effect) :
    next.Heeds := by
  have finished := taken.writer_finished
  cases taken with
  | @read source available =>
      obtain ⟨_, _, _, _, _, same⟩ := relay.onRead_frame socks source (available.take READ_BUFFER)
      rw [same]
      exact heeds.of_same rfl rfl (fun _ _ => id) id
  | recvFrame receiving => exact heeds.onFrame receiving _
  | @resolved answer target data resolving =>
      obtain ⟨config, kind⟩ := heeds.resolving target data resolving
      have same : relay.kind.program socks = relayBidirectionalUdpServerSide socks config := by
        rw [kind]
        rfl
      rw [onResolved, same]
      dsimp only [relayBidirectionalUdpServerSide]
      split
      · exact heeds.of_same rfl rfl (by simp) (by simp [resolving])
      · exact heeds.of_same rfl rfl (by simp) (by simp [resolving])
  | readFailed => exact heeds.of_same rfl rfl (fun _ _ => id) id
  | readerSend => exact heeds.of_same rfl rfl (fun _ _ => id) id
  | watched => exact heeds.of_same rfl rfl (fun _ _ => id) id
  | cancelReader => exact heeds.of_same rfl rfl (fun _ _ => id) id
  | _ => exact heeds.of_same rfl rfl (by simp) finished

end Relay

/-! ## What holds of every session task -/

namespace Task

variable {socks : FastSocks5} {task next : Task} {act : TaskAct} {effect : Effect}

/-- A handler that waits for its relay has spawned it. -/
def Spawned (task : Task) : Prop :=
  task.pc = .relaying → task.relay ≠ none

theorem spawned_spawn (start : Start) (sid : UInt32) : (spawn start sid).Spawned := by
  cases start <;> simp [Spawned, spawn, Start.pc]

theorem spawned_connected (task : Task) (flow : Flow) : (task.connected flow).Spawned := by
  cases flow <;> simp [Spawned, connected, startRelay]

theorem spawned_connectFailed (task : Task) (why : WaitFailure) (flow : Flow) :
    (task.connectFailed why flow).Spawned := by
  cases flow <;> simp [Spawned, connectFailed]

theorem Spawned.step (spawned : task.Spawned) (taken : Step socks task act next effect) :
    next.Spawned := by
  cases taken with
  | @move act pc moves =>
      intro relaying
      cases (show pc = .relaying from relaying)
      generalize task.pc = before at moves
      cases moves
  | send pending => cases pendingSend_cases pending <;> simp [Spawned, startRelay]
  | @reply flow result waiting =>
      cases result with
      | none => exact spawned_connectFailed task .channelClosed flow
      | some frame =>
          simp only [onReply]
          split
          · exact spawned_connected _ flow
          · exact spawned_connectFailed _ .connectErr flow
          · exact spawned
  | @timeout flow => exact spawned_connectFailed task .timeout flow
  | replied => simp [Spawned, startRelay]
  | filtered =>
      simp only [Spawned, onFiltered]
      split <;> simp
  | select => simp [Spawned]
  | dropSession => simp [Spawned]
  | relay => simp [Spawned]

/-- A handler that has left its TCP relay has aborted it. -/
def Aborts (task : Task) : Prop :=
  task.pc ≠ .relaying → ∀ relay, task.relay = some relay → relay.kind.isTcp = true →
    relay.aborted = true

theorem Aborts.step (aborts : task.Aborts) (inTime : task.SpawnsInTime)
    (taken : Step socks task act next effect) : next.Aborts := by
  intro aside relay spawned tcp
  cases taken.relayChange inTime with
  | kept before same => exact aborts before relay (same.symm.trans spawned) tcp
  | spawned _ relaying => exact absurd relaying aside
  | @select before _ found _ later =>
      obtain rfl := Option.some.inj (later.symm.trans spawned)
      have tcp : before.kind.isTcp = true := tcp
      simp [RelayKind.program_of_isTcp socks tcp, tcpRelayProgram]
  | @relay _ before _ _ found taken later same_pc =>
      obtain rfl := Option.some.inj (later.symm.trans spawned)
      rw [taken.same_kind.1] at tcp
      exact taken.same_kind.2 ▸ aborts (same_pc ▸ aside) before found tcp

/-- What holds of every session task in every run. -/
structure Regular (task : Task) : Prop where
  /-- The relay is spawned in time. -/
  inTime : task.SpawnsInTime
  /-- A handler that waits for its relay has spawned it. -/
  spawned : task.Spawned
  /-- A handler that has left its TCP relay has aborted it. -/
  aborts : task.Aborts
  /-- What the task sends fits a frame. -/
  short : task.Short
  /-- The relay heeds CLOSE. -/
  heeds : ∀ relay, task.relay = some relay → relay.Heeds

theorem regular_spawn (start : Start) (sid : UInt32) : (spawn start sid).Regular where
  inTime := spawnsInTime_spawn start sid
  spawned := spawned_spawn start sid
  aborts _ relay spawned := by simp [spawn] at spawned
  short := short_spawn start sid
  heeds relay spawned := by simp [spawn] at spawned

theorem Regular.step (regular : task.Regular) (taken : Step socks task act next effect) :
    next.Regular where
  inTime := regular.inTime.step taken
  spawned := regular.spawned.step taken
  aborts := regular.aborts.step regular.inTime taken
  short := (regular.short.step regular.inTime taken).1
  heeds relay spawned := by
    cases taken.relayChange regular.inTime with
    | kept _ same => exact regular.heeds relay (same.symm.trans spawned)
    | spawned _ _ started =>
        obtain rfl := Option.some.inj (started.symm.trans spawned)
        exact Relay.heeds_start _
    | @select before _ found _ later =>
        obtain rfl := Option.some.inj (later.symm.trans spawned)
        exact (regular.heeds before found).of_same rfl rfl (fun _ _ => id) id
    | relay _ found taken later =>
        obtain rfl := Option.some.inj (later.symm.trans spawned)
        exact (regular.heeds _ found).step taken

theorem relay_of_abandons (inTime : task.SpawnsInTime) (abandons : task.Abandons act) :
    task.relay = none := by
  refine inTime ?_
  simp only [Abandons] at abandons
  split at abandons <;> simp_all [Pc.stage]

end Task

/-! ## What a session may still do -/

/-- What a session has to do for the frames it takes. -/
def readWork (frames : List Frame) : ℕ :=
  (frames.map fun frame => 3 + frame.payload.length).sum

/-- What the transport and the session at the other end have to do for some frames. -/
def sentWork (linkMdu : ℕ+) (frames : List Frame) : ℕ :=
  (frames.map fun frame => 2 + chunksWork (linkChunks linkMdu frame)).sum + readWork frames

/-- The work with a frame of the largest payload. -/
def FRAME_WORK : ℕ := 5 + 3 * HDR_SIZE + 4 * 65535

theorem readWork_append (front back : List Frame) :
    readWork (front ++ back) = readWork front + readWork back := by
  simp [readWork]

theorem readWork_le_of_sublist {front back : List Frame} (sublist : front.Sublist back) :
    readWork front ≤ readWork back :=
  (sublist.map _).sum_le_sum fun _ _ => Nat.zero_le _

theorem chunksWork_eq (chunks : List Bytes) :
    chunksWork chunks = 2 * chunks.length + chunks.flatten.length := by
  induction chunks with
  | nil => rfl
  | cons chunk chunks ih =>
      have cons : chunksWork (chunk :: chunks) = 1 + packetWork chunk + chunksWork chunks := rfl
      rw [cons, ih, packetWork, List.length_cons, List.flatten_cons, List.length_append]
      omega

theorem sentWork_singleton_le (linkMdu : ℕ+) {frame : Frame} (fits : frame.Fits) :
    sentWork linkMdu [frame] ≤ FRAME_WORK := by
  have count : (linkChunks linkMdu frame).length ≤ HDR_SIZE + frame.payload.length := by
    rw [← Frame.length_encode]
    exact Framing.length_chunks_le linkMdu frame.encode
  have total : (linkChunks linkMdu frame).flatten.length = HDR_SIZE + frame.payload.length := by
    rw [linkChunks_flatten, Frame.length_encode]
  have short : frame.payload.length ≤ 65535 := fits
  have bound : FRAME_WORK = 5 + 3 * HDR_SIZE + 4 * 65535 := rfl
  simp only [sentWork, readWork, List.map_cons, List.map_nil, List.sum_cons, List.sum_nil,
    chunksWork_eq]
  omega

/-- The `await`s a handler may still pass. -/
def Pc.awaits : Pc → ℕ
  | handshake => 9
  | readCommand => 8
  | connecting _ _ _ => 7
  | waiting _ => 6
  | binding _ => 5
  | replying _ => 4
  | replyingFailure _ => 2
  | replyingUnsupported => 1
  | filtering _ _ => 6
  | opening _ => 5
  | serverBinding _ => 5
  | refusing _ => 2
  | confirming _ => 4
  | relaying => 3
  | closing _ => 2
  | dropping _ => 1
  | ended _ => 0

/-- What a reader may still do. -/
def Reader.remaining : Reader → ℕ
  | reading => 1
  | holding _ _ => 2 + FRAME_WORK
  | finished => 0

/-- What a writer may still do before it takes another frame. -/
def Writer.remaining : Writer → ℕ
  | receiving => 1
  | writing rest => 2 + rest.length
  | sending => 2
  | resolving _ _ => 3
  | finished => 0

/-- What the tasks of a relay may still do. -/
def Relay.remaining (relay : Relay) : ℕ :=
  relay.reader.remaining + relay.writer.remaining

/-- What a session task may still do. -/
def Task.remaining (task : Task) : ℕ :=
  (3 + FRAME_WORK) * task.pc.awaits + task.relay.elim 0 Relay.remaining

theorem sentWork_frames_le (linkMdu : ℕ+) {effect : Effect}
    (fits : ∀ frame ∈ effect.frames, frame.Fits) : sentWork linkMdu effect.frames ≤ FRAME_WORK := by
  cases effect with
  | send frame => exact sentWork_singleton_le linkMdu (fits frame (by simp [Effect.frames]))
  | _ => simp [Effect.frames, sentWork, readWork]

namespace Relay

variable {socks : FastSocks5} {sid : UInt32} {relay next : Relay} {act : RelayAct} {effect : Effect}

theorem remaining_onFrame (socks : FastSocks5) (receiving : relay.writer = .receiving)
    (frame : Frame) :
    (relay.onFrame socks frame).writer.remaining ≤ 3 + frame.payload.length := by
  rw [onFrame]
  split
  · simp [Writer.remaining]
  · simp [Writer.remaining, receiving]
    omega
  · rename_i writes
    simp [Writer.remaining, RelayKind.onFrame_write writes]
  · simp [Writer.remaining]
    omega
  · simp [Writer.remaining]

/-- Each step of a relay task, apart from those that take something in, leaves less to do. -/
theorem Step.remaining_lt (linkMdu : ℕ+) (taken : Step socks sid relay act next effect)
    (settles : (TaskAct.relay act).Settles) (heeds : relay.Heeds) (short : relay.Short) :
    next.remaining + sentWork linkMdu effect.frames <
      relay.remaining + readWork effect.received := by
  have silent : sentWork linkMdu [] = 0 := rfl
  have nothing : readWork [] = 0 := rfl
  cases taken with
  | read => exact settles.elim
  | watched => exact settles.elim
  | readFailed reading =>
      simp [remaining, Effect.frames, Effect.received, reading, Reader.remaining, silent, nothing]
  | @readerSend source payload holding =>
      have fits : Frame.Fits { frameType := .data, sessionId := sid, payload } :=
        short source payload holding
      have bound := sentWork_singleton_le linkMdu fits
      simp only [remaining, Effect.frames, Effect.received, holding, Reader.remaining, nothing]
      omega
  | recvClosed receiving =>
      simp [remaining, Effect.frames, Effect.received, receiving, Writer.remaining, silent, nothing]
  | @recvFrame frame receiving =>
      have bound := remaining_onFrame socks receiving frame
      obtain ⟨writer, writerIo, same⟩ := relay.onFrame_frame socks frame
      have single : readWork [frame] = 3 + frame.payload.length := by simp [readWork]
      rw [same] at bound ⊢
      simp only [remaining, Effect.frames, Effect.received, receiving, Writer.remaining, silent,
        single] at bound ⊢
      omega
  | @resolved answer target data resolving =>
      obtain ⟨config, kind⟩ := heeds.resolving target data resolving
      have same : relay.kind.program socks = relayBidirectionalUdpServerSide socks config := by
        rw [kind]
        rfl
      rw [onResolved, same]
      dsimp only [relayBidirectionalUdpServerSide]
      split
      · simp [remaining, Effect.frames, Effect.received, resolving, Writer.remaining, silent,
          nothing]
      · simp [remaining, Effect.frames, Effect.received, resolving, Writer.remaining, silent,
          nothing]
  | @wrote count rest writing progress =>
      simp only [remaining, Effect.frames, Effect.received, writing, Writer.remaining, silent,
        nothing, List.length_drop]
      omega
  | writeDone finishing =>
      rcases finishing with busy | busy
      · simp [remaining, Effect.frames, Effect.received, busy, Writer.remaining, silent, nothing]
      · simp [remaining, Effect.frames, Effect.received, busy, Writer.remaining, silent, nothing]
  | writeFailed busy =>
      rcases busy with ⟨rest, busy⟩ | busy
      · simp [remaining, Effect.frames, Effect.received, busy, Writer.remaining, silent, nothing]
      · simp [remaining, Effect.frames, Effect.received, busy, Writer.remaining, silent, nothing]
  | cancelReader _ running =>
      have left : 0 < relay.reader.remaining := by
        cases reader : relay.reader with
        | finished => exact absurd reader running
        | _ => simp [Reader.remaining]
      have ended : Reader.finished.remaining = 0 := rfl
      simp only [remaining, Effect.frames, Effect.received, ended, silent, nothing]
      omega
  | cancelWriter _ running =>
      have left : 0 < relay.writer.remaining := by
        cases writer : relay.writer with
        | finished => exact absurd writer running
        | _ => simp [Writer.remaining]
      have ended : Writer.finished.remaining = 0 := rfl
      simp only [remaining, Effect.frames, Effect.received, ended, silent, nothing]
      omega

end Relay

namespace Task

variable {socks : FastSocks5} {task next : Task} {act : TaskAct} {effect : Effect}

theorem Moves.awaits_lt {before after : Pc} (moves : Moves before act after) :
    after.awaits < before.awaits := by
  cases moves <;> simp [Pc.awaits]

theorem remaining_lt_of_awaits (passes : next.pc.awaits < task.pc.awaits)
    (relay : next.relay = task.relay ∨ ∃ kind, next.relay = some (Relay.start kind)) :
    next.remaining + FRAME_WORK < task.remaining := by
  have fewer : (3 + FRAME_WORK) * (next.pc.awaits + 1) ≤ (3 + FRAME_WORK) * task.pc.awaits :=
    Nat.mul_le_mul_left _ passes
  rw [Nat.mul_add, Nat.mul_one] at fewer
  rcases relay with same | ⟨kind, started⟩
  · simp only [remaining, same]
    omega
  · have fresh : (Relay.start kind).remaining = 2 := rfl
    simp only [remaining, started, Option.elim_some, fresh]
    omega

theorem awaits_connected (task : Task) (flow : Flow) :
    (task.connected flow).pc.awaits < (Pc.waiting flow).awaits ∧
      ((task.connected flow).relay = task.relay ∨
        ∃ kind, (task.connected flow).relay = some (Relay.start kind)) := by
  cases flow with
  | socksTcp => exact ⟨by simp [connected, Pc.awaits], .inl rfl⟩
  | socksUdp => exact ⟨by simp [connected, Pc.awaits], .inl rfl⟩
  | forwardedTcp => exact ⟨by simp [connected, startRelay, Pc.awaits], .inr ⟨_, rfl⟩⟩
  | forwardedUdp serverPort => exact ⟨by simp [connected, startRelay, Pc.awaits], .inr ⟨_, rfl⟩⟩

theorem awaits_connectFailed (task : Task) (why : WaitFailure) (flow : Flow) :
    (task.connectFailed why flow).pc.awaits < (Pc.waiting flow).awaits ∧
      (task.connectFailed why flow).relay = task.relay := by
  cases flow <;> simp [connectFailed, Pc.awaits]

/-- Each step of a session task, apart from those that take something in, leaves less to do. -/
theorem Step.remaining_lt (linkMdu : ℕ+) (taken : Step socks task act next effect)
    (settles : act.Settles) (regular : task.Regular) :
    next.remaining + sentWork linkMdu effect.frames <
      task.remaining + readWork effect.received := by
  have bound := sentWork_frames_le linkMdu (regular.short.step regular.inTime taken).2
  have passing (passes : next.pc.awaits < task.pc.awaits)
      (relay : next.relay = task.relay ∨ ∃ kind, next.relay = some (Relay.start kind)) :
      next.remaining + sentWork linkMdu effect.frames <
        task.remaining + readWork effect.received := by
    have less := remaining_lt_of_awaits passes relay
    omega
  cases taken with
  | move moves => exact passing moves.awaits_lt (.inl rfl)
  | send pending =>
      cases pendingSend_cases pending with
      | connect connecting => exact passing (by simp [connecting, Pc.awaits]) (.inl rfl)
      | refuse refusing => exact passing (by simp [refusing, Pc.awaits]) (.inl rfl)
      | confirm confirming =>
          exact passing (by simp [confirming, startRelay, Pc.awaits]) (.inr ⟨_, rfl⟩)
      | close closing => exact passing (by simp [closing, Pc.awaits]) (.inl rfl)
  | @reply flow result waiting =>
      cases result with
      | none =>
          obtain ⟨passes, relay⟩ := task.awaits_connectFailed .channelClosed flow
          exact passing (waiting ▸ passes) (.inl relay)
      | some frame =>
          cases type : frame.frameType with
          | connectOk =>
              obtain ⟨passes, relay⟩ :=
                awaits_connected { task with answers := task.answers ++ [frame] } flow
              rw [← waiting] at passes
              exact passing (by simpa [onReply, type] using passes)
                (by simpa [onReply, type] using relay)
          | connectErr =>
              obtain ⟨passes, relay⟩ :=
                awaits_connectFailed { task with answers := task.answers ++ [frame] } .connectErr
                  flow
              rw [← waiting] at passes
              exact passing (by simpa [onReply, type] using passes)
                (by simp [onReply, type, relay])
          | _ => simp [onReply, type, remaining, sentWork, readWork, Effect.frames, Effect.received]
  | @timeout flow waiting =>
      obtain ⟨passes, relay⟩ := task.awaits_connectFailed .timeout flow
      exact passing (waiting ▸ passes) (.inl relay)
  | replied replying => exact passing (by simp [replying, startRelay, Pc.awaits]) (.inr ⟨_, rfl⟩)
  | @filtered answer addr config filtering =>
      refine passing ?_ (.inl ?_)
      · rw [onFiltered, filtering]
        split <;> simp [Pc.awaits]
      · obtain ⟨pc, io, same⟩ := task.onFiltered_frame config answer
        rw [same]
  | select relaying spawned =>
      simp [remaining, relaying, spawned, Pc.awaits, Effect.frames, Effect.received, sentWork,
        readWork, Relay.remaining]
  | dropSession dropping => exact passing (by simp [dropping, Pc.awaits]) (.inl rfl)
  | @relay relayAct before after effect spawned stepped =>
      have less := stepped.remaining_lt linkMdu settles (regular.heeds before spawned)
        (regular.short.relay before spawned)
      simp only [remaining, spawned, Option.elim_some]
      omega

/-- How a handler goes on where nobody else does anything. -/
def goesOn (task : Task) : TaskAct :=
  match task.pc with
  | .handshake => .handshake true
  | .readCommand => .command none
  | .waiting _ => .timeout
  | .binding _ => .bound none
  | .replying _ => .replied true
  | .replyingFailure _ => .replied true
  | .replyingUnsupported => .replied true
  | .filtering _ _ => .resolved none
  | .opening _ => .opened none
  | .serverBinding _ => .bound none
  | .relaying => .select
  | .dropping _ => .dropSession
  | _ => .send

theorem goesOn_settles (task : Task) : task.goesOn.Settles := by
  rw [goesOn]
  split <;> trivial

theorem exists_step (socks : FastSocks5) (aside : task.pc ≠ .relaying)
    (running : task.hasEnded = false) :
    ∃ next effect, task.step socks task.goesOn = some (next, effect) ∧
      ∀ result, effect ≠ .recv result := by
  have enabled : (task.step socks task.goesOn).isSome = true := by
    cases at_pc : task.pc with
    | relaying => exact absurd at_pc aside
    | ended exit => simp [hasEnded, at_pc] at running
    | binding result => cases result <;> simp [step, goesOn, at_pc]
    | _ => simp [step, goesOn, pendingSend, at_pc]
  have alone : (∀ relayAct, task.goesOn ≠ .relay relayAct) ∧
      ∀ result, task.goesOn ≠ .recv result := by
    rw [goesOn]
    split <;> simp
  obtain ⟨⟨next, effect⟩, taken⟩ := Option.isSome_iff_exists.mp enabled
  refine ⟨next, effect, taken, fun result received => ?_⟩
  have moved := step_cases taken
  generalize task.goesOn = act at alone moved
  cases moved with
  | reply => exact alone.2 _ rfl
  | relay => exact alone.1 _ rfl
  | _ => cases received

end Task

namespace Endpoint

/-- What an endpoint keeps of its sessions in every run. -/
structure Regular (ep : Endpoint) : Prop where
  /-- The tables and the histories agree. -/
  well : WellFormed ep
  /-- Every task is regular. -/
  tasks : ∀ chan task, ep.tasks chan = some task → task.Regular
  /-- A session that has relayed is not registered when its handler has ended. -/
  released : ∀ chan task, ep.tasks chan = some task → task.hasEnded = true → task.relay ≠ none →
    ep.mux.sessions task.sid ≠ some chan

section Steps

variable {linkMdu : ℕ+} {socks : FastSocks5} {ep next : Endpoint} {act : EndpointAct}

theorem Regular.session (regular : ep.Regular) {held : Bool} {chan : ChanId} {act : TaskAct}
    {task after : Task} {effect : Effect} {mux : Mux} (found : ep.tasks chan = some task)
    (taken : Task.Step socks task act after effect)
    (performs : Performs ep held chan task.sid effect mux) (ended : after.hasEnded = true)
    (relay : after.relay ≠ none) : mux.sessions after.sid ≠ some chan := by
  have inTime := (regular.tasks chan task found).inTime
  rw [taken.identity.1]
  intro registered
  have before := performs.sessions_of_some registered
  by_cases running : task.hasEnded = false
  · rcases (taken.hasEnded_iff running).mp ended with abandons | rfl
    · have absent := Task.relay_of_abandons inTime abandons
      cases taken.relayChange inTime with
      | kept _ same => exact relay (same.trans absent)
      | spawned _ relaying => simp [Task.hasEnded, relaying] at ended
      | select _ spawned => simp [absent] at spawned
      | relay _ spawned => simp [absent] at spawned
    · cases performs with
      | dropSession => simp [Mux.dropSession] at registered
  · obtain ⟨_, relay, _, spawned, _⟩ := taken.of_hasEnded (by simpa using running)
    exact regular.released chan task found (by simpa using running) (by simp [spawned]) before

theorem Regular.step (regular : ep.Regular) (taken : Step linkMdu socks ep act next) :
    next.Regular := by
  refine ⟨regular.well.step taken,
    taken.forall_tasks regular.tasks (fun start sid _ => Task.regular_spawn start sid)
      fun _ _ _ _ regular taken => regular.step taken, fun chan task found ended relay => ?_⟩
  cases taken with
  | @session held owner act before after effect mux owned taken performs =>
      rcases update_some_cases found with ⟨rfl, rfl⟩ | ⟨_, found⟩
      · exact regular.session owned taken performs ended relay
      · exact fun registered =>
          regular.released chan task found ended relay (performs.sessions_of_some registered)
  | @spawn start sid =>
      rcases update_some_cases found with ⟨rfl, rfl⟩ | ⟨other, found⟩
      · simp [Task.spawn] at relay
      · have before := regular.released chan task found ended relay
        by_cases same : task.sid = sid
        · simpa [Mux.registerSession, same] using Ne.symm other
        · simpa [Mux.registerSession, same] using before
  | @dispatch frame =>
      obtain ⟨channels, same⟩ := ep.mux.dispatch_frame frame
      rw [same]
      exact regular.released chan task found ended relay
  | sender taken =>
      obtain ⟨linkId, dataSenderBuf, sender, wire, handed, rfl⟩ := taken.frame
      exact regular.released chan task found ended relay
  | resetSessions => simp [Mux.resetSessions]
  | _ => exact regular.released chan task found ended relay

theorem regular_new : (new : Endpoint).Regular where
  well := wellFormed_new
  tasks chan task found := by simp [new] at found
  released chan task found := by simp [new] at found

theorem regular_of_reachable (reachable : Execution.Reachable (step linkMdu socks) new ep) :
    ep.Regular :=
  reachable.invariant regular_new fun _ _ _ regular taken => regular.step (step_cases taken)

end Steps

/-! ## What is left where nothing is enabled -/

section Blocked

variable {linkMdu : ℕ+} {socks : FastSocks5} {ep : Endpoint} {held : Bool} {chan : ChanId}
  {task : Task} {relay : Relay}

theorem writer_of_blocked (found : ep.tasks chan = some task) (spawned : task.relay = some relay)
    (unresolved : ∀ target data, relay.writer ≠ .resolving target data)
    (unlocked : (relay.kind.program socks).recordsPort = true → relay.reader.isHolding = false)
    (recv : ∀ frame,
      ep.step linkMdu socks (.session held chan (.relay (.recv (some frame)))) = none)
    (wrote : ∀ count, ep.step linkMdu socks (.session held chan (.relay (.wrote count))) = none)
    (done : ep.step linkMdu socks (.session held chan (.relay .writeDone)) = none) :
    relay.writer = .finished ∨ relay.writer = .receiving ∧ ep.mux.channels chan = [] := by
  cases writer : relay.writer with
  | receiving =>
      refine .inr ⟨rfl, ?_⟩
      cases queued : ep.mux.channels chan with
      | nil => rfl
      | cons frame rest =>
          have blocked := recv frame
          have free : ¬ ((relay.kind.program socks).recordsPort = true ∧ frame.frameType = .data ∧
              relay.reader.isHolding = true) := fun locked => by
            simp [unlocked locked.1] at locked
          simp [step, found, Task.step, spawned, Relay.step, writer, free, perform, Mux.recv,
            queued] at blocked
  | writing rest =>
      cases rest with
      | nil => simp [step, found, Task.step, spawned, Relay.step, writer, perform] at done
      | cons byte rest =>
          have blocked := wrote 1
          simp [step, found, Task.step, spawned, Relay.step, writer, perform] at blocked
  | sending => simp [step, found, Task.step, spawned, Relay.step, writer, perform] at done
  | resolving target data => exact absurd writer (unresolved target data)
  | finished => exact .inl rfl

theorem reader_of_blocked (found : ep.tasks chan = some task) (spawned : task.relay = some relay)
    (queue : ep.mux.dataSenderBuf = [])
    (blocked : ep.step linkMdu socks (.session held chan (.relay .readerSend)) = none) :
    relay.reader.isHolding = false := by
  cases reader : relay.reader with
  | holding address payload =>
      simp [step, found, Task.step, spawned, Relay.step, reader, perform, Mux.sendFrame, queue,
        SEND_QUEUE_CAPACITY] at blocked
  | _ => rfl

/-- No step of the tasks of a session is enabled, apart from those that take something in. -/
def Blocked (linkMdu : ℕ+) (socks : FastSocks5) (held : Bool) (chan : ChanId) (ep : Endpoint) :
    Prop :=
  ∀ act : TaskAct, act.Settles → ep.step linkMdu socks (.session held chan act) = none

theorem Blocked.ended (blocked : Blocked linkMdu socks held chan ep)
    (found : ep.tasks chan = some task) (queue : ep.mux.dataSenderBuf = [])
    (aside : task.pc ≠ .relaying) : task.hasEnded = true := by
  by_contra running
  obtain ⟨next, effect, taken, handler⟩ := task.exists_step socks aside (by simpa using running)
  have disabled := blocked task.goesOn task.goesOn_settles
  cases effect with
  | none => simp [step, found, taken, perform] at disabled
  | send frame =>
      simp [step, found, taken, perform, Mux.sendFrame, queue, SEND_QUEUE_CAPACITY] at disabled
  | recv result => exact handler result rfl
  | dropSession => simp [step, found, taken, perform] at disabled

theorem Blocked.writer (blocked : Blocked linkMdu socks held chan ep)
    (found : ep.tasks chan = some task) (queue : ep.mux.dataSenderBuf = [])
    (spawned : task.relay = some relay) :
    relay.writer = .finished ∨ relay.writer = .receiving ∧ ep.mux.channels chan = [] := by
  have unresolved : ∀ target data, relay.writer ≠ .resolving target data := by
    intro target data resolving
    have disabled := blocked (.relay (.resolved none)) trivial
    simp [step, found, Task.step, spawned, Relay.step, resolving, perform] at disabled
  exact writer_of_blocked found spawned unresolved
    (fun _ => reader_of_blocked found spawned queue (blocked _ trivial))
    (fun _ => blocked _ trivial) (fun _ => blocked _ trivial) (blocked _ trivial)

theorem Blocked.writer_finished (blocked : Blocked linkMdu socks held chan ep)
    (found : ep.tasks chan = some task) (queue : ep.mux.dataSenderBuf = [])
    (closed : ep.mux.sessions task.sid ≠ some chan) (spawned : task.relay = some relay) :
    relay.writer = .finished := by
  refine (blocked.writer found queue spawned).resolve_right ?_
  rintro ⟨receiving, empty⟩
  have disabled := blocked (.relay (.recv none)) trivial
  simp [step, found, Task.step, spawned, Relay.step, receiving, perform, Mux.recv, empty,
    senderLives, closed] at disabled

theorem Blocked.aside (blocked : Blocked linkMdu socks held chan ep)
    (found : ep.tasks chan = some task) (spawned : task.relay = some relay)
    (finished : relay.writer = .finished) : task.pc ≠ .relaying := by
  intro relaying
  have disabled := blocked .select trivial
  simp [step, found, Task.step, relaying, spawned, Relay.selectReady, finished,
    perform] at disabled

end Blocked

end Endpoint

end RnsProxy
