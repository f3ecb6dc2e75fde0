import RnsProxy.Conservation
import RnsProxy.Projection

/-!
# The datagrams of a SOCKS5 UDP session

The relays of a SOCKS5 UDP session read datagrams into a buffer of fixed length, carry them in DATA
frames, and send what they find in a frame as one datagram. What leaves one end is compared with
what arrived at the other, and the end of either relay task with what it has read and taken. The
steps of each end are those of a run of its task; the tunnel conveys the frames between them.
-/

namespace RnsProxy

/-- A datagram from any address can be wrapped, and unwrapping it returns the address and the
datagram. -/
def FastSocks5.Unwraps (socks : FastSocks5) : Prop :=
  ∀ addr, ∃ header, socks.newUdpHeader addr = some header ∧
    ∀ data, ∃ fragment, socks.parseUdpRequest (header ++ data) = some (fragment, .ip addr, data)

theorem FastSocks5.unwraps_rfc1928 : FastSocks5.rfc1928.Unwraps := by
  intro addr
  have undoes : ∀ value : UInt16,
      ofBeBytes16 (UInt8.ofNat (value.toNat / 256)) value.toUInt8 = value := ofBeBytes16_beBytes16
  refine ⟨0 :: 0 :: 0 :: socksAddress addr, rfl, fun data => ⟨0, ?_⟩⟩
  rcases addr with ⟨ip | ip, port⟩
  · simp [rfc1928, socksAddress, beBytes16, undoes]
  · simp [rfc1928, socksAddress, beBytes16, undoes]

/-- A value for either program. -/
def Side.each {α : Type*} (ofClient ofServer : α) : Side → α
  | client => ofClient
  | server => ofServer

/-- What a datagram carries: that of an application is a UDP request. -/
def Side.carried (socks : FastSocks5) : Side → Bytes → Option Bytes
  | client, datagram => (socks.parseUdpRequest datagram).map fun request => request.2.2
  | server, datagram => some datagram

/-- The payloads of the DATA frames, in order. -/
def payloads (frames : List Frame) : List Bytes :=
  frames.filterMap fun frame => if frame.frameType = .data then some frame.payload else none

@[simp]
theorem payloads_append (left right : List Frame) :
    payloads (left ++ right) = payloads left ++ payloads right := by
  simp [payloads]

theorem payloads_eq_nil {frames : List Frame}
    (control : ∀ frame ∈ frames, frame.frameType ≠ .data) : payloads frames = [] := by
  simpa [payloads, List.filterMap_eq_nil_iff] using control

/-! ## The relay tasks at one end -/

/-- What a reader sends for a datagram that arrives. -/
def RelayKind.forwarded (socks : FastSocks5) (kind : RelayKind) (arrival : SocketAddr × Bytes) :
    Option Bytes :=
  match (kind.program socks).onRead arrival.1 (arrival.2.take READ_BUFFER) with
  | .send payload => some payload
  | _ => none

/-- The datagram a writer finds in a DATA frame. -/
def RelayKind.found (socks : FastSocks5) : RelayKind → Bytes → Option Bytes
  | udpServerSide _, payload => (socks.parseUdpRequest payload).map fun request => request.2.2
  | _, payload => some payload

/-- The payload a reader has in its hand. -/
def Reader.held : Reader → List Bytes
  | holding _ payload => [payload]
  | _ => []

/-- The datagram whose target a writer has not yet resolved. -/
def Writer.held : Writer → List Bytes
  | resolving _ data => [data]
  | _ => []

/-- The datagram that arrives with a step. -/
def RelayAct.arrival : RelayAct → Option (SocketAddr × Bytes)
  | read source available => some (source, available)
  | _ => none

namespace Relay

/-- The datagrams a writer has sent, in order. -/
def departures (relay : Relay) : List Bytes :=
  relay.writerIo.filterMap fun event =>
    match event with
    | .sendTo _ data => some data
    | _ => none

/-- What a reader has sent or has in its hand it has made of the datagrams that arrived. -/
def Forwards (socks : FastSocks5) (arrivals : List (SocketAddr × Bytes)) (sent : List Frame)
    (relay : Relay) : Prop :=
  (payloads sent ++ relay.reader.held).Sublist (arrivals.filterMap (relay.kind.forwarded socks))

/-- What a writer has sent or has yet to send it has found in the DATA frames it has taken. -/
def Departs (socks : FastSocks5) (relay : Relay) : Prop :=
  (relay.departures ++ relay.writer.held).Sublist
    ((payloads relay.received).filterMap (relay.kind.found socks))

/-- Why the tasks of a relay that aborts neither of them have ended. -/
structure Ends (socks : FastSocks5) (past : List RelayAct) (relay : Relay) : Prop where
  /-- No task has been aborted. -/
  aborted : relay.aborted = false
  /-- The reader has failed, or has left its loop at what it read. -/
  reader : relay.reader = .finished → .readFailed ∈ past ∨
    ∃ source available, .read source available ∈ past ∧ (available = [] ∨
      (relay.kind.program socks).onRead source (available.take READ_BUFFER) = .stop)
  /-- The writer has failed, has found its channel closed, or has left its loop at a frame. -/
  writer : relay.writer = .finished → .writeFailed ∈ past ∨ .recv none ∈ past ∨
    ∃ frame ∈ relay.received, ∃ port, (relay.kind.program socks).onFrame port frame = .stop

variable {socks : FastSocks5} {sid : UInt32} {relay next : Relay} {act : RelayAct} {effect : Effect}
  {arrivals : List (SocketAddr × Bytes)} {sent : List Frame} {past : List RelayAct}

theorem forwards_start (kind : RelayKind) (silent : payloads sent = []) :
    (start kind).Forwards socks arrivals sent := by
  simp [Forwards, start, Reader.held, silent]

theorem departs_start (kind : RelayKind) : (start kind).Departs socks := by
  simp [Departs, start, departures, Writer.held]

theorem ends_start (kind : RelayKind) : (start kind).Ends socks past :=
  ⟨rfl, by simp [start], by simp [start]⟩

theorem held_onRead (socks : FastSocks5) (relay : Relay) (source : SocketAddr) (available : Bytes) :
    (relay.onRead socks source (available.take READ_BUFFER)).reader.held.Sublist
      (relay.kind.forwarded socks (source, available)).toList := by
  simp only [onRead, RelayKind.forwarded]
  split
  · exact List.nil_sublist _
  · cases (relay.kind.program socks).onRead source (available.take READ_BUFFER) with
    | stop => exact List.nil_sublist _
    | skip => exact List.nil_sublist _
    | send payload => exact List.Sublist.refl _

theorem Forwards.of_same (forwards : relay.Forwards socks arrivals sent)
    (kind : next.kind = relay.kind) (held : next.reader.held.Sublist relay.reader.held) :
    next.Forwards socks arrivals sent := by
  rw [Forwards, kind]
  exact ((List.Sublist.refl _).append held).trans forwards

theorem Forwards.step (forwards : relay.Forwards socks arrivals sent)
    (taken : Step socks sid relay act next effect) :
    next.Forwards socks (arrivals ++ act.arrival.toList) (sent ++ effect.frames) := by
  have same_kind := taken.same_kind.1
  cases taken with
  | @read source available reading =>
      have sent_before : (payloads sent).Sublist
          (arrivals.filterMap (relay.kind.forwarded socks)) := by
        simpa [Forwards, reading, Reader.held] using forwards
      have held := relay.held_onRead socks source available
      have silent : sent ++ Effect.none.frames = sent := List.append_nil sent
      rw [Forwards, same_kind, silent, RelayAct.arrival, Option.toList_some,
        Execution.filterMap_concat]
      exact sent_before.append held
  | @readerSend source payload holding =>
      simpa [Forwards, holding, Reader.held, payloads, Effect.frames, RelayAct.arrival]
        using forwards
  | @recvFrame frame =>
      obtain ⟨writer, writerIo, same⟩ := relay.onFrame_frame socks frame
      simpa [Forwards, same, Effect.frames, RelayAct.arrival] using forwards
  | @resolved answer target data =>
      obtain ⟨writer, writerIo, same⟩ := relay.onResolved_frame socks answer data
      simpa [Forwards, same, Effect.frames, RelayAct.arrival] using forwards
  | readFailed =>
      have nothing : Forwards socks arrivals sent
          { relay with reader := .finished, failed := true } :=
        forwards.of_same rfl (List.nil_sublist _)
      simpa [Effect.frames, RelayAct.arrival] using nothing
  | cancelReader =>
      have nothing : Forwards socks arrivals sent { relay with reader := .finished } :=
        forwards.of_same rfl (List.nil_sublist _)
      simpa [Effect.frames, RelayAct.arrival] using nothing
  | _ => simpa [Forwards, Effect.frames, RelayAct.arrival] using forwards

theorem found_of_onFrame {kind : RelayKind} {port : Option UInt16} {frame : Frame} {data : Bytes}
    (sends : (∃ addr, (kind.program socks).onFrame port frame = .datagram (some addr) data) ∨
      ∃ target, (kind.program socks).onFrame port frame = .resolve target data) :
    (payloads [frame]).filterMap (kind.found socks) = [data] := by
  cases type : frame.frameType with
  | data =>
      cases kind with
      | udpClientSide =>
          cases port with
          | none => simp [RelayKind.program, relayBidirectionalUdpClientSide, type] at sends
          | some port =>
              simpa [RelayKind.program, relayBidirectionalUdpClientSide, payloads, RelayKind.found,
                type] using sends
      | udpServerSide config =>
          cases parsed : socks.parseUdpRequest frame.payload with
          | none => simp [RelayKind.program, relayBidirectionalUdpServerSide, type, parsed] at sends
          | some request =>
              simpa [RelayKind.program, relayBidirectionalUdpServerSide, payloads, RelayKind.found,
                type, parsed] using sends
      | forwardedUdp serverPort =>
          cases parsed : socks.parseUdpRequest frame.payload <;>
            simp [RelayKind.program, relayForwardedUdp, type, parsed] at sends
      | bidirectionalTcp =>
          simp [RelayKind.program, relayBidirectionalTcp, tcpRelayProgram, type] at sends
      | forwardedTcp => simp [RelayKind.program, relayForwardedTcp, tcpRelayProgram, type] at sends
  | _ =>
      cases kind <;>
        simp [RelayKind.program, relayBidirectionalTcp, relayForwardedTcp, tcpRelayProgram,
          relayBidirectionalUdpClientSide, relayBidirectionalUdpServerSide, relayForwardedUdp,
          type] at sends

theorem Departs.onFrame (departs : relay.Departs socks) (receiving : relay.writer = .receiving)
    (frame : Frame) : (relay.onFrame socks frame).Departs socks := by
  have sent_before : relay.departures.Sublist
      ((payloads relay.received).filterMap (relay.kind.found socks)) := by
    simpa [Departs, receiving, Writer.held] using departs
  -- a writer may leave out what it finds in a frame
  have dropped : ∀ writer : Writer, writer.held = [] →
      Departs socks { relay with writer, received := relay.received ++ [frame] } := by
    intro writer nothing
    rw [Departs, nothing, List.append_nil, payloads_append, List.filterMap_append]
    exact sent_before.trans (List.sublist_append_left _ _)
  rw [Relay.onFrame]
  split
  · exact dropped .finished rfl
  · simpa [receiving] using dropped .receiving rfl
  · exact dropped (.writing _) rfl
  · rename_i addr data sends
    cases addr with
    | none => simpa using dropped .sending rfl
    | some addr =>
        have found := found_of_onFrame (.inl ⟨addr, sends⟩)
        simpa [Departs, departures, Writer.held, found] using sent_before
  · rename_i target data asks
    have found := found_of_onFrame (.inr ⟨target, asks⟩)
    simpa [Departs, departures, Writer.held, found] using sent_before

theorem Departs.of_same (departs : relay.Departs socks) (kind : next.kind = relay.kind)
    (io : next.writerIo = relay.writerIo) (received : next.received = relay.received)
    (held : next.writer.held.Sublist relay.writer.held) : next.Departs socks := by
  rw [Departs, departures, kind, io, received]
  exact ((List.Sublist.refl _).append held).trans departs

theorem Departs.onResolved (departs : relay.Departs socks) {target : TargetAddr} {data : Bytes}
    (resolving : relay.writer = .resolving target data) (answer : Option TargetAddr) :
    (relay.onResolved socks answer data).Departs socks := by
  have unchecked : ∀ config : FilterConfig,
      (filterIo answer config .udp).filterMap (fun event : Io =>
        match event with
        | .sendTo _ data => some data
        | _ => none) = [] := by
    intro config
    cases address : targetToSocket answer <;> simp [filterIo, address]
  rw [Relay.onResolved]
  split
  · split
    · simpa [Departs, departures, resolving, Writer.held, unchecked] using departs
    · have dropped : Departs socks { relay with writer := .receiving } :=
        departs.of_same rfl rfl rfl (List.nil_sublist _)
      simpa [Departs, departures, Writer.held, unchecked] using dropped
  · exact departs

theorem Departs.step (departs : relay.Departs socks)
    (taken : Step socks sid relay act next effect) : next.Departs socks := by
  cases taken with
  | @read source available =>
      obtain ⟨reader, port, sawEof, read, readerIo, same⟩ :=
        relay.onRead_frame socks source (available.take READ_BUFFER)
      rw [same]
      exact departs
  | recvFrame receiving => exact departs.onFrame receiving _
  | resolved resolving => exact departs.onResolved resolving _
  | recvClosed => exact departs.of_same rfl rfl rfl (List.nil_sublist _)
  | wrote => exact departs.of_same rfl rfl rfl (List.nil_sublist _)
  | writeDone => exact departs.of_same rfl rfl rfl (List.nil_sublist _)
  | writeFailed => exact departs.of_same rfl rfl rfl (List.nil_sublist _)
  | cancelWriter => exact departs.of_same rfl rfl rfl (List.nil_sublist _)
  | _ => exact departs

/-- What has ended a task before has ended it still. -/
theorem Ends.more (ends : relay.Ends socks past) (later : List RelayAct) :
    relay.Ends socks (past ++ later) where
  aborted := ends.aborted
  reader finished := by
    rcases ends.reader finished with failed | ⟨source, available, member, stops⟩
    · exact .inl (List.mem_append_left _ failed)
    · exact .inr ⟨source, available, List.mem_append_left _ member, stops⟩
  writer finished := by
    rcases ends.writer finished with failed | closed | stopped
    · exact .inl (List.mem_append_left _ failed)
    · exact .inr (.inl (List.mem_append_left _ closed))
    · exact .inr (.inr stopped)

theorem finished_onRead {source : SocketAddr} {available : Bytes}
    (finished : (relay.onRead socks source (available.take READ_BUFFER)).reader = .finished) :
    available = [] ∨
      (relay.kind.program socks).onRead source (available.take READ_BUFFER) = .stop := by
  rw [onRead] at finished
  split at finished
  · rename_i empty
    exact .inl ((List.take_eq_nil_iff.mp empty).resolve_left (by decide))
  · cases read : (relay.kind.program socks).onRead source (available.take READ_BUFFER) with
    | stop => exact .inr rfl
    | skip => simp [read] at finished
    | send payload => simp [read] at finished

theorem finished_onFrame {frame : Frame} (receiving : relay.writer = .receiving)
    (finished : (relay.onFrame socks frame).writer = .finished) :
    (relay.kind.program socks).onFrame relay.clientLocalPort frame = .stop := by
  rw [onFrame] at finished
  split at finished
  · assumption
  · simp [receiving] at finished
  · cases finished
  · cases finished
  · cases finished

theorem not_finished_onResolved {target : TargetAddr} {data : Bytes}
    (resolving : relay.writer = .resolving target data) (answer : Option TargetAddr) :
    (relay.onResolved socks answer data).writer ≠ .finished := by
  rw [onResolved]
  split
  · split
    · simp
    · simp
  · simp [resolving]

theorem Ends.step (ends : relay.Ends socks past) (taken : Step socks sid relay act next effect) :
    next.Ends socks (past ++ [act]) := by
  obtain ⟨kind, aborted⟩ := taken.same_kind
  have received : relay.received <+: next.received := by
    rw [taken.received_eq]
    exact List.prefix_append _ _
  refine ⟨aborted.trans ends.aborted, fun finished => ?_, fun finished => ?_⟩
  · by_cases before : relay.reader = .finished
    · rw [kind]
      exact (ends.more [act]).reader before
    · cases taken with
      | @read source available =>
          rw [kind]
          exact .inr ⟨source, available, by simp, finished_onRead finished⟩
      | readFailed => exact .inl (by simp)
      | readerSend => cases finished
      | @recvFrame frame =>
          obtain ⟨writer, writerIo, same⟩ := relay.onFrame_frame socks frame
          exact absurd (by simpa [same] using finished) before
      | @resolved answer target data =>
          obtain ⟨writer, writerIo, same⟩ := relay.onResolved_frame socks answer data
          exact absurd (by simpa [same] using finished) before
      | cancelReader requested => simp [ends.aborted] at requested
      | _ => exact absurd finished before
  · by_cases before : relay.writer = .finished
    · rw [kind]
      rcases (ends.more [act]).writer before with failed | closed | ⟨frame, member, stops⟩
      · exact .inl failed
      · exact .inr (.inl closed)
      · exact .inr (.inr ⟨frame, received.subset member, stops⟩)
    · cases taken with
      | @read source available =>
          obtain ⟨reader, port, sawEof, read, readerIo, same⟩ :=
            relay.onRead_frame socks source (available.take READ_BUFFER)
          exact absurd (by simpa [same] using finished) before
      | recvClosed => exact .inr (.inl (by simp))
      | @recvFrame frame receiving =>
          rw [kind]
          refine .inr (.inr ⟨frame, ?_, _, finished_onFrame receiving finished⟩)
          obtain ⟨writer, writerIo, same⟩ := relay.onFrame_frame socks frame
          simp [same]
      | resolved resolving => exact absurd finished (not_finished_onResolved resolving _)
      | wrote => cases finished
      | writeDone => cases finished
      | writeFailed => exact .inl (by simp)
      | cancelWriter requested => simp [ends.aborted] at requested
      | _ => exact absurd finished before

theorem Forwards.more (forwards : relay.Forwards socks arrivals sent)
    (later : List (SocketAddr × Bytes)) : relay.Forwards socks (arrivals ++ later) sent := by
  rw [Forwards, List.filterMap_append]
  exact forwards.trans (List.sublist_append_left _ _)

end Relay

/-! ## A session task at one end -/

/-- The step of a relay task that a step of a session task is. -/
def TaskAct.relayAct : TaskAct → Option RelayAct
  | relay act => some act
  | _ => none

namespace Task

/-- The datagrams that have arrived at the socket of a session. -/
def arrivals (past : List TaskAct) : List (SocketAddr × Bytes) :=
  (past.filterMap TaskAct.relayAct).filterMap RelayAct.arrival

/-- What the relay of a session task makes of the datagrams and of the frames it gets. -/
structure Carries (socks : FastSocks5) (past : List TaskAct) (task : Task) : Prop where
  /-- There is no relay before the session is established. -/
  inTime : task.SpawnsInTime
  /-- Without a relay no DATA frame is sent. -/
  silent : task.relay = none → payloads task.sent = []
  /-- What is sent has arrived. -/
  forwards : ∀ relay, task.relay = some relay → relay.Forwards socks (arrivals past) task.sent
  /-- What departs has been taken. -/
  departs : ∀ relay, task.relay = some relay → relay.Departs socks
  /-- A relay that aborts none of its tasks ends for a reason. -/
  ends : ∀ relay, task.relay = some relay → (relay.kind.program socks).aborts = false →
    relay.Ends socks (past.filterMap TaskAct.relayAct)

variable {socks : FastSocks5} {task next : Task} {act : TaskAct} {effect : Effect}
  {past : List TaskAct}

theorem arrivals_concat (past : List TaskAct) (act : TaskAct) :
    arrivals (past ++ [act]) = arrivals past ++ arrivals [act] := by
  simp [arrivals]

theorem carries_spawn (socks : FastSocks5) (start : Start) (sid : UInt32) :
    (spawn start sid).Carries socks [] where
  inTime := spawnsInTime_spawn start sid
  silent _ := rfl
  forwards relay spawned := by simp [spawn] at spawned
  departs relay spawned := by simp [spawn] at spawned
  ends relay spawned := by simp [spawn] at spawned

theorem Carries.step (carries : task.Carries socks past) (taken : Step socks task act next effect) :
    next.Carries socks (past ++ [act]) := by
  have inTime := carries.inTime.step taken
  have sent : payloads next.sent = payloads task.sent ++ payloads effect.frames := by
    rw [taken.sent_eq, payloads_append]
  cases taken.relayChange carries.inTime with
  | kept _ same control =>
      have sent : payloads next.sent = payloads task.sent := by
        rw [sent, payloads_eq_nil control, List.append_nil]
      refine ⟨inTime, fun absent => ?_, fun relay found => ?_, fun relay found => ?_,
        fun relay found keeps => ?_⟩
      · exact sent.trans (carries.silent (same.symm.trans absent))
      · have before := carries.forwards relay (same.symm.trans found)
        rw [arrivals_concat, Relay.Forwards, sent]
        exact before.more _
      · exact carries.departs relay (same.symm.trans found)
      · rw [List.filterMap_append]
        exact (carries.ends relay (same.symm.trans found) keeps).more _
  | @spawned kind absent _ started control =>
      have silent : payloads next.sent = [] := by
        rw [sent, carries.silent absent, payloads_eq_nil control, List.append_nil]
      refine ⟨inTime, fun _ => silent, fun relay found => ?_, fun relay found => ?_,
        fun relay found _ => ?_⟩
      all_goals obtain rfl := Option.some.inj (started.symm.trans found)
      · exact Relay.forwards_start kind silent
      · exact Relay.departs_start kind
      · exact Relay.ends_start kind
  | @select relay _ found _ aborts silent =>
      have sent : payloads next.sent = payloads task.sent := by
        rw [sent, silent]
        exact List.append_nil _
      refine ⟨inTime, fun absent => ?_, fun later found' => ?_, fun later found' => ?_,
        fun later found' keeps => ?_⟩
      · simp [aborts] at absent
      all_goals obtain rfl := Option.some.inj (aborts.symm.trans found')
      · rw [arrivals_concat, Relay.Forwards, sent]
        exact (carries.forwards relay found).more _
      · exact carries.departs relay found
      · rw [List.filterMap_append]
        have before := (carries.ends relay found keeps).more
          ([act].filterMap TaskAct.relayAct)
        exact ⟨keeps, before.reader, before.writer⟩
  | @relay relayAct relay after acts found relayTaken later _ =>
      have acted : [act].filterMap TaskAct.relayAct = [relayAct] := by
        simp [acts, TaskAct.relayAct]
      have arrived : arrivals (past ++ [act]) = arrivals past ++ relayAct.arrival.toList := by
        rw [arrivals_concat]
        cases arrival : relayAct.arrival <;> simp [arrivals, acted, arrival]
      refine ⟨inTime, fun absent => ?_, fun last found' => ?_, fun last found' => ?_,
        fun last found' keeps => ?_⟩
      · simp [later] at absent
      all_goals obtain rfl := Option.some.inj (later.symm.trans found')
      · rw [arrived, taken.sent_eq]
        exact (carries.forwards relay found).step relayTaken
      · exact (carries.departs relay found).step relayTaken
      · rw [List.filterMap_append, acted]
        rw [relayTaken.same_kind.1] at keeps
        exact (carries.ends relay found keeps).step relayTaken

/-- A session task of every run makes of the datagrams and frames it gets what it should. -/
theorem carries_of_run {start : Start} {sid : UInt32}
    (execution : Execution.run (advance socks) (spawn start sid) past = some task) :
    task.Carries socks past := by
  refine Execution.run_past (Carries socks) ?_ (carries_spawn socks start sid) execution
  intro past before act after carries taken
  obtain ⟨effect, taken⟩ := advance_cases taken
  exact carries.step taken

end Task

/-! ## Both ends -/

namespace Tunnel

/-- The step of a session task that a step of a tunnel is. -/
def taskAct (side : Side) (chan : ChanId) : TunnelAct → Option TaskAct
  | .session at_side owner act => if at_side = side ∧ owner = chan then some act else none
  | _ => none

/-- The steps of a session task in a run of a tunnel. -/
def sessionActs (side : Side) (chan : ChanId) (acts : List TunnelAct) : List TaskAct :=
  acts.filterMap (taskAct side chan)

/-- An end of a tunnel has made a run of its own, in which its session tasks have taken the same
steps. -/
def Accounted (socks : FastSocks5) (acts : List TunnelAct) (side : Side) (ep : Endpoint) : Prop :=
  ∃ past, Endpoint.Accounted socks past ep ∧
    ∀ chan, past.filterMap (Endpoint.taskAct chan) = sessionActs side chan acts

variable {linkMdu : ℕ+} {socks : FastSocks5} {tunnel next : Tunnel} {acts : List TunnelAct}
  {act : TunnelAct}

theorem accounted_new (side : Side) (link : LinkId) :
    Accounted socks [] side { Endpoint.new with mux := Mux.new.setLinkId link } := by
  have initial : Endpoint.Accounted socks [] Endpoint.new := Endpoint.accounted_new
  have taken : Endpoint.new.step 1 socks (.setLinkId link) =
      some { Endpoint.new with mux := Mux.new.setLinkId link } := rfl
  exact ⟨[.setLinkId link], initial.step Endpoint.wellFormed_new taken, fun chan => rfl⟩

/-- What is no step of a session task at this end leaves its sessions alone. -/
theorem Accounted.keep {side : Side} {ep : Endpoint} (accounted : Accounted socks acts side ep)
    (elsewhere : ∀ chan, taskAct side chan act = none) :
    Accounted socks (acts ++ [act]) side ep := by
  obtain ⟨past, accounted, same⟩ := accounted
  refine ⟨past, accounted, fun chan => ?_⟩
  simp [sessionActs, same, elsewhere]

theorem Accounted.step {side : Side} {ep after : Endpoint}
    (accounted : Accounted socks acts side ep) (well : Endpoint.WellFormed ep)
    {endpointAct : EndpointAct} (taken : ep.step linkMdu socks endpointAct = some after)
    (same : ∀ chan, Endpoint.taskAct chan endpointAct = taskAct side chan act) :
    Accounted socks (acts ++ [act]) side after := by
  obtain ⟨past, accounted, same_past⟩ := accounted
  refine ⟨past ++ [endpointAct], accounted.step well taken, fun chan => ?_⟩
  simp [sessionActs, List.filterMap_append, List.filterMap_cons, same_past, same]

/-- No session task acts when an event loop handles a frame. -/
theorem taskAct_reaction {filterConfig : FilterConfig} {side : Side} {frame : Frame}
    {endpointAct : EndpointAct} (reacts : side.reaction filterConfig frame = some endpointAct)
    (chan : ChanId) : Endpoint.taskAct chan endpointAct = none := by
  rcases side.reaction_cases filterConfig frame with
    ⟨_, dispatches⟩ | ⟨_, nothing | ⟨_, _, ⟨start, _, spawns⟩ | refuses⟩⟩
  · cases dispatches.symm.trans reacts
    rfl
  · cases nothing.symm.trans reacts
  · cases spawns.symm.trans reacts
    rfl
  · cases refuses.symm.trans reacts
    rfl

/-- A step of a tunnel is at either end a step of that end, taken by the same session task, or does
not concern it. -/
theorem step_at (taken : tunnel.step linkMdu socks act = some next) (side : Side) :
    (next.ends side = tunnel.ends side ∧ ∀ chan, taskAct side chan act = none) ∨
      ∃ endpointAct, (tunnel.ends side).step linkMdu socks endpointAct = some (next.ends side) ∧
        ∀ chan, Endpoint.taskAct chan endpointAct = taskAct side chan act := by
  have updated {other : Side} {endpointAct : EndpointAct} {ep : Endpoint}
      (ends : next.ends = Function.update tunnel.ends other ep)
      (stepped : (tunnel.ends other).step linkMdu socks endpointAct = some ep)
      (here : ∀ chan, Endpoint.taskAct chan endpointAct = taskAct other chan act)
      (there : ∀ chan, side ≠ other → taskAct side chan act = none) :
      (next.ends side = tunnel.ends side ∧ ∀ chan, taskAct side chan act = none) ∨
        ∃ endpointAct, (tunnel.ends side).step linkMdu socks endpointAct = some (next.ends side) ∧
          ∀ chan, Endpoint.taskAct chan endpointAct = taskAct side chan act := by
    by_cases same : side = other
    · subst same
      exact .inr ⟨endpointAct, by simpa [ends] using stepped, here⟩
    · exact .inl ⟨by simp [ends, same], fun chan => there chan same⟩
  cases act with
  | session other owner act =>
      obtain ⟨ep, stepped, rfl⟩ := Option.map_eq_some_iff.mp taken
      refine updated rfl stepped (fun chan => ?_) fun chan different => ?_
      · simp [Endpoint.taskAct, taskAct]
      · simp [taskAct, Ne.symm different]
  | sender other act =>
      simp only [step, Option.ite_none_left_eq_some, Option.map_eq_some_iff] at taken
      obtain ⟨_, ep, stepped, rfl⟩ := taken
      exact updated rfl stepped (fun _ => rfl) fun _ _ => rfl
  | nextSessionId =>
      simp only [step, Option.map_eq_some_iff] at taken
      obtain ⟨ep, stepped, rfl⟩ := taken
      exact updated rfl stepped (fun _ => rfl) fun _ _ => rfl
  | accept listener sid =>
      simp only [step, Option.map_eq_some_iff] at taken
      obtain ⟨ep, stepped, rfl⟩ := taken
      exact updated rfl stepped (fun _ => rfl) fun _ _ => rfl
  | deliver other =>
      simp only [step] at taken
      split at taken
      · rename_i link packet _ _
        cases taken
        have received : (tunnel.ends other).step linkMdu socks (.receive packet) =
            some { tunnel.ends other with mux := ((tunnel.ends other).mux.receiveData packet).2 } :=
          rfl
        exact updated rfl received (fun _ => rfl) fun _ _ => rfl
      · cases taken
  | handle other =>
      simp only [step] at taken
      split at taken
      · split at taken
        · rename_i frame rest _ _ reacts
          obtain ⟨ep, stepped, rfl⟩ := Option.map_eq_some_iff.mp taken
          exact updated rfl stepped (taskAct_reaction reacts) fun _ _ => rfl
        · cases taken
          exact .inl ⟨rfl, fun _ => rfl⟩
      · cases taken

theorem accounted_of_run {filterConfig : FilterConfig} {link : LinkId}
    (execution : Execution.run (step linkMdu socks) (new filterConfig link) acts = some tunnel)
    (side : Side) : Accounted socks acts side (tunnel.ends side) := by
  suffices each : ∀ side, Endpoint.WellFormed (tunnel.ends side) ∧
      Accounted socks acts side (tunnel.ends side) from (each side).2
  refine Execution.run_past (fun past tunnel => ∀ side, Endpoint.WellFormed (tunnel.ends side) ∧
    Accounted socks past side (tunnel.ends side)) ?_ ?_ execution
  · intro past before action after each taken side
    obtain ⟨well, accounted⟩ := each side
    rcases step_at taken side with ⟨same, elsewhere⟩ | ⟨endpointAct, stepped, same⟩
    · rw [same]
      exact ⟨well, accounted.keep elsewhere⟩
    · exact ⟨well.step (Endpoint.step_cases stepped), accounted.step well stepped same⟩
  · exact fun side => ⟨(Endpoint.sound_new side link).well, accounted_new side link⟩

/-- The relay of a session at either end makes of the datagrams and frames it gets what it
should. -/
theorem carries_of_run {filterConfig : FilterConfig} {link : LinkId}
    (execution : Execution.run (step linkMdu socks) (new filterConfig link) acts = some tunnel)
    {side : Side} {chan : ChanId} {task : Task}
    (found : (tunnel.ends side).tasks chan = some task) :
    task.Carries socks (sessionActs side chan acts) := by
  obtain ⟨past, accounted, same⟩ := accounted_of_run execution side
  obtain ⟨start, _, own⟩ := accounted.task chan task found
  rw [same] at own
  exact Task.carries_of_run own

/-- The datagrams that have arrived at the socket of a session at one end. -/
def arrivals (side : Side) (chan : ChanId) (acts : List TunnelAct) : List (SocketAddr × Bytes) :=
  Task.arrivals (sessionActs side chan acts)

/-- A SOCKS5 UDP session: its tasks at the two ends, and the relays they have spawned. -/
structure UdpSession (tunnel : Tunnel) (config : FilterConfig) (chan : Side → ChanId)
    (relay : Side → Relay) : Prop where
  /-- Both tasks have the same session id. -/
  tasks : ∃ sid, ∀ side, ∃ task, (tunnel.ends side).tasks (chan side) = some task ∧
    task.sid = sid ∧ task.relay = some (relay side)
  /-- The relay of the application. -/
  client : (relay .client).kind = .udpClientSide
  /-- The relay of the server. -/
  server : (relay .server).kind = .udpServerSide config

theorem udpSession_of_tasks {tunnel : Tunnel} {config : FilterConfig} {source sink : Task}
    {client server : Relay} (sends : (tunnel.ends .client).tasks 0 = some source)
    (receives : (tunnel.ends .server).tasks 0 = some sink) (same_sid : sink.sid = source.sid)
    (spawned : source.relay = some client) (spawned_sink : sink.relay = some server)
    (kind : client.kind = .udpClientSide) (kind_sink : server.kind = .udpServerSide config) :
    tunnel.UdpSession config (fun _ => 0) (Side.each client server) := by
  refine ⟨⟨source.sid, ?_⟩, kind, kind_sink⟩
  rintro (_ | _)
  · exact ⟨source, sends, rfl, spawned⟩
  · exact ⟨sink, receives, same_sid, spawned_sink⟩

/-- The datagrams that leave either end of a session are, whole and in order, among those that have
arrived at the other, and no datagram has ended a task of its relays. -/
structure KeepsDatagrams (socks : FastSocks5) (acts : List TunnelAct) (chan : Side → ChanId)
    (relay : Side → Relay) : Prop where
  /-- What departs carries what an arrival carries. -/
  whole : ∀ side, ((relay side.peer).departures.map (side.peer.carried socks)).Sublist
    ((arrivals side (chan side) acts).map fun arrival => side.carried socks arrival.2)
  /-- A reader ends only when its socket fails. -/
  reader : ∀ side, (relay side).reader = .finished →
    .session side (chan side) (.relay .readFailed) ∈ acts
  /-- A writer ends only when its channel or its session is closed. -/
  writer : ∀ side, (relay side).writer = .finished →
    .session side (chan side) (.relay (.recv none)) ∈ acts ∨
      ∃ frame ∈ (relay side).received, frame.frameType = .close

/-- What the datagrams of a session are to be like: not empty, and no longer than the buffer unless
the filter rejects them; those of the application requests that can be parsed. And none of them
fails to be sent. -/
structure Carriable (socks : FastSocks5) (config : FilterConfig) (acts : List TunnelAct)
    (chan : Side → ChanId) : Prop where
  /-- No datagram is empty. -/
  nonempty : ∀ side, ∀ arrival ∈ arrivals side (chan side) acts, arrival.2 ≠ []
  /-- A datagram that is not rejected fits the buffer. -/
  short : ∀ side, ∀ arrival ∈ arrivals side (chan side) acts,
    arrival.2.length ≤ READ_BUFFER ∨ side = .server ∧ allowedIp arrival.1 config .udp = false
  /-- The application sends UDP requests. -/
  parsed : ∀ arrival ∈ arrivals .client (chan .client) acts,
    (socks.parseUdpRequest arrival.2).isSome = true
  /-- `send_to` does not fail. -/
  sent : ∀ side, .session side (chan side) (.relay .writeFailed) ∉ acts

section Sessions

variable {config : FilterConfig} {chan : Side → ChanId} {relay : Side → Relay}

theorem mem_relayActs {side : Side} {owner : ChanId} {relayAct : RelayAct} :
    relayAct ∈ (sessionActs side owner acts).filterMap TaskAct.relayAct ↔
      .session side owner (.relay relayAct) ∈ acts := by
  simp only [sessionActs, List.mem_filterMap]
  constructor
  · rintro ⟨act, ⟨tunnelAct, member, acts⟩, relays⟩
    cases act with
    | relay other =>
        obtain rfl := Option.some.inj relays
        cases tunnelAct with
        | session at_side at_owner act =>
            simp only [taskAct, Option.ite_none_right_eq_some, Option.some.injEq] at acts
            obtain ⟨⟨rfl, rfl⟩, rfl⟩ := acts
            exact member
        | _ => cases acts
    | _ => cases relays
  · intro member
    exact ⟨.relay relayAct, ⟨_, member, by simp [taskAct]⟩, rfl⟩

theorem mem_arrivals {side : Side} {owner : ChanId} {source : SocketAddr} {available : Bytes}
    (member : .read source available ∈
      (sessionActs side owner acts).filterMap TaskAct.relayAct) :
    (source, available) ∈ arrivals side owner acts :=
  List.mem_filterMap.mpr ⟨_, member, rfl⟩

theorem Coherent.received_sublist (coherent : tunnel.Coherent) {side : Side} {owner peer : ChanId}
    {source sink : Task} (sends : (tunnel.ends side).tasks owner = some source)
    (receives : (tunnel.ends side.peer).tasks peer = some sink) (same_sid : sink.sid = source.sid)
    {relay : Relay} (spawned : sink.relay = some relay) :
    relay.received.Sublist source.sent := by
  have taken : sink.taken = sink.answers ++ relay.received := by simp [Task.taken, spawned]
  calc
    relay.received.Sublist sink.taken := taken ▸ List.sublist_append_right _ _
    List.Sublist _ ((tunnel.ends side.peer).inbox peer sink) := List.sublist_append_left _ _
    List.Sublist _ (side.peer.dispatched sink.sid (tunnel.inbound side.peer).handled) :=
      ((coherent.delivers side.peer peer sink receives).1).sublist
    List.Sublist _ (framesOf sink.sid (tunnel.inbound side.peer).handled) := List.filter_sublist
    List.Sublist _ source.sent := by
      rw [(coherent.sent_split sends).1, same_sid, List.append_assoc]
      exact List.sublist_append_left _ _

/-- The payloads a writer has taken were made of what arrived at the other end. -/
theorem UdpSession.payloads_received {filterConfig : FilterConfig} {link : LinkId}
    (session : tunnel.UdpSession config chan relay)
    (execution : Execution.run (step linkMdu socks) (new filterConfig link) acts = some tunnel)
    (distinct : tunnel.DistinctIds) (side : Side) :
    (payloads (relay side.peer).received).Sublist
      ((arrivals side (chan side) acts).filterMap ((relay side).kind.forwarded socks)) := by
  obtain ⟨sid, tasks⟩ := session.tasks
  obtain ⟨source, sends, source_sid, spawned⟩ := tasks side
  obtain ⟨sink, receives, sink_sid, spawned_sink⟩ := tasks side.peer
  have coherent := coherent_of_reachable ⟨acts, execution⟩ distinct
  have received := coherent.received_sublist sends receives (sink_sid.trans source_sid.symm)
    spawned_sink
  have forwards := (carries_of_run execution sends).forwards (relay side) spawned
  calc
    (payloads (relay side.peer).received).Sublist (payloads source.sent) := received.filterMap _
    List.Sublist _ (payloads source.sent ++ (relay side).reader.held) :=
      List.sublist_append_left _ _
    List.Sublist _ _ := forwards

/-- What an end of a session forwards of an arrival is the whole of it, in a wrapping the other end
undoes. -/
theorem Carriable.forwarded (carriable : Carriable socks config acts chan)
    (unwraps : socks.Unwraps) (session : tunnel.UdpSession config chan relay) {side : Side}
    {arrival : SocketAddr × Bytes} (member : arrival ∈ arrivals side (chan side) acts)
    {payload : Bytes} (forwards : (relay side).kind.forwarded socks arrival = some payload) :
    Side.client.carried socks payload = side.carried socks arrival.2 ∧
      (side = .client → payload = arrival.2) := by
  obtain ⟨source, available⟩ := arrival
  cases side with
  | client =>
      have fits : available.length ≤ READ_BUFFER := by
        rcases carriable.short .client _ member with fits | ⟨server, _⟩
        · exact fits
        · cases server
      have same : available.take READ_BUFFER = payload := by
        simpa [RelayKind.forwarded, session.client, RelayKind.program,
          relayBidirectionalUdpClientSide] using forwards
      rw [List.take_of_length_le fits] at same
      exact ⟨congrArg _ same.symm, fun _ => same.symm⟩
  | server =>
      obtain ⟨header, wrapped, undoes⟩ := unwraps source
      cases allowed : allowedIp source config .udp with
      | false =>
          simp [RelayKind.forwarded, session.server, RelayKind.program,
            relayBidirectionalUdpServerSide, allowed] at forwards
      | true =>
          have fits : available.length ≤ READ_BUFFER := by
            rcases carriable.short .server _ member with fits | ⟨_, rejected⟩
            · exact fits
            · exact absurd (allowed.symm.trans rejected) (by decide)
          have same : header ++ available.take READ_BUFFER = payload := by
            simpa [RelayKind.forwarded, session.server, RelayKind.program,
              relayBidirectionalUdpServerSide, allowed, wrapped] using forwards
          rw [List.take_of_length_le fits] at same
          obtain ⟨fragment, parsed⟩ := undoes available
          exact ⟨by simp [Side.carried, ← same, parsed], by simp⟩

theorem UdpSession.not_stop_onRead (session : tunnel.UdpSession config chan relay)
    (unwraps : socks.Unwraps) (side : Side) (source : SocketAddr) (data : Bytes) :
    ((relay side).kind.program socks).onRead source data ≠ .stop := by
  cases side with
  | client => simp [session.client, RelayKind.program, relayBidirectionalUdpClientSide]
  | server =>
      obtain ⟨header, wrapped, _⟩ := unwraps source
      cases allowed : allowedIp source config .udp <;>
        simp [session.server, RelayKind.program, relayBidirectionalUdpServerSide, allowed, wrapped]

theorem UdpSession.of_stop_onFrame (session : tunnel.UdpSession config chan relay) {side : Side}
    {port : Option UInt16} {frame : Frame}
    (stops : ((relay side).kind.program socks).onFrame port frame = .stop) :
    frame.frameType = .close ∨ side = .server ∧ frame.frameType = .data ∧
      socks.parseUdpRequest frame.payload = none := by
  cases side with
  | client =>
      cases type : frame.frameType with
      | close => exact .inl rfl
      | data =>
          cases port <;>
            simp [session.client, RelayKind.program, relayBidirectionalUdpClientSide, type] at stops
      | _ =>
          simp [session.client, RelayKind.program, relayBidirectionalUdpClientSide, type] at stops
  | server =>
      cases type : frame.frameType with
      | close => exact .inl rfl
      | data =>
          cases parsed : socks.parseUdpRequest frame.payload with
          | none => exact .inr ⟨rfl, rfl, rfl⟩
          | some request =>
              simp [session.server, RelayKind.program, relayBidirectionalUdpServerSide, type,
                parsed] at stops
      | _ =>
          simp [session.server, RelayKind.program, relayBidirectionalUdpServerSide, type] at stops

/-- What a writer finds in a frame carries what the arrival does that the frame was made of. -/
theorem Carriable.carried (carriable : Carriable socks config acts chan)
    (unwraps : socks.Unwraps) (session : tunnel.UdpSession config chan relay) {side : Side}
    {arrival : SocketAddr × Bytes} (member : arrival ∈ arrivals side (chan side) acts)
    {datagram : Bytes} (found : ((relay side).kind.forwarded socks arrival).bind
      ((relay side.peer).kind.found socks) = some datagram) :
    side.peer.carried socks datagram = side.carried socks arrival.2 := by
  obtain ⟨payload, forwards, finds⟩ := Option.bind_eq_some_iff.mp found
  rw [← (carriable.forwarded unwraps session member forwards).1]
  cases side with
  | client =>
      rw [show Side.client.peer = .server from rfl, session.server] at finds
      exact finds.symm
  | server =>
      rw [show Side.server.peer = .client from rfl, session.client] at finds
      rw [Option.some.inj finds]
      rfl

/-- What departs from one end of a session was found in frames made of what arrived at the other. -/
theorem UdpSession.departures_sublist {filterConfig : FilterConfig} {link : LinkId}
    (session : tunnel.UdpSession config chan relay)
    (execution : Execution.run (step linkMdu socks) (new filterConfig link) acts = some tunnel)
    (distinct : tunnel.DistinctIds) (side : Side) :
    (relay side.peer).departures.Sublist
      ((arrivals side (chan side) acts).filterMap fun arrival =>
        ((relay side).kind.forwarded socks arrival).bind ((relay side.peer).kind.found socks)) := by
  obtain ⟨sid, tasks⟩ := session.tasks
  obtain ⟨sink, receives, _, spawned⟩ := tasks side.peer
  have departs := (carries_of_run execution receives).departs (relay side.peer) spawned
  have received := session.payloads_received execution distinct side
  rw [← List.filterMap_filterMap]
  calc
    (relay side.peer).departures.Sublist
        ((relay side.peer).departures ++ (relay side.peer).writer.held) :=
      List.sublist_append_left _ _
    List.Sublist _ ((payloads (relay side.peer).received).filterMap
        ((relay side.peer).kind.found socks)) := departs
    List.Sublist _ _ := received.filterMap _

/-- The tasks of the relays of a session end for a reason. -/
theorem UdpSession.ends {filterConfig : FilterConfig} {link : LinkId}
    (session : tunnel.UdpSession config chan relay)
    (execution : Execution.run (step linkMdu socks) (new filterConfig link) acts = some tunnel)
    (side : Side) :
    (relay side).Ends socks
      ((sessionActs side (chan side) acts).filterMap TaskAct.relayAct) := by
  obtain ⟨sid, tasks⟩ := session.tasks
  obtain ⟨task, found, _, spawned⟩ := tasks side
  have aborts : ((relay side).kind.program socks).aborts = false := by
    cases side with
    | client => rw [session.client]; rfl
    | server => rw [session.server]; rfl
  exact (carries_of_run execution found).ends (relay side) spawned aborts

/-- The server parses every DATA frame of a session whose application sends UDP requests. -/
theorem Carriable.parsed_received {filterConfig : FilterConfig} {link : LinkId}
    (carriable : Carriable socks config acts chan) (unwraps : socks.Unwraps)
    (session : tunnel.UdpSession config chan relay)
    (execution : Execution.run (step linkMdu socks) (new filterConfig link) acts = some tunnel)
    (distinct : tunnel.DistinctIds) {frame : Frame} (taken : frame ∈ (relay .server).received)
    (isData : frame.frameType = .data) : socks.parseUdpRequest frame.payload ≠ none := by
  have payload : frame.payload ∈ payloads (relay .server).received :=
    List.mem_filterMap.mpr ⟨frame, taken, by simp [isData]⟩
  have made := (session.payloads_received execution distinct .client).subset payload
  obtain ⟨arrival, arrived, forwards⟩ := List.mem_filterMap.mp made
  rw [(carriable.forwarded unwraps session arrived forwards).2 rfl]
  exact Option.isSome_iff_ne_none.mp (carriable.parsed arrival arrived)

/-- The relays of a session keep its datagrams as long as they are such as it can carry. -/
theorem keepsDatagrams {filterConfig : FilterConfig} {link : LinkId} (unwraps : socks.Unwraps)
    (execution : Execution.run (step linkMdu socks) (new filterConfig link) acts = some tunnel)
    (distinct : tunnel.DistinctIds) (session : tunnel.UdpSession config chan relay)
    (carriable : Carriable socks config acts chan) : KeepsDatagrams socks acts chan relay := by
  refine ⟨fun side => ?_, fun side finished => ?_, fun side finished => ?_⟩
  · calc
      ((relay side.peer).departures.map (side.peer.carried socks)).Sublist _ :=
        (session.departures_sublist execution distinct side).map _
      List.Sublist _ _ := Execution.map_filterMap_sublist fun arrival member datagram found =>
        carriable.carried unwraps session member found
  · rcases (session.ends execution side).reader finished with
      failed | ⟨source, available, member, empty | stops⟩
    · exact mem_relayActs.mp failed
    · exact absurd empty (carriable.nonempty side _ (mem_arrivals member))
    · exact absurd stops (session.not_stop_onRead unwraps side source _)
  · rcases (session.ends execution side).writer finished with
      failed | closed | ⟨frame, member, port, stops⟩
    · exact absurd (mem_relayActs.mp failed) (carriable.sent side)
    · exact .inl (mem_relayActs.mp closed)
    · rcases session.of_stop_onFrame stops with close | ⟨rfl, isData, unparsed⟩
      · exact .inr ⟨frame, member, close⟩
      · exact absurd unparsed
          (carriable.parsed_received unwraps session execution distinct member isData)

end Sessions

/-- An application asks for a UDP association, and the server opens the session. -/
def openUdpSession : List TunnelAct :=
  [.nextSessionId, .accept .socks 1, .session .client 0 (.handshake true),
    .session .client 0 (.command (some (.udpAssociate, localhost, 0))),
    .session .client 0 .send] ++
    passFrame .client ++
    [.session .server 0 (.bound none), .session .server 0 .send] ++ passFrame .server ++
    [.session .client 0 (.recv (some ⟨.connectOk, 1, []⟩)), .session .client 0 (.bound none),
      .session .client 0 (.replied true)]

/-- A host sends an empty datagram to the session. -/
def emptyDatagram : List TunnelAct :=
  openUdpSession ++ [.session .server 0 (.relay (.read ⟨.v4 ⟨8, 8, 8, 8⟩, 53⟩ []))]

/-- The empty datagram ends the reader of the server. -/
theorem not_keepsDatagrams_emptyDatagram :
    ∃ tunnel client server,
      Execution.run (step 431 .rfc1928) (new (serverConfig true true) 1) emptyDatagram =
        some tunnel ∧
      tunnel.DistinctIds ∧
      tunnel.UdpSession (serverConfig true true) (fun _ => 0) (Side.each client server) ∧
      ¬ KeepsDatagrams .rfc1928 emptyDatagram (fun _ => 0) (Side.each client server) := by
  have ends : ∃ tunnel source sink client server,
      Execution.run (step 431 .rfc1928) (new (serverConfig true true) 1) emptyDatagram =
        some tunnel ∧
      (tunnel.ends .client).tasks 0 = some source ∧ (tunnel.ends .server).tasks 0 = some sink ∧
      sink.sid = source.sid ∧ source.relay = some client ∧ sink.relay = some server ∧
      (tunnel.ends .client).mux.nextChan = 1 ∧ client.kind = .udpClientSide ∧
      server.kind = .udpServerSide (serverConfig true true) ∧ server.reader = .finished :=
    ⟨_, _, _, _, _, rfl, rfl, rfl, rfl, rfl, rfl, rfl, rfl, rfl, rfl⟩
  obtain ⟨tunnel, source, sink, client, server, execution, sends, receives, same_sid, spawned,
    spawned_sink, single, kind, kind_sink, finished⟩ := ends
  refine ⟨tunnel, client, server, execution,
    distinctIds_of_single ⟨emptyDatagram, execution⟩ single,
    udpSession_of_tasks sends receives same_sid spawned spawned_sink kind kind_sink,
    fun keeps => ?_⟩
  have failed := keeps.reader .server finished
  revert failed
  decide

/-- The application sends a datagram to a host, and the host answers it. -/
def exchange : List TunnelAct :=
  openUdpSession ++
    [.session .client 0 (.relay (.read ⟨.v4 Ipv4Addr.LOCALHOST, 4000⟩
        [0, 0, 0, 1, 8, 8, 8, 8, 0, 53, 7])),
      .session .client 0 (.relay .readerSend)] ++
    passFrame .client ++
    [.session .server 0 (.relay (.recv (some ⟨.data, 1, [0, 0, 0, 1, 8, 8, 8, 8, 0, 53, 7]⟩))),
      .session .server 0 (.relay (.resolved (some (.ip ⟨.v4 ⟨8, 8, 8, 8⟩, 53⟩)))),
      .session .server 0 (.relay .writeDone),
      .session .server 0 (.relay (.read ⟨.v4 ⟨8, 8, 8, 8⟩, 53⟩ [9])),
      .session .server 0 (.relay .readerSend)] ++
    passFrame .server ++
    [.session .client 0 (.relay (.recv (some ⟨.data, 1, [0, 0, 0, 1, 8, 8, 8, 8, 0, 53, 9]⟩)))]

/-- Both datagrams are carried whole. -/
theorem keepsDatagrams_exchange :
    ∃ tunnel client server,
      Execution.run (step 431 .rfc1928) (new (serverConfig true true) 1) exchange = some tunnel ∧
      server.departures = [[7]] ∧
      client.departures = [[0, 0, 0, 1, 8, 8, 8, 8, 0, 53, 9]] ∧
      KeepsDatagrams .rfc1928 exchange (fun _ => 0) (Side.each client server) := by
  have ends : ∃ tunnel source sink client server,
      Execution.run (step 431 .rfc1928) (new (serverConfig true true) 1) exchange = some tunnel ∧
      (tunnel.ends .client).tasks 0 = some source ∧ (tunnel.ends .server).tasks 0 = some sink ∧
      sink.sid = source.sid ∧ source.relay = some client ∧ sink.relay = some server ∧
      (tunnel.ends .client).mux.nextChan = 1 ∧ client.kind = .udpClientSide ∧
      server.kind = .udpServerSide (serverConfig true true) ∧ server.departures = [[7]] ∧
      client.departures = [[0, 0, 0, 1, 8, 8, 8, 8, 0, 53, 9]] :=
    ⟨_, _, _, _, _, rfl, rfl, rfl, rfl, rfl, rfl, rfl, rfl, rfl, rfl, rfl⟩
  obtain ⟨tunnel, source, sink, client, server, execution, sends, receives, same_sid, spawned,
    spawned_sink, single, kind, kind_sink, sent, answered⟩ := ends
  have session :=
    udpSession_of_tasks sends receives same_sid spawned spawned_sink kind kind_sink
  have at_client : arrivals .client 0 exchange =
      [(⟨.v4 Ipv4Addr.LOCALHOST, 4000⟩, [0, 0, 0, 1, 8, 8, 8, 8, 0, 53, 7])] := rfl
  have at_server : arrivals .server 0 exchange = [(⟨.v4 ⟨8, 8, 8, 8⟩, 53⟩, [9])] := rfl
  have carriable : Carriable .rfc1928 (serverConfig true true) exchange fun _ => 0 := by
    refine ⟨?_, ?_, ?_, ?_⟩
    · rintro (_ | _) <;> simp [at_client, at_server]
    · rintro (_ | _) <;> simp [at_client, at_server, READ_BUFFER]
    · simp [at_client, FastSocks5.rfc1928]
    · rintro (_ | _) <;> decide
  exact ⟨tunnel, client, server, execution, sent, answered,
    keepsDatagrams FastSocks5.unwraps_rfc1928 execution
      (distinctIds_of_single ⟨exchange, execution⟩ single) session carriable⟩

end Tunnel

end RnsProxy
