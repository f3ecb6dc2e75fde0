import RnsProxy.Projection
import RnsProxy.Stream

/-!
# The address of UDP replies

A SOCKS5 UDP session of the client learns from the datagrams it receives where the application
listens. It records the port of the sender and takes the IP address for granted. This file
determines the runs in which the datagrams of the server go back to the sender they answer to.
-/

namespace RnsProxy

namespace Relay

/-- The senders of the datagrams the relay has recorded, in order. -/
def senders (relay : Relay) : List SocketAddr :=
  relay.readerIo.filterMap fun event =>
    match event with
    | .received source _ => some source
    | _ => none

/-- The recorded port is the one of the last sender. -/
def RecordsSender (relay : Relay) : Prop :=
  relay.clientLocalPort = relay.senders.getLast?.map SocketAddr.port

/-- What a step of a client side relay does at the socket of the relay. -/
inductive Answers (relay next : Relay) : RelayAct → Prop
  | silent {act} (same : next.writerIo = relay.writerIo)
      (unknown : ∀ frame, act = .recv (some frame) → frame.frameType = .data →
        relay.clientLocalPort = none) :
      Answers relay next act
  | datagram {frame port} (isData : frame.frameType = .data)
      (known : relay.clientLocalPort = some port)
      (sends : next.writerIo = relay.writerIo ++
        [.sendTo ⟨.v4 Ipv4Addr.LOCALHOST, port⟩ frame.payload]) :
      Answers relay next (.recv (some frame))

variable {socks : FastSocks5} {sid : UInt32} {relay next : Relay} {act : RelayAct} {effect : Effect}

theorem recordsSender_start (kind : RelayKind) : (start kind).RecordsSender := rfl

theorem RecordsSender.onRead (records : relay.RecordsSender) (kind : relay.kind = .udpClientSide)
    (source : SocketAddr) (data : Bytes) : (relay.onRead socks source data).RecordsSender := by
  rw [Relay.onRead]
  split
  · exact records
  · simp [RecordsSender, senders, kind, RelayKind.program, relayBidirectionalUdpClientSide]

theorem RecordsSender.step (records : relay.RecordsSender) (kind : relay.kind = .udpClientSide)
    (taken : Step socks sid relay act next effect) : next.RecordsSender := by
  cases taken with
  | read => exact records.onRead kind _ _
  | readerSend holding => simpa [RecordsSender, senders] using records
  | @recvFrame frame =>
      obtain ⟨writer, writerIo, same⟩ := relay.onFrame_frame socks frame
      rw [same]
      exact records
  | @resolved answer target data =>
      obtain ⟨writer, writerIo, same⟩ := relay.onResolved_frame socks answer data
      rw [same]
      exact records
  | _ => exact records

theorem Step.answers (taken : Step socks sid relay act next effect)
    (kind : relay.kind = .udpClientSide) : Answers relay next act := by
  cases taken with
  | @read source available =>
      obtain ⟨reader, port, sawEof, taken, readerIo, same⟩ :=
        relay.onRead_frame socks source (available.take READ_BUFFER)
      exact .silent (by rw [same]) (by simp)
  | @recvFrame frame receiving unlocked =>
      cases type : frame.frameType with
      | data =>
          cases known : relay.clientLocalPort with
          | none =>
              refine .silent ?_ fun _ _ _ => known
              simp [onFrame, kind, RelayKind.program, relayBidirectionalUdpClientSide, type, known]
          | some port =>
              refine .datagram type known ?_
              simp [onFrame, kind, RelayKind.program, relayBidirectionalUdpClientSide, type, known]
      | _ =>
          refine .silent ?_ ?_
          · simp [onFrame, kind, RelayKind.program, relayBidirectionalUdpClientSide, type]
          · rintro other same isData
            cases same
            simp [type] at isData
  | @resolved answer target data =>
      refine .silent ?_ (by simp)
      simp [onResolved, kind, RelayKind.program, relayBidirectionalUdpClientSide]
  | _ => exact .silent rfl (by simp)

end Relay

namespace Task

/-- A datagram that a SOCKS5 UDP session sends to the application goes to the full address of the
last sender it has recorded, and so to an address from which a datagram was received. -/
def AnswersSender (socks : FastSocks5) (task : Task) (act : TaskAct) : Prop :=
  ∀ relay next later addr data, task.relay = some relay → relay.kind = .udpClientSide →
    task.advance socks act = some next → next.relay = some later →
      later.writerIo = relay.writerIo ++ [.sendTo addr data] →
        relay.senders.getLast? = some addr ∧ addr ∈ relay.senders

/-- When a SOCKS5 UDP session takes a DATA frame, the last sender it has recorded is on the
loopback address it sends to. -/
def SenderIsLocal (task : Task) (act : TaskAct) : Prop :=
  ∀ relay frame sender, task.relay = some relay → relay.kind = .udpClientSide →
    act = .relay (.recv (some frame)) → frame.frameType = .data →
      relay.senders.getLast? = some sender → sender.ip = .v4 Ipv4Addr.LOCALHOST

/-- The relay of a SOCKS5 UDP session records the port of the last sender. -/
structure Records (task : Task) : Prop where
  /-- There is no relay before the session is established. -/
  inTime : task.SpawnsInTime
  /-- The recorded port. -/
  port : ∀ relay, task.relay = some relay → relay.kind = .udpClientSide → relay.RecordsSender

section Steps

variable {socks : FastSocks5} {task next : Task} {act : TaskAct} {effect : Effect}

theorem records_spawn (start : Start) (sid : UInt32) : (spawn start sid).Records where
  inTime := spawnsInTime_spawn start sid
  port relay spawned := by simp [spawn] at spawned

theorem Records.step (records : task.Records) (taken : Step socks task act next effect) :
    next.Records := by
  refine ⟨records.inTime.step taken, fun later found kind => ?_⟩
  cases taken.relayChange records.inTime with
  | kept _ same _ => exact records.port later (same.symm.trans found) kind
  | @spawned kind' _ _ started _ =>
      obtain rfl := Option.some.inj (started.symm.trans found)
      exact Relay.recordsSender_start kind'
  | select _ found' _ aborts _ =>
      obtain rfl := Option.some.inj (aborts.symm.trans found)
      have port := records.port _ found' kind
      exact port
  | relay _ found' taken later_eq _ =>
      obtain rfl := Option.some.inj (later_eq.symm.trans found)
      have kind := taken.same_kind.1.symm.trans kind
      exact (records.port _ found' kind).step kind taken

theorem Records.answers_iff (records : task.Records)
    (taken : task.advance socks act = some next) :
    AnswersSender socks task act ↔ SenderIsLocal task act := by
  obtain ⟨effect, taken'⟩ := advance_cases taken
  constructor
  · rintro answers relay frame sender found kind rfl isData last
    cases taken' with
    | @relay _ relay' after effect found' relayTaken =>
        obtain rfl := Option.some.inj (found.symm.trans found')
        have known := records.port relay found kind
        rw [Relay.RecordsSender, last, Option.map_some] at known
        cases relayTaken.answers kind with
        | silent _ unknown => simp [unknown frame rfl isData] at known
        | @datagram _ port _ known' sends =>
            obtain ⟨to_last, _⟩ := answers relay _ after _ _ found kind taken rfl sends
            rw [Option.some.inj (last.symm.trans to_last)]
    | move moves => exact absurd moves Moves.not_relay
  · intro isLocal relay later after addr data found kind stepped found_later sends
    obtain rfl := Option.some.inj (taken.symm.trans stepped)
    have longer : after.writerIo ≠ relay.writerIo := by
      rw [sends]
      simp
    suffices last : relay.senders.getLast? = some addr from
      ⟨last, List.mem_of_getLast? last⟩
    cases taken'.relayChange records.inTime with
    | kept _ same _ =>
        obtain rfl := Option.some.inj (found_later.symm.trans (same.trans found))
        exact absurd rfl longer
    | spawned absent _ _ _ => simp [absent] at found
    | select _ found' _ aborts _ =>
        obtain rfl := Option.some.inj (found.symm.trans found')
        obtain rfl := Option.some.inj (aborts.symm.trans found_later)
        exact absurd rfl longer
    | @relay relayAct relay' after' acts found' relayTaken later_eq _ =>
        obtain rfl := Option.some.inj (found.symm.trans found')
        obtain rfl := Option.some.inj (later_eq.symm.trans found_later)
        cases relayTaken.answers kind with
        | silent same _ => exact absurd same longer
        | @datagram frame port isData known sends' =>
            obtain ⟨rfl, rfl⟩ : addr = ⟨.v4 Ipv4Addr.LOCALHOST, port⟩ ∧ data = frame.payload := by
              simpa using sends.symm.trans sends'
            have records := records.port relay found kind
            rw [Relay.RecordsSender, known] at records
            obtain ⟨sender, last, rfl⟩ := Option.map_eq_some_iff.mp records.symm
            have same_ip := isLocal relay frame sender found kind acts isData last
            rw [last, ← same_ip]

end Steps

/-- The datagrams of the server go back to the sender they answer to exactly in the runs in which,
whenever a DATA frame is taken, the last recorded sender is on the loopback address. -/
theorem answersSender_iff {socks : FastSocks5} {sid : UInt32} {acts : List TaskAct} {task : Task}
    (execution : Execution.run (advance socks) (spawn .socks sid) acts = some task) :
    Execution.Along (advance socks) (AnswersSender socks) (spawn .socks sid) acts ↔
      Execution.Along (advance socks) SenderIsLocal (spawn .socks sid) acts := by
  refine Execution.along_congr ?_ ?_ (records_spawn .socks sid) execution
  · intro before act after records _ taken
    obtain ⟨effect, taken⟩ := advance_cases taken
    exact records.step taken
  · intro before act after records taken
    exact records.answers_iff taken

/-- An application on another device sends a datagram through its SOCKS5 UDP session, and the server
answers. -/
def otherDevice : List TaskAct :=
  [.handshake true, .command (some (.udpAssociate, ⟨"0.0.0.0", by decide⟩, 0)), .send,
    .recv (some ⟨.connectOk, 1, []⟩), .bound none, .replied true,
    .relay (.read ⟨.v4 ⟨192, 168, 1, 7⟩, 5000⟩ [1]), .relay .readerSend,
    .relay (.recv (some ⟨.data, 1, [2]⟩))]

/-- The answer goes to the same port of the host of the client. -/
theorem not_answersSender_otherDevice :
    ∃ task, Execution.run (advance .rfc1928) (spawn .socks 1) otherDevice = some task ∧
      (task.relay.map Relay.writerIo) =
        some [.sendTo ⟨.v4 ⟨127, 0, 0, 1⟩, 5000⟩ [2]] ∧
      ¬ Execution.Along (advance .rfc1928) (AnswersSender .rfc1928) (spawn .socks 1)
        otherDevice := by
  refine ⟨_, rfl, rfl, fun along => ?_⟩
  have ends : ∃ before after relay later,
      Execution.run (advance .rfc1928) (spawn .socks 1) (otherDevice.take 8) = some before ∧
        before.advance .rfc1928 (.relay (.recv (some ⟨.data, 1, [2]⟩))) = some after ∧
        before.relay = some relay ∧ relay.kind = .udpClientSide ∧ after.relay = some later ∧
        later.writerIo = relay.writerIo ++ [.sendTo ⟨.v4 ⟨127, 0, 0, 1⟩, 5000⟩ [2]] ∧
        relay.senders.getLast? = some ⟨.v4 ⟨192, 168, 1, 7⟩, 5000⟩ :=
    ⟨_, _, _, _, rfl, rfl, rfl, rfl, rfl, rfl, rfl⟩
  obtain ⟨before, after, relay, later, front, taken, found, kind, found', sends, last⟩ := ends
  have answers := Execution.along_iff_forall_split.mp along (otherDevice.take 8) _ [] before rfl
    front
  obtain ⟨to_last, _⟩ := answers relay after later _ _ found kind taken found' sends
  rw [last] at to_last
  cases to_last

/-- Before the server answers the run is covered by the condition. -/
theorem answersSender_iff_otherDevice_take :
    Execution.Along (advance .rfc1928) (AnswersSender .rfc1928) (spawn .socks 1)
        (otherDevice.take 8) ↔
      Execution.Along (advance .rfc1928) SenderIsLocal (spawn .socks 1) (otherDevice.take 8) :=
  answersSender_iff
    (rfl : Execution.run (advance .rfc1928) (spawn .socks 1) (otherDevice.take 8) = some _)

end Task

end RnsProxy
