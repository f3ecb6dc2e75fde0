import RnsProxy.Projection

/-!
# Datagrams from forbidden sources

A UDP session of the server reads datagrams from an unconnected socket, to which any host may send.
The filter decides which of them are forwarded, but the reader looks at the length of a datagram
before it asks the filter. This file determines the runs of a UDP session on which the datagrams the
filter rejects have no effect.
-/

namespace RnsProxy

/-- A datagram whose source the filter rejects. -/
def TaskAct.forbidden (config : FilterConfig) : TaskAct → Bool
  | relay (.read source _) => !allowedIp source config .udp
  | _ => false

namespace Task

/-- The datagrams the session has sent out, with their targets, in order. -/
def datagrams (task : Task) : List Io :=
  match task.relay with
  | some relay => relay.writerIo.filter fun event =>
      match event with
      | .sendTo _ _ => true
      | _ => false
  | none => []

/-- The session is still running: no task of its relay has ended, or it has no relay yet. -/
def isRunning (task : Task) : Bool :=
  match task.relay with
  | some relay => !relay.selectReady
  | none => !task.hasEnded

/-- Two states of a session that the client and the hosts it talks to cannot tell apart. -/
structure LooksLike (task other : Task) : Prop where
  /-- The frames sent to the client. -/
  sent : task.sent = other.sent
  /-- The datagrams sent out. -/
  datagrams : task.datagrams = other.datagrams
  /-- Where the handler stands. -/
  pc : task.pc = other.pc
  /-- Whether the session is still running. -/
  running : task.isRunning = other.isRunning

/-- At every moment of the run, leaving out the datagrams the filter has rejected so far gives a run
to a state that looks the same. -/
def Unaffected (socks : FastSocks5) (config : FilterConfig) (sid : UInt32) (acts : List TaskAct) :
    Prop :=
  ∀ front back task, acts = front ++ back →
    Execution.run (advance socks) (spawn (.serverUdp config) sid) front = some task →
    ∃ alone, Execution.run (advance socks) (spawn (.serverUdp config) sid)
        (front.filter fun act => !act.forbidden config) = some alone ∧
      LooksLike task alone

/-- An empty datagram the filter rejects is read only after a task of the relay has ended. -/
def ReadsEmptyLate (config : FilterConfig) (task : Task) (act : TaskAct) : Prop :=
  ∀ source, act = .relay (.read source []) → allowedIp source config .udp = false →
    task.isRunning = false

end Task

/-! ## Leaving out rejected datagrams -/

namespace Relay

/-- A relay with the reader of another. -/
def withReader (relay other : Relay) : Relay :=
  { relay with
    reader := other.reader
    taken := other.taken
    sawEof := other.sawEof
    readerIo := other.readerIo }

/-- The two relays differ in what the reader has seen of rejected datagrams only; the reader of the
first may have ended at an empty one after the writer had ended. -/
structure Mirrors (config : FilterConfig) (relay alone : Relay) : Prop where
  /-- The relay of a UDP session of the server. -/
  kind : relay.kind = .udpServerSide config
  /-- No task is aborted. -/
  detached : relay.aborted = false
  /-- There is no control connection. -/
  watching : relay.watching = true
  /-- All but the reader is the same. -/
  same : alone = relay.withReader alone
  /-- The readers. -/
  reader : alone.reader = relay.reader ∨ relay.reader = .finished ∧ relay.writer = .finished

variable {socks : FastSocks5} {config : FilterConfig} {sid : UInt32} {relay alone next : Relay}
  {act : RelayAct} {effect : Effect}

theorem mirrors_start :
    (start (.udpServerSide config)).Mirrors config (start (.udpServerSide config)) :=
  ⟨rfl, rfl, rfl, rfl, .inl rfl⟩

theorem Mirrors.selectReady (mirrors : relay.Mirrors config alone) :
    alone.selectReady = relay.selectReady := by
  rw [mirrors.same]
  rcases mirrors.reader with same | ⟨finished, both⟩
  · simp [Relay.selectReady, withReader, same]
  · simp [Relay.selectReady, withReader, finished, both]

theorem Mirrors.writer (mirrors : relay.Mirrors config alone) : alone.writer = relay.writer := by
  rw [mirrors.same]
  rfl

theorem Mirrors.writerIo (mirrors : relay.Mirrors config alone) :
    alone.writerIo = relay.writerIo := by
  rw [mirrors.same]
  rfl

theorem Mirrors.reader_eq (mirrors : relay.Mirrors config alone)
    (running : relay.reader ≠ .finished ∨ relay.writer ≠ .finished) :
    alone.reader = relay.reader :=
  mirrors.reader.resolve_right fun both => running.elim (fun reads => reads both.1)
    fun writes => writes both.2

/-- The program of the relay records no port. -/
theorem Mirrors.recordsPort (mirrors : relay.Mirrors config alone) :
    (relay.kind.program socks).recordsPort = false := by
  simp [mirrors.kind, RelayKind.program, relayBidirectionalUdpServerSide]

/-- Leaving out a rejected datagram changes nothing, unless it is empty and ends the reader. -/
theorem Mirrors.rejected (mirrors : relay.Mirrors config alone) {source : SocketAddr} {data : Bytes}
    (rejects : allowedIp source config .udp = false) (late : data = [] → relay.writer = .finished)
    (reading : relay.reader = .reading) :
    (relay.onRead socks source data).Mirrors config alone := by
  have same_reader := mirrors.reader_eq (.inl (by simp [reading]))
  rw [onRead]
  split
  · rename_i empty
    exact ⟨mirrors.kind, mirrors.detached, mirrors.watching, mirrors.same, .inr ⟨rfl, late empty⟩⟩
  · have skipped : (relay.kind.program socks).onRead source data = .skip := by
      simp [mirrors.kind, RelayKind.program, relayBidirectionalUdpServerSide, rejects]
    refine ⟨mirrors.kind, mirrors.detached, mirrors.watching, ?_, .inl ?_⟩
    · simpa [mirrors.recordsPort, withReader] using mirrors.same
    · simp [skipped, same_reader, reading]

/-- Both relays make the same of an accepted datagram. -/
theorem Mirrors.onRead (mirrors : relay.Mirrors config alone) (source : SocketAddr) (data : Bytes) :
    (relay.onRead socks source data).Mirrors config (alone.onRead socks source data) := by
  rw [mirrors.same, Relay.onRead, Relay.onRead]
  split
  · exact ⟨mirrors.kind, mirrors.detached, mirrors.watching, rfl, .inl rfl⟩
  · exact ⟨mirrors.kind, mirrors.detached, mirrors.watching, rfl, .inl rfl⟩

theorem onFrame_withReader (other : Relay) (frame : Frame) :
    (relay.withReader other).onFrame socks frame =
      (relay.onFrame socks frame).withReader other := by
  rw [onFrame, onFrame]
  simp only [withReader]
  split <;> rfl

theorem onResolved_withReader (other : Relay) (answer : Option TargetAddr) (data : Bytes) :
    (relay.withReader other).onResolved socks answer data =
      (relay.onResolved socks answer data).withReader other := by
  rw [onResolved, onResolved]
  simp only [withReader]
  split
  · split <;> rfl
  · rfl

theorem Mirrors.of_writer (mirrors : relay.Mirrors config alone)
    (running : relay.writer ≠ .finished)
    {writer : Writer} {failed : Bool} {received : List Frame} {written : Bytes} {writerIo : List Io}
    (next_eq : next = { relay with writer, failed, received, written, writerIo }) :
    next.Mirrors config (next.withReader alone) := by
  subst next_eq
  exact ⟨mirrors.kind, mirrors.detached, mirrors.watching, rfl,
    .inl (mirrors.reader_eq (.inr running))⟩

/-- Every step but the arrival of a rejected datagram is the same in both relays. -/
theorem Mirrors.step (mirrors : relay.Mirrors config alone)
    (taken : Step socks sid relay act next effect)
    (accepted : ∀ source available, act = .read source available →
      allowedIp source config .udp = true) :
    ∃ later, alone.step socks sid act = some (later, effect) ∧ next.Mirrors config later := by
  have same_kind : alone.kind = relay.kind := by rw [mirrors.same]; rfl
  have unrecorded : (alone.kind.program socks).recordsPort = false := by
    rw [same_kind, mirrors.recordsPort]
  cases taken with
  | @read source available reading =>
      have same_reader := mirrors.reader_eq (.inl (by simp [reading]))
      refine ⟨alone.onRead socks source (available.take READ_BUFFER), ?_, mirrors.onRead _ _⟩
      simp [Relay.step, same_reader, reading, unrecorded]
  | readFailed reading =>
      have same_reader := mirrors.reader_eq (.inl (by simp [reading]))
      refine ⟨{ alone with reader := .finished, failed := true }, ?_, ?_⟩
      · simp [Relay.step, same_reader, reading]
      · rw [mirrors.same]
        exact ⟨mirrors.kind, mirrors.detached, mirrors.watching, rfl, .inl rfl⟩
  | @readerSend source payload holding =>
      have same_reader := mirrors.reader_eq (.inl (by simp [holding]))
      refine ⟨{ alone with
        reader := .reading
        readerIo := alone.readerIo ++ [.forwarded source payload] }, ?_, ?_⟩
      · simp [Relay.step, same_reader, holding]
      · rw [mirrors.same]
        exact ⟨mirrors.kind, mirrors.detached, mirrors.watching, rfl, .inl rfl⟩
  | recvClosed receiving =>
      have running : relay.writer ≠ .finished := by simp [receiving]
      refine ⟨_, ?_, mirrors.of_writer running rfl⟩
      rw [mirrors.same]
      simp [Relay.step, withReader, receiving]
  | @recvFrame frame receiving =>
      have running : relay.writer ≠ .finished := by simp [receiving]
      obtain ⟨writer, writerIo, next_eq⟩ := relay.onFrame_frame socks frame
      refine ⟨_, ?_, mirrors.of_writer running next_eq⟩
      rw [← onFrame_withReader, ← mirrors.same]
      simp [Relay.step, mirrors.writer, receiving, unrecorded]
  | @resolved answer target data resolving =>
      have running : relay.writer ≠ .finished := by simp [resolving]
      obtain ⟨writer, writerIo, next_eq⟩ := relay.onResolved_frame socks answer data
      refine ⟨_, ?_, mirrors.of_writer running next_eq⟩
      rw [← onResolved_withReader, ← mirrors.same]
      simp [Relay.step, mirrors.writer, resolving]
  | wrote writing progress =>
      have running : relay.writer ≠ .finished := by simp [writing]
      refine ⟨_, ?_, mirrors.of_writer running rfl⟩
      rw [mirrors.same]
      simp [Relay.step, withReader, writing, progress]
  | writeDone finishing =>
      have running : relay.writer ≠ .finished := by
        rcases finishing with finishing | finishing <;> simp [finishing]
      refine ⟨_, ?_, mirrors.of_writer running rfl⟩
      rw [mirrors.same]
      simp [Relay.step, withReader, finishing]
  | writeFailed busy =>
      have running : relay.writer ≠ .finished := by
        rcases busy with ⟨rest, busy⟩ | busy <;> simp [busy]
      refine ⟨_, ?_, mirrors.of_writer running rfl⟩
      rw [mirrors.same]
      rcases busy with ⟨rest, busy⟩ | busy <;> simp [Relay.step, withReader, busy]
  | watched watches =>
      simp [mirrors.kind, RelayKind.program, relayBidirectionalUdpServerSide] at watches
  | cancelReader aborted => simp [mirrors.detached] at aborted
  | cancelWriter aborted => simp [mirrors.detached] at aborted

end Relay

/-- Where the handler of a UDP session of the server can stand. -/
def Pc.ServesUdp (config : FilterConfig) : Pc → Prop
  | .serverBinding own => own = config
  | .confirming kind => kind = .udpServerSide config
  | .refusing _ => True
  | .relaying => True
  | .closing _ => True
  | .dropping _ => True
  | .ended _ => True
  | _ => False

namespace Task

/-- The two sessions differ in what their readers have seen of rejected datagrams only. -/
structure Mirrors (config : FilterConfig) (task alone : Task) : Prop where
  /-- The session is a UDP session of the server. -/
  pc : task.pc.ServesUdp config
  /-- All but the relay is the same. -/
  same : alone = { task with relay := alone.relay }
  /-- The relays. -/
  relay : task.relay = none ∧ alone.relay = none ∨
    ∃ relay other, task.relay = some relay ∧ alone.relay = some other ∧ relay.Mirrors config other

variable {socks : FastSocks5} {config : FilterConfig} {sid : UInt32} {task alone next : Task}
  {act : TaskAct} {effect : Effect}

theorem mirrors_spawn :
    (spawn (.serverUdp config) sid).Mirrors config (spawn (.serverUdp config) sid) :=
  ⟨rfl, rfl, .inl ⟨rfl, rfl⟩⟩

/-- Nobody can tell the two sessions apart. -/
theorem Mirrors.looksLike (mirrors : task.Mirrors config alone) : task.LooksLike alone := by
  have same := mirrors.same
  rcases mirrors.relay with ⟨none_left, none_right⟩ | ⟨relay, other, some_left, some_right, relays⟩
  · rw [none_right] at same
    rw [same]
    constructor <;> simp [datagrams, isRunning, hasEnded, none_left]
  · rw [some_right] at same
    rw [same]
    constructor
    · rfl
    · simp [datagrams, some_left, relays.writerIo]
    · rfl
    · simp [isRunning, some_left, relays.selectReady]

theorem Mirrors.of_pc (mirrors : task.Mirrors config alone) (pc : Pc) (serves : pc.ServesUdp config)
    (sent : List Frame) :
    { task with pc, sent }.Mirrors config { alone with pc, sent } := by
  refine ⟨serves, ?_, mirrors.relay⟩
  rw [mirrors.same]

/-- Both sessions enter the relay alike. -/
theorem Mirrors.startRelay (mirrors : task.Mirrors config alone) (sent : List Frame) :
    { task.startRelay (.udpServerSide config) with sent }.Mirrors config
      { alone.startRelay (.udpServerSide config) with sent } := by
  refine ⟨trivial, ?_, .inr ⟨_, _, rfl, rfl, Relay.mirrors_start⟩⟩
  rw [mirrors.same]
  rfl

theorem Mirrors.pc_eq (mirrors : task.Mirrors config alone) : alone.pc = task.pc := by
  rw [mirrors.same]

theorem Mirrors.sent_eq (mirrors : task.Mirrors config alone) : alone.sent = task.sent := by
  rw [mirrors.same]

theorem Mirrors.sid_eq (mirrors : task.Mirrors config alone) : alone.sid = task.sid := by
  rw [mirrors.same]

theorem advance_of_moves {pc : Pc} (moves : Moves task.pc act pc) :
    task.advance socks act = some { task with pc } := by
  generalize at_pc : task.pc = before at moves
  cases moves <;> simp [advance, Task.step, at_pc]

/-- The handler's own frames are the same in both sessions. -/
theorem Mirrors.send (mirrors : task.Mirrors config alone) {frame : Frame} {after : Task}
    (pending : task.pendingSend = some (frame, after)) :
    ∃ later, alone.advance socks .send = some later ∧
      { after with sent := task.sent ++ [frame] }.Mirrors config later := by
  have serves := mirrors.pc
  have pc_eq := mirrors.pc_eq
  have sid_eq := mirrors.sid_eq
  have sent_eq := mirrors.sent_eq
  cases pendingSend_cases pending with
  | connect connecting => simp [connecting, Pc.ServesUdp] at serves
  | refuse refusing =>
      refine ⟨_, ?_, mirrors.of_pc (.dropping .refused) trivial _⟩
      simp [advance, Task.step, pendingSend, pc_eq, refusing, sid_eq, sent_eq]
  | @confirm kind confirming =>
      obtain rfl : kind = .udpServerSide config := by simpa [confirming, Pc.ServesUdp] using serves
      refine ⟨_, ?_, mirrors.startRelay _⟩
      simp [advance, Task.step, pendingSend, pc_eq, confirming, sid_eq, sent_eq]
  | @close exit closing =>
      refine ⟨_, ?_, mirrors.of_pc (.dropping exit) trivial _⟩
      simp [advance, Task.step, pendingSend, pc_eq, closing, sid_eq, sent_eq]

/-- Every step but the arrival of a rejected datagram is the same in both sessions. -/
theorem Mirrors.step (mirrors : task.Mirrors config alone)
    (taken : Step socks task act next effect) (accepted : act.forbidden config = false) :
    ∃ later, alone.advance socks act = some later ∧ next.Mirrors config later := by
  have pc_eq := mirrors.pc_eq
  have sid_eq := mirrors.sid_eq
  have sent_eq := mirrors.sent_eq
  have serves := mirrors.pc
  cases taken with
  | @move _ pc moves =>
      have serves_next : pc.ServesUdp config := by
        generalize task.pc = before at moves serves
        cases moves with
        | serverBound => exact congrArg RelayKind.udpServerSide serves
        | serverBindFailed => trivial
        | bindPanicked => trivial
        | replyFailed => trivial
        | _ => exact serves.elim
      refine ⟨{ alone with pc }, advance_of_moves (pc_eq ▸ moves), ?_⟩
      simpa [sent_eq] using mirrors.of_pc pc serves_next task.sent
  | send pending => exact mirrors.send pending
  | reply waiting => simp [waiting, Pc.ServesUdp] at serves
  | timeout waiting => simp [waiting, Pc.ServesUdp] at serves
  | replied replying => simp [replying, Pc.ServesUdp] at serves
  | filtered filtering => simp [filtering, Pc.ServesUdp] at serves
  | @select relay relaying spawned ready =>
      rcases mirrors.relay with ⟨absent, _⟩ | ⟨left, right, found, found_alone, relays⟩
      · simp [absent] at spawned
      · obtain rfl := Option.some.inj (spawned.symm.trans found)
        have no_abort : (relay.kind.program socks).aborts = false := by
          simp [relays.kind, RelayKind.program, relayBidirectionalUdpServerSide]
        have same_kind : right.kind = relay.kind := by rw [relays.same]; rfl
        refine ⟨{ alone with
          pc := .closing .relayEnded
          relay := some { right with aborted := false } }, ?_, trivial, ?_, .inr ?_⟩
        · simp [advance, Task.step, pc_eq, relaying, found_alone, relays.selectReady, ready,
            same_kind, no_abort]
        · rw [mirrors.same]
        · refine ⟨_, _, rfl, rfl, relays.kind, no_abort, relays.watching, ?_, relays.reader⟩
          rw [relays.same, no_abort]
          rfl
  | @dropSession exit dropping =>
      refine ⟨{ alone with pc := .ended exit }, ?_, ?_⟩
      · simp [advance, Task.step, pc_eq, dropping]
      · simpa [sent_eq] using mirrors.of_pc (.ended exit) trivial task.sent
  | @relay act relay after effect spawned taken =>
      rcases mirrors.relay with ⟨absent, _⟩ | ⟨left, right, found, found_alone, relays⟩
      · simp [absent] at spawned
      · obtain rfl := Option.some.inj (spawned.symm.trans found)
        have allowed : ∀ source available, act = .read source available →
            allowedIp source config .udp = true := by
          rintro source available rfl
          simpa [TaskAct.forbidden] using accepted
        obtain ⟨later, stepped, relays_after⟩ := relays.step taken allowed
        refine ⟨{ alone with relay := some later, sent := alone.sent ++ effect.frames }, ?_,
          serves, ?_, .inr ⟨_, _, rfl, rfl, relays_after⟩⟩
        · simp [advance, Task.step, found_alone, sid_eq, stepped]
        · rw [sent_eq, mirrors.same]

/-- Leaving out a rejected datagram changes nothing, unless it is empty and the session runs. -/
theorem Mirrors.rejected (mirrors : task.Mirrors config alone)
    (taken : Step socks task act next effect) (rejected : act.forbidden config = true)
    (late : ReadsEmptyLate config task act) : next.Mirrors config alone := by
  obtain ⟨source, available, rfl, rejects⟩ : ∃ source available,
      act = .relay (.read source available) ∧ allowedIp source config .udp = false := by
    simp only [TaskAct.forbidden] at rejected
    split at rejected
    · exact ⟨_, _, rfl, by simpa using rejected⟩
    · cases rejected
  cases taken with
  | move moves => exact absurd moves Moves.not_relay
  | @relay _ relay after effect spawned taken =>
      rcases mirrors.relay with ⟨absent, _⟩ | ⟨left, right, found, found_alone, relays⟩
      · simp [absent] at spawned
      · obtain rfl := Option.some.inj (spawned.symm.trans found)
        cases taken with
        | read reading =>
            have ended : available.take READ_BUFFER = [] → relay.writer = .finished := by
              intro empty
              obtain rfl : available = [] := by
                simpa [READ_BUFFER] using empty
              have stopped := late source rfl rejects
              simpa [isRunning, found, Relay.selectReady, reading, relays.watching] using stopped
            have relays_after :
                (relay.onRead socks source (available.take READ_BUFFER)).Mirrors config right :=
              relays.rejected rejects ended reading
            refine ⟨mirrors.pc, ?_, .inr ⟨_, _, rfl, found_alone, relays_after⟩⟩
            rw [mirrors.same]
            simp [Effect.frames]

/-- Leaving out the rejected datagrams of a run leads to a session that nobody can tell apart, if no
empty one is read while the session is running. -/
theorem mirrors_of_run {acts : List TaskAct}
    (late : Execution.Along (advance socks) (ReadsEmptyLate config) (spawn (.serverUdp config) sid)
      acts)
    (execution : Execution.run (advance socks) (spawn (.serverUdp config) sid) acts = some task) :
    ∃ alone, Execution.run (advance socks) (spawn (.serverUdp config) sid)
        (acts.filter fun act => !act.forbidden config) = some alone ∧
      task.Mirrors config alone := by
  have extended : ∀ past before act after,
      (∃ alone, Execution.run (advance socks) (spawn (.serverUdp config) sid)
          (past.filter fun act => !act.forbidden config) = some alone ∧
        before.Mirrors config alone) →
      ReadsEmptyLate config before act → before.advance socks act = some after →
      ∃ alone, Execution.run (advance socks) (spawn (.serverUdp config) sid)
          ((past ++ [act]).filter fun act => !act.forbidden config) = some alone ∧
        after.Mirrors config alone := by
    rintro past before act after ⟨alone, so_far, mirrors⟩ late taken
    obtain ⟨effect, taken⟩ := advance_cases taken
    rw [List.filter_append]
    cases rejected : act.forbidden config with
    | true => exact ⟨alone, by simpa [rejected] using so_far, mirrors.rejected taken rejected late⟩
    | false =>
        obtain ⟨later, stepped, mirrors_after⟩ := mirrors.step taken rejected
        refine ⟨later, Execution.run_append_eq_some.mpr ⟨alone, so_far, ?_⟩, mirrors_after⟩
        simp [rejected, Execution.run_cons, stepped]
  exact late.past (fun past task => ∃ alone, Execution.run (advance socks)
    (spawn (.serverUdp config) sid) (past.filter fun act => !act.forbidden config) = some alone ∧
    task.Mirrors config alone) extended ⟨_, rfl, mirrors_spawn⟩ execution

theorem isRunning_of_empty {source : SocketAddr}
    (advanced : task.advance socks (.relay (.read source [])) = some next) :
    next.isRunning = false := by
  obtain ⟨effect, taken⟩ := advance_cases advanced
  clear advanced
  cases taken with
  | move moves => exact absurd moves Moves.not_relay
  | relay spawned taken =>
      cases taken with
      | read reading => simp [isRunning, Relay.onRead, Relay.selectReady]

/-- A run of a UDP session of the server is at every moment the same, as far as the client and the
hosts it talks to can see, as the run without the datagrams the filter rejects, exactly if no empty
one of them is read while the session is running. -/
theorem unaffected_iff {acts : List TaskAct} {final : Task}
    (execution : Execution.run (advance socks) (spawn (.serverUdp config) sid) acts = some final) :
    Unaffected socks config sid acts ↔
      Execution.Along (advance socks) (ReadsEmptyLate config) (spawn (.serverUdp config) sid)
        acts := by
  constructor
  · intro unaffected
    refine Execution.along_iff_forall_split.mpr ?_
    rintro front _ rest before rfl front_run source rfl rejects
    obtain ⟨middle, same_run, rest_run⟩ := Execution.run_append_eq_some.mp execution
    obtain rfl := Option.some.inj (front_run.symm.trans same_run)
    obtain ⟨after, taken, _⟩ := Execution.run_cons_eq_some.mp rest_run
    -- the run without rejected datagrams does not see the empty one
    obtain ⟨alone, alone_run, alike⟩ := unaffected front _ before rfl front_run
    obtain ⟨other, other_run, alike_after⟩ := unaffected
      (front ++ [.relay (.read source [])]) rest after (by simp)
      (Execution.run_append_eq_some.mpr ⟨before, front_run, by simp [Execution.run_cons, taken]⟩)
    have unseen : (front ++ [TaskAct.relay (.read source [])]).filter
        (fun act => !act.forbidden config) = front.filter fun act => !act.forbidden config := by
      simp [List.filter_append, TaskAct.forbidden, rejects]
    rw [unseen] at other_run
    obtain rfl := Option.some.inj (alone_run.symm.trans other_run)
    rw [alike.running, ← alike_after.running]
    exact isRunning_of_empty taken
  · rintro late front back task rfl front_run
    obtain ⟨alone, alone_run, mirrors⟩ :=
      mirrors_of_run (Execution.along_append.mp late).1 front_run
    exact ⟨alone, alone_run, mirrors.looksLike⟩

/-- The target of a session sends a datagram, and then a host that the filter excludes sends an
empty one. -/
def emptyDatagram : List TaskAct :=
  [.bound none, .send, .relay (.read ⟨.v4 ⟨9, 9, 9, 9⟩, 53⟩ [1]), .relay .readerSend,
    .relay (.read ⟨.v4 ⟨127, 0, 0, 1⟩, 5000⟩ [])]

/-- The empty datagram ends the session. -/
theorem not_unaffected_emptyDatagram :
    ¬ Unaffected .rfc1928 (serverConfig true true) 7 emptyDatagram := by
  intro unaffected
  have runs : ∃ task alone,
      Execution.run (advance .rfc1928) (spawn (.serverUdp (serverConfig true true)) 7)
          emptyDatagram = some task ∧
        Execution.run (advance .rfc1928) (spawn (.serverUdp (serverConfig true true)) 7)
            (emptyDatagram.filter fun act => !act.forbidden (serverConfig true true)) =
          some alone ∧
        task.isRunning = false ∧ alone.isRunning = true :=
    ⟨_, _, rfl, rfl, rfl, rfl⟩
  obtain ⟨task, alone, task_run, alone_run, stopped, running⟩ := runs
  obtain ⟨other, other_run, alike⟩ := unaffected emptyDatagram [] task (by simp) task_run
  obtain rfl := Option.some.inj (alone_run.symm.trans other_run)
  have same := alike.running
  rw [stopped, running] at same
  cases same

/-- Before the empty datagram arrives the run is covered by the condition. -/
theorem unaffected_iff_emptyDatagram_take :
    Unaffected .rfc1928 (serverConfig true true) 7 (emptyDatagram.take 4) ↔
      Execution.Along (advance .rfc1928) (ReadsEmptyLate (serverConfig true true))
        (spawn (.serverUdp (serverConfig true true)) 7) (emptyDatagram.take 4) :=
  unaffected_iff (rfl : Execution.run (advance .rfc1928)
    (spawn (.serverUdp (serverConfig true true)) 7) (emptyDatagram.take 4) = some _)

end Task

end RnsProxy
