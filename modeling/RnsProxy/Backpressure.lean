import RnsProxy.Bookkeeping
import RnsProxy.Stream

/-!
# Backpressure

The channel in front of the link sender is short, so that a session reads from its stream only as
fast as the link takes what it reads: the other end of the stream then sees a slow reader, and not
one that swallows everything and does not answer. Whatever the sessions and the link do, a session
has never read more than a few buffers beyond what the link sender is done with.
-/

namespace RnsProxy

/-- The frame at the link sender. -/
def LinkSender.held : LinkSender → List Outgoing
  | idle => []
  | picked out => [out]
  | sending _ out _ => [out]
  | failed _ out => [out]

theorem LinkSender.length_held_le (sender : LinkSender) : sender.held.length ≤ 1 := by
  cases sender <;> simp [held]

/-- The frames that have entered the send queue and not left the link sender. -/
def Mux.waiting (mux : Mux) : List Outgoing :=
  mux.sender.held ++ mux.dataSenderBuf

/-- The frames the link sender is done with. -/
def Mux.gone (mux : Mux) : List Outgoing :=
  mux.log.take (mux.log.length - mux.waiting.length)

/-- The frames of one task. -/
def framesBy (chan : ChanId) (outgoing : List Outgoing) : List Frame :=
  (outgoing.filter fun out => out.origin == some chan).map Outgoing.frame

@[simp]
theorem framesBy_append (chan : ChanId) (front back : List Outgoing) :
    framesBy chan (front ++ back) = framesBy chan front ++ framesBy chan back := by
  simp [framesBy]

theorem length_framesBy_le (chan : ChanId) (outgoing : List Outgoing) :
    (framesBy chan outgoing).length ≤ outgoing.length := by
  rw [framesBy, List.length_map]
  exact List.length_filter_le _ _

theorem length_dataOf_le {bound : ℕ} {frames : List Frame}
    (small : ∀ frame ∈ frames, frame.frameType = .data → frame.payload.length ≤ bound) :
    (dataOf frames).length ≤ frames.length * bound := by
  induction frames with
  | nil => simp
  | cons frame frames ih =>
      have rest := ih fun other member => small other (List.mem_cons_of_mem frame member)
      have split : dataOf (frame :: frames) = dataOf [frame] ++ dataOf frames :=
        dataOf_append [frame] frames
      have first : (dataOf [frame]).length ≤ bound := by
        by_cases data : frame.frameType = .data
        · rw [dataOf_singleton_of_data data]
          exact small frame List.mem_cons_self data
        · rw [dataOf_eq_nil (by simpa using data)]
          exact Nat.zero_le bound
      rw [split, List.length_append, List.length_cons, Nat.succ_mul]
      omega

/-! ## The queue is short -/

/-- The history of the send queue ends with the frames that wait, and they are few. -/
structure Mux.Bounded (mux : Mux) : Prop where
  /-- What waits was the last to come. -/
  suffix : mux.waiting <:+ mux.log
  /-- The channel has a capacity. -/
  short : mux.dataSenderBuf.length ≤ SEND_QUEUE_CAPACITY

namespace Mux.Bounded

variable {linkMdu : ℕ+} {mux next : Mux}

theorem log_eq (bounded : mux.Bounded) : mux.log = mux.gone ++ mux.waiting := by
  obtain ⟨front, split⟩ := bounded.suffix
  rw [gone, ← split, List.length_append, Nat.add_sub_cancel, List.take_left]

theorem length_waiting_le (bounded : mux.Bounded) :
    mux.waiting.length ≤ SEND_QUEUE_CAPACITY + 1 := by
  have held := mux.sender.length_held_le
  have short := bounded.short
  rw [waiting, List.length_append]
  omega

theorem enqueue (bounded : mux.Bounded) (out : Outgoing)
    (room : mux.dataSenderBuf.length < SEND_QUEUE_CAPACITY) :
    { mux with dataSenderBuf := mux.dataSenderBuf ++ [out], log := mux.log ++ [out] }.Bounded where
  suffix := by
    obtain ⟨front, split⟩ := bounded.suffix
    exact ⟨front, by simp [← split, waiting]⟩
  short := by
    rw [List.length_append, List.length_singleton]
    omega

theorem of_same (bounded : mux.Bounded) (sender : next.sender = mux.sender)
    (queue : next.dataSenderBuf = mux.dataSenderBuf) (log : next.log = mux.log) : next.Bounded where
  suffix := by
    rw [waiting, sender, queue, log]
    exact bounded.suffix
  short := queue ▸ bounded.short

theorem senderStep {act : SenderAct} (bounded : mux.Bounded)
    (taken : SenderStep linkMdu mux act next) : next.Bounded := by
  obtain ⟨suffix, short⟩ := bounded
  cases taken with
  | recv idle queued =>
      refine ⟨?_, ?_⟩
      · rw [waiting, idle, queued] at suffix
        exact suffix
      · rw [queued, List.length_cons] at short
        exact (Nat.le_succ _).trans short
  | readLink picked =>
      rw [waiting, picked] at suffix
      exact ⟨suffix, short⟩
  | dropFrame picked =>
      rw [waiting, picked] at suffix
      exact ⟨(List.suffix_cons _ _).trans suffix, short⟩
  | sentLast sending =>
      rw [waiting, sending] at suffix
      exact ⟨(List.suffix_cons _ _).trans suffix, short⟩
  | sentChunk sending =>
      rw [waiting, sending] at suffix
      exact ⟨suffix, short⟩
  | sendFailed sending =>
      rw [waiting, sending] at suffix
      exact ⟨suffix, short⟩
  | clearLink failed =>
      rw [waiting, failed] at suffix
      exact ⟨(List.suffix_cons _ _).trans suffix, short⟩

end Mux.Bounded

/-! ## A reader waits with what it has read -/

/-- A TCP reader that has sent these frames has one buffer in its hand at most. -/
structure Relay.Paced (relay : Relay) (sent : List Frame) : Prop where
  /-- What it has read and not sent is in its hand, or was lost with it. -/
  hand : ∃ hand, relay.taken = dataOf sent ++ hand ∧ hand.length ≤ READ_BUFFER ∧
    (relay.reader ≠ .finished → hand = relay.reader.hand)
  /-- It sends what it has read at once. -/
  small : ∀ frame ∈ sent, frame.frameType = .data → frame.payload.length ≤ READ_BUFFER

namespace Relay

variable {socks : FastSocks5} {sid : UInt32} {relay next : Relay} {sent : List Frame}
  {act : RelayAct} {effect : Effect}

theorem paced_start (kind : RelayKind) (silent : dataOf sent = [])
    (control : ∀ frame ∈ sent, frame.frameType ≠ .data) : (start kind).Paced sent where
  hand := ⟨[], by simp [start, silent], Nat.zero_le _, fun _ => rfl⟩
  small frame member data := absurd data (control frame member)

theorem Paced.of_same {more : List Frame} (paced : relay.Paced sent)
    (taken : next.taken = relay.taken)
    (reader : next.reader = relay.reader ∨ next.reader = .finished)
    (control : ∀ frame ∈ more, frame.frameType ≠ .data) : next.Paced (sent ++ more) where
  hand := by
    obtain ⟨hand, split, short, held⟩ := paced.hand
    refine ⟨hand, ?_, short, fun running => ?_⟩
    · rw [taken, split, dataOf_append, dataOf_eq_nil control, List.append_nil]
    · rcases reader with same | finished
      · rw [same]
        exact held (same ▸ running)
      · exact absurd finished running
  small frame member data := by
    rcases List.mem_append.mp member with old | new
    · exact paced.small frame old data
    · exact absurd data (control frame new)

theorem Paced.onRead (paced : relay.Paced sent) (tcp : relay.kind.isTcp = true)
    (reading : relay.reader = .reading) (source : SocketAddr) {data : Bytes}
    (short : data.length ≤ READ_BUFFER) : (relay.onRead socks source data).Paced (sent ++ []) := by
  rw [Relay.onRead]
  split
  · exact paced.of_same rfl (.inr rfl) (by simp)
  · obtain ⟨hand, split, _, held⟩ := paced.hand
    obtain rfl : hand = [] := by simpa [reading, Reader.hand] using held
    rw [RelayKind.program_of_isTcp socks tcp, List.append_nil]
    exact ⟨⟨data, by simp [split], short, fun _ => rfl⟩, paced.small⟩

theorem Paced.step (paced : relay.Paced sent) (tcp : relay.kind.isTcp = true)
    (taken : Step socks sid relay act next effect) : next.Paced (sent ++ effect.frames) := by
  cases taken with
  | @read source available reading =>
      exact paced.onRead tcp reading source (List.length_take_le READ_BUFFER available)
  | @readerSend source payload holding =>
      obtain ⟨hand, split, short, held⟩ := paced.hand
      obtain rfl : hand = payload := by simpa [holding, Reader.hand] using held
      refine ⟨⟨[], ?_, Nat.zero_le _, fun _ => rfl⟩, fun frame member data => ?_⟩
      · simp [split, Effect.frames, dataOf_singleton_of_data]
      · rcases List.mem_append.mp member with old | new
        · exact paced.small frame old data
        · obtain rfl := List.mem_singleton.mp new
          exact short
  | @recvFrame frame =>
      obtain ⟨_, _, same⟩ := relay.onFrame_frame socks frame
      exact paced.of_same (by rw [same]) (.inl (by rw [same])) (by simp [Effect.frames])
  | @resolved answer target data =>
      obtain ⟨_, _, same⟩ := relay.onResolved_frame socks answer data
      exact paced.of_same (by rw [same]) (.inl (by rw [same])) (by simp [Effect.frames])
  | readFailed => exact paced.of_same rfl (.inr rfl) (by simp [Effect.frames])
  | cancelReader => exact paced.of_same rfl (.inr rfl) (by simp [Effect.frames])
  | _ => exact paced.of_same rfl (.inl rfl) (by simp [Effect.frames])

end Relay

namespace Task

/-- The TCP relay of a task is paced, and without a relay the task has sent no DATA. -/
structure Paced (task : Task) : Prop where
  /-- Only a relay sends DATA. -/
  silent : task.relay = none → ∀ frame ∈ task.sent, frame.frameType ≠ .data
  /-- The relay. -/
  relay : ∀ relay, task.relay = some relay → relay.kind.isTcp = true → relay.Paced task.sent

theorem paced_spawn (start : Start) (sid : UInt32) : (spawn start sid).Paced :=
  ⟨by simp [spawn], fun relay spawned => by simp [spawn] at spawned⟩

theorem Paced.step {socks : FastSocks5} {task next : Task} {act : TaskAct} {effect : Effect}
    (paced : task.Paced) (inTime : task.SpawnsInTime) (taken : Step socks task act next effect) :
    next.Paced := by
  have sent := taken.sent_eq
  cases taken.relayChange inTime with
  | kept aside same control =>
      refine ⟨fun absent => ?_, fun relay spawned tcp => ?_⟩
      · rw [sent]
        exact List.forall_mem_append.mpr ⟨paced.silent (same.symm.trans absent), control⟩
      · rw [sent]
        exact (paced.relay relay (same.symm.trans spawned) tcp).of_same rfl (.inl rfl) control
  | @spawned kind absent relaying started control =>
      have silent : ∀ frame ∈ next.sent, frame.frameType ≠ .data :=
        sent ▸ List.forall_mem_append.mpr ⟨paced.silent absent, control⟩
      refine ⟨fun _ => silent, fun relay spawned tcp => ?_⟩
      obtain rfl := Option.some.inj (started.symm.trans spawned)
      exact Relay.paced_start kind (dataOf_eq_nil silent) silent
  | select relaying found ready later silent =>
      refine ⟨fun absent => by simp [absent] at later, fun relay spawned tcp => ?_⟩
      obtain rfl := Option.some.inj (later.symm.trans spawned)
      rw [sent]
      exact (paced.relay _ found tcp).of_same rfl (.inl rfl) (by simp [silent, Effect.frames])
  | @relay relayAct before after acts found taken later same_pc =>
      refine ⟨fun absent => by simp [absent] at later, fun relay spawned tcp => ?_⟩
      obtain rfl := Option.some.inj (later.symm.trans spawned)
      have before_tcp : before.kind.isTcp = true := taken.same_kind.1 ▸ tcp
      rw [sent]
      exact (paced.relay before found before_tcp).step before_tcp taken

end Task

/-! ## Every run of an endpoint -/

namespace Endpoint

variable {linkMdu : ℕ+} {socks : FastSocks5} {ep next : Endpoint} {act : EndpointAct}

theorem bounded_step (bounded : ep.mux.Bounded) (taken : Step linkMdu socks ep act next) :
    next.mux.Bounded := by
  cases taken with
  | session _ _ performs =>
      cases performs with
      | send room => exact bounded.enqueue _ room
      | _ => exact bounded.of_same rfl rfl rfl
  | refuse room => exact bounded.enqueue _ room
  | @dispatch frame =>
      obtain ⟨channels, same⟩ := ep.mux.dispatch_frame frame
      exact bounded.of_same (by rw [same]) (by rw [same]) (by rw [same])
  | sender taken => exact bounded.senderStep taken
  | _ => exact bounded.of_same rfl rfl rfl

/-- Every task is paced, and spawns its relay in time. -/
def Paced (ep : Endpoint) : Prop :=
  ∀ chan task, ep.tasks chan = some task → task.SpawnsInTime ∧ task.Paced

theorem paced_step (paced : ep.Paced) (taken : Step linkMdu socks ep act next) : next.Paced :=
  taken.forall_tasks paced
    (fun start sid _ => ⟨Task.spawnsInTime_spawn start sid, Task.paced_spawn start sid⟩)
    fun _ _ _ _ before taken => ⟨before.1.step taken, before.2.step before.1 taken⟩

theorem paced_of_reachable (reachable : Execution.Reachable (step linkMdu socks) new ep) :
    ep.Paced :=
  reachable.invariant (fun chan task found => by simp [new] at found)
    fun _ _ _ paced taken => paced_step paced (step_cases taken)

theorem bounded_of_reachable (reachable : Execution.Reachable (step linkMdu socks) new ep) :
    ep.mux.Bounded :=
  reachable.invariant ⟨List.suffix_rfl, Nat.zero_le _⟩
    fun _ _ _ bounded taken => bounded_step bounded (step_cases taken)

/-- In every run of an endpoint, whatever its sessions, its links and the other end do, a TCP
session has read what the link sender is done with, what waits in the send queue or at the link
sender, and one buffer. What waits is six frames of at most one buffer each, so the session is never
more than seven buffers ahead of the link. -/
theorem staysBehindLink {acts : List EndpointAct}
    (execution : Execution.run (step linkMdu socks) new acts = some ep) {chan : ChanId}
    {task : Task} {relay : Relay} (found : ep.tasks chan = some task)
    (spawned : task.relay = some relay) (tcp : relay.kind.isTcp = true) :
    ep.mux.log = ep.mux.gone ++ ep.mux.waiting ∧
      ep.mux.waiting.length ≤ SEND_QUEUE_CAPACITY + 1 ∧
      ∃ hand, relay.taken = dataOf (framesBy chan ep.mux.gone) ++
          (dataOf (framesBy chan ep.mux.waiting) ++ hand) ∧
        (dataOf (framesBy chan ep.mux.waiting) ++ hand).length ≤
          (SEND_QUEUE_CAPACITY + 2) * READ_BUFFER := by
  have paced := paced_of_reachable ⟨acts, execution⟩
  have bounded := bounded_of_reachable ⟨acts, execution⟩
  have well := wellFormed_of_reachable ⟨acts, execution⟩
  obtain ⟨hand, split, short, _⟩ := ((paced chan task found).2.relay relay spawned tcp).hand
  have small := ((paced chan task found).2.relay relay spawned tcp).small
  have sent : task.sent = framesBy chan ep.mux.gone ++ framesBy chan ep.mux.waiting := by
    rw [← framesBy_append, ← bounded.log_eq]
    exact (well.sent chan task found).symm
  refine ⟨bounded.log_eq, bounded.length_waiting_le, hand, ?_, ?_⟩
  · rw [split, sent, dataOf_append, List.append_assoc]
  · have waiting : (dataOf (framesBy chan ep.mux.waiting)).length ≤
        (SEND_QUEUE_CAPACITY + 1) * READ_BUFFER := by
      calc
        _ ≤ (framesBy chan ep.mux.waiting).length * READ_BUFFER :=
          length_dataOf_le fun frame member =>
            small frame (sent ▸ List.mem_append_right _ member)
        _ ≤ _ := Nat.mul_le_mul_right _
          ((length_framesBy_le chan _).trans bounded.length_waiting_le)
    rw [List.length_append, Nat.succ_mul]
    omega

/-- A session on a forwarded port reads while its link does nothing. -/
def readAhead : List EndpointAct :=
  [.setLinkId 1, .spawn (.forwardedTcp 80) 1, .session true 0 .send,
    .dispatch ⟨.connectOk, 1, []⟩, .session true 0 (.recv (some ⟨.connectOk, 1, []⟩)),
    .session true 0 (.relay (.read ⟨.v4 .LOCALHOST, 4000⟩ [1, 2, 3])),
    .session true 0 (.relay .readerSend),
    .session true 0 (.relay (.read ⟨.v4 .LOCALHOST, 4000⟩ [4]))]

/-- What it has read waits in the queue and in its hand. -/
theorem staysBehindLink_readAhead :
    ∃ ep task relay, Execution.run (step 431 .rfc1928) new readAhead = some ep ∧
      ep.tasks 0 = some task ∧ task.relay = some relay ∧ relay.taken = [1, 2, 3, 4] ∧
      ∃ hand, relay.taken = dataOf (framesBy 0 ep.mux.gone) ++
        (dataOf (framesBy 0 ep.mux.waiting) ++ hand) := by
  have ends : ∃ ep task relay, Execution.run (step 431 .rfc1928) new readAhead = some ep ∧
      ep.tasks 0 = some task ∧ task.relay = some relay ∧ relay.taken = [1, 2, 3, 4] ∧
      relay.kind.isTcp = true :=
    ⟨_, _, _, rfl, rfl, rfl, rfl, rfl⟩
  obtain ⟨ep, task, relay, execution, found, spawned, taken, tcp⟩ := ends
  obtain ⟨_, _, hand, split, _⟩ := staysBehindLink execution found spawned tcp
  exact ⟨ep, task, relay, execution, found, spawned, taken, hand, split⟩

end Endpoint

end RnsProxy
