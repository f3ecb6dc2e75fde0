import RnsProxy.Session

/-!
# The stages of a handler

A handler runs through four stages, divided by the frames it sends. Its relay is spawned once, when
the session is established, and what remains of a session after its handler has ended are the tasks
of that relay.
-/

namespace RnsProxy

/-- The stretch of a handler between two of the frames it sends. -/
inductive Stage
  /-- Before the first frame. -/
  | opening
  /-- CONNECT has been sent; nothing is relayed yet. -/
  | pending
  /-- The session is open, or its CLOSE is being sent. -/
  | established
  /-- The last frame of the handler has been sent. -/
  | closed
  deriving DecidableEq, Repr

/-- The stretch an `await` belongs to. -/
def Pc.stage : Pc → Stage
  | handshake => .opening
  | readCommand => .opening
  | connecting _ _ _ => .opening
  | replyingUnsupported => .opening
  | filtering _ _ => .opening
  | opening _ => .opening
  | serverBinding _ => .opening
  | refusing _ => .opening
  | confirming _ => .opening
  | waiting _ => .pending
  | binding _ => .pending
  | replying _ => .pending
  | replyingFailure _ => .pending
  | relaying => .established
  | closing _ => .established
  | dropping _ => .closed
  | ended _ => .closed

/-- The program an `await` belongs to, where only one of them has it. -/
def Pc.side : Pc → Option Side
  | handshake => some .client
  | readCommand => some .client
  | connecting _ _ _ => some .client
  | replyingUnsupported => some .client
  | waiting _ => some .client
  | binding _ => some .client
  | replying _ => some .client
  | replyingFailure _ => some .client
  | filtering _ _ => some .server
  | opening _ => some .server
  | serverBinding _ => some .server
  | refusing _ => some .server
  | confirming _ => some .server
  | relaying => none
  | closing _ => none
  | dropping _ => none
  | ended _ => none

namespace Task

/-- Where the steps of a handler that send nothing can lead. -/
theorem Moves.stage {before after : Pc} {act : TaskAct} (moves : Moves before act after) :
    (before.stage = .opening ∧ (after.stage = .opening ∨ after.stage = .closed) ∨
      before.stage = .pending ∧ after.stage ≠ .opening) ∧
      ∀ side, after.side = some side → before.side = some side := by
  cases moves <;> simp [Pc.stage, Pc.side]

/-- Nothing is spawned before the session is established. -/
def SpawnsInTime (task : Task) : Prop :=
  task.pc.stage = .opening ∨ task.pc.stage = .pending → task.relay = none

theorem spawnsInTime_spawn (start : Start) (sid : UInt32) : (spawn start sid).SpawnsInTime :=
  fun _ => rfl

theorem spawnsInTime_connectFailed {task : Task} (relay : task.relay = none) (why : WaitFailure)
    (flow : Flow) : (task.connectFailed why flow).SpawnsInTime := by
  cases flow <;> exact fun _ => relay

theorem spawnsInTime_connected {task : Task} (relay : task.relay = none) (flow : Flow) :
    (task.connected flow).SpawnsInTime := by
  cases flow with
  | socksTcp => exact fun _ => relay
  | socksUdp => exact fun _ => relay
  | forwardedTcp => simp [SpawnsInTime, connected, startRelay, Pc.stage]
  | forwardedUdp serverPort => simp [SpawnsInTime, connected, startRelay, Pc.stage]

theorem SpawnsInTime.onReply {task : Task} (inTime : task.SpawnsInTime) {flow : Flow}
    (waiting : task.pc = .waiting flow) (result : Option Frame) :
    (task.onReply flow result).SpawnsInTime := by
  have relay : task.relay = none := inTime (.inr (by simp [waiting, Pc.stage]))
  cases result with
  | none => exact spawnsInTime_connectFailed relay .channelClosed flow
  | some frame =>
      simp only [Task.onReply]
      split
      · refine spawnsInTime_connected ?_ flow
        exact relay
      · refine spawnsInTime_connectFailed ?_ .connectErr flow
        exact relay
      · exact fun _ => relay

theorem SpawnsInTime.step {socks : FastSocks5} {task next : Task} {act : TaskAct} {effect : Effect}
    (inTime : task.SpawnsInTime) (taken : Step socks task act next effect) :
    next.SpawnsInTime := by
  cases taken with
  | move moves =>
      refine fun _ => inTime ?_
      rcases moves.stage.1 with ⟨opening, _⟩ | ⟨pending, _⟩
      · exact .inl opening
      · exact .inr pending
  | send pending =>
      cases pendingSend_cases pending with
      | connect connecting => exact fun _ => inTime (.inl (by simp [connecting, Pc.stage]))
      | refuse => simp [SpawnsInTime, Pc.stage]
      | confirm => simp [SpawnsInTime, startRelay, Pc.stage]
      | close => simp [SpawnsInTime, Pc.stage]
  | reply waiting => exact inTime.onReply waiting _
  | timeout waiting =>
      exact spawnsInTime_connectFailed (inTime (.inr (by simp [waiting, Pc.stage]))) _ _
  | replied => simp [SpawnsInTime, startRelay, Pc.stage]
  | @filtered answer addr config filtering =>
      have relay : task.relay = none := inTime (.inl (by simp [filtering, Pc.stage]))
      obtain ⟨pc, io, same⟩ := task.onFiltered_frame config answer
      rw [same]
      exact fun _ => relay
  | select => simp [SpawnsInTime, Pc.stage]
  | dropSession => simp [SpawnsInTime, Pc.stage]
  | relay spawned =>
      intro early
      have absent := inTime early
      simp [absent] at spawned

section Relays

variable {socks : FastSocks5} {task next : Task} {act : TaskAct} {effect : Effect}

/-- What a step of a task means for its relay. -/
inductive RelayChange (socks : FastSocks5) (task next : Task) (act : TaskAct) (effect : Effect) :
    Prop
  /-- The handler does something else, before or after the relay. -/
  | kept (aside : task.pc ≠ .relaying) (same : next.relay = task.relay)
      (control : ∀ frame ∈ effect.frames, frame.frameType ≠ .data)
  /-- The relay tasks are spawned. -/
  | spawned {kind} (absent : task.relay = none) (relaying : next.pc = .relaying)
      (started : next.relay = some (Relay.start kind))
      (control : ∀ frame ∈ effect.frames, frame.frameType ≠ .data)
  /-- The `select!` on the relay tasks returns. -/
  | select {relay} (relaying : task.pc = .relaying) (found : task.relay = some relay)
      (ready : relay.selectReady = true)
      (aborts : next.relay = some { relay with aborted := (relay.kind.program socks).aborts })
      (silent : effect = .none)
  /-- A relay task acts. -/
  | relay {relayAct relay after} (acts : act = .relay relayAct) (found : task.relay = some relay)
      (taken : Relay.Step socks task.sid relay relayAct after effect)
      (later : next.relay = some after) (same_pc : next.pc = task.pc)

theorem relayChange_connected {task : Task} {flow : Flow} {effect : Effect}
    (waiting : ∃ flow, task.pc = .waiting flow) (relay : task.relay = none)
    (answers : List Frame) (act : TaskAct)
    (control : ∀ frame ∈ effect.frames, frame.frameType ≠ .data) :
    RelayChange socks task ({ task with answers }.connected flow) act effect := by
  obtain ⟨waited, waiting⟩ := waiting
  cases flow with
  | socksTcp => exact .kept (by simp [waiting]) rfl control
  | socksUdp => exact .kept (by simp [waiting]) rfl control
  | forwardedTcp => exact .spawned relay rfl rfl control
  | forwardedUdp serverPort => exact .spawned relay rfl rfl control

theorem Step.relayChange (taken : Step socks task act next effect) (inTime : task.SpawnsInTime) :
    RelayChange socks task next act effect := by
  cases taken with
  | move moves =>
      refine .kept ?_ rfl (by simp [Effect.frames])
      intro relaying
      rw [relaying] at moves
      cases moves
  | send pending =>
      cases pendingSend_cases pending with
      | connect connecting => exact .kept (by simp [connecting]) rfl (by simp [Effect.frames])
      | refuse refusing => exact .kept (by simp [refusing]) rfl (by simp [Effect.frames])
      | confirm confirming =>
          exact .spawned (inTime (.inl (by simp [confirming, Pc.stage]))) rfl rfl
            (by simp [Effect.frames])
      | close closing => exact .kept (by simp [closing]) rfl (by simp [Effect.frames])
  | @reply flow result waiting =>
      have relay : task.relay = none := inTime (.inr (by simp [waiting, Pc.stage]))
      cases result with
      | none =>
          obtain ⟨pc, same⟩ := task.connectFailed_frame .channelClosed flow
          exact .kept (by simp [waiting]) (by simp [onReply, same]) (by simp [Effect.frames])
      | some frame =>
          simp only [onReply]
          split
          · exact relayChange_connected ⟨flow, waiting⟩ relay _ _ (by simp [Effect.frames])
          · obtain ⟨pc, same⟩ := connectFailed_frame
              { task with answers := task.answers ++ [frame] } .connectErr flow
            exact .kept (by simp [waiting]) (by simp [same]) (by simp [Effect.frames])
          · exact .kept (by simp [waiting]) rfl (by simp [Effect.frames])
  | @timeout flow waiting =>
      obtain ⟨pc, same⟩ := task.connectFailed_frame .timeout flow
      exact .kept (by simp [waiting]) (by simp [same]) (by simp [Effect.frames])
  | replied replying =>
      exact .spawned (inTime (.inr (by simp [replying, Pc.stage]))) rfl rfl
        (by simp [Effect.frames])
  | @filtered answer addr config filtering =>
      obtain ⟨pc, io, same⟩ := task.onFiltered_frame config answer
      exact .kept (by simp [filtering]) (by simp [same]) (by simp [Effect.frames])
  | select relaying found ready => exact .select relaying found ready rfl rfl
  | dropSession dropping => exact .kept (by simp [dropping]) rfl (by simp [Effect.frames])
  | relay found taken => exact .relay rfl found taken rfl rfl

theorem Step.of_hasEnded (taken : Step socks task act next effect) (ended : task.hasEnded = true) :
    ∃ relayAct relay, act = .relay relayAct ∧ task.relay = some relay ∧ next.pc = task.pc := by
  rw [Task.hasEnded] at ended
  split at ended
  · rename_i exit at_pc
    cases taken with
    | move moves =>
        rw [at_pc] at moves
        cases moves
    | send pending => simp [pendingSend, at_pc] at pending
    | reply waiting => simp [at_pc] at waiting
    | timeout waiting => simp [at_pc] at waiting
    | replied replying => simp [at_pc] at replying
    | filtered filtering => simp [at_pc] at filtering
    | select relaying => simp [at_pc] at relaying
    | dropSession dropping => simp [at_pc] at dropping
    | relay spawned => exact ⟨_, _, rfl, spawned, rfl⟩
  · cases ended

/-- A handler that has ended does nothing any more. -/
theorem Step.hasEnded (taken : Step socks task act next effect) (ended : task.hasEnded = true) :
    next.hasEnded = true := by
  obtain ⟨_, _, _, _, same_pc⟩ := taken.of_hasEnded ended
  rw [← ended]
  simp [Task.hasEnded, same_pc]

/-- What has given up `session_rx` does not get it back. -/
theorem Step.holdsReceiver_of (taken : Step socks task act next effect)
    (inTime : task.SpawnsInTime) (holds : next.holdsReceiver = true) :
    task.holdsReceiver = true := by
  by_contra released
  cases spawned : task.relay with
  | none =>
      have ended : task.hasEnded = true := by simpa [holdsReceiver, spawned] using released
      obtain ⟨_, relay, _, found, _⟩ := taken.of_hasEnded ended
      simp [spawned] at found
  | some relay =>
      have finished : relay.writer = .finished := by simpa [holdsReceiver, spawned] using released
      have still_finished : ∃ after, next.relay = some after ∧ after.writer = .finished := by
        cases taken.relayChange inTime with
        | kept _ same => exact ⟨relay, same.trans spawned, finished⟩
        | spawned absent => simp [absent] at spawned
        | select _ found _ aborts =>
            obtain rfl := Option.some.inj (spawned.symm.trans found)
            exact ⟨_, aborts, finished⟩
        | relay _ found taken later =>
            obtain rfl := Option.some.inj (spawned.symm.trans found)
            exact ⟨_, later, taken.writer_finished finished⟩
      obtain ⟨after, later, finished⟩ := still_finished
      simp [holdsReceiver, later, finished] at holds

end Relays

end Task

end RnsProxy
