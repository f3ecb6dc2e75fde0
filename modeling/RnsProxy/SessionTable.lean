import RnsProxy.Bookkeeping

/-!
# The session table and the tasks in it

A handler that has entered its relay, or that replies to a failed UDP ASSOCIATE request, drops its
session before it returns. The other ways out of a handler leave the session in the table. This
file names these ways out and shows that they are the only ones by which a session outlives its
task.
-/

namespace RnsProxy

namespace Task

/-- The step ends the handler without `drop_session`. -/
def Abandons (task : Task) (act : TaskAct) : Prop :=
  match act, task.pc with
  | .handshake false, .handshake => True
  | .command none, .readCommand => True
  | .replied _, .replyingUnsupported => True
  | .bound (some _), .binding _ => True
  | .timeout, .waiting flow => flow ≠ .socksUdp
  | .recv none, .waiting flow => flow ≠ .socksUdp
  | .recv (some frame), .waiting flow => frame.frameType = .connectErr ∧ flow ≠ .socksUdp
  | _, _ => False

theorem hasEnded_connectFailed (task : Task) (why : WaitFailure) (flow : Flow) :
    (task.connectFailed why flow).hasEnded = true ↔ flow ≠ .socksUdp := by
  cases flow <;> simp [connectFailed, hasEnded]

theorem hasEnded_connected (task : Task) (flow : Flow) :
    (task.connected flow).hasEnded = false := by
  cases flow <;> rfl

variable {socks : FastSocks5} {task next : Task} {act : TaskAct} {effect : Effect}

theorem Step.hasEnded_iff (taken : Step socks task act next effect)
    (running : task.hasEnded = false) :
    next.hasEnded = true ↔ task.Abandons act ∨ effect = .dropSession := by
  cases taken with
  | @move act pc moves =>
      generalize at_pc : task.pc = before at moves
      cases moves <;> simp [Abandons, hasEnded, at_pc]
  | @send frame after pending =>
      have later : after.hasEnded = false := by
        cases pendingSend_cases pending <;> rfl
      have same : { after with sent := task.sent ++ [frame] }.hasEnded = after.hasEnded := rfl
      simp [same, later, Abandons]
  | @reply flow result waiting =>
      cases result with
      | none => simp [onReply, hasEnded_connectFailed, Abandons, waiting]
      | some frame =>
          simp only [onReply, Abandons, waiting]
          split
          · rename_i confirmed
            simp [hasEnded_connected, confirmed]
          · rename_i refused
            simp [hasEnded_connectFailed, refused]
          · rename_i not_refused
            have other : frame.frameType ≠ .connectErr := not_refused
            simp [hasEnded, other]
  | timeout waiting => simp [hasEnded_connectFailed, Abandons, waiting]
  | replied replying => simp [startRelay, hasEnded, Abandons, replying]
  | @filtered answer addr config filtering =>
      have later : (task.onFiltered config answer).hasEnded = false := by
        rw [onFiltered]
        split <;> rfl
      simp [later, Abandons]
  | select relaying => simp [hasEnded, Abandons]
  | dropSession dropping => simp [hasEnded]
  | @relay act relay after effect spawned taken =>
      have not_dropped : effect ≠ .dropSession := by
        cases taken <;> simp
      have same : { task with relay := some after, sent := task.sent ++ effect.frames }.hasEnded =
          task.hasEnded := rfl
      simp [same, running, Abandons, not_dropped]

end Task

namespace Endpoint

/-- Every registered session has a task, and that task has not ended. -/
def HoldsOnlyLive (ep : Endpoint) : Prop :=
  ∀ sid chan, ep.mux.sessions sid = some chan →
    ∃ task, ep.tasks chan = some task ∧ task.sid = sid ∧ task.hasEnded = false

/-- The step does not abandon a session that is still registered. -/
def DropsSession (ep : Endpoint) (act : EndpointAct) : Prop :=
  ∀ held chan taskAct task, act = .session held chan taskAct → ep.tasks chan = some task →
    task.Abandons taskAct → ep.mux.sessions task.sid ≠ some chan

theorem holdsOnlyLive_new : HoldsOnlyLive new := by
  intro sid chan found
  simp [new, Mux.new] at found

variable {linkMdu : ℕ+} {socks : FastSocks5} {ep next : Endpoint} {act : EndpointAct}

theorem HoldsOnlyLive.step (live : HoldsOnlyLive ep) (well : WellFormed ep)
    (taken : Step linkMdu socks ep act next) (drops : DropsSession ep act) :
    HoldsOnlyLive next := by
  intro sid chan registered
  cases taken with
  | @session held owner act before after effect mux owned taken performs =>
      obtain ⟨task, found, same_sid, running⟩ :=
        live sid chan (performs.sessions_of_some registered)
      by_cases same : chan = owner
      · subst same
        obtain rfl := Option.some.inj (found.symm.trans owned)
        refine ⟨after, by simp, taken.identity.1.trans same_sid, ?_⟩
        rw [← Bool.not_eq_true, taken.hasEnded_iff running]
        rintro (abandons | rfl)
        · apply drops held chan act task rfl owned abandons
          rw [same_sid]
          exact performs.sessions_of_some registered
        · cases performs
          simp [Mux.dropSession, same_sid] at registered
      · exact ⟨task, by simp [same, found], same_sid, running⟩
  | @spawn start other =>
      rcases update_some_cases registered with ⟨rfl, rfl⟩ | ⟨_, registered⟩
      · refine ⟨Task.spawn start sid, by simp, rfl, ?_⟩
        cases start <;> rfl
      · obtain ⟨task, found, same_sid, running⟩ := live sid chan registered
        exact ⟨task, well.tasks_spawn found, same_sid, running⟩
  | @dispatch frame =>
      obtain ⟨channels, same⟩ := ep.mux.dispatch_frame frame
      rw [same] at registered
      exact live sid chan registered
  | sender taken =>
      obtain ⟨linkId, dataSenderBuf, sender, wire, handed, rfl⟩ := taken.frame
      exact live sid chan registered
  | resetSessions => simp [Mux.resetSessions] at registered
  | _ => exact live sid chan registered

/-- A step that abandons a registered session leaves a dead one in the table. -/
theorem HoldsOnlyLive.dropsSession (live : HoldsOnlyLive ep)
    (taken : Step linkMdu socks ep act next) (live_after : HoldsOnlyLive next) :
    DropsSession ep act := by
  rintro held chan taskAct task rfl found abandons registered
  cases taken with
  | @session _ _ _ before after effect mux owned taken performs =>
      obtain rfl := Option.some.inj (found.symm.trans owned)
      have running : task.hasEnded = false := by
        obtain ⟨other, owns, _, running⟩ := live _ _ registered
        obtain rfl := Option.some.inj (found.symm.trans owns)
        exact running
      have ended := (taken.hasEnded_iff running).mpr (.inl abandons)
      have still : mux.sessions task.sid = some chan := by
        cases performs with
        | dropSession =>
            cases taken with
            | dropSession dropping => simp [Task.Abandons] at abandons
            | relay _ taken => simp [Task.Abandons] at abandons
        | _ => exact registered
      obtain ⟨other, owns, _, running_after⟩ := live_after _ _ still
      obtain rfl : after = other := by simpa using owns
      simp [ended] at running_after

end Endpoint

end RnsProxy
