import RnsProxy.Dispatch

/-!
# Backing off

Before every attempt to reconnect the client pauses, and a failed attempt changes the pause before
the next one: it is doubled, and a failed link setup adds a second. The pause starts from zero,
where doubling has no effect. This file determines the runs in which the pauses grow.
-/

namespace RnsProxy

/-- Why an attempt to reconnect fails. -/
inductive Failure
  /-- The path was not found. -/
  | pathNotFound
  /-- The identity could not be recalled. -/
  | identityUnknown
  /-- The link could not be set up. -/
  | setupFailed
  deriving DecidableEq, Repr

namespace Failure

/-- The delay after a failure, from the delay before it. -/
def next : Failure → ℕ → ℕ
  | pathNotFound, delay => Client.retryDelay delay
  | identityUnknown, delay => Client.retryDelay delay
  | setupFailed, delay => Client.failedDelay delay

/-- The delay after the failures since the connection was lost. -/
def delay (failures : List Failure) : ℕ :=
  failures.foldl (fun delay failure => failure.next delay) 0

theorem next_le (failure : Failure) (delay : ℕ) : failure.next delay ≤ 30 := by
  cases failure <;> exact Nat.min_le_right ..

theorem le_next (failure : Failure) (delay : ℕ) : min 30 (2 * delay) ≤ failure.next delay := by
  cases failure <;> simp only [next, Client.retryDelay, Client.failedDelay] <;> omega

theorem one_le_next {failure : Failure} {delay : ℕ} (paused : 1 ≤ delay) :
    1 ≤ failure.next delay := by
  have grown := failure.le_next delay
  omega

theorem one_le_next_zero_iff (failure : Failure) : 1 ≤ failure.next 0 ↔ failure = .setupFailed := by
  cases failure <;> decide

theorem delay_concat (failures : List Failure) (last : Failure) :
    delay (failures ++ [last]) = last.next (delay failures) := by
  simp [delay]

/-- The client pauses after any failures of which the first is a failed link setup. -/
theorem one_le_delay {first : Failure} (setup : first = .setupFailed) (failures : List Failure) :
    1 ≤ delay (first :: failures) := by
  induction failures using List.reverseRecOn with
  | nil => exact (one_le_next_zero_iff first).mpr setup
  | append_singleton failures last ih =>
      rw [← List.cons_append, delay_concat]
      exact one_le_next ih

end Failure

/-- The delay that the dispatch task holds while it reconnects. -/
def Dispatcher.delay : Dispatcher → Option ℕ
  | reconnecting delay => some delay
  | establishing _ delay => some delay
  | _ => none

namespace Client

/-- With this step the client begins to reconnect. -/
def startsReconnecting : Client × ClientAct → Bool
  | (client, .reset) => client.dispatcher = .resettingRecvBuf
  | _ => false

/-- With this step an attempt to reconnect fails. -/
def fails : Client × ClientAct → Option Failure
  | (_, .attempt .pathNotFound) => some .pathNotFound
  | (_, .attempt .identityUnknown) => some .identityUnknown
  | (_, .attempt .createFailed) => some .setupFailed
  | (client, .event (some (.linkClosed closed))) =>
      match client.dispatcher with
      | .establishing link _ => if closed = link then some .setupFailed else none
      | _ => none
  | (client, .event none) =>
      match client.dispatcher with
      | .establishing _ _ => some .setupFailed
      | _ => none
  | _ => none

/-- The failed attempts since the client began to reconnect last. -/
def failedAttempts (past : List (Client × ClientAct)) : List Failure :=
  past.foldl
    (fun failed taken =>
      if startsReconnecting taken then [] else failed ++ (fails taken).toList)
    []

theorem failedAttempts_concat (past : List (Client × ClientAct)) (taken : Client × ClientAct) :
    failedAttempts (past ++ [taken]) =
      if startsReconnecting taken then [] else failedAttempts past ++ (fails taken).toList := by
  simp [failedAttempts]

/-- What a step does to the delay. -/
inductive Pauses (client : Client) (act : ClientAct) : Dispatcher → Prop
  | begun (begun : startsReconnecting (client, act) = true)
      (not_failed : fails (client, act) = none) :
      Pauses client act (.reconnecting 0)
  | failed {failure delay} (not_begun : startsReconnecting (client, act) = false)
      (failed : fails (client, act) = some failure)
      (paused : client.dispatcher.delay = some delay) :
      Pauses client act (.reconnecting (failure.next delay))
  | kept {dispatcher} (not_begun : startsReconnecting (client, act) = false)
      (not_failed : fails (client, act) = none)
      (same : ∀ delay, dispatcher.delay = some delay → client.dispatcher.delay = some delay) :
      Pauses client act dispatcher

theorem pauses_of_onEvent {client : Client} {event : Option ProxyEvent} {dispatcher : Dispatcher}
    {endpointAct : Option EndpointAct}
    (reacted : client.onEvent event = some (dispatcher, endpointAct)) :
    Pauses client (.event event) dispatcher := by
  simp only [onEvent] at reacted
  split at reacted
  · cases reacted
    exact .kept rfl rfl (by simp [Dispatcher.delay])
  · rename_i receiving
    cases reacted
    exact .kept rfl (by simp [fails, receiving]) (by simp [Dispatcher.delay])
  · rename_i event no_data not_closed receiving
    cases reacted
    refine .kept rfl ?_ (by simp [Dispatcher.delay])
    cases event with
    | linkClosed link => exact absurd rfl (not_closed link)
    | _ => rfl
  · rename_i receiving
    cases reacted
    exact .kept rfl (by simp [fails, receiving]) (by simp [Dispatcher.delay])
  · rename_i link delay established isInitiator establishing
    split_ifs at reacted <;> cases reacted
    · exact .kept rfl rfl (by simp [Dispatcher.delay])
    · exact .kept rfl rfl (by simp [Dispatcher.delay, establishing])
  · rename_i link delay closed establishing
    split_ifs at reacted with same <;> cases reacted
    · have failed : fails (client, .event (some (.linkClosed closed))) = some .setupFailed := by
        simp [fails, establishing, same]
      exact .failed rfl failed (by simp [Dispatcher.delay, establishing])
    · exact .kept rfl (by simp [fails, establishing, same])
        (by simp [Dispatcher.delay, establishing])
  · rename_i link delay event not_established not_closed establishing
    cases reacted
    refine .kept rfl ?_ (by simp [Dispatcher.delay, establishing])
    cases event with
    | linkClosed link => exact absurd rfl (not_closed link)
    | _ => rfl
  · rename_i link delay establishing
    cases reacted
    have failed : fails (client, .event none) = some .setupFailed := by
      simp [fails, establishing]
    exact .failed rfl failed (by simp [Dispatcher.delay, establishing])
  · cases reacted

theorem pauses_of_control {client next : Client} {act : ClientAct}
    {endpointAct : Option EndpointAct}
    (controlled : client.control act = some (next, endpointAct)) :
    Pauses client act next.dispatcher := by
  cases act with
  | session chan act =>
      cases controlled
      exact .kept rfl rfl fun _ same => same
  | sender act =>
      cases controlled
      exact .kept rfl rfl fun _ same => same
  | accept loop | isConnected loop | nextSessionId loop | registerSession loop =>
      simp only [control] at controlled
      split at controlled <;> cases controlled
      exact .kept rfl rfl fun _ same => same
  | event event =>
      simp only [control, Option.ite_none_right_eq_some, Option.map_eq_some_iff] at controlled
      obtain ⟨_, ⟨dispatcher, endpointAct⟩, reacted, same⟩ := controlled
      cases same
      exact pauses_of_onEvent reacted
  | dispatch =>
      simp only [control] at controlled
      split at controlled <;> cases controlled <;>
        exact .kept rfl rfl (by simp [Dispatcher.delay])
  | reset =>
      simp only [control] at controlled
      split at controlled <;> cases controlled
      · rename_i resetting
        exact .kept (by simp [startsReconnecting, resetting]) rfl (by simp [Dispatcher.delay])
      · rename_i resetting
        exact .kept (by simp [startsReconnecting, resetting]) rfl (by simp [Dispatcher.delay])
      · rename_i resetting
        exact .begun (by simp [startsReconnecting, resetting]) rfl
  | attempt outcome =>
      simp only [control] at controlled
      split at controlled
      · rename_i delay reconnecting
        have paused : client.dispatcher.delay = some delay := by
          simp [Dispatcher.delay, reconnecting]
        cases controlled
        cases outcome with
        | pathNotFound =>
            have failed : fails (client, .attempt .pathNotFound) = some .pathNotFound := rfl
            exact .failed rfl failed paused
        | identityUnknown =>
            have failed : fails (client, .attempt .identityUnknown) = some .identityUnknown := rfl
            exact .failed rfl failed paused
        | createFailed =>
            have failed : fails (client, .attempt .createFailed) = some .setupFailed := rfl
            exact .failed rfl failed paused
        | created link => exact .kept rfl rfl fun _ same => paused.trans same
      · cases controlled
  | setLinkId =>
      simp only [control] at controlled
      split at controlled <;> cases controlled
      exact .kept rfl rfl (by simp [Dispatcher.delay])
  | linkDown link =>
      cases controlled
      exact .kept rfl rfl fun _ same => same

theorem pauses_of_step {linkMdu : ℕ+} {socks : FastSocks5} {client next : Client} {act : ClientAct}
    (taken : client.step linkMdu socks act = some next) : Pauses client act next.dispatcher := by
  cases step_cases taken with
  | control controlled => exact pauses_of_control controlled
  | endpoint controlled _ =>
      have pauses := pauses_of_control controlled
      exact pauses

/-! ## The runs in which the pauses grow -/

/-- The client backs off: a failed attempt leads to a pause of at least one and at most thirty
seconds, and a further one to a pause twice as long as the one before or of thirty seconds. -/
def BacksOff (linkMdu : ℕ+) (socks : FastSocks5) (recorded : List (Client × ClientAct) × Client)
    (act : ClientAct) : Prop :=
  ∀ failure next, fails (recorded.2, act) = some failure →
    recorded.2.step linkMdu socks act = some next →
      ∃ before after, recorded.2.dispatcher.delay = some before ∧
        next.dispatcher = .reconnecting after ∧ after ≤ 30 ∧ 1 ≤ after ∧
        (failedAttempts recorded.1 ≠ [] → min 30 (2 * before) ≤ after)

/-- The first attempt that fails after the connection was lost has got as far as the link setup. -/
def FailsInSetup (recorded : List (Client × ClientAct) × Client) (act : ClientAct) : Prop :=
  ∀ failure, fails (recorded.2, act) = some failure → failedAttempts recorded.1 = [] →
    failure = .setupFailed

/-- The delay is the one after the failed attempts, the first of which failed in the link setup. -/
structure Paused (recorded : List (Client × ClientAct) × Client) : Prop where
  /-- The delay follows from the failed attempts. -/
  delay : ∀ delay, recorded.2.dispatcher.delay = some delay →
    delay = Failure.delay (failedAttempts recorded.1)
  /-- The first failure is one of the link setup. -/
  first : ∀ failure later, failedAttempts recorded.1 = failure :: later → failure = .setupFailed

section Steps

variable {linkMdu : ℕ+} {socks : FastSocks5} {past : List (Client × ClientAct)}
  {client next : Client} {act : ClientAct}

theorem paused_new (link : LinkId) (listeners : List Listener) :
    Paused ([], new link listeners) where
  delay := by simp [new, Dispatcher.delay]
  first := by simp [failedAttempts]

theorem Paused.step (paused : Paused (past, client)) (setup : FailsInSetup (past, client) act)
    (taken : client.step linkMdu socks act = some next) :
    Paused (past ++ [(client, act)], next) := by
  have pauses := pauses_of_step taken
  constructor
  · intro delay holds
    rw [failedAttempts_concat]
    generalize next.dispatcher = dispatcher at *
    cases pauses with
    | begun begun not_failed =>
        rw [begun]
        exact (Option.some.inj holds).symm
    | failed not_begun failed before =>
        rw [not_begun, failed, if_neg Bool.false_ne_true, Option.toList_some, Failure.delay_concat,
          ← paused.delay _ before]
        exact (Option.some.inj holds).symm
    | kept not_begun not_failed same =>
        rw [not_begun, not_failed, if_neg Bool.false_ne_true, Option.toList_none, List.append_nil]
        exact paused.delay delay (same delay holds)
  · intro failure later failures_eq
    rw [failedAttempts_concat] at failures_eq
    cases begun : startsReconnecting (client, act) with
    | true =>
        rw [begun] at failures_eq
        cases failures_eq
    | false =>
        rw [begun, if_neg Bool.false_ne_true] at failures_eq
        cases before : failedAttempts past with
        | nil =>
            rw [before, List.nil_append] at failures_eq
            have failed : fails (client, act) = some failure := by
              cases failed : fails (client, act) with
              | none => simp [failed] at failures_eq
              | some other =>
                  rw [failed, Option.toList_some] at failures_eq
                  rw [(List.cons.inj failures_eq).1]
            exact setup failure failed before
        | cons other rest =>
            rw [before, List.cons_append] at failures_eq
            obtain ⟨rfl, _⟩ := List.cons.inj failures_eq
            exact paused.first other rest before

theorem dispatcher_of_fails {failure : Failure} (failed : fails (client, act) = some failure)
    (taken : client.step linkMdu socks act = some next) :
    ∃ delay, client.dispatcher.delay = some delay ∧
      next.dispatcher = .reconnecting (failure.next delay) := by
  have pauses := pauses_of_step taken
  generalize next.dispatcher = dispatcher at pauses
  cases pauses with
  | begun begun not_failed => simp [failed] at not_failed
  | @failed other delay not_begun failed' before =>
      obtain rfl := Option.some.inj (failed.symm.trans failed')
      exact ⟨delay, before, rfl⟩
  | kept not_begun not_failed same => simp [failed] at not_failed

theorem Paused.backsOff_iff_failsInSetup (paused : Paused (past, client))
    (taken : client.step linkMdu socks act = some next) :
    BacksOff linkMdu socks (past, client) act ↔ FailsInSetup (past, client) act := by
  constructor
  · intro backsOff failure failed first
    obtain ⟨before, after, holds, leads, _, one_le, _⟩ := backsOff failure next failed taken
    obtain ⟨delay, holds', leads'⟩ := dispatcher_of_fails failed taken
    have start : delay = 0 := by
      rw [paused.delay delay holds', first]
      rfl
    obtain rfl : after = failure.next delay := by
      simpa using leads.symm.trans leads'
    rw [start] at one_le
    exact (failure.one_le_next_zero_iff).mp one_le
  · intro setup failure later failed stepped
    obtain ⟨delay, holds, leads⟩ := dispatcher_of_fails failed stepped
    refine ⟨delay, failure.next delay, holds, leads, failure.next_le delay, ?_,
      fun _ => failure.le_next delay⟩
    rw [paused.delay delay holds]
    cases earlier : failedAttempts past with
    | nil => exact (failure.one_le_next_zero_iff).mpr (setup failure failed earlier)
    | cons first rest =>
        exact Failure.one_le_next (Failure.one_le_delay (paused.first first rest earlier) rest)

/-- The client backs off exactly in the runs in which, after each loss of the connection, the first
attempt that fails has got as far as the link setup. -/
theorem backsOff_iff {link : LinkId} {listeners : List Listener} {acts : List ClientAct}
    {final : Client}
    (execution : Execution.run (Client.step linkMdu socks) (new link listeners) acts =
      some final) :
    Execution.Along (Execution.recording (Client.step linkMdu socks)) (BacksOff linkMdu socks)
        ([], new link listeners) acts ↔
      Execution.Along (Execution.recording (Client.step linkMdu socks)) FailsInSetup
        ([], new link listeners) acts := by
  refine Execution.along_congr ?_ ?_ (paused_new link listeners)
    (Execution.run_recording execution)
  · rintro ⟨past, client⟩ act after paused backsOff taken
    obtain ⟨next, stepped, rfl⟩ := Execution.recording_eq_some.mp taken
    exact paused.step ((paused.backsOff_iff_failsInSetup stepped).mp backsOff) stepped
  · rintro ⟨past, client⟩ act after paused taken
    obtain ⟨next, stepped, rfl⟩ := Execution.recording_eq_some.mp taken
    exact paused.backsOff_iff_failsInSetup stepped

end Steps

/-- The client has lost its link and finds no path, twice. -/
def noPath : List ClientAct :=
  [.linkDown 1, .event (some (.linkClosed 1)), .reset, .reset, .reset, .attempt .pathNotFound,
    .attempt .pathNotFound]

/-- Without a path the client retries without a pause. -/
theorem not_backsOff_noPath :
    ∃ final, Execution.run (step 431 .rfc1928) (new 1 [.socks]) noPath = some final ∧
      final.dispatcher = .reconnecting 0 ∧
      ¬ Execution.Along (Execution.recording (step 431 .rfc1928)) (BacksOff 431 .rfc1928)
        ([], new 1 [.socks]) noPath := by
  refine ⟨_, rfl, rfl, fun along => ?_⟩
  have ends : ∃ before after,
      Execution.run (Execution.recording (step 431 .rfc1928)) ([], new 1 [.socks])
          (noPath.take 5) = some before ∧
        before.2.step 431 .rfc1928 (.attempt .pathNotFound) = some after ∧
        after.dispatcher = .reconnecting 0 :=
    ⟨_, _, rfl, rfl, rfl⟩
  obtain ⟨before, after, front, taken, without_pause⟩ := ends
  have backsOff := Execution.along_iff_forall_split.mp along (noPath.take 5)
    (.attempt .pathNotFound) [.attempt .pathNotFound] before rfl front
  obtain ⟨_, delay, _, leads, _, one_le, _⟩ := backsOff .pathNotFound after rfl taken
  obtain rfl : delay = 0 := by simpa using leads.symm.trans without_pause
  cases one_le

/-- The condition covers a run in which a link cannot be created and then no path is found. -/
theorem backsOff_iff_failed_link :
    let acts := noPath.take 5 ++ [.attempt .createFailed, .attempt .pathNotFound]
    Execution.Along (Execution.recording (step 431 .rfc1928)) (BacksOff 431 .rfc1928)
        ([], new 1 [.socks]) acts ↔
      Execution.Along (Execution.recording (step 431 .rfc1928)) FailsInSetup
        ([], new 1 [.socks]) acts :=
  backsOff_iff (rfl : Execution.run (step 431 .rfc1928) (new 1 [.socks])
    (noPath.take 5 ++ [.attempt .createFailed, .attempt .pathNotFound]) = some _)

end Client

end RnsProxy
