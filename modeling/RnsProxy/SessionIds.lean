import RnsProxy.Dispatch
import RnsProxy.Stages

/-!
# Session ids

The client numbers its sessions with a counter of 32 bits that wraps and never looks at the session
table. This file follows the numbers of the allocations without wrapping them, and determines the
runs in which no id is given to a session while another session with that id is in use.
-/

namespace RnsProxy

namespace Endpoint

/-- A session with the id is still registered, or its task is still running. -/
def Occupied (ep : Endpoint) (sid : UInt32) : Prop :=
  ep.mux.sessions sid ≠ none ∨
    ∃ chan task, ep.tasks chan = some task ∧ task.sid = sid ∧ task.hasEnded = false

/-- The session on the channel is still registered, or its task is still running. -/
def InUse (ep : Endpoint) (chan : ChanId) : Prop :=
  (∃ sid, ep.mux.sessions sid = some chan) ∨
    ∃ task, ep.tasks chan = some task ∧ task.hasEnded = false

/-- No session but the one on the channel is registered or running with the id. -/
def OnlyUser (ep : Endpoint) (chan : ChanId) (sid : UInt32) : Prop :=
  ∀ other, other ≠ chan → ep.mux.sessions sid ≠ some other ∧
    ∀ task, ep.tasks other = some task → task.sid = sid → task.hasEnded = true

/-- Every running session is the only user of its id. -/
def Exclusive (ep : Endpoint) : Prop :=
  ∀ chan task, ep.tasks chan = some task → task.hasEnded = false → ep.OnlyUser chan task.sid

theorem WellFormed.occupied_iff {ep : Endpoint} (well : WellFormed ep) (sid : UInt32) :
    ep.Occupied sid ↔
      ∃ chan task, ep.tasks chan = some task ∧ task.sid = sid ∧ ep.InUse chan := by
  constructor
  · rintro (registered | ⟨chan, task, found, same_sid, running⟩)
    · obtain ⟨chan, registered⟩ := Option.ne_none_iff_exists'.mp registered
      obtain ⟨task, found, same_sid⟩ := well.registered sid chan registered
      exact ⟨chan, task, found, same_sid, .inl ⟨sid, registered⟩⟩
    · exact ⟨chan, task, found, same_sid, .inr ⟨task, found, running⟩⟩
  · rintro ⟨chan, task, found, rfl, ⟨sid, registered⟩ | ⟨task', found', running⟩⟩
    · obtain ⟨task', found', rfl⟩ := well.registered sid chan registered
      obtain rfl := Option.some.inj (found.symm.trans found')
      exact .inl (by simp [registered])
    · obtain rfl := Option.some.inj (found.symm.trans found')
      exact .inr ⟨chan, task, found, rfl, running⟩

section Steps

variable {linkMdu : ℕ+} {socks : FastSocks5} {ep next : Endpoint} {act : EndpointAct}

theorem Step.nextSid_eq (taken : Step linkMdu socks ep act next) (other : act ≠ .nextSessionId) :
    next.mux.nextSid = ep.mux.nextSid := by
  cases taken with
  | session _ _ performs =>
      cases performs with
      | _ => rfl
  | nextSessionId => exact absurd rfl other
  | @dispatch frame =>
      obtain ⟨channels, same⟩ := ep.mux.dispatch_frame frame
      rw [same]
  | sender taken =>
      obtain ⟨linkId, dataSenderBuf, sender, wire, handed, rfl⟩ := taken.frame
      rfl
  | _ => rfl

theorem Step.nextChan_eq (taken : Step linkMdu socks ep act next)
    (other : ∀ start sid, act ≠ .spawn start sid) : next.mux.nextChan = ep.mux.nextChan := by
  cases taken with
  | session _ _ performs => exact performs.nextChan_eq
  | @spawn start sid => exact absurd rfl (other start sid)
  | @dispatch frame =>
      obtain ⟨channels, same⟩ := ep.mux.dispatch_frame frame
      rw [same]
  | sender taken =>
      obtain ⟨linkId, dataSenderBuf, sender, wire, handed, rfl⟩ := taken.frame
      rfl
  | _ => rfl

theorem Step.tasks_of_some (taken : Step linkMdu socks ep act next)
    (other : ∀ start sid, act ≠ .spawn start sid) {chan : ChanId} {task : Task}
    (found : next.tasks chan = some task) :
    ∃ before, ep.tasks chan = some before ∧ before.sid = task.sid ∧
      (before.hasEnded = true → task.hasEnded = true) := by
  cases taken with
  | session owned taken performs =>
      rcases update_some_cases found with ⟨rfl, rfl⟩ | ⟨_, found⟩
      · exact ⟨_, owned, taken.identity.1.symm, taken.hasEnded⟩
      · exact ⟨task, found, rfl, id⟩
  | @spawn start sid => exact absurd rfl (other start sid)
  | _ => exact ⟨task, found, rfl, id⟩

/-- Only `register_session` registers a session. -/
theorem Step.sessions_of_some (taken : Step linkMdu socks ep act next)
    (other : ∀ start sid, act ≠ .spawn start sid) {sid : UInt32} {chan : ChanId}
    (found : next.mux.sessions sid = some chan) : ep.mux.sessions sid = some chan := by
  cases taken with
  | session _ _ performs => exact performs.sessions_of_some found
  | @spawn start sid => exact absurd rfl (other start sid)
  | @dispatch frame =>
      obtain ⟨channels, same⟩ := ep.mux.dispatch_frame frame
      rwa [same] at found
  | sender taken =>
      obtain ⟨linkId, dataSenderBuf, sender, wire, handed, rfl⟩ := taken.frame
      exact found
  | resetSessions => simp [Mux.resetSessions] at found
  | _ => exact found

theorem Exclusive.of_other (exclusive : Exclusive ep) (taken : Step linkMdu socks ep act next)
    (not_spawned : ∀ start sid, act ≠ .spawn start sid) : Exclusive next := by
  intro chan task found running other different
  obtain ⟨before, owned, same_sid, ended⟩ := taken.tasks_of_some not_spawned found
  have running_before : before.hasEnded = false := by
    rw [← Bool.not_eq_true]
    intro ended_before
    simp [ended ended_before] at running
  have only := exclusive chan before owned running_before other different
  constructor
  · intro registered
    apply only.1
    rw [same_sid]
    exact taken.sessions_of_some not_spawned registered
  · intro owner owns owner_sid
    obtain ⟨earlier, owned_earlier, earlier_sid, ended_earlier⟩ :=
      taken.tasks_of_some not_spawned owns
    exact ended_earlier
      (only.2 earlier owned_earlier (earlier_sid.trans (owner_sid.trans same_sid.symm)))

theorem Exclusive.spawn (exclusive : Exclusive ep) (start : Start) {sid : UInt32}
    (unused : ¬ ep.Occupied sid) :
    Exclusive
      { mux := (ep.mux.registerSession sid).2
        tasks := Function.update ep.tasks ep.mux.nextChan (some (Task.spawn start sid)) } := by
  intro chan task found running other different
  rcases update_some_cases found with ⟨rfl, rfl⟩ | ⟨_, found⟩
  · constructor
    · have registered : (ep.mux.registerSession sid).2.sessions sid = some ep.mux.nextChan := by
        simp [Mux.registerSession]
      intro registered'
      exact different (Option.some.inj (registered'.symm.trans registered))
    · intro owner owns same_sid
      rcases update_some_cases owns with ⟨same, _⟩ | ⟨_, owns⟩
      · exact absurd same different
      · by_contra not_ended
        exact unused (.inr ⟨other, owner, owns, same_sid, by simpa using not_ended⟩)
  · have other_sid : task.sid ≠ sid := by
      intro same_sid
      exact unused (.inr ⟨chan, task, found, same_sid, running⟩)
    have only := exclusive chan task found running other different
    constructor
    · simpa [Mux.registerSession, other_sid] using only.1
    · intro owner owns same_sid
      rcases update_some_cases owns with ⟨_, rfl⟩ | ⟨_, owns⟩
      · exact absurd same_sid.symm other_sid
      · exact only.2 owner owns same_sid

end Steps

end Endpoint

/-- The effects with which a handler gives up its session id: CLOSE and `drop_session`. -/
def Effect.releases : Effect → Bool
  | .send frame => frame.frameType = .close
  | .dropSession => true
  | _ => false

theorem Task.Step.running_of_releases {socks : FastSocks5} {task next : Task} {act : TaskAct}
    {effect : Effect} (taken : Task.Step socks task act next effect)
    (releases : effect.releases = true) : task.hasEnded = false := by
  rw [← Bool.not_eq_true]
  intro ended
  obtain ⟨relayAct, relay, rfl, _, _⟩ := taken.of_hasEnded ended
  cases taken with
  | move moves => exact Moves.not_relay moves
  | relay _ taken => cases taken <;> simp [Effect.releases] at releases

/-! ## The allocations of a run -/

/-- The session ids handed out so far, each told by the number of its allocation. -/
structure Allocations where
  /-- The number of allocations. -/
  count : ℕ
  /-- The allocation each accept loop has made last. -/
  pending : ℕ → ℕ
  /-- The allocation of each session, in the order of registration. -/
  sessions : List ℕ

namespace Allocations

/-- Before the first allocation. -/
def new : Allocations := ⟨0, fun _ => 0, []⟩

/-- What a step does to the allocations. -/
def next (allocations : Allocations) : ClientAct → Allocations
  | .nextSessionId loop =>
      { allocations with
        count := allocations.count + 1
        pending := Function.update allocations.pending loop (allocations.count + 1) }
  | .registerSession loop =>
      { allocations with sessions := allocations.sessions ++ [allocations.pending loop] }
  | _ => allocations

end Allocations

namespace Client

/-- The allocations of a run. -/
def allocations (past : List (Client × ClientAct)) : Allocations :=
  past.foldl (fun allocations taken => allocations.next taken.2) .new

theorem allocations_concat (past : List (Client × ClientAct)) (client : Client) (act : ClientAct) :
    allocations (past ++ [(client, act)]) = (allocations past).next act := by
  simp [allocations]

/-- The steps of the client by what they do to the session ids. -/
inductive Numbers (client : Client) : ClientAct → Client → Option EndpointAct → Prop
  | allocates {loop listener} (numbering : client.loops[loop]? = some ⟨listener, .numbering⟩) :
      Numbers client (.nextSessionId loop)
        (client.setStage loop listener (.registering client.endpoint.mux.nextSessionId.1))
        (some .nextSessionId)
  | registers {loop listener sid}
      (registering : client.loops[loop]? = some ⟨listener, .registering sid⟩) :
      Numbers client (.registerSession loop) (client.setStage loop listener .accepting)
        (some (.spawn listener.start sid))
  | neither {act : ClientAct} {next : Client} {endpointAct : Option EndpointAct}
      (same : ∀ allocations : Allocations, allocations.next act = allocations)
      (loops : ∀ (loop : ℕ) (listener : Listener) (sid : UInt32),
        next.loops[loop]? = some ⟨listener, .registering sid⟩ →
          client.loops[loop]? = some ⟨listener, .registering sid⟩)
      (not_allocates : endpointAct ≠ some .nextSessionId)
      (not_registers : ∀ start sid, endpointAct ≠ some (.spawn start sid)) :
      Numbers client act next endpointAct

theorem registering_of_setStage {client : Client} {loop other : ℕ} {listener listener' : Listener}
    {stage : AcceptStage} {sid : UInt32} (not_registering : stage ≠ .registering sid)
    (holds : (client.setStage loop listener stage).loops[other]? =
      some ⟨listener', .registering sid⟩) :
    client.loops[other]? = some ⟨listener', .registering sid⟩ := by
  simp only [setStage, List.getElem?_set] at holds
  split_ifs at holds
  · cases holds
    exact absurd rfl not_registering
  · exact holds

theorem numbers_of_control {client next : Client} {act : ClientAct}
    {endpointAct : Option EndpointAct}
    (controlled : client.control act = some (next, endpointAct)) :
    Numbers client act next endpointAct := by
  cases act with
  | session chan act =>
      cases controlled
      exact .neither (fun _ => rfl) (fun _ _ _ holds => holds) (by simp) (by simp)
  | sender act =>
      cases controlled
      exact .neither (fun _ => rfl) (fun _ _ _ holds => holds) (by simp) (by simp)
  | accept loop =>
      simp only [control] at controlled
      split at controlled <;> cases controlled
      exact .neither (fun _ => rfl) (fun _ _ _ holds => registering_of_setStage (by simp) holds)
        (by simp) (by simp)
  | isConnected loop =>
      simp only [control] at controlled
      split at controlled <;> cases controlled
      refine .neither (fun _ => rfl) (fun _ _ _ holds => registering_of_setStage ?_ holds)
        (by simp) (by simp)
      split_ifs <;> simp
  | nextSessionId loop =>
      simp only [control] at controlled
      split at controlled <;> cases controlled
      exact .allocates ‹_›
  | registerSession loop =>
      simp only [control] at controlled
      split at controlled <;> cases controlled
      exact .registers ‹_›
  | event event =>
      simp only [control, Option.ite_none_right_eq_some, Option.map_eq_some_iff] at controlled
      obtain ⟨_, ⟨dispatcher, reaction⟩, reacted, same⟩ := controlled
      cases same
      have received := onEvent_receives reacted
      refine .neither (fun _ => rfl) (fun _ _ _ holds => holds) ?_ ?_
      · intro same
        obtain ⟨_, impossible⟩ := received _ same
        cases impossible
      · intro start sid same
        obtain ⟨_, impossible⟩ := received _ same
        cases impossible
  | dispatch | reset | attempt _ | setLinkId =>
      simp only [control] at controlled
      split at controlled <;> cases controlled <;>
        exact .neither (fun _ => rfl) (fun _ _ _ holds => holds) (by simp) (by simp)
  | linkDown link =>
      cases controlled
      exact .neither (fun _ => rfl) (fun _ _ _ holds => holds) (by simp) (by simp)

/-! ## The runs in which no id is given out twice at a time -/

/-- The client gives out unused session ids: the id that `next_session_id` returns is the id of no
session in use, `register_session` replaces no session in use, and a handler that sends CLOSE or
drops its session is the only one in use with its id. -/
structure GivesUnused (socks : FastSocks5) (client : Client) (act : ClientAct) : Prop where
  /-- The id is not in use. -/
  allocated : ∀ loop, act = .nextSessionId loop →
    ¬ client.endpoint.Occupied client.endpoint.mux.nextSessionId.1
  /-- No session in use is replaced. -/
  registered : ∀ loop listener sid, act = .registerSession loop →
    client.loops[loop]? = some ⟨listener, .registering sid⟩ → ¬ client.endpoint.Occupied sid
  /-- No other session is hit. -/
  released : ∀ chan taskAct task next effect, act = .session chan taskAct →
    client.endpoint.tasks chan = some task → task.step socks taskAct = some (next, effect) →
      effect.releases = true → client.endpoint.OnlyUser chan task.sid

/-- No session in use was allocated a multiple of `2 ^ 32` allocations before the allocation that
is made or registered. -/
structure FarFromUsed (recorded : List (Client × ClientAct) × Client) (act : ClientAct) :
    Prop where
  /-- The next allocation. -/
  allocated : ∀ loop, act = .nextSessionId loop →
    ∀ chan number, (allocations recorded.1).sessions[chan]? = some number →
      recorded.2.endpoint.InUse chan →
        number % 2 ^ 32 ≠ ((allocations recorded.1).count + 1) % 2 ^ 32
  /-- The allocation that an accept loop registers. -/
  registered : ∀ loop, act = .registerSession loop →
    ∀ chan number, (allocations recorded.1).sessions[chan]? = some number →
      recorded.2.endpoint.InUse chan →
        number % 2 ^ 32 ≠ (allocations recorded.1).pending loop % 2 ^ 32

/-- The session ids are the numbers of their allocations, cut to 32 bits. -/
structure Numbered (recorded : List (Client × ClientAct) × Client) : Prop where
  /-- The tables agree. -/
  well : recorded.2.endpoint.WellFormed
  /-- The counter. -/
  count : recorded.2.endpoint.mux.nextSid = UInt32.ofNat (allocations recorded.1).count
  /-- The ids that the accept loops hold. -/
  pending : ∀ loop listener sid, recorded.2.loops[loop]? = some ⟨listener, .registering sid⟩ →
    sid = UInt32.ofNat ((allocations recorded.1).pending loop)
  /-- Every channel has an allocation. -/
  length : (allocations recorded.1).sessions.length = recorded.2.endpoint.mux.nextChan
  /-- The ids of the sessions. -/
  sessions : ∀ chan task, recorded.2.endpoint.tasks chan = some task →
    ∃ number, (allocations recorded.1).sessions[chan]? = some number ∧
      task.sid = UInt32.ofNat number
  /-- Every running session is the only user of its id. -/
  exclusive : recorded.2.endpoint.Exclusive

theorem ofNat_eq_iff (number other : ℕ) :
    UInt32.ofNat number = UInt32.ofNat other ↔ number % 2 ^ 32 = other % 2 ^ 32 := by
  rw [← UInt32.toNat_inj, UInt32.toNat_ofNat', UInt32.toNat_ofNat']

theorem ofNat_succ (count : ℕ) : UInt32.ofNat count + 1 = UInt32.ofNat (count + 1) := by
  rw [← UInt32.toNat_inj, UInt32.toNat_add]
  simp only [UInt32.toNat_ofNat', UInt32.toNat_one]
  omega

section Steps

variable {linkMdu : ℕ+} {socks : FastSocks5} {past : List (Client × ClientAct)}
  {client next : Client} {act : ClientAct}

theorem numbered_new (link : LinkId) (listeners : List Listener) :
    Numbered ([], new link listeners) where
  well := wellFormed_new link listeners
  count := rfl
  pending loop listener sid holds := by
    simp [new] at holds
  length := rfl
  sessions chan task found := by simp [new, Endpoint.new] at found
  exclusive := by
    intro chan task found
    simp [new, Endpoint.new] at found

theorem Numbered.occupied_iff (numbered : Numbered (past, client)) (number : ℕ) :
    client.endpoint.Occupied (UInt32.ofNat number) ↔
      ∃ chan other, (allocations past).sessions[chan]? = some other ∧
        client.endpoint.InUse chan ∧ other % 2 ^ 32 = number % 2 ^ 32 := by
  rw [numbered.well.occupied_iff]
  constructor
  · rintro ⟨chan, task, found, same_sid, inUse⟩
    obtain ⟨other, allocated, sid_eq⟩ := numbered.sessions chan task found
    exact ⟨chan, other, allocated, inUse, (ofNat_eq_iff _ _).mp (sid_eq.symm.trans same_sid)⟩
  · rintro ⟨chan, other, allocated, inUse, same⟩
    obtain ⟨task, found⟩ : ∃ task, client.endpoint.tasks chan = some task := by
      rcases inUse with ⟨sid, registered⟩ | ⟨task, found, _⟩
      · obtain ⟨task, found, _⟩ := numbered.well.registered sid chan registered
        exact ⟨task, found⟩
      · exact ⟨task, found⟩
    obtain ⟨other', allocated', sid_eq⟩ := numbered.sessions chan task found
    obtain rfl := Option.some.inj (allocated.symm.trans allocated')
    exact ⟨chan, task, found, sid_eq.trans ((ofNat_eq_iff _ _).mpr same), inUse⟩

/-- The numbers stay where no id is given out and the sessions keep theirs. -/
theorem Numbered.keep (numbered : Numbered (past, client))
    (same : ∀ allocations : Allocations, allocations.next act = allocations)
    (loops : ∀ (loop : ℕ) (listener : Listener) (sid : UInt32),
      next.loops[loop]? = some ⟨listener, .registering sid⟩ →
        client.loops[loop]? = some ⟨listener, .registering sid⟩)
    (well : next.endpoint.WellFormed)
    (nextSid : next.endpoint.mux.nextSid = client.endpoint.mux.nextSid)
    (nextChan : next.endpoint.mux.nextChan = client.endpoint.mux.nextChan)
    (tasks : ∀ chan task, next.endpoint.tasks chan = some task →
      ∃ before, client.endpoint.tasks chan = some before ∧ before.sid = task.sid)
    (exclusive : next.endpoint.Exclusive) :
    Numbered (past ++ [(client, act)], next) := by
  have kept : allocations (past ++ [(client, act)]) = allocations past := by
    rw [allocations_concat, same]
  refine ⟨well, ?_, fun loop listener sid holds => ?_, ?_, fun chan task found => ?_, exclusive⟩
  · simp only [kept]
    exact nextSid.trans numbered.count
  · simp only [kept]
    exact numbered.pending loop listener sid (loops loop listener sid holds)
  · simp only [kept]
    exact numbered.length.trans nextChan.symm
  · simp only [kept]
    obtain ⟨before, owned, same_sid⟩ := tasks chan task found
    obtain ⟨number, allocated, sid_eq⟩ := numbered.sessions chan before owned
    exact ⟨number, allocated, same_sid.symm.trans sid_eq⟩

theorem Numbered.allocate (numbered : Numbered (past, client)) {loop : ℕ} {listener : Listener}
    {endpoint : Endpoint}
    (stepped : Endpoint.Step linkMdu socks client.endpoint .nextSessionId endpoint) :
    Numbered (past ++ [(client, .nextSessionId loop)],
      { client.setStage loop listener (.registering client.endpoint.mux.nextSessionId.1) with
        endpoint }) := by
  have counter : client.endpoint.mux.nextSid + 1 =
      UInt32.ofNat ((allocations past).count + 1) := by
    rw [numbered.count, ofNat_succ]
  refine ⟨numbered.well.step stepped, ?_, fun other listener' sid holds => ?_, ?_,
    fun chan task found => ?_, numbered.exclusive.of_other stepped (by simp)⟩
  all_goals simp only [allocations_concat, Allocations.next]
  · cases stepped
    exact counter
  · by_cases same : other = loop
    · subst same
      have sid_eq : client.endpoint.mux.nextSessionId.1 = sid := by
        simp only [setStage, List.getElem?_set_self'] at holds
        obtain ⟨_, _, stage_eq⟩ := Option.map_eq_some_iff.mp holds
        cases stage_eq
        rfl
      rw [Function.update_self, ← sid_eq]
      exact counter
    · rw [Function.update_of_ne same]
      simp only [setStage, List.getElem?_set_ne (Ne.symm same)] at holds
      exact numbered.pending other listener' sid holds
  · cases stepped
    exact numbered.length
  · cases stepped
    exact numbered.sessions chan task found

theorem Numbered.register (numbered : Numbered (past, client)) {loop : ℕ} {listener : Listener}
    {sid : UInt32} {endpoint : Endpoint}
    (registering : client.loops[loop]? = some ⟨listener, .registering sid⟩)
    (unused : ¬ client.endpoint.Occupied sid)
    (stepped : Endpoint.Step linkMdu socks client.endpoint (.spawn listener.start sid) endpoint) :
    Numbered (past ++ [(client, .registerSession loop)],
      { client.setStage loop listener .accepting with endpoint }) := by
  have well := numbered.well.step stepped
  cases stepped
  refine ⟨well, ?_, fun other listener' sid' holds => ?_, ?_, fun chan task found => ?_,
    numbered.exclusive.spawn listener.start unused⟩
  all_goals simp only [allocations_concat, Allocations.next]
  · exact numbered.count
  · exact numbered.pending other listener' sid' (registering_of_setStage (by simp) holds)
  · rw [List.length_append, numbered.length]
    rfl
  · rcases update_some_cases found with ⟨rfl, rfl⟩ | ⟨_, found⟩
    · refine ⟨(allocations past).pending loop, ?_, numbered.pending loop listener sid registering⟩
      rw [← numbered.length, List.getElem?_concat_length]
    · obtain ⟨number, allocated, sid_eq⟩ := numbered.sessions chan task found
      refine ⟨number, ?_, sid_eq⟩
      rw [List.getElem?_append_left (List.getElem?_eq_some_iff.mp allocated).1, allocated]

/-- Every step that gives out unused ids keeps the numbers. -/
theorem Numbered.step (numbered : Numbered (past, client)) (gives : GivesUnused socks client act)
    (taken : client.step linkMdu socks act = some next) :
    Numbered (past ++ [(client, act)], next) := by
  cases step_cases taken with
  | control controlled =>
      have numbers := numbers_of_control controlled
      have endpoint := (control_cases controlled).endpoint
      generalize same : (none : Option EndpointAct) = endpointAct at numbers
      cases numbers with
      | neither unchanged loops _ _ =>
          refine numbered.keep unchanged loops (endpoint ▸ numbered.well) (by rw [endpoint])
            (by rw [endpoint]) (fun chan task found => ?_) (endpoint ▸ numbered.exclusive)
          exact ⟨task, endpoint ▸ found, rfl⟩
      | _ => cases same
  | @endpoint middle endpointAct endpoint controlled stepped =>
      have stepped := Endpoint.step_cases stepped
      have numbers := numbers_of_control controlled
      generalize same : some endpointAct = choice at numbers
      cases numbers with
      | allocates numbering =>
          cases same
          exact numbered.allocate stepped
      | registers registering =>
          cases same
          exact numbered.register registering
            (gives.registered _ _ _ rfl registering) stepped
      | neither unchanged loops not_allocates not_registers =>
          subst same
          have other : ∀ start sid, endpointAct ≠ .spawn start sid := fun start sid spawns =>
            not_registers start sid (congrArg some spawns)
          refine numbered.keep unchanged loops (numbered.well.step stepped)
            (stepped.nextSid_eq fun allocates => not_allocates (congrArg some allocates))
            (stepped.nextChan_eq other) (fun chan task found => ?_)
            (numbered.exclusive.of_other stepped other)
          obtain ⟨before, owned, same_sid, _⟩ := stepped.tasks_of_some other found
          exact ⟨before, owned, same_sid⟩

theorem registering_of_step {loop : ℕ}
    (taken : client.step linkMdu socks (.registerSession loop) = some next) :
    ∃ listener sid, client.loops[loop]? = some ⟨listener, .registering sid⟩ := by
  cases step_cases taken with
  | control controlled =>
      simp only [control] at controlled
      split at controlled <;> cases controlled
  | endpoint controlled _ =>
      simp only [control] at controlled
      split at controlled <;> cases controlled
      exact ⟨_, _, ‹_›⟩

theorem Numbered.gives_iff (numbered : Numbered (past, client))
    (taken : client.step linkMdu socks act = some next) :
    GivesUnused socks client act ↔ FarFromUsed (past, client) act := by
  have counter : client.endpoint.mux.nextSessionId.1 =
      UInt32.ofNat ((allocations past).count + 1) := by
    rw [← ofNat_succ, ← numbered.count]
    rfl
  constructor
  · intro gives
    constructor
    · rintro loop rfl chan number allocated inUse same
      apply gives.allocated loop rfl
      rw [counter, numbered.occupied_iff]
      exact ⟨chan, number, allocated, inUse, same⟩
    · rintro loop rfl chan number allocated inUse same
      obtain ⟨listener, sid, registering⟩ := registering_of_step taken
      apply gives.registered loop listener sid rfl registering
      rw [numbered.pending loop listener sid registering, numbered.occupied_iff]
      exact ⟨chan, number, allocated, inUse, same⟩
  · intro far
    refine ⟨?_, ?_, ?_⟩
    · rintro loop rfl occupied
      rw [counter, numbered.occupied_iff] at occupied
      obtain ⟨chan, number, allocated, inUse, same⟩ := occupied
      exact far.allocated loop rfl chan number allocated inUse same
    · rintro loop listener sid rfl registering occupied
      rw [numbered.pending loop listener sid registering, numbered.occupied_iff] at occupied
      obtain ⟨chan, number, allocated, inUse, same⟩ := occupied
      exact far.registered loop rfl chan number allocated inUse same
    · rintro chan taskAct task later effect rfl found taken releases
      have running := (Task.step_cases taken).running_of_releases releases
      exact numbered.exclusive chan task found running

/-- The client gives out unused session ids exactly in the runs in which, whenever an allocation is
made or registered, no session in use was allocated a multiple of `2 ^ 32` allocations earlier. -/
theorem givesUnused_iff {link : LinkId} {listeners : List Listener} {acts : List ClientAct}
    {final : Client}
    (execution : Execution.run (Client.step linkMdu socks) (new link listeners) acts =
      some final) :
    Execution.Along (Execution.recording (Client.step linkMdu socks))
        (fun recorded act => GivesUnused socks recorded.2 act) ([], new link listeners) acts ↔
      Execution.Along (Execution.recording (Client.step linkMdu socks)) FarFromUsed
        ([], new link listeners) acts := by
  refine Execution.along_congr ?_ ?_ (numbered_new link listeners)
    (Execution.run_recording execution)
  · rintro ⟨past, client⟩ act after numbered gives taken
    obtain ⟨next, stepped, rfl⟩ := Execution.recording_eq_some.mp taken
    exact numbered.step gives stepped
  · rintro ⟨past, client⟩ act after numbered taken
    obtain ⟨next, stepped, rfl⟩ := Execution.recording_eq_some.mp taken
    exact numbered.gives_iff stepped

end Steps

/-! ## An id that is given out again -/

/-- A connection whose handshake fails. -/
def failedConnection (chan : ChanId) : List ClientAct :=
  [.accept 0, .isConnected 0, .nextSessionId 0, .registerSession 0,
    .session chan (.handshake false)]

/-- A connection that does not begin its handshake, and further ones whose handshakes fail. -/
def connections : ℕ → List ClientAct
  | 0 => [.accept 0, .isConnected 0, .nextSessionId 0, .registerSession 0]
  | count + 1 => connections count ++ failedConnection (count + 1)

/-- The first session has not begun its handshake, and as many further ones have been numbered. -/
structure Waiting (count : ℕ) (client : Client) : Prop where
  /-- The accept loop is back in `listener.accept()`. -/
  loops : client.loops = [⟨.socks, .accepting⟩]
  /-- The client is connected. -/
  connected : client.endpoint.mux.linkId = some 1
  /-- The first session is waiting. -/
  first : client.endpoint.tasks 0 = some (Task.spawn .socks 1)
  /-- The next channel. -/
  nextChan : client.endpoint.mux.nextChan = count + 1
  /-- The last id. -/
  nextSid : client.endpoint.mux.nextSid = UInt32.ofNat (count + 1)

/-- A connection is accepted. -/
theorem Waiting.accepts {linkMdu : ℕ+} {socks : FastSocks5} {count : ℕ} {client : Client}
    (waiting : Waiting count client) :
    Execution.run (step linkMdu socks) client [.accept 0, .isConnected 0] =
      some { client with loops := [⟨.socks, .numbering⟩] } := by
  simp [Execution.run, Client.step, control, setStage, Mux.isConnected, waiting.loops,
    waiting.connected]

theorem run_numbering {linkMdu : ℕ+} {socks : FastSocks5} {client : Client}
    (loops : client.loops = [⟨.socks, .numbering⟩]) :
    ∃ next, Execution.run (step linkMdu socks) client [.nextSessionId 0, .registerSession 0] =
        some next ∧
      next.loops = [⟨.socks, .accepting⟩] ∧
      next.endpoint.mux.linkId = client.endpoint.mux.linkId ∧
      next.endpoint.tasks = Function.update client.endpoint.tasks client.endpoint.mux.nextChan
        (some (Task.spawn .socks client.endpoint.mux.nextSessionId.1)) ∧
      next.endpoint.mux.nextChan = client.endpoint.mux.nextChan + 1 ∧
      next.endpoint.mux.nextSid = client.endpoint.mux.nextSid + 1 := by
  rcases client with ⟨endpoint, loops, dispatcher, down⟩
  subst loops
  exact ⟨_, rfl, rfl, rfl, rfl, rfl, rfl⟩

/-- The handshake of a connection fails. -/
theorem step_handshakeFailed {linkMdu : ℕ+} {socks : FastSocks5} {client : Client} {chan : ChanId}
    {sid : UInt32} (spawned : client.endpoint.tasks chan = some (Task.spawn .socks sid)) :
    ∃ next, client.step linkMdu socks (.session chan (.handshake false)) = some next ∧
      next.loops = client.loops ∧ next.endpoint.mux = client.endpoint.mux ∧
      ∀ other ≠ chan, next.endpoint.tasks other = client.endpoint.tasks other := by
  simp +contextual [Client.step, control, Endpoint.step, spawned, Task.step, Task.spawn, Start.pc,
    Endpoint.perform]

theorem Waiting.failedConnection {linkMdu : ℕ+} {socks : FastSocks5} {count : ℕ} {client : Client}
    (waiting : Waiting count client) :
    ∃ next, Execution.run (step linkMdu socks) client (failedConnection (count + 1)) = some next ∧
      Waiting (count + 1) next := by
  obtain ⟨middle, numbered, loops, linkId, tasks, nextChan, nextSid⟩ :=
    @run_numbering linkMdu socks { client with loops := [⟨.socks, .numbering⟩] } rfl
  dsimp only at linkId tasks nextChan nextSid
  rw [waiting.nextChan] at tasks nextChan
  have spawned : middle.endpoint.tasks (count + 1) =
      some (Task.spawn .socks client.endpoint.mux.nextSessionId.1) := by simp [tasks]
  obtain ⟨next, failed, same_loops, same_mux, others⟩ :=
    @step_handshakeFailed linkMdu socks middle (count + 1) _ spawned
  have execution : Execution.run (step linkMdu socks) client
      ([.accept 0, .isConnected 0] ++ ([.nextSessionId 0, .registerSession 0] ++
        [.session (count + 1) (.handshake false)])) = some next :=
    Execution.run_append_eq_some.mpr ⟨_, waiting.accepts,
      Execution.run_append_eq_some.mpr ⟨middle, numbered,
        Execution.run_cons_eq_some.mpr ⟨next, failed, rfl⟩⟩⟩
  refine ⟨next, execution, same_loops.trans loops, ?_, ?_, ?_, ?_⟩
  · rw [same_mux, linkId, waiting.connected]
  · rw [others 0 (Nat.succ_ne_zero count).symm, tasks, ← waiting.first]
    exact Function.update_of_ne (Nat.succ_ne_zero count).symm ..
  · rw [same_mux, nextChan]
  · rw [same_mux, nextSid, waiting.nextSid, ofNat_succ]

theorem waiting_connections {linkMdu : ℕ+} {socks : FastSocks5} (count : ℕ) :
    ∃ client, Execution.run (step linkMdu socks) (new 1 [.socks]) (connections count) =
      some client ∧ Waiting count client := by
  induction count with
  | zero => exact ⟨_, rfl, rfl, rfl, rfl, rfl, rfl⟩
  | succ count ih =>
      obtain ⟨client, execution, waiting⟩ := ih
      obtain ⟨next, further, waiting⟩ := @waiting.failedConnection linkMdu socks
      exact ⟨next, Execution.run_append_eq_some.mpr ⟨client, execution, further⟩, waiting⟩

/-- Another connection is accepted and numbered. -/
theorem Waiting.nextConnection {linkMdu : ℕ+} {socks : FastSocks5} {count : ℕ} {client : Client}
    (waiting : Waiting count client) :
    ∃ next last, Execution.run (step linkMdu socks) client [.accept 0, .isConnected 0] = some next ∧
      next.endpoint = client.endpoint ∧
      next.step linkMdu socks (.nextSessionId 0) = some last := by
  exact ⟨_, _, waiting.accepts, rfl, rfl⟩

theorem not_givesUnused_connections {linkMdu : ℕ+} {socks : FastSocks5} {count : ℕ}
    (wraps : (count + 1) % 2 ^ 32 = 0) :
    (∃ final, Execution.run (step linkMdu socks) (new 1 [.socks])
        (connections count ++ [.accept 0, .isConnected 0] ++ [.nextSessionId 0]) = some final) ∧
      ¬ Execution.Along (Execution.recording (step linkMdu socks))
        (fun recorded act => GivesUnused socks recorded.2 act) ([], new 1 [.socks])
        (connections count ++ [.accept 0, .isConnected 0] ++ [.nextSessionId 0]) := by
  obtain ⟨client, execution, waiting⟩ := @waiting_connections linkMdu socks count
  obtain ⟨next, last, further, same, allocates⟩ := @waiting.nextConnection linkMdu socks
  have front : Execution.run (step linkMdu socks) (new 1 [.socks])
      (connections count ++ [.accept 0, .isConnected 0]) = some next :=
    Execution.run_append_eq_some.mpr ⟨client, execution, further⟩
  constructor
  · refine ⟨last, Execution.run_append_eq_some.mpr ⟨next, front, ?_⟩⟩
    rw [Execution.run_cons, allocates]
    rfl
  · intro along
    have gives := Execution.along_iff_forall_split.mp along _ (.nextSessionId 0) [] _ rfl
      (Execution.run_recording front)
    apply gives.allocated 0 rfl
    have first_sid : next.endpoint.mux.nextSessionId.1 = 1 := by
      rw [same, Mux.nextSessionId, waiting.nextSid, ofNat_succ, ← UInt32.toNat_inj,
        UInt32.toNat_ofNat', Nat.add_mod, wraps]
      rfl
    rw [first_sid]
    exact .inr ⟨0, Task.spawn .socks 1, by rw [same]; exact waiting.first, rfl, rfl⟩

/-- `2 ^ 32` connections are accepted while the first one waits, and then another. -/
def wrapped : List ClientAct :=
  connections (2 ^ 32 - 1) ++ [.accept 0, .isConnected 0] ++ [.nextSessionId 0]

/-- The last connection is given the id of the first. -/
theorem not_givesUnused_wrapped :
    (∃ final, Execution.run (step 431 .rfc1928) (new 1 [.socks]) wrapped = some final) ∧
      ¬ Execution.Along (Execution.recording (step 431 .rfc1928))
        (fun recorded act => GivesUnused .rfc1928 recorded.2 act) ([], new 1 [.socks]) wrapped :=
  not_givesUnused_connections (by decide)

/-- Before the counter wraps the condition covers the run, here after two connections. -/
theorem givesUnused_iff_connections :
    Execution.Along (Execution.recording (step 431 .rfc1928))
        (fun recorded act => GivesUnused .rfc1928 recorded.2 act) ([], new 1 [.socks])
        (connections 1) ↔
      Execution.Along (Execution.recording (step 431 .rfc1928)) FarFromUsed ([], new 1 [.socks])
        (connections 1) :=
  givesUnused_iff
    (rfl : Execution.run (step 431 .rfc1928) (new 1 [.socks]) (connections 1) = some _)

end Client

end RnsProxy
