import RnsProxy.Coherence
import RnsProxy.SessionIds

/-!
# Session ids before the counter wraps

As long as a client has given out fewer than `2 ^ 32` session ids its counter has not wrapped, and
no two of the sessions it has ever had share an id. This is what the results about a tunnel assume
of the sessions of the client.
-/

namespace RnsProxy

/-- The step gives out a session id. -/
def ClientAct.allocates : ClientAct → Bool
  | nextSessionId _ => true
  | _ => false

namespace Client

/-- An accept loop has been given an id and has not registered its session yet. -/
def Holds (client : Client) (loop : ℕ) (sid : UInt32) : Prop :=
  ∃ listener, client.loops[loop]? = some ⟨listener, .registering sid⟩

/-- No id is given out twice: the ids of the sessions and those the accept loops hold are different
numbers up to the number of allocations. -/
structure Unrepeated (count : ℕ) (client : Client) : Prop where
  /-- The counter has not wrapped. -/
  counter : client.endpoint.mux.nextSid.toNat = count
  /-- The ids of the sessions have been given out. -/
  tasks : ∀ chan task, client.endpoint.tasks chan = some task → task.sid.toNat ≤ count
  /-- They are distinct. -/
  distinct : client.endpoint.DistinctIds
  /-- The id that an accept loop holds has been given out. -/
  held : ∀ loop sid, client.Holds loop sid → sid.toNat ≤ count
  /-- It is the id of no session. -/
  unused : ∀ loop sid, client.Holds loop sid →
    ∀ chan task, client.endpoint.tasks chan = some task → task.sid ≠ sid
  /-- No other accept loop holds it. -/
  single : ∀ loop other sid, client.Holds loop sid → client.Holds other sid → loop = other

theorem unrepeated_new (link : LinkId) (listeners : List Listener) :
    Unrepeated 0 (new link listeners) where
  counter := rfl
  tasks chan task found := by simp [new, Endpoint.new] at found
  distinct chan other task task' found := by simp [new, Endpoint.new] at found
  held loop sid holds := by simp [Holds, new] at holds
  unused loop sid holds := by simp [Holds, new] at holds
  single loop other sid holds := by simp [Holds, new] at holds

theorem holds_of_setStage {client : Client} {loop other : ℕ} {listener : Listener}
    {stage : AcceptStage} {sid : UInt32}
    (holds : (client.setStage loop listener stage).Holds other sid) :
    other = loop ∧ stage = .registering sid ∨ other ≠ loop ∧ client.Holds other sid := by
  obtain ⟨listener', holds⟩ := holds
  simp only [setStage, List.getElem?_set] at holds
  split_ifs at holds with same bound
  · cases holds
    exact .inl ⟨same.symm, rfl⟩
  · exact .inr ⟨Ne.symm same, listener', holds⟩

section Steps

variable {linkMdu : ℕ+} {socks : FastSocks5} {count : ℕ} {client next : Client} {act : ClientAct}

/-- Where no id is given out and no session is registered, nothing changes. -/
theorem Unrepeated.keep (unrepeated : Unrepeated count client)
    (loops : ∀ loop sid, next.Holds loop sid → client.Holds loop sid)
    (nextSid : next.endpoint.mux.nextSid = client.endpoint.mux.nextSid)
    (tasks : ∀ chan task, next.endpoint.tasks chan = some task →
      ∃ before, client.endpoint.tasks chan = some before ∧ before.sid = task.sid) :
    Unrepeated count next where
  counter := nextSid ▸ unrepeated.counter
  tasks chan task found := by
    obtain ⟨before, earlier, same_sid⟩ := tasks chan task found
    exact same_sid ▸ unrepeated.tasks chan before earlier
  distinct chan other task task' found found' same := by
    obtain ⟨before, earlier, same_sid⟩ := tasks chan task found
    obtain ⟨before', earlier', same_sid'⟩ := tasks other task' found'
    exact unrepeated.distinct chan other before before' earlier earlier'
      (same_sid.trans (same.trans same_sid'.symm))
  held loop sid holds := unrepeated.held loop sid (loops loop sid holds)
  unused loop sid holds chan task found := by
    obtain ⟨before, earlier, same_sid⟩ := tasks chan task found
    exact same_sid ▸ unrepeated.unused loop sid (loops loop sid holds) chan before earlier
  single loop other sid holds holds' :=
    unrepeated.single loop other sid (loops loop sid holds) (loops other sid holds')

/-- The id that is given out is greater than all before. -/
theorem Unrepeated.allocate (unrepeated : Unrepeated count client) (few : count + 1 < 2 ^ 32)
    {loop : ℕ} {listener : Listener} {endpoint : Endpoint}
    (stepped : Endpoint.Step linkMdu socks client.endpoint .nextSessionId endpoint) :
    Unrepeated (count + 1)
      { client.setStage loop listener (.registering client.endpoint.mux.nextSessionId.1) with
        endpoint } := by
  have given : client.endpoint.mux.nextSessionId.1.toNat = count + 1 := by
    have counter := unrepeated.counter
    simp only [Mux.nextSessionId, UInt32.toNat_add, UInt32.toNat_one]
    omega
  have greater {sid : UInt32} (bound : sid.toNat ≤ count) :
      sid ≠ client.endpoint.mux.nextSessionId.1 := by
    rintro rfl
    omega
  cases stepped
  refine ⟨given, fun chan task found => (unrepeated.tasks chan task found).trans (Nat.le_succ _),
    unrepeated.distinct, fun other sid holds => ?_, fun other sid holds chan task found => ?_,
    fun first second sid holds holds' => ?_⟩
  · rcases holds_of_setStage holds with ⟨_, same⟩ | ⟨_, holds⟩
    · cases same
      exact given.le
    · exact (unrepeated.held other sid holds).trans (Nat.le_succ _)
  · rcases holds_of_setStage holds with ⟨_, same⟩ | ⟨_, holds⟩
    · cases same
      exact greater (unrepeated.tasks chan task found)
    · exact unrepeated.unused other sid holds chan task found
  · rcases holds_of_setStage holds with ⟨here, same⟩ | ⟨_, holds⟩ <;>
      rcases holds_of_setStage holds' with ⟨here', same'⟩ | ⟨_, holds'⟩
    · exact here.trans here'.symm
    · cases same
      exact absurd rfl (greater (unrepeated.held second _ holds'))
    · cases same'
      exact absurd rfl (greater (unrepeated.held first _ holds))
    · exact unrepeated.single first second sid holds holds'

/-- The session that is registered takes the id from its accept loop. -/
theorem Unrepeated.register (unrepeated : Unrepeated count client) {loop : ℕ} {listener : Listener}
    {sid : UInt32} {endpoint : Endpoint} (registering : client.Holds loop sid)
    (stepped : Endpoint.Step linkMdu socks client.endpoint (.spawn listener.start sid) endpoint) :
    Unrepeated count { client.setStage loop listener .accepting with endpoint } := by
  have before {other : ℕ} {sid' : UInt32}
      (holds : (client.setStage loop listener .accepting).Holds other sid') :
      other ≠ loop ∧ client.Holds other sid' := by
    rcases holds_of_setStage holds with ⟨_, same⟩ | holds
    · cases same
    · exact holds
  have fresh := unrepeated.unused loop sid registering
  cases stepped
  refine ⟨unrepeated.counter, fun chan task found => ?_,
    fun chan other task task' found found' same => ?_,
    fun other sid' holds => unrepeated.held other sid' (before holds).2,
    fun other sid' holds chan task found => ?_,
    fun first second sid' holds holds' =>
      unrepeated.single first second sid' (before holds).2 (before holds').2⟩
  · rcases update_some_cases found with ⟨_, rfl⟩ | ⟨_, found⟩
    · exact unrepeated.held loop sid registering
    · exact unrepeated.tasks chan task found
  · rcases update_some_cases found with ⟨rfl, rfl⟩ | ⟨_, found⟩ <;>
      rcases update_some_cases found' with ⟨rfl, rfl⟩ | ⟨_, found'⟩
    · rfl
    · exact absurd same.symm (fresh other task' found')
    · exact absurd same (fresh chan task found)
    · exact unrepeated.distinct chan other task task' found found' same
  · rcases update_some_cases found with ⟨_, rfl⟩ | ⟨_, found⟩
    · rintro rfl
      exact (before holds).1 (unrepeated.single other loop _ (before holds).2 registering)
    · exact unrepeated.unused other sid' (before holds).2 chan task found

theorem not_allocates_of_same
    (same : ∀ allocations : Allocations, allocations.next act = allocations) :
    act.allocates = false := by
  cases act with
  | nextSessionId loop =>
      have count := congrArg Allocations.count (same .new)
      simp [Allocations.next] at count
  | _ => rfl

/-- Every step keeps the ids apart, as long as the counter does not wrap. -/
theorem Unrepeated.step (unrepeated : Unrepeated count client)
    (few : count + act.allocates.toNat < 2 ^ 32)
    (taken : client.step linkMdu socks act = some next) :
    Unrepeated (count + act.allocates.toNat) next := by
  cases step_cases taken with
  | control controlled =>
      have numbers := numbers_of_control controlled
      have endpoint := (control_cases controlled).endpoint
      generalize same : (none : Option EndpointAct) = endpointAct at numbers
      cases numbers with
      | neither unchanged loops _ _ =>
          rw [not_allocates_of_same unchanged]
          refine unrepeated.keep (fun loop sid holds => ?_) (by rw [endpoint])
            fun chan task found => ⟨task, endpoint ▸ found, rfl⟩
          obtain ⟨listener, holds⟩ := holds
          exact ⟨listener, loops loop listener sid holds⟩
      | _ => cases same
  | @endpoint middle endpointAct endpoint controlled stepped =>
      have stepped := Endpoint.step_cases stepped
      have numbers := numbers_of_control controlled
      generalize same : some endpointAct = choice at numbers
      cases numbers with
      | allocates numbering =>
          cases same
          exact unrepeated.allocate few stepped
      | registers registering =>
          cases same
          exact unrepeated.register ⟨_, registering⟩ stepped
      | neither unchanged loops not_allocates not_registers =>
          subst same
          have other : ∀ start sid, endpointAct ≠ .spawn start sid := fun start sid spawns =>
            not_registers start sid (congrArg some spawns)
          rw [not_allocates_of_same unchanged]
          refine unrepeated.keep (fun loop sid holds => ?_)
            (stepped.nextSid_eq fun allocates => not_allocates (congrArg some allocates))
            fun chan task found => ?_
          · obtain ⟨listener, holds⟩ := holds
            exact ⟨listener, loops loop listener sid holds⟩
          · obtain ⟨before, owned, same_sid, _⟩ := stepped.tasks_of_some other found
            exact ⟨before, owned, same_sid⟩

/-- As long as fewer than `2 ^ 32` ids have been given out, the sessions of the client have ids of
their own. -/
theorem distinctIds_of_run {link : LinkId} {listeners : List Listener} {acts : List ClientAct}
    (execution : Execution.run (step linkMdu socks) (new link listeners) acts = some client)
    (few : acts.countP ClientAct.allocates < 2 ^ 32) : client.endpoint.DistinctIds := by
  have unrepeated := Execution.run_past (fun past client =>
    past.countP ClientAct.allocates < 2 ^ 32 →
      Unrepeated (past.countP ClientAct.allocates) client) ?_
    (fun _ => unrepeated_new link listeners) execution
  · exact (unrepeated few).distinct
  · intro past before act after holds taken few
    have count : (past ++ [act]).countP ClientAct.allocates =
        past.countP ClientAct.allocates + act.allocates.toNat := by
      rw [List.countP_append, List.countP_singleton]
      cases act.allocates <;> rfl
    rw [count] at few ⊢
    exact (holds ((Nat.le_add_right _ _).trans_lt few)).step few taken

end Steps

end Client

end RnsProxy
