import RnsProxy.Mux

/-!
# Failed sends and the active link

The link sender reads `link_id`, releases the lock, and clears `link_id` when a chunk cannot be
sent, without looking whether the link it was sending on is still the active one. This file
determines the runs in which such a report never disconnects a newer link.
-/

namespace RnsProxy

namespace Mux

/-- The step is the link sender's report of a failed send on `link`. -/
def Reports (mux : Mux) (act : Act) (link : LinkId) : Prop :=
  act = .sender .clearLink ∧ ∃ out, mux.sender = .failed link out

/-- The failed send a step reports was on the active link, or no link is active. -/
def ReportsOwnLink (mux : Mux) (act : Act) : Prop :=
  ∀ link, mux.Reports act link → mux.linkId = none ∨ mux.linkId = some link

/-- The step neither closes `link`, nor replaces it, nor reports a failed send on it. -/
def LeavesLink (link : LinkId) (mux : Mux) (act : Act) : Prop :=
  act ≠ .resetLinkId ∧ (∀ other, act = .setLinkId other → other = link) ∧ ¬ mux.Reports act link

/-- Whenever a run sets a link, that link stays active until it is closed or replaced or a failed
send on it is reported. -/
def KeepsNewerLink (linkMdu : ℕ+) (actions : List Act) : Prop :=
  ∀ front link middle rest before after, actions = front ++ .setLinkId link :: (middle ++ rest) →
    Execution.run (step linkMdu) new front = some before →
    Execution.run (step linkMdu) (before.setLinkId link) middle = some after →
    Execution.Along (step linkMdu) (LeavesLink link) (before.setLinkId link) middle →
    after.linkId = some link ∧ after.isConnected = true

/-- A step that reports a failed send on `link` clears `link_id` only if that is still `link`. -/
def ClearsOnlyOwnLink (linkMdu : ℕ+) (mux : Mux) (act : Act) : Prop :=
  ∀ link active next, mux.Reports act link → mux.linkId = some active →
    mux.step linkMdu act = some next → next.linkId = none → active = link

/-- A send failure on an old link never disconnects a newer one. -/
def SparesNewerLinks (linkMdu : ℕ+) (actions : List Act) : Prop :=
  Execution.Along (step linkMdu) (ClearsOnlyOwnLink linkMdu) new actions ∧
    KeepsNewerLink linkMdu actions

variable {linkMdu : ℕ+}

theorem linkId_step {mux next : Mux} {act : Act} (taken : mux.step linkMdu act = some next) :
    next.linkId = mux.linkId ∨ (∃ link, act = .setLinkId link ∧ next.linkId = some link) ∨
      (act = .resetLinkId ∧ next.linkId = none) ∨
      ((∃ link, mux.Reports act link) ∧ next.linkId = none) := by
  cases act with
  | sender act =>
      cases senderStep_cases taken with
      | recv => exact .inl rfl
      | readLink => exact .inl rfl
      | dropFrame => exact .inl rfl
      | sentLast => exact .inl rfl
      | sentChunk => exact .inl rfl
      | sendFailed => exact .inl rfl
      | clearLink failed => exact .inr (.inr (.inr ⟨⟨_, rfl, _, failed⟩, rfl⟩))
  | setLinkId link =>
      cases taken
      exact .inr (.inl ⟨link, rfl, rfl⟩)
  | resetLinkId =>
      cases taken
      exact .inr (.inr (.inl ⟨rfl, rfl⟩))
  | resetSessions =>
      cases taken
      exact .inl rfl
  | resetRecvBuf =>
      cases taken
      exact .inl rfl
  | send out =>
      obtain ⟨_, rfl⟩ := sendFrame_eq_some.mp taken
      exact .inl rfl

theorem linkId_of_reports {mux next : Mux} {act : Act} {link : LinkId}
    (taken : mux.step linkMdu act = some next) (reports : mux.Reports act link) :
    next.linkId = none := by
  obtain ⟨rfl, out, failed⟩ := reports
  cases senderStep_cases taken
  rfl

/-- A step that leaves an active link alone, and reports no failed send on another link, keeps it
active. -/
theorem linkId_of_leavesLink {mux next : Mux} {act : Act} {link : LinkId}
    (active : mux.linkId = some link) (leaves : LeavesLink link mux act)
    (own : ReportsOwnLink mux act) (taken : mux.step linkMdu act = some next) :
    next.linkId = some link := by
  obtain ⟨not_reset, not_replaced, not_reported⟩ := leaves
  rcases linkId_step taken with unchanged | ⟨other, set, now⟩ | ⟨reset, _⟩ | ⟨⟨other, reports⟩, _⟩
  · exact unchanged.trans active
  · rw [now, not_replaced other set]
  · exact absurd reset not_reset
  · rcases own other reports with inactive | same
    · simp [inactive] at active
    · obtain rfl := Option.some.inj (active.symm.trans same)
      exact absurd reports not_reported

theorem linkId_of_run_leavesLink {mux after : Mux} {middle : List Act} {link : LinkId}
    (active : mux.linkId = some link)
    (leaves : Execution.Along (step linkMdu) (LeavesLink link) mux middle)
    (own : Execution.Along (step linkMdu) ReportsOwnLink mux middle)
    (execution : Execution.run (step linkMdu) mux middle = some after) :
    after.linkId = some link := by
  induction middle generalizing mux with
  | nil =>
      cases execution
      exact active
  | cons act middle ih =>
      obtain ⟨next, taken, later⟩ := Execution.run_cons_eq_some.mp execution
      exact ih (linkId_of_leavesLink active leaves.1 own.1 taken) (leaves.2 next taken)
        (own.2 next taken) later

/-- An active link was set by some step, and every step since has left it alone. -/
theorem exists_set_of_linkId {mux : Mux} {actions : List Act} {link : LinkId}
    (execution : Execution.run (step linkMdu) new actions = some mux)
    (active : mux.linkId = some link) :
    ∃ front middle before, actions = front ++ .setLinkId link :: middle ∧
      Execution.run (step linkMdu) new front = some before ∧
      Execution.run (step linkMdu) (before.setLinkId link) middle = some mux ∧
      Execution.Along (step linkMdu) (LeavesLink link) (before.setLinkId link) middle := by
  induction actions using List.reverseRecOn generalizing mux with
  | nil =>
      cases execution
      cases active
  | append_singleton actions act ih =>
      obtain ⟨before, front_run, last_run⟩ := Execution.run_append_eq_some.mp execution
      obtain ⟨next, taken, finished⟩ := Execution.run_cons_eq_some.mp last_run
      obtain rfl : next = mux := Option.some.inj finished
      by_cases sets : act = .setLinkId link
      · subst sets
        cases taken
        exact ⟨actions, [], before, rfl, front_run, rfl, trivial⟩
      · have kept : before.linkId = some link ∧ LeavesLink link before act := by
          rcases linkId_step taken with unchanged | ⟨other, set, now⟩ | ⟨_, now⟩ | ⟨_, now⟩
          · refine ⟨unchanged ▸ active, ?_, ?_, ?_⟩
            · rintro rfl
              cases taken
              cases active
            · rintro other rfl
              cases taken
              exact Option.some.inj active
            · intro reports
              rw [linkId_of_reports taken reports] at active
              cases active
          · obtain rfl := Option.some.inj (now.symm.trans active)
            exact absurd set sets
          · simp [now] at active
          · simp [now] at active
        obtain ⟨front, middle, start, rfl, start_run, middle_run, leaves⟩ :=
          ih front_run kept.1
        refine ⟨front, middle ++ [act], start, by simp, start_run, ?_, ?_⟩
        · exact Execution.run_append_eq_some.mpr ⟨before, middle_run, last_run⟩
        · exact Execution.along_append.mpr ⟨leaves, fun reached reached_run => by
            obtain rfl := Option.some.inj (middle_run.symm.trans reached_run)
            exact ⟨kept.2, fun _ _ => trivial⟩⟩

theorem reportsOwnLink_of_keepsNewerLink {actions : List Act}
    (keeps : KeepsNewerLink linkMdu actions) :
    Execution.Along (step linkMdu) ReportsOwnLink new actions := by
  refine Execution.along_iff_forall_split.mpr fun front act rest mux split front_run => ?_
  rintro link ⟨rfl, out, failed⟩
  by_contra other_active
  push Not at other_active
  obtain ⟨newer, active⟩ := Option.ne_none_iff_exists'.mp other_active.1
  obtain ⟨start, middle, before, rfl, start_run, middle_run, leaves⟩ :=
    exists_set_of_linkId front_run active
  have taken : mux.step linkMdu (.sender .clearLink) =
      some { mux with linkId := none, sender := .idle } := by
    simp [step, senderStep, failed]
  have spared : LeavesLink newer mux (.sender .clearLink) := by
    refine ⟨by simp, by simp, ?_⟩
    rintro ⟨_, out', failed'⟩
    have same : link = newer := by
      rw [failed] at failed'
      exact (LinkSender.failed.inj failed').1
    exact other_active.2 (same ▸ active)
  have kept := keeps start newer (middle ++ [.sender .clearLink]) rest before _
    (by simp [split]) start_run
    (Execution.run_append_eq_some.mpr ⟨mux, middle_run, by simp [Execution.run_cons, taken]; rfl⟩)
    (Execution.along_append.mpr ⟨leaves, fun reached reached_run => by
      obtain rfl := Option.some.inj (middle_run.symm.trans reached_run)
      exact ⟨spared, fun _ _ => trivial⟩⟩)
  simp at kept

theorem keepsNewerLink_of_reportsOwnLink {actions : List Act}
    (own : Execution.Along (step linkMdu) ReportsOwnLink new actions) :
    KeepsNewerLink linkMdu actions := by
  intro front link middle rest before after split front_run middle_run leaves
  have own_middle : Execution.Along (step linkMdu) ReportsOwnLink (before.setLinkId link)
      middle := by
    have own_tail := (Execution.along_append.mp (split ▸ own)).2 before front_run
    exact (Execution.along_append.mp (own_tail.2 _ rfl)).1
  have active := linkId_of_run_leavesLink rfl leaves own_middle middle_run
  exact ⟨active, by simp [isConnected, active]⟩

theorem ReportsOwnLink.clearsOnlyOwnLink {mux : Mux} {act : Act} (own : ReportsOwnLink mux act) :
    ClearsOnlyOwnLink linkMdu mux act := by
  intro link active next reports link_active _ _
  rcases own link reports with inactive | same
  · simp [inactive] at link_active
  · exact Option.some.inj (link_active.symm.trans same)

/-- A newer link is never disconnected by the failure of an older one exactly in the runs in which
every failed send is reported while its own link, or no link, is active. -/
theorem sparesNewerLinks_iff (linkMdu : ℕ+) (actions : List Act) :
    SparesNewerLinks linkMdu actions ↔
      Execution.Along (step linkMdu) ReportsOwnLink new actions := by
  constructor
  · rintro ⟨_, keeps⟩
    exact reportsOwnLink_of_keepsNewerLink keeps
  · intro own
    exact ⟨own.mono fun _ _ => ReportsOwnLink.clearsOnlyOwnLink,
      keepsNewerLink_of_reportsOwnLink own⟩

/-- The client reconnects from link 1 to link 2 while a chunk on link 1 is outstanding; then
`send_on_link` fails and its failure is reported. -/
def staleFailure : List Act :=
  [.setLinkId 1, .send ⟨none, ⟨.close, 7, []⟩⟩, .sender .recv, .sender .readLink, .resetLinkId,
    .resetSessions, .resetRecvBuf, .setLinkId 2, .sender (.sent false), .sender .clearLink]

/-- The failure on link 1 disconnects link 2. -/
theorem not_sparesNewerLinks_staleFailure : ¬ SparesNewerLinks 431 staleFailure := by
  rintro ⟨_, keeps⟩
  have set_two : ∃ before, Execution.run (step 431) new (staleFailure.take 7) = some before ∧
      before.sender = .sending 1 ⟨none, ⟨.close, 7, []⟩⟩ [[5, 0, 0, 0, 7, 0, 0]] := ⟨_, rfl, rfl⟩
  obtain ⟨before, front_run, sending⟩ := set_two
  have failed : (before.setLinkId 2).step 431 (.sender (.sent false)) =
      some { before.setLinkId 2 with sender := .failed 1 ⟨none, ⟨.close, 7, []⟩⟩ } := by
    simp [step, senderStep, setLinkId, sending]
  have kept := keeps (staleFailure.take 7) 2 (staleFailure.drop 8) [] before
    { before.setLinkId 2 with linkId := none, sender := .idle } rfl front_run
    (by simp [staleFailure, Execution.run_cons, failed]; rfl)
    (by
      refine ⟨⟨by simp, by simp, by simp [Reports]⟩, fun next taken => ?_⟩
      obtain rfl := Option.some.inj (failed.symm.trans taken)
      exact ⟨⟨by simp, by simp, by simp [Reports]⟩, fun _ _ => trivial⟩)
  simp at kept

end Mux

end RnsProxy
