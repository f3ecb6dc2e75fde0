import RnsProxy.Library.Execution

/-!
# Progress of partial transition functions

Some of the actions of a system are taken by tasks that need nobody else. Where each of them brings
a measure down, they come to an end, however they are scheduled, and what holds once none of them is
enabled is reached from every state.
-/

namespace Execution

variable {σ α : Type*} {step : σ → α → Option σ} {kind : α → Prop}

/-- No action of the kind is enabled. -/
def Stuck (step : σ → α → Option σ) (kind : α → Prop) (state : σ) : Prop :=
  ∀ action, kind action → step state action = none

/-- The run takes actions of the kind only. -/
def Only (kind : α → Prop) (actions : List α) : Prop :=
  ∀ action ∈ actions, kind action

theorem only_cons {action : α} {actions : List α} :
    Only kind (action :: actions) ↔ kind action ∧ Only kind actions :=
  List.forall_mem_cons

/-- In every state with the invariant, the actions of the kind keep it and bring the measure
down. -/
structure Descends (step : σ → α → Option σ) (kind : α → Prop) (invariant : σ → Prop)
    (measure : σ → ℕ) : Prop where
  /-- The invariant is kept. -/
  kept : ∀ before action after, invariant before → kind action →
    step before action = some after → invariant after
  /-- The measure falls. -/
  falls : ∀ before action after, invariant before → kind action →
    step before action = some after → measure after < measure before

namespace Descends

variable {invariant : σ → Prop} {measure : σ → ℕ}

/-- Some of the actions keep more than all of them. -/
theorem strengthen {fewer : α → Prop} {more : σ → Prop}
    (descends : Descends step kind invariant measure) (among : ∀ action, fewer action → kind action)
    (kept : ∀ before action after, invariant before → more before → fewer action →
      step before action = some after → more after) :
    Descends step fewer (fun state => invariant state ∧ more state) measure where
  kept before action after holds now taken :=
    ⟨descends.kept before action after holds.1 (among action now) taken,
      kept before action after holds.1 holds.2 now taken⟩
  falls before action after holds now taken :=
    descends.falls before action after holds.1 (among action now) taken

theorem run_kept (descends : Descends step kind invariant measure) {before after : σ}
    {actions : List α} (holds : invariant before) (only : Only kind actions)
    (execution : run step before actions = some after) : invariant after := by
  induction actions generalizing before with
  | nil =>
      cases execution
      exact holds
  | cons action actions ih =>
      obtain ⟨now, later⟩ := only_cons.mp only
      obtain ⟨next, taken, rest⟩ := run_cons_eq_some.mp execution
      exact ih (descends.kept before action next holds now taken) later rest

/-- Such actions come to an end: a run of them is no longer than the measure. -/
theorem length_le (descends : Descends step kind invariant measure) {before after : σ}
    {actions : List α} (holds : invariant before) (only : Only kind actions)
    (execution : run step before actions = some after) :
    actions.length + measure after ≤ measure before := by
  induction actions generalizing before with
  | nil =>
      cases execution
      simp
  | cons action actions ih =>
      obtain ⟨now, later⟩ := only_cons.mp only
      obtain ⟨next, taken, rest⟩ := run_cons_eq_some.mp execution
      have bound := ih (descends.kept before action next holds now taken) later rest
      have falls := descends.falls before action next holds now taken
      rw [List.length_cons]
      omega

/-- From every state such actions lead to one in which none of them is enabled. -/
theorem exists_stuck (descends : Descends step kind invariant measure) {before : σ}
    (holds : invariant before) :
    ∃ actions after, Only kind actions ∧ run step before actions = some after ∧
      Stuck step kind after := by
  induction size : measure before using Nat.strong_induction_on generalizing before with
  | _ size ih =>
      by_cases stuck : Stuck step kind before
      · exact ⟨[], before, by simp [Only], rfl, stuck⟩
      · simp only [Stuck, not_forall] at stuck
        obtain ⟨action, now, enabled⟩ := stuck
        obtain ⟨next, taken⟩ := Option.ne_none_iff_exists'.mp enabled
        have falls := descends.falls before action next holds now taken
        obtain ⟨actions, after, only, rest, ended⟩ :=
          ih (measure next) (size ▸ falls) (descends.kept before action next holds now taken) rfl
        exact ⟨action :: actions, after, only_cons.mpr ⟨now, only⟩,
          run_cons_eq_some.mpr ⟨next, taken, rest⟩, ended⟩

end Descends

end Execution
