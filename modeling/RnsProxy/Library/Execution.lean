import Mathlib.Data.List.Infix
import Mathlib.Data.Option.Basic

/-!
# Runs of partial transition functions

A system is a partial function `step : σ → α → Option σ`; an action that is not enabled in a state
has no successor. `run` performs a list of actions, `Along` states a condition of every step a run
takes, and `Always` a property of every state it passes through. The rules at the end reduce a
statement about whole runs to one about a single step.
-/

namespace Execution

variable {σ α : Type*}

theorem filterMap_concat {β : Type*} (select : α → Option β) (list : List α) (last : α) :
    (list ++ [last]).filterMap select = list.filterMap select ++ (select last).toList := by
  rw [List.filterMap_append]
  cases selected : select last <;> simp [selected]

/-- Where one selection chooses whenever another one does, and the same, it chooses no less. -/
theorem filterMap_sublist {β : Type*} {select other : α → Option β}
    (imp : ∀ item chosen, select item = some chosen → other item = some chosen) (list : List α) :
    (list.filterMap select).Sublist (list.filterMap other) := by
  induction list with
  | nil => exact List.Sublist.slnil
  | cons item list ih =>
      cases chosen : select item with
      | none =>
          rw [List.filterMap_cons_none chosen]
          exact ih.trans ((List.sublist_cons_self item list).filterMap other)
      | some value =>
          rw [List.filterMap_cons_some chosen, List.filterMap_cons_some (imp item value chosen)]
          exact ih.cons_cons value

/-- What is selected, each item seen through one function, is among the items seen through another,
if the two agree on what is selected. -/
theorem map_filterMap_sublist {β γ : Type*} {select : α → Option β} {image : β → γ}
    {original : α → γ} {list : List α}
    (agree : ∀ item ∈ list, ∀ chosen, select item = some chosen → image chosen = original item) :
    ((list.filterMap select).map image).Sublist (list.map original) := by
  induction list with
  | nil => exact List.Sublist.slnil
  | cons item list ih =>
      have rest := ih fun other member => agree other (List.mem_cons_of_mem item member)
      cases chosen : select item with
      | none =>
          rw [List.filterMap_cons_none chosen, List.map_cons]
          exact rest.cons (original item)
      | some value =>
          rw [List.filterMap_cons_some chosen, List.map_cons, List.map_cons,
            agree item (List.mem_cons_self) value chosen]
          exact rest.cons_cons (original item)

/-- What holds of every split of a list holds of its first element and of each split of the rest. -/
theorem forall_split_cons {property : List α → α → Prop} {first : α} {list : List α} :
    (∀ front action back, first :: list = front ++ action :: back → property front action) ↔
      property [] first ∧
        ∀ front action back, list = front ++ action :: back → property (first :: front) action := by
  constructor
  · intro each
    exact ⟨each [] first list rfl, fun front action back split =>
      each (first :: front) action back (by simp [split])⟩
  · rintro ⟨now, later⟩ front action back split
    cases front with
    | nil =>
        obtain ⟨rfl, _⟩ := List.cons.inj split
        exact now
    | cons other front =>
        obtain ⟨rfl, rest_split⟩ := List.cons.inj split
        exact later front action back rest_split

/-- Perform a list of actions, failing at the first one that is not enabled. -/
def run (step : σ → α → Option σ) : σ → List α → Option σ
  | state, [] => some state
  | state, action :: actions => (step state action).bind fun next => run step next actions

/-- Every step of the run is taken in a state and by an action that satisfy `guard`. -/
def Along (step : σ → α → Option σ) (guard : σ → α → Prop) : σ → List α → Prop
  | _, [] => True
  | state, action :: actions =>
      guard state action ∧ ∀ next, step state action = some next → Along step guard next actions

/-- Every state the run passes through satisfies `good`, the first and the last included. -/
def Always (step : σ → α → Option σ) (good : σ → Prop) : σ → List α → Prop
  | state, [] => good state
  | state, action :: actions =>
      good state ∧ ∀ next, step state action = some next → Always step good next actions

/-- The steps a run takes, each action with the state it is taken in. -/
def trace (step : σ → α → Option σ) : σ → List α → List (σ × α)
  | _, [] => []
  | state, action :: actions =>
      (state, action) ::
        match step state action with
        | some next => trace step next actions
        | none => []

/-- Perform an action, if there is one. -/
def attempt (step : σ → α → Option σ) (state : σ) : Option α → Option σ
  | some action => step state action
  | none => some state

/-- The system together with the steps it has taken so far. -/
def recording (step : σ → α → Option σ) (recorded : List (σ × α) × σ) (action : α) :
    Option (List (σ × α) × σ) :=
  (step recorded.2 action).map fun next => (recorded.1 ++ [(recorded.2, action)], next)

/-- The states in which some run from `initial` ends. -/
def Reachable (step : σ → α → Option σ) (initial state : σ) : Prop :=
  ∃ actions, run step initial actions = some state

section Runs

variable {step : σ → α → Option σ}

@[simp]
theorem run_nil (state : σ) : run step state [] = some state := rfl

theorem run_cons (state : σ) (action : α) (actions : List α) :
    run step state (action :: actions) =
      (step state action).bind fun next => run step next actions := rfl

theorem run_cons_eq_some {before after : σ} {action : α} {actions : List α} :
    run step before (action :: actions) = some after ↔
      ∃ next, step before action = some next ∧ run step next actions = some after := by
  simp [run_cons, Option.bind_eq_some_iff]

theorem run_append (state : σ) (left right : List α) :
    run step state (left ++ right) =
      (run step state left).bind fun middle => run step middle right := by
  induction left generalizing state with
  | nil => rfl
  | cons action left ih =>
      simp only [List.cons_append, run_cons]
      cases step state action with
      | none => rfl
      | some next => exact ih next

theorem run_append_eq_some {before after : σ} {left right : List α} :
    run step before (left ++ right) = some after ↔
      ∃ middle, run step before left = some middle ∧ run step middle right = some after := by
  simp [run_append, Option.bind_eq_some_iff]

theorem along_append {guard : σ → α → Prop} {state : σ} {left right : List α} :
    Along step guard state (left ++ right) ↔
      Along step guard state left ∧
        ∀ middle, run step state left = some middle → Along step guard middle right := by
  induction left generalizing state with
  | nil => simp [Along]
  | cons action left ih =>
      simp only [List.cons_append, Along, ih, run_cons_eq_some]
      constructor
      · rintro ⟨met, later⟩
        exact ⟨⟨met, fun next taken => (later next taken).1⟩,
          fun middle ⟨next, taken, rest⟩ => (later next taken).2 middle rest⟩
      · rintro ⟨⟨met, front⟩, back⟩
        exact ⟨met, fun next taken => ⟨front next taken, fun middle rest =>
          back middle ⟨next, taken, rest⟩⟩⟩

theorem Along.mono {guard weaker : σ → α → Prop}
    (imp : ∀ state action, guard state action → weaker state action) {state : σ}
    {actions : List α} (along : Along step guard state actions) :
    Along step weaker state actions := by
  induction actions generalizing state with
  | nil => trivial
  | cons action actions ih =>
      exact ⟨imp state action along.1, fun next taken => ih (along.2 next taken)⟩

/-- A condition holds along a run when it holds of each of its steps. -/
theorem along_iff_forall_split {guard : σ → α → Prop} {state : σ} {actions : List α} :
    Along step guard state actions ↔
      ∀ front action rest before, actions = front ++ action :: rest →
        run step state front = some before → guard before action := by
  induction actions generalizing state with
  | nil => simp [Along]
  | cons action actions ih =>
      constructor
      · rintro ⟨met, later⟩ front other rest before split front_run
        cases front with
        | nil =>
            obtain ⟨rfl, _⟩ := List.cons.inj split
            cases front_run
            exact met
        | cons first front =>
            obtain ⟨rfl, tail_split⟩ := List.cons.inj split
            obtain ⟨next, taken, tail_run⟩ := run_cons_eq_some.mp front_run
            exact ih.mp (later next taken) front other rest before tail_split tail_run
      · intro each
        refine ⟨each [] action actions state rfl rfl, fun next taken => ih.mpr ?_⟩
        intro front other rest before split front_run
        exact each (action :: front) other rest before (by simp [split])
          (run_cons_eq_some.mpr ⟨next, taken, front_run⟩)

/-- The state a run ends in is one of those it passes through. -/
theorem Always.last {good : σ → Prop} {before after : σ} {actions : List α}
    (always : Always step good before actions) (execution : run step before actions = some after) :
    good after := by
  induction actions generalizing before with
  | nil =>
      cases execution
      exact always
  | cons action actions ih =>
      obtain ⟨next, taken, rest⟩ := run_cons_eq_some.mp execution
      exact ih (always.2 next taken) rest

theorem Always.head {good : σ → Prop} {state : σ} {actions : List α}
    (always : Always step good state actions) : good state := by
  cases actions with
  | nil => exact always
  | cons action actions => exact always.1

theorem Always.mono {good better : σ → Prop} (imp : ∀ state, good state → better state)
    {state : σ} {actions : List α} (always : Always step good state actions) :
    Always step better state actions := by
  induction actions generalizing state with
  | nil => exact imp state always
  | cons action actions ih =>
      exact ⟨imp state always.1, fun next taken => ih (always.2 next taken)⟩

end Runs

section Rules

variable {step : σ → α → Option σ}

/-- A property that every step preserves holds at the end of every run. -/
theorem run_invariant {invariant : σ → Prop}
    (preserved : ∀ before action after, invariant before → step before action = some after →
      invariant after)
    {before after : σ} {actions : List α} (start : invariant before)
    (execution : run step before actions = some after) : invariant after := by
  induction actions generalizing before with
  | nil =>
      cases execution
      exact start
  | cons action actions ih =>
      obtain ⟨next, taken, rest⟩ := run_cons_eq_some.mp execution
      exact ih (preserved before action next start taken) rest

/-- A property of the steps taken so far and the state reached survives a run whose steps all meet a
condition under which they extend it. -/
theorem Along.history_from {guard : σ → α → Prop} (invariant : List (σ × α) → σ → Prop)
    (extended : ∀ past before action after, invariant past before → guard before action →
      step before action = some after → invariant (past ++ [(before, action)]) after)
    {past : List (σ × α)} {before after : σ} {actions : List α}
    (along : Along step guard before actions) (start : invariant past before)
    (execution : run step before actions = some after) :
    invariant (past ++ trace step before actions) after := by
  induction actions generalizing before past with
  | nil =>
      cases execution
      simpa [trace] using start
  | cons action actions ih =>
      obtain ⟨next, taken, rest⟩ := run_cons_eq_some.mp execution
      have extended := extended past before action next start along.1 taken
      simpa [trace, taken] using ih (along.2 next taken) extended rest

theorem Along.history {guard : σ → α → Prop} (invariant : List (σ × α) → σ → Prop)
    (extended : ∀ past before action after, invariant past before → guard before action →
      step before action = some after → invariant (past ++ [(before, action)]) after)
    {before after : σ} {actions : List α} (along : Along step guard before actions)
    (start : invariant [] before) (execution : run step before actions = some after) :
    invariant (trace step before actions) after := by
  simpa using along.history_from invariant extended start execution

theorem along_true (state : σ) (actions : List α) : Along step (fun _ _ => True) state actions := by
  induction actions generalizing state with
  | nil => trivial
  | cons action actions ih => exact ⟨trivial, fun next _ => ih next⟩

/-- A property of the steps taken so far and the state reached, which every step extends, survives
every run. -/
theorem run_history_from (invariant : List (σ × α) → σ → Prop)
    (extended : ∀ past before action after, invariant past before →
      step before action = some after → invariant (past ++ [(before, action)]) after)
    {past : List (σ × α)} {before after : σ} {actions : List α} (start : invariant past before)
    (execution : run step before actions = some after) :
    invariant (past ++ trace step before actions) after :=
  (along_true before actions).history_from invariant
    (fun past before action after holds _ taken => extended past before action after holds taken)
    start execution

theorem run_history (invariant : List (σ × α) → σ → Prop)
    (extended : ∀ past before action after, invariant past before →
      step before action = some after → invariant (past ++ [(before, action)]) after)
    {before after : σ} {actions : List α} (start : invariant [] before)
    (execution : run step before actions = some after) :
    invariant (trace step before actions) after := by
  simpa using run_history_from invariant extended start execution

theorem trace_append {before middle : σ} {front back : List α}
    (execution : run step before front = some middle) :
    trace step before (front ++ back) = trace step before front ++ trace step middle back := by
  induction front generalizing before with
  | nil =>
      cases execution
      rfl
  | cons action front ih =>
      obtain ⟨next, taken, rest⟩ := run_cons_eq_some.mp execution
      simp [trace, taken, ih rest]

theorem recording_eq_some {before after : List (σ × α) × σ} {action : α} :
    recording step before action = some after ↔
      ∃ next, step before.2 action = some next ∧
        after = (before.1 ++ [(before.2, action)], next) := by
  simp [recording, eq_comm]

/-- A run that succeeds succeeds as well while it is recorded. -/
theorem run_recording {past : List (σ × α)} {before after : σ} {actions : List α}
    (execution : run step before actions = some after) :
    run (recording step) (past, before) actions =
      some (past ++ trace step before actions, after) := by
  induction actions generalizing before past with
  | nil =>
      cases execution
      simp [trace]
  | cons action actions ih =>
      obtain ⟨next, taken, rest⟩ := run_cons_eq_some.mp execution
      refine run_cons_eq_some.mpr
        ⟨(past ++ [(before, action)], next), by simp [recording, taken], ?_⟩
      rw [ih rest]
      simp [trace, taken]

/-- A run that succeeds has taken every action. -/
theorem trace_map_snd {before after : σ} {actions : List α}
    (execution : run step before actions = some after) :
    (trace step before actions).map Prod.snd = actions := by
  induction actions generalizing before with
  | nil => rfl
  | cons action actions ih =>
      obtain ⟨next, taken, rest⟩ := run_cons_eq_some.mp execution
      simp [trace, taken, ih rest]

/-- A property of the actions performed so far and the state reached holds of every run whose steps
all meet a condition under which they extend it. -/
theorem Along.past {guard : σ → α → Prop} (invariant : List α → σ → Prop)
    (extended : ∀ past before action after, invariant past before → guard before action →
      step before action = some after → invariant (past ++ [action]) after)
    {before after : σ} {actions : List α} (along : Along step guard before actions)
    (start : invariant [] before) (execution : run step before actions = some after) :
    invariant actions after := by
  have holds := along.history (fun past state => invariant (past.map Prod.snd) state)
    (fun past state action next now met taken => by
      simpa using extended (past.map Prod.snd) state action next now met taken)
    start execution
  rwa [trace_map_snd execution] at holds

/-- A property of the actions performed so far and the state reached, which every step extends,
holds of every run. -/
theorem run_past (invariant : List α → σ → Prop)
    (extended : ∀ past before action after, invariant past before →
      step before action = some after → invariant (past ++ [action]) after)
    {before after : σ} {actions : List α} (start : invariant [] before)
    (execution : run step before actions = some after) : invariant actions after :=
  (along_true before actions).past invariant
    (fun past before action after holds _ taken => extended past before action after holds taken)
    start execution

/-- A property of the initial state that every step preserves holds of every reachable state. -/
theorem Reachable.invariant {invariant : σ → Prop} {initial state : σ}
    (reachable : Reachable step initial state) (start : invariant initial)
    (preserved : ∀ before action after, invariant before → step before action = some after →
      invariant after) : invariant state := by
  obtain ⟨actions, execution⟩ := reachable
  exact run_invariant preserved start execution

theorem Reachable.refl (initial : σ) : Reachable step initial initial :=
  ⟨[], rfl⟩

theorem Reachable.tail {initial before after : σ} {action : α}
    (reachable : Reachable step initial before) (taken : step before action = some after) :
    Reachable step initial after := by
  obtain ⟨actions, execution⟩ := reachable
  refine ⟨actions ++ [action], run_append_eq_some.mpr ⟨before, execution, ?_⟩⟩
  simp [run_cons, taken]

/-- Where a step that meets `guard` keeps `strong`, and a step that does not leads to a state that
is not `good`, the runs that stay `good` are the runs whose steps all meet `guard`. -/
theorem always_iff_along {strong good : σ → Prop} {guard : σ → α → Prop}
    (strong_good : ∀ state, strong state → good state)
    (kept : ∀ before action after, strong before → guard before action →
      step before action = some after → strong after)
    (broken : ∀ before action after, strong before → step before action = some after →
      good after → guard before action)
    {before after : σ} {actions : List α} (start : strong before)
    (execution : run step before actions = some after) :
    Always step good before actions ↔ Along step guard before actions := by
  induction actions generalizing before with
  | nil => exact ⟨fun _ => trivial, fun _ => strong_good before start⟩
  | cons action actions ih =>
      obtain ⟨next, taken, rest⟩ := run_cons_eq_some.mp execution
      constructor
      · rintro ⟨_, later⟩
        have met := broken before action next start taken (later next taken).head
        refine ⟨met, fun other other_taken => ?_⟩
        obtain rfl : next = other := Option.some.inj (taken.symm.trans other_taken)
        exact (ih (kept before action next start met taken) rest).mp (later next taken)
      · rintro ⟨met, later⟩
        refine ⟨strong_good before start, fun other other_taken => ?_⟩
        obtain rfl : next = other := Option.some.inj (taken.symm.trans other_taken)
        exact (ih (kept before action next start met taken) rest).mpr (later next taken)

/-- Two conditions that agree on every step taken in a state with the invariant hold along the same
runs, if the invariant survives the steps that meet them. -/
theorem along_congr {invariant : σ → Prop} {guard other : σ → α → Prop}
    (preserved : ∀ before action after, invariant before → guard before action →
      step before action = some after → invariant after)
    (agree : ∀ before action after, invariant before → step before action = some after →
      (guard before action ↔ other before action))
    {before after : σ} {actions : List α} (start : invariant before)
    (execution : run step before actions = some after) :
    Along step guard before actions ↔ Along step other before actions := by
  induction actions generalizing before with
  | nil => exact Iff.rfl
  | cons action actions ih =>
      obtain ⟨next, taken, rest⟩ := run_cons_eq_some.mp execution
      simp only [Along, taken, Option.some.injEq, forall_eq',
        ← agree before action next start taken]
      refine and_congr_right fun met => ?_
      exact ih (preserved before action next start met taken) rest

theorem Reachable.trans {initial middle final : σ} (front : Reachable step initial middle)
    (back : Reachable step middle final) : Reachable step initial final := by
  obtain ⟨front, front_run⟩ := front
  obtain ⟨back, back_run⟩ := back
  exact ⟨front ++ back, run_append_eq_some.mpr ⟨middle, front_run, back_run⟩⟩

/-- Where every step of a system is matched by a run of another that leads to a related state, so is
every run. -/
theorem Reachable.simulate {τ β : Type*} {target : τ → β → Option τ} {related : σ → τ → Prop}
    (matched : ∀ before action after image, related before image → step before action = some after →
      ∃ later, Reachable target image later ∧ related after later)
    {initial state : σ} {image : τ} (start : related initial image)
    (reachable : Reachable step initial state) :
    ∃ later, Reachable target image later ∧ related state later := by
  have kept : ∀ before action after,
      (∃ later, Reachable target image later ∧ related before later) →
      step before action = some after →
      ∃ later, Reachable target image later ∧ related after later := by
    rintro before action after ⟨later, reached, relates⟩ taken
    obtain ⟨final, reached_later, relates_later⟩ := matched before action after later relates taken
    exact ⟨final, reached.trans reached_later, relates_later⟩
  exact reachable.invariant ⟨image, .refl image, start⟩ kept

/-- What holds of a state holds after an action that keeps it, and after none. -/
theorem attempt_invariant (inv : σ → Prop) {before after : σ} {choice : Option α}
    (holds : inv before)
    (kept : ∀ action, choice = some action → step before action = some after → inv after)
    (taken : attempt step before choice = some after) : inv after := by
  cases choice with
  | none =>
      obtain rfl : before = after := Option.some.inj taken
      exact holds
  | some action => exact kept action rfl taken

/-- Where every step of a system is one step of another, chosen by `project`, or does not concern
it, a run gives a run of the chosen steps. -/
theorem run_project {τ β : Type*} {target : τ → β → Option τ} (related : σ → τ → Prop)
    (project : σ × α → Option β)
    (matched : ∀ before action after image, related before image → step before action = some after →
      ∃ later, attempt target image (project (before, action)) = some later ∧ related after later)
    {before after : σ} {actions : List α} {image : τ} (start : related before image)
    (execution : run step before actions = some after) :
    ∃ later, run target image ((trace step before actions).filterMap project) = some later ∧
      related after later := by
  induction actions generalizing before image with
  | nil =>
      cases execution
      exact ⟨image, rfl, start⟩
  | cons action actions ih =>
      obtain ⟨next, taken, rest⟩ := run_cons_eq_some.mp execution
      obtain ⟨later, image_taken, relates⟩ := matched before action next image start taken
      obtain ⟨final, image_rest, relates_final⟩ := ih relates rest
      refine ⟨final, ?_, relates_final⟩
      simp only [trace, taken, List.filterMap_cons]
      cases chosen : project (before, action) with
      | none =>
          rw [chosen] at image_taken
          obtain rfl : image = later := Option.some.inj image_taken
          exact image_rest
      | some act =>
          rw [chosen] at image_taken
          exact run_cons_eq_some.mpr ⟨later, image_taken, image_rest⟩

end Rules

end Execution
