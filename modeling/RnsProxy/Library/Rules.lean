import Mathlib.Data.List.Basic
import Mathlib.Data.List.Induction

/-!
# Ordered rule lists

A rule list is read from the top, and every rule that applies overrides the verdict reached so
far. The verdict is therefore that of the last rule that applies, or the default where none does.
-/

namespace Rules

variable {ρ α : Type*}

/-- Read a rule list from the top, the last rule that applies deciding. -/
def lastMatch (applies : ρ → Bool) (verdict : ρ → α) (default : α) (rules : List ρ) : α :=
  rules.foldl (fun found rule => if applies rule then verdict rule else found) default

section LastMatch

variable {applies : ρ → Bool} {verdict : ρ → α} {default : α}

@[simp]
theorem lastMatch_nil : lastMatch applies verdict default [] = default :=
  rfl

@[simp]
theorem lastMatch_cons (rule : ρ) (rules : List ρ) :
    lastMatch applies verdict default (rule :: rules) =
      lastMatch applies verdict (if applies rule then verdict rule else default) rules :=
  rfl

/-- A list starts from the verdict of the list above it. -/
theorem lastMatch_append (above below : List ρ) :
    lastMatch applies verdict default (above ++ below) =
      lastMatch applies verdict (lastMatch applies verdict default above) below :=
  List.foldl_append ..

/-- Where no rule applies the default stands. -/
theorem lastMatch_of_not_applies {rules : List ρ} (silent : ∀ rule ∈ rules, ¬ applies rule = true) :
    lastMatch applies verdict default rules = default := by
  induction rules generalizing default with
  | nil => rfl
  | cons rule rules ih =>
      have rule_silent : ¬ applies rule = true := silent rule List.mem_cons_self
      rw [lastMatch_cons, if_neg rule_silent]
      exact ih fun later later_mem => silent later (List.mem_cons_of_mem rule later_mem)

/-- Where some rule applies the default does not matter. -/
theorem lastMatch_eq_of_applies {rules : List ρ} (spoken : ∃ rule ∈ rules, applies rule = true)
    (default' : α) :
    lastMatch applies verdict default rules = lastMatch applies verdict default' rules := by
  induction rules generalizing default default' with
  | nil =>
      obtain ⟨rule, rule_mem, _⟩ := spoken
      cases rule_mem
  | cons rule rules ih =>
      rw [lastMatch_cons, lastMatch_cons]
      by_cases rule_applies : applies rule = true
      · rw [if_pos rule_applies, if_pos rule_applies]
      · rw [if_neg rule_applies, if_neg rule_applies]
        obtain ⟨later, later_mem, later_applies⟩ := spoken
        rcases List.mem_cons.mp later_mem with rfl | later_mem
        · exact absurd later_applies rule_applies
        · exact ih ⟨later, later_mem, later_applies⟩ default'

/-- Rules that do not apply can be left out, wherever they stand. -/
theorem lastMatch_filter {keep : ρ → Bool} (kept : ∀ rule, applies rule = true → keep rule = true)
    (rules : List ρ) :
    lastMatch applies verdict default (rules.filter keep) =
      lastMatch applies verdict default rules := by
  induction rules generalizing default with
  | nil => rfl
  | cons rule rules ih =>
      by_cases rule_kept : keep rule = true
      · rw [List.filter_cons_of_pos rule_kept, lastMatch_cons, lastMatch_cons, ih]
      · have rule_silent : ¬ applies rule = true := fun rule_applies =>
          rule_kept (kept rule rule_applies)
        rw [List.filter_cons_of_neg rule_kept, lastMatch_cons, if_neg rule_silent, ih]

/-- Two lists that differ only in rules that do not apply decide alike. -/
theorem lastMatch_congr {keep : ρ → Bool} (kept : ∀ rule, applies rule = true → keep rule = true)
    {rules rules' : List ρ} (same : rules.filter keep = rules'.filter keep) :
    lastMatch applies verdict default rules = lastMatch applies verdict default rules' := by
  rw [← lastMatch_filter kept rules, same, lastMatch_filter kept]

end LastMatch

theorem concat_eq_split {rules above between : List ρ} {last rule last' : ρ}
    (split : rules ++ [last] = above ++ rule :: (between ++ [last'])) :
    rules = above ++ rule :: between ∧ last = last' := by
  have regrouped : rules ++ [last] = (above ++ rule :: between) ++ [last'] := by simpa using split
  obtain ⟨rules_eq, lasts⟩ := List.append_inj' regrouped rfl
  exact ⟨rules_eq, List.singleton_inj.mp lasts⟩

/-- With two verdicts and denial as the default, a list allows exactly when some rule that applies
allows and no later one denies. -/
theorem lastMatch_eq_true_iff {applies allows : ρ → Bool} {rules : List ρ} :
    lastMatch applies allows false rules = true ↔
      ∃ above rule below, rules = above ++ rule :: below ∧ applies rule = true ∧
        allows rule = true ∧ ∀ later ∈ below, applies later = true → allows later = true := by
  induction rules using List.reverseRecOn with
  | nil => simp
  | append_singleton rules last ih =>
      rw [lastMatch_append, lastMatch_cons, lastMatch_nil]
      by_cases last_applies : applies last = true
      · rw [if_pos last_applies]
        constructor
        · intro last_allows
          exact ⟨rules, last, [], rfl, last_applies, last_allows, by simp⟩
        · rintro ⟨above, rule, below, split, _, rule_allows, later_allow⟩
          -- the last rule is the deciding one or stands below it
          rcases List.eq_nil_or_concat' below with rfl | ⟨between, last', rfl⟩
          · obtain rfl : last = rule := by simpa using (List.append_inj' split rfl).2
            exact rule_allows
          · obtain ⟨_, rfl⟩ := concat_eq_split split
            exact later_allow last (by simp) last_applies
      · rw [if_neg last_applies, ih]
        constructor
        · rintro ⟨above, rule, below, rfl, rule_applies, rule_allows, later_allow⟩
          refine ⟨above, rule, below ++ [last], by simp, rule_applies, rule_allows, ?_⟩
          intro later later_mem later_applies
          rcases List.mem_append.mp later_mem with later_mem | later_mem
          · exact later_allow later later_mem later_applies
          · obtain rfl := List.mem_singleton.mp later_mem
            exact absurd later_applies last_applies
        · rintro ⟨above, rule, below, split, rule_applies, rule_allows, later_allow⟩
          rcases List.eq_nil_or_concat' below with rfl | ⟨between, last', rfl⟩
          · obtain rfl : last = rule := by simpa using (List.append_inj' split rfl).2
            exact absurd rule_applies last_applies
          · obtain ⟨rules_eq, rfl⟩ := concat_eq_split split
            refine ⟨above, rule, between, rules_eq, rule_applies, rule_allows, ?_⟩
            intro later later_mem
            exact later_allow later (by simp [later_mem])

end Rules
