import MetricPipeline.Proofs.Checks

/-! Where issues are found. A check of one variable finds fault with that variable only, and gives at least
one issue where it gives no value, so the issues of an environment are those of its variables, one after
another. -/

namespace MetricPipeline

namespace Checked

variable {α β : Type}

/-- What was found wrong: nothing where there is a value. -/
def issues : Checked α → List Issue
  | .ok _ => []
  | .error issues => issues

def issuesAt (key : String) (checked : Checked α) : List Issue :=
  checked.issues.filter fun issue => issue.path.head? = some (.key key)

theorem issues_and (f : Checked (α → β)) (a : Checked α) : (f.and a).issues = f.issues ++ a.issues := by
  cases f <;> cases a <;> simp [Checked.and, issues]

theorem issues_map (g : α → β) (a : Checked α) : issues (a.map g) = a.issues := by
  cases a <;> rfl

theorem issues_ofFaults (path : List PathStep) (faults : List Fault) (value : α) :
    (ofFaults path faults value).issues = faults.map (Issue.mk path) := by
  unfold ofFaults
  split_ifs with h
  · rw [h]
    rfl
  · rfl

theorem and_ne {f : Checked (α → β)} {a : Checked α} (hf : f ≠ .error []) (ha : a ≠ .error []) :
    f.and a ≠ .error [] := by
  cases f <;> cases a <;> simp_all [Checked.and]

theorem ok_iff_issues {checked : Checked α} (h : checked ≠ .error []) :
    (∃ a, checked = .ok a) ↔ checked.issues = [] := by
  cases checked with
  | ok a => simp [issues]
  | error found =>
    simp only [reduceCtorEq, exists_false, false_iff, issues]
    rintro rfl
    exact h rfl

/-- A check of one field: its issues are all at that field, and it gives some where it gives no value. -/
structure At (key : String) (checked : Checked α) : Prop where
  ne : checked ≠ .error []
  located : ∀ issue ∈ checked.issues, issue.path.head? = some (.key key)

variable {key : String}

theorem at_ok (a : α) : At key (.ok a) := by
  constructor <;> simp [issues]

theorem at_fault (path : List PathStep) (fault : Fault) :
    At key (Checked.fault (.key key :: path) fault : Checked α) := by
  constructor <;> simp [Checked.fault, issues]

theorem at_ofFaults (path : List PathStep) (faults : List Fault) (value : α) :
    At key (ofFaults (.key key :: path) faults value) := by
  constructor
  · unfold ofFaults
    split_ifs <;> simp [*]
  · rw [issues_ofFaults]
    simp

theorem At.map {a : Checked α} (h : At key a) (g : α → β) : At key (a.map g) := by
  constructor
  · intro heq
    cases a with
    | ok => cases heq
    | error found => exact h.ne (congrArg Except.error (Except.error.inj heq))
  · rw [issues_map]
    exact h.located

theorem At.and {f : Checked (α → β)} {a : Checked α} (hf : At key f) (ha : At key a) : At key (f.and a) := by
  apply At.mk (and_ne hf.ne ha.ne)
  rw [issues_and]
  exact List.forall_mem_append.2 ⟨hf.located, ha.located⟩

theorem at_items {check : Nat → Untyped → Checked α} (h : ∀ i item, At key (check i item)) (i : Nat)
    (list : List Untyped) : At key (items check i list) := by
  induction list generalizing i with
  | nil => exact at_ok []
  | cons item rest ih => exact ((h i item).map List.cons).and (ih (i + 1))

/-- The issues of some checks, each part at the key beside it. -/
structure Collects (parts : List (String × List Issue)) (checked : Checked α) : Prop where
  ne : checked ≠ .error []
  issues_eq : checked.issues = parts.flatMap Prod.snd
  located : ∀ part ∈ parts, ∀ issue ∈ part.2, issue.path.head? = some (.key part.1)

theorem collects_ok (a : α) : Collects [] (.ok a) := by
  constructor <;> simp [issues]

theorem Collects.and {parts : List (String × List Issue)} {f : Checked (α → β)} {a : Checked α}
    (hf : Collects parts f) (ha : At key a) : Collects (parts ++ [(key, a.issues)]) (f.and a) := by
  constructor
  · exact and_ne hf.ne ha.ne
  · rw [issues_and, hf.issues_eq, List.flatMap_append, List.flatMap_singleton]
  · exact List.forall_mem_append.2 ⟨hf.located, List.forall_mem_singleton.2 ha.located⟩

theorem filter_located_eq_nil {found : List Issue} {other : String} (hne : other ≠ key)
    (hfound : ∀ issue ∈ found, issue.path.head? = some (.key other)) :
    found.filter (fun issue => issue.path.head? = some (.key key)) = [] := by
  apply List.filter_eq_nil_iff.2
  intro issue hissue
  simpa [hfound issue hissue] using hne

/-- Where the keys are distinct, the issues at one of them are its own part. -/
theorem Collects.issuesAt_eq {parts : List (String × List Issue)} {checked : Checked α}
    (h : Collects parts checked) (hkeys : (parts.map Prod.fst).Nodup) {part : String × List Issue}
    (hpart : part ∈ parts) : checked.issuesAt part.1 = part.2 := by
  have hlocated := h.located
  rw [issuesAt, h.issues_eq]
  clear h
  induction parts with
  | nil => cases hpart
  | cons first parts ih =>
    obtain ⟨hnew, hkeys⟩ := List.nodup_cons.1 hkeys
    obtain ⟨hfirst, hothers⟩ := List.forall_mem_cons.1 hlocated
    have hne : ∀ other ∈ parts, other.1 ≠ first.1 := by
      intro other hmem heq
      exact hnew (heq ▸ List.mem_map_of_mem hmem)
    rw [List.flatMap_cons, List.filter_append]
    rcases List.mem_cons.1 hpart with rfl | hpart
    · have hnone : (parts.flatMap Prod.snd).filter
          (fun issue => issue.path.head? = some (.key part.1)) = [] := by
        rw [List.filter_flatMap, List.flatMap_eq_nil_iff]
        intro other hmem
        exact filter_located_eq_nil (hne other hmem) (hothers other hmem)
      rw [hnone, List.append_nil, List.filter_eq_self]
      simpa using hfirst
    · rw [ih hkeys hpart hothers, filter_located_eq_nil (hne part hpart).symm hfirst, List.nil_append]

/-- There is a value when there is no issue at any key. -/
theorem Collects.ok_iff {parts : List (String × List Issue)} {checked : Checked α}
    (h : Collects parts checked) : (∃ a, checked = .ok a) ↔ ∀ key, checked.issuesAt key = [] := by
  rw [ok_iff_issues h.ne]
  constructor
  · intro hnil key
    rw [issuesAt, hnil, List.filter_nil]
  · intro hnone
    apply List.eq_nil_iff_forall_not_mem.2
    intro issue hissue
    have hpart := hissue
    rw [h.issues_eq, List.mem_flatMap] at hpart
    obtain ⟨part, hpart, hmem⟩ := hpart
    have hat : issue ∈ checked.issuesAt part.1 :=
      List.mem_filter.2 ⟨hissue, by simpa using h.located part hpart issue hmem⟩
    rw [hnone] at hat
    cases hat

end Checked

open Checked Untyped

variable {key : String}

theorem Untyped.at_optional {α : Type} {check : Untyped → Checked α} (h : ∀ value, At key (check value))
    (value : Untyped) : At key (optional check value) := by
  unfold optional
  split
  · exact at_ok none
  · exact (h value).map some

theorem Untyped.at_checkString (path : List PathStep) (faults : String → List Fault) (value : Untyped) :
    At key (checkString (.key key :: path) faults value) := by
  unfold checkString
  split
  · exact at_ofFaults path _ _
  · exact at_fault path _

theorem Untyped.at_checkOption {α : Type} (path : List PathStep) (options : List α) (name : α → String)
    (value : Untyped) : At key (checkOption (.key key :: path) options name value) := by
  unfold checkOption
  dsimp only
  split
  · exact at_ok _
  · exact at_fault path _

theorem NumberRule.at_check (rule : NumberRule) (path : List PathStep) (value : Untyped) :
    At key (rule.check (.key key :: path) value) := by
  unfold check
  split
  · exact at_ofFaults path _ _
  · exact at_fault path _

namespace Environment

theorem at_checkList {α : Type} {check : String → Checked α} (h : ∀ list, At key (check list))
    (value : Untyped) : At key (checkList key check value) := by
  unfold checkList
  split
  · exact h _
  · exact at_fault [] _

theorem at_checkCategories (list : String) : At categoriesKey (checkCategories list) :=
  at_items (fun i item => at_checkOption [.index i] _ _ item) 0 _

variable (registry : Registry) (field : String → Untyped)

/-- The issues of each variable, in the order of the checks. -/
def variableIssues : List (String × List Issue) := [
  (namespaceKey, (optional (checkString [.key namespaceKey] emptyFaults) (field namespaceKey)).issues),
  (frequencyKey, (optional (checkNumber frequencyKey Settings.frequencyRule) (field frequencyKey)).issues),
  (queueSizeKey, (optional (checkNumber queueSizeKey Settings.queueSizeRule) (field queueSizeKey)).issues),
  (dimensionsKey,
    (optional (checkList dimensionsKey (checkDimensions registry)) (field dimensionsKey)).issues),
  (categoriesKey, (optional (checkList categoriesKey checkCategories) (field categoriesKey)).issues),
  (levelKey, (optional (checkOption [.key levelKey] Level.values Level.name) (field levelKey)).issues),
  (detailedKey, (optional (checkList detailedKey (checkDetailed registry)) (field detailedKey)).issues),
  (connectionKey, (optional (checkString [.key connectionKey] startFaults) (field connectionKey)).issues),
  (logLevelKey,
    (optional (checkOption [.key logLevelKey] LogLevel.values LogLevel.name) (field logLevelKey)).issues)]

theorem collects_checkFields : Collects (variableIssues registry field) (checkFields registry field) :=
  collects_ok _
    |>.and (at_optional (at_checkString [] _) _)
    |>.and (at_optional (fun _ => NumberRule.at_check _ [] _) _)
    |>.and (at_optional (fun _ => NumberRule.at_check _ [] _) _)
    |>.and (at_optional (at_checkList fun _ => at_ofFaults [] _ _) _)
    |>.and (at_optional (at_checkList at_checkCategories) _)
    |>.and (at_optional (at_checkOption [] _ _) _)
    |>.and (at_optional (at_checkList fun _ => at_ofFaults [] _ _) _)
    |>.and (at_optional (at_checkString [] _) _)
    |>.and (at_optional (at_checkOption [] _ _) _)

theorem issuesAt_checkFields {part : String × List Issue} (hpart : part ∈ variableIssues registry field) :
    (checkFields registry field).issuesAt part.1 = part.2 := by
  apply (collects_checkFields registry field).issuesAt_eq _ hpart
  simp only [variableIssues, List.map_cons, List.map_nil]
  decide

end Environment
end MetricPipeline
