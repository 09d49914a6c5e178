import Mathlib.Data.List.Basic
import Mathlib.Tactic.SplitIfs
import MetricPipeline.Publisher

/-! What each check lets through, and that another check of its kind takes it as it is: read a second time,
a value that has passed passes again and stays the same. -/

namespace MetricPipeline

namespace Checked

variable {α : Type}

theorem ofFaults_eq_ok_iff {path : List PathStep} {faults : List Fault} {value a : α} :
    ofFaults path faults value = .ok a ↔ faults = [] ∧ value = a := by
  unfold ofFaults
  split_ifs with h <;> simp [h]

theorem items_cons_eq_ok_iff {check : Nat → Untyped → Checked α} {i : Nat} {item : Untyped}
    {rest : List Untyped} {values : List α} :
    items check i (item :: rest) = .ok values ↔
      ∃ value others, check i item = .ok value ∧ items check (i + 1) rest = .ok others ∧
        values = value :: others := by
  rw [items, and_eq_ok]
  cases check i item <;> simp [Except.map, eq_comm]

end Checked

/-! Numbers -/

namespace NumberRule

variable {rule : NumberRule} {path : List PathStep} {value : Untyped} {x : Binary64}

/-- Within the bounds, and among the whole numbers that doubles hold without gaps. -/
def Within (rule : NumberRule) (n : Int) : Prop :=
  -wholeRange ≤ n ∧ n ≤ wholeRange ∧
    (rule.strict = true → (rule.least : Int) < n) ∧ (rule.strict = false → (rule.least : Int) ≤ n) ∧
    ∀ bound, rule.greatest? = some bound → n ≤ bound

def Admits (rule : NumberRule) (x : Binary64) : Prop := ∃ n, x.toInt? = some n ∧ rule.Within n

theorem rangeFaults_eq_nil_iff {n : Int} : rangeFaults n = [] ↔ -wholeRange ≤ n ∧ n ≤ wholeRange := by
  unfold rangeFaults
  split_ifs <;> simp <;> omega

theorem leastFaults_eq_nil_iff {n : Int} : rule.leastFaults n = [] ↔
    (rule.strict = true → (rule.least : Int) < n) ∧ (rule.strict = false → (rule.least : Int) ≤ n) := by
  unfold leastFaults
  cases rule.strict <;> simp

theorem greatestFaults_eq_nil_iff {n : Int} :
    rule.greatestFaults n = [] ↔ ∀ bound, rule.greatest? = some bound → n ≤ bound := by
  unfold greatestFaults
  cases rule.greatest? <;> simp

theorem wholeFaults_eq_nil_iff {n? : Option Int} :
    rule.wholeFaults n? = [] ↔ ∃ n, n? = some n ∧ rule.Within n := by
  cases n? with
  | none => simp [wholeFaults]
  | some n =>
    simp only [wholeFaults, Within, List.append_eq_nil_iff, rangeFaults_eq_nil_iff, leastFaults_eq_nil_iff,
      greatestFaults_eq_nil_iff, Option.some.injEq, exists_eq_left', and_assoc]

theorem faults_eq_nil_iff : rule.faults x = [] ↔ rule.Admits x := by
  cases x with
  | nan => simp [faults, Admits, Binary64.toInt?]
  | infinite negative => simp [faults, Admits, Binary64.toInt?]
  | finite negative r => exact wholeFaults_eq_nil_iff

theorem check_eq_ok_iff : rule.check path value = .ok x ↔ value = .number x ∧ rule.Admits x := by
  rw [← faults_eq_nil_iff]
  unfold check
  cases value with
  | number y =>
    rw [Checked.ofFaults_eq_ok_iff]
    constructor
    · rintro ⟨h, rfl⟩
      exact ⟨rfl, h⟩
    · rintro ⟨heq, h⟩
      obtain rfl := Untyped.number.inj heq
      exact ⟨h, rfl⟩
  | _ => simp [Checked.fault]

theorem check_number (h : rule.Admits x) (path : List PathStep) :
    rule.check path (.number x) = .ok x :=
  check_eq_ok_iff.2 ⟨rfl, h⟩

end NumberRule

/-! Checks that agree -/

/-- What one check lets through, the other takes as it is, in the form that `encode` gives it. -/
def HandsOver {α : Type} (encode : α → Untyped) (check check' : Untyped → Checked α) : Prop :=
  ∀ value a, check value = .ok a → check' (encode a) = .ok a

namespace HandsOver

open Untyped PublisherOptions

variable {α : Type} {encode : α → Untyped} {check check' : Untyped → Checked α}

theorem number (rule : NumberRule) (path path' : List PathStep) :
    HandsOver .number (rule.check path) (rule.check path') :=
  fun _ _ h => NumberRule.check_number (NumberRule.check_eq_ok_iff.1 h).2 path'

theorem string (faults : String → List Fault) (path path' : List PathStep) :
    HandsOver .string (checkString path faults) (checkString path' faults) := by
  intro value s h
  cases value with
  | string t =>
    obtain ⟨hfaults, rfl⟩ := Checked.ofFaults_eq_ok_iff.1 h
    exact Checked.ofFaults_eq_ok_iff.2 ⟨hfaults, rfl⟩
  | _ => cases h

/-- The name under which an option is found is its own. -/
theorem option (options : List α) (name : α → String) (path path' : List PathStep) :
    HandsOver (fun a => .string (name a)) (checkOption path options name)
      (checkOption path' options name) := by
  intro value a h
  have hfound : ∃ s, options.find? (fun option => decide (name option = s)) = some a := by
    unfold checkOption at h
    cases value with
    | string s =>
      refine ⟨s, ?_⟩
      dsimp only at h
      cases hfind : options.find? (fun option => decide (name option = s)) with
      | none =>
        rw [hfind] at h
        cases h
      | some found =>
        rw [hfind] at h
        rw [Except.ok.inj h]
    | _ => cases h
  obtain ⟨s, hs⟩ := hfound
  obtain rfl : name a = s := by simpa using List.find?_some hs
  unfold checkOption
  dsimp only
  rw [hs]

theorem withDefault_eq_ok {default a : α} {value : Untyped}
    (h : withDefault default check value = .ok a) : a = default ∨ check value = .ok a := by
  unfold Untyped.withDefault at h
  split at h
  · exact Or.inl (Except.ok.inj h).symm
  · exact Or.inr h

theorem optional_eq_ok {value : Untyped} {a? : Option α} (h : optional check value = .ok a?) :
    a? = none ∨ ∃ a, a? = some a ∧ check value = .ok a := by
  unfold Untyped.optional at h
  split at h
  · exact Or.inl (Except.ok.inj h).symm
  · cases hvalue : check value with
    | error issues =>
      rw [hvalue] at h
      cases h
    | ok a =>
      rw [hvalue] at h
      exact Or.inr ⟨a, (Except.ok.inj h).symm, rfl⟩

theorem withDefault_undefined (default : α) : Untyped.withDefault default check .undefined = .ok default :=
  rfl

theorem withDefault_of_ne {value : Untyped} (h : value ≠ .undefined) (default : α) :
    Untyped.withDefault default check value = check value := by
  unfold Untyped.withDefault
  split
  · exact absurd rfl h
  · rfl

theorem optional_of_ne {value : Untyped} (h : value ≠ .undefined) :
    Untyped.optional check value = (check value).map some := by
  unfold Untyped.optional
  split
  · exact absurd rfl h
  · rfl

/-- A default that passes is handed over as any other value. -/
theorem withDefault (h : HandsOver encode check check') {default : α}
    (hdefault : check' (encode default) = .ok default) (hgiven : ∀ a, encode a ≠ .undefined) :
    HandsOver encode (withDefault default check) (withDefault default check') := by
  intro value a hvalue
  rw [withDefault_of_ne (hgiven a)]
  rcases withDefault_eq_ok hvalue with rfl | hchecked
  · exact hdefault
  · exact h value a hchecked

theorem optional (h : HandsOver encode check check') (hgiven : ∀ a, encode a ≠ .undefined) :
    HandsOver (given encode) (optional check) (optional check') := by
  intro value a? hvalue
  rcases optional_eq_ok hvalue with rfl | ⟨a, rfl, hchecked⟩
  · rfl
  · rw [given, optional_of_ne (hgiven a), h value a hchecked]
    rfl

/-- What is optional to one check has a default with the other. -/
theorem optional_withDefault (h : HandsOver encode check check') (hgiven : ∀ a, encode a ≠ .undefined)
    (default : α) {value : Untyped} {a? : Option α} (hvalue : Untyped.optional check value = .ok a?) :
    Untyped.withDefault default check' (given encode a?) = .ok (a?.getD default) := by
  rcases optional_eq_ok hvalue with rfl | ⟨a, rfl, hchecked⟩
  · rfl
  · rw [given, withDefault_of_ne (hgiven a), h value a hchecked]
    rfl

end HandsOver
end MetricPipeline
