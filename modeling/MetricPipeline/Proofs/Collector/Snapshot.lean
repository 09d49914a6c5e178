import Mathlib.Data.List.Basic
import MetricPipeline.Collector

/-! A snapshot is the tree of collectors with a time at each node. The times are consecutive readings of the
clock in pre-order, which is also the order in which the records of a collection are listed. -/

namespace MetricPipeline

namespace Collection

mutual

/-- The nodes of a tree, each before its children. -/
def nodes : Collection → List Collection
  | node name time records children => node name time records children :: nodesOf children

def nodesOf : List Collection → List Collection
  | [] => []
  | child :: rest => nodes child ++ nodesOf rest

end

mutual

/-- The tree without its times. -/
def untimed : Collection → Collector
  | node name _ records children => .node name records (untimedAll children)

def untimedAll : List Collection → List Collector
  | [] => []
  | child :: rest => untimed child :: untimedAll rest

end

mutual

theorem allRecords_eq_flatMap : ∀ collection : Collection,
    collection.allRecords = collection.nodes.flatMap records
  | node name time records children => by
    rw [allRecords, nodes, List.flatMap_cons, allRecordsOf_eq_flatMap children]
    rfl

theorem allRecordsOf_eq_flatMap : ∀ children : List Collection,
    allRecordsOf children = (nodesOf children).flatMap records
  | [] => rfl
  | child :: rest => by
    rw [allRecordsOf, nodesOf, List.flatMap_append, allRecords_eq_flatMap child,
      allRecordsOf_eq_flatMap rest]

end

theorem untimedAll_eq_map (children : List Collection) : untimedAll children = children.map untimed := by
  induction children with
  | nil => rfl
  | cons child rest ih => rw [untimedAll, ih, List.map_cons]

@[simp] theorem name_untimed (collection : Collection) : collection.untimed.name = collection.name := by
  cases collection
  rfl

@[simp] theorem records_untimed (collection : Collection) :
    collection.untimed.records = collection.records := by
  cases collection
  rfl

@[simp] theorem children_untimed (collection : Collection) :
    collection.untimed.children = collection.children.map untimed := by
  cases collection
  exact untimedAll_eq_map _

theorem descendant?_untimed (collection : Collection) (path : List Nat) :
    collection.untimed.descendant? path = (collection.descendant? path).map untimed := by
  induction path generalizing collection with
  | nil => rfl
  | cons i path ih =>
    rw [Collector.descendant?, descendant?, children_untimed, List.getElem?_map]
    cases collection.children[i]? with
    | none => rfl
    | some child => exact ih child

end Collection

namespace Collector

open Collection (nodes nodesOf untimed untimedAll)

variable {clock : Nat → Instant}

mutual

/-- A snapshot shows the tree as it is. -/
theorem untimed_snapshot (clock : Nat → Instant) :
    ∀ (i : Nat) (collector : Collector), (collector.snapshot clock i).1.untimed = collector
  | i, node name records children => by
    rw [snapshot, untimed, untimedAll_snapshotAll clock (i + 1) children]

theorem untimedAll_snapshotAll (clock : Nat → Instant) :
    ∀ (i : Nat) (children : List Collector), untimedAll (snapshotAll clock i children).1 = children
  | i, [] => rfl
  | i, child :: rest => by
    rw [snapshotAll, untimedAll, untimed_snapshot clock i child, untimedAll_snapshotAll clock _ rest]

end

mutual

/-- A snapshot takes one reading for each of its nodes, in pre-order. -/
theorem times_snapshot (clock : Nat → Instant) : ∀ (i : Nat) (collector : Collector),
    (collector.snapshot clock i).2 = i + (collector.snapshot clock i).1.nodes.length ∧
      (collector.snapshot clock i).1.nodes.map Collection.time =
        (List.range' i (collector.snapshot clock i).1.nodes.length).map clock
  | i, node name records children => by
    obtain ⟨hnext, htimes⟩ := times_snapshotAll clock (i + 1) children
    rw [snapshot, nodes, List.map_cons, List.length_cons, List.range'_succ, List.map_cons, htimes]
    exact ⟨by rw [hnext]; omega, rfl⟩

theorem times_snapshotAll (clock : Nat → Instant) : ∀ (i : Nat) (children : List Collector),
    (snapshotAll clock i children).2 = i + (nodesOf (snapshotAll clock i children).1).length ∧
      (nodesOf (snapshotAll clock i children).1).map Collection.time =
        (List.range' i (nodesOf (snapshotAll clock i children).1).length).map clock
  | i, [] => ⟨rfl, rfl⟩
  | i, child :: rest => by
    obtain ⟨hnext, htimes⟩ := times_snapshot clock i child
    obtain ⟨hlast, hrest⟩ := times_snapshotAll clock (child.snapshot clock i).2 rest
    rw [snapshotAll, nodesOf, List.map_append, List.length_append, htimes, hrest, hnext,
      ← List.range'_append_1, List.map_append, ← hnext]
    exact ⟨by rw [hlast]; omega, rfl⟩

end

theorem time_of_getElem?_snapshot {i k : Nat} {collector : Collector} {node : Collection}
    (h : (collector.snapshot clock i).1.nodes[k]? = some node) : node.time = clock (i + k) := by
  have htime := congrArg (·[k]?) (times_snapshot clock i collector).2
  have hk := (List.getElem?_eq_some_iff.1 h).1
  rw [List.getElem?_map, List.getElem?_map, h, List.getElem?_range' hk, Nat.one_mul] at htime
  exact Option.some.inj htime

end Collector
end MetricPipeline
