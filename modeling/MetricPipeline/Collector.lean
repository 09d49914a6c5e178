import MetricPipeline.Collection

/-! Collectors grow a tree of records, and collecting one takes a snapshot of the part of the tree below
it. All collectors of a tree share its clock, which is read once for each node, a node before its
children. A disabled collector keeps nothing and is its own child. -/

namespace MetricPipeline

inductive Collector where
  | node (name : String) (records : List Record) (children : List Collector)

namespace Collector

def name : Collector → String
  | node name _ _ => name

def records : Collector → List Record
  | node _ records _ => records

def children : Collector → List Collector
  | node _ _ children => children

/-- The collector reached from this one by child positions. -/
def descendant? : Collector → List Nat → Option Collector
  | collector, [] => some collector
  | collector, i :: path => (collector.children[i]?).bind (descendant? · path)

def update (f : Collector → Collector) : List Nat → Collector → Collector
  | [], collector => f collector
  | i :: path, node name records children => node name records (children.modify i (update f path))

def addRecord (record : Record) : Collector → Collector
  | node name records children => node name (records ++ [record]) children

def addChild (child : String) : Collector → Collector
  | node name records children => node name records (children ++ [node child [] []])

mutual

/-- The snapshot whose root is stamped by reading `i` of the clock, and the first reading not used. -/
def snapshot (clock : Nat → Instant) (i : Nat) : Collector → Collection × Nat
  | node name records children =>
    let (collections, j) := snapshotAll clock (i + 1) children
    (.node name (clock i) records collections, j)

def snapshotAll (clock : Nat → Instant) (i : Nat) : List Collector → List Collection × Nat
  | [] => ([], i)
  | child :: rest =>
    let (collection, j) := snapshot clock i child
    let (collections, k) := snapshotAll clock j rest
    (collection :: collections, k)

end

end Collector

/-- A tree of collectors with the clock they share and the number of its readings taken. -/
structure CollectorTree where
  root : Collector
  clock : Nat → Instant
  readings : Nat

/-- Names a collector: the disabled one, or a place in the tree. -/
inductive CollectorHandle where
  | disabled
  | place (path : List Nat)
deriving DecidableEq

namespace CollectorTree

def create (name : String) (clock : Nat → Instant) : CollectorTree := ⟨.node name [] [], clock, 0⟩

def disabledName : String := "NoOp"

def nameOf (tree : CollectorTree) : CollectorHandle → Option String
  | .disabled => some disabledName
  | .place path => (tree.root.descendant? path).map Collector.name

def report (tree : CollectorTree) (record : Record) : CollectorHandle → CollectorTree
  | .disabled => tree
  | .place path => { tree with root := tree.root.update (Collector.addRecord record) path }

/-- The tree with a new last child at the handle, and the handle of that child. -/
def createChild (tree : CollectorTree) (child : String) :
    CollectorHandle → CollectorTree × CollectorHandle
  | .disabled => (tree, .disabled)
  | .place path =>
    let position := ((tree.root.descendant? path).map (·.children.length)).getD 0
    ({ tree with root := tree.root.update (Collector.addChild child) path }, .place (path ++ [position]))

/-- The snapshot at a handle; a disabled collector is stamped with the time `now` of its own clock. -/
def collect (tree : CollectorTree) (now : Instant) :
    CollectorHandle → CollectorTree × Option Collection
  | .disabled => (tree, some (.node disabledName now [] []))
  | .place path =>
    match tree.root.descendant? path with
    | none => (tree, none)
    | some collector =>
      let (collection, readings) := collector.snapshot tree.clock tree.readings
      ({ tree with readings }, some collection)

end CollectorTree
end MetricPipeline
