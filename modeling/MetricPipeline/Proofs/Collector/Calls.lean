import Mathlib.Data.List.Induction
import MetricPipeline.Proofs.Collector.Snapshot
import MetricPipeline.Registry.BuiltIn

/-! What calls on the collectors of a tree lead to. A collector is named by its place, which stays with it as
children are only ever added at the end. Each collector holds what was reported to it and the children that
were made on it, and nothing of what was done elsewhere in the tree, so the calls on a collector decide what
it holds however they were mixed with others; and collecting adds a snapshot of this to what was collected. -/

namespace MetricPipeline

/-! What a tree holds at a place -/

/-- What a collector holds itself: its records and the names of its children. -/
structure Holding where
  records : List Record
  children : List String
deriving DecidableEq

namespace Holding

/-- With a record or a child that a call has given. -/
def gain (holding : Holding) (record? : Option Record) (child? : Option String) : Holding :=
  ⟨holding.records ++ record?.toList, holding.children ++ child?.toList⟩

@[simp] theorem gain_none (holding : Holding) : holding.gain none none = holding := by simp [gain]

end Holding

namespace Collector

def holding (collector : Collector) : Holding := ⟨collector.records, collector.children.map name⟩

/-- What is held at a place, nothing where there is no collector. -/
def holdingAt (root : Collector) (path : List Nat) : Holding :=
  ((root.descendant? path).map holding).getD ⟨[], []⟩

theorem descendant?_append {root collector : Collector} {path : List Nat}
    (h : root.descendant? path = some collector) (below : List Nat) :
    root.descendant? (path ++ below) = collector.descendant? below := by
  induction path generalizing root with
  | nil =>
    obtain rfl := Option.some.inj h
    rfl
  | cons i path ih =>
    obtain ⟨child, hchild, hdescendant⟩ := Option.bind_eq_some_iff.1 h
    rw [List.cons_append, descendant?, hchild]
    exact ih hdescendant

theorem holdingAt_of_descendant? {root collector : Collector} {path : List Nat}
    (h : root.descendant? path = some collector) : root.holdingAt path = collector.holding := by
  rw [holdingAt, h]
  rfl

variable {f : Collector → Collector}

theorem name_update (hname : ∀ collector, (f collector).name = collector.name) (path : List Nat)
    (root : Collector) : (update f path root).name = root.name := by
  cases path with
  | nil => exact hname root
  | cons i path =>
    cases root
    rfl

/-- At and below the place of a change there is the changed collector. -/
theorem descendant?_update_append {root collector : Collector} {path : List Nat}
    (h : root.descendant? path = some collector) (below : List Nat) :
    (update f path root).descendant? (path ++ below) = (f collector).descendant? below := by
  induction path generalizing root with
  | nil =>
    obtain rfl := Option.some.inj h
    rfl
  | cons i path ih =>
    obtain ⟨name, records, kids⟩ := root
    obtain ⟨child, hchild, hdescendant⟩ := Option.bind_eq_some_iff.1 h
    change kids[i]? = some child at hchild
    rw [List.cons_append, update, descendant?, children, List.getElem?_modify_eq, hchild]
    exact ih hdescendant

/-- A change shows nowhere but at and below its place. -/
theorem holdingAt_update_of_not_prefix (hname : ∀ collector, (f collector).name = collector.name)
    {path place : List Nat} (hplace : ¬ path <+: place) (root : Collector) :
    (update f path root).holdingAt place = root.holdingAt place := by
  induction path generalizing root place with
  | nil => exact absurd List.nil_prefix hplace
  | cons i path ih =>
    obtain ⟨name, records, kids⟩ := root
    cases place with
    | nil =>
      have hnames : (kids.modify i (update f path)).map Collector.name = kids.map Collector.name := by
        refine List.ext_getElem? fun j => ?_
        rw [List.getElem?_map, List.getElem?_map, List.getElem?_modify]
        rcases eq_or_ne i j with rfl | hij
        · cases kids[i]? <;> simp [name_update hname]
        · cases kids[j]? <;> simp [hij]
      exact congrArg (Holding.mk records) hnames
    | cons j place =>
      rw [holdingAt, holdingAt, update, descendant?, descendant?, children, children]
      rcases eq_or_ne i j with rfl | hij
      · rw [List.getElem?_modify_eq]
        cases kids[i]? with
        | none => rfl
        | some child => exact ih (fun h => hplace ((List.prefix_cons_inj i).2 h)) child
      · rw [List.getElem?_modify_ne _ _ hij]

/-- A change that keeps the name and what is below shows at its place only, as what is gained there. -/
theorem holdingAt_update {record? : Option Record} {child? : Option String}
    (hname : ∀ collector, (f collector).name = collector.name)
    (hbelow : ∀ collector i below, (f collector).holdingAt (i :: below) = collector.holdingAt (i :: below))
    (hgain : ∀ collector, (f collector).holding = collector.holding.gain record? child?)
    {root collector : Collector} {path : List Nat} (h : root.descendant? path = some collector)
    (place : List Nat) :
    (update f path root).holdingAt place =
      (root.holdingAt place).gain (if path = place then record? else none)
        (if path = place then child? else none) := by
  by_cases hprefix : path <+: place
  · obtain ⟨below, rfl⟩ := hprefix
    have hchanged : (update f path root).holdingAt (path ++ below) = (f collector).holdingAt below := by
      rw [holdingAt, descendant?_update_append h, ← holdingAt]
    have hformer : root.holdingAt (path ++ below) = collector.holdingAt below := by
      rw [holdingAt, descendant?_append h, ← holdingAt]
    rw [hchanged, hformer]
    cases below with
    | nil =>
      rw [if_pos (List.append_nil path).symm, if_pos (List.append_nil path).symm]
      exact hgain collector
    | cons i below => rw [if_neg (by simp), if_neg (by simp), hbelow, Holding.gain_none]
  · have hne : path ≠ place := by
      rintro rfl
      exact hprefix List.prefix_rfl
    rw [if_neg hne, if_neg hne, Holding.gain_none, holdingAt_update_of_not_prefix hname hprefix]

theorem name_addRecord (record : Record) (collector : Collector) :
    (addRecord record collector).name = collector.name := by
  cases collector
  rfl

theorem name_addChild (child : String) (collector : Collector) :
    (addChild child collector).name = collector.name := by
  cases collector
  rfl

theorem holding_addRecord (record : Record) (collector : Collector) :
    (addRecord record collector).holding = collector.holding.gain (some record) none := by
  cases collector
  simp [addRecord, holding, Holding.gain, records, children]

theorem holding_addChild (child : String) (collector : Collector) :
    (addChild child collector).holding = collector.holding.gain none (some child) := by
  cases collector
  simp [addChild, holding, Holding.gain, records, children, name]

theorem holdingAt_addRecord_cons (record : Record) (collector : Collector) (i : Nat) (below : List Nat) :
    (addRecord record collector).holdingAt (i :: below) = collector.holdingAt (i :: below) := by
  cases collector
  rfl

/-- A new child holds nothing, which is what was held at its place before. -/
theorem holdingAt_addChild_cons (child : String) (collector : Collector) (i : Nat) (below : List Nat) :
    (addChild child collector).holdingAt (i :: below) = collector.holdingAt (i :: below) := by
  obtain ⟨name, records, kids⟩ := collector
  rw [holdingAt, holdingAt, addChild, descendant?, descendant?, children, children]
  rcases Nat.lt_trichotomy i kids.length with hlt | rfl | hgt
  · rw [List.getElem?_append_left hlt]
  · rw [List.getElem?_concat_length, List.getElem?_eq_none (Nat.le_refl _)]
    cases below with
    | nil => rfl
    | cons j below => simp [descendant?, children]
  · rw [List.getElem?_eq_none (by simp; omega), List.getElem?_eq_none (Nat.le_of_lt hgt)]

theorem holdingAt_addRecord {root collector : Collector} {path : List Nat}
    (h : root.descendant? path = some collector) (record : Record) (place : List Nat) :
    (update (addRecord record) path root).holdingAt place =
      (root.holdingAt place).gain (if path = place then some record else none) none := by
  rw [holdingAt_update (name_addRecord record) (holdingAt_addRecord_cons record) (holding_addRecord record) h,
    ite_self]

theorem holdingAt_addChild {root collector : Collector} {path : List Nat}
    (h : root.descendant? path = some collector) (child : String) (place : List Nat) :
    (update (addChild child) path root).holdingAt place =
      (root.holdingAt place).gain none (if path = place then some child else none) := by
  rw [holdingAt_update (name_addChild child) (holdingAt_addChild_cons child) (holding_addChild child) h,
    ite_self]

mutual

/-- Trees of one name that hold the same at every place are the same. -/
theorem eq_of_holdingAt : ∀ {a b : Collector}, a.name = b.name →
    (∀ place, a.holdingAt place = b.holdingAt place) → a = b
  | node name records kids, node name' records' kids', hname, hholding => by
    obtain ⟨hrecords, hnames⟩ := Holding.mk.inj (hholding [])
    have hkids : kids = kids' := eq_of_holdingAt_children hnames fun i place => by
      have hchild := hholding (i :: place)
      rwa [holdingAt, holdingAt, descendant?, descendant?] at hchild
    obtain rfl : name = name' := hname
    obtain rfl : records = records' := hrecords
    rw [hkids]

theorem eq_of_holdingAt_children : ∀ {kids kids' : List Collector}, kids.map name = kids'.map name →
    (∀ (i : Nat) (place : List Nat),
      (((kids[i]?).bind (descendant? · place)).map holding).getD ⟨[], []⟩ =
        (((kids'[i]?).bind (descendant? · place)).map holding).getD ⟨[], []⟩) → kids = kids'
  | [], [], _, _ => rfl
  | [], _ :: _, hnames, _ => by cases hnames
  | _ :: _, [], hnames, _ => by cases hnames
  | kid :: rest, kid' :: rest', hnames, hholding => by
    obtain ⟨hname, hrest⟩ := List.cons.inj hnames
    rw [eq_of_holdingAt hname fun place => hholding 0 place,
      eq_of_holdingAt_children hrest fun i place => hholding (i + 1) place]

end

end Collector

/-! Calls -/

/-- A call on the collector at a place. -/
inductive CollectorCall where
  | report (path : List Nat) (record : Record)
  | createChild (path : List Nat) (name : String)
  | collect (path : List Nat)

namespace CollectorCall

def reported? (place : List Nat) : CollectorCall → Option Record
  | report path record => if path = place then some record else none
  | _ => none

def created? (place : List Nat) : CollectorCall → Option String
  | createChild path name => if path = place then some name else none
  | _ => none

/-- What calls on the collector at a place gave it: the records reported to it and the names of the children
made on it, in the order of the calls. -/
def given (calls : List CollectorCall) (place : List Nat) : Holding :=
  ⟨calls.filterMap (reported? place), calls.filterMap (created? place)⟩

theorem given_concat (calls : List CollectorCall) (call : CollectorCall) (place : List Nat) :
    given (calls ++ [call]) place =
      (given calls place).gain (call.reported? place) (call.created? place) := by
  rw [given, List.filterMap_append, List.filterMap_append]
  rfl

end CollectorCall

/-- A tree of collectors and what has been collected from it, in order. -/
structure Collecting where
  tree : CollectorTree
  collected : List Collection

namespace Collecting

/-- A call, which must be on a collector that is there. -/
def perform (collecting : Collecting) : CollectorCall → Option Collecting
  | .report path record =>
    if (collecting.tree.root.descendant? path).isSome then
      some { collecting with tree := collecting.tree.report record (.place path) }
    else none
  | .createChild path name =>
    if (collecting.tree.root.descendant? path).isSome then
      some { collecting with tree := (collecting.tree.createChild name (.place path)).1 }
    else none
  | .collect path =>
    match collecting.tree.collect .invalid (.place path) with
    | (tree, some collection) => some ⟨tree, collecting.collected ++ [collection]⟩
    | (_, none) => none

/-- Calls in order on a new collector and those made below it. -/
def run (name : String) (clock : Nat → Instant) (calls : List CollectorCall) : Option Collecting :=
  calls.foldlM perform ⟨.create name clock, []⟩

variable {name : String} {clock : Nat → Instant} {calls : List CollectorCall} {collecting next : Collecting}
  {path : List Nat} {collector : Collector}

theorem perform_collect (h : collecting.tree.root.descendant? path = some collector) :
    collecting.perform (.collect path) =
      some ⟨{ collecting.tree with
          readings := (collector.snapshot collecting.tree.clock collecting.tree.readings).2 },
        collecting.collected ++ [(collector.snapshot collecting.tree.clock collecting.tree.readings).1]⟩ := by
  rw [perform, CollectorTree.collect, h]

/-- What every call keeps, and what it changes: the collector it is made on gains what the call gives. -/
theorem perform_cases {call : CollectorCall} (h : collecting.perform call = some next) :
    next.tree.clock = collecting.tree.clock ∧ next.tree.root.name = collecting.tree.root.name ∧
      collecting.collected <+: next.collected ∧
      ∀ place, next.tree.root.holdingAt place =
        (collecting.tree.root.holdingAt place).gain (call.reported? place) (call.created? place) := by
  cases call with
  | report path record =>
    obtain ⟨hthere, hnext⟩ := Option.ite_none_right_eq_some.1 h
    obtain ⟨collector, hcollector⟩ := Option.isSome_iff_exists.1 hthere
    obtain rfl := Option.some.inj hnext
    exact ⟨rfl, Collector.name_update (Collector.name_addRecord record) path _, List.prefix_rfl,
      Collector.holdingAt_addRecord hcollector record⟩
  | createChild path name =>
    obtain ⟨hthere, hnext⟩ := Option.ite_none_right_eq_some.1 h
    obtain ⟨collector, hcollector⟩ := Option.isSome_iff_exists.1 hthere
    obtain rfl := Option.some.inj hnext
    exact ⟨rfl, Collector.name_update (Collector.name_addChild name) path _, List.prefix_rfl,
      Collector.holdingAt_addChild hcollector name⟩
  | collect path =>
    cases hcollector : collecting.tree.root.descendant? path with
    | none =>
      rw [perform, CollectorTree.collect, hcollector] at h
      cases h
    | some collector =>
      rw [perform_collect hcollector] at h
      obtain rfl := Option.some.inj h
      exact ⟨rfl, rfl, List.prefix_append _ _, fun place => (Holding.gain_none _).symm⟩

theorem run_append (name : String) (clock : Nat → Instant) (calls later : List CollectorCall) :
    run name clock (calls ++ later) = (run name clock calls).bind (later.foldlM perform) := by
  rw [run, List.foldlM_append]
  rfl

/-- After calls each collector holds what they gave it. -/
theorem run_holds (h : run name clock calls = some collecting) :
    collecting.tree.clock = clock ∧ collecting.tree.root.name = name ∧
      ∀ place, collecting.tree.root.holdingAt place = CollectorCall.given calls place := by
  induction calls using List.reverseRecOn generalizing collecting with
  | nil =>
    obtain rfl := Option.some.inj h
    refine ⟨rfl, rfl, fun place => ?_⟩
    cases place <;> rfl
  | append_singleton calls call ih =>
    rw [run_append] at h
    obtain ⟨former, hformer, hcall⟩ := Option.bind_eq_some_iff.1 h
    rw [List.foldlM_cons] at hcall
    obtain ⟨next, hnext, hdone⟩ := Option.bind_eq_some_iff.1 hcall
    obtain rfl := Option.some.inj hdone
    obtain ⟨hclock, hname, hholding⟩ := ih hformer
    obtain ⟨hclock', hname', -, hholding'⟩ := perform_cases hnext
    refine ⟨hclock'.trans hclock, hname'.trans hname, fun place => ?_⟩
    rw [hholding', hholding, CollectorCall.given_concat]

/-- What was collected stays collected. -/
theorem collected_foldlM (h : calls.foldlM perform collecting = some next) :
    collecting.collected <+: next.collected := by
  induction calls generalizing collecting with
  | nil =>
    obtain rfl := Option.some.inj h
    exact List.prefix_rfl
  | cons call calls ih =>
    rw [List.foldlM_cons] at h
    obtain ⟨middle, hmiddle, hrest⟩ := Option.bind_eq_some_iff.1 h
    obtain ⟨-, -, hcollected, -⟩ := perform_cases hmiddle
    exact hcollected.trans (ih hrest)

/-- Calls that give every collector the same lead to the same tree. -/
theorem root_eq_of_given_eq {clock' : Nat → Instant} {calls' : List CollectorCall} {collecting' : Collecting}
    (h : run name clock calls = some collecting) (h' : run name clock' calls' = some collecting')
    (hgiven : ∀ place, CollectorCall.given calls' place = CollectorCall.given calls place) :
    collecting'.tree.root = collecting.tree.root := by
  obtain ⟨-, hname, hholding⟩ := run_holds h
  obtain ⟨-, hname', hholding'⟩ := run_holds h'
  refine Collector.eq_of_holdingAt (hname'.trans hname.symm) fun place => ?_
  rw [hholding', hgiven, hholding]

/-- The handle that making a child returns names the place after those of the children made before. -/
theorem createChild_handle (h : run name clock calls = some collecting)
    (hpath : collecting.tree.root.descendant? path = some collector) (child : String) :
    (collecting.tree.createChild child (.place path)).2 =
      .place (path ++ [(CollectorCall.given calls path).children.length]) := by
  obtain ⟨-, -, hholding⟩ := run_holds h
  have hchildren : collector.children.length = (CollectorCall.given calls path).children.length := by
    rw [← hholding, Collector.holdingAt_of_descendant? hpath, Collector.holding, List.length_map]
  rw [CollectorTree.createChild, hpath, ← hchildren]
  rfl

/-- Collecting a collector shows, at each place below it, exactly what the calls gave the collector of that
place, and takes one reading of the clock for each node, in the order in which the records are listed. How the
calls were mixed does not matter but for the times, and later calls do not change what was collected. -/
theorem collected_faithful (h : run name clock calls = some collecting)
    (hpath : collecting.tree.root.descendant? path = some collector) :
    ∃ collection : Collection,
      collecting.perform (.collect path) =
        some ⟨{ collecting.tree with readings := collecting.tree.readings + collection.nodes.length },
          collecting.collected ++ [collection]⟩ ∧
      collection.name = collector.name ∧
      (∀ below node, collection.descendant? below = some node →
        node.records = (CollectorCall.given calls (path ++ below)).records ∧
        node.children.map Collection.name = (CollectorCall.given calls (path ++ below)).children) ∧
      (∀ child, (collecting.tree.createChild child (.place path)).2 =
        .place (path ++ [(CollectorCall.given calls path).children.length])) ∧
      (∀ k node, collection.nodes[k]? = some node → node.time = clock (collecting.tree.readings + k)) ∧
      collection.allRecords = collection.nodes.flatMap Collection.records ∧
      (∀ clock' calls' collecting', run name clock' calls' = some collecting' →
        (∀ place, CollectorCall.given calls' place = CollectorCall.given calls place) →
        ∃ after collection', collecting'.perform (.collect path) = some after ∧
          after.collected = collecting'.collected ++ [collection'] ∧
          collection'.untimed = collection.untimed) ∧
      ∀ later final, run name clock (calls ++ .collect path :: later) = some final →
        final.collected[collecting.collected.length]? = some collection := by
  obtain ⟨rfl, -, hholding⟩ := run_holds h
  have huntimed := Collector.untimed_snapshot collecting.tree.clock collecting.tree.readings collector
  have hperform := perform_collect hpath
  rw [(Collector.times_snapshot _ _ _).1] at hperform
  refine ⟨_, hperform, ?_, ?_, createChild_handle h hpath, ?_, Collection.allRecords_eq_flatMap _, ?_, ?_⟩
  · rw [← Collection.name_untimed, huntimed]
  · intro below node hnode
    have hplace : collecting.tree.root.descendant? (path ++ below) = some node.untimed := by
      rw [Collector.descendant?_append hpath, ← huntimed, Collection.descendant?_untimed, hnode]
      rfl
    rw [← hholding, Collector.holdingAt_of_descendant? hplace, Collector.holding]
    simp [Function.comp_def]
  · exact fun k node hnode => Collector.time_of_getElem?_snapshot hnode
  · intro clock' calls' collecting' h' hgiven
    have hroot := root_eq_of_given_eq h h' hgiven
    refine ⟨_, _, perform_collect (hroot ▸ hpath), rfl, ?_⟩
    rw [huntimed, Collector.untimed_snapshot]
  · intro later final hfinal
    rw [run_append, h, Option.bind_some, List.foldlM_cons, hperform] at hfinal
    obtain ⟨rest, hrest⟩ := collected_foldlM hfinal
    rw [← hrest, List.append_assoc, List.getElem?_append_right (Nat.le_refl _), Nat.sub_self]
    rfl

/-- A call with two attempts that report while it goes on, and that is collected before it has ended. -/
def retried : List CollectorCall :=
  [.createChild [] "Attempt", .report [0] ⟨Registry.serviceId, .string "A"⟩, .collect [],
    .report [] ⟨Registry.operationName, .string "Get"⟩, .createChild [] "Attempt",
    .report [1] ⟨Registry.serviceId, .string "B"⟩, .createChild [0] "Connection",
    .report [0] ⟨Registry.serviceId, .string "C"⟩]

/-- The same without the collecting, one collector after the other. -/
def retriedInTurn : List CollectorCall :=
  [.report [] ⟨Registry.operationName, .string "Get"⟩, .createChild [] "Attempt", .createChild [] "Attempt",
    .report [1] ⟨Registry.serviceId, .string "B"⟩, .report [0] ⟨Registry.serviceId, .string "A"⟩,
    .report [0] ⟨Registry.serviceId, .string "C"⟩, .createChild [0] "Connection"]

theorem given_retriedInTurn (place : List Nat) :
    CollectorCall.given retriedInTurn place = CollectorCall.given retried place := by
  by_cases hroot : [] = place
  · subst hroot
    rfl
  by_cases hfirst : [0] = place
  · subst hfirst
    rfl
  simp only [CollectorCall.given, CollectorCall.reported?, CollectorCall.created?, retried, retriedInTurn,
    List.filterMap_cons, List.filterMap_nil, if_neg hroot, if_neg hfirst]

/-- The collectors after these calls. -/
def retriedTree : Collector :=
  .node "ApiCall" [⟨Registry.operationName, .string "Get"⟩]
    [.node "Attempt" [⟨Registry.serviceId, .string "A"⟩, ⟨Registry.serviceId, .string "C"⟩]
      [.node "Connection" [] []],
    .node "Attempt" [⟨Registry.serviceId, .string "B"⟩] []]

/-- The first collecting takes two readings, so the second starts at the third; it shows all four collectors. -/
theorem collected_faithful_retried :
    ∃ first collection, run "ApiCall" (.ofInt ∘ Nat.cast) retried =
        some ⟨⟨retriedTree, .ofInt ∘ Nat.cast, 2⟩, [first]⟩ ∧
      collection.nodes.map Collection.time = [.ofInt 2, .ofInt 3, .ofInt 4, .ofInt 5] ∧
      collection.nodes.map Collection.name = ["ApiCall", "Attempt", "Connection", "Attempt"] ∧
      collection.allRecords.map Record.value = [.string "Get", .string "A", .string "C", .string "B"] ∧
      (∀ later final, run "ApiCall" (.ofInt ∘ Nat.cast) (retried ++ .collect [] :: later) = some final →
        final.collected[1]? = some collection) ∧
      ∃ collection', run "ApiCall" (.ofInt ∘ Nat.cast) (retriedInTurn ++ [.collect []]) =
          some ⟨⟨retriedTree, .ofInt ∘ Nat.cast, 4⟩, [collection']⟩ ∧
        collection'.untimed = collection.untimed := by
  have hrun : run "ApiCall" (.ofInt ∘ Nat.cast) retried = some ⟨⟨retriedTree, .ofInt ∘ Nat.cast, 2⟩, _⟩ := rfl
  have hturn : run "ApiCall" (.ofInt ∘ Nat.cast) retriedInTurn =
      some ⟨⟨retriedTree, .ofInt ∘ Nat.cast, 0⟩, []⟩ := rfl
  obtain ⟨collection, hperform, -, -, -, -, -, hmixed, hlater⟩ :=
    collected_faithful hrun (rfl : retriedTree.descendant? [] = _)
  obtain ⟨after, collection', hafter, hcollected, huntimed⟩ := hmixed _ _ _ hturn given_retriedInTurn
  obtain rfl := (List.cons.inj (List.cons.inj (Collecting.mk.inj (Option.some.inj hperform)).2).2).1
  obtain rfl := Option.some.inj hafter
  obtain rfl := (List.cons.inj hcollected).1
  exact ⟨_, _, rfl, rfl, rfl, rfl, hlater, _, rfl, huntimed⟩

end Collecting
end MetricPipeline
