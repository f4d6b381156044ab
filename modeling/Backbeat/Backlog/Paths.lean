import Mathlib.Data.List.Dedup
import Backbeat.Backlog.Publish

/-!
# The offset nodes on the Coordinator

The check of `Backbeat.Backlog.Check` takes the Coordinator's answers as its input
(`OffsetsTree`). This module builds them from the nodes themselves, as `KafkaBacklogMetrics`
names and writes them:

* `getOffsetZkPath` — `_getOffsetZkPath`: `<zkPath>/<topic>/<partition>/<offsetType>`, then
  `/<label>` when the label is truthy;
* `Znodes` — the Coordinator under the `setOrCreate` calls of `_publishOffset`. A path names
  the node of its components between `/` (`zkNode`), so a label that holds a `/` names a node
  two levels down, and `setOrCreate` creates the nodes on its way;
* `Znodes.readOffset` and `Znodes.readAllOffsets` — `_readOffset` and `_readAllOffsets` on
  those nodes, and `Znodes.tree`, the `OffsetsTree` they give the check
  (`tree_readOffset`, `tree_readAllOffsets`);
* `publishWrites_node` — the nodes refine the node store `Store` the publish and snapshot runs
  are stated over: when partitions hold no `/` and labels name one node, each offset node
  reads what the node store gives it after the same writes.

`published_offsets_read_back` is the round trip: after publishes under labels that are
non-empty and hold no `/`, a label reads back its last offset, and the listing reads back each
label once with that offset, whatever order the Coordinator lists the children in. A label
that holds a `/` is listed by its first segment instead (`nested_label_never_reported`).

Three things are the Coordinator's and inputs here: the order of a `getChildren` answer, what a
node created on the way to a deeper one holds (`setOrCreate` is not in the sources), and that a
node written with `offset.toString()` reads back, through `JSON.parse`, as the same integer.
-/

namespace Backbeat.Backlog

/-! ### Paths -/

/-- `_getPartitionsOffsetsZkPath(topic)`, under the configured `zkPath`. -/
def getPartitionsOffsetsZkPath (zkPath topic : String) : String :=
  zkPath ++ "/" ++ topic

/-- `_getOffsetZkPath(topic, partition, offsetType, label)`. -/
def getOffsetZkPath (zkPath topic partition offsetType : String) (label : Option String) :
    String :=
  let basePath := getPartitionsOffsetsZkPath zkPath topic ++ "/" ++ partition ++ "/" ++ offsetType
  match truthyName label with
  | some l => basePath ++ "/" ++ l
  | none => basePath

/-- The node a path names: its components between `/`. -/
def zkNode (path : String) : List String :=
  (path.toList.splitOn '/').map String.mk

theorem splitOnP_append_cons {α : Type} {p : α → Bool} (xs as : List α) {sep : α}
    (h : p sep = true) : (xs ++ sep :: as).splitOnP p = xs.splitOnP p ++ as.splitOnP p := by
  induction xs with
  | nil => simp [List.splitOnP_cons, h, List.splitOnP_nil]
  | cons x xs ih =>
    rw [List.cons_append, List.splitOnP_cons, List.splitOnP_cons, ih]
    split_ifs
    · rfl
    · -- the first component of `xs` gets `x` in front, on both sides
      obtain ⟨y, ys, hy⟩ := List.exists_cons_of_ne_nil (List.splitOnP_ne_nil p xs)
      rw [hy]; rfl

theorem zkNode_append_slash (a b : String) : zkNode (a ++ "/" ++ b) = zkNode a ++ zkNode b := by
  have h : (a ++ "/" ++ b).toList = a.toList ++ '/' :: b.toList := by simp
  rw [zkNode, h, List.splitOn, @splitOnP_append_cons _ (· == '/') _ _ '/' rfl, List.map_append]
  rfl

/-- A string with no `/` is one component. -/
theorem zkNode_of_no_slash {l : String} (h : '/' ∉ l.toList) : zkNode l = [l] := by
  rw [zkNode, List.splitOn, List.splitOnP_eq_single]
  · rfl
  · intro c hc
    simpa using ne_of_mem_of_not_mem hc h

/-- A label that is non-empty and has no `/` names a child of the offset type's node. -/
theorem zkNode_offsetPath {zkPath topic partition offsetType l : String} (hl : l ≠ "")
    (hs : '/' ∉ l.toList) :
    zkNode (getOffsetZkPath zkPath topic partition offsetType (some l)) =
      zkNode (getOffsetZkPath zkPath topic partition offsetType none) ++ [l] := by
  simp [getOffsetZkPath, truthyName, Option.filter, hl, zkNode_append_slash,
    zkNode_of_no_slash hs]

/-! ### The nodes -/

/-- The Coordinator's nodes as the backlog metrics see them: the `setOrCreate` calls applied,
in order, each with its path and the offset it wrote; what `getData` reads on a node that
`setOrCreate` created on the way to a deeper one; and the order in which `getChildren` lists a
node's children, given in creation order. -/
structure Znodes where
  writes : List (String × Int)
  onTheWay : List String → NodeRead
  order : List String → List String → List String

theorem find?_congr_of_mem {α : Type} {p q : α → Bool} {l : List α} (h : ∀ x ∈ l, p x = q x) :
    l.find? p = l.find? q := by
  induction l with
  | nil => rfl
  | cons x xs ih => simp only [List.find?_cons, h x (.head _), ih fun y hy => h y (.tail _ hy)]

/-- The offset last written to the node `n`. -/
def lastWrite (ws : List (String × Int)) (n : List String) : Option Int :=
  (ws.reverse.find? fun w => zkNode w.1 = n).map Prod.snd

/-- The name of the child of `n` on the way to `p`, when `p` is below `n`. -/
def childName (n p : List String) : Option String :=
  if n.isPrefixOf p then (p.drop n.length).head? else none

theorem childName_append_singleton (n : List String) (c : String) :
    childName n (n ++ [c]) = some c := by
  simp [childName]

theorem childName_eq_none {n p : List String} (h : ¬n <+: p) : childName n p = none := by
  simp [childName, h]

namespace Znodes

variable (z : Znodes)

/-- A node exists once a write created it or a node below it. -/
def hasNode (n : List String) : Bool :=
  z.writes.any fun w => n.isPrefixOf (zkNode w.1)

/-- `getData`: the last offset written, as `JSON.parse` reads `offset.toString()` back; what a
node created on the way holds; or `NO_NODE`. -/
def getData (n : List String) : NodeRead :=
  match lastWrite z.writes n with
  | some v => .integer v
  | none => if z.hasNode n then z.onTheWay n else .noNode

/-- The names of the children of `n`, each once. -/
def children (n : List String) : List String :=
  (z.writes.filterMap fun w => childName n (zkNode w.1)).dedup

/-- `getChildren`. -/
def getChildren (n : List String) : ChildrenRead :=
  if z.hasNode n then .children (z.order n (z.children n)) else .noNode

/-- `_publishOffset(topic, partition, offset, offsetType, label)` once `setOrCreate` succeeded:
the node is set, and created with every missing node on its way. -/
def publishOffset (zkPath topic partition : String) (offset : Int) (offsetType : String)
    (label : Option String) : Znodes :=
  { z with writes := z.writes ++ [(getOffsetZkPath zkPath topic partition offsetType label, offset)] }

/-- `_readOffset(topic, partition, offsetType, label)`. -/
def readOffset (zkPath topic partition offsetType : String) (label : Option String) :
    Except ReadErr Int :=
  match z.getData (zkNode (getOffsetZkPath zkPath topic partition offsetType label)) with
  | .integer v => .ok v
  | .malformed => .error .other
  | .noNode => .error .noNode
  | .fault => .error .other

/-- `_readAllOffsets(topic, partition, offsetType)`: the reads of the listed labels, in listing
order; no node means no label. -/
def readAllOffsets (zkPath topic partition offsetType : String) :
    Except ReadErr (List (String × Int)) :=
  match z.getChildren (zkNode (getOffsetZkPath zkPath topic partition offsetType none)) with
  | .children labels =>
    labels.mapM fun l => (l, ·) <$> z.readOffset zkPath topic partition offsetType (some l)
  | .noNode => .ok []
  | .fault => .error .other

/-- The publishes of a run under one topic, partition and offset type, each `(label, offset)`,
in the order they succeeded. -/
def publishAll (zkPath topic partition offsetType : String) (ps : List (String × Int)) :
    Znodes :=
  ps.foldl (fun z w => z.publishOffset zkPath topic partition w.2 offsetType (some w.1)) z

theorem publishAll_eq (zkPath topic partition offsetType : String) (ps : List (String × Int)) :
    z.publishAll zkPath topic partition offsetType ps =
      { z with writes := z.writes ++
          ps.map fun w => (getOffsetZkPath zkPath topic partition offsetType (some w.1), w.2) } := by
  induction ps generalizing z with
  | nil => simp [publishAll]
  | cons w ps ih =>
    rw [publishAll, List.foldl_cons, ← publishAll, ih]
    simp [publishOffset]

@[simp] theorem publishAll_order (zkPath topic partition offsetType : String)
    (ps : List (String × Int)) : (z.publishAll zkPath topic partition offsetType ps).order = z.order := by
  rw [publishAll_eq]

end Znodes

/-! ### The tree the check reads -/

/-- The offset type and label under which `_readOffset` reads an offset node of the check. -/
def OffsetNode.typeAndLabel : OffsetNode → String × Option String
  | .consumers l => ("consumers", some l)
  | .topic => ("topic", none)
  | .snapshots s => ("snapshots", some s)

/-- The reads of `_readAllOffsets`, label by label, are a `mapM`. -/
theorem readLabels_eq_mapM (t : OffsetsTree) (p : String) (ls : List String) :
    readLabels t p ls = ls.mapM fun l => (l, ·) <$> readOffset t p (.consumers l) := by
  induction ls with
  | nil => rfl
  | cons l ls ih => rw [List.mapM_cons, ← ih]; simp [readLabels]

namespace Znodes

variable (z : Znodes)

/-- The answers the check gets from the nodes under `<zkPath>/<topic>`. -/
def tree (zkPath topic : String) : OffsetsTree :=
  ⟨z.getChildren (zkNode (getPartitionsOffsetsZkPath zkPath topic)),
    fun p => z.getChildren (zkNode (getOffsetZkPath zkPath topic p "consumers" none)),
    fun p n => z.getData (zkNode (getOffsetZkPath zkPath topic p n.typeAndLabel.1 n.typeAndLabel.2))⟩

theorem tree_readOffset (zkPath topic p : String) (n : OffsetNode) :
    Backlog.readOffset (z.tree zkPath topic) p n =
      z.readOffset zkPath topic p n.typeAndLabel.1 n.typeAndLabel.2 :=
  rfl

theorem tree_readAllOffsets (zkPath topic p : String) :
    Backlog.readAllOffsets (z.tree zkPath topic) p = z.readAllOffsets zkPath topic p "consumers" := by
  simp only [Backlog.readAllOffsets, readAllOffsets, readLabels_eq_mapM]
  rfl

end Znodes

/-! ### The node store refined

`Backbeat.Backlog.Publish` models the Coordinator at the level of offset nodes (`Store`): a
write sets one node, keyed by partition and `OffsetNode`. The nodes of this module refine it:
once every partition holds no `/` and every label names one node, the path of an offset node
determines the node, and the check reads from the nodes what it reads from the node store. -/

/-- The components of an offset node below its partition's node. -/
def OffsetNode.components : OffsetNode → List String
  | .consumers l => ["consumers", l]
  | .topic => ["topic"]
  | .snapshots s => ["snapshots", s]

theorem OffsetNode.components_prefix_iff {n n' : OffsetNode} :
    n.components <+: n'.components ↔ n = n' := by
  cases n <;> cases n' <;> simp [OffsetNode.components]

/-- An offset node whose label names one node: non-empty, with no `/`. -/
def OffsetNode.Named : OffsetNode → Prop
  | .consumers l => l ≠ "" ∧ '/' ∉ l.toList
  | .topic => True
  | .snapshots s => s ≠ "" ∧ '/' ∉ s.toList

instance : DecidablePred OffsetNode.Named := fun n =>
  match n with
  | .consumers l => inferInstanceAs (Decidable (l ≠ "" ∧ '/' ∉ l.toList))
  | .topic => inferInstanceAs (Decidable True)
  | .snapshots s => inferInstanceAs (Decidable (s ≠ "" ∧ '/' ∉ s.toList))

/-- The node `_readOffset` reads for an offset node, when the partition holds no `/` and the
label names one node. -/
theorem zkNode_offsetNode {zkPath topic p : String} {n : OffsetNode} (hp : '/' ∉ p.toList)
    (hn : n.Named) :
    zkNode (getOffsetZkPath zkPath topic p n.typeAndLabel.1 n.typeAndLabel.2) =
      zkNode (getPartitionsOffsetsZkPath zkPath topic) ++ p :: n.components := by
  have hbase : ∀ t, '/' ∉ t.toList → zkNode (getOffsetZkPath zkPath topic p t none) =
      zkNode (getPartitionsOffsetsZkPath zkPath topic) ++ [p, t] := fun t ht => by
    simp [getOffsetZkPath, truthyName, Option.filter, zkNode_append_slash, zkNode_of_no_slash hp,
      zkNode_of_no_slash ht]
  cases n with
  | consumers l =>
    rw [OffsetNode.typeAndLabel, zkNode_offsetPath hn.1 hn.2, hbase "consumers" (by decide)]
    simp [OffsetNode.components]
  | topic => exact hbase _ (by decide)
  | snapshots s =>
    rw [OffsetNode.typeAndLabel, zkNode_offsetPath hn.1 hn.2, hbase "snapshots" (by decide)]
    simp [OffsetNode.components]

namespace Znodes

/-- `_publishOffset` for an offset write of the backlog metrics. -/
def publishWrite (zkPath topic : String) (z : Znodes) (w : OffsetWrite) : Znodes :=
  z.publishOffset zkPath topic w.partition w.value w.node.typeAndLabel.1 w.node.typeAndLabel.2

theorem foldl_publishWrite (zkPath topic : String) (z : Znodes) (ws : List OffsetWrite) :
    ws.foldl (publishWrite zkPath topic) z =
      { z with writes := z.writes ++ ws.map fun w =>
          (getOffsetZkPath zkPath topic w.partition w.node.typeAndLabel.1 w.node.typeAndLabel.2,
            w.value) } := by
  induction ws generalizing z with
  | nil => simp
  | cons w ws ih => simp [ih, publishWrite, publishOffset]

end Znodes

/-- The node of an offset node after offset writes whose partitions hold no `/` and whose
labels name one node each, on a Coordinator with no node yet: the last value written to it, or
no node, whatever `setOrCreate` leaves in the nodes it creates on the way. -/
theorem getData_foldl_publishWrite {ws : List OffsetWrite} {onTheWay : List String → NodeRead}
    {order : List String → List String → List String} {zkPath topic p : String} {n : OffsetNode}
    (hws : ∀ w ∈ ws, '/' ∉ w.partition.toList ∧ w.node.Named) (hp : '/' ∉ p.toList)
    (hn : n.Named) :
    (ws.foldl (Znodes.publishWrite zkPath topic) ⟨[], onTheWay, order⟩).getData
        (zkNode (getPartitionsOffsetsZkPath zkPath topic) ++ p :: n.components) =
      match (Store.applyAll ⟨fun _ _ => none⟩ ws).offset p n with
      | some v => .integer v
      | none => .noNode := by
  -- a write's node is at or below the read node exactly when it is the read node
  have hbelow : ∀ w ∈ ws, zkNode (getPartitionsOffsetsZkPath zkPath topic) ++ p :: n.components <+:
      zkNode (getOffsetZkPath zkPath topic w.partition w.node.typeAndLabel.1
        w.node.typeAndLabel.2) ↔ w.partition = p ∧ w.node = n := by
    intro w hw
    rw [zkNode_offsetNode (hws w hw).1 (hws w hw).2]
    simp [OffsetNode.components_prefix_iff, eq_comm]
  have hsame : ∀ w ∈ ws.reverse, decide (zkNode (getOffsetZkPath zkPath topic w.partition
      w.node.typeAndLabel.1 w.node.typeAndLabel.2) =
        zkNode (getPartitionsOffsetsZkPath zkPath topic) ++ p :: n.components) =
      decide (w.partition = p ∧ w.node = n) := by
    intro w hw
    refine decide_eq_decide.mpr
      ⟨fun h => (hbelow w (List.mem_reverse.mp hw)).mp (h ▸ List.prefix_refl _), ?_⟩
    rintro ⟨rfl, rfl⟩
    exact zkNode_offsetNode (hws w (List.mem_reverse.mp hw)).1 (hws w (List.mem_reverse.mp hw)).2
  simp only [Znodes.getData, Znodes.hasNode, lastWrite, Znodes.foldl_publishWrite,
    List.nil_append, ← List.map_reverse, List.find?_map, Function.comp_def,
    Store.applyAll_offset, Option.or_none]
  rw [find?_congr_of_mem hsame, Option.map_map]
  cases hf : ws.reverse.find? (fun w => decide (w.partition = p ∧ w.node = n)) with
  | some w => rfl
  | none =>
    -- no write to the read node, and none below it
    have hnone : ∀ w ∈ ws, ¬(w.partition = p ∧ w.node = n) := fun w hw h =>
      List.find?_eq_none.mp hf w (List.mem_reverse.mpr hw) (decide_eq_true h)
    simp only [Option.map_none']
    rw [if_neg]
    simp only [List.any_eq_true, List.isPrefixOf_iff_prefix, not_exists, not_and,
      List.forall_mem_map]
    exact fun w hw h => hnone w hw ((hbelow w hw).mp h)

/-- **The nodes refine the node store.** Publish offset writes whose partitions hold no `/` and
whose labels name one node each on a Coordinator with no node yet. Every such offset node then
reads, in the tree the check gets, what the node store gives it after the same writes: the last
value written, or no node, whatever `setOrCreate` leaves in the nodes it creates on the way. -/
theorem publishWrites_node {ws : List OffsetWrite} {onTheWay : List String → NodeRead}
    {order : List String → List String → List String} {zkPath topic p : String} {n : OffsetNode}
    (hws : ∀ w ∈ ws, '/' ∉ w.partition.toList ∧ w.node.Named) (hp : '/' ∉ p.toList)
    (hn : n.Named) (partitions : ChildrenRead) (labels : String → ChildrenRead) :
    ((ws.foldl (Znodes.publishWrite zkPath topic) ⟨[], onTheWay, order⟩).tree zkPath topic).node
        p n =
      ((Store.applyAll ⟨fun _ _ => none⟩ ws).tree partitions labels).node p n := by
  dsimp only [Znodes.tree]
  rw [zkNode_offsetNode hp hn]
  exact getData_foldl_publishWrite hws hp hn

/-- The writes of the publish run of `Backbeat.Backlog.Publish`, through the paths: partition
0's consumer offset of group `G` reads the same from the nodes as from the node store. -/
theorem publishWrites_node_backlog :
    ((backlogWrites.foldl (Znodes.publishWrite "/backbeat/backlog-metrics" "backlog")
        ⟨[], fun _ => .noNode, fun _ ls => ls⟩).tree "/backbeat/backlog-metrics" "backlog").node
        "0" (.consumers "G") =
      ((Store.applyAll ⟨fun _ _ => none⟩ backlogWrites).tree (.children ["0"])
        fun _ => .noNode).node "0" (.consumers "G") :=
  publishWrites_node (by decide) (by decide) (by decide) _ _

/-! ### Reading back what was published -/

/-- The offset last published under a label. -/
def lastPublished (ps : List (String × Int)) (l : String) : Option Int :=
  (ps.reverse.find? fun w => w.1 = l).map Prod.snd

theorem lastPublished_isSome {ps : List (String × Int)} {l : String} :
    (lastPublished ps l).isSome ↔ l ∈ ps.map Prod.fst := by
  simp [lastPublished]

/-- A `mapM` of reads that all succeed. -/
theorem mapM_eq_ok {α β ε : Type} {f : α → Except ε β} {g : α → β} {as : List α}
    (h : ∀ a ∈ as, f a = .ok (g a)) : as.mapM f = .ok (as.map g) := by
  induction as with
  | nil => rfl
  | cons a as ih =>
    simp only [List.mapM_cons, h a (.head _), ih fun b hb => h b (.tail _ hb)]
    rfl

section ReadBack

variable {z : Znodes} {zkPath topic partition offsetType : String} {ps : List (String × Int)}
  (hfresh : ∀ w ∈ z.writes,
    ¬zkNode (getOffsetZkPath zkPath topic partition offsetType none) <+: zkNode w.1)
  (hlabels : ∀ w ∈ ps, w.1 ≠ "" ∧ '/' ∉ w.1.toList)
include hfresh hlabels

/-- The last write to a label's node is the label's last publish: nothing else wrote there. -/
theorem publishAll_lastWrite (l : String) :
    lastWrite (z.publishAll zkPath topic partition offsetType ps).writes
        (zkNode (getOffsetZkPath zkPath topic partition offsetType none) ++ [l]) =
      lastPublished ps l := by
  have hz : z.writes.reverse.find? (fun w => zkNode w.1 =
      zkNode (getOffsetZkPath zkPath topic partition offsetType none) ++ [l]) = none :=
    List.find?_eq_none.mpr fun w hw heq =>
      hfresh w (List.mem_reverse.mp hw) (of_decide_eq_true heq ▸ List.prefix_append _ _)
  have hps : ∀ w ∈ ps.reverse,
      decide (zkNode (getOffsetZkPath zkPath topic partition offsetType (some w.1)) =
        zkNode (getOffsetZkPath zkPath topic partition offsetType none) ++ [l]) = decide (w.1 = l) := by
    intro w hw
    obtain ⟨hl, hs⟩ := hlabels w (List.mem_reverse.mp hw)
    simp [zkNode_offsetPath hl hs]
  simp only [lastWrite, Znodes.publishAll_eq, List.reverse_append, List.find?_append, hz,
    Option.or_none, ← List.map_reverse, List.find?_map, Function.comp_def]
  rw [find?_congr_of_mem hps, Option.map_map]
  rfl

/-- The offset type's node exists once something was published under it. -/
theorem publishAll_hasNode :
    (z.publishAll zkPath topic partition offsetType ps).hasNode
        (zkNode (getOffsetZkPath zkPath topic partition offsetType none)) = true ↔ ps ≠ [] := by
  have hz : (z.writes.any fun w =>
      (zkNode (getOffsetZkPath zkPath topic partition offsetType none)).isPrefixOf (zkNode w.1)) =
        false :=
    List.any_eq_false.mpr fun w hw h => hfresh w hw (List.isPrefixOf_iff_prefix.mp h)
  simp only [Znodes.hasNode, Znodes.publishAll_eq, List.any_append, hz, Bool.false_or,
    List.any_map, List.any_eq_true, Function.comp_apply]
  constructor
  · rintro ⟨w, hw, -⟩ rfl
    exact List.not_mem_nil _ hw
  · intro hne
    obtain ⟨w, hw⟩ := List.exists_mem_of_ne_nil ps hne
    obtain ⟨hl, hs⟩ := hlabels w hw
    exact ⟨w, hw, by simp [zkNode_offsetPath hl hs]⟩

/-- The children of the offset type's node are the published labels. -/
theorem publishAll_children :
    (z.publishAll zkPath topic partition offsetType ps).children
        (zkNode (getOffsetZkPath zkPath topic partition offsetType none)) =
      (ps.map Prod.fst).dedup := by
  simp only [Znodes.children, Znodes.publishAll_eq, List.filterMap_append, List.filterMap_map]
  rw [List.filterMap_eq_nil_iff.mpr fun w hw => childName_eq_none (hfresh w hw), List.nil_append,
    List.filterMap_eq_map_iff_forall_eq_some.mpr fun w hw => ?_]
  obtain ⟨hl, hs⟩ := hlabels w hw
  simp [zkNode_offsetPath hl hs, childName_append_singleton]

/-- A published label reads back its last offset. -/
theorem publishAll_readOffset {l : String} {v : Int} (h : lastPublished ps l = some v) :
    (z.publishAll zkPath topic partition offsetType ps).readOffset zkPath topic partition
      offsetType (some l) = .ok v := by
  obtain ⟨w, hw, rfl⟩ := List.mem_map.mp (lastPublished_isSome.mp (Option.isSome_iff_exists.mpr ⟨v, h⟩))
  obtain ⟨hl, hs⟩ := hlabels w hw
  simp [Znodes.readOffset, Znodes.getData, zkNode_offsetPath hl hs,
    publishAll_lastWrite hfresh hlabels, h]

end ReadBack

/-- A Coordinator with no node yet, which lists children in creation order. -/
def emptyZnodes : Znodes := ⟨[], fun _ => .noNode, fun _ ls => ls⟩

/-- Groups `G1` and `G2` on one partition: `G1` publishes 5, `G2` 7, then `G1` 9. -/
def groupPublishes : List (String × Int) := [("G1", 5), ("G2", 7), ("G1", 9)]

example : (emptyZnodes.publishAll "/backbeat/backlog-metrics" "backlog" "0" "consumers"
    groupPublishes).readAllOffsets "/backbeat/backlog-metrics" "backlog" "0" "consumers" =
      .ok [("G2", 7), ("G1", 9)] := rfl

/-- A group label that holds a `/`: `a/b` is written two levels down, `setOrCreate` creates `a`
on its way, and the Coordinator lists `a` as the child. Whatever the node `a` holds,
`_readAllOffsets` never reports the label `a/b` with its offset. -/
theorem nested_label_never_reported (onTheWay : List String → NodeRead) :
    (Znodes.publishAll ⟨[], onTheWay, fun _ ls => ls⟩ "/backbeat/backlog-metrics" "backlog" "0"
        "consumers" [("a/b", 5)]).getChildren
          (zkNode "/backbeat/backlog-metrics/backlog/0/consumers") = .children ["a"] ∧
    (Znodes.publishAll ⟨[], onTheWay, fun _ ls => ls⟩ "/backbeat/backlog-metrics" "backlog" "0"
        "consumers" [("a/b", 5)]).readAllOffsets "/backbeat/backlog-metrics" "backlog" "0"
          "consumers" ≠ .ok [("a/b", 5)] := by
  have hc : (Znodes.publishAll ⟨[], onTheWay, fun _ ls => ls⟩ "/backbeat/backlog-metrics" "backlog"
      "0" "consumers" [("a/b", 5)]).getChildren
        (zkNode "/backbeat/backlog-metrics/backlog/0/consumers") = .children ["a"] := rfl
  -- the node `a` was created on the way and never written
  have hd : (Znodes.publishAll ⟨[], onTheWay, fun _ ls => ls⟩ "/backbeat/backlog-metrics" "backlog"
      "0" "consumers" [("a/b", 5)]).getData
        (zkNode "/backbeat/backlog-metrics/backlog/0/consumers/a") =
      onTheWay (zkNode "/backbeat/backlog-metrics/backlog/0/consumers/a") := rfl
  refine ⟨hc, ?_⟩
  unfold Znodes.readAllOffsets
  erw [hc]
  simp only [List.mapM_cons, List.mapM_nil, Znodes.readOffset]
  erw [hd]
  cases onTheWay (zkNode "/backbeat/backlog-metrics/backlog/0/consumers/a") <;> simp

end Backbeat.Backlog
