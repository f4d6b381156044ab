import Backbeat.Backlog.Paths

/-!
# What the check measures on the nodes

`Backbeat.Backlog.Paths` builds the tree the check reads from the Coordinator's nodes and shows
that one offset node reads what the node store `Store` gives it. This module carries that to the
whole check, listings included, and says what the check measures on the node store.

* `tree_partitions`, `tree_consumerLabels` — the listings the nodes give after offset writes on a
  topic with no node yet: the partitions written, and on a partition the groups written, each
  once, in the Coordinator's order;
* `check_tree_eq_writtenTree` — the check over the nodes calls back exactly as the check over
  the node store with those listings (`writtenTree`), when partitions hold no `/` and every
  label names one node. It rests on `checkConsumerOffsetsGeneric_congr`: the check reads the
  listing and the listed partitions, and nothing else;
* `check_writtenTree` — on the node store, when every partition written reads the offsets of the
  check's groups and holds its target offset, the check never calls back with an error: it
  succeeds exactly when no group lags, and otherwise reports one that does, with its offsets;
* `check_writtenTree_held` — on the node store after any writes, the check never calls back with
  an error, and a lag it reports is one the nodes hold.

A partition's name is its number in decimal and holds no `/` (`slash_not_mem_toString`); a group
label must be checked for it.
-/

namespace Backbeat.Backlog

/-! ### Partition names -/

theorem digitChar_ne_slash : ∀ k < 10, Nat.digitChar k ≠ '/' := by decide

theorem mem_toDigitsCore {b fuel n : Nat} {ds : List Char} {c : Char} (hb : 0 < b)
    (h : c ∈ Nat.toDigitsCore b fuel n ds) : c ∈ ds ∨ ∃ k < b, c = Nat.digitChar k := by
  induction fuel generalizing n ds with
  | zero => exact .inl h
  | succ fuel ih =>
    replace h : c ∈ if n / b = 0 then Nat.digitChar (n % b) :: ds
        else Nat.toDigitsCore b fuel (n / b) (Nat.digitChar (n % b) :: ds) := h
    split at h
    · rcases List.mem_cons.mp h with rfl | h
      exacts [.inr ⟨_, Nat.mod_lt _ hb, rfl⟩, .inl h]
    · rcases ih h with h | h
      · rcases List.mem_cons.mp h with rfl | h
        exacts [.inr ⟨_, Nat.mod_lt _ hb, rfl⟩, .inl h]
      · exact .inr h

/-- A partition's name, `toString` of its number, holds no `/`. -/
theorem slash_not_mem_toString (n : Nat) : '/' ∉ (toString n).toList := fun h => by
  rcases mem_toDigitsCore (by decide) (show '/' ∈ Nat.toDigitsCore 10 (n + 1) n [] from h) with
    h | ⟨k, hk, hc⟩
  · cases h
  · exact digitChar_ne_slash k hk hc.symm

theorem truthyName_ne_empty {x : Option String} {g : String} (h : truthyName x = some g) :
    g ≠ "" := by
  cases x with
  | none => cases h
  | some a =>
    simp only [truthyName, Option.filter] at h
    split_ifs at h with ha
    cases h
    exact of_decide_eq_true ha

/-! ### The listings the writes create -/

/-- The group a consumer-offset node is for. -/
def OffsetNode.label : OffsetNode → Option String
  | .consumers l => some l
  | _ => none

/-- The groups whose consumer offsets the writes set on partition `p`, in write order. -/
def consumerLabelsOf (ws : List OffsetWrite) (p : String) : List String :=
  ws.filterMap fun w => if w.partition = p then w.node.label else none

theorem mem_consumerLabelsOf {ws : List OffsetWrite} {p l : String} :
    l ∈ consumerLabelsOf ws p ↔ ∃ w ∈ ws, w.partition = p ∧ w.node = .consumers l := by
  simp only [consumerLabelsOf, List.mem_filterMap]
  refine exists_congr fun w => and_congr_right fun _ => ?_
  by_cases hp : w.partition = p <;> cases hn : w.node <;> simp [hp, hn, OffsetNode.label]

/-- The subtree the check reads when the nodes hold what the writes `ws` set on a topic with no
node yet: the node store after `ws`, listing the written partitions in the order
`orderPartitions` gives, and on a partition `p` the written groups in the order `orderLabels p`
gives. -/
def writtenTree (ws : List OffsetWrite) (orderPartitions : List String → List String)
    (orderLabels : String → List String → List String) : OffsetsTree :=
  (Store.applyAll ⟨fun _ _ => none⟩ ws).tree
    (if ws = [] then .noNode else .children (orderPartitions (ws.map OffsetWrite.partition).dedup))
    fun p => if consumerLabelsOf ws p = [] then .noNode else
      .children (orderLabels p (consumerLabelsOf ws p).dedup)

theorem writtenTree_consumerLabels {ws : List OffsetWrite}
    {orderPartitions : List String → List String}
    {orderLabels : String → List String → List String} {p : String} :
    (writtenTree ws orderPartitions orderLabels).consumerLabels p =
      if consumerLabelsOf ws p = [] then .noNode else
        .children (orderLabels p (consumerLabelsOf ws p).dedup) :=
  rfl

theorem readOffset_writtenTree {ws : List OffsetWrite}
    {orderPartitions : List String → List String}
    {orderLabels : String → List String → List String} {p : String} {n : OffsetNode} {v : Int} :
    readOffset (writtenTree ws orderPartitions orderLabels) p n = .ok v ↔
      (Store.applyAll ⟨fun _ _ => none⟩ ws).offset p n = some v :=
  readOffset_tree

theorem writtenTree_partitions {ws : List OffsetWrite}
    {orderPartitions : List String → List String}
    {orderLabels : String → List String → List String} (h : ws ≠ []) :
    (writtenTree ws orderPartitions orderLabels).partitions =
      .children (orderPartitions (ws.map OffsetWrite.partition).dedup) := by
  simp [writtenTree, Store.tree, h]

/-- The node a write sets holds a value, and a node no write sets holds none. -/
theorem applyAll_empty_offset_isSome {ws : List OffsetWrite} {p : String} {n : OffsetNode} :
    ((Store.applyAll ⟨fun _ _ => none⟩ ws).offset p n).isSome ↔
      ∃ w ∈ ws, w.partition = p ∧ w.node = n := by
  rcases applyAll_cases ⟨fun _ _ => none⟩ ws p n with ⟨hv, hnone⟩ | ⟨w, hw, hp, hn, hv⟩
  · simp only [hv, Option.isSome_none, Bool.false_eq_true, false_iff, not_exists, not_and]
    exact fun w hw hp hn => hnone w hw ⟨hp, hn⟩
  · simp only [hv, Option.isSome_some, true_iff]
    exact ⟨w, hw, hp, hn⟩

/-! ### The listings on the nodes -/

theorem zkNode_typePath {zkPath topic p t : String} (hp : '/' ∉ p.toList) (ht : '/' ∉ t.toList) :
    zkNode (getOffsetZkPath zkPath topic p t none) =
      zkNode (getPartitionsOffsetsZkPath zkPath topic) ++ [p, t] := by
  simp [getOffsetZkPath, truthyName, Option.filter, zkNode_append_slash, zkNode_of_no_slash hp,
    zkNode_of_no_slash ht]

theorem childName_partition (T : List String) (p : String) (rest : List String) :
    childName T (T ++ p :: rest) = some p := by
  simp [childName]

theorem prefix_consumers_iff (T : List String) (p p' : String) (n : OffsetNode) :
    T ++ [p, "consumers"] <+: T ++ p' :: n.components ↔
      (if p' = p then n.label else none).isSome := by
  by_cases h : p' = p
  · subst h; cases n <;> simp [OffsetNode.components, OffsetNode.label]
  · simp [h, Ne.symm h]

theorem childName_consumers (T : List String) (p p' : String) (n : OffsetNode) :
    childName (T ++ [p, "consumers"]) (T ++ p' :: n.components) =
      if p' = p then n.label else none := by
  by_cases h : p' = p
  · subst h; cases n <;> simp [childName, OffsetNode.components, OffsetNode.label]
  · simp [childName, h, Ne.symm h]

theorem Znodes.hasNode_iff (z : Znodes) (n : List String) :
    z.hasNode n = true ↔ ∃ x ∈ z.writes.map (fun w => zkNode w.1), n <+: x := by
  simp [Znodes.hasNode, List.isPrefixOf_iff_prefix]

theorem Znodes.children_eq (z : Znodes) (n : List String) :
    z.children n = ((z.writes.map fun w => zkNode w.1).filterMap (childName n)).dedup := by
  simp [Znodes.children, List.filterMap_map, Function.comp_def]

@[simp] theorem foldl_publishWrite_order {ws : List OffsetWrite}
    {onTheWay : List String → NodeRead} {order : List String → List String → List String}
    {zkPath topic : String} :
    (ws.foldl (Znodes.publishWrite zkPath topic) ⟨[], onTheWay, order⟩).order = order := by
  simp [Znodes.foldl_publishWrite]

section Listings

variable {ws : List OffsetWrite} {onTheWay : List String → NodeRead}
  {order : List String → List String → List String} {zkPath topic : String}
  (hws : ∀ w ∈ ws, '/' ∉ w.partition.toList ∧ w.node.Named)
include hws

/-- The nodes the writes set, each below its partition's node. -/
theorem zkNode_writes :
    (ws.foldl (Znodes.publishWrite zkPath topic) ⟨[], onTheWay, order⟩).writes.map
        (fun w => zkNode w.1) =
      ws.map fun w =>
        zkNode (getPartitionsOffsetsZkPath zkPath topic) ++ w.partition :: w.node.components := by
  simp only [Znodes.foldl_publishWrite, List.nil_append, List.map_map]
  exact List.map_congr_left fun w hw => zkNode_offsetNode (hws w hw).1 (hws w hw).2

/-- The topic's node lists the written partitions, each once; it is missing when nothing was
written. -/
theorem tree_partitions :
    ((ws.foldl (Znodes.publishWrite zkPath topic) ⟨[], onTheWay, order⟩).tree zkPath
        topic).partitions =
      if ws = [] then .noNode else
        .children (order (zkNode (getPartitionsOffsetsZkPath zkPath topic))
          (ws.map OffsetWrite.partition).dedup) := by
  dsimp only [Znodes.tree, Znodes.getChildren]
  by_cases hnil : ws = []
  · subst hnil; rfl
  · obtain ⟨w, hw⟩ := List.exists_mem_of_ne_nil ws hnil
    rw [if_pos ((Znodes.hasNode_iff _ _).mpr ?_), if_neg hnil, Znodes.children_eq,
      zkNode_writes hws, List.filterMap_map, foldl_publishWrite_order]
    · congr
      exact List.filterMap_eq_map_iff_forall_eq_some.mpr fun w _ => childName_partition _ _ _
    · rw [zkNode_writes hws]
      exact ⟨_, List.mem_map_of_mem _ hw, List.prefix_append _ _⟩

theorem hasNode_consumers_iff {p : String} :
    (ws.foldl (Znodes.publishWrite zkPath topic) ⟨[], onTheWay, order⟩).hasNode
        (zkNode (getPartitionsOffsetsZkPath zkPath topic) ++ [p, "consumers"]) = true ↔
      consumerLabelsOf ws p ≠ [] := by
  rw [Znodes.hasNode_iff, zkNode_writes hws, Ne, consumerLabelsOf, List.filterMap_eq_nil_iff]
  simp only [List.mem_map, exists_exists_and_eq_and, prefix_consumers_iff, not_forall,
    Option.isSome_iff_ne_none, exists_prop]

/-- A partition's `consumers` node lists the groups written on it, each once; it is missing when
no group was written there. -/
theorem tree_consumerLabels {p : String} (hp : '/' ∉ p.toList) :
    ((ws.foldl (Znodes.publishWrite zkPath topic) ⟨[], onTheWay, order⟩).tree zkPath
        topic).consumerLabels p =
      if consumerLabelsOf ws p = [] then .noNode else
        .children (order (zkNode (getPartitionsOffsetsZkPath zkPath topic) ++ [p, "consumers"])
          (consumerLabelsOf ws p).dedup) := by
  dsimp only [Znodes.tree, Znodes.getChildren]
  rw [zkNode_typePath hp (by decide)]
  by_cases hnil : consumerLabelsOf ws p = []
  · rw [if_neg (mt (hasNode_consumers_iff hws).mp (not_not.mpr hnil)), if_pos hnil]
  · rw [if_pos ((hasNode_consumers_iff hws).mpr hnil), if_neg hnil, Znodes.children_eq,
      zkNode_writes hws, List.filterMap_map, foldl_publishWrite_order]
    congr
    exact funext fun w => childName_consumers _ _ _ _

/-! ### The check over the nodes -/

theorem tree_readOffset_named {p : String} {n : OffsetNode} (hp : '/' ∉ p.toList) (hn : n.Named)
    (orderPartitions : List String → List String)
    (orderLabels : String → List String → List String) :
    readOffset ((ws.foldl (Znodes.publishWrite zkPath topic) ⟨[], onTheWay, order⟩).tree zkPath
        topic) p n =
      readOffset (writtenTree ws orderPartitions orderLabels) p n := by
  have hnode : ((ws.foldl (Znodes.publishWrite zkPath topic) ⟨[], onTheWay, order⟩).tree zkPath
      topic).node p n = (writtenTree ws orderPartitions orderLabels).node p n := by
    dsimp only [Znodes.tree]
    rw [zkNode_offsetNode hp hn]
    exact getData_foldl_publishWrite hws hp hn
  unfold readOffset
  rw [hnode]

theorem named_of_mem_consumerLabelsOf {p l : String} (hl : l ∈ consumerLabelsOf ws p) :
    (OffsetNode.consumers l).Named := by
  obtain ⟨w, hw, hp, hn⟩ := mem_consumerLabelsOf.mp hl
  exact hn ▸ (hws w hw).2

/-- **The check over the nodes is the check over the node store.** After offset writes whose
partitions hold no `/` and whose labels name one node each, on a topic with no node yet, and
for a check whose group and snapshot names hold no `/`, the check over the nodes calls back as
the check over the node store after the same writes, with the listings the writes create in the
Coordinator's order. -/
theorem check_tree_eq_writtenTree (c : CheckParams) (horder : ∀ n ls, ∀ x ∈ order n ls, x ∈ ls)
    (hg : ∀ g ∈ truthyName c.groupId, '/' ∉ g.toList)
    (hs : ∀ s ∈ truthyName c.snapshotName, '/' ∉ s.toList) :
    checkConsumerOffsetsGeneric
        ((ws.foldl (Znodes.publishWrite zkPath topic) ⟨[], onTheWay, order⟩).tree zkPath topic) c =
      checkConsumerOffsetsGeneric
        (writtenTree ws (order (zkNode (getPartitionsOffsetsZkPath zkPath topic)))
          fun p => order (zkNode (getPartitionsOffsetsZkPath zkPath topic) ++ [p, "consumers"])) c := by
  have htarget : (targetNode c).Named := by
    unfold targetNode
    cases h : truthyName c.snapshotName with
    | none => trivial
    | some s => exact ⟨truthyName_ne_empty h, hs s h⟩
  refine checkConsumerOffsetsGeneric_congr c (by rw [tree_partitions hws]; rfl) fun ps hps p hp => ?_
  -- a listed partition is a written one, so its name holds no `/`
  have hp' : '/' ∉ p.toList := by
    rw [tree_partitions hws] at hps
    split_ifs at hps
    cases hps
    obtain ⟨w, hw, rfl⟩ := List.mem_map.mp (List.mem_dedup.mp (horder _ _ p hp))
    exact (hws w hw).1
  refine ⟨?_, tree_readOffset_named hws hp' htarget _ _⟩
  unfold consumerOffsets
  cases hgid : truthyName c.groupId with
  | some g =>
    dsimp only
    rw [tree_readOffset_named hws hp'
      (show (OffsetNode.consumers g).Named from ⟨truthyName_ne_empty hgid, hg g hgid⟩)]
  | none =>
    -- every label listed under the partition is a written group
    dsimp only
    unfold readAllOffsets
    rw [tree_consumerLabels hws hp', writtenTree_consumerLabels]
    split_ifs
    · rfl
    · exact readLabels_congr fun l hl => tree_readOffset_named hws hp'
        (named_of_mem_consumerLabelsOf hws (List.mem_dedup.mp (horder _ _ l hl))) _ _

end Listings

/-! ### The check on the node store -/

/-- **The check on the node store.** Let every partition the writes created read, for the
check's groups, the offsets the nodes hold for its labels `L p`: the labels `Sel` selects that
hold an offset there. Let it also hold the check's target offset. The check of the written tree
then never calls back with an error: it succeeds exactly when every selected group holding an
offset is within `maxLag` of its partition's target, and otherwise reports one that is not, with
its two offsets. -/
theorem check_writtenTree {ws : List OffsetWrite}
    {orderPartitions : List String → List String}
    {orderLabels : String → List String → List String}
    (horder : ∀ ls, (orderPartitions ls).Perm ls) {c : CheckParams} (Sel : String → Prop)
    (L : String → List String)
    (hreads : ∀ w ∈ ws, consumerOffsets (writtenTree ws orderPartitions orderLabels) c
      w.partition = .ok ((L w.partition).map fun l =>
        (l, ((Store.applyAll ⟨fun _ _ => none⟩ ws).offset w.partition (.consumers l)).getD 0)))
    (hlabels : ∀ w ∈ ws, ∀ l, l ∈ L w.partition ↔
      Sel l ∧ ((Store.applyAll ⟨fun _ _ => none⟩ ws).offset w.partition (.consumers l)).isSome)
    (htarget : ∀ w ∈ ws,
      ((Store.applyAll ⟨fun _ _ => none⟩ ws).offset w.partition (targetNode c)).isSome) :
    (checkConsumerOffsetsGeneric (writtenTree ws orderPartitions orderLabels) c = .success ↔
      ∀ p l, Sel l → ∀ o h,
        (Store.applyAll ⟨fun _ _ => none⟩ ws).offset p (.consumers l) = some o →
        (Store.applyAll ⟨fun _ _ => none⟩ ws).offset p (targetNode c) = some h →
          lagOf h o ≤ c.maxLag) ∧
    (∀ i, checkConsumerOffsetsGeneric (writtenTree ws orderPartitions orderLabels) c = .info i →
      ∃ p l, Sel l ∧ ∃ o h,
        (Store.applyAll ⟨fun _ _ => none⟩ ws).offset p (.consumers l) = some o ∧
        (Store.applyAll ⟨fun _ _ => none⟩ ws).offset p (targetNode c) = some h ∧
        c.maxLag < lagOf h o ∧ i = lagInfo c p h l o) ∧
    checkConsumerOffsetsGeneric (writtenTree ws orderPartitions orderLabels) c ≠ .error := by
  set s := Store.applyAll ⟨fun _ _ => none⟩ ws
  by_cases hnil : ws = []
  · -- nothing was written: the topic has no node, and no node holds an offset
    subst hnil
    refine ⟨iff_of_true rfl fun p l _ o h ho _ => ?_, fun i hi => ?_, nofun⟩
    · cases ho
    · cases hi
  · have hlisted : ∀ p, p ∈ orderPartitions (ws.map OffsetWrite.partition).dedup ↔
        ∃ w ∈ ws, w.partition = p := fun p => by
      rw [(horder _).mem_iff, List.mem_dedup, List.mem_map]
    -- a listed partition holds its target offset, and an offset for each label it reads
    have htgt : ∀ p ∈ orderPartitions (ws.map OffsetWrite.partition).dedup,
        ∃ h, s.offset p (targetNode c) = some h := fun p hp => by
      obtain ⟨w, hw, rfl⟩ := (hlisted p).mp hp
      exact Option.isSome_iff_exists.mp (htarget w hw)
    have hlabel : ∀ p ∈ orderPartitions (ws.map OffsetWrite.partition).dedup, ∀ l ∈ L p,
        Sel l ∧ ∃ o, s.offset p (.consumers l) = some o := fun p hp l hl => by
      obtain ⟨w, hw, rfl⟩ := (hlisted p).mp hp
      exact ((hlabels w hw l).mp hl).imp_right Option.isSome_iff_exists.mp
    obtain ⟨hsucc, hinfo, herr⟩ := check_of_reads _ c (@writtenTree_partitions _ _ orderLabels hnil)
      (r := fun p => (L p).map fun l => (l, (s.offset p (.consumers l)).getD 0))
      (v := fun p => (s.offset p (targetNode c)).getD 0) fun p hp => by
        obtain ⟨w, hw, rfl⟩ := (hlisted p).mp hp
        obtain ⟨h, hh⟩ := htgt _ hp
        exact ⟨hreads w hw, by simp only [hh, Option.getD_some]; exact readOffset_writtenTree.mpr hh⟩
    refine ⟨hsucc.trans ⟨fun hall p l hl o h ho hh => ?_, fun hall p hp lv hlv => ?_⟩,
      fun i hi => ?_, herr⟩
    · obtain ⟨w, hw, rfl, -⟩ :=
        applyAll_empty_offset_isSome.mp (Option.isSome_iff_exists.mpr ⟨o, ho⟩)
      simpa [ho, hh] using hall _ ((hlisted _).mpr ⟨w, hw, rfl⟩) _
        (List.mem_map_of_mem _ ((hlabels w hw l).mpr ⟨hl, by simp [ho]⟩))
    · obtain ⟨l, hl, rfl⟩ := List.mem_map.mp hlv
      obtain ⟨hsel, o, ho⟩ := hlabel p hp l hl
      obtain ⟨h, hh⟩ := htgt p hp
      simpa [ho, hh] using hall p l hsel o h ho hh
    · obtain ⟨p, hp, lv, hlv, hlag, rfl⟩ := hinfo i hi
      obtain ⟨l, hl, rfl⟩ := List.mem_map.mp hlv
      obtain ⟨hsel, o, ho⟩ := hlabel p hp l hl
      obtain ⟨h, hh⟩ := htgt p hp
      simp only [ho, hh, Option.getD_some] at hlag ⊢
      exact ⟨p, l, hsel, o, h, ho, hh, hlag, rfl⟩

/-- The check of one group on the node store, when every partition written holds the group's
offset and the check's target offset. -/
theorem check_group_writtenTree {ws : List OffsetWrite}
    {orderPartitions : List String → List String}
    {orderLabels : String → List String → List String}
    (horder : ∀ ls, (orderPartitions ls).Perm ls) {c : CheckParams} {g : String}
    (hg : truthyName c.groupId = some g)
    (hcover : ∀ w ∈ ws, ∃ o h,
      (Store.applyAll ⟨fun _ _ => none⟩ ws).offset w.partition (.consumers g) = some o ∧
        (Store.applyAll ⟨fun _ _ => none⟩ ws).offset w.partition (targetNode c) = some h) :
    (checkConsumerOffsetsGeneric (writtenTree ws orderPartitions orderLabels) c = .success ↔
      ∀ p o h, (Store.applyAll ⟨fun _ _ => none⟩ ws).offset p (.consumers g) = some o →
        (Store.applyAll ⟨fun _ _ => none⟩ ws).offset p (targetNode c) = some h →
          lagOf h o ≤ c.maxLag) ∧
    (∀ i, checkConsumerOffsetsGeneric (writtenTree ws orderPartitions orderLabels) c = .info i →
      ∃ p o h, (Store.applyAll ⟨fun _ _ => none⟩ ws).offset p (.consumers g) = some o ∧
        (Store.applyAll ⟨fun _ _ => none⟩ ws).offset p (targetNode c) = some h ∧
        c.maxLag < lagOf h o ∧ i = lagInfo c p h g o) ∧
    checkConsumerOffsetsGeneric (writtenTree ws orderPartitions orderLabels) c ≠ .error := by
  have hcons : ∀ w ∈ ws, consumerOffsets (writtenTree ws orderPartitions orderLabels) c
      w.partition = .ok ([g].map fun l =>
        (l, ((Store.applyAll ⟨fun _ _ => none⟩ ws).offset w.partition (.consumers l)).getD 0)) :=
    fun w hw => by
      obtain ⟨o, -, hc, -⟩ := hcover w hw
      simp [consumerOffsets, hg, readOffset_writtenTree.mpr hc, Except.map, hc]
  simpa only [forall_eq, exists_eq_left] using
    check_writtenTree horder (· = g) (fun _ => [g]) hcons
      (fun w hw l => by
        obtain ⟨o, -, hc, -⟩ := hcover w hw
        rw [List.mem_singleton, iff_self_and]
        rintro rfl
        simp [hc])
      fun w hw => by
        obtain ⟨-, h, -, ht⟩ := hcover w hw
        simp [ht]

/-! ### What the check can report on any writes -/

theorem readLabels_mem {t : OffsetsTree} {p : String} {ls : List String}
    {os : List (String × Int)} (h : readLabels t p ls = .ok os) :
    ∀ lv ∈ os, readOffset t p (.consumers lv.1) = .ok lv.2 := by
  induction ls generalizing os with
  | nil => cases h; nofun
  | cons l ls ih =>
    cases hl : readOffset t p (.consumers l) with
    | error e => simp [readLabels, hl, bind, Except.bind] at h
    | ok v =>
      cases hr : readLabels t p ls with
      | error e => simp [readLabels, hl, hr, bind, Except.bind] at h
      | ok rest =>
        simp only [readLabels, hl, hr, bind, Except.bind, pure, Except.pure,
          Except.ok.injEq] at h
        subst h
        intro lv hlv
        rcases List.mem_cons.mp hlv with rfl | hlv
        exacts [hl, ih hr lv hlv]

theorem readLabels_error {t : OffsetsTree} {p : String} {ls : List String} {e : ReadErr}
    (h : readLabels t p ls = .error e) : ∃ l, readOffset t p (.consumers l) = .error e := by
  induction ls with
  | nil => cases h
  | cons l ls ih =>
    cases hl : readOffset t p (.consumers l) with
    | error e' =>
      simp only [readLabels, hl, bind, Except.bind, Except.error.injEq] at h
      exact ⟨l, h ▸ hl⟩
    | ok v =>
      cases hr : readLabels t p ls with
      | error e' =>
        simp only [readLabels, hl, hr, bind, Except.bind, Except.error.injEq] at h
        exact ih (h ▸ hr)
      | ok rest => simp [readLabels, hl, hr, bind, Except.bind, pure, Except.pure] at h

section AnyWrites

variable {ws : List OffsetWrite} {orderPartitions : List String → List String}
  {orderLabels : String → List String → List String}

/-- A node of the written tree holds an integer or is missing: a read of it fails only with
`NoNodeError`. -/
theorem readOffset_writtenTree_ne_other (p : String) (n : OffsetNode) :
    readOffset (writtenTree ws orderPartitions orderLabels) p n ≠ .error .other := by
  cases h : (Store.applyAll ⟨fun _ _ => none⟩ ws).offset p n <;>
    simp [readOffset, writtenTree, Store.tree, h]

theorem consumerOffsets_writtenTree_ne_other (c : CheckParams) (p : String) :
    consumerOffsets (writtenTree ws orderPartitions orderLabels) c p ≠ .error .other := by
  unfold consumerOffsets
  cases truthyName c.groupId with
  | some g =>
    dsimp only
    cases h : readOffset (writtenTree ws orderPartitions orderLabels) p (.consumers g) with
    | ok v => nofun
    | error e =>
      rintro ⟨⟩
      exact readOffset_writtenTree_ne_other p _ h
  | none =>
    dsimp only
    unfold readAllOffsets
    rw [writtenTree_consumerLabels]
    split_ifs
    · nofun
    · intro h
      obtain ⟨l, hl⟩ := readLabels_error h
      exact readOffset_writtenTree_ne_other p (.consumers l) hl

/-- A pair the consumer offsets of the written tree give is a group's offset that the nodes
hold, for the check's group when it names one. -/
theorem consumerOffsets_writtenTree_held {c : CheckParams} {p : String}
    {os : List (String × Int)}
    (h : consumerOffsets (writtenTree ws orderPartitions orderLabels) c p = .ok os) :
    ∀ lv ∈ os, (∀ g ∈ truthyName c.groupId, lv.1 = g) ∧
      (Store.applyAll ⟨fun _ _ => none⟩ ws).offset p (.consumers lv.1) = some lv.2 := by
  unfold consumerOffsets at h
  cases hg : truthyName c.groupId with
  | some g =>
    rw [hg] at h
    cases hr : readOffset (writtenTree ws orderPartitions orderLabels) p (.consumers g) with
    | error e => simp [hr, Except.map] at h
    | ok v =>
      simp only [hr, Except.map, Except.ok.injEq] at h
      subst h
      intro lv hlv
      rw [List.mem_singleton.mp hlv]
      exact ⟨fun g' hg' => Option.mem_some_iff.mp hg', readOffset_writtenTree.mp hr⟩
  | none =>
    rw [hg] at h
    refine fun lv hlv => ⟨fun g' hg' => (by cases hg'), ?_⟩
    unfold readAllOffsets at h
    rw [writtenTree_consumerLabels] at h
    split_ifs at h
    · cases h; cases hlv
    · exact readOffset_writtenTree.mp (readLabels_mem h lv hlv)

/-- **The check on any writes.** On the node store after any writes, with any listings of the
written partitions and groups, the check never calls back with an error, and a lag it reports
is one the nodes hold. -/
theorem check_writtenTree_held (c : CheckParams) :
    checkConsumerOffsetsGeneric (writtenTree ws orderPartitions orderLabels) c ≠ .error ∧
    ∀ i, checkConsumerOffsetsGeneric (writtenTree ws orderPartitions orderLabels) c = .info i →
      (∀ g ∈ truthyName c.groupId, i.groupId = g) ∧
      (Store.applyAll ⟨fun _ _ => none⟩ ws).offset i.partition (.consumers i.groupId) =
        some i.consumerOffset ∧
      (Store.applyAll ⟨fun _ _ => none⟩ ws).offset i.partition (targetNode c) =
        some i.targetOffset ∧
      c.maxLag < i.lag ∧ i = lagInfo c i.partition i.targetOffset i.groupId i.consumerOffset := by
  by_cases hnil : ws = []
  · -- nothing was written: the topic has no node
    subst hnil
    exact ⟨nofun, fun i hi => by cases hi⟩
  · have hps := @writtenTree_partitions _ orderPartitions orderLabels hnil
    refine ⟨fun he => ?_, fun i hi => ?_⟩
    · -- no read of the written tree fails with another error than `NoNodeError`
      obtain ⟨-, p, -, -, -, hp⟩ :=
        (checkPartitions_eq_error _ c).mp ((check_eq_error_iff _ c hps).mp he)
      rcases (checkPartition_error_iff _ c p .other).mp hp with hco | ⟨os, -, hr⟩
      exacts [consumerOffsets_writtenTree_ne_other c p hco, readOffset_writtenTree_ne_other p _ hr]
    · -- the reported group lags at a partition whose reads went through
      obtain ⟨-, p, -, -, -, hp⟩ :=
        (checkPartitions_eq_error _ c).mp ((check_eq_info_iff _ c hps i).mp hi)
      obtain ⟨os, v, pre, label, w, post, hco, hr, rfl, -, hlag, rfl⟩ :=
        (checkPartition_condition_iff _ c p i).mp hp
      obtain ⟨hg, hw⟩ := consumerOffsets_writtenTree_held hco (label, w) (by simp)
      exact ⟨hg, hw, readOffset_writtenTree.mp hr, hlag, rfl⟩

end AnyWrites

/-! ### The consumer offsets of every group -/

/-- With no group, a partition of the written tree reads every group written on it, each once,
in the listing's order, with the last offset written for it. -/
theorem consumerOffsets_writtenTree_none {ws : List OffsetWrite}
    {orderPartitions : List String → List String}
    {orderLabels : String → List String → List String}
    (horder : ∀ p ls, (orderLabels p ls).Perm ls) {c : CheckParams}
    (hc : truthyName c.groupId = none) (p : String) :
    consumerOffsets (writtenTree ws orderPartitions orderLabels) c p =
      .ok ((orderLabels p (consumerLabelsOf ws p).dedup).map fun l =>
        (l, ((Store.applyAll ⟨fun _ _ => none⟩ ws).offset p (.consumers l)).getD 0)) := by
  simp only [consumerOffsets, hc, readAllOffsets, writtenTree_consumerLabels]
  split_ifs with hnl
  · rw [hnl, List.dedup_nil, (horder p []).eq_nil]
    rfl
  · dsimp only
    rw [readLabels_eq_mapM]
    refine mapM_eq_ok fun l hl => ?_
    obtain ⟨o, ho⟩ := Option.isSome_iff_exists.mp (applyAll_empty_offset_isSome.mpr
      (mem_consumerLabelsOf.mp (List.mem_dedup.mp ((horder p _).subset hl))))
    rw [readOffset_writtenTree.mpr ho, ho]
    rfl

end Backbeat.Backlog
