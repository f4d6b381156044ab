import Backbeat.Backlog.Publish

/-!
# Snapshots of a topic and the progress check

`snapshotTopicOffsets(kafkaClient, topic, snapshotName)` asks Kafka for the topic's metadata,
then, for each partition it lists, queries the partition's high watermark and writes it to the
Coordinator node `snapshots/<snapshotName>` of the partition. A later
`checkConsumerProgress(topic, groupId, snapshotName)` is the check with `maxLag = 0` against
those nodes: its documentation calls progress "the stored consumer offset being greater or equal
than the snapshot offsets, for all partitions".

* `snapshotTopicOffsets` — the writes the snapshot issues and whether it calls back without
  error;
* `snapshot_node_holds` — once the writes the Coordinator acknowledged have landed, in any order
  and among any other writers' writes to other nodes, every partition of the snapshot holds its
  high watermark;
* `progress_after_snapshot` — against such a snapshot, and over a listing of snapshotted
  partitions, the progress check succeeds when every group has reached the snapshot, and a
  reported group is one below its partition's high watermark, with that watermark as the
  info's target.
-/

namespace Backbeat.Backlog

/-- A topic of `getMetadata`'s answer: its name and the ids of its partitions. -/
structure TopicMd where
  name : String
  partitions : List Nat
  deriving DecidableEq, Repr

/-- `snapshotTopicOffsets(kafkaClient, topic, snapshotName, cb)`: the writes it issues, and
whether it calls back with no error. `metadata = none` when `getMetadata` fails
(`InternalError`, and no write); a topic the metadata does not list is skipped, with success.
Each partition (`async.each`) queries its high watermark (`_getLatestTopicOffset`, `none` when
the query fails: `InternalError`, and no write), then writes it (`_publishOffset`); `acked w`
when the Coordinator acknowledges the write `w`. An empty `snapshotName` names the `snapshots`
node itself, as `_getOffsetZkPath` does. -/
def snapshotTopicOffsets (metadata : Option (List TopicMd)) (topic snapshotName : String)
    (highWatermark : String → Option Int) (acked : OffsetWrite → Bool) : List OffsetWrite × Bool :=
  match metadata with
  | none => ([], false)
  | some topics =>
    match topics.find? fun t => t.name = topic with
    | none => ([], true)
    | some md =>
      let ws := md.partitions.filterMap fun id =>
        (highWatermark (toString id)).map fun h => ⟨toString id, .snapshots snapshotName, h⟩
      (ws, md.partitions.all (fun id => (highWatermark (toString id)).isSome) && ws.all acked)

section Issued

variable {topics : List TopicMd} {topic name : String} {md : TopicMd}
  {highWatermark : String → Option Int} {acked : OffsetWrite → Bool}
  (hmd : topics.find? (fun t => t.name = topic) = some md)
include hmd

/-- The snapshot's writes: one per partition whose high watermark was read, to its snapshot
node, with that watermark. -/
theorem mem_snapshotTopicOffsets {w : OffsetWrite} :
    w ∈ (snapshotTopicOffsets (some topics) topic name highWatermark acked).1 ↔
      ∃ id ∈ md.partitions, ∃ h, highWatermark (toString id) = some h ∧
        w = ⟨toString id, .snapshots name, h⟩ := by
  simp only [snapshotTopicOffsets, hmd, List.mem_filterMap, Option.map_eq_some', @eq_comm _ w]

/-- A snapshot that calls back with no error read every partition's high watermark and had
every write acknowledged. -/
theorem snapshotTopicOffsets_success
    (hsucc : (snapshotTopicOffsets (some topics) topic name highWatermark acked).2 = true) :
    (∀ id ∈ md.partitions, ∃ h, highWatermark (toString id) = some h) ∧
      ∀ w ∈ (snapshotTopicOffsets (some topics) topic name highWatermark acked).1,
        acked w = true := by
  simp only [snapshotTopicOffsets, hmd, Bool.and_eq_true, List.all_eq_true,
    Option.isSome_iff_exists] at hsucc ⊢
  exact hsucc

end Issued

/-! ### What the Coordinator holds after a snapshot -/

section AfterSnapshot

variable {topics : List TopicMd} {topic name : String} {md : TopicMd}
  {highWatermark : String → Option Int} {acked : OffsetWrite → Bool} {s0 : Store}
  {ws : List OffsetWrite}
  (hmd : topics.find? (fun t => t.name = topic) = some md)
  (hsucc : (snapshotTopicOffsets (some topics) topic name highWatermark acked).2 = true)
  (hacked : ∀ w ∈ (snapshotTopicOffsets (some topics) topic name highWatermark acked).1,
    acked w = true → w ∈ ws)
  (honly : ∀ w ∈ ws, w.node = .snapshots name →
    w ∈ (snapshotTopicOffsets (some topics) topic name highWatermark acked).1)
include hmd hsucc hacked honly

/-- **The snapshot lands.** After a snapshot that called back with no error, once the writes
the Coordinator acknowledged have been applied (`ws`, in the order applied, with any writes of
other nodes between them) and no other writer wrote the same snapshot name, each partition of
the snapshot holds its high watermark. -/
theorem snapshot_node_holds {id : Nat} (hid : id ∈ md.partitions) :
    ∃ h, highWatermark (toString id) = some h ∧
      (s0.applyAll ws).offset (toString id) (.snapshots name) = some h := by
  obtain ⟨hread, hall⟩ := snapshotTopicOffsets_success hmd hsucc
  obtain ⟨h, hh⟩ := hread id hid
  have hissued : (⟨toString id, .snapshots name, h⟩ : OffsetWrite) ∈
      (snapshotTopicOffsets (some topics) topic name highWatermark acked).1 :=
    (mem_snapshotTopicOffsets hmd).mpr ⟨id, hid, h, hh, rfl⟩
  refine ⟨h, hh, ?_⟩
  rcases applyAll_cases s0 ws (toString id) (.snapshots name) with ⟨-, hnone⟩ | ⟨w, hw, hp, hn, hv⟩
  · -- the issued write was acknowledged, so it is among the applied ones
    exact absurd ⟨rfl, rfl⟩ (hnone _ (hacked _ hissued (hall _ hissued)))
  · -- the last write of the node is one of the snapshot's, for the same partition
    obtain ⟨id', -, h', hh', rfl⟩ := (mem_snapshotTopicOffsets hmd).mp (honly w hw hn)
    dsimp only at hp hv
    rw [hp, hh] at hh'
    rw [hv, ← Option.some.inj hh']

/-- **Progress against a snapshot.** Take a snapshot that called back with no error and whose
acknowledged writes have landed, and a progress check over a listing of partitions that the
snapshot covered, with a nonempty snapshot name. The check succeeds when every group of every
listed partition has reached the partition's high watermark at snapshot time; and when it
reports a group, the group's offset is below its partition's high watermark, which is the
info's target. -/
theorem progress_after_snapshot {ps : List String} {labels : String → ChildrenRead}
    {groupId : Option String} (hname : name ≠ "")
    (hps : ∀ p ∈ ps, ∃ id ∈ md.partitions, p = toString id) :
    ((∀ p ∈ ps, ∃ os, consumerOffsets ((s0.applyAll ws).tree (.children ps) labels)
        ⟨topic, groupId, 0, some name⟩ p = .ok os ∧
          ∀ lv ∈ os, ∀ h ∈ highWatermark p, h ≤ lv.2) →
      checkConsumerProgress ((s0.applyAll ws).tree (.children ps) labels) topic groupId name =
        .success) ∧
    ∀ i, checkConsumerProgress ((s0.applyAll ws).tree (.children ps) labels) topic groupId
        name = .info i →
      i.partition ∈ ps ∧ highWatermark i.partition = some i.targetOffset ∧
        i.consumerOffset < i.targetOffset := by
  have htarget : targetNode ⟨topic, groupId, 0, some name⟩ = .snapshots name := by
    simp [targetNode, truthyName, Option.filter, hname]
  -- the snapshot node of a listed partition reads back its high watermark
  have hread : ∀ p ∈ ps, ∃ h, highWatermark p = some h ∧
      readOffset ((s0.applyAll ws).tree (.children ps) labels) p
        (targetNode ⟨topic, groupId, 0, some name⟩) = .ok h := by
    intro p hp
    obtain ⟨id, hid, rfl⟩ := hps p hp
    obtain ⟨h, hh, hs⟩ := snapshot_node_holds hmd hsucc hacked honly hid
    exact ⟨h, hh, by rw [htarget, readOffset_tree]; exact hs⟩
  refine ⟨fun hreached => ?_, fun i hi => ?_⟩
  · -- every partition passes
    refine (check_eq_success_iff _ _ rfl).mpr (.inl ((checkPartitions_eq_ok _ _).mpr ?_))
    intro p hp
    obtain ⟨os, hco, hge⟩ := hreached p hp
    obtain ⟨h, hh, hr⟩ := hread p hp
    exact (checkPartition_ok_iff _ _ p).mpr
      ⟨os, h, hco, hr, fun lv hlv => lagOf_le_zero.mpr (hge lv hlv h hh)⟩
  · -- the reported group lags at a listed partition, against its snapshot node
    obtain ⟨pre, p, post, rfl, -, hp⟩ :=
      ((checkPartitions_eq_error _ _).mp ((check_eq_info_iff _ _ rfl i).mp hi))
    obtain ⟨os, v, -, label, w, -, -, hr, -, -, hlag, rfl⟩ :=
      (checkPartition_condition_iff _ _ p i).mp hp
    obtain ⟨h, hh, hr'⟩ := hread p (by simp)
    rw [hr] at hr'
    cases hr'
    exact ⟨by simp [lagInfo], hh, lagOf_pos.mp hlag⟩

end AfterSnapshot

/-- The topic `backlog` with partitions 0 and 1. -/
def backlogTopics : List TopicMd := [⟨"backlog", [0, 1]⟩]

/-- A snapshot `s1` of `backlog` with both high watermarks at 100 and every write
acknowledged, then group `G`'s offsets, 100 on partition 0 and 90 on partition 1. -/
def snapshotWrites : List OffsetWrite :=
  (snapshotTopicOffsets (some backlogTopics) "backlog" "s1" (fun _ => some 100) fun _ => true).1 ++
    [⟨"0", .consumers "G", 100⟩, ⟨"1", .consumers "G", 90⟩]

/-- The Coordinator after those writes, from an empty topic node. -/
def snapshotTree : OffsetsTree :=
  (Store.applyAll ⟨fun _ _ => none⟩ snapshotWrites).tree (.children ["0", "1"]) fun _ => .noNode

theorem progress_after_snapshot_backlog :
    ((∀ p ∈ ["0", "1"], ∃ os, consumerOffsets snapshotTree ⟨"backlog", some "G", 0, some "s1"⟩ p =
        .ok os ∧ ∀ lv ∈ os, ∀ h ∈ some (100 : Int), h ≤ lv.2) →
      checkConsumerProgress snapshotTree "backlog" (some "G") "s1" = .success) ∧
    ∀ i, checkConsumerProgress snapshotTree "backlog" (some "G") "s1" = .info i →
      i.partition ∈ ["0", "1"] ∧ some (100 : Int) = some i.targetOffset ∧
        i.consumerOffset < i.targetOffset :=
  @progress_after_snapshot backlogTopics "backlog" "s1" ⟨"backlog", [0, 1]⟩ (fun _ => some 100)
    (fun _ => true) ⟨fun _ _ => none⟩ snapshotWrites rfl rfl
    (fun _ hw _ => List.mem_append_left _ hw) (by decide) ["0", "1"] (fun _ => .noNode) (some "G")
    (by decide) (by decide)

/-- Group `G` has not reached the snapshot on partition 1, and the check says so. -/
example : checkConsumerProgress snapshotTree "backlog" (some "G") "s1" =
    .info ⟨"backlog", "1", "G", 90, 10, 0, some "s1", 100⟩ := by decide

end Backbeat.Backlog
