import Backbeat.Backlog.Measure
import Backbeat.Backlog.Snapshot

/-!
# The checks after publish and snapshot runs

`publishConsumerBacklog` documents its use: "the consumer lag at this point in time can later be
checked with `checkConsumerLag()`"; `snapshotTopicOffsets` names the snapshot a later
`checkConsumerProgress` compares against. This module states what those checks report once the
runs' writes have landed on the Coordinator through `_publishOffset`, the check reading them
back through `getChildren` and `getData`.

* `lag_check_after_publish` — once the writes of a `publishConsumerBacklog` run have landed, in
  any order, on a topic whose nodes all sit under the run's partitions, `checkConsumerLag` for
  the run's group never calls back with an error: it succeeds exactly when every published lag is
  within `maxLag`, and otherwise reports a published partition that lags, with its two offsets;
* `check_reports_held_lag` — after any well-named offset writes, publish runs and snapshots
  landed in any order or only in part, the check never calls back with an error, and a lag it
  reports is one the nodes hold;
* `progress_check_after_snapshot` — once the writes of such a publish run and of a
  `snapshotTopicOffsets` of the same partitions have landed, interleaved in any order,
  `checkConsumerProgress` for the run's group never calls back with an error: it succeeds
  exactly when every published position has reached its partition's high watermark at snapshot
  time, and otherwise reports one that has not;
* `lag_check_all_groups` — `checkConsumerLag` with no group, after any well-named offset writes
  that give every written partition its topic offset, checks every group written on every
  partition: it succeeds exactly when every group's offset is within `maxLag` of its partition's
  topic offset, as the nodes hold them.

Each is proved on the node store (`check_writtenTree`, `check_writtenTree_held`) and carried to
the nodes by `check_tree_eq_writtenTree`. Writes of a publish run and of a snapshot land on
distinct nodes, and writes to one node agree, so the order they land in does not matter
(`Store.applyAll_offset_of_agree`).
-/

namespace Backbeat.Backlog

/-! ### The lag check after a publish -/

theorem mem_publishConsumerBacklog_some {ps : List Position} {topic groupId : String}
    {highWatermark : String → Option Int} {w : OffsetWrite}
    (hw : w ∈ publishConsumerBacklog (some ps) topic groupId highWatermark) :
    ∃ q ∈ ps, q.topic = topic ∧ ∃ o h, q.offset = some o ∧
      highWatermark (toString q.partition) = some h ∧ w.partition = toString q.partition ∧
      ((w.node = .consumers groupId ∧ w.value = o) ∨ (w.node = .topic ∧ w.value = h)) := by
  obtain ⟨_, hps, hq⟩ := mem_publishConsumerBacklog hw
  obtain rfl := Option.mem_some_iff.mp hps
  exact hq

section PublishRun

/- A run of `publishConsumerBacklog` for group `g` whose writes have all landed (`ws`), in any
order and interleaved with writes `X` to snapshot nodes, after earlier writes `W`; `W` and `X`
write only under the run's partitions. The positions of the topic name distinct partitions, and
every high watermark query was answered. -/
variable {ps : List Position} {topic g : String} {highWatermark : String → Option Int}
  {W X ws : List OffsetWrite}
  (hg : g ≠ "" ∧ '/' ∉ g.toList)
  (hnames : ((ps.filter fun q => q.topic = topic ∧ q.offset.isSome).map
    fun q => toString q.partition).Nodup)
  (hread : ∀ q ∈ ps, q.topic = topic → q.offset.isSome →
    (highWatermark (toString q.partition)).isSome)
  (hws : ws.Perm (publishConsumerBacklog (some ps) topic g highWatermark ++ X))
  (hW : ∀ w ∈ W ++ X, w.node.Named ∧
    ∃ q ∈ ps, q.topic = topic ∧ q.offset.isSome ∧ w.partition = toString q.partition)
  (hX : ∀ w ∈ X, ∃ s, w.node = .snapshots s)

include hws in
theorem publishRun_mem {w : OffsetWrite} (hw : w ∈ W ++ ws) :
    w ∈ publishConsumerBacklog (some ps) topic g highWatermark ∨ w ∈ W ++ X := by
  rcases List.mem_append.mp hw with hw | hw
  · exact .inr (List.mem_append_left _ hw)
  · exact (List.mem_append.mp (hws.subset hw)).imp_right (List.mem_append_right W)

include hg hws hW in
theorem publishRun_named : ∀ w ∈ W ++ ws, '/' ∉ w.partition.toList ∧ w.node.Named := by
  intro w hw
  rcases publishRun_mem hws hw with hw | hw
  · obtain ⟨q, _, _, _, _, _, _, hq, hn⟩ := mem_publishConsumerBacklog_some hw
    refine ⟨hq ▸ slash_not_mem_toString _, ?_⟩
    rcases hn with ⟨hn, -⟩ | ⟨hn, -⟩ <;> rw [hn]
    exacts [hg, trivial]
  · obtain ⟨hn, q, -, -, -, hq⟩ := hW w hw
    exact ⟨hq ▸ slash_not_mem_toString _, hn⟩

include hread hws hW in
/-- The partitions written are those of the positions of the topic with an offset. -/
theorem publishRun_partitions (p : String) :
    p ∈ (W ++ ws).map OffsetWrite.partition ↔
      ∃ q ∈ ps, q.topic = topic ∧ q.offset.isSome ∧ p = toString q.partition := by
  constructor
  · intro hp
    obtain ⟨w, hw, rfl⟩ := List.mem_map.mp hp
    rcases publishRun_mem hws hw with hw | hw
    · obtain ⟨q, hq, ht, o, -, ho, -, hq', -⟩ := mem_publishConsumerBacklog_some hw
      exact ⟨q, hq, ht, by simp [ho], hq'⟩
    · exact (hW w hw).2
  · rintro ⟨q, hq, ht, hsome, rfl⟩
    obtain ⟨o, ho⟩ := Option.isSome_iff_exists.mp hsome
    obtain ⟨h, hh⟩ := Option.isSome_iff_exists.mp (hread q hq ht hsome)
    exact List.mem_map.mpr ⟨_, List.mem_append_right _ (hws.symm.subset
      (List.mem_append_left _ (mem_publishConsumerBacklog_of hq ht ho hh).1)), rfl⟩

include hnames hws hX in
/-- A position's partition holds the position's offset for the group and the high watermark
read for it. -/
theorem publishRun_offsets {q : Position} (hq : q ∈ ps) (ht : q.topic = topic) {o h : Int}
    (ho : q.offset = some o) (hh : highWatermark (toString q.partition) = some h) :
    (Store.applyAll ⟨fun _ _ => none⟩ (W ++ ws)).offset (toString q.partition) (.consumers g) =
        some o ∧
      (Store.applyAll ⟨fun _ _ => none⟩ (W ++ ws)).offset (toString q.partition) .topic = some h := by
  obtain ⟨hc, htop⟩ := @mem_publishConsumerBacklog_of _ _ g _ _ hq ht _ _ ho hh
  -- the snapshot writes hold neither the group's offset nor the topic's
  have hrun : ∀ w ∈ ws, w.node = .consumers g ∨ w.node = .topic →
      w ∈ publishConsumerBacklog (some ps) topic g highWatermark := fun w hw hn =>
    (List.mem_append.mp (hws.subset hw)).resolve_right fun hx => by
      obtain ⟨s, hs⟩ := hX w hx
      rcases hn with hn | hn <;> rw [hn] at hs <;> cases hs
  rw [Store.applyAll, List.foldl_append, ← Store.applyAll, ← Store.applyAll]
  refine ⟨Store.applyAll_offset_of_agree (hws.symm.subset (List.mem_append_left _ hc))
      fun w hw hp hn => ?_,
    Store.applyAll_offset_of_agree (hws.symm.subset (List.mem_append_left _ htop))
      fun w hw hp hn => ?_⟩
  · -- one position per partition name: the consumer offset written is `q`'s
    obtain ⟨q', hq', ht', o', h', ho', -, hp', hv⟩ :=
      mem_publishConsumerBacklog_some (hrun w hw (.inl hn))
    rcases hv with ⟨-, rfl⟩ | ⟨hn', -⟩
    · have hsel : ∀ {r}, r ∈ ps → r.topic = topic → ∀ {x}, r.offset = some x →
          r ∈ ps.filter fun q => q.topic = topic ∧ q.offset.isSome := fun hr hrt _ hrx =>
        List.mem_filter.mpr ⟨hr, by simp [hrt, hrx]⟩
      have : q' = q := List.inj_on_of_nodup_map hnames (hsel hq' ht' ho') (hsel hq ht ho)
        (hp'.symm.trans hp)
      subst this
      rw [ho'] at ho
      exact Option.some.inj ho
    · rw [hn] at hn'; cases hn'
  · -- the high watermark is read by partition name
    obtain ⟨q', -, -, o', h', -, hh', hp', hv⟩ :=
      mem_publishConsumerBacklog_some (hrun w hw (.inr hn))
    rcases hv with ⟨hn', -⟩ | ⟨-, rfl⟩
    · rw [hn] at hn'; cases hn'
    · dsimp only at hp ⊢
      rw [← hp, hp', hh'] at hh
      exact Option.some.inj hh

include hread hnames hws hW hX in
/-- A partition the writes created is a published position's, and holds the position's offset
for the group and its high watermark. -/
theorem publishRun_covered {p : String} (hp : p ∈ (W ++ ws).map OffsetWrite.partition) :
    ∃ q ∈ ps, q.topic = topic ∧ ∃ o h, q.offset = some o ∧
      highWatermark (toString q.partition) = some h ∧ p = toString q.partition ∧
      (Store.applyAll ⟨fun _ _ => none⟩ (W ++ ws)).offset p (.consumers g) = some o ∧
      (Store.applyAll ⟨fun _ _ => none⟩ (W ++ ws)).offset p .topic = some h := by
  obtain ⟨q, hq, ht, hsome, rfl⟩ := (publishRun_partitions hread hws hW p).mp hp
  obtain ⟨o, ho⟩ := Option.isSome_iff_exists.mp hsome
  obtain ⟨h, hh⟩ := Option.isSome_iff_exists.mp (hread q hq ht hsome)
  exact ⟨q, hq, ht, o, h, ho, hh, rfl, publishRun_offsets hnames hws hX hq ht ho hh⟩

include hread hnames hws hW hX in
/-- A partition that holds an offset for the group holds a published position's offset. -/
theorem publishRun_of_offset {p : String} {o : Int}
    (hc : (Store.applyAll ⟨fun _ _ => none⟩ (W ++ ws)).offset p (.consumers g) = some o) :
    ∃ q ∈ ps, q.topic = topic ∧ ∃ h, q.offset = some o ∧
      highWatermark (toString q.partition) = some h ∧ p = toString q.partition ∧
      (Store.applyAll ⟨fun _ _ => none⟩ (W ++ ws)).offset p .topic = some h := by
  obtain ⟨w, hw, rfl, -⟩ := applyAll_empty_offset_isSome.mp (Option.isSome_iff_exists.mpr ⟨o, hc⟩)
  obtain ⟨q, hq, ht, o', h, ho, hh, hpq, hc', htop⟩ :=
    publishRun_covered hnames hread hws hW hX (List.mem_map_of_mem _ hw)
  rw [hc, Option.some_inj] at hc'
  subst hc'
  exact ⟨q, hq, ht, h, ho, hh, hpq, htop⟩

end PublishRun

/-- **The lag check after a publish.** Take a `publishConsumerBacklog` run for group `g`, a name
that is non-empty and holds no `/`, over positions of the topic that name distinct partitions,
every high watermark query answered. Once its writes have landed on the Coordinator, in any
order, after earlier writes of well-named nodes under the run's partitions only, and whatever
order the Coordinator lists children in, `checkConsumerLag(topic, g, maxLag)` never calls back
with an error. It succeeds exactly when every published position is within `maxLag` of its
partition's high watermark, and otherwise reports a published position that is not, with its
offset and high watermark. -/
theorem lag_check_after_publish {ps : List Position} {topic g zkPath : String}
    {highWatermark : String → Option Int} {W ws : List OffsetWrite}
    {onTheWay : List String → NodeRead} {order : List String → List String → List String}
    (maxLag : Int) (hg : g ≠ "" ∧ '/' ∉ g.toList)
    (hnames : ((ps.filter fun q => q.topic = topic ∧ q.offset.isSome).map
      fun q => toString q.partition).Nodup)
    (hread : ∀ q ∈ ps, q.topic = topic → q.offset.isSome →
      (highWatermark (toString q.partition)).isSome)
    (hws : ws.Perm (publishConsumerBacklog (some ps) topic g highWatermark))
    (hW : ∀ w ∈ W, w.node.Named ∧
      ∃ q ∈ ps, q.topic = topic ∧ q.offset.isSome ∧ w.partition = toString q.partition)
    (horder : ∀ n ls, (order n ls).Perm ls) :
    (checkConsumerLag (((W ++ ws).foldl (Znodes.publishWrite zkPath topic)
        ⟨[], onTheWay, order⟩).tree zkPath topic) topic (some g) maxLag = .success ↔
      ∀ q ∈ ps, q.topic = topic → ∀ o ∈ q.offset, ∀ h ∈ highWatermark (toString q.partition),
        lagOf h o ≤ maxLag) ∧
    (∀ i, checkConsumerLag (((W ++ ws).foldl (Znodes.publishWrite zkPath topic)
        ⟨[], onTheWay, order⟩).tree zkPath topic) topic (some g) maxLag = .info i →
      ∃ q ∈ ps, q.topic = topic ∧ ∃ o h, q.offset = some o ∧
        highWatermark (toString q.partition) = some h ∧ maxLag < lagOf h o ∧
        i = ⟨topic, toString q.partition, g, o, lagOf h o, maxLag, none, h⟩) ∧
    checkConsumerLag (((W ++ ws).foldl (Znodes.publishWrite zkPath topic)
        ⟨[], onTheWay, order⟩).tree zkPath topic) topic (some g) maxLag ≠ .error := by
  have htruthy : truthyName (some g) = some g := by simp [truthyName, Option.filter, hg.1]
  -- the run, with no snapshot writes among it
  have hws' : ws.Perm (publishConsumerBacklog (some ps) topic g highWatermark ++ []) := by
    rwa [List.append_nil]
  have hW' : ∀ w ∈ W ++ [], w.node.Named ∧
      ∃ q ∈ ps, q.topic = topic ∧ q.offset.isSome ∧ w.partition = toString q.partition := by
    rwa [List.append_nil]
  have hX : ∀ w ∈ ([] : List OffsetWrite), ∃ s, w.node = .snapshots s := fun _ => nofun
  unfold checkConsumerLag
  rw [check_tree_eq_writtenTree (publishRun_named hg hws' hW') _
    (fun n ls x hx => (horder n ls).subset hx)
    (fun g' hg' => by rw [htruthy] at hg'; cases hg'; exact hg.2) (fun s hs => by cases hs)]
  -- every partition written holds the group's offset and the topic offset
  obtain ⟨hsucc, hinfo, herr⟩ := check_group_writtenTree (fun _ => horder _ _)
    (c := ⟨topic, some g, maxLag, none⟩) htruthy fun w hw => by
      obtain ⟨-, -, -, o, h, -, -, -, hc, ht⟩ :=
        publishRun_covered hnames hread hws' hW' hX (List.mem_map_of_mem _ hw)
      exact ⟨o, h, hc, ht⟩
  have htarget : targetNode ⟨topic, some g, maxLag, none⟩ = .topic := rfl
  rw [htarget] at hsucc hinfo
  refine ⟨hsucc.trans ⟨fun hall q hq ht o ho h hh => ?_, fun hall p o h hc htop => ?_⟩,
    fun i hi => ?_, herr⟩
  · exact hall _ o h (publishRun_offsets hnames hws' hX hq ht ho hh).1
      (publishRun_offsets hnames hws' hX hq ht ho hh).2
  · obtain ⟨q, hq, ht, h', ho, hh, rfl, htop'⟩ := publishRun_of_offset hnames hread hws' hW' hX hc
    rw [htop, Option.some_inj] at htop'
    subst htop'
    exact hall q hq ht o ho h hh
  · obtain ⟨p, o, h, hc, htop, hlag, rfl⟩ := hinfo i hi
    obtain ⟨q, hq, ht, h', ho, hh, rfl, htop'⟩ := publishRun_of_offset hnames hread hws' hW' hX hc
    rw [htop, Option.some_inj] at htop'
    subst htop'
    exact ⟨q, hq, ht, o, h, ho, hh, hlag, rfl⟩

/-- Group `G` on partitions 0 and 1 of the topic `backlog`, at 90 and 100. -/
def groupPositions : List Position := [⟨"backlog", 0, some 90⟩, ⟨"backlog", 1, some 100⟩]

/-- Its publish with both high watermarks at 100. -/
def groupPublish : List OffsetWrite :=
  publishConsumerBacklog (some groupPositions) "backlog" "G" fun _ => some 100

theorem lag_check_after_publish_groupPublish :
    (checkConsumerLag ((([] ++ groupPublish).foldl
        (Znodes.publishWrite "/backbeat/backlog-metrics" "backlog") emptyZnodes).tree
          "/backbeat/backlog-metrics" "backlog") "backlog" (some "G") 5 = .success ↔
      ∀ q ∈ groupPositions, q.topic = "backlog" → ∀ o ∈ q.offset,
        ∀ h ∈ (fun _ => some 100 : String → Option Int) (toString q.partition), lagOf h o ≤ 5) ∧
    (∀ i, checkConsumerLag ((([] ++ groupPublish).foldl
        (Znodes.publishWrite "/backbeat/backlog-metrics" "backlog") emptyZnodes).tree
          "/backbeat/backlog-metrics" "backlog") "backlog" (some "G") 5 = .info i →
      ∃ q ∈ groupPositions, q.topic = "backlog" ∧ ∃ o h, q.offset = some o ∧
        (fun _ => some 100 : String → Option Int) (toString q.partition) = some h ∧
        5 < lagOf h o ∧ i = ⟨"backlog", toString q.partition, "G", o, lagOf h o, 5, none, h⟩) ∧
    checkConsumerLag ((([] ++ groupPublish).foldl
        (Znodes.publishWrite "/backbeat/backlog-metrics" "backlog") emptyZnodes).tree
          "/backbeat/backlog-metrics" "backlog") "backlog" (some "G") 5 ≠ .error :=
  lag_check_after_publish 5 (by decide) (by decide) (by decide) (.refl _) (by simp)
    fun _ _ => .refl _

/-- Partition 0 lags by 10, and the check reports it. -/
example : checkConsumerLag ((groupPublish.foldl
    (Znodes.publishWrite "/backbeat/backlog-metrics" "backlog") emptyZnodes).tree
      "/backbeat/backlog-metrics" "backlog") "backlog" (some "G") 5 =
    .info ⟨"backlog", "0", "G", 90, 10, 5, none, 100⟩ := rfl

/-! ### The check on writes in flight -/

/-- **The check raises no false alarm.** After any offset writes whose partitions hold no `/`
and whose labels name one node each, on a topic with no node yet (publish runs and snapshots of
any groups, landed in any order or only in part), and whatever the Coordinator's listings hold
of what was written, a check whose group and snapshot names hold no `/` never calls back with
an error. A lag it reports is one the nodes hold: the reported group is the check's group when
it names one, the consumer offset and the target offset are what the nodes of the reported
partition hold, and their lag is above `maxLag`. -/
theorem check_reports_held_lag {ws : List OffsetWrite} {onTheWay : List String → NodeRead}
    {order : List String → List String → List String} {zkPath topic : String} (c : CheckParams)
    (hws : ∀ w ∈ ws, '/' ∉ w.partition.toList ∧ w.node.Named)
    (horder : ∀ n ls, ∀ x ∈ order n ls, x ∈ ls)
    (hg : ∀ g ∈ truthyName c.groupId, '/' ∉ g.toList)
    (hs : ∀ s ∈ truthyName c.snapshotName, '/' ∉ s.toList) :
    checkConsumerOffsetsGeneric ((ws.foldl (Znodes.publishWrite zkPath topic)
        ⟨[], onTheWay, order⟩).tree zkPath topic) c ≠ .error ∧
    ∀ i, checkConsumerOffsetsGeneric ((ws.foldl (Znodes.publishWrite zkPath topic)
        ⟨[], onTheWay, order⟩).tree zkPath topic) c = .info i →
      (∀ g ∈ truthyName c.groupId, i.groupId = g) ∧
      (Store.applyAll ⟨fun _ _ => none⟩ ws).offset i.partition (.consumers i.groupId) =
        some i.consumerOffset ∧
      (Store.applyAll ⟨fun _ _ => none⟩ ws).offset i.partition (targetNode c) =
        some i.targetOffset ∧
      c.maxLag < i.lag ∧ i = lagInfo c i.partition i.targetOffset i.groupId i.consumerOffset := by
  rw [check_tree_eq_writtenTree hws c horder hg hs]
  exact check_writtenTree_held c

/-- The first three writes of `groupPublish`: partition 0's two offsets, then partition 1's
consumer offset, its topic offset still in flight. -/
def groupPublishInFlight : List OffsetWrite := groupPublish.take 3

theorem check_reports_held_lag_groupPublishInFlight :
    checkConsumerOffsetsGeneric ((groupPublishInFlight.foldl
        (Znodes.publishWrite "/backbeat/backlog-metrics" "backlog") emptyZnodes).tree
          "/backbeat/backlog-metrics" "backlog") ⟨"backlog", some "G", 5, none⟩ ≠ .error ∧
    ∀ i, checkConsumerOffsetsGeneric ((groupPublishInFlight.foldl
        (Znodes.publishWrite "/backbeat/backlog-metrics" "backlog") emptyZnodes).tree
          "/backbeat/backlog-metrics" "backlog") ⟨"backlog", some "G", 5, none⟩ = .info i →
      (∀ g ∈ truthyName (some "G"), i.groupId = g) ∧
      (Store.applyAll ⟨fun _ _ => none⟩ groupPublishInFlight).offset i.partition
        (.consumers i.groupId) = some i.consumerOffset ∧
      (Store.applyAll ⟨fun _ _ => none⟩ groupPublishInFlight).offset i.partition
        (targetNode ⟨"backlog", some "G", 5, none⟩) = some i.targetOffset ∧
      5 < i.lag ∧
        i = lagInfo ⟨"backlog", some "G", 5, none⟩ i.partition i.targetOffset i.groupId
          i.consumerOffset :=
  check_reports_held_lag ⟨"backlog", some "G", 5, none⟩ (by decide) (fun _ _ _ h => h)
    (by decide) (by decide)

/-- With only partition 0's consumer offset landed, the check stops at its missing topic node
and succeeds, though that offset lags by 10: on writes in flight the check is sound, not
complete. -/
example : checkConsumerLag (((groupPublish.take 1).foldl
    (Znodes.publishWrite "/backbeat/backlog-metrics" "backlog") emptyZnodes).tree
      "/backbeat/backlog-metrics" "backlog") "backlog" (some "G") 5 = .success := rfl

/-! ### The progress check after a publish and a snapshot -/

section SnapshotRun

/- A snapshot of the topic under a name that is non-empty and holds no `/`, that called back
with no error and snapshotted exactly the partitions of the positions of the topic with an
offset. -/
variable {ps : List Position} {topics : List TopicMd} {md : TopicMd} {topic name : String}
  {snapshotWatermark : String → Option Int} {acked : OffsetWrite → Bool}
  (hname : name ≠ "" ∧ '/' ∉ name.toList)
  (hmd : topics.find? (fun t => t.name = topic) = some md)
  (hsnap : (snapshotTopicOffsets (some topics) topic name snapshotWatermark acked).2 = true)
  (hsame : ∀ id, id ∈ md.partitions ↔
    ∃ q ∈ ps, q.topic = topic ∧ q.offset.isSome ∧ q.partition = id)

include hname hmd hsame in
/-- The snapshot writes well-named nodes under the positions' partitions. -/
theorem snapshotRun_placed :
    ∀ w ∈ (snapshotTopicOffsets (some topics) topic name snapshotWatermark acked).1,
      w.node.Named ∧
        ∃ q ∈ ps, q.topic = topic ∧ q.offset.isSome ∧ w.partition = toString q.partition := by
  intro w hw
  obtain ⟨id, hid, h, -, rfl⟩ := (mem_snapshotTopicOffsets hmd).mp hw
  obtain ⟨q, hq, ht, hsome, rfl⟩ := (hsame id).mp hid
  exact ⟨hname, q, hq, ht, hsome, rfl⟩

include hmd in
theorem snapshotRun_nodes :
    ∀ w ∈ (snapshotTopicOffsets (some topics) topic name snapshotWatermark acked).1,
      ∃ s, w.node = .snapshots s := fun w hw => by
  obtain ⟨-, -, -, -, rfl⟩ := (mem_snapshotTopicOffsets hmd).mp hw
  exact ⟨name, rfl⟩

include hmd hsnap hsame in
/-- Once the snapshot's writes have landed among a publish run's, a position's partition holds
the high watermark the snapshot read for it. -/
theorem snapshotRun_target {g : String} {highWatermark : String → Option Int}
    {W ws : List OffsetWrite}
    (hws : ws.Perm (publishConsumerBacklog (some ps) topic g highWatermark ++
      (snapshotTopicOffsets (some topics) topic name snapshotWatermark acked).1))
    {q : Position} (hq : q ∈ ps) (ht : q.topic = topic) (hsome : q.offset.isSome) :
    ∃ h, snapshotWatermark (toString q.partition) = some h ∧
      (Store.applyAll ⟨fun _ _ => none⟩ (W ++ ws)).offset (toString q.partition)
        (.snapshots name) = some h := by
  -- the publish writes the group's and the topic's nodes only
  have honly : ∀ w ∈ ws, w.node = .snapshots name →
      w ∈ (snapshotTopicOffsets (some topics) topic name snapshotWatermark acked).1 :=
    fun w hw hn => by
      rcases List.mem_append.mp (hws.subset hw) with hp | hs
      · obtain ⟨_, -, -, _, _, -, -, -, hv⟩ := mem_publishConsumerBacklog_some hp
        rcases hv with ⟨hn', -⟩ | ⟨hn', -⟩ <;> rw [hn] at hn' <;> cases hn'
      · exact hs
  rw [Store.applyAll, List.foldl_append, ← Store.applyAll, ← Store.applyAll]
  exact snapshot_node_holds hmd hsnap (fun w hw _ => hws.symm.subset (List.mem_append_right _ hw))
    honly ((hsame _).mpr ⟨q, hq, ht, hsome, rfl⟩)

end SnapshotRun

/-- **The progress check after a publish and a snapshot.** Take a `publishConsumerBacklog` run
for group `g` as in `lag_check_after_publish`, and a `snapshotTopicOffsets` of the topic under a
name that is non-empty and holds no `/`, that called back with no error and snapshotted exactly
the partitions the run published. Once the writes of both have landed on the Coordinator,
interleaved in any order, after earlier writes of well-named nodes under the run's partitions,
and whatever order the Coordinator lists children in, `checkConsumerProgress(topic, g, name)`
never calls back with an error. It succeeds exactly when every published position has reached
its partition's high watermark at snapshot time, and otherwise reports a published position
below it, with its offset and that watermark. -/
theorem progress_check_after_snapshot {ps : List Position} {topics : List TopicMd}
    {md : TopicMd} {topic g name zkPath : String}
    {highWatermark snapshotWatermark : String → Option Int} {acked : OffsetWrite → Bool}
    {W ws : List OffsetWrite} {onTheWay : List String → NodeRead}
    {order : List String → List String → List String}
    (hg : g ≠ "" ∧ '/' ∉ g.toList) (hname : name ≠ "" ∧ '/' ∉ name.toList)
    (hnames : ((ps.filter fun q => q.topic = topic ∧ q.offset.isSome).map
      fun q => toString q.partition).Nodup)
    (hread : ∀ q ∈ ps, q.topic = topic → q.offset.isSome →
      (highWatermark (toString q.partition)).isSome)
    (hmd : topics.find? (fun t => t.name = topic) = some md)
    (hsnap : (snapshotTopicOffsets (some topics) topic name snapshotWatermark acked).2 = true)
    (hsame : ∀ id, id ∈ md.partitions ↔
      ∃ q ∈ ps, q.topic = topic ∧ q.offset.isSome ∧ q.partition = id)
    (hws : ws.Perm (publishConsumerBacklog (some ps) topic g highWatermark ++
      (snapshotTopicOffsets (some topics) topic name snapshotWatermark acked).1))
    (hW : ∀ w ∈ W, w.node.Named ∧
      ∃ q ∈ ps, q.topic = topic ∧ q.offset.isSome ∧ w.partition = toString q.partition)
    (horder : ∀ n ls, (order n ls).Perm ls) :
    (checkConsumerProgress (((W ++ ws).foldl (Znodes.publishWrite zkPath topic)
        ⟨[], onTheWay, order⟩).tree zkPath topic) topic (some g) name = .success ↔
      ∀ q ∈ ps, q.topic = topic → ∀ o ∈ q.offset,
        ∀ h ∈ snapshotWatermark (toString q.partition), h ≤ o) ∧
    (∀ i, checkConsumerProgress (((W ++ ws).foldl (Znodes.publishWrite zkPath topic)
        ⟨[], onTheWay, order⟩).tree zkPath topic) topic (some g) name = .info i →
      ∃ q ∈ ps, q.topic = topic ∧ ∃ o h, q.offset = some o ∧
        snapshotWatermark (toString q.partition) = some h ∧ o < h ∧
        i = ⟨topic, toString q.partition, g, o, lagOf h o, 0, some name, h⟩) ∧
    checkConsumerProgress (((W ++ ws).foldl (Znodes.publishWrite zkPath topic)
        ⟨[], onTheWay, order⟩).tree zkPath topic) topic (some g) name ≠ .error := by
  have htruthy : truthyName (some g) = some g := by simp [truthyName, Option.filter, hg.1]
  have hsnapName : truthyName (some name) = some name := by
    simp [truthyName, Option.filter, hname.1]
  have htarget : targetNode ⟨topic, some g, 0, some name⟩ = .snapshots name := by
    simp [targetNode, hsnapName]
  have hW' : ∀ w ∈ W ++ (snapshotTopicOffsets (some topics) topic name snapshotWatermark acked).1,
      w.node.Named ∧ ∃ q ∈ ps, q.topic = topic ∧ q.offset.isSome ∧
        w.partition = toString q.partition := fun w hw =>
    (List.mem_append.mp hw).elim (hW w) (snapshotRun_placed hname hmd hsame w)
  unfold checkConsumerProgress
  rw [check_tree_eq_writtenTree (publishRun_named hg hws hW') _
    (fun n ls x hx => (horder n ls).subset hx)
    (fun g' hg' => by rw [htruthy] at hg'; cases hg'; exact hg.2)
    (fun s hs => by rw [hsnapName] at hs; cases hs; exact hname.2)]
  -- every partition written holds the group's offset and its snapshot offset
  obtain ⟨hsucc, hinfo, herr⟩ := check_group_writtenTree (fun _ => horder _ _)
    (c := ⟨topic, some g, 0, some name⟩) htruthy fun w hw => by
      obtain ⟨q, hq, ht, o, -, ho, -, hp, hc, -⟩ := publishRun_covered hnames hread hws hW'
        (snapshotRun_nodes hmd) (List.mem_map_of_mem _ hw)
      obtain ⟨h, -, hs⟩ := snapshotRun_target hmd hsnap hsame hws hq ht (by simp [ho])
      refine ⟨o, h, hc, ?_⟩
      rw [htarget, hp]
      exact hs
  rw [htarget] at hsucc hinfo
  -- a partition holding the group's offset and a snapshot offset is a published position's
  have hback : ∀ p o h,
      (Store.applyAll ⟨fun _ _ => none⟩ (W ++ ws)).offset p (.consumers g) = some o →
      (Store.applyAll ⟨fun _ _ => none⟩ (W ++ ws)).offset p (.snapshots name) = some h →
      ∃ q ∈ ps, q.topic = topic ∧ q.offset = some o ∧
        snapshotWatermark (toString q.partition) = some h ∧ p = toString q.partition :=
    fun p o h hc hs => by
      obtain ⟨q, hq, ht, -, ho, -, rfl, -⟩ :=
        publishRun_of_offset hnames hread hws hW' (snapshotRun_nodes hmd) hc
      obtain ⟨h', hsw, hs'⟩ := snapshotRun_target hmd hsnap hsame hws hq ht (by simp [ho])
      rw [hs, Option.some_inj] at hs'
      subst hs'
      exact ⟨q, hq, ht, ho, hsw, rfl⟩
  refine ⟨hsucc.trans ⟨fun hall q hq ht o ho h hh => ?_, fun hall p o h hc hs => ?_⟩,
    fun i hi => ?_, herr⟩
  · obtain ⟨h', hh'⟩ := Option.isSome_iff_exists.mp
      (hread q hq ht (Option.isSome_iff_exists.mpr ⟨o, ho⟩))
    obtain ⟨h'', hsw, hs⟩ := snapshotRun_target hmd hsnap hsame hws hq ht
      (Option.isSome_iff_exists.mpr ⟨o, ho⟩)
    rw [Option.mem_def.mp hh, Option.some_inj] at hsw
    subst hsw
    exact lagOf_le_zero.mp
      (hall _ o h (publishRun_offsets hnames hws (snapshotRun_nodes hmd) hq ht ho hh').1 hs)
  · obtain ⟨q, hq, ht, ho, hsw, rfl⟩ := hback p o h hc hs
    exact lagOf_le_zero.mpr (hall q hq ht o ho h hsw)
  · obtain ⟨p, o, h, hc, hs, hlag, rfl⟩ := hinfo i hi
    obtain ⟨q, hq, ht, ho, hsw, rfl⟩ := hback p o h hc hs
    exact ⟨q, hq, ht, o, h, ho, hsw, lagOf_pos.mp hlag, by simp only [lagInfo, hsnapName]⟩

/-- A snapshot `s1` of `backlog` with both high watermarks at 100, landed before the publish of
`groupPositions`. -/
def snapshotThenPublish : List OffsetWrite :=
  (snapshotTopicOffsets (some backlogTopics) "backlog" "s1" (fun _ => some 100) fun _ => true).1 ++
    groupPublish

theorem progress_check_after_snapshot_snapshotThenPublish :
    (checkConsumerProgress ((([] ++ snapshotThenPublish).foldl
        (Znodes.publishWrite "/backbeat/backlog-metrics" "backlog") emptyZnodes).tree
          "/backbeat/backlog-metrics" "backlog") "backlog" (some "G") "s1" = .success ↔
      ∀ q ∈ groupPositions, q.topic = "backlog" → ∀ o ∈ q.offset,
        ∀ h ∈ (fun _ => some 100 : String → Option Int) (toString q.partition), h ≤ o) ∧
    (∀ i, checkConsumerProgress ((([] ++ snapshotThenPublish).foldl
        (Znodes.publishWrite "/backbeat/backlog-metrics" "backlog") emptyZnodes).tree
          "/backbeat/backlog-metrics" "backlog") "backlog" (some "G") "s1" = .info i →
      ∃ q ∈ groupPositions, q.topic = "backlog" ∧ ∃ o h, q.offset = some o ∧
        (fun _ => some 100 : String → Option Int) (toString q.partition) = some h ∧ o < h ∧
        i = ⟨"backlog", toString q.partition, "G", o, lagOf h o, 0, some "s1", h⟩) ∧
    checkConsumerProgress ((([] ++ snapshotThenPublish).foldl
        (Znodes.publishWrite "/backbeat/backlog-metrics" "backlog") emptyZnodes).tree
          "/backbeat/backlog-metrics" "backlog") "backlog" (some "G") "s1" ≠ .error :=
  @progress_check_after_snapshot groupPositions backlogTopics ⟨"backlog", [0, 1]⟩ "backlog" "G"
    "s1" "/backbeat/backlog-metrics" (fun _ => some 100) (fun _ => some 100) (fun _ => true) []
    snapshotThenPublish _ _ (by decide) (by decide) (by decide) (by decide) rfl rfl
    (fun _ => by simp [groupPositions]; omega) List.perm_append_comm (by simp) fun _ _ => .refl _

/-- Group `G`, at 90 on partition 0, has not reached the snapshot's 100 there. -/
example : checkConsumerProgress ((snapshotThenPublish.foldl
    (Znodes.publishWrite "/backbeat/backlog-metrics" "backlog") emptyZnodes).tree
      "/backbeat/backlog-metrics" "backlog") "backlog" (some "G") "s1" =
    .info ⟨"backlog", "0", "G", 90, 10, 0, some "s1", 100⟩ := rfl

/-! ### The lag check of every group -/

/-- **The lag check of every group.** After offset writes whose partitions hold no `/` and whose
labels name one node each, on a topic with no node yet, where every written partition also got
its topic offset, `checkConsumerLag(topic, null, maxLag)` reads every group written on every
partition, whatever order the Coordinator lists children in. It never calls back with an error;
it succeeds exactly when the offset the nodes hold for every group on every partition is within
`maxLag` of the partition's topic offset, and otherwise reports a group that is not, with the
two offsets. -/
theorem lag_check_all_groups {ws : List OffsetWrite} {onTheWay : List String → NodeRead}
    {order : List String → List String → List String} {zkPath topic : String} (maxLag : Int)
    (hws : ∀ w ∈ ws, '/' ∉ w.partition.toList ∧ w.node.Named)
    (htopic : ∀ w ∈ ws, ∃ w' ∈ ws, w'.partition = w.partition ∧ w'.node = .topic)
    (horder : ∀ n ls, (order n ls).Perm ls) :
    (checkConsumerLag ((ws.foldl (Znodes.publishWrite zkPath topic) ⟨[], onTheWay, order⟩).tree
        zkPath topic) topic none maxLag = .success ↔
      ∀ p l o h, (Store.applyAll ⟨fun _ _ => none⟩ ws).offset p (.consumers l) = some o →
        (Store.applyAll ⟨fun _ _ => none⟩ ws).offset p .topic = some h → lagOf h o ≤ maxLag) ∧
    (∀ i, checkConsumerLag ((ws.foldl (Znodes.publishWrite zkPath topic)
        ⟨[], onTheWay, order⟩).tree zkPath topic) topic none maxLag = .info i →
      ∃ p l o h, (Store.applyAll ⟨fun _ _ => none⟩ ws).offset p (.consumers l) = some o ∧
        (Store.applyAll ⟨fun _ _ => none⟩ ws).offset p .topic = some h ∧ maxLag < lagOf h o ∧
        i = ⟨topic, p, l, o, lagOf h o, maxLag, none, h⟩) ∧
    checkConsumerLag ((ws.foldl (Znodes.publishWrite zkPath topic) ⟨[], onTheWay, order⟩).tree
        zkPath topic) topic none maxLag ≠ .error := by
  unfold checkConsumerLag
  rw [check_tree_eq_writtenTree hws _ (fun n ls x hx => (horder n ls).subset hx)
    (fun g hg => by cases hg) (fun s hs => by cases hs)]
  -- every group written on a partition is read, and every partition written holds its topic
  -- offset
  simpa only [true_implies, true_and] using
    check_writtenTree (fun ls => horder (zkNode (getPartitionsOffsetsZkPath zkPath topic)) ls)
      (c := ⟨topic, none, maxLag, none⟩) (fun _ => True)
      (fun p => order (zkNode (getPartitionsOffsetsZkPath zkPath topic) ++ [p, "consumers"])
        (consumerLabelsOf ws p).dedup)
      (fun w _ => consumerOffsets_writtenTree_none (fun _ _ => horder _ _)
        (c := ⟨topic, none, maxLag, none⟩) rfl w.partition)
      (fun w _ l => by
        rw [(horder _ _).mem_iff, List.mem_dedup, mem_consumerLabelsOf, true_and,
          applyAll_empty_offset_isSome])
      fun w hw => by
        obtain ⟨w', hw', hp, hn⟩ := htopic w hw
        exact applyAll_empty_offset_isSome.mpr ⟨w', hw', hp, hn⟩

/-- Group `G`'s publish, then group `H`'s, at 95 and 100, with the same high watermarks. -/
def twoGroupWrites : List OffsetWrite :=
  groupPublish ++ publishConsumerBacklog (some [⟨"backlog", 0, some 95⟩, ⟨"backlog", 1, some 100⟩])
    "backlog" "H" fun _ => some 100

theorem lag_check_all_groups_twoGroupWrites :
    (checkConsumerLag ((twoGroupWrites.foldl
        (Znodes.publishWrite "/backbeat/backlog-metrics" "backlog") emptyZnodes).tree
          "/backbeat/backlog-metrics" "backlog") "backlog" none 5 = .success ↔
      ∀ p l o h, (Store.applyAll ⟨fun _ _ => none⟩ twoGroupWrites).offset p (.consumers l) = some o →
        (Store.applyAll ⟨fun _ _ => none⟩ twoGroupWrites).offset p .topic = some h →
          lagOf h o ≤ 5) ∧
    (∀ i, checkConsumerLag ((twoGroupWrites.foldl
        (Znodes.publishWrite "/backbeat/backlog-metrics" "backlog") emptyZnodes).tree
          "/backbeat/backlog-metrics" "backlog") "backlog" none 5 = .info i →
      ∃ p l o h, (Store.applyAll ⟨fun _ _ => none⟩ twoGroupWrites).offset p (.consumers l) = some o ∧
        (Store.applyAll ⟨fun _ _ => none⟩ twoGroupWrites).offset p .topic = some h ∧
        5 < lagOf h o ∧ i = ⟨"backlog", p, l, o, lagOf h o, 5, none, h⟩) ∧
    checkConsumerLag ((twoGroupWrites.foldl
        (Znodes.publishWrite "/backbeat/backlog-metrics" "backlog") emptyZnodes).tree
          "/backbeat/backlog-metrics" "backlog") "backlog" none 5 ≠ .error :=
  lag_check_all_groups 5 (by decide) (by decide) fun _ _ => .refl _

/-- Within 10, both groups pass on both partitions. -/
example : checkConsumerLag ((twoGroupWrites.foldl
    (Znodes.publishWrite "/backbeat/backlog-metrics" "backlog") emptyZnodes).tree
      "/backbeat/backlog-metrics" "backlog") "backlog" none 10 = .success := rfl

end Backbeat.Backlog
