import Backbeat.Backlog.Check

/-!
# Publishing the backlog while a check reads it

`publishConsumerBacklog(consumer, topic, groupId)` writes, for each partition the consumer
holds a position in, the position to `consumers/<groupId>` and the partition's high watermark
to `topic`. The two writes are the two tasks of one `async.parallel`, issued consumer first and
with nothing ordering them; the Coordinator applies one session's requests in the order they
were sent, so the consumer offset usually lands first. A concurrent `checkConsumerLag(topic,
groupId, maxLag)` reads each partition's consumer offset, then, once that read has answered,
its topic offset (`checkPartition`).

The run is modelled by the writes the publisher issues (`publishConsumerBacklog`), the writes
the Coordinator applies, in the order it applies them (`ws`: any of the issued writes, in any
order, since every write may fail and the partitions run ten at a time), and the two reads of
one partition by the check, after the first `a` and the first `b` applied writes, `a ≤ b`.

Between the two writes of a partition the Coordinator holds the new consumer offset with the
old topic offset, and a check whose two reads fall there sees the consumer ahead of the topic
(`consumer_offset_lands_first`). `lag_check_ahead_between_writes` shows that this window is the
only way: a check that reads a consumer offset above the topic offset read the consumer node
after the publisher's consumer write and the topic node before its topic write, so the writes in
the order the spec asks for, topic first, would close it.
-/

namespace Backbeat.Backlog

/-- An entry of `consumer.position()`: its topic, its partition, and its offset if set. -/
structure Position where
  topic : String
  partition : Nat
  offset : Option Int
  deriving DecidableEq, Repr

/-- A write of `_publishOffset` (`setOrCreate`): the partition's name in the Coordinator path,
the node, and the value. -/
structure OffsetWrite where
  partition : String
  node : OffsetNode
  value : Int
  deriving DecidableEq, Repr

/-- `publishConsumerBacklog(consumer, topic, groupId, cb)`: the writes it issues, for the
positions of `topic` whose offset is set, in their order: the consumer offset, then the high
watermark `_getLatestTopicOffset` answers (by partition name, `none` when the query fails, and
then the partition writes nothing). `positions = none` when `consumer.position()` throws. -/
def publishConsumerBacklog (positions : Option (List Position)) (topic groupId : String)
    (highWatermark : String → Option Int) : List OffsetWrite :=
  match positions with
  | none => []
  | some ps =>
    (ps.filter fun p => p.topic = topic ∧ p.offset.isSome).flatMap fun p =>
      match p.offset, highWatermark (toString p.partition) with
      | some o, some h =>
        [⟨toString p.partition, .consumers groupId, o⟩, ⟨toString p.partition, .topic, h⟩]
      | _, _ => []

/-- Every issued write is a position's consumer offset or its partition's high watermark. -/
theorem mem_publishConsumerBacklog {positions : Option (List Position)} {topic groupId : String}
    {highWatermark : String → Option Int} {w : OffsetWrite}
    (hw : w ∈ publishConsumerBacklog positions topic groupId highWatermark) :
    ∃ ps ∈ positions, ∃ q ∈ ps, q.topic = topic ∧ ∃ o h, q.offset = some o ∧
      highWatermark (toString q.partition) = some h ∧ w.partition = toString q.partition ∧
      ((w.node = .consumers groupId ∧ w.value = o) ∨ (w.node = .topic ∧ w.value = h)) := by
  cases positions with
  | none => cases hw
  | some ps =>
    simp only [publishConsumerBacklog, List.mem_flatMap, List.mem_filter] at hw
    obtain ⟨q, ⟨hq, hsel⟩, hw⟩ := hw
    simp only [decide_eq_true_eq] at hsel
    refine ⟨ps, rfl, q, hq, hsel.1, ?_⟩
    cases ho : q.offset with
    | none => simp [ho] at hw
    | some o =>
      cases hh : highWatermark (toString q.partition) with
      | none => simp [ho, hh] at hw
      | some hv =>
        simp only [ho, hh, List.mem_cons, List.mem_singleton, List.not_mem_nil, or_false] at hw
        refine ⟨o, hv, rfl, rfl, ?_⟩
        rcases hw with rfl | rfl <;> simp

/-- A position of the topic whose offset is set and whose high watermark was read has both its
writes issued. -/
theorem mem_publishConsumerBacklog_of {ps : List Position} {topic groupId : String}
    {highWatermark : String → Option Int} {q : Position} (hq : q ∈ ps) (ht : q.topic = topic)
    {o h : Int} (ho : q.offset = some o) (hh : highWatermark (toString q.partition) = some h) :
    ⟨toString q.partition, .consumers groupId, o⟩ ∈
        publishConsumerBacklog (some ps) topic groupId highWatermark ∧
      ⟨toString q.partition, .topic, h⟩ ∈ publishConsumerBacklog (some ps) topic groupId highWatermark := by
  simp only [publishConsumerBacklog, List.mem_flatMap, List.mem_filter, decide_eq_true_eq]
  exact ⟨⟨q, ⟨hq, ht, by simp [ho]⟩, by simp [ho, hh]⟩, ⟨q, ⟨hq, ht, by simp [ho]⟩, by simp [ho, hh]⟩⟩

/-! ### The Coordinator under the writes -/

/-- The offset nodes of the topic on the Coordinator: the integer a node holds, `none` for a
missing node. -/
structure Store where
  offset : String → OffsetNode → Option Int

/-- A write applied: `setOrCreate` sets the node, creating it if needed. -/
def Store.write (s : Store) (w : OffsetWrite) : Store :=
  ⟨fun p n => if w.partition = p ∧ w.node = n then some w.value else s.offset p n⟩

/-- The writes applied in order. -/
def Store.applyAll (s : Store) (ws : List OffsetWrite) : Store :=
  ws.foldl Store.write s

/-- The subtree the check reads when the nodes hold `s`, with the given listings. -/
def Store.tree (s : Store) (partitions : ChildrenRead) (labels : String → ChildrenRead) :
    OffsetsTree :=
  ⟨partitions, labels, fun p n =>
    match s.offset p n with
    | some v => .integer v
    | none => .noNode⟩

theorem readOffset_tree {s : Store} {partitions : ChildrenRead}
    {labels : String → ChildrenRead} {p : String} {n : OffsetNode} {v : Int} :
    readOffset (s.tree partitions labels) p n = .ok v ↔ s.offset p n = some v := by
  cases hs : s.offset p n <;> simp [readOffset, Store.tree, hs]

/-- A node holds the value of the last write to it, or its first value. -/
theorem Store.applyAll_offset (s : Store) (ws : List OffsetWrite) (p : String) (n : OffsetNode) :
    (s.applyAll ws).offset p n =
      ((ws.reverse.find? fun w => w.partition = p ∧ w.node = n).map OffsetWrite.value).or
        (s.offset p n) := by
  induction ws generalizing s with
  | nil => rfl
  | cons w ws ih =>
    have hcons : s.applyAll (w :: ws) = (s.write w).applyAll ws := rfl
    rw [hcons, ih, List.reverse_cons, List.find?_append, Option.map_or', Option.or_assoc]
    by_cases hw : w.partition = p ∧ w.node = n <;> simp [Store.write, hw]

/-- After the writes `ws`, a node holds its first value and none of them wrote it, or it holds
the value of one of them that wrote it. -/
theorem applyAll_cases (s : Store) (ws : List OffsetWrite) (p : String) (n : OffsetNode) :
    ((s.applyAll ws).offset p n = s.offset p n ∧ ∀ w ∈ ws, ¬(w.partition = p ∧ w.node = n)) ∨
      ∃ w ∈ ws, w.partition = p ∧ w.node = n ∧ (s.applyAll ws).offset p n = some w.value := by
  induction ws generalizing s with
  | nil => exact .inl ⟨rfl, by simp⟩
  | cons w ws ih =>
    have hcons : s.applyAll (w :: ws) = (s.write w).applyAll ws := rfl
    rw [hcons]
    rcases ih (s.write w) with ⟨hv, hnone⟩ | ⟨w', hw', hp, hn, hv⟩
    · rw [hv]
      by_cases hw : w.partition = p ∧ w.node = n
      · exact .inr ⟨w, .head _, hw.1, hw.2, by simp [Store.write, hw]⟩
      · refine .inl ⟨by simp [Store.write, hw], ?_⟩
        rintro x (_ | ⟨_, hx⟩)
        exacts [hw, hnone x hx]
    · exact .inr ⟨w', .tail _ hw', hp, hn, hv⟩

/-- A node that writes set, all of them to the same value, holds that value, whatever order the
writes were applied in. -/
theorem Store.applyAll_offset_of_agree {s : Store} {ws : List OffsetWrite} {w : OffsetWrite}
    (hw : w ∈ ws)
    (hagree : ∀ w' ∈ ws, w'.partition = w.partition → w'.node = w.node → w'.value = w.value) :
    (s.applyAll ws).offset w.partition w.node = some w.value := by
  rcases applyAll_cases s ws w.partition w.node with ⟨-, hnone⟩ | ⟨w', hw', hp, hn, hv⟩
  · exact absurd ⟨rfl, rfl⟩ (hnone w hw)
  · rw [hv, hagree w' hw' hp hn]

/-! ### A check during a publish run -/

/-- The assumptions on a publish run: a stored consumer offset has a stored topic offset at
least as large; a position is at most its partition's high watermark; a high watermark is at
least the stored topic offset; and the Coordinator applies issued writes only. -/
structure PublishRun (s0 : Store) (positions : Option (List Position)) (topic groupId : String)
    (highWatermark : String → Option Int) (ws : List OffsetWrite) : Prop where
  init : ∀ p c0, s0.offset p (.consumers groupId) = some c0 →
    ∃ t0, s0.offset p .topic = some t0 ∧ c0 ≤ t0
  belowWatermark : ∀ ps ∈ positions, ∀ q ∈ ps, q.topic = topic → ∀ o ∈ q.offset,
    ∀ h ∈ highWatermark (toString q.partition), o ≤ h
  watermarkUp : ∀ ps ∈ positions, ∀ q ∈ ps, q.topic = topic →
    ∀ h ∈ highWatermark (toString q.partition), ∀ t0,
      s0.offset (toString q.partition) .topic = some t0 → t0 ≤ h
  applied : ∀ w ∈ ws, w ∈ publishConsumerBacklog positions topic groupId highWatermark

section Run

variable {s0 : Store} {positions : Option (List Position)} {topic groupId : String}
  {highWatermark : String → Option Int} {ws : List OffsetWrite}
  (h : PublishRun s0 positions topic groupId highWatermark ws)
include h

/-- A consumer offset the run writes is at most any topic offset it writes to the same
partition. -/
theorem PublishRun.consumer_le_topic {wc wt : OffsetWrite} (hc : wc ∈ ws) (ht : wt ∈ ws)
    (hp : wc.partition = wt.partition) (hnc : wc.node = .consumers groupId)
    (hnt : wt.node = .topic) : wc.value ≤ wt.value := by
  obtain ⟨ps, hps, q, hq, hqt, o, hwv, hoff, hhw, hpc, hc'⟩ :=
    mem_publishConsumerBacklog (h.applied wc hc)
  obtain ⟨_, _, q', _, _, _, hwv', _, hhw', hpt, ht'⟩ := mem_publishConsumerBacklog (h.applied wt ht)
  rcases hc' with ⟨-, hcv⟩ | ⟨hcn, -⟩
  · rcases ht' with ⟨htn, -⟩ | ⟨-, htv⟩
    · rw [hnt] at htn; cases htn
    · have hsame : hwv' = hwv := by
        rw [← hpt, ← hp, hpc, hhw] at hhw'
        exact (Option.some.inj hhw').symm
      rw [hcv, htv, hsame]
      exact h.belowWatermark ps hps q hq hqt o hoff hwv hhw
  · rw [hnc] at hcn; cases hcn

/-- A topic offset the run writes is at least the stored consumer offset of its partition. -/
theorem PublishRun.init_le_topic {wt : OffsetWrite} (ht : wt ∈ ws) (hnt : wt.node = .topic)
    {c0 : Int} (hc0 : s0.offset wt.partition (.consumers groupId) = some c0) : c0 ≤ wt.value := by
  obtain ⟨t0, ht0, hle⟩ := h.init _ c0 hc0
  obtain ⟨ps, hps, q, hq, hqt, _, hw, _, hhw, hpt, ht'⟩ :=
    mem_publishConsumerBacklog (h.applied wt ht)
  rcases ht' with ⟨hn, -⟩ | ⟨-, htv⟩
  · rw [hnt] at hn; cases hn
  · rw [hpt] at ht0
    exact Int.le_trans hle (htv ▸ h.watermarkUp ps hps q hq hqt hw hhw t0 ht0)

/-- **A check sees the consumer ahead only between the two writes.** If the check, reading a
partition's consumer offset after the first `a` applied writes and its topic offset after the
first `b`, sees the consumer offset above the topic offset, then the publisher's consumer write
to that partition was applied before the first read, and its topic write was not applied
before the second. (This holds for any `a` and `b`; the check has `a ≤ b`.) -/
theorem lag_check_ahead_between_writes {a b : Nat} {p : String} {c t : Int}
    {partitions : ChildrenRead} {labels : String → ChildrenRead}
    (hc : readOffset ((s0.applyAll (ws.take a)).tree partitions labels) p
      (.consumers groupId) = .ok c)
    (ht : readOffset ((s0.applyAll (ws.take b)).tree partitions labels) p .topic = .ok t)
    (hlt : t < c) :
    (∃ w ∈ ws.take a, w.partition = p ∧ w.node = .consumers groupId) ∧
      ∀ w ∈ ws.take b, ¬(w.partition = p ∧ w.node = .topic) := by
  rw [readOffset_tree] at hc ht
  have hsub : ∀ {k w}, w ∈ ws.take k → w ∈ ws := fun hw => List.mem_of_mem_take hw
  rcases applyAll_cases s0 (ws.take b) p .topic with ⟨ht0, hnone⟩ | ⟨wt, hwt, hpt, hnt, htv⟩
  · -- the topic node still holds its first value
    refine ⟨?_, hnone⟩
    rcases applyAll_cases s0 (ws.take a) p (.consumers groupId) with ⟨hc0, -⟩ | ⟨wc, hwc, hpc, hnc, -⟩
    · obtain ⟨t0, ht0', hle⟩ := h.init p c (hc0 ▸ hc)
      rw [ht0, ht0'] at ht
      cases ht
      exact absurd hle (Int.not_le.mpr hlt)
    · exact ⟨wc, hwc, hpc, hnc⟩
  · -- the topic node holds a high watermark, above every consumer offset of the partition
    exfalso
    rw [htv] at ht
    cases ht
    rcases applyAll_cases s0 (ws.take a) p (.consumers groupId) with ⟨hc0, -⟩ | ⟨wc, hwc, hpc, hnc, hcv⟩
    · rw [hc0] at hc
      exact absurd (h.init_le_topic (hsub hwt) hnt (hpt ▸ hc)) (Int.not_le.mpr hlt)
    · rw [hcv] at hc
      cases hc
      exact absurd (h.consumer_le_topic (hsub hwc) (hsub hwt) (hpc.trans hpt.symm) hnc hnt)
        (Int.not_le.mpr hlt)

end Run

/-! ### One partition, written consumer first -/

/-- Partition `0` of the topic `backlog`: group `G` and the topic both at 5. -/
def backlogStore : Store :=
  ⟨fun p n => if p = "0" ∧ (n = .consumers "G" ∨ n = .topic) then some 5 else none⟩

/-- The consumer of group `G` at 10 on partition 0. -/
def backlogPositions : Option (List Position) := some [⟨"backlog", 0, some 10⟩]

/-- The writes of one publish run with the high watermark at 10, applied as issued. -/
def backlogWrites : List OffsetWrite :=
  publishConsumerBacklog backlogPositions "backlog" "G" fun _ => some 10

/-- The subtree the check reads after the first `k` writes. -/
def backlogTree (k : Nat) : OffsetsTree :=
  (backlogStore.applyAll (backlogWrites.take k)).tree (.children ["0"]) fun _ => .noNode

theorem backlogRun :
    PublishRun backlogStore backlogPositions "backlog" "G" (fun _ => some 10) backlogWrites where
  init p c0 h := by
    by_cases hp : p = "0"
    · subst hp
      simp only [backlogStore, true_or, and_self, if_true, Option.some.injEq] at h
      exact ⟨5, by simp [backlogStore], h ▸ Int.le_refl 5⟩
    · simp [backlogStore, hp] at h
  belowWatermark := by simp [backlogPositions]
  watermarkUp := by simp [backlogPositions, backlogStore]
  applied _ hw := hw

/-- Between the two writes of partition 0, the check reads group `G` at 10 and the topic at 5,
in a run where every stored consumer offset was at most its topic offset and the position is
at the high watermark. -/
theorem consumer_offset_lands_first :
    PublishRun backlogStore backlogPositions "backlog" "G" (fun _ => some 10) backlogWrites ∧
      readOffset (backlogTree 1) "0" (.consumers "G") = .ok 10 ∧
      readOffset (backlogTree 1) "0" .topic = .ok 5 :=
  ⟨backlogRun, rfl, rfl⟩

theorem lag_check_ahead_between_writes_backlog :
    (readOffset (backlogTree 1) "0" (.consumers "G") = .ok 10 ∧
      readOffset (backlogTree 1) "0" .topic = .ok 5 ∧ (5 : Int) < 10) ∧
    ((∃ w ∈ backlogWrites.take 1, w.partition = "0" ∧ w.node = .consumers "G") ∧
      ∀ w ∈ backlogWrites.take 1, ¬(w.partition = "0" ∧ w.node = .topic)) :=
  ⟨⟨rfl, rfl, by decide⟩, lag_check_ahead_between_writes backlogRun
    (rfl : readOffset (backlogTree 1) "0" (.consumers "G") = .ok 10)
    (rfl : readOffset (backlogTree 1) "0" .topic = .ok 5) (by decide)⟩

end Backbeat.Backlog
