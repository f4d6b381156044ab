import Mathlib.Data.List.Basic

/-!
# The lag and progress checks

`KafkaBacklogMetrics` keeps, under `<zkPath>/<topic>/<partition>/` on the Coordinator, the
offsets of a topic's partitions: `topic` (the last published high watermark),
`consumers/<groupId>` and `snapshots/<name>`. Its checks read them back:

* `readOffset` — `_readOffset`: the integer in one node; `NoNodeError` when the node is
  missing, `InternalError` on any other failure or when the data is not an integer;
* `readAllOffsets` — `_readAllOffsets`: every label under a `consumers` node;
* `checkConsumerOffsetsGeneric` — `_checkConsumerOffsetsGeneric`, and through it
  `checkConsumerLag` and `checkConsumerProgress`.

The check scans the partitions in listing order (`async.eachSeries`), and each partition by a
waterfall (`checkPartition`): the consumer offsets, then the target offset, then the groups in
label order, the first whose lag `max(0, target - consumer)` is above `maxLag` ending the scan.
Any failed read also ends the scan, and the final callback treats the error it gets by kind:
a `NoNodeError` is a success. So a missing node does not skip its partition: it stops the
scan, and the check reports success whatever the later partitions hold
(`missing_node_ends_check`). `check_scan` states the scan in full; when every read goes
through, the check succeeds exactly when no group lags (`check_success_of_reads`).

`async.mapLimit` passes on the error of the first read of `_readAllOffsets` to call back. The
Coordinator answers the requests of one session in the order they were sent, and `mapLimit`
sends them in label order, so that is the first failing label in label order.

The Coordinator's answers are the input (`OffsetsTree`), every node's read and every listing.
-/

namespace Backbeat.Backlog

/-- What `getData` on an offset node gives `_readOffset`: data whose `JSON.parse` is an
integer, data that is not (or does not parse), no node, or another error. -/
inductive NodeRead where
  | integer (n : Int)
  | malformed
  | noNode
  | fault
  deriving DecidableEq, Repr

/-- What a `getChildren` answers: the children's names in the order given, no node, or
another error. -/
inductive ChildrenRead where
  | children (names : List String)
  | noNode
  | fault
  deriving DecidableEq, Repr

/-- An offset node of a partition: `consumers/<label>`, `topic`, or `snapshots/<name>`. -/
inductive OffsetNode where
  | consumers (label : String)
  | topic
  | snapshots (name : String)
  deriving DecidableEq, Repr

/-- The Coordinator subtree `<zkPath>/<topic>` as the check's calls see it: the listing of the
partitions, the listing of each partition's `consumers` node, and each offset node's read. -/
structure OffsetsTree where
  partitions : ChildrenRead
  consumerLabels : String → ChildrenRead
  node : String → OffsetNode → NodeRead

/-- How a read fails: `NoNodeError`, or another error (`InternalError`, or the Coordinator's
own error from a listing). -/
inductive ReadErr where
  | noNode
  | other
  deriving DecidableEq, Repr

/-- `_readOffset(topic, partition, offsetType, label)`. -/
def readOffset (t : OffsetsTree) (p : String) (n : OffsetNode) : Except ReadErr Int :=
  match t.node p n with
  | .integer v => .ok v
  | .malformed => .error .other
  | .noNode => .error .noNode
  | .fault => .error .other

/-- The reads of `_readAllOffsets` over the labels, in label order. -/
def readLabels (t : OffsetsTree) (p : String) : List String → Except ReadErr (List (String × Int))
  | [] => .ok []
  | l :: ls => do
    let v ← readOffset t p (.consumers l)
    let rest ← readLabels t p ls
    pure ((l, v) :: rest)

/-- `_readAllOffsets(topic, partition, 'consumers')`: no `consumers` node means no label. -/
def readAllOffsets (t : OffsetsTree) (p : String) : Except ReadErr (List (String × Int)) :=
  match t.consumerLabels p with
  | .children labels => readLabels t p labels
  | .noNode => .ok []
  | .fault => .error .other

/-- JavaScript truthiness of an optional name: `null`, `undefined` and `''` are falsy. -/
def truthyName (x : Option String) : Option String :=
  x.filter (· ≠ "")

/-- The `info` of a lagging group. `partition` is the partition node's name, which the check
passes through `Number.parseInt`; `targetOffset` is `snapshotOffset` when a snapshot is
named, `topicOffset` otherwise. -/
structure CheckInfo where
  topic : String
  partition : String
  groupId : String
  consumerOffset : Int
  lag : Int
  maxLag : Int
  snapshotName : Option String
  targetOffset : Int
  deriving DecidableEq, Repr

/-- The check's lag: `targetOffset - consumerOffset`, set to `0` when negative. -/
def lagOf (target consumer : Int) : Int :=
  if target - consumer < 0 then 0 else target - consumer

/-- With `maxLag = 0`, a group passes exactly when it has reached the target. -/
theorem lagOf_le_zero {target consumer : Int} : lagOf target consumer ≤ 0 ↔ target ≤ consumer := by
  unfold lagOf; split_ifs <;> omega

theorem lagOf_pos {target consumer : Int} : 0 < lagOf target consumer ↔ consumer < target := by
  rw [← Int.not_le, lagOf_le_zero, Int.not_le]

/-- Why the scan stops: `CheckConditionError` with the info of a lagging group, or a failed
read. -/
inductive Stop where
  | condition (info : CheckInfo)
  | error (e : ReadErr)
  deriving DecidableEq, Repr

/-- The parameters of one check. -/
structure CheckParams where
  topic : String
  groupId : Option String
  maxLag : Int
  snapshotName : Option String

variable (t : OffsetsTree) (c : CheckParams)

/-- The consumer offsets the waterfall reads first: the group's, or every label's. -/
def consumerOffsets (p : String) : Except ReadErr (List (String × Int)) :=
  match truthyName c.groupId with
  | some g => (readOffset t p (.consumers g)).map fun v => [(g, v)]
  | none => readAllOffsets t p

/-- The node of the target offset: the snapshot's, or the topic's. -/
def targetNode : OffsetNode :=
  match truthyName c.snapshotName with
  | some s => .snapshots s
  | none => .topic

/-- The info the check builds for group `label` at consumer offset `v` against `target`. -/
def lagInfo (p : String) (target : Int) (label : String) (v : Int) : CheckInfo :=
  ⟨c.topic, p, label, v, lagOf target v, c.maxLag, truthyName c.snapshotName, target⟩

/-- The first group whose lag is above `maxLag`, in label order. -/
def firstLagging (target : Int) (offsets : List (String × Int)) : Option (String × Int) :=
  offsets.find? fun lv => decide (lagOf target lv.2 > c.maxLag)

/-- The waterfall of one partition. -/
def checkPartition (p : String) : Except Stop Unit := do
  let offsets ← (consumerOffsets t c p).mapError .error
  let target ← (readOffset t p (targetNode c)).mapError .error
  match firstLagging c target offsets with
  | some (label, v) => .error (.condition (lagInfo c p target label v))
  | none => .ok ()

/-- `async.eachSeries` over the partitions: the first partition that stops the waterfall
stops the scan. -/
def checkPartitions : List String → Except Stop Unit
  | [] => .ok ()
  | p :: ps => do checkPartition t c p; checkPartitions ps

/-- What the check calls back with: `cb()`, `cb(null, checkInfo)`, or `cb(err)`. -/
inductive CheckResult where
  | success
  | info (i : CheckInfo)
  | error
  deriving DecidableEq, Repr

/-- `_checkConsumerOffsetsGeneric(topic, groupId, maxLag, snapshotName, cb)`. -/
def checkConsumerOffsetsGeneric : CheckResult :=
  match t.partitions with
  | .noNode => .success
  | .fault => .error
  | .children ps =>
    match checkPartitions t c ps with
    | .ok () => .success
    | .error (.condition i) => .info i
    | .error (.error .noNode) => .success
    | .error (.error .other) => .error

/-- `checkConsumerLag(topic, groupId, maxLag, cb)`. -/
def checkConsumerLag (topic : String) (groupId : Option String) (maxLag : Int) : CheckResult :=
  checkConsumerOffsetsGeneric t ⟨topic, groupId, maxLag, none⟩

/-- `checkConsumerProgress(topic, groupId, snapshotName, cb)`: the check with `maxLag = 0`. -/
def checkConsumerProgress (topic : String) (groupId : Option String) (snapshotName : String) :
    CheckResult :=
  checkConsumerOffsetsGeneric t ⟨topic, groupId, 0, some snapshotName⟩

/-! ### One partition -/

/-- A partition passes: its consumer offsets and its target offset read, and no group's lag is
above `maxLag`. -/
def Passes (p : String) : Prop :=
  ∃ os v, consumerOffsets t c p = .ok os ∧ readOffset t p (targetNode c) = .ok v ∧
    ∀ lv ∈ os, lagOf v lv.2 ≤ c.maxLag

/-- The first read of a partition's waterfall that fails fails with `e`. -/
def FailsWith (p : String) (e : ReadErr) : Prop :=
  consumerOffsets t c p = .error e ∨
    ∃ os, consumerOffsets t c p = .ok os ∧ readOffset t p (targetNode c) = .error e

/-- The reads of a partition go through and `i` is the info of its first group, in label
order, whose lag is above `maxLag`. -/
def LagsAt (p : String) (i : CheckInfo) : Prop :=
  ∃ os v pre label w post, consumerOffsets t c p = .ok os ∧
    readOffset t p (targetNode c) = .ok v ∧ os = pre ++ (label, w) :: post ∧
    (∀ lv ∈ pre, lagOf v lv.2 ≤ c.maxLag) ∧ c.maxLag < lagOf v w ∧ i = lagInfo c p v label w

theorem firstLagging_eq_none {v : Int} {os : List (String × Int)} :
    firstLagging c v os = none ↔ ∀ lv ∈ os, lagOf v lv.2 ≤ c.maxLag := by
  simp [firstLagging, Int.not_lt]

theorem firstLagging_eq_some {v : Int} {os : List (String × Int)} {label : String} {w : Int} :
    firstLagging c v os = some (label, w) ↔ ∃ pre post, os = pre ++ (label, w) :: post ∧
      (∀ lv ∈ pre, lagOf v lv.2 ≤ c.maxLag) ∧ c.maxLag < lagOf v w := by
  simp only [firstLagging, List.find?_eq_some, decide_eq_true_eq, Bool.not_eq_true',
    decide_eq_false_iff_not, gt_iff_lt, Int.not_lt]
  constructor
  · rintro ⟨hlag, pre, post, rfl, hpre⟩; exact ⟨pre, post, rfl, hpre, hlag⟩
  · rintro ⟨pre, post, rfl, hpre, hlag⟩; exact ⟨hlag, pre, post, rfl, hpre⟩

theorem checkPartition_of_consumer_error {p : String} {e : ReadErr}
    (h : consumerOffsets t c p = .error e) : checkPartition t c p = .error (.error e) := by
  rw [checkPartition, h]; rfl

theorem checkPartition_of_target_error {p : String} {os : List (String × Int)} {e : ReadErr}
    (hco : consumerOffsets t c p = .ok os) (h : readOffset t p (targetNode c) = .error e) :
    checkPartition t c p = .error (.error e) := by
  rw [checkPartition, hco, h]; rfl

/-- Once both reads go through, the partition stops at its first lagging group. -/
theorem checkPartition_of_reads {p : String} {os : List (String × Int)} {v : Int}
    (hco : consumerOffsets t c p = .ok os) (hr : readOffset t p (targetNode c) = .ok v) :
    checkPartition t c p = match firstLagging c v os with
      | some (label, w) => .error (.condition (lagInfo c p v label w))
      | none => .ok () := by
  rw [checkPartition, hco, hr]; rfl

theorem checkPartition_ok_iff (p : String) : checkPartition t c p = .ok () ↔ Passes t c p := by
  constructor
  · intro h
    cases hco : consumerOffsets t c p with
    | error e => rw [checkPartition_of_consumer_error t c hco] at h; cases h
    | ok os =>
      cases hr : readOffset t p (targetNode c) with
      | error e => rw [checkPartition_of_target_error t c hco hr] at h; cases h
      | ok v =>
        rw [checkPartition_of_reads t c hco hr] at h
        cases hf : firstLagging c v os with
        | none => exact ⟨os, v, hco, hr, (firstLagging_eq_none c).mp hf⟩
        | some lw => obtain ⟨l, w⟩ := lw; rw [hf] at h; cases h
  · rintro ⟨os, v, hco, hr, hlag⟩
    rw [checkPartition_of_reads t c hco hr, (firstLagging_eq_none c).mpr hlag]

theorem checkPartition_condition_iff (p : String) (i : CheckInfo) :
    checkPartition t c p = .error (.condition i) ↔ LagsAt t c p i := by
  constructor
  · intro h
    cases hco : consumerOffsets t c p with
    | error e => rw [checkPartition_of_consumer_error t c hco] at h; cases h
    | ok os =>
      cases hr : readOffset t p (targetNode c) with
      | error e => rw [checkPartition_of_target_error t c hco hr] at h; cases h
      | ok v =>
        rw [checkPartition_of_reads t c hco hr] at h
        cases hf : firstLagging c v os with
        | none => rw [hf] at h; cases h
        | some lw =>
          obtain ⟨l, w⟩ := lw
          rw [hf] at h; cases h
          obtain ⟨pre, post, hos, hpre, hlag⟩ := (firstLagging_eq_some c).mp hf
          exact ⟨os, v, pre, l, w, post, hco, hr, hos, hpre, hlag, rfl⟩
  · rintro ⟨os, v, pre, l, w, post, hco, hr, hos, hpre, hlag, rfl⟩
    rw [checkPartition_of_reads t c hco hr,
      (firstLagging_eq_some c).mpr ⟨pre, post, hos, hpre, hlag⟩]

theorem checkPartition_error_iff (p : String) (e : ReadErr) :
    checkPartition t c p = .error (.error e) ↔ FailsWith t c p e := by
  unfold FailsWith
  cases hco : consumerOffsets t c p with
  | error e' => rw [checkPartition_of_consumer_error t c hco]; simp
  | ok os =>
    cases hr : readOffset t p (targetNode c) with
    | error e' => rw [checkPartition_of_target_error t c hco hr]; simp
    | ok v =>
      rw [checkPartition_of_reads t c hco hr]
      cases hf : firstLagging c v os with
      | none => simp
      | some lw => obtain ⟨l, w⟩ := lw; simp

/-! ### The scan -/

/-- The scan goes through every partition. -/
theorem checkPartitions_eq_ok {ps : List String} :
    checkPartitions t c ps = .ok () ↔ ∀ q ∈ ps, checkPartition t c q = .ok () := by
  induction ps with
  | nil => simp [checkPartitions]
  | cons q qs ih =>
    cases hq : checkPartition t c q with
    | error s => simp [checkPartitions, hq, bind, Except.bind]
    | ok u => simp [checkPartitions, hq, bind, Except.bind, ih]

/-- The scan stops at the first partition that does not pass, with what stopped it. -/
theorem checkPartitions_eq_error {ps : List String} {s : Stop} :
    checkPartitions t c ps = .error s ↔ ∃ pre p post, ps = pre ++ p :: post ∧
      (∀ q ∈ pre, checkPartition t c q = .ok ()) ∧ checkPartition t c p = .error s := by
  induction ps with
  | nil => simp [checkPartitions]
  | cons q qs ih =>
    cases hq : checkPartition t c q with
    | error s' =>
      simp only [checkPartitions, hq, bind, Except.bind, Except.error.injEq]
      constructor
      · rintro rfl; exact ⟨[], q, qs, rfl, by simp, hq⟩
      · rintro ⟨_ | ⟨q', pre⟩, p, post, hps, hpre, hp⟩ <;>
          simp only [List.nil_append, List.cons_append, List.cons.injEq] at hps <;>
          obtain ⟨rfl, rfl⟩ := hps
        · rw [hq] at hp; cases hp; rfl
        · rw [hpre _ (.head _)] at hq; cases hq
    | ok u =>
      simp only [checkPartitions, hq, bind, Except.bind, ih]
      constructor
      · rintro ⟨pre, p, post, rfl, hpre, hp⟩
        exact ⟨q :: pre, p, post, rfl, by simpa [hq] using hpre, hp⟩
      · rintro ⟨_ | ⟨q', pre⟩, p, post, hps, hpre, hp⟩ <;>
          simp only [List.nil_append, List.cons_append, List.cons.injEq] at hps <;>
          obtain ⟨rfl, rfl⟩ := hps
        · rw [hq] at hp; cases hp
        · exact ⟨pre, p, post, rfl, fun x hx => hpre x (.tail _ hx), hp⟩

/-! ### What the check reads -/

section Congr

variable {t} {t' : OffsetsTree}

theorem readLabels_congr {p : String} {ls : List String}
    (h : ∀ l ∈ ls, readOffset t p (.consumers l) = readOffset t' p (.consumers l)) :
    readLabels t p ls = readLabels t' p ls := by
  induction ls with
  | nil => rfl
  | cons l ls ih => simp only [readLabels, h l (.head _), ih fun l' hl' => h l' (.tail _ hl')]

/-- A partition's waterfall reads its consumer offsets and its target offset, and nothing
else. -/
theorem checkPartition_congr {p : String} (hco : consumerOffsets t c p = consumerOffsets t' c p)
    (hr : readOffset t p (targetNode c) = readOffset t' p (targetNode c)) :
    checkPartition t c p = checkPartition t' c p := by
  simp only [checkPartition, hco, hr]

theorem checkPartitions_congr {ps : List String}
    (h : ∀ p ∈ ps, checkPartition t c p = checkPartition t' c p) :
    checkPartitions t c ps = checkPartitions t' c ps := by
  induction ps with
  | nil => rfl
  | cons p ps ih => simp only [checkPartitions, h p (.head _), ih fun q hq => h q (.tail _ hq)]

/-- **The check reads the listing and the listed partitions only.** Two trees that list the
same partitions, and whose listed partitions give the same consumer offsets and the same target
offset, make the check call back the same. -/
theorem checkConsumerOffsetsGeneric_congr (hparts : t.partitions = t'.partitions)
    (hreads : ∀ ps, t.partitions = .children ps → ∀ p ∈ ps,
      consumerOffsets t c p = consumerOffsets t' c p ∧
        readOffset t p (targetNode c) = readOffset t' p (targetNode c)) :
    checkConsumerOffsetsGeneric t c = checkConsumerOffsetsGeneric t' c := by
  unfold checkConsumerOffsetsGeneric
  rw [← hparts]
  cases hps : t.partitions with
  | children ps =>
    dsimp only
    rw [checkPartitions_congr c fun p hp =>
      checkPartition_congr c (hreads ps hps p hp).1 (hreads ps hps p hp).2]
  | noNode => rfl
  | fault => rfl

end Congr

section Listed

variable {ps : List String} (hps : t.partitions = .children ps)
include hps

/-- The final callback: `CheckConditionError` carries the info out. -/
theorem check_eq_info_iff (i : CheckInfo) :
    checkConsumerOffsetsGeneric t c = .info i ↔ checkPartitions t c ps = .error (.condition i) := by
  simp only [checkConsumerOffsetsGeneric, hps]
  cases checkPartitions t c ps with
  | ok u => simp
  | error s => rcases s with _ | _ | _ <;> simp

/-- The final callback: an error other than `NoNodeError` is reported. -/
theorem check_eq_error_iff :
    checkConsumerOffsetsGeneric t c = .error ↔ checkPartitions t c ps = .error (.error .other) := by
  simp only [checkConsumerOffsetsGeneric, hps]
  cases checkPartitions t c ps with
  | ok u => simp
  | error s => rcases s with _ | _ | _ <;> simp

/-- The final callback: `NoNodeError` is a success. -/
theorem check_eq_success_iff :
    checkConsumerOffsetsGeneric t c = .success ↔
      checkPartitions t c ps = .ok () ∨ checkPartitions t c ps = .error (.error .noNode) := by
  simp only [checkConsumerOffsetsGeneric, hps]
  cases checkPartitions t c ps with
  | ok u => simp
  | error s => rcases s with _ | _ | _ <;> simp

/-- **The check's scan.** Over a listing `ps` of the topic's partitions, the check reports the
info of the first lagging group of the first partition that does not pass, if that partition's
reads went through; an error if that partition's first failed read failed otherwise than by a
missing node; and success when every partition passes or when that read found no node: a
missing node ends the scan, and the partitions after it are not checked. -/
theorem check_scan :
    (∀ i, checkConsumerOffsetsGeneric t c = .info i ↔
      ∃ pre p post, ps = pre ++ p :: post ∧ (∀ q ∈ pre, Passes t c q) ∧ LagsAt t c p i) ∧
    (checkConsumerOffsetsGeneric t c = .error ↔
      ∃ pre p post, ps = pre ++ p :: post ∧ (∀ q ∈ pre, Passes t c q) ∧ FailsWith t c p .other) ∧
    (checkConsumerOffsetsGeneric t c = .success ↔ (∀ q ∈ ps, Passes t c q) ∨
      ∃ pre p post, ps = pre ++ p :: post ∧ (∀ q ∈ pre, Passes t c q) ∧
        FailsWith t c p .noNode) := by
  refine ⟨fun i => ?_, ?_, ?_⟩
  · rw [check_eq_info_iff t c hps, checkPartitions_eq_error]
    simp only [checkPartition_ok_iff, checkPartition_condition_iff]
  · rw [check_eq_error_iff t c hps, checkPartitions_eq_error]
    simp only [checkPartition_ok_iff, checkPartition_error_iff]
  · rw [check_eq_success_iff t c hps, checkPartitions_eq_ok, checkPartitions_eq_error]
    simp only [checkPartition_ok_iff, checkPartition_error_iff]

/-- **The check over a complete tree.** When every read of every listed partition goes
through, the check succeeds exactly when no group of any partition lags by more than
`maxLag`. -/
theorem check_success_of_reads
    (hreads : ∀ p ∈ ps, ∃ os v, consumerOffsets t c p = .ok os ∧
      readOffset t p (targetNode c) = .ok v) :
    checkConsumerOffsetsGeneric t c = .success ↔ ∀ p ∈ ps, Passes t c p := by
  rw [check_eq_success_iff t c hps, checkPartitions_eq_ok, checkPartitions_eq_error]
  simp only [checkPartition_ok_iff, checkPartition_error_iff]
  refine ⟨fun h => h.resolve_right ?_, .inl⟩
  rintro ⟨pre, p, post, rfl, -, hfail⟩
  obtain ⟨os, v, hco, hr⟩ := hreads p (by simp)
  rcases hfail with hco' | ⟨os', hco', hr'⟩
  · rw [hco] at hco'; cases hco'
  · rw [hr] at hr'; cases hr'

/-- **The check over its reads.** When every listed partition `p` reads the consumer offsets
`r p` and the target offset `v p`, the check never calls back with an error: it succeeds
exactly when no group of any partition lags by more than `maxLag`, and otherwise reports a
lagging group of a listed partition, with the info built from that partition's reads. -/
theorem check_of_reads {r : String → List (String × Int)} {v : String → Int}
    (hreads : ∀ p ∈ ps, consumerOffsets t c p = .ok (r p) ∧
      readOffset t p (targetNode c) = .ok (v p)) :
    (checkConsumerOffsetsGeneric t c = .success ↔
      ∀ p ∈ ps, ∀ lv ∈ r p, lagOf (v p) lv.2 ≤ c.maxLag) ∧
    (∀ i, checkConsumerOffsetsGeneric t c = .info i →
      ∃ p ∈ ps, ∃ lv ∈ r p, c.maxLag < lagOf (v p) lv.2 ∧ i = lagInfo c p (v p) lv.1 lv.2) ∧
    checkConsumerOffsetsGeneric t c ≠ .error := by
  -- a partition that stops the scan stops it at its first lagging group
  have hstop : ∀ s, checkPartitions t c ps = .error s → ∃ p ∈ ps, ∃ lv ∈ r p,
      c.maxLag < lagOf (v p) lv.2 ∧ s = .condition (lagInfo c p (v p) lv.1 lv.2) := by
    intro s hs
    obtain ⟨pre, p, post, rfl, -, hp⟩ := (checkPartitions_eq_error t c).mp hs
    rw [checkPartition_of_reads t c (hreads p (by simp)).1 (hreads p (by simp)).2] at hp
    cases hf : firstLagging c (v p) (r p) with
    | none => rw [hf] at hp; cases hp
    | some lw =>
      obtain ⟨l, w⟩ := lw
      rw [hf] at hp
      obtain ⟨pre', post', hos, -, hlag⟩ := (firstLagging_eq_some c).mp hf
      exact ⟨p, by simp, (l, w), by simp [hos], hlag, (Except.error.inj hp).symm⟩
  refine ⟨?_, fun i hi => ?_, fun he => ?_⟩
  · -- the scan never stops at a missing node, and a partition passes when no group lags
    have hpart : ∀ p ∈ ps, checkPartition t c p = .ok () ↔
        ∀ lv ∈ r p, lagOf (v p) lv.2 ≤ c.maxLag := fun p hp => by
      rw [checkPartition_of_reads t c (hreads p hp).1 (hreads p hp).2, ← firstLagging_eq_none c]
      rcases firstLagging c (v p) (r p) with _ | ⟨l, w⟩ <;> simp
    rw [check_eq_success_iff t c hps, checkPartitions_eq_ok, or_iff_left fun hno => by
      obtain ⟨_, _, _, _, _, hs⟩ := hstop _ hno
      cases hs]
    exact forall₂_congr hpart
  · obtain ⟨p, hp, lv, hlv, hlag, hs⟩ := hstop _ ((check_eq_info_iff t c hps i).mp hi)
    exact ⟨p, hp, lv, hlv, hlag, Stop.condition.inj hs⟩
  · obtain ⟨_, _, _, _, _, hs⟩ := hstop _ ((check_eq_error_iff t c hps).mp he)
    cases hs

end Listed

/-- Two partitions of the topic `backlog`: the first holds no offset for the group `G`; the
second holds `G` at 0 and the topic at 100. -/
def missingGroupTree : OffsetsTree :=
  ⟨.children ["0", "1"], fun _ => .noNode, fun p n =>
    match p, n with
    | "1", .consumers "G" => .integer 0
    | _, .topic => .integer 100
    | _, _ => .noNode⟩

theorem check_scan_missingGroupTree :
    missingGroupTree.partitions = .children ["0", "1"] ∧
    (checkConsumerOffsetsGeneric missingGroupTree ⟨"backlog", some "G", 5, none⟩ = .success ↔
      (∀ q ∈ ["0", "1"], Passes missingGroupTree ⟨"backlog", some "G", 5, none⟩ q) ∨
      ∃ pre p post, ["0", "1"] = pre ++ p :: post ∧
        (∀ q ∈ pre, Passes missingGroupTree ⟨"backlog", some "G", 5, none⟩ q) ∧
        FailsWith missingGroupTree ⟨"backlog", some "G", 5, none⟩ p .noNode) :=
  ⟨rfl, (check_scan missingGroupTree ⟨"backlog", some "G", 5, none⟩ rfl).2.2⟩

/-- The first partition has no offset for `G`, and the check reports success, though group
`G` lags by 100 on the second partition. -/
theorem missing_node_ends_check :
    checkConsumerLag missingGroupTree "backlog" (some "G") 5 = .success ∧
      readOffset missingGroupTree "1" (.consumers "G") = .ok 0 ∧
      readOffset missingGroupTree "1" .topic = .ok 100 ∧ lagOf 100 0 > 5 :=
  ⟨rfl, rfl, rfl, by decide⟩

/-- Partitions `0` and `1` of the topic `backlog`, every node present: group `G` at 95 and
the topic at 100 on each. -/
def completeTree : OffsetsTree :=
  ⟨.children ["0", "1"], fun _ => .noNode, fun _ n =>
    match n with
    | .consumers _ => .integer 95
    | _ => .integer 100⟩

theorem check_success_of_reads_completeTree :
    completeTree.partitions = .children ["0", "1"] ∧
    (∀ p ∈ ["0", "1"], ∃ os v, consumerOffsets completeTree ⟨"backlog", some "G", 5, none⟩ p = .ok os ∧
      readOffset completeTree p (targetNode ⟨"backlog", some "G", 5, none⟩) = .ok v) ∧
    (checkConsumerOffsetsGeneric completeTree ⟨"backlog", some "G", 5, none⟩ = .success ↔
      ∀ p ∈ ["0", "1"], Passes completeTree ⟨"backlog", some "G", 5, none⟩ p) :=
  have hreads : ∀ p ∈ ["0", "1"], ∃ os v,
      consumerOffsets completeTree ⟨"backlog", some "G", 5, none⟩ p = .ok os ∧
      readOffset completeTree p (targetNode ⟨"backlog", some "G", 5, none⟩) = .ok v := by
    simp only [List.mem_cons, List.mem_singleton, List.not_mem_nil, or_false]
    rintro p (rfl | rfl) <;> exact ⟨_, _, rfl, rfl⟩
  ⟨rfl, hreads, check_success_of_reads completeTree _ rfl hreads⟩

end Backbeat.Backlog
