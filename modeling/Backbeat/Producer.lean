import Backbeat.Event

/-!
# The ingestion producer

`IngestionProducer` (`lib/queuePopulator/IngestionProducer.js`) is the reader's client of the
source cluster. Two of its operations feed the reader:

* `IngestionProducer.snapshot` lists the source bucket, fetches the metadata of every object
  and pushes one `createPutEntry` per object onto the producer's `resLog`, then calls
  `done(err, resLog)`;
* `getRaftLog` reads the raft log from a given sequence number. A 404 or a 416 before the
  header becomes an empty answer, another failure an `InternalError`. Once the header is
  parsed the records stream to the reader, each written to `ListRecordStream` first
  (`deliver`).

Two facts of the JavaScript decide what the reader sees, and the model keeps both. The
producer's `resLog` is a field of the producer, never reset, so a snapshot returns every
entry any earlier snapshot of the same producer pushed (`snapshot_repeats_entries`); and a
failed metadata fetch is logged and kept, with an undefined value (`first_snapshot_entries`).
Both follow from `IngestionProducer.snapshot_of_listing`, what one snapshot appends. And at the
header `getRaftLog` removes every `error` listener of the record transform, its own and the
pipe's, while its `jsonResponse` listener still re-emits errors there: an error of the
stream after the header is re-emitted on a stream with no listener, which throws
(`deliver`).

The reader listens on `jsonResponse`, not on the transform, and nothing reads the
transform's readable side. So the transform rewrites the entries of the first
`highWaterMark` records only, before the reader's listener meets them; the next records reach
the reader as parsed; and the record that fills the transform's writable side makes the pipe
pause the response for good, so no `'end'` follows (`deliver_end`). Node's streams are not in
the sources: the model follows the `Transform` of current Node releases, which holds the
transform's callback while the readable side is full, and the legacy `pipe` of the `through`
stream that `JSONStream.parse` returns. The answers of the source cluster (listing, metadata,
raft log) are inputs.
-/

namespace Backbeat

/-- `arsenal`'s `constants.usersBucket`, the name the reader also matches literally. -/
def usersBucket : String := "users..bucket"

/-- `arsenal`'s `constants.metastoreBucket`. -/
def metastoreBucket : String := "metastore"

/-- The source configuration (`bucketdConfig`) fields the producer and the reader use: the
target name, the source bucket, and the credentials and endpoint the producer connects
with. -/
structure SourceConfig where
  name : String
  bucket : String
  accessKey : String
  secretKey : String
  host : String
  port : Nat
  https : Bool
  deriving DecidableEq, Repr

/-- An `IngestionProducer`: the configuration it was constructed from, and `resLog`. -/
structure IngestionProducer where
  source : SourceConfig
  resLog : List Entry
  deriving DecidableEq, Repr

/-- `new IngestionProducer(sourceConfig, ...)`: `resLog` starts empty. -/
def IngestionProducer.new (source : SourceConfig) : IngestionProducer := ⟨source, []⟩

/-! ### The snapshot -/

/-- The source cluster's answers during one snapshot: the object keys a listing returns for
a bucket (`none` when the request fails), and the metadata JSON of an object (`none` when
the fetch fails). -/
structure SnapshotInputs where
  listing : String → Option (List String)
  metadata : String → String → Option String

/-- One element of `_getBucketObjects`' result: `{ bucket, objects }`. -/
structure BucketObjects where
  bucket : String
  objects : List String
  deriving DecidableEq, Repr

/-- `_getBucketObjects(bucketList)`: the users and metastore buckets are skipped (their slot
is `undefined`), every other bucket is listed; `none` when a listing fails. -/
def getBucketObjects (listing : String → Option (List String)) :
    List String → Option (List (Option BucketObjects))
  | [] => some []
  | b :: bs =>
    if b = usersBucket ∨ b = metastoreBucket then
      (getBucketObjects listing bs).map (none :: ·)
    else
      match listing b with
      | none => none
      | some objects => (getBucketObjects listing bs).map (some ⟨b, objects⟩ :: ·)

/-- `_createAndPushEntry(objectMds)`: one put entry per metadata result, pushed in order. -/
def IngestionProducer.createAndPushEntry (p : IngestionProducer) (objectMds : List ObjectMd) :
    IngestionProducer :=
  { p with resLog := p.resLog ++ objectMds.map (RaftLogEntry.createPutEntry · p.source.name) }

/-- `_getBucketObjectsMetadata(bucketObjectList)`: for each listed bucket, the metadata
results in listing order (a failed fetch is logged and kept with an undefined `res`), then
`_createAndPushEntry`. -/
def IngestionProducer.getBucketObjectsMetadata (metadata : String → String → Option String)
    (p : IngestionProducer) : List (Option BucketObjects) → IngestionProducer
  | [] => p
  | none :: rest => p.getBucketObjectsMetadata metadata rest
  | some bo :: rest =>
    (p.createAndPushEntry (bo.objects.map fun k => ⟨metadata bo.bucket k, k, bo.bucket⟩)
      ).getBucketObjectsMetadata metadata rest

/-- `IngestionProducer.snapshot(bucketName, done)`: the producer afterwards, and whether the
error passed to `done(err, this.resLog)` is set. -/
def IngestionProducer.snapshot (p : IngestionProducer) (inputs : SnapshotInputs)
    (bucketName : String) : IngestionProducer × Bool :=
  match getBucketObjects inputs.listing [bucketName] with
  | none => (p, true)
  | some buckets => (p.getBucketObjectsMetadata inputs.metadata buckets, false)

/-- What one snapshot of an ordinary bucket does: `resLog` gets one put per listed object, in
listing order, whether or not its metadata fetch succeeded, and `done` gets no error. -/
theorem IngestionProducer.snapshot_of_listing {p : IngestionProducer} {inputs : SnapshotInputs}
    {b : String} {L : List String} (hb : b ≠ usersBucket) (hm : b ≠ metastoreBucket)
    (hL : inputs.listing b = some L) :
    p.snapshot inputs b =
      ({ p with
          resLog := p.resLog ++
            L.map fun k => RaftLogEntry.createPutEntry ⟨inputs.metadata b k, k, b⟩ p.source.name },
        false) := by
  simp [IngestionProducer.snapshot, getBucketObjects, hb, hm, hL,
    IngestionProducer.getBucketObjectsMetadata, IngestionProducer.createAndPushEntry]

/-- The source configuration of the sample reader. -/
def sampleSource : SourceConfig := ⟨"zenkobucket", "bucket1", "accessKey1", "verySecretKey1",
  "localhost", 9000, false⟩

/-- **The first snapshot.** A new producer's snapshot of an ordinary bucket calls back with one
put per listed object, in listing order: an object whose metadata fetch failed is kept, with an
undefined value, since the fetch's callback passes no error. -/
theorem first_snapshot_entries {source : SourceConfig} {inputs : SnapshotInputs} {b : String}
    {L : List String} (hb : b ≠ usersBucket) (hm : b ≠ metastoreBucket)
    (hL : inputs.listing b = some L) :
    (IngestionProducer.new source).snapshot inputs b =
      (⟨source, L.map fun k => RaftLogEntry.createPutEntry ⟨inputs.metadata b k, k, b⟩ source.name⟩,
        false) :=
  IngestionProducer.snapshot_of_listing hb hm hL

/-- `bucket1` lists `object1`, whose metadata fetch fails: the snapshot still calls back with a
put of `object1`, its value undefined. -/
theorem first_snapshot_entries_failed_fetch :
    (IngestionProducer.new sampleSource).snapshot ⟨fun _ => some ["object1"], fun _ _ => none⟩
        "bucket1" =
      (⟨sampleSource, [⟨.str "put", .str "zenkobucket-bucket1", .str "object1", .undefined⟩]⟩,
        false) :=
  @first_snapshot_entries sampleSource _ "bucket1" ["object1"] (by decide) (by decide) rfl

/-- **A repeated snapshot.** `resLog` is never reset: a second snapshot of the same bucket on
the same producer, with the listing and metadata unchanged, calls back with the first one's
list followed by the bucket's puts once more. -/
theorem snapshot_repeats_entries {p : IngestionProducer} {inputs : SnapshotInputs} {b : String}
    {L : List String} (hb : b ≠ usersBucket) (hm : b ≠ metastoreBucket)
    (hL : inputs.listing b = some L) :
    (p.snapshot inputs b).2 = false ∧ ((p.snapshot inputs b).1.snapshot inputs b).2 = false ∧
      ((p.snapshot inputs b).1.snapshot inputs b).1.resLog =
        (p.snapshot inputs b).1.resLog ++
          L.map fun k => RaftLogEntry.createPutEntry ⟨inputs.metadata b k, k, b⟩ p.source.name := by
  simp only [IngestionProducer.snapshot_of_listing hb hm hL, true_and]

/-- Two snapshots of `bucket1`, which lists `object1`, on one new producer: the first calls
back with one put, the second with two. -/
theorem snapshot_repeats_entries_object1 :
    ((IngestionProducer.new sampleSource).snapshot ⟨fun _ => some ["object1"], fun _ _ => some "md"⟩
        "bucket1").2 = false ∧
      (((IngestionProducer.new sampleSource).snapshot
          ⟨fun _ => some ["object1"], fun _ _ => some "md"⟩ "bucket1").1.snapshot
          ⟨fun _ => some ["object1"], fun _ _ => some "md"⟩ "bucket1").2 = false ∧
      (((IngestionProducer.new sampleSource).snapshot
          ⟨fun _ => some ["object1"], fun _ _ => some "md"⟩ "bucket1").1.snapshot
          ⟨fun _ => some ["object1"], fun _ _ => some "md"⟩ "bucket1").1.resLog =
        ((IngestionProducer.new sampleSource).snapshot
          ⟨fun _ => some ["object1"], fun _ _ => some "md"⟩ "bucket1").1.resLog ++
          ["object1"].map fun k =>
            RaftLogEntry.createPutEntry ⟨some "md", k, "bucket1"⟩ sampleSource.name :=
  @snapshot_repeats_entries _ _ "bucket1" ["object1"] (by decide) (by decide) rfl

/-! ### The raft log -/

/-- How the raft-log response stream ends after its records. -/
inductive StreamEnd where
  | «end»
  | error
  deriving DecidableEq, Repr

/-- The source's answer to one raft-log read: a failure before the header is parsed (the
HTTP status code, if any), or the header's `info.start` (`none` for `null`) followed by the
records of `log` and the end of the stream. -/
inductive RaftAnswer where
  | failed (statusCode : Option Nat)
  | header (start : Option Int) (records : List LogRecord) (fin : StreamEnd)
  deriving DecidableEq, Repr

/-- How the record stream stops for the reader's listeners on `log`. -/
inductive StreamStop where
  /-- `'end'` is emitted after the last record -/
  | «end»
  /-- an exception escapes a listener -/
  | throws
  /-- the pipe paused the response for good: no record and no `'end'` comes again -/
  | stalls
  deriving DecidableEq, Repr

/-- The record stream as the reader's listeners on `log` see it: each record as it stands
once the pipe's listener, attached before the reader's, has written it to `ListRecordStream`,
and how the stream stops after them. -/
structure Delivered where
  records : List LogRecord
  stop : StreamStop
  deriving DecidableEq, Repr

/-- What `logRes.log` holds: nothing, `getRaftLog`'s record stream, or a snapshot's list. -/
inductive Log where
  | absent
  | stream (d : Delivered)
  | entries (es : List Entry)
  deriving DecidableEq, Repr

/-- `batchState.logRes`: `info.start` and `log`. -/
structure LogRes where
  start : Option Int
  log : Log
  deriving DecidableEq, Repr

/-- `ListRecordStream` is an object-mode stream with Node's default high-water mark: 16
records on its readable side, and 16 writes on its writable side. -/
def highWaterMark : Nat := 16

/-- The writes `ListRecordStream` holds on its writable side once the record at position `i`
(from 0) is written to it. While the transform keeps up, that write alone. Nothing reads the
readable side, so the transform holds its callback from the `highWaterMark`-th record on, and
from then on the writable side holds that write and every later one. -/
def writableLength (i : Nat) : Nat :=
  if i < highWaterMark then 1 else i + 2 - highWaterMark

/-- The record at position `i` once the pipe has written it to `ListRecordStream`: rewritten
in place by the transform while its readable side has room, buffered as parsed after that;
`none` when the transform throws on it. -/
def ListRecordStream.afterWrite (i : Nat) (r : LogRecord) : Option LogRecord :=
  if i < highWaterMark then ListRecordStream.transform r else some r

/-- The records of the answer from position `i` on, as the reader's listeners meet them. The
pipe's listener writes each record first: a throw of the transform escapes before the
reader's listener runs, and when `write` returns `false` (the writable side is full) the pipe
pauses the response, the reader's listener still receiving that record. Nothing ever drains
`ListRecordStream`, so the response is never resumed. After the last record, an error of the
stream is re-emitted by `getRaftLog`'s listener on a stream with no `error` listener left,
which throws. -/
def deliverFrom (fin : StreamEnd) : Nat → List LogRecord → Delivered
  | _, [] => ⟨[], match fin with | .end => .end | .error => .throws⟩
  | i, r :: rs =>
    match ListRecordStream.afterWrite i r with
    | none => ⟨[], .throws⟩
    | some r' =>
      if highWaterMark ≤ writableLength i then ⟨[r'], .stalls⟩
      else let d := deliverFrom fin (i + 1) rs; ⟨r' :: d.records, d.stop⟩

/-- The records of an answer through `ListRecordStream`, from the first. -/
def deliver (rs : List LogRecord) (fin : StreamEnd) : Delivered :=
  deliverFrom fin 0 rs

/-- `IngestionProducer.getRaftLog(raftId, begin, end, targetLeader, done)`: the data passed to
`done`, `none` for `done(errors.InternalError)`. -/
def getRaftLog : RaftAnswer → Option LogRes
  | .failed (some 404) => some ⟨none, .absent⟩
  | .failed (some 416) => some ⟨none, .absent⟩
  | .failed _ => none
  | .header start records fin => some ⟨start, .stream (deliver records fin)⟩

/-- A failure before the header: an empty answer for a 404 or a 416, an error otherwise. -/
theorem getRaftLog_failed (c : Option Nat) :
    getRaftLog (.failed c) =
      if c = some 404 ∨ c = some 416 then some ⟨none, .absent⟩ else none := by
  unfold getRaftLog; split <;> simp_all

@[simp] theorem getRaftLog_header (start : Option Int) (records : List LogRecord) (fin : StreamEnd) :
    getRaftLog (.header start records fin) = some ⟨start, .stream (deliver records fin)⟩ :=
  rfl

/-- The pipe pauses the response at the record that fills the writable side, the
`2 * highWaterMark - 1`-th. -/
theorem writableLength_lt_iff (i : Nat) :
    writableLength i < highWaterMark ↔ i < 2 * highWaterMark - 2 := by
  unfold writableLength highWaterMark; split <;> omega

/-- **A stream that ends.** When the listeners meet `'end'`, the stream ended normally after
fewer records than fill the writable side, and the reader met the first `highWaterMark - i` of
them rewritten by the transform, and the others as parsed. -/
theorem deliverFrom_end {fin : StreamEnd} {i : Nat} {rs : List LogRecord}
    (h : (deliverFrom fin i rs).stop = .end) :
    fin = .end ∧ (rs = [] ∨ i + rs.length < 2 * highWaterMark - 1) ∧
      ∃ hd, (rs.take (highWaterMark - i)).map ListRecordStream.transform = hd.map some ∧
        (deliverFrom fin i rs).records = hd ++ rs.drop (highWaterMark - i) := by
  induction rs generalizing i with
  | nil => cases fin <;> simp_all [deliverFrom]
  | cons r rs ih =>
    simp only [deliverFrom] at h ⊢
    cases hw : ListRecordStream.afterWrite i r with
    | none => simp [hw] at h
    | some r' =>
      by_cases hfull : highWaterMark ≤ writableLength i
      · simp [hw, hfull] at h
      · simp only [hw, hfull, if_false] at h ⊢
        obtain ⟨rfl, hlen, hd, htake, hrec⟩ := ih h
        have hi := (writableLength_lt_iff i).mp (not_le.mp hfull)
        refine ⟨rfl, .inr ?_, ?_⟩
        · rcases hlen with rfl | hlen <;> simp only [List.length_cons, List.length_nil] <;> omega
        unfold ListRecordStream.afterWrite at hw
        split_ifs at hw with hlt
        · -- the transform ran on `r`
          obtain ⟨k, hk⟩ : ∃ k, highWaterMark - i = k + 1 := ⟨highWaterMark - i - 1, by omega⟩
          rw [show highWaterMark - (i + 1) = k by omega] at htake hrec
          exact ⟨r' :: hd, by simp [hk, hw, htake], by simp [hk, hrec]⟩
        · -- `r` waits on the writable side as parsed
          cases hw
          have h0 : highWaterMark - i = 0 := by omega
          rw [show highWaterMark - (i + 1) = 0 by omega] at htake hrec
          obtain rfl : hd = [] := by simpa using htake.symm
          exact ⟨[], by simp [h0], by simp [h0, hrec]⟩

/-- A stream whose listeners meet `'end'` ended normally, had fewer than
`2 * highWaterMark - 1` records, and its first `highWaterMark` records reached the reader
rewritten by the transform, the others as parsed. -/
theorem deliver_end {rs : List LogRecord} {fin : StreamEnd} (h : (deliver rs fin).stop = .end) :
    fin = .end ∧ rs.length < 2 * highWaterMark - 1 ∧
      ∃ hd, (rs.take highWaterMark).map ListRecordStream.transform = hd.map some ∧
        (deliver rs fin).records = hd ++ rs.drop highWaterMark := by
  obtain ⟨hfin, hlen, hd⟩ := deliverFrom_end h
  refine ⟨hfin, ?_, hd⟩
  rcases hlen with rfl | hlen
  · simp [highWaterMark]
  · omega

/-- A stream of 30 records ends; one of 31 stalls on its last record. -/
example : (deliver (List.replicate 30 ⟨.str "b", some []⟩) .end).stop = .end ∧
    (deliver (List.replicate 31 ⟨.str "b", some []⟩) .end).stop = .stalls := by
  decide

/-- A stream that ends delivers every record of the answer. -/
theorem deliver_length {rs : List LogRecord} {fin : StreamEnd} (h : (deliver rs fin).stop = .end) :
    (deliver rs fin).records.length = rs.length := by
  obtain ⟨-, -, hd, htake, hrec⟩ := deliver_end h
  have hlen := congrArg List.length htake
  simp only [List.length_map, List.length_take] at hlen
  rw [hrec, List.length_append, List.length_drop]
  omega

end Backbeat
