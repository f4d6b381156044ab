import Mathlib.Data.List.Infix

/-!
# Log records, entries and the reader's entry rewrite

The data the ingestion pipeline moves around, and the three pure functions that shape it
before it reaches the extensions:

* `RaftLogEntry.createPutEntry` — the synthetic put entry the snapshot builds for one
  object (`extensions/utils/RaftLogEntry.js`);
* `ListRecordStream.transform` — the record transform that `getRaftLog` pipes the raft log
  through, which gives every entry without a type the type `put`;
* `IngestionReader.processLogEntry` — `_processLogEntry`, which drops an entry with neither
  key nor type, rewrites the bucket and key of the others from the record's `db`, and hands
  the result to every extension's `filter`.

JavaScript fields that may be missing are `JsStr`: `undefined`, `null` or a string. The
reader distinguishes the three (`=== undefined` on keys and types, truthiness on `db`), so
the model does too.

For a record of an ordinary source bucket the rewrite keeps the entry and names the target as
its bucket (`tail_entry_rewrite`); the bucket names `users..bucket` and `metastore` take their
own branches, and `metastore` is a legal bucket name (`metastore_entry_keeps_db`).

The section on the two ingestion paths compares the event the snapshot path hands to the
extensions for an object with the one the tail path hands them for a put of the same object
(`snapshotEvent` and `tailEvent`): both are puts of the same key, but the snapshot names the
bucket `<target>-<source>` where the tail names it `<target>`
(`snapshot_tail_same_type_and_key`).
-/

namespace Backbeat

/-- A field JavaScript code reads as a string: `undefined`, `null`, or a string. -/
inductive JsStr where
  | undefined
  | null
  | str (s : String)
  deriving DecidableEq, Repr

namespace JsStr

/-- JavaScript truthiness: only a non-empty string is truthy. -/
def truthy : JsStr → Bool
  | str s => s != ""
  | _ => false

/-- `x || d` for a string default `d`. -/
def orElse (x : JsStr) (d : String) : JsStr :=
  if x.truthy then x else str d

@[simp] theorem truthy_undefined : undefined.truthy = false := rfl

@[simp] theorem truthy_null : null.truthy = false := rfl

@[simp] theorem truthy_str (s : String) : (str s).truthy = (s != "") := rfl

/-- A default is never `undefined`. -/
theorem orElse_ne_undefined (x : JsStr) (d : String) : x.orElse d ≠ undefined := by
  unfold orElse; split <;> rename_i h
  · cases x <;> simp_all
  · simp

end JsStr

/-- An object with the fields `{ type, bucket, key, value }`: an entry of a raft-log record,
a put entry built by the snapshot, or the event `_processLogEntry` hands to `filter`. -/
structure Entry where
  type : JsStr
  bucket : JsStr
  key : JsStr
  value : JsStr
  deriving DecidableEq, Repr

/-- A raft-log record `{ db, entries }`; `entries = none` when the record has no `entries`
array. -/
structure LogRecord where
  db : JsStr
  entries : Option (List Entry)
  deriving DecidableEq, Repr

/-- The object-metadata result `{ res, objectKey, bucketName }` of one metadata fetch of the
snapshot. `res` is given by its JSON text; `none` stands for the `undefined` a failed fetch
leaves, which `JSON.stringify` maps to `undefined`. -/
structure ObjectMd where
  res : Option String
  objectKey : String
  bucketName : String
  deriving DecidableEq, Repr

/-- `RaftLogEntry.createPutEntry(objectMd, bucketPrefix)`. -/
def RaftLogEntry.createPutEntry (objectMd : ObjectMd) (bucketPrefix : String) : Entry where
  type := .str "put"
  bucket := .str (bucketPrefix ++ "-" ++ objectMd.bucketName)
  key := .str objectMd.objectKey
  value := match objectMd.res with
    | some j => .str j
    | none => .undefined

/-- One entry after `ListRecordStream._transform`: `entry.type = entry.type || 'put'`. -/
def ListRecordStream.typed (e : Entry) : Entry :=
  { e with type := e.type.orElse "put" }

/-- `ListRecordStream._transform`: rewrites every entry of the record in place; `none` when
`itemObj.entries.forEach` throws because the record has no `entries` array. -/
def ListRecordStream.transform (record : LogRecord) : Option LogRecord :=
  record.entries.map fun es => { record with entries := some (es.map ListRecordStream.typed) }

@[simp] theorem ListRecordStream.typed_type_ne_undefined (e : Entry) :
    (ListRecordStream.typed e).type ≠ .undefined :=
  JsStr.orElse_ne_undefined _ _

/-! ### The entry rewrite -/

/-- What one call of `_processLogEntry` does. -/
inductive EntryStep where
  /-- returns without calling the extensions -/
  | skip
  /-- calls every extension's `filter` with this event -/
  | filter (e : Entry)
  /-- `entry.key.split` on a key that is not a string throws a `TypeError` -/
  | throw
  deriving DecidableEq, Repr

/-- `IngestionReader._processLogEntry(batchState, record, entry)` for a reader whose target
bucket is `target`; `db` is `record.db`. -/
def IngestionReader.processLogEntry (target : String) (db : JsStr) (entry : Entry) :
    EntryStep :=
  if entry.key = .undefined ∧ entry.type = .undefined then .skip
  else if !db.truthy then
    .filter { type := entry.type, bucket := entry.bucket, key := entry.key,
              value := entry.value }
  else if db = .str "users..bucket" then
    match entry.key with
    | .str k =>
      .filter { type := entry.type, bucket := db,
                key := .str ((k.splitOn "..|..").headD "" ++ "..|.." ++ target),
                value := entry.value }
    | _ => .throw
  else if db = .str "metastore" then
    match entry.key with
    | .str k =>
      .filter { type := entry.type, bucket := db,
                key := .str ((k.splitOn "/").headD "" ++ "/" ++ target),
                value := entry.value }
    | _ => .throw
  else
    .filter { type := entry.type, bucket := .str target,
              key := if db = entry.key then .str target else entry.key,
              value := entry.value }

/-- Whether an entry gets past `_processLogEntry`'s first test,
`entry.key === undefined && entry.type === undefined`. -/
def Entry.hasKeyOrType (e : Entry) : Bool :=
  !(decide (e.key = .undefined) && decide (e.type = .undefined))

@[simp] theorem ListRecordStream.typed_hasKeyOrType (e : Entry) :
    (ListRecordStream.typed e).hasKeyOrType = true := by
  simp [Entry.hasKeyOrType]

/-- `_processLogEntry` drops exactly the entries with neither key nor type. -/
theorem IngestionReader.processLogEntry_eq_skip_iff {target : String} {db : JsStr} {e : Entry} :
    IngestionReader.processLogEntry target db e = .skip ↔ e.hasKeyOrType = false := by
  unfold IngestionReader.processLogEntry Entry.hasKeyOrType
  by_cases h : e.key = .undefined ∧ e.type = .undefined
  · simp [h]
  · rw [if_neg h]
    simp only [Bool.not_eq_false', Bool.and_eq_true, decide_eq_true_eq, h, iff_false]
    repeat' split
    all_goals nofun

/-- The rewrite of an entry of a record whose `db` is an ordinary bucket name: the bucket
becomes the target, and so does a key equal to the record's `db`. -/
theorem IngestionReader.processLogEntry_plain {target b : String} {e : Entry}
    (hb : b ≠ "") (hu : b ≠ "users..bucket") (hm : b ≠ "metastore")
    (he : ¬(e.key = .undefined ∧ e.type = .undefined)) :
    IngestionReader.processLogEntry target (.str b) e =
      .filter { type := e.type, bucket := .str target,
                key := if JsStr.str b = e.key then .str target else e.key,
                value := e.value } := by
  simp [IngestionReader.processLogEntry, he, hb, hu, hm]

/-- **The tail rewrite.** For a source bucket name with no `..` in it (so not the users
bucket), not empty and not `metastore`, every entry with a key reaches the extensions with its
type and value, the target as its bucket, and its key, replaced by the target when it names
the bucket itself. -/
theorem tail_entry_rewrite {b t : String} {e : Entry} (hdots : ¬['.', '.'] <:+: b.toList)
    (hb : b ≠ "") (hm : b ≠ "metastore") (hkey : e.key ≠ .undefined) :
    IngestionReader.processLogEntry t (.str b) e =
      .filter ⟨e.type, .str t, if e.key = .str b then .str t else e.key, e.value⟩ := by
  have hu : b ≠ "users..bucket" := by rintro rfl; exact hdots (by decide)
  rw [IngestionReader.processLogEntry_plain hb hu hm fun h => hkey h.1]
  simp only [@eq_comm _ (JsStr.str b)]

theorem tail_entry_rewrite_bucket1 :
    IngestionReader.processLogEntry "zenkobucket" (.str "bucket1")
        ⟨.str "put", .undefined, .str "object1", .str "md"⟩ =
      .filter ⟨.str "put", .str "zenkobucket",
        if JsStr.str "object1" = .str "bucket1" then .str "zenkobucket" else .str "object1",
        .str "md"⟩ :=
  tail_entry_rewrite (by decide) (by decide) (by decide) (by decide)

/-- A record of the source bucket `metastore`, a legal bucket name, takes the metastore
branch: its entries keep `metastore` as their bucket (and their key becomes
`<first segment>/<target>`). -/
theorem metastore_entry_keeps_db :
    ∃ key, IngestionReader.processLogEntry "zenkobucket" (.str "metastore")
        ⟨.str "put", .undefined, .str "users/bucket1", .str "md"⟩ =
      .filter ⟨.str "put", .str "metastore", key, .str "md"⟩ :=
  by simp [IngestionReader.processLogEntry]

/-! ### The two ingestion paths for one object -/

/-- The step `_processLogEntry` takes on the snapshot path for object `k` of bucket `b` with
metadata `m`: the entry `createPutEntry` builds is passed as both record and entry, and a
put entry has no `db` field. -/
def snapshotEvent (b t k m : String) : EntryStep :=
  IngestionReader.processLogEntry t .undefined
    (RaftLogEntry.createPutEntry ⟨some m, k, b⟩ t)

/-- The step the tail path takes for the record `{ db: b, entries: [{ type: 'put', key: k,
value: m }] }` of the reader's source bucket `b`, after `ListRecordStream`. -/
def tailEvent (b t k m : String) : EntryStep :=
  IngestionReader.processLogEntry t (.str b)
    (ListRecordStream.typed ⟨.str "put", .undefined, .str k, .str m⟩)

/-- Two steps hand the extensions events of the same type, bucket and key. -/
def SamePlacement : EntryStep → EntryStep → Prop
  | .filter x, .filter y => x.type = y.type ∧ x.bucket = y.bucket ∧ x.key = y.key
  | _, _ => False

/-- The two paths disagree on the bucket of an object: the snapshot prefixes it with the
target name. -/
theorem snapshot_tail_bucket_differs :
    ¬SamePlacement (snapshotEvent "bucket1" "zenkobucket" "object1" "md")
      (tailEvent "bucket1" "zenkobucket" "object1" "md") := by
  simp [SamePlacement, snapshotEvent, tailEvent, IngestionReader.processLogEntry,
    RaftLogEntry.createPutEntry, ListRecordStream.typed, JsStr.orElse]

/-- **Where the two paths put an object.** For an ordinary source bucket name both paths
hand the extensions a put of the same key and value; the snapshot's bucket is
`<target>-<source>` and the tail's is `<target>`. -/
theorem snapshot_tail_same_type_and_key {b t k m : String} (hk : k ≠ b) (hb : b ≠ "")
    (hu : b ≠ "users..bucket") (hm : b ≠ "metastore") :
    snapshotEvent b t k m = .filter ⟨.str "put", .str (t ++ "-" ++ b), .str k, .str m⟩ ∧
      tailEvent b t k m = .filter ⟨.str "put", .str t, .str k, .str m⟩ := by
  refine ⟨by simp [snapshotEvent, IngestionReader.processLogEntry,
    RaftLogEntry.createPutEntry], ?_⟩
  rw [tailEvent, IngestionReader.processLogEntry_plain hb hu hm (by simp [ListRecordStream.typed])]
  simp [ListRecordStream.typed, JsStr.orElse, Ne.symm hk]

theorem snapshot_tail_same_type_and_key_object1 :
    snapshotEvent "bucket1" "zenkobucket" "object1" "md" =
        .filter ⟨.str "put", .str "zenkobucket-bucket1", .str "object1", .str "md"⟩ ∧
      tailEvent "bucket1" "zenkobucket" "object1" "md" =
        .filter ⟨.str "put", .str "zenkobucket", .str "object1", .str "md"⟩ :=
  snapshot_tail_same_type_and_key (by decide) (by decide) (by decide) (by decide)

end Backbeat
