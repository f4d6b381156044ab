import Backbeat.Progress
import Backbeat.Producer

/-!
# The ingestion reader's batch

`IngestionReader.processLogEntries` runs one batch as an `async.waterfall` of four phases,
each modelled under its source name:

* `readRecords` — `_processReadRecords`: reads the init state; in the tail phase reads the
  raft log from the in-memory `logOffset`, otherwise calls the producer's snapshot;
* `prepareEntries` — `_processPrepareEntries`: passes the entries read to the extensions'
  `filter`, which stage events in the batch handle;
* `publishEntries` — `_processPublishEntries`: stages `nextLogOffset` and sends the staged
  events to the bus;
* `saveLogOffset` — `_processSaveLogOffset`: writes the init state, then raises the
  in-memory offset and writes it.

A phase ends in one of three ways (`Res`): it hands over to the next phase, it passes an
error to the waterfall, or an exception escapes from it. The third is JavaScript's: a
`TypeError` thrown in a callback leaves the waterfall and `processLogEntries` without
calling back. Two such throws are on the reader's ordinary paths. The snapshot call passes
three arguments to `IngestionProducer.snapshot(bucketName, done)`, which binds `done` to the
reader's `initState`, an object, so `done(err, resLog)` throws. And
`_processPublishEntries` reads `entries.length` of `entriesToPublish[targetBucket]`, which
is `undefined` when no extension staged anything. A phase that waits for an event that never
comes ends the same way: `_processPrepareEntries` waits for `'end'`, which a long raft log
never sends (`deliver`).

`refresh` stores a changed configuration before it rebuilds the producer, so a refresh whose
decryption fails is not retried by the next one (`failed_refresh_not_retried`).

Every result of an external call is an input of the batch (`BatchEnv`): the Coordinator's
faults, the source's answers, the bus. The extensions are a function from the event passed
to `filter` to the entries they push under `handle[targetBucket]` (`Extensions`).
-/

namespace Backbeat

/-- How a step of the batch ends, with the state it leaves behind. -/
inductive Res (σ : Type) where
  /-- `next()`: the waterfall goes on -/
  | ok (s : σ)
  /-- `next(err)`: the waterfall stops and `processLogEntries` calls back with the error -/
  | err (s : σ)
  /-- an exception escapes, or the step waits on an event that never comes:
  `processLogEntries` never calls back -/
  | throw (s : σ)
  deriving Repr

namespace Res

variable {σ τ α : Type}

/-- Run `f` after a step that goes on. -/
def bind : Res σ → (σ → Res σ) → Res σ
  | ok s, f => f s
  | err s, _ => err s
  | throw s, _ => throw s

/-- Map the state of every outcome. -/
def map (f : σ → τ) : Res σ → Res τ
  | ok s => ok (f s)
  | err s => err (f s)
  | throw s => throw (f s)

/-- The state an outcome leaves. -/
def state : Res σ → σ
  | ok s | err s | throw s => s

/-- `forEach` of a step over a list: the first step that does not go on ends the loop. -/
def forEach (f : σ → α → Res σ) : σ → List α → Res σ
  | s, [] => ok s
  | s, a :: as => (f s a).bind (forEach f · as)

@[simp] theorem ok_bind (s : σ) (f : σ → Res σ) : (ok s).bind f = f s := rfl
@[simp] theorem err_bind (s : σ) (f : σ → Res σ) : (err s).bind f = err s := rfl
@[simp] theorem throw_bind (s : σ) (f : σ → Res σ) : (throw s).bind f = throw s := rfl
@[simp] theorem map_ok (f : σ → τ) (s : σ) : (ok s).map f = ok (f s) := rfl
@[simp] theorem map_err (f : σ → τ) (s : σ) : (err s).map f = err (f s) := rfl
@[simp] theorem map_throw (f : σ → τ) (s : σ) : (throw s).map f = throw (f s) := rfl
@[simp] theorem state_ok (s : σ) : (ok s).state = s := rfl
@[simp] theorem state_err (s : σ) : (err s).state = s := rfl
@[simp] theorem state_throw (s : σ) : (throw s).state = s := rfl
@[simp] theorem state_map (f : σ → τ) (r : Res σ) : (r.map f).state = f r.state := by
  cases r <;> rfl
@[simp] theorem forEach_nil (f : σ → α → Res σ) (s : σ) : forEach f s [] = ok s := rfl
@[simp] theorem forEach_cons (f : σ → α → Res σ) (s : σ) (a : α) (as : List α) :
    forEach f s (a :: as) = (f s a).bind (forEach f · as) := rfl

/-- A bound step goes on exactly when both of its parts do. -/
theorem bind_eq_ok {r : Res σ} {f : σ → Res σ} {b : σ} :
    r.bind f = .ok b ↔ ∃ m, r = .ok m ∧ f m = .ok b := by
  cases r <;> simp [bind]

/-- A loop whose step never passes an error never passes one either. -/
theorem forEach_ne_err {f : σ → α → Res σ} (hf : ∀ s a q, f s a ≠ .err q) (s : σ) (as : List α)
    (q : σ) : forEach f s as ≠ .err q := by
  induction as generalizing s with
  | nil => nofun
  | cons a as ih =>
    rw [forEach_cons]
    cases h : f s a with
    | ok m => exact ih m
    | err m => exact absurd h (hf s a m)
    | throw m => nofun

end Res

/-! ### The reader and its batch -/

/-- An entry an extension stages for the bus, `{ key, message }`. -/
structure KafkaEntry where
  key : String
  message : String
  deriving DecidableEq, Repr

/-- The reader's extensions: for one event passed to every extension's `filter`, the entries
they push under `handle[targetBucket]`, in order. -/
structure Extensions where
  filter : Entry → List KafkaEntry

/-- What a reader fixes at construction: the source bucket (`this.bucket`), the target
(`this._targetZenkoBucket`), its extensions, and `arsenal`'s version-id separator `VID_SEP`. -/
structure ReaderConfig where
  bucket : String
  target : String
  extensions : Extensions
  vidSep : String

/-- The reader's in-memory state. -/
structure Reader where
  bucketdConfig : SourceConfig
  producer : IngestionProducer
  logOffset : Int
  batchInProgress : Bool

/-- What the `'data'` listener accumulates: the counters of `logStats`, the batch handle's
entry `entriesToPublish[targetBucket]` (`none` while `undefined`), and the events passed to
`filter`, in order. -/
structure Prep where
  nbLogRecordsRead : Nat
  nbLogEntriesRead : Nat
  entriesToPublish : Option (List KafkaEntry)
  calls : List Entry

/-- `batchState` of one batch. -/
structure BatchState where
  logRes : Option LogRes
  initState : Option InitState
  prep : Prep
  nextLogOffset : Option Int
  publishedEntries : Nat

/-- The `batchState` `processLogEntries` starts with. -/
def BatchState.fresh : BatchState := ⟨none, none, ⟨0, 0, none, []⟩, none, 0⟩

/-- Everything one batch reads and writes: the Coordinator, the reader, `batchState`, the
entries of a bus send that succeeded, and the value of a log-offset write. -/
structure Batch where
  coord : Coord
  reader : Reader
  st : BatchState
  sent : Option (List KafkaEntry)
  written : Option Int

/-- What the reader asks the source for: `startSeq` and `limit`. -/
structure ReadRequest where
  begin : Int
  limit : Option Nat
  deriving DecidableEq, Repr

/-- `params` of `processLogEntries`. -/
structure Params where
  maxRead : Option Nat

/-- The results of every external call of one batch. -/
structure BatchEnv where
  initRead : InitReadFaults
  snapshot : SnapshotInputs
  answer : ReadRequest → RaftAnswer
  sendFails : Bool
  initWriteFails : InitNode → Bool
  offsetWriteFails : Bool

variable (cfg : ReaderConfig) (env : BatchEnv)

/-! ### Reading records -/

/-- `_processReadRecords(params, batchState, done)`. In the snapshot phase the reader calls
`this._iProducer.snapshot(this.bucket, initState, cb)`: `snapshot` binds its `done` to
`initState`, so once the producer has listed the bucket, calling `done` throws. -/
def readRecords (params : Params) (b : Batch) : Res Batch :=
  let req : ReadRequest := ⟨b.reader.logOffset, params.maxRead⟩
  let read := readInitState env.initRead b.coord
  let b := { b with coord := read.1 }
  match read.2 with
  | none => .err b
  | some initState =>
    if initState.isStatusComplete then
      match getRaftLog (env.answer req) with
      | none => .err b
      | some logRes => .ok { b with st := { b.st with logRes := some logRes } }
    else
      .throw { b with reader := { b.reader with
        producer := (b.reader.producer.snapshot env.snapshot cfg.bucket).1 } }

/-! ### Preparing entries -/

/-- `handle[targetBucket]` after the extensions push `es`: the first push creates the array. -/
def stage (h : Option (List KafkaEntry)) (es : List KafkaEntry) : Option (List KafkaEntry) :=
  if es = [] then h else some (h.getD [] ++ es)

/-- `_processLogEntry(batchState, record, entry)` with `record.db = db`, then the pushes of
the extensions' `filter`. -/
def filterEntry (db : JsStr) (p : Prep) (entry : Entry) : Res Prep :=
  match IngestionReader.processLogEntry cfg.target db entry with
  | .skip => .ok p
  | .filter e => .ok { p with calls := p.calls ++ [e],
                              entriesToPublish := stage p.entriesToPublish (cfg.extensions.filter e) }
  | .throw => .throw p

/-- One entry of a tail record: counted, and filtered when the record's `db` is the source
bucket. -/
def onEntry (db : JsStr) (p : Prep) (entry : Entry) : Res Prep :=
  let p := { p with nbLogEntriesRead := p.nbLogEntriesRead + 1 }
  if db = .str cfg.bucket then filterEntry cfg db p entry else .ok p

/-- The `'data'` listener for one record. -/
def onData (p : Prep) (record : LogRecord) : Res Prep :=
  let p := { p with nbLogRecordsRead := p.nbLogRecordsRead + 1 }
  match record.entries with
  | none => .throw p
  | some es => Res.forEach (onEntry cfg record.db) p es

/-- The listeners on the record stream: `'data'` for every record, then `'end'`, which goes
on. An exception that escapes, or a stream paused for good, never calls back. -/
def onStream (p : Prep) (d : Delivered) : Res Prep :=
  (Res.forEach (onData cfg) p d.records).bind fun p =>
    match d.stop with
    | .end => .ok p
    | .throws | .stalls => .throw p

/-- `_isVersionedLogKey(key)`: `key.split(VID_SEP)[1] !== undefined`. -/
def isVersionedLogKey (key : String) : Bool :=
  (key.splitOn cfg.vidSep).length ≥ 2

/-- One entry of a snapshot listing: versioned keys are counted as records, every entry as an
entry, and the entry is passed as both record and entry (it has no `db`). -/
def onSnapshotEntry (p : Prep) (entry : Entry) : Res Prep :=
  match entry.key with
  | .str k =>
    filterEntry cfg .undefined
      { p with nbLogRecordsRead := p.nbLogRecordsRead + (if isVersionedLogKey cfg k then 1 else 0),
               nbLogEntriesRead := p.nbLogEntriesRead + 1 } entry
  | _ => .throw p

/-- `_processPrepareEntries(batchState, done)`. A method `logRes.log` does not have
(`forEach` of a stream, `on` of a list) throws. -/
def prepareEntries (b : Batch) : Res Batch :=
  match b.st.logRes with
  | none => .throw b
  | some logRes =>
    (match logRes.log, b.st.initState with
      | .absent, _ => (.ok b.st.prep : Res Prep)
      | .entries es, some _ => Res.forEach (onSnapshotEntry cfg) b.st.prep es
      | .stream d, none => if logRes.start = none then .ok b.st.prep else onStream cfg b.st.prep d
      | .entries _, none => if logRes.start = none then .ok b.st.prep else .throw b.st.prep
      | .stream _, some _ => .throw b.st.prep).map
      fun p => { b with st := { b.st with prep := p } }

/-! ### Publishing and saving -/

/-- `nextLogOffset` as `_processPublishEntries` stages it: the snapshot's `cseq` when set and
truthy, otherwise unchanged in the snapshot phase; `info.start + nbLogRecordsRead` in the tail
phase, `null` counting as `0`. `none` when `logRes.info` is read on a `null` `logRes`. -/
def stagedOffset (st : BatchState) : Option (Option Int) :=
  match st.initState, st.logRes with
  | some s, _ =>
    some (match s.cseq with
      | some c => if c = 0 then st.nextLogOffset else some c
      | none => st.nextLogOffset)
  | none, some logRes => some (some (logRes.start.getD 0 + st.prep.nbLogRecordsRead))
  | none, none => none

/-- `_processPublishEntries(batchState, done)`: `entries.length` throws when nothing was
staged under the target; an empty array is not sent; otherwise the bus send. -/
def publishEntries (b : Batch) : Res Batch :=
  match stagedOffset b.st with
  | none => .throw b
  | some next =>
    let b := { b with st := { b.st with nextLogOffset := next } }
    match b.st.prep.entriesToPublish with
    | none => .throw b
    | some [] => .ok b
    | some entries =>
      if env.sendFails then .err b
      else .ok { b with sent := some entries,
                        st := { b.st with publishedEntries := entries.length } }

/-- `_processSaveLogOffset(batchState, done)`: `_writeInitState`, then, when `nextLogOffset` is
set and differs from the in-memory offset, raise the in-memory offset to it if larger and
write the in-memory offset. -/
def saveLogOffset (b : Batch) : Res Batch :=
  let w := writeInitState env.initWriteFails b.coord b.st.initState
  let b := { b with coord := w.1 }
  if !w.2 then .err b
  else
    match b.st.nextLogOffset with
    | none => .ok b
    | some n =>
      if n = b.reader.logOffset then .ok b
      else
        let offset := if n > b.reader.logOffset then n else b.reader.logOffset
        let o := writeLogOffset env.offsetWriteFails b.coord offset
        let b := { b with coord := o.1, reader := { b.reader with logOffset := offset },
                          written := some offset }
        if o.2 then .ok b else .err b

/-- The batch leaves `_batchInProgress` cleared. -/
def Batch.finish (b : Batch) : Batch :=
  { b with reader := { b.reader with batchInProgress := false } }

/-- `IngestionReader.processLogEntries(params, done)` on a reader and the Coordinator. On
`.ok` and `.err` the reader has called back and cleared `_batchInProgress`; on `.throw` it
never calls back and the flag stays set. -/
def processLogEntries (params : Params) (coord : Coord) (reader : Reader) : Res Batch :=
  let b : Batch := ⟨coord, { reader with batchInProgress := true }, .fresh, none, none⟩
  match (((readRecords cfg env params b).bind (prepareEntries cfg)).bind
      (publishEntries env)).bind (saveLogOffset env) with
  | .ok b => .ok b.finish
  | .err b => .err b.finish
  | .throw b => .throw b

/-! ### Refreshing the configuration -/

/-- The editable fields of a source configuration, `_getEditableFields(info)`. The reader
compares their `JSON.stringify` texts, which are equal exactly when the fields are. -/
structure EditableFields where
  accessKey : String
  secretKey : String
  host : String
  port : Nat
  https : Bool
  deriving DecidableEq, Repr

/-- `_getEditableFields(info)`. -/
def SourceConfig.editableFields (c : SourceConfig) : EditableFields :=
  ⟨c.accessKey, c.secretKey, c.host, c.port, c.https⟩

/-- `_setupIngestionProducer(cb)` with the result of `decryptLocationSecret` (`none` when it
fails): a new producer from the configuration with the decrypted secret key. Returns the
reader and whether it called back without error. -/
def setupIngestionProducer (decrypted : Option String) (r : Reader) : Reader × Bool :=
  match decrypted with
  | none => (r, false)
  | some key => ({ r with producer := .new { r.bucketdConfig with secretKey := key } }, true)

/-- `IngestionReader.refresh(sourceInfo, done)`: when the editable fields changed, keep the new
configuration and rebuild the producer. -/
def refresh (sourceInfo : SourceConfig) (decrypted : Option String) (r : Reader) :
    Reader × Bool :=
  if r.bucketdConfig.editableFields ≠ sourceInfo.editableFields then
    setupIngestionProducer decrypted { r with bucketdConfig := sourceInfo }
  else (r, true)

@[simp] theorem setupIngestionProducer_logOffset (decrypted : Option String) (r : Reader) :
    (setupIngestionProducer decrypted r).1.logOffset = r.logOffset := by
  cases decrypted <;> rfl

@[simp] theorem refresh_logOffset (sourceInfo : SourceConfig) (decrypted : Option String)
    (r : Reader) : (refresh sourceInfo decrypted r).1.logOffset = r.logOffset := by
  unfold refresh; split <;> simp

/-- **A failed refresh is not retried.** When the editable fields changed and the secret key
cannot be decrypted, `refresh` calls back with the error after storing the new configuration,
with the producer as it was. A later refresh with the same configuration then sees no change:
whatever its decryption would give, it calls back without error and rebuilds nothing. -/
theorem failed_refresh_not_retried {r : Reader} {si : SourceConfig}
    (hchg : r.bucketdConfig.editableFields ≠ si.editableFields) :
    (refresh si none r).2 = false ∧ (refresh si none r).1.producer = r.producer ∧
      ∀ d, refresh si d (refresh si none r).1 = ((refresh si none r).1, true) := by
  simp [refresh, hchg, setupIngestionProducer]

/-! ### A sample reader

The reader of source bucket `bucket1` for the target `zenkobucket` that the concrete runs use,
built from `sampleSource`: its extensions stage one entry for every event, it starts at offset 7, and every call of the
source, the bus and the Coordinator succeeds unless a run says otherwise. -/

/-- The sample reader's configuration; `VID_SEP` is `arsenal`'s NUL separator. -/
def sampleConfig : ReaderConfig := ⟨"bucket1", "zenkobucket", ⟨fun _ => [⟨"key", "message"⟩]⟩,
  "\x00"⟩

/-- The sample reader at offset 7, no batch in progress. -/
def sampleReader : Reader := ⟨sampleSource, .new sampleSource, 7, false⟩

/-- The sample reader's source moved to another host. -/
def movedSource : SourceConfig := { sampleSource with host := "otherhost" }

theorem failed_refresh_not_retried_movedSource :
    (refresh movedSource none sampleReader).2 = false ∧
      (refresh movedSource none sampleReader).1.producer = sampleReader.producer ∧
      ∀ d, refresh movedSource d (refresh movedSource none sampleReader).1 =
        ((refresh movedSource none sampleReader).1, true) :=
  failed_refresh_not_retried (by decide)

/-- A bucket in the tail phase, its init nodes written and its offset at 7. -/
def tailCoord : Coord :=
  ⟨fun n => if n = .isStatusComplete then some (some "true") else some none, 7⟩

/-- A bucket whose ingestion has not begun: no init node exists yet. -/
def freshCoord : Coord := ⟨fun _ => none, 0⟩

/-- A raft-log record of `bucket1` with one put of `key`. -/
def putRecord (key : String) : LogRecord :=
  ⟨.str "bucket1", some [⟨.str "put", .undefined, .str key, .str "md"⟩]⟩

/-- A source that answers a read at `begin` with the header `start = begin`, then `log`. -/
def positional (log : List LogRecord) (req : ReadRequest) : RaftAnswer :=
  .header (some req.begin) log .end

/-- Every call succeeds, except the log-offset write when `offsetWriteFails`; `bucket1` lists
the one object `object1`. -/
def sampleEnv (answer : ReadRequest → RaftAnswer) (offsetWriteFails : Bool) : BatchEnv :=
  ⟨⟨fun _ => false, fun _ => false⟩, ⟨fun _ => some ["object1"], fun _ _ => some "md"⟩, answer,
    false, fun _ => false, offsetWriteFails⟩

end Backbeat
