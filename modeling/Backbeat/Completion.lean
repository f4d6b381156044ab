import Mathlib.Data.List.Forall2
import Backbeat.Batch

/-!
# Which batches call back

`processLogEntries` calls back only when the waterfall reaches its end or a phase passes an
error; an exception escaping a phase, or a wait for an event that never comes, ends the batch
with no callback and `_batchInProgress` still set. This module says which batches complete.

* `prePhases_ok` — a batch gets past publishing only as a tail batch: the source answered
  with a header and a non-null `start`, the stream ended, and some entry was staged and sent;
* `tail_batch_exact` — such a batch read fewer records than fill the record transform's
  writable side, passed to `filter` one event per entry of `filteredEntries`, in stream
  order, and moved the offset to `max(logOffset, start + k)`. The transform types the
  entries of the first `highWaterMark` records before the reader meets them, so there an
  entry with neither key nor type passes as a put (`untyped_entry_reaches_filter`), while
  `_processLogEntry` drops it from a later record;
* `absent_log_throws` — a tail batch whose read answers 404 or 416 never calls back, nor, by
  `completed_batch_sent`, one in which no extension staged anything: `_processPublishEntries`
  reads `length` of the undefined `entriesToPublish[targetBucket]`;
* `stream_failure_throws` — nor does a tail batch whose stream errs after the header, or has
  a record with no `entries`: the error is re-emitted on a stream with no listener left;
* `long_stream_never_calls_back` — nor does one whose answer holds `2 * highWaterMark - 1`
  records or more: the pipe pauses the response for good, and `'end'` never comes;
* `sent_batch_advances` — a batch that sent to the bus, whether or not it then calls back,
  read a header answer at the in-memory offset and left that offset past its records;
* `replayed_batch_same_entries` — two batches that read the same records and both sent passed
  the same events to `filter` and sent the same entries, so a replay publishes a batch
  unchanged.
-/

namespace Backbeat

variable (cfg : ReaderConfig) (env : BatchEnv)

/-! ### The phases of a completed batch -/

theorem readRecords_ok {params : Params} {b m : Batch} (h : readRecords cfg env params b = .ok m) :
    ∃ logRes, getRaftLog (env.answer ⟨b.reader.logOffset, params.maxRead⟩) = some logRes ∧
      m = { b with coord := (readInitState env.initRead b.coord).1,
                   st := { b.st with logRes := some logRes } } := by
  dsimp only [readRecords] at h
  split at h
  · cases h
  · split_ifs at h
    split at h
    · cases h
    · rename_i logRes hl
      cases h
      exact ⟨logRes, hl, rfl⟩

theorem prepareEntries_ok {b m : Batch} (hi : b.st.initState = none)
    (h : prepareEntries cfg b = .ok m) :
    m = { b with st := { b.st with prep := m.st.prep } } ∧
      (m.st.prep = b.st.prep ∨ ∃ s d, b.st.logRes = some ⟨some s, .stream d⟩ ∧
        onStream cfg b.st.prep d = .ok m.st.prep) := by
  unfold prepareEntries at h
  split at h
  · cases h
  · rename_i logRes hl
    rw [hi] at h
    obtain ⟨start, log⟩ := logRes
    cases log with
    | absent => cases h; exact ⟨rfl, .inl rfl⟩
    | entries es => dsimp only at h; split_ifs at h <;> cases h; exact ⟨rfl, .inl rfl⟩
    | stream d =>
      dsimp only at h
      split_ifs at h with hs
      · cases h; exact ⟨rfl, .inl rfl⟩
      · obtain ⟨s, rfl⟩ := Option.ne_none_iff_exists'.mp hs
        cases hp : onStream cfg b.st.prep d <;> rw [hp] at h <;> cases h
        exact ⟨rfl, .inr ⟨s, d, hl, hp⟩⟩

theorem publishEntries_ok {b m : Batch} (h : publishEntries env b = .ok m) :
    ∃ next es, stagedOffset b.st = some next ∧ b.st.prep.entriesToPublish = some es ∧
      m.st.nextLogOffset = next ∧ m.st.prep = b.st.prep ∧ m.st.initState = b.st.initState ∧
      m.reader = b.reader ∧ (es = [] ∨ m.sent = some es) := by
  dsimp only [publishEntries] at h
  split at h
  · cases h
  · rename_i next hn
    split at h
    · cases h
    · cases h; exact ⟨next, [], hn, by assumption, rfl, rfl, rfl, rfl, .inl rfl⟩
    · rename_i es _ he
      split_ifs at h
      cases h
      exact ⟨next, es, hn, he, rfl, rfl, rfl, rfl, .inr rfl⟩

theorem stage_ne_some_nil {h : Option (List KafkaEntry)} (hh : h ≠ some [])
    (es : List KafkaEntry) : stage h es ≠ some [] := by
  unfold stage; split_ifs with he
  · exact hh
  · simp [he]

theorem push_ne_some_nil {p : Prep} (hp : p.entriesToPublish ≠ some []) (evs : List Entry) :
    (p.push cfg evs).entriesToPublish ≠ some [] := by
  induction evs generalizing p with
  | nil => simpa using hp
  | cons e evs ih =>
    rw [Prep.push_cons]
    exact ih (stage_ne_some_nil hp _)

/-- The listeners never pass an error. -/
theorem onStream_ne_err (p : Prep) (d : Delivered) (q : Prep) : onStream cfg p d ≠ .err q := by
  unfold onStream
  cases hr : Res.forEach (onData cfg) p d.records with
  | ok m => simp only [Res.ok_bind]; split <;> nofun
  | err m => exact absurd hr (Res.forEach_ne_err (onData_ne_err cfg) _ _ _)
  | throw m => nofun

/-- The listeners go on only over a stream that ends, every record it delivered having gone
through the `'data'` listener. -/
theorem onStream_ok {p p' : Prep} {d : Delivered} (h : onStream cfg p d = .ok p') :
    d.stop = .end ∧ Res.forEach (onData cfg) p d.records = .ok p' := by
  obtain ⟨q, hq, hstop⟩ := Res.bind_eq_ok.mp h
  cases hs : d.stop <;> simp only [hs, Res.ok.injEq, reduceCtorEq] at hstop
  exact ⟨rfl, hstop ▸ hq⟩

/-- **The tail batch up to the checkpoint.** When the three phases before the checkpoint go
on, the batch was a tail batch: the source answered the read at the in-memory offset with a
header `start = s` and records `rs`, the stream ended, `filter` saw the events of the records
in order, as the reader met them, `nextLogOffset` is `s + k`, and the staged entries were
sent. -/
theorem prePhases_ok {params : Params} {coord : Coord} {reader : Reader} {m : Batch}
    (h : prePhases cfg env params (startBatch coord reader) = .ok m) :
    ∃ s rs, ∃ evss : List (List Entry),
      env.answer ⟨reader.logOffset, params.maxRead⟩ = .header (some s) rs .end ∧
      (deliver rs .end).stop = .end ∧
      (deliver rs .end).records.map (recordCalls cfg) = evss.map some ∧
      m.st.prep.calls = evss.flatten ∧
      m.st.nextLogOffset = some (s + rs.length) ∧
      m.st.prep.entriesToPublish =
        ((startBatch coord reader).st.prep.push cfg evss.flatten).entriesToPublish ∧
      m.sent = m.st.prep.entriesToPublish ∧ (∃ es, es ≠ [] ∧ m.sent = some es) ∧
      m.st.initState = none ∧
      m.reader = (startBatch coord reader).reader := by
  obtain ⟨m2, h12, hpu⟩ := Res.bind_eq_ok.mp h
  obtain ⟨m1, hrr, hpe⟩ := Res.bind_eq_ok.mp h12
  obtain ⟨logRes, hget, rfl⟩ := readRecords_ok cfg env hrr
  obtain ⟨hm2, hcase⟩ := prepareEntries_ok cfg rfl hpe
  obtain ⟨next, es, hstaged, hes, hnext, hprep, hinit, hreader, hsent⟩ := publishEntries_ok env hpu
  rcases hcase with hsame | ⟨s, d, hlog, hstream⟩
  · -- nothing was filtered: the handle is still `undefined`, and publishing throws
    rw [hsame] at hes; cases hes
  · -- the listeners went through the stream of a header answer
    simp only [Option.some.injEq] at hlog
    subst hlog
    change getRaftLog (env.answer ⟨reader.logOffset, params.maxRead⟩) = _ at hget
    cases hans : env.answer ⟨reader.logOffset, params.maxRead⟩ with
    | failed c => rw [hans, getRaftLog_failed] at hget; simp at hget
    | header start rs fin =>
      rw [hans] at hget
      simp only [getRaftLog_header, Option.some.injEq, LogRes.mk.injEq, Log.stream.injEq] at hget
      obtain ⟨rfl, rfl⟩ := hget
      obtain ⟨hstop, hloop⟩ := onStream_ok cfg hstream
      obtain ⟨rfl, -⟩ := deliver_end hstop
      obtain ⟨evss, hraw, hc, hn, he⟩ := forEach_onData_ok cfg hloop
      have hso : stagedOffset m2.st = some (some (s + m2.st.prep.nbLogRecordsRead)) := by
        rw [hm2]; rfl
      have hnx : next = some (s + rs.length) := by
        rw [hso, Option.some.injEq] at hstaged
        rw [← hstaged, hn, deliver_length hstop]; simp [startBatch, BatchState.fresh]
      have hne : es ≠ [] := by
        rintro rfl
        exact push_ne_some_nil cfg (p := (startBatch coord reader).st.prep) nofun evss.flatten
          (he ▸ hes)
      refine ⟨s, rs, evss, rfl, hstop, hraw, by rw [hprep, hc]; rfl, hnext.trans hnx,
        by rw [hprep, he], ?_, ?_,
        by rw [hinit, hm2]; rfl, by rw [hreader, hm2]⟩
      · rw [hprep, hes]; exact hsent.resolve_left hne
      · exact ⟨es, hne, hsent.resolve_left hne⟩

/-! ### The events of a tail batch -/

/-- The event `filter` receives for an entry `e` of a record of the source bucket, as the
reader meets it: `_processLogEntry`'s rewrite. -/
def Rewrites (e ev : Entry) : Prop :=
  IngestionReader.processLogEntry cfg.target (.str cfg.bucket) e = .filter ev

/-- The entries of the records of the source bucket, in stream order. -/
def sourceEntries (rs : List LogRecord) : List Entry :=
  (rs.filter (·.db = .str cfg.bucket)).flatMap (·.entries.getD [])

/-- The entries of a completed tail batch's records that reach the rewrite, as the reader met
them: every entry of the source bucket's first `highWaterMark` records, typed by the
transform, then the entries of the later records, as parsed, that have a key or a type. -/
def filteredEntries (rs : List LogRecord) : List Entry :=
  (sourceEntries cfg (rs.take highWaterMark)).map ListRecordStream.typed ++
    (sourceEntries cfg (rs.drop highWaterMark)).filter Entry.hasKeyOrType

theorem sourceEntries_cons (r : LogRecord) (rs : List LogRecord) :
    sourceEntries cfg (r :: rs) =
      (if r.db = .str cfg.bucket then r.entries.getD [] else []) ++ sourceEntries cfg rs := by
  unfold sourceEntries; split_ifs with h <;> simp [List.filter_cons, h]

theorem sourceEntries_append (rs rs' : List LogRecord) :
    sourceEntries cfg (rs ++ rs') = sourceEntries cfg rs ++ sourceEntries cfg rs' := by
  simp [sourceEntries, List.filter_append]

/-- Records rewritten by the transform hold the entries of the records as parsed, typed. -/
theorem sourceEntries_transform {rs hd : List LogRecord}
    (h : rs.map ListRecordStream.transform = hd.map some) :
    sourceEntries cfg hd = (sourceEntries cfg rs).map ListRecordStream.typed := by
  induction rs generalizing hd with
  | nil =>
    obtain rfl : hd = [] := by simpa using h.symm
    rfl
  | cons r rs ih =>
    cases hd with
    | nil => cases h
    | cons r' hd =>
      simp only [List.map_cons, List.cons.injEq] at h
      obtain ⟨db, _ | es⟩ := r
      · cases h.1
      · obtain rfl : r' = ⟨db, some (es.map ListRecordStream.typed)⟩ := by
          simpa [ListRecordStream.transform] using h.1.symm
        rw [sourceEntries_cons, sourceEntries_cons, ih h.2, List.map_append]
        split_ifs <;> simp

/-- The entries of a record of the source bucket that `_processLogEntry` keeps yield one event
each, in order; it drops the others. -/
theorem entryCalls_forall₂ {es evs : List Entry} (h : entryCalls cfg (.str cfg.bucket) es = some evs) :
    List.Forall₂ (Rewrites cfg) (es.filter Entry.hasKeyOrType) evs := by
  induction es generalizing evs with
  | nil => cases h; exact .nil
  | cons e es ih =>
    simp only [entryCalls] at h
    cases hs : IngestionReader.processLogEntry cfg.target (.str cfg.bucket) e with
    | skip =>
      rw [hs] at h
      simpa [List.filter_cons, IngestionReader.processLogEntry_eq_skip_iff.mp hs] using ih h
    | filter ev =>
      rw [hs] at h
      obtain ⟨evs', h', rfl⟩ := Option.map_eq_some'.mp h
      have hk : e.hasKeyOrType = true := by
        rw [← Bool.not_eq_false, ← IngestionReader.processLogEntry_eq_skip_iff, hs]; nofun
      simpa [List.filter_cons, hk] using List.Forall₂.cons (show Rewrites cfg e ev from hs) (ih h')
    | throw => rw [hs] at h; cases h

theorem recordCalls_forall₂ {r : LogRecord} {evs : List Entry} (h : recordCalls cfg r = some evs) :
    List.Forall₂ (Rewrites cfg)
      ((if r.db = .str cfg.bucket then r.entries.getD [] else []).filter Entry.hasKeyOrType) evs := by
  obtain ⟨db, _ | es⟩ := r
  · cases h
  · simp only [recordCalls] at h
    split_ifs at h ⊢ with hdb
    · subst hdb; exact entryCalls_forall₂ cfg h
    · cases h; exact .nil

/-- **The events of the records the reader met.** When every record went through the
`'data'` listener, the events passed to `filter` correspond one to one, in order, to the
source bucket's entries of these records that have a key or a type. -/
theorem records_forall₂ {rs : List LogRecord} {evss : List (List Entry)}
    (h : rs.map (recordCalls cfg) = evss.map some) :
    List.Forall₂ (Rewrites cfg) ((sourceEntries cfg rs).filter Entry.hasKeyOrType) evss.flatten := by
  induction rs generalizing evss with
  | nil => cases evss with
    | nil => exact .nil
    | cons _ _ => cases h
  | cons r rs ih =>
    cases evss with
    | nil => cases h
    | cons evs evss =>
      simp only [List.map_cons, List.cons.injEq, Option.some.injEq] at h
      rw [sourceEntries_cons, List.filter_append, List.flatten_cons]
      exact List.rel_append (recordCalls_forall₂ cfg h.1) (ih h.2)

/-- The entries of a stream that ends, as the reader met them, that have a key or a type are
`filteredEntries`: the transform typed those of the first `highWaterMark` records. -/
theorem deliver_filtered {rs : List LogRecord} {fin : StreamEnd}
    (h : (deliver rs fin).stop = .end) :
    (sourceEntries cfg (deliver rs fin).records).filter Entry.hasKeyOrType =
      filteredEntries cfg rs := by
  obtain ⟨-, -, hd, htake, hrec⟩ := deliver_end h
  rw [hrec, sourceEntries_append, List.filter_append, sourceEntries_transform cfg htake,
    filteredEntries]
  simp [List.filter_map, Function.comp_def]

/-- **The events of a stream that ends.** When the stream ended and every record went through
the `'data'` listener, the events passed to `filter` correspond one to one, in order, to
`filteredEntries`. -/
theorem calls_forall₂ {rs : List LogRecord} {fin : StreamEnd} {evss : List (List Entry)}
    (hstop : (deliver rs fin).stop = .end)
    (h : (deliver rs fin).records.map (recordCalls cfg) = evss.map some) :
    List.Forall₂ (Rewrites cfg) (filteredEntries cfg rs) evss.flatten :=
  deliver_filtered cfg hstop ▸ records_forall₂ cfg h

/-! ### Batches that complete -/

/-- Once the three phases reached `m`, the checkpoint leaves `batchState` and the sent entries
alone and the in-memory offset at `raised m`, however it ends. -/
theorem processLogEntries_of_pre {params : Params} {coord : Coord} {reader : Reader} {m : Batch}
    (hpre : prePhases cfg env params (startBatch coord reader) = .ok m) :
    (processLogEntries cfg env params coord reader).state.st = m.st ∧
      (processLogEntries cfg env params coord reader).state.sent = m.sent ∧
      (processLogEntries cfg env params coord reader).state.reader.logOffset = raised m := by
  have hq := pre_quiet cfg env params (startBatch coord reader)
  rw [hpre] at hq
  rw [processLogEntries_eq, hpre, Res.ok_bind]
  rcases saveLogOffset_spec env (b := m) hq.initState with ⟨hs, hr⟩ | ⟨-, hs⟩ | ⟨-, hs⟩ <;>
    rw [hs]
  · exact ⟨rfl, rfl, hr.symm⟩
  all_goals exact ⟨rfl, rfl, rfl⟩

/-- A batch that calls back without error went through the three phases to some `m`, and the
checkpoint behaved as `processLogEntries_of_pre` says. -/
theorem processLogEntries_ok {params : Params} {coord : Coord} {reader : Reader} {b : Batch}
    (h : processLogEntries cfg env params coord reader = .ok b) :
    ∃ m, prePhases cfg env params (startBatch coord reader) = .ok m ∧ b.st = m.st ∧
      b.sent = m.sent ∧ b.reader.logOffset = raised m := by
  cases hX : prePhases cfg env params (startBatch coord reader) with
  | ok m =>
    obtain rfl : b = (processLogEntries cfg env params coord reader).state := by rw [h]; rfl
    exact ⟨m, rfl, processLogEntries_of_pre cfg env hX⟩
  | err m | throw m => rw [processLogEntries_eq, hX] at h; simp [Res.finish] at h

/-- **A tail batch that completes.** When the source answered the read at the in-memory offset
with a header `start = s` and the records `rs`, and the batch calls back without error, the
stream held fewer records than fill the record transform's writable side, and `filter`
received one event for each entry of `filteredEntries`, in stream order: every entry of the
source bucket's first `highWaterMark` records after the transform, which gives it a type, so
that none is dropped; then every entry of the later records that has a key or a type, as
parsed, rewritten by `_processLogEntry`. `nextLogOffset` is `s` plus the number of records of
every `db`, and the in-memory offset is `max(logOffset, s + k)`. -/
theorem tail_batch_exact {params : Params} {coord : Coord} {reader : Reader} {b : Batch}
    {s : Int} {rs : List LogRecord} {fin : StreamEnd}
    (hans : env.answer ⟨reader.logOffset, params.maxRead⟩ = .header (some s) rs fin)
    (h : processLogEntries cfg env params coord reader = .ok b) :
    rs.length < 2 * highWaterMark - 1 ∧
      List.Forall₂ (Rewrites cfg) (filteredEntries cfg rs) b.st.prep.calls ∧
      b.st.nextLogOffset = some (s + rs.length) ∧
      b.reader.logOffset = max reader.logOffset (s + rs.length) := by
  obtain ⟨m, hpre, hst, -, hoff⟩ := processLogEntries_ok cfg env h
  obtain ⟨s', rs', evss, hans', hstop, hraw, hcalls, hnext, -, -, -, -, hreader⟩ :=
    prePhases_ok cfg env hpre
  rw [hans] at hans'
  obtain ⟨rfl, rfl, -⟩ : s = s' ∧ rs = rs' ∧ fin = .end := by simpa using hans'
  refine ⟨(deliver_end hstop).2.1, by rw [hst, hcalls]; exact calls_forall₂ cfg hstop hraw,
    by rw [hst, hnext], ?_⟩
  simp only [hoff, raised, hnext, hreader]
  rfl

/-- Three puts of `bucket1`. -/
def sampleLog : List LogRecord := [putRecord "object1", putRecord "object2", putRecord "object3"]

theorem tail_batch_exact_sampleLog : ∃ b,
    (sampleEnv (positional sampleLog) false).answer ⟨sampleReader.logOffset, none⟩ =
      .header (some 7) sampleLog .end ∧
    processLogEntries sampleConfig (sampleEnv (positional sampleLog) false) ⟨none⟩ tailCoord
      sampleReader = .ok b ∧
    (sampleLog.length < 2 * highWaterMark - 1 ∧
      List.Forall₂ (Rewrites sampleConfig) (filteredEntries sampleConfig sampleLog) b.st.prep.calls ∧
      b.st.nextLogOffset = some (7 + sampleLog.length) ∧
      b.reader.logOffset = max sampleReader.logOffset (7 + sampleLog.length)) :=
  ⟨_, rfl, rfl, @tail_batch_exact sampleConfig (sampleEnv (positional sampleLog) false) ⟨none⟩
    tailCoord sampleReader _ 7 sampleLog .end rfl rfl⟩

/-- A record of `bucket1` whose one entry has neither key nor type. -/
def untypedRecord : LogRecord :=
  ⟨.str "bucket1", some [⟨.undefined, .undefined, .undefined, .undefined⟩]⟩

/-- An entry with neither key nor type, in a record of the source bucket, reaches `filter` as a
put when its record is the first of the stream, which the transform rewrote. As the entry of
the 17th record, which the transform never reached, it is dropped by `_processLogEntry`. -/
theorem untyped_entry_reaches_filter :
    (∃ b, processLogEntries sampleConfig (sampleEnv (positional [untypedRecord]) false) ⟨none⟩
        tailCoord sampleReader = .ok b ∧
      b.st.prep.calls = [⟨.str "put", .str "zenkobucket", .undefined, .undefined⟩]) ∧
    (∃ b, processLogEntries sampleConfig
        (sampleEnv (positional (List.replicate 16 (putRecord "object1") ++ [untypedRecord])) false)
        ⟨none⟩ tailCoord sampleReader = .ok b ∧
      b.st.prep.calls =
        List.replicate 16 ⟨.str "put", .str "zenkobucket", .str "object1", .str "md"⟩) :=
  ⟨⟨_, rfl, rfl⟩, ⟨_, rfl, rfl⟩⟩

/-- **A completed batch sent its entries.** A batch that calls back without error handed a
non-empty list of staged entries to a bus send that succeeded: the path that skips an empty
send is never taken, since a batch in which nothing was staged throws. -/
theorem completed_batch_sent {params : Params} {coord : Coord} {reader : Reader} {b : Batch}
    (h : processLogEntries cfg env params coord reader = .ok b) :
    ∃ es, es ≠ [] ∧ b.sent = some es := by
  obtain ⟨m, hpre, -, hsent, -⟩ := processLogEntries_ok cfg env h
  obtain ⟨-, -, -, -, -, -, -, -, -, -, ⟨es, hne, hes⟩, -⟩ := prePhases_ok cfg env hpre
  exact ⟨es, hne, hsent.trans hes⟩

theorem completed_batch_sent_sampleLog : ∃ b,
    processLogEntries sampleConfig (sampleEnv (positional sampleLog) false) ⟨none⟩ tailCoord
      sampleReader = .ok b ∧ ∃ es, es ≠ [] ∧ b.sent = some es :=
  ⟨_, rfl, @completed_batch_sent sampleConfig (sampleEnv (positional sampleLog) false) ⟨none⟩
    tailCoord sampleReader _ rfl⟩

/-! ### Batches that send -/

theorem readRecords_sent (params : Params) (b : Batch) :
    (readRecords cfg env params b).state.sent = b.sent := by
  dsimp only [readRecords]
  repeat' split
  all_goals rfl

theorem prepareEntries_sent (b : Batch) : (prepareEntries cfg b).state.sent = b.sent := by
  unfold prepareEntries
  split
  · rfl
  · simp

theorem publishEntries_sent (b : Batch) :
    (publishEntries env b).state.sent = b.sent ∨ ∃ m, publishEntries env b = .ok m := by
  dsimp only [publishEntries]
  repeat' split
  all_goals first | exact .inl rfl | exact .inr ⟨_, rfl⟩

/-- Only phases that all go on send to the bus. -/
theorem prePhases_sent (params : Params) (b : Batch) :
    (prePhases cfg env params b).state.sent = b.sent ∨ ∃ m, prePhases cfg env params b = .ok m := by
  unfold prePhases
  cases hr : readRecords cfg env params b with
  | err r | throw r => left; simpa [hr] using readRecords_sent cfg env params b
  | ok r =>
    have h1 : r.sent = b.sent := by simpa [hr] using readRecords_sent cfg env params b
    simp only [Res.ok_bind]
    cases hp : prepareEntries cfg r with
    | err q | throw q => left; simpa [hp, h1] using prepareEntries_sent cfg r
    | ok q =>
      have h2 : q.sent = r.sent := by simpa [hp] using prepareEntries_sent cfg r
      simp only [Res.ok_bind]
      exact (publishEntries_sent env q).imp_left fun h3 => h3.trans (h2.trans h1)

/-- A batch that sent to the bus went through the three phases before the checkpoint: the
checkpoint sends nothing. -/
theorem sent_prePhases_ok {params : Params} {coord : Coord} {reader : Reader}
    (h : (processLogEntries cfg env params coord reader).state.sent ≠ none) :
    ∃ m, prePhases cfg env params (startBatch coord reader) = .ok m := by
  rcases prePhases_sent cfg env params (startBatch coord reader) with hs | hm
  · cases hX : prePhases cfg env params (startBatch coord reader) with
    | ok m => exact ⟨m, rfl⟩
    | err m | throw m =>
      -- the phases stopped before any send, and the checkpoint did not run
      rw [hX] at hs
      rw [processLogEntries_eq, hX] at h
      exact absurd hs h
  · exact hm

/-- **A batch that sends.** A batch that handed entries to a bus send that succeeded read a
header answer `start = s` with records `rs` at the in-memory offset, and left the in-memory
offset at `s + rs.length` or above, however its checkpoint ended: the offset is raised before
it is written. -/
theorem sent_batch_advances {params : Params} {coord : Coord} {reader : Reader}
    (h : (processLogEntries cfg env params coord reader).state.sent ≠ none) :
    ∃ s rs, env.answer ⟨reader.logOffset, params.maxRead⟩ = .header (some s) rs .end ∧
      s + rs.length ≤ (processLogEntries cfg env params coord reader).state.reader.logOffset := by
  obtain ⟨m, hX⟩ := sent_prePhases_ok cfg env h
  obtain ⟨s, rs, -, hans, -, -, -, hnext, -⟩ := prePhases_ok cfg env hX
  obtain ⟨-, -, hoff⟩ := processLogEntries_of_pre cfg env hX
  refine ⟨s, rs, hans, ?_⟩
  rw [hoff, raised, hnext]
  exact le_max_right _ _

/-- **A replayed batch publishes the same entries.** Two batches that read the same records,
from any offsets, Coordinators and readers and with any other results of their external calls,
and both sent to the bus, passed the same events to `filter` in the same order and sent the
same entries in the same order. So a batch replayed after a crash between its send and its
checkpoint publishes again exactly what it published. -/
theorem replayed_batch_same_entries {env' : BatchEnv} {params params' : Params}
    {coord coord' : Coord} {reader reader' : Reader} {s s' : Int} {rs : List LogRecord}
    {fin fin' : StreamEnd}
    (hans : env.answer ⟨reader.logOffset, params.maxRead⟩ = .header (some s) rs fin)
    (hans' : env'.answer ⟨reader'.logOffset, params'.maxRead⟩ = .header (some s') rs fin')
    (hsent : (processLogEntries cfg env params coord reader).state.sent ≠ none)
    (hsent' : (processLogEntries cfg env' params' coord' reader').state.sent ≠ none) :
    (processLogEntries cfg env params coord reader).state.st.prep.calls =
        (processLogEntries cfg env' params' coord' reader').state.st.prep.calls ∧
      (processLogEntries cfg env params coord reader).state.sent =
        (processLogEntries cfg env' params' coord' reader').state.sent := by
  obtain ⟨m, hX⟩ := sent_prePhases_ok cfg env hsent
  obtain ⟨m', hX'⟩ := sent_prePhases_ok cfg env' hsent'
  obtain ⟨_, rs₁, evss, ha, -, hraw, hc, -, he, hs, -⟩ := prePhases_ok cfg env hX
  obtain ⟨_, rs₂, evss', ha', -, hraw', hc', -, he', hs', -⟩ := prePhases_ok cfg env' hX'
  obtain ⟨hst, hsn, -⟩ := processLogEntries_of_pre cfg env hX
  obtain ⟨hst', hsn', -⟩ := processLogEntries_of_pre cfg env' hX'
  rw [hans] at ha
  rw [hans'] at ha'
  obtain ⟨-, rfl, -⟩ : s = _ ∧ rs = rs₁ ∧ fin = .end := by simpa using ha
  obtain ⟨-, rfl, -⟩ : s' = _ ∧ rs = rs₂ ∧ fin' = .end := by simpa using ha'
  -- the records determine the events, and the events the staged entries
  obtain rfl : evss = evss' :=
    (List.map_injective_iff.mpr (Option.some_injective _)) (hraw.symm.trans hraw')
  refine ⟨by rw [hst, hst', hc, hc'], ?_⟩
  rw [hsn, hsn', hs, hs', he, he']
  rfl

/-- The sample batch at 7 twice, its log-offset write failing the first time. -/
theorem replayed_batch_same_entries_sampleLog :
    (processLogEntries sampleConfig (sampleEnv (positional sampleLog) true) ⟨none⟩ tailCoord
        sampleReader).state.st.prep.calls =
      (processLogEntries sampleConfig (sampleEnv (positional sampleLog) false) ⟨none⟩ tailCoord
        sampleReader).state.st.prep.calls ∧
    (processLogEntries sampleConfig (sampleEnv (positional sampleLog) true) ⟨none⟩ tailCoord
        sampleReader).state.sent =
      (processLogEntries sampleConfig (sampleEnv (positional sampleLog) false) ⟨none⟩ tailCoord
        sampleReader).state.sent :=
  @replayed_batch_same_entries sampleConfig (sampleEnv (positional sampleLog) true)
    (sampleEnv (positional sampleLog) false) ⟨none⟩ ⟨none⟩ tailCoord tailCoord sampleReader
    sampleReader 7 7 sampleLog .end .end rfl rfl (by decide) (by decide)

/-! ### Batches that never call back -/

/-- A new bucket `bucket1` holding `object1`, every call succeeding: the batch never calls back
and stays in progress, and the Coordinator holds an empty `isStatusComplete` and the offset it
had. -/
theorem snapshot_batch_leaves_progress : ∃ b,
    processLogEntries sampleConfig (sampleEnv (positional []) false) ⟨none⟩ freshCoord
      sampleReader = .throw b ∧
    b.reader.batchInProgress = true ∧ b.coord.init .isStatusComplete = some none ∧
      b.coord.logOffset = freshCoord.logOffset :=
  ⟨_, rfl, rfl, rfl, rfl⟩

/-- In the same batch the producer built the put of `object1`, and `filter` never saw it. -/
theorem snapshot_events_never_filtered : ∃ b,
    processLogEntries sampleConfig (sampleEnv (positional []) false) ⟨none⟩ freshCoord
      sampleReader = .throw b ∧
    b.reader.producer.resLog =
      [RaftLogEntry.createPutEntry ⟨some "md", "object1", "bucket1"⟩ "zenkobucket"] ∧
    b.st.prep.calls = [] :=
  ⟨_, rfl, rfl, rfl⟩

/-- **An empty answer never calls back.** A tail batch whose read answers 404 or 416 leaves
`entriesToPublish[targetBucket]` undefined, and reading its `length` throws. -/
theorem absent_log_throws {params : Params} {coord : Coord} {reader : Reader} {s : InitState}
    (hinit : (readInitState env.initRead coord).2 = some s) (hs : s.isStatusComplete = true)
    (hans : env.answer ⟨reader.logOffset, params.maxRead⟩ = .failed (some 404) ∨
      env.answer ⟨reader.logOffset, params.maxRead⟩ = .failed (some 416)) :
    ∃ b, processLogEntries cfg env params coord reader = .throw b ∧
      b.reader.batchInProgress = true := by
  have hget : getRaftLog (env.answer ⟨reader.logOffset, params.maxRead⟩) = some ⟨none, .absent⟩ := by
    rcases hans with h | h <;> rw [h] <;> rfl
  simp [processLogEntries_eq, prePhases, readRecords, startBatch, hinit, hs, hget,
    prepareEntries, publishEntries, stagedOffset, BatchState.fresh, Res.finish]

theorem absent_log_throws_tailCoord :
    (readInitState (sampleEnv (fun _ => .failed (some 416)) false).initRead tailCoord).2 =
      some ⟨true, .undefined, .undefined, none⟩ ∧
    ∃ b, processLogEntries sampleConfig (sampleEnv (fun _ => .failed (some 416)) false) ⟨none⟩
        tailCoord sampleReader = .throw b ∧ b.reader.batchInProgress = true :=
  ⟨rfl, absent_log_throws sampleConfig _ rfl rfl (.inr rfl)⟩

/-- A reader that has caught up: the source answers 416, and the batch never calls back. -/
theorem caught_up_batch_never_completes : ∃ b,
    processLogEntries sampleConfig (sampleEnv (fun _ => .failed (some 416)) false) ⟨none⟩
      tailCoord sampleReader = .throw b ∧ b.reader.batchInProgress = true :=
  ⟨_, rfl, rfl⟩

/-- Every record of a stream that ends has an `entries` array: among the first
`highWaterMark` the transform throws on one without, and on a later one the `'data'` listener
does. -/
theorem deliver_entries {rs : List LogRecord} {fin : StreamEnd} {evss : List (List Entry)}
    (hstop : (deliver rs fin).stop = .end)
    (h : (deliver rs fin).records.map (recordCalls cfg) = evss.map some) :
    ∀ r ∈ rs, r.entries ≠ none := by
  obtain ⟨-, -, hd, htake, hrec⟩ := deliver_end hstop
  intro r hr hn
  rw [← List.take_append_drop highWaterMark rs, List.mem_append] at hr
  rcases hr with hr | hr
  · -- the transform met it
    have hmem := htake ▸ List.mem_map_of_mem ListRecordStream.transform hr
    simp [ListRecordStream.transform, hn] at hmem
  · -- the `'data'` listener met it
    have hmem := h ▸ List.mem_map_of_mem (recordCalls cfg) (hrec ▸ List.mem_append_right hd hr)
    simp [recordCalls, hn] at hmem

/-- A stream that errs after the header, has a record with no `entries` array, or has so many
records that the pipe pauses it, never lets the listeners go on. -/
theorem onStream_deliver_throws {p : Prep} {rs : List LogRecord} {fin : StreamEnd}
    (hfail : fin = .error ∨ (∃ r ∈ rs, r.entries = none) ∨ 2 * highWaterMark - 1 ≤ rs.length) :
    ∃ q, onStream cfg p (deliver rs fin) = .throw q := by
  cases hX : onStream cfg p (deliver rs fin) with
  | ok q =>
    obtain ⟨hstop, hloop⟩ := onStream_ok cfg hX
    obtain ⟨evss, hraw, -⟩ := forEach_onData_ok cfg hloop
    obtain ⟨rfl, hlen, -⟩ := deliver_end hstop
    rcases hfail with hfin | ⟨r, hr, hn⟩ | hlong
    · cases hfin
    · exact absurd hn (deliver_entries cfg hstop hraw r hr)
    · omega
  | err q => exact absurd hX (onStream_ne_err cfg p _ q)
  | throw q => exact ⟨q, rfl⟩

/-- A tail batch whose listeners never go on over the stream of its header answer never calls
back, and stays in progress with both offsets as they were. With a `null` start the listeners
are never attached, and publishing throws. -/
theorem tail_batch_throws_of_stream {params : Params} {coord : Coord} {reader : Reader}
    {s : InitState} {start : Option Int} {rs : List LogRecord} {fin : StreamEnd}
    (hinit : (readInitState env.initRead coord).2 = some s) (hs : s.isStatusComplete = true)
    (hans : env.answer ⟨reader.logOffset, params.maxRead⟩ = .header start rs fin)
    (hstream : ∀ p, ∃ q, onStream cfg p (deliver rs fin) = .throw q) :
    ∃ b, processLogEntries cfg env params coord reader = .throw b ∧
      b.reader.logOffset = reader.logOffset ∧ b.coord.logOffset = coord.logOffset ∧
      b.reader.batchInProgress = true := by
  have hread : readRecords cfg env params (startBatch coord reader) =
      .ok { startBatch coord reader with
        coord := (readInitState env.initRead coord).1
        st := { BatchState.fresh with logRes := some ⟨start, .stream (deliver rs fin)⟩ } } := by
    simp [readRecords, startBatch, hinit, hs, hans]
  cases start with
  | none =>
    -- no listener is attached, and nothing is staged for publishing
    simp [processLogEntries_eq, prePhases, hread, prepareEntries, publishEntries, stagedOffset,
      BatchState.fresh, Res.finish]
    exact ⟨rfl, rfl⟩
  | some s0 =>
    -- the listeners throw
    obtain ⟨q, hq⟩ := hstream ⟨0, 0, none, []⟩
    simp [processLogEntries_eq, prePhases, hread, prepareEntries, BatchState.fresh, hq, Res.finish]
    exact ⟨rfl, rfl⟩

/-- **A stream failure never calls back.** In a tail batch whose read is answered with a
header, an error of the stream after the header (of the HTTP stream or of the JSON parser) or a
record with no `entries` array throws: at the header `getRaftLog` removed the record
transform's `error` listeners, so the error it re-emits there escapes the reader, and so does
the `TypeError` of the transform or of the `'data'` listener. The batch never calls back and
stays in progress, with both offsets as they were. -/
theorem stream_failure_throws {params : Params} {coord : Coord} {reader : Reader}
    {s : InitState} {start : Option Int} {rs : List LogRecord} {fin : StreamEnd}
    (hinit : (readInitState env.initRead coord).2 = some s) (hs : s.isStatusComplete = true)
    (hans : env.answer ⟨reader.logOffset, params.maxRead⟩ = .header start rs fin)
    (hfail : fin = .error ∨ ∃ r ∈ rs, r.entries = none) :
    ∃ b, processLogEntries cfg env params coord reader = .throw b ∧
      b.reader.logOffset = reader.logOffset ∧ b.coord.logOffset = coord.logOffset ∧
      b.reader.batchInProgress = true :=
  tail_batch_throws_of_stream cfg env hinit hs hans fun _ =>
    onStream_deliver_throws cfg (hfail.imp_right .inl)

theorem stream_failure_throws_tailCoord : ∃ b,
    processLogEntries sampleConfig
        (sampleEnv (fun _ => .header (some 7) [putRecord "object1"] .error) false) ⟨none⟩
        tailCoord sampleReader = .throw b ∧
      b.reader.logOffset = sampleReader.logOffset ∧ b.coord.logOffset = tailCoord.logOffset ∧
      b.reader.batchInProgress = true :=
  stream_failure_throws sampleConfig _ (s := ⟨true, .undefined, .undefined, none⟩) rfl rfl rfl (.inl rfl)

/-- **A long stream never calls back.** In a tail batch whose read is answered with a header and
at least `2 * highWaterMark - 1` records, the record that fills the record transform's writable
side makes the pipe pause the response, and nothing drains the transform to resume it: `'end'`
never comes. The batch never calls back and stays in progress, with both offsets as they
were, whatever the records hold. -/
theorem long_stream_never_calls_back {params : Params} {coord : Coord} {reader : Reader}
    {s : InitState} {start : Option Int} {rs : List LogRecord} {fin : StreamEnd}
    (hinit : (readInitState env.initRead coord).2 = some s) (hs : s.isStatusComplete = true)
    (hans : env.answer ⟨reader.logOffset, params.maxRead⟩ = .header start rs fin)
    (hlong : 2 * highWaterMark - 1 ≤ rs.length) :
    ∃ b, processLogEntries cfg env params coord reader = .throw b ∧
      b.reader.logOffset = reader.logOffset ∧ b.coord.logOffset = coord.logOffset ∧
      b.reader.batchInProgress = true :=
  tail_batch_throws_of_stream cfg env hinit hs hans fun _ =>
    onStream_deliver_throws cfg (.inr (.inr hlong))

/-- The sample bucket at 7, whose source holds the put of `object1` at every position and
answers with the 31 records from 7 on. -/
theorem long_stream_never_calls_back_tailCoord : ∃ b,
    processLogEntries sampleConfig
        (sampleEnv (positional (List.replicate 31 (putRecord "object1"))) false) ⟨none⟩
        tailCoord sampleReader = .throw b ∧
      b.reader.logOffset = sampleReader.logOffset ∧ b.coord.logOffset = tailCoord.logOffset ∧
      b.reader.batchInProgress = true :=
  long_stream_never_calls_back sampleConfig _ (s := ⟨true, .undefined, .undefined, none⟩) rfl rfl
    rfl (by decide)

end Backbeat
