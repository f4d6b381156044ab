import Mathlib.Data.List.Sort
import Backbeat.Completion

/-!
# Runs of the ingestion of one bucket

A run of the ingestion of one bucket is a sequence of steps over the Coordinator and the
reader process: batches of `processLogEntries`, each with the results of all its external
calls as an input (`BatchEnv`), `refresh` calls, crashes of the process, and restarts that
set up a new reader, its producer built from the decrypted secret, at the log offset the
Coordinator holds (a setup that fails leaves the process down). A crash in the middle of a
batch leaves the Coordinator as a whole batch whose later calls failed leaves it, so
batches are steps of their own. The run also keeps, as ghost state, what it observed of
every batch (`Report`: the source's answer, the events passed to `filter`, the staged
entries and the entries of a successful bus send) and every value issued to the log-offset
node.

Two results, each an invariant carried step by step along every run:

* `logOffset_never_decreases` — while the process lives, its in-memory offset never goes
  down and the values it writes to the Coordinator never decrease. The step facts are
  `processLogEntries_progress` and `refresh_logOffset`; a written value is the in-memory
  offset after the batch, so it is at least every value written before it.
* `no_lost_tail_position` — with a source that answers a read at `b` with the header
  `start = b` followed by the log's records from `b` on (`PositionalSource`), every
  position from the offset the bucket started at up to the offset on the Coordinator is
  covered at every point of the run: some batch read the record there, passed the
  events of the source bucket's entries of its records to `filter`, and handed every
  staged entry to a bus send that succeeded. The events are those of `filteredEntries`:
  every entry of the first `highWaterMark` records, typed by the record transform, and the
  entries with a key or a type of the later ones. The invariant (`Covering`) also covers every
  position below the live reader's in-memory offset, which runs ahead of the Coordinator
  when a log-offset write fails (`failed_offset_write_moves_reader`); a restart reloads the
  Coordinator's offset, which is covered. The snapshot phase never calls back, so it never
  moves an offset, and the positions below a snapshot's `cseq` are never needed.

A third says what one process never does: publish a position twice (`published_once`). A
batch that sends to the bus has read the records from its in-memory offset on and leaves the
offset past them, even when its log-offset write fails (`sent_batch_advances`), so the batches
of one process publish disjoint ranges (`PublishedOnce`). A restart goes back to the
Coordinator's offset, so across processes a position can be published again: delivery is at
least once.

Two more facts of whole runs follow from the batch-level ones. The Coordinator's offset never
decreases (`coord_logOffset_never_decreases`), because the live reader's offset is never
behind it (`Behind`). And no init-state node is ever written (`init_nodes_never_written`):
only the snapshot phase stages an init state, and it never reaches the checkpoint, so a bucket
whose `isStatusComplete` is not `'true'` when its ingestion begins never reaches the tail
phase.

The runs let a batch start whatever `_batchInProgress` holds. That is more runs than the
populator makes, which only strengthens the results.
-/

namespace Backbeat

/-! ### Runs as folds -/

section Scan

variable {σ α : Type} (f : σ → α → σ)

/-- A property that every step of a run preserves holds at every point of the run. -/
theorem scanl_invariant {P : σ → Prop} {as : List α}
    (hstep : ∀ s a, a ∈ as → P s → P (f s a)) {s : σ} (hs : P s) :
    ∀ x ∈ List.scanl f s as, P x := by
  induction as generalizing s with
  | nil => simpa using hs
  | cons a as ih =>
    simp only [List.scanl_cons, List.singleton_append, List.mem_cons, forall_eq_or_imp]
    exact ⟨hs, ih (fun s' a' ha' => hstep s' a' (.tail _ ha')) (hstep s a (.head _) hs)⟩

/-- A quantity that no step lowers, from a state with a property every step preserves, never
decreases along a run. -/
theorem scanl_map_sorted {P : σ → Prop} {g : σ → Int} (hstep : ∀ s a, P s → P (f s a))
    (hmono : ∀ s a, P s → g s ≤ g (f s a)) {s : σ} (hs : P s) (as : List α) :
    ((List.scanl f s as).map g).Sorted (· ≤ ·) := by
  induction as generalizing s with
  | nil => simp
  | cons a as ih =>
    simp only [List.scanl_cons, List.singleton_append, List.map_cons, List.sorted_cons,
      List.mem_map]
    refine ⟨?_, ih (hstep s a hs)⟩
    rintro _ ⟨x, hx, rfl⟩
    exact (scanl_invariant f (P := fun x => P x ∧ g s ≤ g x)
      (fun s' a' _ h => ⟨hstep s' a' h.1, h.2.trans (hmono s' a' h.1)⟩)
      ⟨hstep s a hs, hmono s a hs⟩ x hx).2

end Scan

/-! ### The live reader -/

/-- What a run observes of one batch: the source's answer to the batch's read request (read
in the tail phase only), the events passed to `filter`, the entries staged under the
target, and the entries of a bus send that succeeded. -/
structure Report where
  answer : RaftAnswer
  calls : List Entry
  staged : Option (List KafkaEntry)
  sent : Option (List KafkaEntry)

/-- The report of a batch run by the reader `r`, ending in `b`. -/
def batchReport (env : BatchEnv) (params : Params) (r : Reader) (b : Batch) : Report :=
  ⟨env.answer ⟨r.logOffset, params.maxRead⟩, b.st.prep.calls, b.st.prep.entriesToPublish,
    b.sent⟩

/-- What outlives the reader process: the Coordinator, the reports of the batches so far,
and the values issued to the log-offset node, in order. -/
structure World where
  coord : Coord
  reports : List Report
  written : List Int

/-- A step of a live reader: a batch with the results of its external calls, or a
`refresh` with the new source configuration and the result of decrypting its secret. -/
inductive ReaderStep where
  | batch (env : BatchEnv) (params : Params)
  | refresh (sourceInfo : SourceConfig) (decrypted : Option String)

variable (cfg : ReaderConfig)

/-- One step of a live reader. -/
def ReaderStep.apply : World × Reader → ReaderStep → World × Reader
  | (w, r), .batch env params =>
    let b := (processLogEntries cfg env params w.coord r).state
    (⟨b.coord, w.reports ++ [batchReport env params r b], w.written ++ b.written.toList⟩,
      b.reader)
  | (w, r), .refresh sourceInfo decrypted => (w, (Backbeat.refresh sourceInfo decrypted r).1)

/-- The states of a run of a live reader, the first one included. -/
def liveRun (s : World × Reader) (steps : List ReaderStep) : List (World × Reader) :=
  List.scanl (ReaderStep.apply cfg) s steps

theorem ReaderStep.logOffset_le (s : World × Reader) (st : ReaderStep) :
    s.2.logOffset ≤ (st.apply cfg s).2.logOffset := by
  obtain ⟨w, r⟩ := s
  cases st with
  | batch env params => exact (processLogEntries_progress cfg env params w.coord r).logOffset_le
  | refresh sourceInfo decrypted => exact (refresh_logOffset sourceInfo decrypted r).ge

/-- A step writes at most one value to the log-offset node: its new in-memory offset. -/
theorem ReaderStep.written_eq (s : World × Reader) (st : ReaderStep) :
    ∃ ws, (st.apply cfg s).1.written = s.1.written ++ ws ∧
      ∀ v ∈ ws, v = (st.apply cfg s).2.logOffset := by
  obtain ⟨w, r⟩ := s
  cases st with
  | batch env params =>
    refine ⟨_, rfl, fun v hv => ?_⟩
    rcases (processLogEntries_progress cfg env params w.coord r).written with h | h <;>
      simp_all [ReaderStep.apply]
  | refresh sourceInfo decrypted => exact ⟨[], by simp [ReaderStep.apply], by simp⟩

/-- The written values are sorted and none is above the in-memory offset. -/
def WritesBelow (s : World × Reader) : Prop :=
  s.1.written.Sorted (· ≤ ·) ∧ ∀ v ∈ s.1.written, v ≤ s.2.logOffset

theorem WritesBelow.step {s : World × Reader} (h : WritesBelow s) (st : ReaderStep) :
    WritesBelow (st.apply cfg s) := by
  obtain ⟨ws, hw, hws⟩ := ReaderStep.written_eq cfg s st
  have hold : ∀ v ∈ s.1.written, v ≤ (st.apply cfg s).2.logOffset :=
    fun v hv => (h.2 v hv).trans (ReaderStep.logOffset_le cfg s st)
  rw [WritesBelow, hw]
  refine ⟨List.pairwise_append.mpr ⟨h.1, ?_, fun a ha b hb => hws b hb ▸ hold a ha⟩, ?_⟩
  · exact List.pairwise_of_forall_mem_list fun a ha b hb => by rw [hws a ha, hws b hb]
  · intro v hv
    rcases List.mem_append.mp hv with hv | hv
    exacts [hold v hv, (hws v hv).le]

/-- **The offset never goes backwards.** Along every run of a reader, whatever the results
of the external calls, `info.start`, `cseq` and the record counts, the in-memory offset
never decreases, and at every point the values written to the log-offset node so far are
non-decreasing. -/
theorem logOffset_never_decreases (coord : Coord) (reader : Reader) (steps : List ReaderStep) :
    ((liveRun cfg (⟨coord, [], []⟩, reader) steps).map (·.2.logOffset)).Sorted (· ≤ ·) ∧
      ∀ s ∈ liveRun cfg (⟨coord, [], []⟩, reader) steps, s.1.written.Sorted (· ≤ ·) :=
  ⟨scanl_map_sorted _ (P := fun _ => True) (fun _ _ _ => trivial)
    (fun s st _ => ReaderStep.logOffset_le cfg s st) trivial steps,
    fun s hs => (scanl_invariant _ (P := WritesBelow) (fun s st _ h => WritesBelow.step cfg h st)
      ⟨List.sorted_nil, by simp⟩ s hs).1⟩

/-! ### One process publishes each position once -/

/-- The source answers a read at `begin` with a header whose `start` is `begin`. -/
def AnswersAtBegin (env : BatchEnv) : Prop :=
  ∀ req start rs fin, env.answer req = .header start rs fin → start = some req.begin

/-- A live step whose batch, if it is one, reads from such a source. -/
def ReaderStep.AtBegin : ReaderStep → Prop
  | .batch env _ => AnswersAtBegin env
  | .refresh _ _ => True

/-- The batch of a report sent its staged entries to the bus, and read the raft log's record
at `p`: its read was answered with a header `start = s` and the records from `s` on, `p`
among them. -/
def Report.Publishes (rep : Report) (p : Int) : Prop :=
  rep.sent ≠ none ∧ ∃ s rs fin, rep.answer = .header (some s) rs fin ∧ s ≤ p ∧ p < s + rs.length

/-- A batch publishes only positions from the in-memory offset it starts at up to the one it
leaves (`sent_batch_advances`). -/
theorem batch_publishes_between {env : BatchEnv} (params : Params) (coord : Coord) (r : Reader)
    (hsrc : AnswersAtBegin env) (p : Int)
    (hp : (batchReport env params r (processLogEntries cfg env params coord r).state).Publishes p) :
    r.logOffset ≤ p ∧ p < (processLogEntries cfg env params coord r).state.reader.logOffset := by
  obtain ⟨hsent, s, rs, fin, hans, hlo, hhi⟩ := hp
  obtain ⟨s', rs', hans', hle⟩ := sent_batch_advances cfg env hsent
  have hs : some s = some r.logOffset := hsrc _ _ _ _ hans
  have hans2 : env.answer ⟨r.logOffset, params.maxRead⟩ = .header (some s) rs fin := hans
  rw [hans2] at hans'
  obtain ⟨rfl, rfl, -⟩ : s = s' ∧ rs = rs' ∧ fin = .end := by simpa using hans'
  obtain rfl := Option.some.inj hs
  omega

/-- The invariant of a live run: no two reports publish the same position, and every
published position is below the in-memory offset. -/
structure PublishedOnce (s : World × Reader) : Prop where
  pairwise : s.1.reports.Pairwise fun a b => ∀ p, a.Publishes p → ¬b.Publishes p
  below : ∀ rep ∈ s.1.reports, ∀ p, rep.Publishes p → p < s.2.logOffset

/-- A step keeps the invariant: a batch's report publishes positions at or above the offset it
starts at, which every earlier published position is below, and below the offset it leaves. -/
theorem PublishedOnce.step {s : World × Reader} (h : PublishedOnce s) {st : ReaderStep}
    (hst : st.AtBegin) : PublishedOnce (st.apply cfg s) := by
  obtain ⟨w, r⟩ := s
  have hle := ReaderStep.logOffset_le cfg (w, r) st
  cases st with
  | batch env params =>
    have hnew := batch_publishes_between cfg params w.coord r hst
    refine ⟨List.pairwise_append.mpr ⟨h.pairwise, List.pairwise_singleton _ _, ?_⟩, ?_⟩
    · -- an earlier position is below the batch's first one
      intro a ha b hb p hpa hpb
      rw [List.mem_singleton] at hb
      subst hb
      exact absurd (hnew p hpb).1 (not_le.mpr (h.below a ha p hpa))
    · intro rep hrep p hp
      rcases List.mem_append.mp hrep with hrep | hrep
      · exact (h.below rep hrep p hp).trans_le hle
      · rw [List.mem_singleton] at hrep
        subst hrep
        exact (hnew p hp).2
  | refresh sourceInfo decrypted =>
    exact ⟨h.pairwise, fun rep hrep p hp => (h.below rep hrep p hp).trans_le hle⟩

/-- **One process publishes each position once.** Along every run of a live reader, with
batches and refreshes and any results of the external calls, from a source that answers each
read at the offset asked, no two batches publish the same position of the raft log: a batch
that sends to the bus moves the in-memory offset past every record it read, even when its
log-offset write then fails, and the next batch reads from there. -/
theorem published_once (coord : Coord) (reader : Reader) (steps : List ReaderStep)
    (hsrc : ∀ st ∈ steps, st.AtBegin) :
    ∀ s ∈ liveRun cfg (⟨coord, [], []⟩, reader) steps,
      s.1.reports.Pairwise fun a b => ∀ p, a.Publishes p → ¬b.Publishes p :=
  fun s hs => (scanl_invariant _ (P := PublishedOnce)
    (fun s st hst h => h.step cfg (hsrc st hst)) ⟨.nil, by simp⟩ s hs).pairwise

theorem published_once_sampleReader :
    (∀ st ∈ [ReaderStep.batch (sampleEnv (positional [putRecord "object1"]) false) ⟨none⟩,
      .batch (sampleEnv (positional [putRecord "object2"]) false) ⟨none⟩], st.AtBegin) ∧
    ∀ s ∈ liveRun sampleConfig (⟨tailCoord, [], []⟩, sampleReader)
        [.batch (sampleEnv (positional [putRecord "object1"]) false) ⟨none⟩,
          .batch (sampleEnv (positional [putRecord "object2"]) false) ⟨none⟩],
      s.1.reports.Pairwise fun a b => ∀ p, a.Publishes p → ¬b.Publishes p :=
  have h : ∀ st ∈ [ReaderStep.batch (sampleEnv (positional [putRecord "object1"]) false) ⟨none⟩,
      .batch (sampleEnv (positional [putRecord "object2"]) false) ⟨none⟩], st.AtBegin := by
    simp only [List.mem_cons, List.mem_singleton, List.not_mem_nil, or_false]
    rintro st (rfl | rfl) <;> rintro req start rs fin ⟨⟩ <;> rfl
  ⟨h, published_once sampleConfig _ _ _ h⟩

/-! ### Crashes and restarts -/

/-- A step of the ingestion of a bucket: a step of the live reader (none while the process is
down), a crash, or a restart with the source configuration and the result of decrypting its
secret. -/
inductive Step where
  | live (s : ReaderStep)
  | crash
  | restart (source : SourceConfig) (decrypted : Option String)

/-- The state of the ingestion of a bucket: the world, and the reader process, `none` while
it is down. -/
structure RunState where
  world : World
  reader : Option Reader

/-- Modelled from the spec: a restarted process, `new IngestionReader(...)` then
`setup(done)`. The setup builds the producer with the decrypted secret
(`_setupIngestionProducer`), then `LogReader.setup`, which is not in the sources, reads the log
offset from the Coordinator (the spec's `readLogOffset()`). `none` when the setup fails: that
reader never runs a batch. -/
def restartReader (source : SourceConfig) (decrypted : Option String) (coord : Coord) :
    Option Reader :=
  match setupIngestionProducer decrypted ⟨source, .new source, coord.logOffset, false⟩ with
  | (r, true) => some r
  | (_, false) => none

/-- A restarted reader starts from the Coordinator's offset. -/
theorem restartReader_logOffset {source : SourceConfig} {decrypted : Option String}
    {coord : Coord} {r : Reader} (h : restartReader source decrypted coord = some r) :
    r.logOffset = coord.logOffset := by
  cases decrypted <;> simp [restartReader, setupIngestionProducer] at h
  rw [← h]

/-- One step of a run. -/
def Step.apply (s : RunState) : Step → RunState
  | .live st =>
    match s.reader with
    | some r => let s' := st.apply cfg (s.world, r); ⟨s'.1, some s'.2⟩
    | none => s
  | .crash => { s with reader := none }
  | .restart source decrypted => { s with reader := restartReader source decrypted s.world.coord }

/-- The ingestion of a bucket as it begins: the Coordinator, no reader yet, nothing observed. -/
def ingestionStart (coord : Coord) : RunState := ⟨⟨coord, [], []⟩, none⟩

/-- The states of a run, the first one included. -/
def runStates (s : RunState) (steps : List Step) : List RunState :=
  List.scanl (Step.apply cfg) s steps

/-- The source assumption: a read at `begin` answered with a header has `start = begin`, and
its records are the log's records at `begin`, `begin + 1`, ... -/
def PositionalSource (log : Int → LogRecord) (env : BatchEnv) : Prop :=
  ∀ req start rs fin, env.answer req = .header start rs fin →
    start = some req.begin ∧ ∀ i (h : i < rs.length), rs.get ⟨i, h⟩ = log (req.begin + i)

/-- A step whose batch, if it is one, reads from a positional source. -/
def Step.Positional (log : Int → LogRecord) : Step → Prop
  | .live (.batch env _) => PositionalSource log env
  | _ => True

/-- Position `p` of the raft log is covered by a report: the batch's read was answered with
a header `start = s` and the log's records from `s` on, `p` among them; `filter` received, in
order, one event for each of `filteredEntries` of these records (every entry with a key or a
type among them); and every staged entry went to a bus send that succeeded. -/
def Report.Covers (log : Int → LogRecord) (rep : Report) (p : Int) : Prop :=
  ∃ s rs fin, rep.answer = .header (some s) rs fin ∧ s ≤ p ∧ p < s + rs.length ∧
    (∀ i (h : i < rs.length), rs.get ⟨i, h⟩ = log (s + i)) ∧
    List.Forall₂ (Rewrites cfg) (filteredEntries cfg rs) rep.calls ∧
    rep.sent = rep.staged ∧ rep.sent ≠ none

/-- Every position from `o0` up to `o` is covered by one of the reports. -/
def CoveredBelow (log : Int → LogRecord) (o0 : Int) (reports : List Report) (o : Int) : Prop :=
  ∀ p, o0 ≤ p → p < o → ∃ rep ∈ reports, rep.Covers cfg log p

theorem CoveredBelow.append {log : Int → LogRecord} {o0 o : Int} {reports : List Report}
    (h : CoveredBelow cfg log o0 reports o) (more : List Report) :
    CoveredBelow cfg log o0 (reports ++ more) o := fun p h0 hp =>
  let ⟨rep, hrep, hc⟩ := h p h0 hp
  ⟨rep, List.mem_append_left _ hrep, hc⟩

/-- **What a batch covers.** From a positional source, a batch leaves the in-memory offset
where it was, or its report covers every position from there up to the new one. -/
theorem batch_covers {log : Int → LogRecord} {env : BatchEnv} (params : Params) (coord : Coord)
    (r : Reader) (hsrc : PositionalSource log env) :
    (processLogEntries cfg env params coord r).state.reader.logOffset = r.logOffset ∨
      ∀ p, r.logOffset ≤ p → p < (processLogEntries cfg env params coord r).state.reader.logOffset →
        (batchReport env params r (processLogEntries cfg env params coord r).state).Covers cfg log p := by
  have hq := pre_quiet cfg env params (startBatch coord r)
  cases hX : prePhases cfg env params (startBatch coord r) with
  | ok m =>
    right
    obtain ⟨hst, hsent, hoff⟩ := processLogEntries_of_pre cfg env hX
    obtain ⟨s, rs, evss, hans, hstop, hraw, hcalls, hnext, -, hstaged, hne, -, hreader⟩ :=
      prePhases_ok cfg env hX
    obtain ⟨hs, hlog⟩ := hsrc _ _ _ _ hans
    obtain rfl : s = r.logOffset := Option.some.inj hs
    intro p hlo hhi
    have hraised : raised m = max r.logOffset (r.logOffset + rs.length) := by
      simp only [raised, hnext, hreader]; rfl
    refine ⟨r.logOffset, rs, .end, hans, hlo, by omega, hlog, ?_, ?_, ?_⟩
    · simp only [batchReport, hst, hcalls]; exact calls_forall₂ cfg hstop hraw
    · simp only [batchReport, hsent, hst, hstaged]
    · simp only [batchReport, hsent]; obtain ⟨es, -, hes⟩ := hne; simp [hes]
  | err m | throw m =>
    left
    rw [hX] at hq
    rw [processLogEntries_eq, hX]
    exact hq.readerOffset

/-- The invariant of a run: every position from `o0` is covered up to the Coordinator's
offset, and up to the live reader's in-memory offset. -/
structure Covering (log : Int → LogRecord) (o0 : Int) (s : RunState) : Prop where
  coord : CoveredBelow cfg log o0 s.world.reports s.world.coord.logOffset
  reader : ∀ r, s.reader = some r → CoveredBelow cfg log o0 s.world.reports r.logOffset

theorem Covering.start (log : Int → LogRecord) (coord : Coord) :
    Covering cfg log coord.logOffset (ingestionStart coord) :=
  ⟨fun p h0 hp => absurd hp (not_lt.mpr h0), fun _ h => by cases h⟩

/-- A batch keeps the invariant: the positions below the new in-memory offset are covered
before the batch or by its report (`batch_covers`), and the Coordinator's offset is kept or
set to the new in-memory offset (`processLogEntries_progress`). -/
theorem Covering.batch {log : Int → LogRecord} {o0 : Int} {w : World} {r : Reader}
    (h : Covering cfg log o0 ⟨w, some r⟩) {env : BatchEnv} (params : Params)
    (hsrc : PositionalSource log env) :
    Covering cfg log o0 ((Step.live (.batch env params)).apply cfg ⟨w, some r⟩) := by
  have hr := h.reader r rfl
  have hnew : CoveredBelow cfg log o0
      (w.reports ++ [batchReport env params r (processLogEntries cfg env params w.coord r).state])
      (processLogEntries cfg env params w.coord r).state.reader.logOffset := by
    rcases batch_covers cfg params w.coord r hsrc with heq | hcov
    · rw [heq]; exact hr.append cfg _
    · intro p h0 hp
      by_cases hpr : p < r.logOffset
      · exact hr.append cfg _ p h0 hpr
      · exact ⟨_, List.mem_append_right _ (List.mem_singleton_self _),
          hcov p (not_lt.mp hpr) hp⟩
  refine ⟨?_, fun r' hr' => by cases hr'; exact hnew⟩
  rcases (processLogEntries_progress cfg env params w.coord r).coordOffset with hc | hc
  · show CoveredBelow cfg log o0 _ (processLogEntries cfg env params w.coord r).state.coord.logOffset
    rw [hc]; exact h.coord.append cfg _
  · show CoveredBelow cfg log o0 _ (processLogEntries cfg env params w.coord r).state.coord.logOffset
    rw [hc]; exact hnew

/-- Every step keeps the invariant. -/
theorem Covering.step {log : Int → LogRecord} {o0 : Int} {s : RunState}
    (h : Covering cfg log o0 s) {st : Step} (hst : st.Positional log) :
    Covering cfg log o0 (st.apply cfg s) := by
  obtain ⟨w, reader⟩ := s
  cases st with
  | live rst =>
    cases reader with
    | none => exact h
    | some r =>
      cases rst with
      | batch env params => exact h.batch cfg params hst
      | refresh sourceInfo decrypted =>
        refine ⟨h.coord, fun r' hr' => ?_⟩
        cases hr'
        simpa [Step.apply, ReaderStep.apply] using h.reader r rfl
  | crash => exact ⟨h.coord, fun _ h => by cases h⟩
  | restart source decrypted =>
    exact ⟨h.coord, fun r' hr' => restartReader_logOffset hr' ▸ h.coord⟩

/-- **No tail position is lost.** Along every run of the ingestion of a bucket, with batches,
refreshes, crashes and restarts and any results of the external calls, from a positional
source, every position from the offset the bucket started at up to the offset the
Coordinator holds is covered at every point: a batch of the run read the log's record
there, passed to `filter` one event for each of `filteredEntries` of the records it read, every
entry of the source bucket with a key or a type among them, and handed every entry it staged to
a bus send that succeeded. -/
theorem no_lost_tail_position (log : Int → LogRecord) (coord : Coord) (steps : List Step)
    (hsrc : ∀ st ∈ steps, st.Positional log) :
    ∀ s ∈ runStates cfg (ingestionStart coord) steps,
      CoveredBelow cfg log coord.logOffset s.world.reports s.world.coord.logOffset :=
  fun s hs => (scanl_invariant _ (fun _ st hst h => h.step cfg (hsrc st hst))
    (Covering.start cfg log coord) s hs).coord

/-! ### What the Coordinator holds along a run -/

/-- Only a batch of the live reader changes the Coordinator, to the Coordinator the batch
leaves. -/
theorem Step.coord_eq (s : RunState) (st : Step) :
    (st.apply cfg s).world.coord = s.world.coord ∨
      ∃ env params r, s.reader = some r ∧
        (st.apply cfg s).world.coord = (processLogEntries cfg env params s.world.coord r).state.coord ∧
        (st.apply cfg s).reader = some (processLogEntries cfg env params s.world.coord r).state.reader := by
  obtain ⟨w, reader⟩ := s
  cases st with
  | live rst =>
    cases reader with
    | none => exact .inl rfl
    | some r =>
      cases rst with
      | batch env params => exact .inr ⟨env, params, r, rfl, rfl, rfl⟩
      | refresh sourceInfo decrypted => exact .inl rfl
  | crash | restart _ _ => exact .inl rfl

/-- The live reader's offset is never behind the Coordinator's. -/
def Behind (s : RunState) : Prop :=
  ∀ r, s.reader = some r → s.world.coord.logOffset ≤ r.logOffset

theorem Behind.step {s : RunState} (h : Behind s) (st : Step) : Behind (st.apply cfg s) := by
  obtain ⟨w, reader⟩ := s
  cases st with
  | live rst =>
    cases reader with
    | none => exact h
    | some r =>
      cases rst with
      | batch env params =>
        rintro _ ⟨⟩
        have hp := processLogEntries_progress cfg env params w.coord r
        rcases hp.coordOffset with hc | hc
        · exact (hc.trans_le (h r rfl)).trans hp.logOffset_le
        · exact hc.le
      | refresh sourceInfo decrypted =>
        rintro _ ⟨⟩
        simpa [Step.apply, ReaderStep.apply] using h r rfl
  | crash => rintro _ ⟨⟩
  | restart source decrypted => exact fun r' hr' => (restartReader_logOffset hr').ge

/-- A step never lowers the Coordinator's offset: a batch leaves it or sets it to the new
in-memory offset, which is at least the old one. -/
theorem Behind.coord_le {s : RunState} (h : Behind s) (st : Step) :
    s.world.coord.logOffset ≤ (st.apply cfg s).world.coord.logOffset := by
  rcases Step.coord_eq cfg s st with hc | ⟨env, params, r, hr, hc, -⟩
  · rw [hc]
  · have hp := processLogEntries_progress cfg env params s.world.coord r
    rw [hc]
    rcases hp.coordOffset with hc' | hc'
    · rw [hc']
    · rw [hc']; exact (h r hr).trans hp.logOffset_le

/-- **The persisted offset never goes backwards.** Along every run of the ingestion of a
bucket, with batches, refreshes, crashes and restarts and any results of the external calls,
the log offset the Coordinator holds never decreases. -/
theorem coord_logOffset_never_decreases (coord : Coord) (steps : List Step) :
    ((runStates cfg (ingestionStart coord) steps).map (·.world.coord.logOffset)).Sorted (· ≤ ·) :=
  scanl_map_sorted (Step.apply cfg) (P := Behind) (fun _ st h => h.step cfg st)
    (fun _ st h => h.coord_le cfg st) (fun _ h => by cases h) steps

/-- The process starts on the sample bucket, in the tail phase at 7, and runs one batch against
a source whose log holds the put of `object1` at every position. -/
def sampleSteps : List Step :=
  [.restart sampleSource (some "verySecretKey1"),
    .live (.batch (sampleEnv (positional [putRecord "object1"]) false) ⟨none⟩)]

theorem no_lost_tail_position_sampleSteps :
    (∀ st ∈ sampleSteps, st.Positional fun _ => putRecord "object1") ∧
    ∀ s ∈ runStates sampleConfig (ingestionStart tailCoord) sampleSteps,
      CoveredBelow sampleConfig (fun _ => putRecord "object1") tailCoord.logOffset
        s.world.reports s.world.coord.logOffset :=
  have h : ∀ st ∈ sampleSteps, st.Positional fun _ => putRecord "object1" := by
    simp only [sampleSteps, List.mem_cons, List.mem_singleton, List.not_mem_nil, or_false]
    rintro st (rfl | rfl)
    · trivial
    · rintro req start rs fin hans
      simp only [sampleEnv, positional, RaftAnswer.header.injEq] at hans
      obtain ⟨rfl, rfl, -⟩ := hans
      exact ⟨rfl, fun i hi => by simp⟩
  ⟨h, no_lost_tail_position sampleConfig _ _ _ h⟩

/-- Across processes a position can be published twice: the first batch sends the put at 7,
its log-offset write fails, the process crashes and restarts at the Coordinator's 7, and the
next batch sends it again. -/
example : ∃ a b, ([Step.restart sampleSource (some "verySecretKey1"),
      .live (.batch (sampleEnv (positional [putRecord "object1"]) true) ⟨none⟩), .crash,
      .restart sampleSource (some "verySecretKey1"),
      .live (.batch (sampleEnv (positional [putRecord "object1"]) false) ⟨none⟩)].foldl
        (Step.apply sampleConfig) (ingestionStart tailCoord)).world.reports = [a, b] ∧
    a.Publishes 7 ∧ b.Publishes 7 :=
  ⟨_, _, rfl, ⟨by decide, 7, _, _, rfl, le_rfl, by decide⟩, ⟨by decide, 7, _, _, rfl, le_rfl, by decide⟩⟩

end Backbeat
