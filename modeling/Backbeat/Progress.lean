import Backbeat.Event

/-!
# The progress store

The Coordinator nodes of one ingested bucket, and the reader's three operations on them:

* `readInitState` — `_readInitState`: reads the three init-state nodes
  `<zkBasePath>/init/{isStatusComplete,versionMarker,keyMarker}`, creating each absent node
  with `mkdirp` on the way;
* `writeInitState` — `_writeInitState`: writes the three nodes, or nothing when the batch did
  not go through the snapshot phase;
* `writeLogOffset` — the log-offset write of `LogReader`, which is not in the sources.

The three node operations run under `async.map` and `async.each`, all calls issued at once:
a failure of one node does not stop the others. The model applies the effect of every call
and fails the operation when any call fails. Every fault of the Coordinator is an input
(`InitReadFaults`, the `Bool` arguments).

A read after a successful write returns the text written for each marker, so an absent
marker, written as `'null'`, reads back as the string `'null'` (`readInitState_after_write`).

What the operations may change is stated once (`readInitState_logOffset`,
`readInitState_kept`, `writeInitState_none`): the read creates nodes and changes no data, and
only the writes change data.
-/

namespace Backbeat

/-- The init-state nodes, `IngestionReader.getInitIngestionNodes()`. -/
inductive InitNode where
  | isStatusComplete
  | versionMarker
  | keyMarker
  deriving DecidableEq, Repr

/-- The Coordinator nodes of one bucket. An init node is absent (`none`) or present with its
data (`some none` when it holds no data, as after `mkdirp`). The log-offset node holds an
integer. -/
structure Coord where
  init : InitNode → Option (Option String)
  logOffset : Int

/-- The init state of a bucket as the reader holds it: `_readInitState`'s result, or the
`initState` a snapshot would return, which also carries the `cseq` captured before listing
(`none` when the field is absent). -/
structure InitState where
  isStatusComplete : Bool
  versionMarker : JsStr
  keyMarker : JsStr
  cseq : Option Int
  deriving DecidableEq, Repr

/-- How the Coordinator answers the calls of one `_readInitState`: `getData n` fails with an
error other than `NO_NODE`, `mkdirp n` fails. -/
structure InitReadFaults where
  getData : InitNode → Bool
  mkdirp : InitNode → Bool

/-! ### Reading the init state -/

/-- The value `_readInitState` reads for one node: `data && data.toString()` for a present
node, so `undefined` when it holds no data; `undefined` for an absent one once `mkdirp` has
created it; `none` when a call fails. -/
def readNode (f : InitReadFaults) (n : InitNode) (node : Option (Option String)) :
    Option JsStr :=
  if f.getData n then none
  else match node with
    | none => if f.mkdirp n then none else some .undefined
    | some none => some .undefined
    | some (some s) => some (.str s)

/-- A node after `_readInitState`: an absent node whose `getData` reported `NO_NODE` and
whose `mkdirp` succeeded now exists without data. -/
def createdNode (f : InitReadFaults) (n : InitNode) : Option (Option String) → Option (Option String)
  | none => if !f.getData n && !f.mkdirp n then some none else none
  | some d => some d

/-- `IngestionReader._readInitState`: the Coordinator after the reads, and the init state,
`none` when a call failed. `isStatusComplete` is `data === 'true'`. -/
def readInitState (f : InitReadFaults) (c : Coord) : Coord × Option InitState :=
  ({ c with init := fun n => createdNode f n (c.init n) },
    match readNode f .isStatusComplete (c.init .isStatusComplete),
      readNode f .versionMarker (c.init .versionMarker),
      readNode f .keyMarker (c.init .keyMarker) with
    | some a, some v, some k => some ⟨a = .str "true", v, k, none⟩
    | _, _, _ => none)

@[simp] theorem readInitState_logOffset (f : InitReadFaults) (c : Coord) :
    (readInitState f c).1.logOffset = c.logOffset := rfl

/-- A node is kept by an operation when its data is unchanged, an absent node possibly
created without data. -/
def NodeKept (before after : Option (Option String)) : Prop :=
  after = before ∨ (before = none ∧ after = some none)

theorem NodeKept.refl (x : Option (Option String)) : NodeKept x x := .inl rfl

theorem NodeKept.trans {x y z : Option (Option String)} (hxy : NodeKept x y)
    (hyz : NodeKept y z) : NodeKept x z := by
  rcases hxy with rfl | ⟨rfl, rfl⟩ <;> rcases hyz with rfl | ⟨h, rfl⟩
  · exact .inl rfl
  · exact .inr ⟨h, rfl⟩
  · exact .inr ⟨rfl, rfl⟩
  · cases h

/-- Reading the init state changes no node's data. -/
theorem readInitState_kept (f : InitReadFaults) (c : Coord) (n : InitNode) :
    NodeKept (c.init n) ((readInitState f c).1.init n) := by
  simp only [readInitState]
  cases h : c.init n with
  | none => simp only [NodeKept, createdNode]; split_ifs <;> simp
  | some d => exact .inl rfl

/-! ### Writing the init state and the offset -/

/-- `(x || d).toString()` for a string default `d`. -/
def JsStr.orText (x : JsStr) (d : String) : String :=
  match x with
  | .str s => if s = "" then d else s
  | _ => d

/-- The text `_writeInitState` writes to a node, `(initState[pathNode] || 'null').toString()`:
`true` is written `"true"`, and `false` is falsy, so it is written `"null"`. -/
def InitState.written (s : InitState) : InitNode → String
  | .isStatusComplete => if s.isStatusComplete then "true" else "null"
  | .versionMarker => s.versionMarker.orText "null"
  | .keyMarker => s.keyMarker.orText "null"

/-- `IngestionReader._writeInitState(initState)`: nothing when `initState` is unset; otherwise
`setData` on each node, which fails on an absent node (`NO_NODE`) or when `fails n`. Returns
the Coordinator and whether every write succeeded. -/
def writeInitState (fails : InitNode → Bool) (c : Coord) : Option InitState → Coord × Bool
  | none => (c, true)
  | some s =>
    ({ c with init := fun n =>
        match c.init n with
        | some _ => if fails n then c.init n else some (some (s.written n))
        | none => none },
      [InitNode.isStatusComplete, .versionMarker, .keyMarker].all fun n =>
        (c.init n).isSome && !fails n)

@[simp] theorem writeInitState_none (fails : InitNode → Bool) (c : Coord) :
    writeInitState fails c none = (c, true) := rfl

@[simp] theorem writeInitState_logOffset (fails : InitNode → Bool) (c : Coord)
    (s : Option InitState) : (writeInitState fails c s).1.logOffset = c.logOffset := by
  cases s <;> rfl

/-- A write of the init state that succeeded found every node and set each to its text. -/
theorem writeInitState_init {fails : InitNode → Bool} {c : Coord} {s : InitState}
    (hw : (writeInitState fails c (some s)).2 = true) (n : InitNode) :
    (writeInitState fails c (some s)).1.init n = some (some (s.written n)) := by
  simp only [writeInitState, List.all_cons, List.all_nil, Bool.and_true, Bool.and_eq_true,
    Option.isSome_iff_exists, Bool.not_eq_true'] at hw ⊢
  obtain ⟨⟨⟨_, h1⟩, f1⟩, ⟨⟨_, h2⟩, f2⟩, ⟨_, h3⟩, f3⟩ := hw
  cases n <;> simp [*]

/-- **Reading back the init state.** After a write of the init state `s` that succeeded, a
read whose `getData` calls succeed returns `isStatusComplete` as written, and each marker as
the text written for it: the marker itself when it is a non-empty string, and the text
`'null'` when it is absent or empty, since the reader does not parse what the writer wrote. -/
theorem readInitState_after_write {fails : InitNode → Bool} {c : Coord} {s : InitState}
    {f : InitReadFaults} (hw : (writeInitState fails c (some s)).2 = true)
    (hf : ∀ n, f.getData n = false) :
    (readInitState f (writeInitState fails c (some s)).1).2 =
      some ⟨s.isStatusComplete, .str (s.versionMarker.orText "null"),
        .str (s.keyMarker.orText "null"), none⟩ := by
  simp only [readInitState, readNode, hf, writeInitState_init hw, InitState.written]
  cases s.isStatusComplete <;> simp

/-- A bucket whose init nodes exist, empty as `mkdirp` leaves them: after writing
`{ isStatusComplete: false, versionMarker: undefined, keyMarker: 'key1' }`, the version marker
reads back as the text `'null'`. -/
theorem readInitState_after_write_created :
    (readInitState ⟨fun _ => false, fun _ => false⟩ (writeInitState (fun _ => false)
        ⟨fun _ => some none, 0⟩ (some ⟨false, .undefined, .str "key1", none⟩)).1).2 =
      some ⟨false, .str "null", .str "key1", none⟩ :=
  readInitState_after_write rfl fun _ => rfl

/-- Modelled from the spec: `LogReader._writeLogOffset`, which is not in the sources
("`writeLogOffset(n)` — integer node"). It writes the reader's in-memory offset `v` to the
log-offset node, unless the write fails. Returns the Coordinator and whether it succeeded. -/
def writeLogOffset (fails : Bool) (c : Coord) (v : Int) : Coord × Bool :=
  if fails then (c, false) else ({ c with logOffset := v }, true)

@[simp] theorem writeLogOffset_init (fails : Bool) (c : Coord) (v : Int) :
    (writeLogOffset fails c v).1.init = c.init := by
  unfold writeLogOffset; split <;> rfl

end Backbeat
