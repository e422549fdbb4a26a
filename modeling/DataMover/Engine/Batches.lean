import DataMover.Engine.Keys
import DataMover.Engine.Transfer

/-!
# Splitting frames into batches

`bounded_frame_batches` cuts a frame into batches of limited height and size: the length of a candidate is
halved until its estimated size fits, whatever the sizes of shorter candidates are.  What is emitted is a
partition of the frame into consecutive batches (`Emits`), and the loops of the two connectors number the
batches of all fetched chunks without gaps.
-/

namespace DataMover

open Spool (Yield)

/-! ## Slices -/

namespace Frame

/-- `frame.slice(offset, length)`. -/
def slice (f : Frame) (offset length : Nat) : Frame where
  columns := f.columns.map fun s => { s with values := (s.values.drop offset).take length }
  nodup := by
    rw [List.map_map]
    exact f.nodup
  rect := by
    simp only [List.forall_mem_map]
    intro s hs t ht
    simp [f.rect s hs t ht]

/-- The names and the types of the columns. -/
def schema (f : Frame) : List (String × String) := f.columns.map fun s => (s.name, s.dtype)

variable (f : Frame) (offset length : Nat)

theorem schema_slice : (f.slice offset length).schema = f.schema := by
  simp [schema, slice, Function.comp_def]

theorem height_slice : (f.slice offset length).height = min length (f.height - offset) := by
  simp only [height, slice, List.head?_map]
  cases f.columns.head? <;> simp

theorem column?_slice (name : String) : (f.slice offset length).column? name =
    (f.column? name).map fun s => { s with values := (s.values.drop offset).take length } := by
  simp [column?, slice, List.find?_map]

theorem cell_slice {r : Nat} (h : r < length) (name : String) :
    (f.slice offset length).cell r name = f.cell (offset + r) name := by
  unfold cell
  rw [column?_slice]
  cases f.column? name with
  | none => rfl
  | some s => simp [List.getElem?_take_of_lt h]

theorem length_rows : f.rows.length = f.height := by simp [rows]

/-- The rows of a slice. -/
theorem rows_slice : (f.slice offset length).rows = (f.rows.drop offset).take length := by
  refine List.ext_getElem? fun r => ?_
  have height := f.height_slice offset length
  by_cases h : r < length
  · rw [List.getElem?_take_of_lt h, List.getElem?_drop]
    by_cases inside : offset + r < f.height
    · have short : r < (f.slice offset length).height := by omega
      simp only [rows, List.getElem?_map, List.getElem?_range short, List.getElem?_range inside,
        Option.map_some, Option.some.injEq]
      exact funext fun name => f.cell_slice offset length h name
    · rw [List.getElem?_eq_none (by rw [length_rows]; omega),
        List.getElem?_eq_none (by rw [length_rows]; omega)]
  · rw [List.getElem?_eq_none (by rw [length_rows]; omega), List.getElem?_take_eq_none (by omega)]

end Frame

/-! ## The splitting -/

/-- The inner loop: halve the length until the candidate fits or has one row. -/
def shrink (size : Nat → Nat) (batchBytes : Int) (length : Nat) : Nat :=
  if size length > batchBytes ∧ length > 1 then shrink size batchBytes (max 1 (length / 2)) else length
termination_by length

/-- The halving chain of a length, down to 1. -/
def halvings (length : Nat) : List Nat :=
  if length > 1 then length :: halvings (max 1 (length / 2)) else [length]
termination_by length

section Shrink

variable {size : Nat → Nat} {batchBytes : Int} {length : Nat}

theorem shrink_mem_halvings : shrink size batchBytes length ∈ halvings length := by
  induction length using Nat.strong_induction_on with
  | _ length ih =>
    rw [shrink, halvings]
    by_cases long : length > 1
    · rw [if_pos long]
      split_ifs with oversized
      · exact List.mem_cons_of_mem _ (ih _ (by omega))
      · exact List.mem_cons_self
    · rw [if_neg long, if_neg fun h => long h.2]
      exact List.mem_singleton.2 rfl

theorem pos_of_mem_halvings {l : Nat} (h : l ∈ halvings length) (pos : 1 ≤ length) :
    1 ≤ l ∧ l ≤ length := by
  induction length using Nat.strong_induction_on with
  | _ length ih =>
    rw [halvings] at h
    split_ifs at h with long
    · rcases List.mem_cons.1 h with rfl | h
      · omega
      · have := ih _ (by omega) h (by omega)
        omega
    · rw [List.mem_singleton.1 h]
      omega

theorem shrink_bounds (pos : 1 ≤ length) :
    1 ≤ shrink size batchBytes length ∧ shrink size batchBytes length ≤ length :=
  pos_of_mem_halvings shrink_mem_halvings pos

variable (size) in
/-- The last candidate is too large only when all of them are. -/
theorem oversized_shrink_iff : size (shrink size batchBytes length) > batchBytes ↔
    ∀ l ∈ halvings length, size l > batchBytes := by
  constructor
  · intro h
    induction length using Nat.strong_induction_on with
    | _ length ih =>
      rw [shrink] at h
      rw [halvings]
      split_ifs at h with loops
      · rw [if_pos loops.2]
        exact List.forall_mem_cons.2 ⟨loops.1, ih _ (by omega) h⟩
      · rw [if_neg fun long => loops ⟨h, long⟩]
        exact List.forall_mem_singleton.2 h
  · intro h
    exact h _ shrink_mem_halvings

variable (size) in
theorem find?_halvings : (halvings length).find? (fun l => (size l : Int) ≤ batchBytes) =
    if size (shrink size batchBytes length) > batchBytes then none
    else some (shrink size batchBytes length) := by
  induction length using Nat.strong_induction_on with
  | _ length ih =>
    by_cases fits : (size length : Int) ≤ batchBytes
    · have stops : shrink size batchBytes length = length := by
        rw [shrink, if_neg fun loops => absurd loops.1 (Int.not_lt.2 fits)]
      rw [stops, if_neg (Int.not_lt.2 fits), halvings]
      split_ifs <;> exact List.find?_cons_of_pos (decide_eq_true fits)
    · have oversized := Int.not_le.1 fits
      by_cases long : length > 1
      · have halves : shrink size batchBytes length = shrink size batchBytes (max 1 (length / 2)) := by
          rw [shrink, if_pos ⟨oversized, long⟩]
        rw [halves, halvings, if_pos long, List.find?_cons, decide_eq_false fits]
        exact ih _ (by omega)
      · have stops : shrink size batchBytes length = length := by
          rw [shrink, if_neg fun loops => long loops.2]
        rw [stops, if_pos oversized, halvings, if_neg long, List.find?_cons, decide_eq_false fits]
        rfl

end Shrink

/-- The error for a row that is too large. -/
def oversizedRow : Exn := fatal .sourceLimitExceeded
  "A single source row exceeds the configured batch-size limit."

section Splitting

variable (lib : Library) (frame : Frame) {batchRows : Nat} (pos : 0 < batchRows) (batchBytes : Int)

/-- The length of the candidate at which the inner loop stops. -/
def candidateLength (batchRows : Nat) (start : Nat) : Nat :=
  shrink (fun length => lib.estimatedSize (frame.slice start length)) batchBytes
    (min batchRows (frame.height - start))

/-- The loop of `bounded_frame_batches`. -/
def batchesFrom (start sequence : Nat) : Yield :=
  if more : start < frame.height then
    let length := candidateLength lib frame batchBytes batchRows start
    have advances : 1 ≤ length := (shrink_bounds (by omega)).1
    let candidate := frame.slice start length
    let size := lib.estimatedSize candidate
    if size > batchBytes then { batches := [], failure := some oversizedRow }
    else
      let rest := batchesFrom (start + length) (sequence + 1)
      { rest with batches := ⟨candidate, candidate.height, size, sequence⟩ :: rest.batches }
  else { batches := [] }
termination_by frame.height - start

/-- `bounded_frame_batches`. -/
def boundedFrameBatches (sequenceStart : Nat) : Yield :=
  batchesFrom lib frame pos batchBytes 0 sequenceStart

end Splitting

/-! ## The partition -/

/-- The number of rows in these batches. -/
def emittedRows (batches : List TransferBatch) : Nat := (batches.map TransferBatch.rowCount).sum

section Partition

variable (lib : Library) (frame : Frame) (batchRows : Nat) (batchBytes : Int)

/-- No candidate at a start fits: every length of the halving chain is too large. -/
def Unsplittable (start : Nat) : Prop :=
  start < frame.height ∧ ∀ length ∈ halvings (min batchRows (frame.height - start)),
    lib.estimatedSize (frame.slice start length) > batchBytes

/-- A batch within the limits, of rows of the frame. -/
structure Bounded (batch : TransferBatch) : Prop where
  schema : batch.frame.schema = frame.schema
  nonempty : 1 ≤ batch.rowCount
  rows : batch.rowCount ≤ batchRows
  height : batch.rowCount = batch.frame.height
  size : batch.byteCount = lib.estimatedSize batch.frame
  bytes : batch.byteCount ≤ batchBytes

/-- The first length of the halving chain of a start that fits. -/
def fitting (start : Nat) : Option Nat :=
  (halvings (min batchRows (frame.height - start))).find? fun length =>
    lib.estimatedSize (frame.slice start length) ≤ batchBytes

/-- The starts that are reached from a start on: after each one comes the row after its first fitting
length. -/
inductive Reached : Nat → Nat → Prop
  | here (start : Nat) : Reached start start
  | next {start length stop : Nat} (more : start < frame.height)
      (fits : fitting lib frame batchRows batchBytes start = some length)
      (later : Reached (start + length) stop) : Reached start stop

/-- Some length fits at every start that is reached. -/
def Splits : Prop :=
  ∀ stop, Reached lib frame batchRows batchBytes 0 stop →
    ¬ Unsplittable lib frame batchRows batchBytes stop

/-- What is emitted from a start on: bounded batches with consecutive numbers, whose rows are the next
rows of the frame, all of them unless no candidate fits at a start that is reached. -/
structure Emits (start sequence : Nat) (out : Yield) : Prop where
  bounded : ∀ batch ∈ out.batches, Bounded lib frame batchRows batchBytes batch
  numbers : out.batches.map TransferBatch.sequence = List.range' sequence out.batches.length
  initial : rowsOf out.batches <+: frame.rows.drop start
  complete : out.failure = none → rowsOf out.batches = frame.rows.drop start
  reached : ∀ stop, Reached lib frame batchRows batchBytes start stop ↔
    ∃ i ≤ out.batches.length, stop = start + emittedRows (out.batches.take i)
  raises : out.failure ≠ none ↔ ∃ i ≤ out.batches.length,
    Unsplittable lib frame batchRows batchBytes (start + emittedRows (out.batches.take i))

variable {lib frame batchRows batchBytes}

theorem candidateLength_bounds (pos : 0 < batchRows) {start : Nat} (more : start < frame.height) :
    1 ≤ candidateLength lib frame batchBytes batchRows start ∧
      candidateLength lib frame batchBytes batchRows start ≤ min batchRows (frame.height - start) :=
  shrink_bounds (by omega)

theorem oversized_candidate_iff {start : Nat} (more : start < frame.height) :
    lib.estimatedSize (frame.slice start (candidateLength lib frame batchBytes batchRows start)) >
      batchBytes ↔ Unsplittable lib frame batchRows batchBytes start := by
  rw [Unsplittable, and_iff_right more]
  exact oversized_shrink_iff fun length => lib.estimatedSize (frame.slice start length)

/-- The inner loop finds the first length of the chain that fits. -/
theorem fitting_eq (start : Nat) : fitting lib frame batchRows batchBytes start =
    if lib.estimatedSize (frame.slice start (candidateLength lib frame batchBytes batchRows start)) >
      batchBytes then none
    else some (candidateLength lib frame batchBytes batchRows start) :=
  find?_halvings fun length => lib.estimatedSize (frame.slice start length)

/-- Where no length fits, no further start is reached. -/
theorem reached_iff_eq {start : Nat} (stuck : start < frame.height →
    fitting lib frame batchRows batchBytes start = none) (stop : Nat) :
    Reached lib frame batchRows batchBytes start stop ↔ stop = start := by
  constructor
  · intro h
    cases h with
    | here => rfl
    | next more fits => exact nomatch (stuck more).symm.trans fits
  · rintro rfl
    exact .here stop

theorem reached_iff_next {start length : Nat} (more : start < frame.height)
    (fits : fitting lib frame batchRows batchBytes start = some length) (stop : Nat) :
    Reached lib frame batchRows batchBytes start stop ↔
      stop = start ∨ Reached lib frame batchRows batchBytes (start + length) stop := by
  constructor
  · intro h
    cases h with
    | here => exact .inl rfl
    | next _ fits' later =>
      obtain rfl : length = _ := Option.some.inj (fits.symm.trans fits')
      exact .inr later
  · rintro (rfl | later)
    · exact .here stop
    · exact .next more fits later

/-- A function that emits nothing stays at its start. -/
theorem exists_take_nil {start stop : Nat} :
    (∃ i ≤ ([] : List TransferBatch).length, stop = start + emittedRows (([] : List _).take i)) ↔
      stop = start := by
  simp [emittedRows]

/-- Past the last row nothing is emitted. -/
theorem emits_end {start : Nat} (done : ¬ start < frame.height) (sequence : Nat) :
    Emits lib frame batchRows batchBytes start sequence { batches := [] } where
  bounded := nofun
  numbers := rfl
  initial := List.nil_prefix
  complete _ := (List.drop_eq_nil_of_le (by rw [Frame.length_rows]; omega)).symm
  reached stop := (reached_iff_eq (fun more => absurd more done) stop).trans exists_take_nil.symm
  raises := by
    refine iff_of_false (fun h => h rfl) ?_
    rintro ⟨i, le, stuck, -⟩
    simp only [List.take_nil, emittedRows, List.map_nil, List.sum_nil] at stuck
    omega

/-- Where no candidate fits, the function raises. -/
theorem emits_oversized {start : Nat} (stuck : Unsplittable lib frame batchRows batchBytes start)
    (none : fitting lib frame batchRows batchBytes start = none) (sequence : Nat) :
    Emits lib frame batchRows batchBytes start sequence
      { batches := [], failure := some oversizedRow } where
  bounded := nofun
  numbers := rfl
  initial := List.nil_prefix
  complete := nofun
  reached stop := (reached_iff_eq (fun _ => none) stop).trans exists_take_nil.symm
  raises := iff_of_true (Option.some_ne_none _) ⟨0, Nat.le_refl 0, stuck⟩

/-- A candidate that fits comes before what is emitted after it. -/
theorem Emits.step {start length sequence : Nat} {rest : Yield} (pos : 1 ≤ length)
    (le : length ≤ min batchRows (frame.height - start))
    (fits : lib.estimatedSize (frame.slice start length) ≤ batchBytes)
    (first : fitting lib frame batchRows batchBytes start = some length)
    (splits : ¬ Unsplittable lib frame batchRows batchBytes start)
    (h : Emits lib frame batchRows batchBytes (start + length) (sequence + 1) rest) :
    Emits lib frame batchRows batchBytes start sequence
      { rest with batches := ⟨frame.slice start length, (frame.slice start length).height,
          lib.estimatedSize (frame.slice start length), sequence⟩ :: rest.batches } := by
  have height : (frame.slice start length).height = length := by
    rw [Frame.height_slice]
    omega
  have later : frame.rows.drop (start + length) = (frame.rows.drop start).drop length := by
    rw [List.drop_drop]
  have whole := List.take_append_drop length (frame.rows.drop start)
  have next (i : Nat) : start + emittedRows ((⟨frame.slice start length,
      (frame.slice start length).height, lib.estimatedSize (frame.slice start length), sequence⟩ ::
        rest.batches).take (i + 1)) = start + length + emittedRows (rest.batches.take i) := by
    rw [List.take_succ_cons, emittedRows, List.map_cons, List.sum_cons, height, ← Nat.add_assoc]
    rfl
  refine ⟨?_, ?_, ?_, fun ok => ?_, fun stop => ?_, ?_⟩
  · refine List.forall_mem_cons.2 ⟨?_, h.bounded⟩
    refine ⟨frame.schema_slice start length, ?_, ?_, rfl, rfl, fits⟩
    · exact height.symm ▸ pos
    · exact height.symm ▸ (le.trans (Nat.min_le_left _ _))
  · rw [List.map_cons, h.numbers, List.length_cons, List.range'_succ]
  · have longer := (List.prefix_append_right_inj ((frame.rows.drop start).take length)).2 h.initial
    rw [later, whole] at longer
    rw [rowsOf, List.flatMap_cons, Frame.rows_slice]
    exact longer
  · rw [rowsOf, List.flatMap_cons, Frame.rows_slice, ← rowsOf, h.complete ok, later, whole]
  · rw [reached_iff_next (by omega) first, h.reached]
    constructor
    · rintro (rfl | ⟨i, le', rfl⟩)
      · exact ⟨0, Nat.zero_le _, rfl⟩
      · exact ⟨i + 1, Nat.succ_le_succ le', by rw [next]⟩
    · rintro ⟨i, le', rfl⟩
      cases i with
      | zero => exact .inl rfl
      | succ i => exact .inr ⟨i, Nat.le_of_succ_le_succ le', next i⟩
  · refine h.raises.trans ⟨?_, ?_⟩
    · rintro ⟨i, le', stuck⟩
      exact ⟨i + 1, Nat.succ_le_succ le', (next i).symm ▸ stuck⟩
    · rintro ⟨i, le', stuck⟩
      cases i with
      | zero => exact absurd stuck splits
      | succ i => exact ⟨i, Nat.le_of_succ_le_succ le', next i ▸ stuck⟩

/-- What the loop emits. -/
theorem emits_batchesFrom (pos : 0 < batchRows) (start sequence : Nat) :
    Emits lib frame batchRows batchBytes start sequence
      (batchesFrom lib frame pos batchBytes start sequence) := by
  induction left : frame.height - start using Nat.strong_induction_on generalizing start sequence with
  | _ left ih =>
    rw [batchesFrom]
    split_ifs with more
    · dsimp only
      have bounds : 1 ≤ candidateLength lib frame batchBytes batchRows start ∧ _ :=
        candidateLength_bounds pos more
      split_ifs with oversized
      · exact emits_oversized ((oversized_candidate_iff more).1 oversized)
          ((fitting_eq start).trans (if_pos oversized)) sequence
      · have splits := mt (oversized_candidate_iff more).2 oversized
        refine (ih _ ?_ _ _ rfl).step bounds.1 bounds.2 (Int.not_lt.1 oversized)
          ((fitting_eq start).trans (if_neg oversized)) splits
        omega
    · exact emits_end more sequence

/-- The function raises when its frame does not split. -/
theorem Emits.failure_iff {sequence : Nat} {out : Yield}
    (h : Emits lib frame batchRows batchBytes 0 sequence out) :
    out.failure ≠ none ↔ ¬ Splits lib frame batchRows batchBytes := by
  rw [h.raises, Splits]
  push Not
  constructor
  · rintro ⟨i, le, stuck⟩
    exact ⟨_, (h.reached _).2 ⟨i, le, rfl⟩, stuck⟩
  · rintro ⟨stop, reached, stuck⟩
    obtain ⟨i, le, rfl⟩ := (h.reached stop).1 reached
    exact ⟨i, le, stuck⟩

end Partition

/-! ## The loops of the connectors -/

section Extraction

/-- What the loops rely on: `pl.DataFrame` of a chunk, or what it raises, and the error that
`_provider_error` makes of an exception. -/
structure ChunkReader (Chunk : Type) where
  isEmpty : Chunk → Bool
  dataFrame : Chunk → Except Exn Frame
  providerError : Exn → Exn

variable {Chunk : Type} (reader : ChunkReader Chunk) (lib : Library) {batchRows : Nat}
  (pos : 0 < batchRows) (batchBytes : Int)

/-- The loop of `PostgresConnector.extract` over the fetched chunks; the batches of a chunk are emitted
when all of them are made. -/
def extractPostgres (sequence : Nat) : List Chunk → Yield
  | [] => { batches := [] }
  | rows :: fetched =>
    if reader.isEmpty rows then { batches := [] }
    else match reader.dataFrame rows with
      | .error e => { batches := [], failure := some e }
      | .ok frame =>
        let out := boundedFrameBatches lib frame pos batchBytes sequence
        match out.failure with
        | some e => { batches := [], failure := some e }
        | none =>
          let rest := extractPostgres (sequence + out.batches.length) fetched
          { rest with batches := out.batches ++ rest.batches }

/-- `except ConnectorError: raise`, `except Exception: raise _provider_error(…)`. -/
def ChunkReader.raised : Exn → Exn
  | .connector e => .connector e
  | e => reader.providerError e

/-- The loop of `DatabricksConnector.extract`; each batch is emitted as it is made. -/
def extractDatabricks (sequence : Nat) : List Chunk → Yield
  | [] => { batches := [] }
  | rows :: fetched =>
    if reader.isEmpty rows then { batches := [] }
    else match reader.dataFrame rows with
      | .error e => { batches := [], failure := some (reader.raised e) }
      | .ok frame =>
        let out := boundedFrameBatches lib frame pos batchBytes sequence
        match out.failure with
        | some e => { out with failure := some (reader.raised e) }
        | none =>
          let next := out.batches.foldl (fun _ batch => batch.sequence + 1) sequence
          let rest := extractDatabricks next fetched
          { rest with batches := out.batches ++ rest.batches }

/-- The rows of the chunks before the first empty one. -/
def ChunkReader.rows : List Chunk → List (String → Cell)
  | [] => []
  | chunk :: fetched =>
    if reader.isEmpty chunk then []
    else match reader.dataFrame chunk with
      | .error _ => []
      | .ok frame => frame.rows ++ ChunkReader.rows fetched

/-- The frames that are built of the chunks before the first empty one, or what building them raises. -/
def ChunkReader.reads (fetched : List Chunk) : List (Except Exn Frame) :=
  (fetched.takeWhile fun chunk => ! reader.isEmpty chunk).map reader.dataFrame

/-- The frame of a chunk cannot be built, or does not split. -/
def StopsAt (batchRows : Nat) (read : Except Exn Frame) : Prop :=
  ∀ frame, read = .ok frame → ¬ Splits lib frame batchRows batchBytes

/-- The batches of the chunks: each within the limits and of rows of one chunk, numbered without gaps; all
rows are emitted unless the loop raises, which it does when it comes to a chunk at which it stops. -/
structure EmitsChunks (batchRows sequence : Nat) (fetched : List Chunk) (out : Yield) : Prop where
  bounded : ∀ batch ∈ out.batches, ∃ frame, .ok frame ∈ reader.reads fetched ∧
    Bounded lib frame batchRows batchBytes batch
  numbers : out.batches.map TransferBatch.sequence = List.range' sequence out.batches.length
  initial : rowsOf out.batches <+: reader.rows fetched
  complete : out.failure = none → rowsOf out.batches = reader.rows fetched
  raises : out.failure ≠ none ↔ ∃ read ∈ reader.reads fetched, StopsAt lib batchBytes batchRows read

variable {reader lib pos batchBytes} {fetched : List Chunk} {chunk : Chunk} {frame : Frame}
  {sequence : Nat} {out rest : Yield}

theorem reads_cons (more : ¬ reader.isEmpty chunk = true) :
    reader.reads (chunk :: fetched) = reader.dataFrame chunk :: reader.reads fetched := by
  rw [ChunkReader.reads, List.takeWhile_cons_of_pos (by simpa using more)]
  rfl

/-- Without a chunk that is read, nothing is emitted. -/
theorem emitsChunks_nil (done : reader.rows fetched = []) (unread : reader.reads fetched = []) :
    EmitsChunks reader lib batchBytes batchRows sequence fetched { batches := [] } where
  bounded := nofun
  numbers := rfl
  initial := List.nil_prefix
  complete _ := done.symm
  raises := iff_of_false (fun h => h rfl) fun ⟨_, mem, _⟩ => nomatch unread ▸ mem

theorem emitsChunks_empty (empty : reader.isEmpty chunk = true) :
    EmitsChunks reader lib batchBytes batchRows sequence (chunk :: fetched) { batches := [] } :=
  emitsChunks_nil (if_pos empty) (by simp [ChunkReader.reads, empty])

/-- The loop stops at the first chunk. -/
theorem emitsChunks_raised (more : ¬ reader.isEmpty chunk = true)
    (stops : StopsAt lib batchBytes batchRows (reader.dataFrame chunk)) (e : Exn) :
    EmitsChunks reader lib batchBytes batchRows sequence (chunk :: fetched)
      { batches := [], failure := some e } where
  bounded := nofun
  numbers := rfl
  initial := List.nil_prefix
  complete := nofun
  raises := iff_of_true (Option.some_ne_none e)
    ⟨_, (reads_cons more).symm ▸ List.mem_cons_self, stops⟩

theorem rows_cons (more : ¬ reader.isEmpty chunk = true) (read : reader.dataFrame chunk = .ok frame) :
    reader.rows (chunk :: fetched) = frame.rows ++ reader.rows fetched := by
  rw [ChunkReader.rows, if_neg more, read]

theorem rowsOf_append (batches batches' : List TransferBatch) :
    rowsOf (batches ++ batches') = rowsOf batches ++ rowsOf batches' :=
  List.flatMap_append

/-- A frame for which the splitting raises. -/
theorem stopsAt_ok (read : reader.dataFrame chunk = .ok frame)
    (h : Emits lib frame batchRows batchBytes 0 sequence out) :
    StopsAt lib batchBytes batchRows (reader.dataFrame chunk) ↔ out.failure ≠ none := by
  rw [h.failure_iff, StopsAt, read]
  constructor
  · exact fun stops => stops frame rfl
  · rintro stops _ ⟨⟩
    exact stops

/-- A chunk that raises on the way may have emitted some of its batches. -/
theorem EmitsChunks.unfinished (more : ¬ reader.isEmpty chunk = true)
    (read : reader.dataFrame chunk = .ok frame)
    (h : Emits lib frame batchRows batchBytes 0 sequence out) {e : Exn} (failed : out.failure = some e)
    (e' : Exn) : EmitsChunks reader lib batchBytes batchRows sequence (chunk :: fetched)
      { out with failure := some e' } where
  bounded batch mem := by
    refine ⟨frame, ?_, h.bounded batch mem⟩
    rw [reads_cons more, read]
    exact List.mem_cons_self
  numbers := h.numbers
  initial := by
    rw [rows_cons more read]
    exact h.initial.trans (List.prefix_append _ _)
  complete := nofun
  raises := iff_of_true (Option.some_ne_none e')
    ⟨_, (reads_cons more).symm ▸ List.mem_cons_self,
      (stopsAt_ok read h).2 (failed ▸ Option.some_ne_none e)⟩

/-- The batches of a chunk come before those of the chunks after it. -/
theorem EmitsChunks.cons (more : ¬ reader.isEmpty chunk = true)
    (read : reader.dataFrame chunk = .ok frame)
    (h : Emits lib frame batchRows batchBytes 0 sequence out) (ok : out.failure = none)
    (later : EmitsChunks reader lib batchBytes batchRows (sequence + out.batches.length) fetched rest) :
    EmitsChunks reader lib batchBytes batchRows sequence (chunk :: fetched)
      { rest with batches := out.batches ++ rest.batches } where
  bounded batch mem := by
    rw [reads_cons more]
    rcases List.mem_append.1 mem with mem | mem
    · exact ⟨frame, read ▸ List.mem_cons_self, h.bounded batch mem⟩
    · obtain ⟨frame', mem', bounded⟩ := later.bounded batch mem
      exact ⟨frame', List.mem_cons_of_mem _ mem', bounded⟩
  numbers := by
    rw [List.map_append, h.numbers, later.numbers, List.length_append, ← List.range'_append_1]
  initial := by
    rw [rowsOf_append, rows_cons more read, h.complete ok, List.drop_zero,
      List.prefix_append_right_inj]
    exact later.initial
  complete ok' := by
    rw [rowsOf_append, rows_cons more read, h.complete ok, List.drop_zero, later.complete ok']
  raises := by
    rw [reads_cons more, List.exists_mem_cons_iff, ← later.raises, stopsAt_ok read h]
    exact (or_iff_right fun failed => failed ok).symm

/-- The number after the last batch. -/
theorem foldl_sequence {batches : List TransferBatch}
    (h : batches.map TransferBatch.sequence = List.range' sequence batches.length) :
    batches.foldl (fun _ batch => batch.sequence + 1) sequence = sequence + batches.length := by
  induction batches generalizing sequence with
  | nil => rfl
  | cons batch batches ih =>
    rw [List.map_cons, List.length_cons, List.range'_succ, List.cons.injEq] at h
    rw [List.foldl_cons, h.1, ih h.2, List.length_cons]
    omega

variable (reader lib pos batchBytes) in
theorem emits_extractPostgres (sequence : Nat) (fetched : List Chunk) :
    EmitsChunks reader lib batchBytes batchRows sequence fetched
      (extractPostgres reader lib pos batchBytes sequence fetched) := by
  induction fetched generalizing sequence with
  | nil => exact emitsChunks_nil rfl rfl
  | cons chunk fetched ih =>
    rw [extractPostgres]
    split_ifs with empty
    · exact emitsChunks_empty empty
    · cases read : reader.dataFrame chunk with
      | error e => exact emitsChunks_raised empty (fun _ built => nomatch read.symm.trans built) e
      | ok frame =>
        have emits : Emits lib frame batchRows batchBytes 0 sequence
            (boundedFrameBatches lib frame pos batchBytes sequence) := emits_batchesFrom pos 0 sequence
        dsimp only
        cases failure : (boundedFrameBatches lib frame pos batchBytes sequence).failure with
        | some e =>
          exact emitsChunks_raised empty
            ((stopsAt_ok read emits).2 (failure ▸ Option.some_ne_none e)) e
        | none => exact .cons empty read emits failure (ih _)

variable (reader lib pos batchBytes) in
theorem emits_extractDatabricks (sequence : Nat) (fetched : List Chunk) :
    EmitsChunks reader lib batchBytes batchRows sequence fetched
      (extractDatabricks reader lib pos batchBytes sequence fetched) := by
  induction fetched generalizing sequence with
  | nil => exact emitsChunks_nil rfl rfl
  | cons chunk fetched ih =>
    rw [extractDatabricks]
    split_ifs with empty
    · exact emitsChunks_empty empty
    · cases read : reader.dataFrame chunk with
      | error e => exact emitsChunks_raised empty (fun _ built => nomatch read.symm.trans built) _
      | ok frame =>
        have emits : Emits lib frame batchRows batchBytes 0 sequence
            (boundedFrameBatches lib frame pos batchBytes sequence) := emits_batchesFrom pos 0 sequence
        dsimp only
        cases failure : (boundedFrameBatches lib frame pos batchBytes sequence).failure with
        | some e => exact .unfinished empty read emits failure _
        | none =>
          dsimp only
          rw [foldl_sequence emits.numbers]
          exact .cons empty read emits failure (ih _)

end Extraction

/-- Every frame is split into bounded batches, and both loops number the batches of all chunks from 1. -/
theorem batch_splitting_is_a_bounded_partition (lib : Library) {batchRows : Nat} (pos : 0 < batchRows)
    (batchBytes : Int) :
    (∀ (frame : Frame) (sequenceStart : Nat), Emits lib frame batchRows batchBytes 0 sequenceStart
      (boundedFrameBatches lib frame pos batchBytes sequenceStart)) ∧
    ∀ (Chunk : Type) (reader : ChunkReader Chunk) (fetched : List Chunk),
      EmitsChunks reader lib batchBytes batchRows 1 fetched
        (extractPostgres reader lib pos batchBytes 1 fetched) ∧
      EmitsChunks reader lib batchBytes batchRows 1 fetched
        (extractDatabricks reader lib pos batchBytes 1 fetched) :=
  ⟨fun _ sequenceStart => emits_batchesFrom pos 0 sequenceStart, fun _ reader fetched =>
    ⟨emits_extractPostgres reader lib pos batchBytes 1 fetched,
      emits_extractDatabricks reader lib pos batchBytes 1 fetched⟩⟩

/-- The sample frame in batches of one row. -/
theorem batch_splitting_of_sample : Emits .sample .sample 1 0 0 1
    (boundedFrameBatches .sample .sample Nat.one_pos 0 1) :=
  (batch_splitting_is_a_bounded_partition .sample Nat.one_pos 0).1 .sample 1

end DataMover
