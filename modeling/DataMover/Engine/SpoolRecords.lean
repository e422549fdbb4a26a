import DataMover.Engine.Spool

/-!
# Damaged spools

The file of a spool is the concatenation of the records that were accepted.  A reader of a file that has
been cut inside a record, or whose next record is none that `append` has made, yields the batches before
this place and raises: the cipher only opens what was encrypted for the spool.
-/

namespace DataMover

namespace Spool

/-! ## Records -/

/-- The record of a batch; `none` when `struct.pack` refuses a number. -/
def record (lib : Library) (runId : Bytes) (nonce : Nonce) (batch : TransferBatch) : Option Bytes := do
  let associatedData ← packAll [batch.sequence, batch.rowCount, batch.byteCount]
  let ciphertext := lib.encrypt nonce (lib.writeIpc batch.frame) (runId ++ associatedData)
  let header ← packAll [batch.sequence, batch.rowCount, batch.byteCount, ciphertext.length]
  return header ++ nonce.1 ++ ciphertext

section Records

variable {lib : Library} {runId : Bytes} {nonce : Nonce} {batch : TransferBatch} {r : Bytes}

/-- The parts of a record. -/
theorem record_eq_some : record lib runId nonce batch = some r ↔
    ∃ data header, packAll [batch.sequence, batch.rowCount, batch.byteCount] = some data ∧
      packAll [batch.sequence, batch.rowCount, batch.byteCount,
        (lib.encrypt nonce (lib.writeIpc batch.frame) (runId ++ data)).length] = some header ∧
      r = header ++ nonce.1 ++ lib.encrypt nonce (lib.writeIpc batch.frame) (runId ++ data) := by
  constructor
  · intro h
    obtain ⟨data, hdata, h⟩ := Option.bind_eq_some_iff.1 h
    obtain ⟨header, hheader, h⟩ := Option.bind_eq_some_iff.1 h
    cases h
    exact ⟨data, header, hdata, hheader, rfl⟩
  · rintro ⟨data, header, hdata, hheader, rfl⟩
    exact Option.bind_eq_some_iff.2 ⟨data, hdata, Option.bind_eq_some_iff.2 ⟨header, hheader, rfl⟩⟩

/-- The header of a record says how long it is. -/
theorem record_length (h : record lib runId nonce batch = some r) :
    r.length = headerSize + 12 + unpackU64 ((r.take headerSize).drop 24) := by
  obtain ⟨data, header, -, hheader, rfl⟩ := record_eq_some.1 h
  obtain ⟨length, -, -, -, size⟩ := packAll_four hheader
  rw [List.append_assoc, ← length, List.take_left, size, length, List.length_append,
    List.length_append, length, nonce.2]
  omega

/-- `append` adds the record of the batch, unless it does not fit. -/
theorem append_eq_ok_iff {spool spool' : Spool} : spool.append lib batch = .ok spool' ↔
    ∃ r, record lib spool.runId (lib.urandom spool.nonces) batch = some r ∧
      spool.storedBytes + r.length ≤ spool.maximumBytes ∧
      spool' = { spool with
        file := spool.file ++ r
        storedBytes := spool.storedBytes + r.length
        nonces := spool.nonces + 1 } := by
  unfold append record
  dsimp only
  cases packAll [batch.sequence, batch.rowCount, batch.byteCount] with
  | none => simp
  | some data =>
    dsimp only [Option.bind_eq_bind, Option.bind_some]
    generalize lib.encrypt (lib.urandom spool.nonces) (lib.writeIpc batch.frame)
      (spool.runId ++ data) = ciphertext
    cases hheader : packAll [batch.sequence, batch.rowCount, batch.byteCount, ciphertext.length] with
    | none => split_ifs <;> simp
    | some header =>
      have length : (header ++ (lib.urandom spool.nonces).1 ++ ciphertext).length =
          headerSize + (lib.urandom spool.nonces).1.length + ciphertext.length := by
        rw [List.length_append, List.length_append, (packAll_four hheader).1]
      constructor
      · intro h
        split_ifs at h with full
        cases h
        exact ⟨_, rfl, by omega, by rw [length]⟩
      · rintro ⟨r, ⟨⟩, fits, rfl⟩
        rw [if_neg (by omega), length]

end Records

/-! ## Calls of `append` -/

/-- A call of `append`, and whether the batch was accepted; a refused call has drawn a nonce too. -/
def call (lib : Library) (spool : Spool) (batch : TransferBatch) : Spool × Bool :=
  match spool.append lib batch with
  | .ok spool => (spool, true)
  | .error _ => ({ spool with nonces := spool.nonces + 1 }, false)

/-- The calls one after another, and the batches that were accepted with their nonces. -/
def calls (lib : Library) : Spool → List TransferBatch → Spool × List (Nonce × TransferBatch)
  | spool, [] => (spool, [])
  | spool, batch :: rest =>
    let (next, accepted) := spool.call lib batch
    let out := calls lib next rest
    if accepted then (out.1, (lib.urandom spool.nonces, batch) :: out.2) else out

/-- A record that one of the calls has made, accepted or not. -/
def Made (lib : Library) (runId : Bytes) (attempts : List TransferBatch) (r : Bytes) : Prop :=
  ∃ (i : Nat) (batch : TransferBatch), attempts[i]? = some batch ∧
    record lib runId (lib.urandom i) batch = some r

/-- The ideal cipher and the file format: what the calls have encrypted is decrypted, everything else is
rejected, and a written frame is read back. -/
structure Sealed (lib : Library) (runId : Bytes) (attempts : List TransferBatch) : Prop where
  readIpc_writeIpc : ∀ frame, lib.readIpc (lib.writeIpc frame) = some frame
  decrypt_encrypt : ∀ (i : Nat) (batch : TransferBatch) (data : Bytes), attempts[i]? = some batch →
    packAll [batch.sequence, batch.rowCount, batch.byteCount] = some data →
      lib.decrypt (lib.urandom i) (lib.encrypt (lib.urandom i) (lib.writeIpc batch.frame)
        (runId ++ data)) (runId ++ data) = some (lib.writeIpc batch.frame)
  authentic : ∀ nonce ciphertext associated, lib.decrypt nonce ciphertext associated ≠ none →
    ∃ (i : Nat) (batch : TransferBatch) (data : Bytes), attempts[i]? = some batch ∧
      packAll [batch.sequence, batch.rowCount, batch.byteCount] = some data ∧
      nonce = lib.urandom i ∧ associated = runId ++ data ∧
      ciphertext = lib.encrypt nonce (lib.writeIpc batch.frame) associated

/-- The bytes of the records of some batches. -/
def recordsOf (lib : Library) (runId : Bytes) (accepted : List (Nonce × TransferBatch)) : List Bytes :=
  accepted.filterMap fun entry => record lib runId entry.1 entry.2

theorem recordsOf_cons {lib : Library} {runId : Bytes} {entry : Nonce × TransferBatch} {r : Bytes}
    (h : record lib runId entry.1 entry.2 = some r) (accepted : List (Nonce × TransferBatch)) :
    recordsOf lib runId (entry :: accepted) = r :: recordsOf lib runId accepted :=
  List.filterMap_cons_some h

/-- The length of the first records. -/
def boundary (records : List Bytes) (i : Nat) : Nat := (records.take i).flatten.length

section Calls

variable {lib : Library} {runId : Bytes} {attempts : List TransferBatch} {spool : Spool}

/-- A refused call leaves the file as it is. -/
theorem call_refused {batch : TransferBatch} (h : (spool.call lib batch).2 = false) :
    (spool.call lib batch).1.file = spool.file ∧
      (spool.call lib batch).1.storedBytes = spool.storedBytes := by
  unfold call at h ⊢
  cases appended : spool.append lib batch with
  | ok next =>
    rw [appended] at h
    cases h
  | error e => exact ⟨rfl, rfl⟩

/-- The batch of an entry can be read from its record. -/
def Opens (lib : Library) (runId : Bytes) (entry : Nonce × TransferBatch) : Prop :=
  ∃ data header, packAll [entry.2.sequence, entry.2.rowCount, entry.2.byteCount] = some data ∧
    packAll [entry.2.sequence, entry.2.rowCount, entry.2.byteCount,
      (lib.encrypt entry.1 (lib.writeIpc entry.2.frame) (runId ++ data)).length] = some header ∧
    openFrame lib runId entry.1 (lib.encrypt entry.1 (lib.writeIpc entry.2.frame) (runId ++ data))
      entry.2.sequence entry.2.rowCount entry.2.byteCount = some entry.2.frame

theorem Opens.record {entry : Nonce × TransferBatch} (h : Opens lib runId entry) :
    ∃ r, record lib runId entry.1 entry.2 = some r := by
  obtain ⟨data, header, hdata, hheader, -⟩ := h
  exact ⟨_, record_eq_some.2 ⟨data, header, hdata, hheader, rfl⟩⟩

/-- What the calls have accepted can be opened. -/
theorem Sealed.opens (sealed : Sealed lib runId attempts) {i : Nat} {batch : TransferBatch} {r : Bytes}
    (hi : attempts[i]? = some batch) (h : Spool.record lib runId (lib.urandom i) batch = some r) :
    Opens lib runId (lib.urandom i, batch) := by
  obtain ⟨data, header, hdata, hheader, -⟩ := record_eq_some.1 h
  refine ⟨data, header, hdata, hheader, ?_⟩
  simp only [openFrame, hdata, Option.bind_eq_bind, Option.bind_some,
    sealed.decrypt_encrypt i batch data hi hdata, sealed.readIpc_writeIpc]

/-- After some calls the file consists of the accepted records, as long as it may be. -/
structure Wrote (lib : Library) (spool : Spool) (accepted : List (Nonce × TransferBatch)) : Prop where
  file : spool.file = (recordsOf lib spool.runId accepted).flatten
  stored : spool.storedBytes = spool.file.length
  bounded : spool.storedBytes ≤ spool.maximumBytes
  opens : ∀ entry ∈ accepted, Opens lib spool.runId entry

theorem Wrote.append {accepted : List (Nonce × TransferBatch)} {batch : TransferBatch}
    {spool' : Spool} (h : Wrote lib spool accepted) (sealed : Sealed lib spool.runId attempts)
    (hi : attempts[spool.nonces]? = some batch) (ok : spool.append lib batch = .ok spool') :
    Wrote lib spool' (accepted ++ [(lib.urandom spool.nonces, batch)]) := by
  obtain ⟨r, hr, fits, rfl⟩ := append_eq_ok_iff.1 ok
  constructor
  · simp [recordsOf, hr, h.file]
  · simp [h.stored]
  · exact fits
  · intro entry mem
    rcases List.mem_append.1 mem with mem | mem
    · exact h.opens entry mem
    · rw [List.mem_singleton.1 mem]
      exact sealed.opens hi hr

/-- The calls keep it so. -/
theorem Wrote.calls {accepted : List (Nonce × TransferBatch)} {rest : List TransferBatch}
    (h : Wrote lib spool accepted) (sealed : Sealed lib spool.runId attempts)
    (left : attempts.drop spool.nonces = rest) :
    Wrote lib (spool.calls lib rest).1 (accepted ++ (spool.calls lib rest).2) ∧
      (spool.calls lib rest).1.runId = spool.runId ∧
      (spool.calls lib rest).1.maximumBytes = spool.maximumBytes := by
  induction rest generalizing spool accepted with
  | nil =>
    rw [Spool.calls, List.append_nil]
    exact ⟨h, rfl, rfl⟩
  | cons batch rest ih =>
    have hi : attempts[spool.nonces]? = some batch := by
      rw [← List.head?_drop, left]
      rfl
    have later : attempts.drop (spool.nonces + 1) = rest := by
      rw [← List.drop_drop, left]
      rfl
    rw [Spool.calls, call]
    cases ok : spool.append lib batch with
    | error e =>
      have wrote : Wrote lib { spool with nonces := spool.nonces + 1 } accepted :=
        ⟨h.file, h.stored, h.bounded, h.opens⟩
      exact ih wrote sealed later
    | ok next =>
      have wrote := h.append sealed hi ok
      obtain ⟨r, -, -, rfl⟩ := append_eq_ok_iff.1 ok
      have := ih wrote sealed later
      rw [List.append_assoc] at this
      exact this

end Calls

/-! ## Reading damaged files -/

/-- Eight bytes are the packed number that they are read as. -/
theorem packU64_unpackU64 {bytes : Bytes} (h : bytes.length = 8) :
    packU64 (unpackU64 bytes) = some bytes := by
  match bytes, h with
  | [a, b, c, d, e, f, g, i], _ =>
    have ha := a.toNat_lt
    have hb := b.toNat_lt
    have hc := c.toNat_lt
    have hd := d.toNat_lt
    have he := e.toNat_lt
    have hf := f.toNat_lt
    have hg := g.toNat_lt
    have hi := i.toNat_lt
    have byte {n : Nat} {x : UInt8} (eq : n % 256 = x.toNat) : UInt8.ofNat n = x :=
      UInt8.toNat_inj.1 (by rw [UInt8.toNat_ofNat', eq])
    simp only [unpackU64, List.foldl_cons, List.foldl_nil]
    rw [packU64, if_pos (by omega), byte (x := a) (by omega), byte (x := b) (by omega),
      byte (x := c) (by omega), byte (x := d) (by omega), byte (x := e) (by omega),
      byte (x := f) (by omega), byte (x := g) (by omega), byte (x := i) (by omega)]

theorem packAll_append {xs ys : List Nat} {a b : Bytes} (ha : packAll xs = some a)
    (hb : packAll ys = some b) : packAll (xs ++ ys) = some (a ++ b) := by
  induction xs generalizing a with
  | nil =>
    cases ha
    exact hb
  | cons n rest ih =>
    obtain ⟨first, others, hfirst, hothers, rfl⟩ := packAll_cons ha
    rw [List.append_assoc]
    exact Option.bind_eq_some_iff.2 ⟨first, hfirst, Option.bind_eq_some_iff.2 ⟨_, ih hothers, rfl⟩⟩

theorem packAll_singleton (bytes : Bytes) (h : bytes.length = 8) :
    packAll [unpackU64 bytes] = some bytes := by
  refine Option.bind_eq_some_iff.2 ⟨bytes, packU64_unpackU64 h, ?_⟩
  exact Option.bind_eq_some_iff.2 ⟨[], rfl, by rw [List.append_nil]; rfl⟩

/-- A whole header is the packed form of its fields. -/
theorem packAll_header {header : Bytes} (h : header.length = headerSize) :
    packAll [unpackU64 (header.take 8), unpackU64 ((header.drop 8).take 8),
        unpackU64 ((header.drop 16).take 8)] = some (header.take 24) ∧
      packAll [unpackU64 (header.drop 24)] = some (header.drop 24) := by
  rw [headerSize] at h
  have first := packAll_singleton (header.take 8) (by simp; omega)
  have second := packAll_singleton ((header.drop 8).take 8) (by simp; omega)
  have third := packAll_singleton ((header.drop 16).take 8) (by simp; omega)
  refine ⟨?_, packAll_singleton (header.drop 24) (by simp; omega)⟩
  have joined : header.take 8 ++ ((header.drop 8).take 8 ++ (header.drop 16).take 8) =
      header.take 24 := by
    rw [show 24 = 8 + (8 + 8) from rfl, List.take_add, List.take_add, List.drop_drop]
  rw [← joined]
  exact packAll_append first (packAll_append second third)

section Reading

variable {lib : Library} {runId : Bytes} {attempts : List TransferBatch}

/-- The accepted records at the start of a file are read as their batches. -/
theorem readBatches_records {accepted : List (Nonce × TransferBatch)}
    (opens : ∀ entry ∈ accepted, Opens lib runId entry) (fuel : Nat) (rest : Bytes) :
    readBatches lib runId (accepted.length + fuel) ((recordsOf lib runId accepted).flatten ++ rest) =
      { readBatches lib runId fuel rest with
        batches := accepted.map Prod.snd ++ (readBatches lib runId fuel rest).batches } := by
  induction accepted with
  | nil => simp [recordsOf]
  | cons entry accepted ih =>
    obtain ⟨first, opens⟩ := List.forall_mem_cons.1 opens
    obtain ⟨data, header, hdata, hheader, opened⟩ := first
    have hr := record_eq_some.2 ⟨data, header, hdata, hheader, rfl⟩
    have split : (recordsOf lib runId (entry :: accepted)).flatten ++ rest =
        header ++ entry.1.1 ++ lib.encrypt entry.1 (lib.writeIpc entry.2.frame) (runId ++ data) ++
          ((recordsOf lib runId accepted).flatten ++ rest) := by
      rw [recordsOf_cons hr, List.flatten_cons, List.append_assoc]
    have fuels : (entry :: accepted).length + fuel = accepted.length + fuel + 1 := by
      rw [List.length_cons]
      omega
    rw [split, fuels, readBatches_opened hheader opened, ih opens]
    rfl

/-- What can be opened is a record that a call has made. -/
theorem Sealed.made (sealed : Sealed lib runId attempts) {header nonce ciphertext : Bytes}
    (length : header.length = headerSize) (whole : nonce.length = 12)
    (size : ciphertext.length = unpackU64 (header.drop 24)) {frame : Frame}
    (opened : openFrame lib runId ⟨nonce, whole⟩ ciphertext (unpackU64 (header.take 8))
      (unpackU64 ((header.drop 8).take 8)) (unpackU64 ((header.drop 16).take 8)) = some frame) :
    Made lib runId attempts (header ++ nonce ++ ciphertext) := by
  obtain ⟨front, back⟩ := packAll_header length
  simp only [openFrame, front, Option.bind_eq_bind, Option.bind_some] at opened
  obtain ⟨plaintext, decrypted, -⟩ := Option.bind_eq_some_iff.1 opened
  have accepted : lib.decrypt ⟨nonce, whole⟩ ciphertext (runId ++ header.take 24) ≠ none := by
    rw [decrypted]
    exact Option.some_ne_none plaintext
  obtain ⟨i, batch, data, hi, hdata, hnonce, same, hcipher⟩ := sealed.authentic _ _ _ accepted
  rw [List.append_cancel_left_eq] at same
  subst same
  have packed := packAll_append hdata back
  rw [← size, List.take_append_drop, hcipher, hnonce] at packed
  refine ⟨i, batch, hi, record_eq_some.2 ⟨header.take 24, header, hdata, packed, ?_⟩⟩
  rw [← hnonce, ← hcipher]

/-- Where no record that a call has made begins, the reader raises. -/
theorem readBatches_broken (sealed : Sealed lib runId attempts) {rest : Bytes} (more : rest ≠ [])
    (broken : ∀ r, Made lib runId attempts r → ¬ r <+: rest) (fuel : Nat) :
    ∃ e, readBatches lib runId (fuel + 1) rest = { batches := [], failure := some e } := by
  rw [readBatches]
  have header : (rest.take headerSize).isEmpty = false := by
    cases rest with
    | nil => exact absurd rfl more
    | cons => rfl
  dsimp only
  rw [header, if_neg Bool.false_ne_true]
  split_ifs with length whole size
  · exact ⟨_, rfl⟩
  · exact ⟨_, rfl⟩
  · split
    · exact ⟨_, rfl⟩
    · rename_i frame opened
      refine absurd ?_ (broken _ (sealed.made (not_not.1 length) whole (not_not.1 size) opened))
      rw [List.append_assoc, ← List.drop_drop, ← List.take_add, ← List.take_add]
      exact List.take_prefix _ _
  · exact ⟨_, rfl⟩

/-- A record of its own length does not begin inside another one. -/
theorem not_prefix_of_cut {nonce nonce' : Nonce} {batch batch' : TransferBatch} {r r' : Bytes}
    (h : record lib runId nonce batch = some r) (h' : record lib runId nonce' batch' = some r') {k : Nat}
    (cut : k < r'.length) : ¬ r <+: r'.take k := by
  intro begins
  have whole := begins.trans (List.take_prefix k r')
  have length := record_length h
  have length' := record_length h'
  have header : r.take headerSize = r'.take headerSize := by
    obtain ⟨rest, rfl⟩ := whole
    rw [List.take_append_of_le_length (by omega)]
  have short := begins.length_le
  rw [List.length_take] at short
  rw [header] at length
  omega

theorem boundary_succ {records : List Bytes} {i : Nat} {r : Bytes} (h : records[i]? = some r) :
    boundary records (i + 1) = boundary records i + r.length := by
  rw [boundary, List.take_add_one, h, List.flatten_append, List.length_append]
  simp [boundary]

/-- An offset that is no boundary lies inside a record. -/
theorem exists_inside {records : List Bytes} {k : Nat} (le : k ≤ records.flatten.length)
    (other : ∀ i ≤ records.length, k ≠ boundary records i) :
    ∃ i r, records[i]? = some r ∧ boundary records i < k ∧ k < boundary records i + r.length := by
  induction records generalizing k with
  | nil =>
    have := other 0 (Nat.le_refl 0)
    simp [boundary] at this le
    omega
  | cons r rest ih =>
    have shift (i : Nat) : boundary (r :: rest) (i + 1) = r.length + boundary rest i := by
      simp [boundary]
    have start : k ≠ 0 := other 0 (Nat.zero_le _)
    by_cases first : k < r.length
    · exact ⟨0, r, rfl, Nat.pos_of_ne_zero start, by simpa [boundary] using first⟩
    · rw [List.flatten_cons, List.length_append] at le
      obtain ⟨i, r', hr, low, high⟩ := ih (k := k - r.length) (by omega) fun i hi same => by
        have := other (i + 1) (by simpa using hi)
        rw [shift] at this
        omega
      refine ⟨i + 1, r', hr, ?_, ?_⟩ <;>
      · rw [shift]
        omega

/-- The entries of the records: as many, and each with its own. -/
theorem recordsOf_getElem? {accepted : List (Nonce × TransferBatch)}
    (opens : ∀ entry ∈ accepted, Opens lib runId entry) {i : Nat} {r : Bytes}
    (h : (recordsOf lib runId accepted)[i]? = some r) :
    (recordsOf lib runId accepted).take i = recordsOf lib runId (accepted.take i) ∧
      ∃ entry ∈ accepted, record lib runId entry.1 entry.2 = some r := by
  induction accepted generalizing i with
  | nil => cases h
  | cons entry accepted ih =>
    obtain ⟨first, opens⟩ := List.forall_mem_cons.1 opens
    obtain ⟨r', hr⟩ := first.record
    rw [recordsOf_cons hr] at h ⊢
    cases i with
    | zero =>
      cases h
      exact ⟨rfl, entry, List.mem_cons_self, hr⟩
    | succ i =>
      obtain ⟨same, e, mem, he⟩ := ih opens h
      refine ⟨?_, e, List.mem_cons_of_mem _ mem, he⟩
      rw [List.take_succ_cons, same, List.take_succ_cons, recordsOf_cons hr]

/-- No record is empty. -/
theorem length_le_flatten {accepted : List (Nonce × TransferBatch)}
    (opens : ∀ entry ∈ accepted, Opens lib runId entry) :
    accepted.length ≤ (recordsOf lib runId accepted).flatten.length := by
  induction accepted with
  | nil => exact Nat.zero_le _
  | cons entry accepted ih =>
    obtain ⟨first, opens⟩ := List.forall_mem_cons.1 opens
    obtain ⟨r, hr⟩ := first.record
    have later := ih opens
    have length := record_length hr
    rw [recordsOf_cons hr, List.flatten_cons, List.length_append, List.length_cons]
    rw [headerSize] at length
    omega

/-- Reading a file that begins with accepted records. -/
theorem batches_records {accepted : List (Nonce × TransferBatch)}
    (opens : ∀ entry ∈ accepted, Opens lib runId entry) {spool : Spool} (own : spool.runId = runId)
    {rest : Bytes} (file : spool.file = (recordsOf lib runId accepted).flatten ++ rest) :
    ∃ fuel, spool.batches lib = { readBatches lib runId (fuel + 1) rest with
      batches := accepted.map Prod.snd ++ (readBatches lib runId (fuel + 1) rest).batches } := by
  have long : accepted.length ≤ spool.file.length := by
    rw [file, List.length_append]
    exact Nat.le_add_right_of_le (length_le_flatten opens)
  have fuel : spool.file.length + 1 =
      accepted.length + (spool.file.length - accepted.length + 1) := by omega
  refine ⟨spool.file.length - accepted.length, ?_⟩
  rw [batches, fuel, own, file, readBatches_records opens]

/-- Reading a file that begins with accepted records, and goes on with something that no call has
made. -/
theorem batches_broken (sealed : Sealed lib runId attempts)
    {accepted : List (Nonce × TransferBatch)} (opens : ∀ entry ∈ accepted, Opens lib runId entry)
    {spool : Spool} (own : spool.runId = runId) {rest : Bytes}
    (file : spool.file = (recordsOf lib runId accepted).flatten ++ rest) (more : rest ≠ [])
    (broken : ∀ r, Made lib runId attempts r → ¬ r <+: rest) :
    ∃ e, spool.batches lib = { batches := accepted.map Prod.snd, failure := some e } := by
  obtain ⟨fuel, read⟩ := batches_records opens own file
  obtain ⟨e, raised⟩ := readBatches_broken sealed more broken fuel
  refine ⟨e, ?_⟩
  rw [read, raised, List.append_nil]

/-- The start of a file that is cut inside a record. -/
theorem take_flatten {records : List Bytes} {i k : Nat} {r : Bytes} (h : records[i]? = some r)
    (low : boundary records i ≤ k) (high : k ≤ boundary records i + r.length) :
    records.flatten.take k = (records.take i).flatten ++ r.take (k - boundary records i) := by
  obtain ⟨lt, rfl⟩ := List.getElem?_eq_some_iff.1 h
  have split : records.flatten =
      (records.take i).flatten ++ (records[i] ++ (records.drop (i + 1)).flatten) := by
    rw [← List.flatten_cons, List.getElem_cons_drop, ← List.flatten_append, List.take_append_drop]
  rw [boundary] at low high ⊢
  rw [split, List.take_append, List.take_of_length_le low, List.take_append_of_le_length (by omega)]

end Reading

/-! ## The spool -/

/-- A spool that yields the accepted batches and stores what it counts.  Cut inside a record, or with a
record altered to what no call has made, it yields the batches before the damage and raises. -/
structure FailsClosed (lib : Library) (attempts : List TransferBatch) (spool : Spool)
    (accepted : List (Nonce × TransferBatch)) (records : List Bytes) : Prop where
  file : spool.file = records.flatten
  readBack : spool.batches lib = { batches := accepted.map Prod.snd }
  stored : spool.storedBytes = spool.file.length
  bounded : spool.storedBytes ≤ spool.maximumBytes
  truncated : ∀ k ≤ spool.file.length, (∀ i ≤ records.length, k ≠ boundary records i) →
    ∃ i e, boundary records i < k ∧ k < boundary records (i + 1) ∧
      ({ spool with file := spool.file.take k } : Spool).batches lib =
        { batches := (accepted.take i).map Prod.snd, failure := some e }
  altered : ∀ (i : Nat) (r bytes : Bytes), records[i]? = some r → bytes.length = r.length →
    (∀ made, Made lib spool.runId attempts made →
      ¬ made <+: bytes ++ (records.drop (i + 1)).flatten) →
    ∃ e, ({ spool with
        file := (records.take i).flatten ++ (bytes ++ (records.drop (i + 1)).flatten) } :
          Spool).batches lib = { batches := (accepted.take i).map Prod.snd, failure := some e }

/-- What was written is read back or, when it is damaged, refused. -/
theorem Wrote.failsClosed {lib : Library} {attempts : List TransferBatch} {spool : Spool}
    {accepted : List (Nonce × TransferBatch)} (h : Wrote lib spool accepted)
    (sealed : Sealed lib spool.runId attempts) :
    FailsClosed lib attempts spool accepted (recordsOf lib spool.runId accepted) where
  file := h.file
  readBack := by
    obtain ⟨fuel, read⟩ := batches_records h.opens rfl (h.file.trans (List.append_nil _).symm)
    rw [read, readBatches]
    simp
  stored := h.stored
  bounded := h.bounded
  truncated k le other := by
    rw [h.file] at le
    obtain ⟨i, r, hr, low, high⟩ := exists_inside le other
    obtain ⟨first, entry, mem, made⟩ := recordsOf_getElem? h.opens hr
    have cut := take_flatten hr low.le high.le
    rw [← h.file, first] at cut
    obtain ⟨e, raised⟩ := @batches_broken lib _ attempts sealed _
      (fun entry mem => h.opens entry (List.mem_of_mem_take mem))
      { spool with file := spool.file.take k } rfl _ cut
      (List.ne_nil_of_length_pos (by rw [List.length_take]; omega)) fun m hm => by
        obtain ⟨j, batch, -, hm⟩ := hm
        exact not_prefix_of_cut hm made (by omega)
    exact ⟨i, e, low, boundary_succ hr ▸ high, raised⟩
  altered i r bytes hr length broken := by
    obtain ⟨first, entry, mem, made⟩ := recordsOf_getElem? h.opens hr
    have long := record_length made
    refine batches_broken sealed (fun entry mem => h.opens entry (List.mem_of_mem_take mem)) rfl
      (by rw [first]) (List.append_ne_nil_of_left_ne_nil ?_ _) broken
    refine List.ne_nil_of_length_pos ?_
    rw [headerSize] at long
    omega

/-- After every sequence of calls, accepted or not, the spool is read back, or refused when it is
damaged; a call that is refused leaves the file alone. -/
theorem encrypted_spool_fails_closed {lib : Library} {runId : Bytes} {attempts : List TransferBatch}
    (sealed : Sealed lib runId attempts) (maximumBytes : Nat) :
    let out := calls lib { runId, maximumBytes } attempts
    out.1.maximumBytes = maximumBytes ∧
      FailsClosed lib attempts out.1 out.2 (recordsOf lib runId out.2) ∧
      ∀ (spool : Spool) batch, (spool.call lib batch).2 = false →
        (spool.call lib batch).1.file = spool.file ∧
          (spool.call lib batch).1.storedBytes = spool.storedBytes := by
  have start : Wrote lib { runId, maximumBytes } [] := ⟨rfl, rfl, Nat.zero_le _, nofun⟩
  obtain ⟨wrote, own, maximum⟩ := start.calls sealed rfl
  rw [List.drop_zero] at wrote own maximum
  replace own : (calls lib { runId, maximumBytes } attempts).1.runId = runId := own
  have closed := wrote.failsClosed (own.symm ▸ sealed)
  rw [own, List.nil_append] at closed
  exact ⟨maximum, closed, fun spool batch => call_refused⟩

/-- The nonces and the tag of the sample cipher. -/
def sampleNonce (i : Nat) : Nonce := ⟨List.replicate 12 (UInt8.ofNat i), List.length_replicate⟩

def sampleTag : Bytes := List.replicate 16 1

/-- A numbered call has encrypted its batch so. -/
def EncryptedBy (runId : Bytes) (nonce : Nonce) (ciphertext associated : Bytes)
    (attempt : TransferBatch × Nat) : Prop :=
  nonce = sampleNonce attempt.2 ∧
    (packAll [attempt.1.sequence, attempt.1.rowCount, attempt.1.byteCount]).map (runId ++ ·) =
      some associated ∧
    ciphertext = Library.sample.writeIpc attempt.1.frame ++ sampleTag

instance (runId : Bytes) (nonce : Nonce) (ciphertext associated : Bytes) :
    DecidablePred (EncryptedBy runId nonce ciphertext associated) :=
  fun _ => inferInstanceAs (Decidable (_ ∧ _ ∧ _))

/-- A cipher that adds a tag, and opens what the calls have encrypted. -/
def sealedSample (runId : Bytes) (attempts : List TransferBatch) : Library :=
  { Library.sample with
    urandom := sampleNonce
    encrypt := fun _ plaintext _ => plaintext ++ sampleTag
    decrypt := fun nonce ciphertext associated =>
      (attempts.zipIdx.find? fun attempt => EncryptedBy runId nonce ciphertext associated attempt).map
        fun attempt => Library.sample.writeIpc attempt.1.frame }

theorem sealed_sealedSample (runId : Bytes) (attempts : List TransferBatch) :
    Sealed (sealedSample runId attempts) runId attempts where
  readIpc_writeIpc := Library.sample_lawful.readIpc_writeIpc
  decrypt_encrypt i batch data hi packed := by
    have own : EncryptedBy runId (sampleNonce i)
        (Library.sample.writeIpc batch.frame ++ sampleTag) (runId ++ data) (batch, i) :=
      ⟨rfl, congrArg (Option.map (runId ++ ·)) packed, rfl⟩
    have opened : (attempts.zipIdx.find? fun attempt => EncryptedBy runId (sampleNonce i)
        (Library.sample.writeIpc batch.frame ++ sampleTag) (runId ++ data) attempt).isSome :=
      List.find?_isSome.2 ⟨(batch, i), List.mem_zipIdx_iff_getElem?.2 hi, decide_eq_true own⟩
    obtain ⟨attempt, found⟩ := Option.isSome_iff_exists.1 opened
    have same := List.find?_some found
    replace same := of_decide_eq_true same
    refine (congrArg (Option.map _) found).trans (congrArg some ?_)
    exact (List.append_cancel_right same.2.2).symm
  authentic nonce ciphertext associated opened := by
    obtain ⟨plaintext, opened⟩ := Option.ne_none_iff_exists'.1 opened
    obtain ⟨⟨batch, i⟩, found, -⟩ := Option.map_eq_some_iff.1 opened
    have made := List.find?_some found
    obtain ⟨own, packed, same⟩ := of_decide_eq_true made
    obtain ⟨data, hdata, rfl⟩ := Option.map_eq_some_iff.1 packed
    have mem := List.mem_zipIdx_iff_getElem?.1 (List.mem_of_find?_eq_some found)
    exact ⟨i, batch, data, mem, hdata, own, rfl, same⟩

/-- Two batches, and a third one that does not fit into the file of the run. -/
def sampleAttempts : List TransferBatch :=
  [⟨.sample, 2, 34, 1⟩, ⟨.third, 1, 17, 2⟩, ⟨.sample, 2, 34, 3⟩]

def sampleRun : Bytes := [114, 117, 110]

theorem encrypted_spool_of_sample :
    let lib := sealedSample sampleRun sampleAttempts
    let out := calls lib { runId := sampleRun, maximumBytes := 150 } sampleAttempts
    out.2.map Prod.snd = sampleAttempts.take 2 ∧ out.1.storedBytes = 121 ∧
      out.1.maximumBytes = 150 ∧
      FailsClosed lib sampleAttempts out.1 out.2 (recordsOf lib sampleRun out.2) ∧
      (out.1.call lib ⟨.sample, 2, 34, 3⟩).1.file = out.1.file := by
  have whole := encrypted_spool_fails_closed (sealed_sealedSample sampleRun sampleAttempts) 150
  obtain ⟨maximum, closed, refused⟩ := whole
  refine ⟨by decide +kernel, by decide +kernel, maximum, closed, (refused _ _ ?_).1⟩
  decide +kernel

end Spool

end DataMover
