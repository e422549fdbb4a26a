import DataMover.Engine.Frame

/-!
# The encrypted spool

`_EncryptedBatchSpool`: the batches of the scan are kept in a file of records, each a header of four
big-endian 64-bit numbers, a nonce and the ciphertext of the frame, until the guardrail decision is
made.  Reading the file returns the batches that were appended, in order (`Spool.batches_eq`).
-/

namespace DataMover

/-- `struct.pack(">Q", n)`; larger numbers are refused. -/
def packU64 (n : Nat) : Option Bytes :=
  if n < 2 ^ 64 then
    some [UInt8.ofNat (n / 2 ^ 56), UInt8.ofNat (n / 2 ^ 48), UInt8.ofNat (n / 2 ^ 40),
      UInt8.ofNat (n / 2 ^ 32), UInt8.ofNat (n / 2 ^ 24), UInt8.ofNat (n / 2 ^ 16),
      UInt8.ofNat (n / 2 ^ 8), UInt8.ofNat n]
  else none

/-- `struct.unpack(">Q", bytes)`. -/
def unpackU64 (bytes : Bytes) : Nat := bytes.foldl (fun acc b => acc * 256 + b.toNat) 0

theorem packU64_length {n : Nat} {bytes : Bytes} (h : packU64 n = some bytes) :
    bytes.length = 8 := by
  unfold packU64 at h
  split_ifs at h
  cases h
  rfl

theorem unpackU64_packU64 {n : Nat} {bytes : Bytes} (h : packU64 n = some bytes) :
    unpackU64 bytes = n := by
  unfold packU64 at h
  split_ifs at h with small
  cases h
  simp only [unpackU64, List.foldl_cons, List.foldl_nil, UInt8.toNat_ofNat']
  omega

/-- `struct.pack(">QQQ", *numbers)` and the like. -/
def packAll : List Nat → Option Bytes
  | [] => some []
  | n :: rest => do
    let first ← packU64 n
    let others ← packAll rest
    return first ++ others

/-- The state of an `_EncryptedBatchSpool`. -/
structure Spool where
  runId : Bytes
  maximumBytes : Nat
  storedBytes : Nat := 0
  file : Bytes := []
  /-- The number of nonces drawn so far. -/
  nonces : Nat := 0

namespace Spool

/-- `_HEADER.size`. -/
def headerSize : Nat := 32

/-- `struct.error`. -/
def structError : Exn := .other "error"

/-- `append`. -/
def append (lib : Library) (spool : Spool) (batch : TransferBatch) : Except Exn Spool :=
  let nonce := lib.urandom spool.nonces
  match packAll [batch.sequence, batch.rowCount, batch.byteCount] with
  | none => .error structError
  | some associatedData =>
    let ciphertext := lib.encrypt nonce (lib.writeIpc batch.frame) (spool.runId ++ associatedData)
    let recordSize := headerSize + nonce.1.length + ciphertext.length
    if spool.storedBytes + recordSize > spool.maximumBytes then
      .error (.connector {
        code := .spoolLimitExceeded, retryable := false
        summary := "The encrypted pre-write scan spool exceeded its configured size limit." })
    else match packAll [batch.sequence, batch.rowCount, batch.byteCount, ciphertext.length] with
      | none => .error structError
      | some header => .ok { spool with
          file := spool.file ++ (header ++ nonce.1 ++ ciphertext)
          storedBytes := spool.storedBytes + recordSize
          nonces := spool.nonces + 1 }

def readError : Exn := .connector {
  code := .internalError, retryable := false
  summary := "The encrypted source scan spool could not be read." }

def verifyError : Exn := .connector {
  code := .internalError, retryable := false
  summary := "The encrypted source scan spool could not be verified." }

/-- What an iterator yields before it ends or raises. -/
structure Yield where
  batches : List TransferBatch
  failure : Option Exn := none

/-- Decrypt the frame of a record. -/
def openFrame (lib : Library) (runId : Bytes) (nonce : Nonce)
    (ciphertext : Bytes) (sequence rowCount byteCount : Nat) : Option Frame := do
  let associatedData ← packAll [sequence, rowCount, byteCount]
  let plaintext ← lib.decrypt nonce ciphertext (runId ++ associatedData)
  lib.readIpc plaintext

/-- `batches`, from the rest of the file. -/
def readBatches (lib : Library) (runId : Bytes) : Nat → Bytes → Yield
  | 0, _ => { batches := [] }
  | fuel + 1, file =>
    let header := file.take headerSize
    if header.isEmpty then { batches := [] }
    else if header.length ≠ headerSize then { batches := [], failure := some readError }
    else
      let sequence := unpackU64 (header.take 8)
      let rowCount := unpackU64 ((header.drop 8).take 8)
      let byteCount := unpackU64 ((header.drop 16).take 8)
      let size := unpackU64 (header.drop 24)
      let nonce := (file.drop headerSize).take 12
      let ciphertext := (file.drop (headerSize + 12)).take size
      if whole : nonce.length = 12 then
        if ciphertext.length ≠ size then { batches := [], failure := some readError }
        else match openFrame lib runId ⟨nonce, whole⟩ ciphertext sequence rowCount byteCount with
          | none => { batches := [], failure := some verifyError }
          | some frame =>
            let rest := readBatches lib runId fuel (file.drop (headerSize + 12 + size))
            { rest with batches := ⟨frame, rowCount, byteCount, sequence⟩ :: rest.batches }
      else { batches := [], failure := some readError }

/-- `batches`; every record of the file takes more than one byte. -/
def batches (lib : Library) (spool : Spool) : Yield :=
  readBatches lib spool.runId (spool.file.length + 1) spool.file

/-! ## Reading back what was written -/

theorem packAll_cons {n : Nat} {rest : List Nat} {bytes : Bytes}
    (h : packAll (n :: rest) = some bytes) :
    ∃ first others, packU64 n = some first ∧ packAll rest = some others ∧
      bytes = first ++ others := by
  obtain ⟨first, h1, h⟩ := Option.bind_eq_some_iff.1 h
  obtain ⟨others, h2, h⟩ := Option.bind_eq_some_iff.1 h
  cases h
  exact ⟨first, others, h1, h2, rfl⟩

/-- The fields of a packed header. -/
theorem packAll_four {a b c d : Nat} {header : Bytes} (h : packAll [a, b, c, d] = some header) :
    header.length = headerSize ∧ unpackU64 (header.take 8) = a ∧
      unpackU64 ((header.drop 8).take 8) = b ∧ unpackU64 ((header.drop 16).take 8) = c ∧
      unpackU64 (header.drop 24) = d := by
  obtain ⟨x, _, hx, h1, rfl⟩ := packAll_cons h
  obtain ⟨y, _, hy, h2, rfl⟩ := packAll_cons h1
  obtain ⟨z, _, hz, h3, rfl⟩ := packAll_cons h2
  obtain ⟨w, _, hw, h4, rfl⟩ := packAll_cons h3
  cases h4
  have lx := packU64_length hx
  have ly := packU64_length hy
  have lz := packU64_length hz
  have lw := packU64_length hw
  have first : (x ++ (y ++ (z ++ (w ++ [])))).take 8 = x := by
    rw [← lx, List.take_left]
  have second : ((x ++ (y ++ (z ++ (w ++ [])))).drop 8).take 8 = y := by
    rw [← lx, List.drop_left, lx, ← ly, List.take_left]
  have third : ((x ++ (y ++ (z ++ (w ++ [])))).drop 16).take 8 = z := by
    rw [← List.append_assoc x, show 16 = (x ++ y).length by simp [lx, ly], List.drop_left,
      ← lz, List.take_left]
  have fourth : (x ++ (y ++ (z ++ (w ++ [])))).drop 24 = w := by
    rw [← List.append_assoc y, ← List.append_assoc x,
      show 24 = (x ++ (y ++ z)).length by simp [lx, ly, lz], List.drop_left, List.append_nil]
  refine ⟨by simp [lx, ly, lz, lw, headerSize], ?_, ?_, ?_, ?_⟩
  · rw [first, unpackU64_packU64 hx]
  · rw [second, unpackU64_packU64 hy]
  · rw [third, unpackU64_packU64 hz]
  · rw [fourth, unpackU64_packU64 hw]

/-- The first record of a file is read as the batch it was written for, when its frame can be opened. -/
theorem readBatches_opened {lib : Library} {runId : Bytes} {nonce : Nonce} {batch : TransferBatch}
    {ciphertext header : Bytes}
    (hheader : packAll [batch.sequence, batch.rowCount, batch.byteCount, ciphertext.length] =
      some header)
    (opened : openFrame lib runId nonce ciphertext batch.sequence batch.rowCount batch.byteCount =
      some batch.frame) (rest : Bytes) (fuel : Nat) :
    readBatches lib runId (fuel + 1) (header ++ nonce.1 ++ ciphertext ++ rest) =
      { readBatches lib runId fuel rest with
        batches := batch :: (readBatches lib runId fuel rest).batches } := by
  obtain ⟨length, sequence, rowCount, byteCount, size⟩ := packAll_four hheader
  have file : header ++ nonce.1 ++ ciphertext ++ rest =
      header ++ (nonce.1 ++ (ciphertext ++ rest)) := by simp only [List.append_assoc]
  have hnonce := nonce.2
  have takeHeader : (header ++ (nonce.1 ++ (ciphertext ++ rest))).take headerSize = header := by
    rw [← length, List.take_left]
  have dropHeader : (header ++ (nonce.1 ++ (ciphertext ++ rest))).drop headerSize =
      nonce.1 ++ (ciphertext ++ rest) := by
    rw [← length, List.drop_left]
  have takeNonce : (nonce.1 ++ (ciphertext ++ rest)).take 12 = nonce.1 :=
    List.take_left' hnonce
  have dropNonce : (nonce.1 ++ (ciphertext ++ rest)).drop 12 = ciphertext ++ rest :=
    List.drop_left' hnonce
  have notEmpty : header.isEmpty = false := by
    cases header with
    | nil => simp [headerSize] at length
    | cons => rfl
  rw [file, readBatches]
  simp only [takeHeader, ← List.drop_drop, dropHeader, takeNonce, dropNonce, notEmpty, length,
    sequence, rowCount, byteCount, size, ne_eq, not_true, if_false, Bool.false_eq_true, hnonce,
    dif_pos, List.take_left, List.drop_left, opened]

/-- The first record of a file is read as the batch it was written for. -/
theorem readBatches_record {lib : Library} (lawful : lib.Lawful) {runId : Bytes} {nonce : Nonce}
    {batch : TransferBatch} {associatedData header : Bytes}
    (hdata : packAll [batch.sequence, batch.rowCount, batch.byteCount] = some associatedData)
    (hheader : packAll [batch.sequence, batch.rowCount, batch.byteCount,
      (lib.encrypt nonce (lib.writeIpc batch.frame) (runId ++ associatedData)).length] = some header)
    (rest : Bytes) (fuel : Nat) :
    readBatches lib runId (fuel + 1) (header ++ nonce.1 ++
        lib.encrypt nonce (lib.writeIpc batch.frame) (runId ++ associatedData) ++ rest) =
      { readBatches lib runId fuel rest with
        batches := batch :: (readBatches lib runId fuel rest).batches } := by
  refine readBatches_opened hheader ?_ rest fuel
  simp only [openFrame, hdata, Option.bind_eq_bind, Option.bind_some, lawful.decrypt_encrypt,
    lawful.readIpc_writeIpc]

/-- The spool holds exactly these batches. -/
structure Holds (lib : Library) (spool : Spool) (batches : List TransferBatch) : Prop where
  short : batches.length ≤ spool.file.length
  read : ∀ fuel rest, readBatches lib spool.runId (batches.length + fuel) (spool.file ++ rest) =
    { readBatches lib spool.runId fuel rest with
      batches := batches ++ (readBatches lib spool.runId fuel rest).batches }

theorem holds_nil (lib : Library) (runId : Bytes) (maximumBytes : Nat) :
    Holds lib { runId, maximumBytes } [] :=
  ⟨Nat.le_refl 0, fun fuel rest => by simp⟩

/-- A batch that `append` accepts is added at the end. -/
theorem Holds.append {lib : Library} (lawful : lib.Lawful) {spool spool' : Spool}
    {batches : List TransferBatch} (holds : Holds lib spool batches) {batch : TransferBatch}
    (h : spool.append lib batch = .ok spool') : Holds lib spool' (batches ++ [batch]) := by
  unfold Spool.append at h
  simp only at h
  split at h
  · cases h
  · rename_i associatedData hdata
    split_ifs at h
    split at h
    · cases h
    · rename_i header hheader
      cases h
      have length := (packAll_four hheader).1
      constructor
      · have := holds.short
        simp only [List.length_append, List.length_singleton, length, headerSize]
        omega
      · intro fuel rest
        have record := readBatches_record lawful hdata hheader rest fuel
        have shifted : (batches ++ [batch]).length + fuel = batches.length + (fuel + 1) := by
          rw [List.length_append, List.length_singleton]
          omega
        have read := holds.read (fuel + 1) (header ++ (lib.urandom spool.nonces).1 ++
          lib.encrypt (lib.urandom spool.nonces) (lib.writeIpc batch.frame)
            (spool.runId ++ associatedData) ++ rest)
        simp only [List.append_assoc] at record read ⊢
        rw [← List.append_assoc batches, shifted, read, record]
        simp

/-- Reading the spool returns what it holds. -/
theorem Holds.batches_eq {lib : Library} {spool : Spool} {batches : List TransferBatch}
    (holds : Holds lib spool batches) : spool.batches lib = { batches } := by
  have enough : spool.file.length + 1 =
      batches.length + (spool.file.length - batches.length + 1) := by
    have := holds.short
    omega
  have read := holds.read (spool.file.length - batches.length + 1) []
  rw [List.append_nil, ← enough] at read
  rw [Spool.batches, read]
  simp [readBatches]

end Spool

end DataMover
