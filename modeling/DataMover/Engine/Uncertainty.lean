import DataMover.Engine.Safety
import DataMover.Redaction

/-!
# Uncertainty in the runs of the engine

`redact_mapping` leaves the facts of an ended run alone, and the verification that the engine hands to
`complete_run` holds no verdict on the destination.  So the records of uncertainty agree after every call
that ends a run, without an assumption on what was verified.
-/

namespace DataMover

open Nested Transition

/-! ## Documents as trees -/

mutual

/-- A parsed value as a tree of containers. -/
def Json.nested : Json → Nested String (Scalar Json)
  | .null => .leaf (.other .null)
  | .bool b => .leaf (.other (.bool b))
  | .int n => .leaf (.other (.int n))
  | .float text => .leaf (.other (.float text))
  | .str s => .leaf (.text s)
  | .arr items => .sequence (nestedItems items)
  | .obj entries => .mapping (nestedEntries entries)

def Json.nestedItems : List Json → List (Nested String (Scalar Json))
  | [] => []
  | item :: items => item.nested :: nestedItems items

def Json.nestedEntries : List (String × Json) → Dict String (Nested String (Scalar Json))
  | [] => []
  | (key, value) :: entries => (key, value.nested) :: nestedEntries entries

end

mutual

/-- The value that a tree stands for. -/
def jsonOf : Nested String (Scalar Json) → Json
  | .leaf (.text s) => .str s
  | .leaf (.other value) => value
  | .mapping entries => .obj (jsonEntries entries)
  | .sequence items => .arr (jsonItems items)

def jsonItems : List (Nested String (Scalar Json)) → List Json
  | [] => []
  | item :: items => jsonOf item :: jsonItems items

def jsonEntries : List (String × Nested String (Scalar Json)) → List (String × Json)
  | [] => []
  | (key, value) :: entries => (key, jsonOf value) :: jsonEntries entries

end

/-- The dictionary that a list of entries stands for: `get` sees the first entry of a key. -/
def Document.firsts : Document → Document
  | [] => []
  | e :: rest => e :: (firsts rest).filter (·.1 ≠ e.1)

theorem Document.get_filter (d : Document) {k key : String} (other : key ≠ k) :
    Document.get (d.filter (·.1 ≠ k)) key = d.get key := by
  induction d with
  | nil => rfl
  | cons e rest ih =>
    obtain ⟨l, v⟩ := e
    by_cases same : l = k
    · rw [List.filter_cons_of_neg (by simpa using same), ih, get_cons, if_neg (same ▸ other)]
    · rw [List.filter_cons_of_pos (by simpa using same), get_cons, get_cons, ih]

theorem Document.get_firsts (d : Document) (key : String) : d.firsts.get key = d.get key := by
  induction d with
  | nil => rfl
  | cons e rest ih =>
    obtain ⟨k, v⟩ := e
    rw [firsts, get_cons, get_cons]
    split_ifs with same
    · rfl
    · rw [get_filter _ same, ih]

theorem Document.nodup_firsts (d : Document) : (d.firsts.map Prod.fst).Nodup := by
  induction d with
  | nil => exact List.nodup_nil
  | cons e rest ih =>
    rw [firsts, List.map_cons]
    refine List.nodup_cons.2 ⟨fun mem => ?_, ih.sublist (List.filter_sublist.map _)⟩
    obtain ⟨f, hf, same⟩ := List.mem_map.1 mem
    exact absurd same (of_decide_eq_true (List.mem_filter.1 hf).2)

theorem Json.nestedEntries_keys (entries : List (String × Json)) :
    (nestedEntries entries).map Prod.fst = entries.map Prod.fst := by
  induction entries with
  | nil => rw [nestedEntries, List.map_nil, List.map_nil]
  | cons e entries ih =>
    obtain ⟨key, value⟩ := e
    rw [nestedEntries, List.map_cons, List.map_cons, ih]

/-! ## The redaction of documents -/

/-- A name of lower-case letters and underscores. -/
def IsName (s : String) : Prop := s.toList.all (fun c => c.isLower || c = '_') = true

instance : DecidablePred IsName := fun s =>
  inferInstanceAs (Decidable (s.toList.all (fun c => c.isLower || c = '_') = true))

namespace Redactor

variable {r : Redactor String}

/-- `redact_text` and `redact_mapping`, as the service layer uses them. -/
def redaction (r : Redactor String) : Redaction where
  text := r.redactText
  mapping d := jsonEntries (r.redactMapping (some (Json.nestedEntries d.firsts)))

/-- `str` is the identity on texts, names are their own `casefold`, and no pattern of `redact_text`
matches a name: each of them needs a space, a colon, an equality sign or a dash. -/
structure Documented (r : Redactor String) : Prop where
  str : ∀ s, r.str s = s
  casefold : ∀ s, IsName s → r.casefold s = s
  redactText : ∀ s, IsName s → s.length ≤ 2000 → r.redactText s = s

theorem get_jsonEntries (d : Document) (key : String) :
    Document.get (jsonEntries ((Json.nestedEntries d).map r.redactEntry)) key =
      (d.get key).map fun value =>
        if r.secretKey (r.str key) then .str sentinelReplacement
        else jsonOf (r.redactValue value.nested) := by
  induction d with
  | nil =>
    rw [Json.nestedEntries, List.map_nil, jsonEntries]
    rfl
  | cons e rest ih =>
    obtain ⟨k, value⟩ := e
    rw [Json.nestedEntries, List.map_cons, redactEntry, jsonEntries, Document.get_cons, ih,
      Document.get_cons]
    by_cases same : key = k
    · rw [if_pos same, if_pos same, Option.map_some, same]
      split_ifs
      · rw [sentinel, jsonOf]
      · rfl
    · rw [if_neg same, if_neg same]

/-- A redacted document stores the redacted values under the same keys. -/
theorem get_redaction (d : Document) (key : String) :
    (r.redaction.mapping d).get key = (d.get key).map fun value =>
      if r.secretKey (r.str key) then .str sentinelReplacement
      else jsonOf (r.redactValue value.nested) := by
  have distinct : ((Json.nestedEntries d.firsts).map Prod.fst).Nodup := by
    rw [Json.nestedEntries_keys]
    exact d.nodup_firsts
  rw [← d.get_firsts, ← get_jsonEntries, ← redactMapping_some distinct]
  rfl

theorem Documented.plain (h : r.Documented) {key : String} (safety : key ∈ safetyKeys) :
    r.secretKey (r.str key) = false := by
  have names : ∀ key ∈ safetyKeys, IsName key := by decide +kernel
  rw [h.str, secretKey, h.casefold key (names key safety)]
  revert key
  decide +kernel

/-- `redact_mapping` leaves the safety facts alone. -/
theorem Documented.keepsFacts (h : r.Documented) : r.redaction.KeepsFacts where
  absent d key _ missing := by rw [get_redaction, missing, Option.map_none]
  kept d key value safety fact stored := by
    rw [get_redaction, stored, Option.map_some, h.plain safety, if_neg Bool.false_ne_true]
    cases fact with
    | flag b => rw [Json.nested, redactValue, redactScalar, jsonOf]
    | impact i =>
      have name : IsName i.value ∧ i.value.length ≤ 2000 := by
        cases i <;> decide +kernel
      rw [Json.nested, redactValue, redactScalar, jsonOf, h.redactText _ name.1 name.2]

end Redactor

/-! ## What the engine verified -/

/-- The facts of a reconciliation beyond the first ones. -/
theorem reconcileWriteResult_get (lib : Library) (policy : WritePolicy) (sourceRows : Nat)
    (manifest : DestinationManifest) (before after : Option Int) (capabilities : ProviderCapabilities)
    {key : String} (expected : key ≠ "expected_rows") (limited : key ≠ "verification_limitation") :
    (reconcileWriteResult lib policy sourceRows manifest before after capabilities).2.2.get key =
      (reconciliationFacts policy sourceRows manifest before after).get key := by
  have set_expected (facts : Document) (value : Json) :
      (facts.set "expected_rows" value).get key = facts.get key := by
    rw [Document.get_set, if_neg expected]
  have set_limited (facts : Document) (value : Json) :
      (facts.set "verification_limitation" value).get key = facts.get key := by
    rw [Document.get_set, if_neg limited]
  unfold reconcileWriteResult
  dsimp only
  split
  · repeat' split
    all_goals simp only [set_expected, set_limited]
  · repeat' split
    all_goals simp only [set_expected]
  · repeat' split
    all_goals simp only [set_expected]
  · rfl

/-- The verification of a finalized transfer holds no verdict on the destination. -/
theorem Reconciled.plain {j : Job} {rows : Nat} {verification : Document}
    (h : Reconciled j rows verification) :
    ∀ key ∈ PipelineRun.verdictKeys, verification.get key = none := by
  obtain ⟨manifest, before, after, capabilities, level, error, facts, st, computed, rfl⟩ := h
  intro key verdict
  have others : key ∉ ["expected_rows", "verification_limitation", "source_bytes", "loaded_bytes",
      "verification_level", "source_rows", "loaded_rows", "destination_rows_before",
      "destination_rows_after", "destination_row_delta", "write_policy"] := by
    revert key
    decide
  simp only [List.mem_cons, List.not_mem_nil, or_false, not_or] at others
  obtain ⟨expected, limited, sourceBytes, loadedBytes, level_, first⟩ := others
  have absent : facts.get key = none := by
    have same := reconcileWriteResult_get j.lib j.snapshot.writePolicy rows manifest before after
      capabilities expected limited
    rw [computed] at same
    rw [same]
    unfold reconciliationFacts
    simp only [Document.get_cons, Document.get_nil, first, if_false]
  rw [verificationOf, Document.get_update_of_get_eq_none, absent]
  simp only [Document.get_cons, Document.get_nil, sourceBytes, loadedBytes, level_, if_false]

/-! ## Agreement -/

section Agreement

open PipelineRun

variable {R : Redaction} {iso : Time → String} {now : Time} {run run' : PipelineRun}

/-- The calls that end a run and report its end: `transition` alone reports nothing, and what
`complete_run` stores was verified by the engine. -/
def EndCall (run : PipelineRun) : ServiceCall → Prop
  | .worker _ _ (.failRun a) => a.Plain run
  | .worker _ _ (.cancelClaimedRun impact) =>
    impact ∈ [none, some .unchanged, some .rolledBack, some .uncertain]
  | .worker _ _ (.completeRun a) => ∃ j rows, Reconciled j rows a.verification
  | .worker _ _ (.transition _ _) => False
  | _ => True

theorem EndCall.plainEnd {call : ServiceCall} (h : EndCall run call) : PlainEnd run call := by
  cases call with
  | worker id token call =>
    cases call with
    | completeRun a =>
      obtain ⟨j, rows, reconciled⟩ := h
      exact reconciled.plain
    | _ => exact h
  | _ => trivial

/-- However a run ends, and ever after, its records of uncertainty agree, and a review of an uncertain
run takes exactly that run out of the set that blocks its pipeline.  A worker completes a run with what the
engine verified, and with nothing else. -/
theorem records_of_uncertainty_agree (keeps : R.KeepsFacts) :
    (∀ {s s₁ s₂ : Time × Database} {call : ServiceCall}, (runSystem R iso).Reachable s →
      (runSystem R iso).Step s (now, call) s₁ → run ∈ s.2.runs → ¬ run.Terminal →
      s₁.2.getRun run.id = some run' → run'.Terminal → EndCall run call →
      (runSystem R iso).Steps s₁ s₂ →
      ∃ row, s₂.2.getRun run.id = some row ∧
        (row.requiresReconciliationReview = true ↔ row.status = .failedNeedsReconciliation) ∧
        (row.status = .failedNeedsReconciliation ↔ row.reconciliationRequired = true) ∧
        (row.reconciliationRequired = true ↔ row.dataImpact = some .uncertain) ∧
        (row.dataImpact = some .uncertain ↔ row.factsRequireReconciliation = true) ∧
        (row.retryable = true → row.status ≠ .failedNeedsReconciliation) ∧
        (row.status = .failedNeedsReconciliation → ∀ t, ∃ reviewed,
          s₂.2.step R iso t (.recordReconciliationReview row.userId row.id) =
            .ok (s₂.2.putRun reviewed) ∧
          reviewed.status = row.status ∧ reviewed.dataImpact = row.dataImpact ∧
          reviewed.reconciliationRequired = row.reconciliationRequired ∧
          ∀ userId pipelineId,
            ((s₂.2.putRun reviewed).runsOf userId pipelineId).filter unresolved =
              ((s₂.2.runsOf userId pipelineId).filter unresolved).filter
                fun r => r.id ≠ row.id)) ∧
    ∀ env : String → WorkerEnv, (∀ id, (env id).lib.Lawful) → ∀ s : Fleet,
      (fleet R iso env).Reachable s → ∀ w ∈ s.workers, ∀ a,
        w.program.head = some (.service (.completeRun a)) →
        EndCall run (.worker w.runId w.token (.completeRun a)) := by
  refine ⟨fun h hs hr running hr' ended plain later =>
    records_agree_of_steps keeps h hs hr running hr' ended plain.plainEnd later, ?_⟩
  intro env lawful s h w hw a next
  have allowed := ((fleet_invariant lawful h).ok w hw).sat.allowed next
  obtain ⟨-, j, -, -, sourceSchema, batches, -, -, reconciled⟩ := allowed
  exact ⟨j, _, reconciled⟩

end Agreement

/-- A redaction that finds no secret in a text. -/
def Redactor.sample : Redactor String where
  str := id
  casefold s := String.ofList (s.toList.map Char.toLower)
  redactText := id

theorem Redactor.sample_documented : Redactor.sample.Documented where
  str _ := rfl
  casefold s name := by
    have lower : ∀ c ∈ s.toList, c.toLower = c := by
      intro c hc
      have cases := List.all_eq_true.1 name c hc
      rw [Bool.or_eq_true, decide_eq_true_eq] at cases
      rcases cases with lower | rfl
      · exact Char.toLower_eq_of_not_isUpper (Char.not_isUpper_of_isLower lower)
      · rfl
    unfold Redactor.sample
    dsimp only
    rw [List.map_congr_left lower, List.map_id', String.ofList_toList]
  redactText _ _ _ := rfl

/-- A partial write by the holder of the lease. -/
def partialWrite : ServiceCall :=
  .worker "run" ⟨"token", token_ne_empty⟩ (.failRun { code := .known .partialWrite, summary := "" })

/-- The table with one claimed run, under this redaction. -/
def redactedTable : Option (Time × Database) :=
  run (serviceStep Redactor.sample.redaction fun _ => "") onePipeline claimCalls

theorem records_of_uncertainty_agree_partialWrite :
    ∃ s ∈ redactedTable,
      ∃ s₁, serviceStep Redactor.sample.redaction (fun _ => "") s (3, partialWrite) = some s₁ ∧
      ∃ row, s₁.2.getRun "run" = some row ∧ row.requiresReconciliationReview = true ∧
        row.dataImpact = some .uncertain ∧ row.retryable = false := by
  obtain ⟨s, hs⟩ := Option.isSome_iff_exists.1 (by decide : redactedTable.isSome)
  have rows : ∀ t ∈ redactedTable, (t.2.getRun "run").any (fun r => decide ¬ r.Terminal) ∧
      ((serviceStep Redactor.sample.redaction (fun _ => "") t (3, partialWrite)).bind
        fun u => u.2.getRun "run").any
          (fun r => decide (r.status = .failedNeedsReconciliation)) := by
    decide +kernel
  obtain ⟨before, after⟩ := rows s hs
  obtain ⟨run, hrun, running⟩ := (Option.any_eq_true ..).1 before
  obtain ⟨row, hrow, status⟩ := (Option.any_eq_true ..).1 after
  obtain ⟨s₁, hs₁, hrow⟩ := Option.bind_eq_some_iff.1 hrow
  obtain ⟨hr, hid⟩ := Database.mem_of_getRun hrun
  have needs := of_decide_eq_true status
  have ended : row.Terminal := by rw [PipelineRun.Terminal, needs]; decide
  have call : EndCall run partialWrite := ⟨.inl rfl, by simp, by simp⟩
  have reachable : (runSystem Redactor.sample.redaction fun _ => "").Reachable s :=
    (System.Reachable.init rfl).steps (steps_of_run hs)
  obtain ⟨row', hrow', review, column, impact, -, retryable, -⟩ :=
    (records_of_uncertainty_agree Redactor.sample_documented.keepsFacts).1 reachable hs₁ hr
      (of_decide_eq_true running) (hid ▸ hrow) ended call .refl
  obtain rfl : row' = row := by
    rw [hid, hrow] at hrow'
    exact (Option.some.inj hrow').symm
  exact ⟨s, hs, s₁, hs₁, row', hrow, review.2 needs, impact.1 (column.1 needs),
    Bool.eq_false_iff.2 fun h => retryable h needs⟩

end DataMover
