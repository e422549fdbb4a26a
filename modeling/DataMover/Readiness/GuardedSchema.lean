import DataMover.Engine.Exposure
import DataMover.Engine.Worker

/-!
# The guarded schema before and during a run

The readiness check folds the saved guardrail actions into one action for each column; the transfer
engine groups the actions that its findings select.  On both sides removal wins, so that both project
the same schema, except when a finding is about a column that the schema does not have: then the engine
blocks the run.
-/

namespace DataMover

/-! ## The strongest action -/

/-- The action of a column on which these actions are selected. -/
def strongest (selected : List ActionName) : Option ActionName :=
  if ActionName.remove ∈ selected then some .remove
  else if ActionName.hash ∈ selected then some .hash
  else none

theorem strongest_congr {xs ys : List ActionName} (h : ∀ a, a ∈ xs ↔ a ∈ ys) :
    strongest xs = strongest ys := by
  simp only [strongest, h]

theorem strongest_cons_ne_nil {selected : List ActionName} (h : selected ≠ []) :
    strongest selected = some (if ActionName.remove ∈ selected then .remove else .hash) := by
  unfold strongest
  by_cases remove : ActionName.remove ∈ selected
  · rw [if_pos remove, if_pos remove]
  · have hash : ActionName.hash ∈ selected := by
      obtain ⟨a, ha⟩ := List.exists_mem_of_ne_nil _ h
      cases a with
      | hash => exact ha
      | remove => exact absurd ha remove
    rw [if_neg remove, if_pos hash, if_neg remove]

/-! ## The readiness check -/

/-- `by_column[column] = action`. -/
def assign : List (String × ActionName) → String → ActionName → List (String × ActionName)
  | [], column, action => [(column, action)]
  | (c, a) :: rest, column, action =>
    if c = column then (c, action) :: rest else (c, a) :: assign rest column action

/-- One turn of the loop of `_project_guardrail_schema`. -/
def addSavedAction (schema : ObjectSchema) (byColumn : List (String × ActionName))
    (action : GuardrailAction) : List (String × ActionName) :=
  if schema.columns.any (fun column => column.name = action.column) then
    if action.action = .remove ∨ byColumn.lookup action.column ≠ some .remove then
      assign byColumn action.column action.action
    else byColumn
  else byColumn

/-- `by_column`. -/
def actionsByColumn (schema : ObjectSchema) (actions : List GuardrailAction) :
    List (String × ActionName) :=
  actions.foldl (addSavedAction schema) []

/-- `_project_guardrail_schema`. -/
def projectGuardrailSchema (schema : ObjectSchema) (actions : List GuardrailAction) :
    Except Exn ObjectSchema :=
  projectSchemaForGuardrails schema (actionsByColumn schema actions)

/-- The schema that the readiness check passes to `preflight_destination`. -/
def readinessSchema (snapshot : DefinitionSnapshot) (schema : ObjectSchema) :
    Except Exn ObjectSchema := do
  let schema ← applyColumnTypeOverridesToSchema schema snapshot.writePolicy.columnTypeOverrides
  projectGuardrailSchema schema snapshot.guardrailActions

/-! ## Lookups -/

theorem lookup_cons {α : Type} (k : String) (v : α) (rest : List (String × α)) (key : String) :
    ((k, v) :: rest).lookup key = if key = k then some v else rest.lookup key := by
  by_cases h : key = k
  · subst h
    simp
  · have hb : (key == k) = false := by simpa using h
    rw [if_neg h, List.lookup, hb]

theorem lookup_assign (byColumn : List (String × ActionName)) (column : String)
    (action : ActionName) (c : String) :
    (assign byColumn column action).lookup c =
      if c = column then some action else byColumn.lookup c := by
  induction byColumn with
  | nil => rw [assign, lookup_cons]
  | cons e rest ih =>
    obtain ⟨d, a⟩ := e
    rw [assign]
    split_ifs with hd hc hc
    · subst hd hc
      simp
    · subst hd
      rw [lookup_cons, lookup_cons, if_neg hc, if_neg hc]
    · subst hc
      rw [lookup_cons, ih, if_pos rfl, if_neg fun e => hd e.symm]
    · rw [lookup_cons, lookup_cons, ih, if_neg hc]

theorem mem_keys_assign {byColumn : List (String × ActionName)} {column c : String}
    {action : ActionName} :
    c ∈ (assign byColumn column action).map Prod.fst ↔
      c = column ∨ c ∈ byColumn.map Prod.fst := by
  induction byColumn with
  | nil => simp [assign]
  | cons e rest ih =>
    obtain ⟨d, a⟩ := e
    rw [assign]
    split_ifs with h
    · subst h
      simp
    · rw [List.map_cons, List.mem_cons, ih, List.map_cons, List.mem_cons]
      tauto

theorem nodup_keys_assign {byColumn : List (String × ActionName)} {column : String}
    {action : ActionName} (h : (byColumn.map Prod.fst).Nodup) :
    ((assign byColumn column action).map Prod.fst).Nodup := by
  induction byColumn with
  | nil => simp [assign]
  | cons e rest ih =>
    obtain ⟨d, a⟩ := e
    rw [List.map_cons, List.nodup_cons] at h
    rw [assign]
    split_ifs with hd
    · exact List.nodup_cons.2 h
    · refine List.nodup_cons.2 ⟨fun hm => ?_, ih h.2⟩
      rcases mem_keys_assign.1 hm with rfl | hm
      · exact hd rfl
      · exact h.1 hm

theorem lookup_addAction (selected : List (String × List ActionName)) (column : String)
    (action : ActionName) (c : String) :
    (addAction selected column action).lookup c =
      if c = column then some (action :: (selected.lookup column).getD []) else selected.lookup c := by
  induction selected with
  | nil => rw [addAction, lookup_cons]; rfl
  | cons e rest ih =>
    obtain ⟨d, as⟩ := e
    rw [addAction]
    split_ifs with hd hc hc
    · subst hd hc
      simp
    · subst hd
      rw [lookup_cons, lookup_cons, if_neg hc, if_neg hc]
    · subst hc
      rw [lookup_cons, ih, if_pos rfl, if_neg fun e => hd e.symm, lookup_cons,
        if_neg fun e => hd e.symm]
    · rw [lookup_cons, lookup_cons, ih, if_neg hc]

/-! ## What each side computes -/

section Meaning

variable {schema : ObjectSchema} {actions : List GuardrailAction} {findings : List Finding}

/-- The saved actions on a column, if the schema has it. -/
def savedOn (schema : ObjectSchema) (actions : List GuardrailAction) (column : String) :
    List ActionName :=
  (actions.filter fun action => action.column = column ∧ column ∈ schema.names).map
    GuardrailAction.action

/-- The actions that the findings of a column select. -/
def selectedOn (findings : List Finding) (actions : List GuardrailAction) (column : String) :
    List ActionName :=
  (findings.filter fun finding => finding.column = column).filterMap (selectedAction actions)

theorem mem_savedOn {column : String} {a : ActionName} :
    a ∈ savedOn schema actions column ↔
      column ∈ schema.names ∧ ∃ action ∈ actions, action.column = column ∧ action.action = a := by
  simp only [savedOn, List.mem_map, List.mem_filter, decide_eq_true_eq]
  constructor
  · rintro ⟨action, ⟨mem, rfl, present⟩, rfl⟩
    exact ⟨present, action, mem, rfl, rfl⟩
  · rintro ⟨present, action, mem, rfl, rfl⟩
    exact ⟨action, ⟨mem, rfl, present⟩, rfl⟩

theorem mem_selectedOn {column : String} {a : ActionName} :
    a ∈ selectedOn findings actions column ↔
      ∃ f ∈ findings, f.column = column ∧ selectedAction actions f = some a := by
  simp only [selectedOn, List.mem_filterMap, List.mem_filter, decide_eq_true_eq, and_assoc]

theorem any_name_iff {column : String} :
    schema.columns.any (fun c => c.name = column) = true ↔ column ∈ schema.names := by
  simp [ObjectSchema.names]

theorem nodup_actionsByColumn (schema : ObjectSchema) (actions : List GuardrailAction) :
    ((actionsByColumn schema actions).map Prod.fst).Nodup := by
  induction actions using List.reverseRecOn with
  | nil => exact List.nodup_nil
  | append_singleton rest action ih =>
    rw [actionsByColumn, List.foldl_append, ← actionsByColumn, List.foldl_cons, List.foldl_nil,
      addSavedAction]
    split_ifs
    · exact nodup_keys_assign ih
    · exact ih
    · exact ih

/-- The loop keeps the strongest saved action of each column of the schema. -/
theorem lookup_actionsByColumn (schema : ObjectSchema) (actions : List GuardrailAction)
    (column : String) :
    (actionsByColumn schema actions).lookup column = strongest (savedOn schema actions column) := by
  induction actions using List.reverseRecOn with
  | nil => rfl
  | append_singleton rest action ih =>
    have more (a : ActionName) : a ∈ savedOn schema (rest ++ [action]) column ↔
        a ∈ savedOn schema rest column ∨
          column ∈ schema.names ∧ action.column = column ∧ action.action = a := by
      simp only [mem_savedOn, List.mem_append, List.mem_singleton]
      constructor
      · rintro ⟨present, b, mem | rfl, hc, ha⟩
        · exact .inl ⟨present, b, mem, hc, ha⟩
        · exact .inr ⟨present, hc, ha⟩
      · rintro (⟨present, b, mem, hc, ha⟩ | ⟨present, hc, ha⟩)
        · exact ⟨present, b, .inl mem, hc, ha⟩
        · exact ⟨present, action, .inr rfl, hc, ha⟩
    rw [actionsByColumn, List.foldl_append, ← actionsByColumn, List.foldl_cons, List.foldl_nil,
      addSavedAction]
    by_cases present : action.column ∈ schema.names
    · rw [if_pos (any_name_iff.2 present)]
      by_cases same : column = action.column
      · subst same
        by_cases wins : action.action = .remove ∨
            (actionsByColumn schema rest).lookup action.column ≠ some .remove
        · rw [if_pos wins, lookup_assign, if_pos rfl]
          simp only [strongest, more, present, true_and]
          rw [ih, strongest] at wins
          cases hn : action.action with
          | remove => simp
          | hash =>
            have kept : ActionName.remove ∉ savedOn schema rest action.column := by
              intro hr
              rw [if_pos hr, hn] at wins
              simp at wins
            simp [kept]
        · rw [if_neg wins, ih]
          rw [ih] at wins
          obtain ⟨notRemove, removed⟩ := not_or.1 wins
          have hr : ActionName.remove ∈ savedOn schema rest action.column := by
            by_contra hr
            refine removed ?_
            rw [strongest, if_neg hr]
            split_ifs <;> simp
          simp [strongest, more, hr]
      · have unchanged : strongest (savedOn schema (rest ++ [action]) column) =
            strongest (savedOn schema rest column) :=
          strongest_congr fun a => (more a).trans
            (or_iff_left fun h => same h.2.1.symm)
        rw [unchanged, ← ih]
        split_ifs
        · rw [lookup_assign, if_neg same]
        · rfl
    · rw [if_neg fun h => present (any_name_iff.1 h), ih]
      exact strongest_congr fun a =>
        ((more a).trans (or_iff_left fun h => present (h.2.1 ▸ h.1))).symm

theorem lookup_selectedActions (findings : List Finding) (actions : List GuardrailAction)
    (column : String) :
    (selectedActions findings actions).lookup column =
      if selectedOn findings actions column = [] then none
      else some (selectedOn findings actions column).reverse := by
  induction findings using List.reverseRecOn with
  | nil => rfl
  | append_singleton rest f ih =>
    rw [selectedActions, List.foldl_append, ← selectedActions, List.foldl_cons, List.foldl_nil]
    have split : selectedOn (rest ++ [f]) actions column = selectedOn rest actions column ++
        if f.column = column then (selectedAction actions f).toList else [] := by
      simp only [selectedOn, List.filter_append, List.filterMap_append]
      congr 1
      by_cases h : f.column = column
      · rcases hs : selectedAction actions f with _ | a <;> simp [h, hs]
      · simp [h]
    rcases hs : selectedAction actions f with _ | action
    · rw [hs] at split
      simp only [Option.toList_none, ite_self, List.append_nil] at split
      rw [split, ← ih]
    · rw [hs] at split
      rw [lookup_addAction]
      by_cases h : column = f.column
      · subst h
        rw [if_pos rfl] at split ⊢
        rw [ih, split]
        by_cases none : selectedOn rest actions f.column = []
        · simp [none]
        · simp [none]
      · have other : ¬ f.column = column := fun e => h e.symm
        rw [if_neg other, List.append_nil] at split
        rw [if_neg h, ih, split]

/-- `_effective_actions` keeps the strongest selected action of each column. -/
theorem lookup_effectiveActions (findings : List Finding) (actions : List GuardrailAction)
    (column : String) :
    (effectiveActions findings actions).lookup column =
      strongest (selectedOn findings actions column) := by
  have mapped : ∀ entries : List (String × List ActionName),
      (entries.map fun e => (e.1, if ActionName.remove ∈ e.2 then ActionName.remove else .hash)).lookup
        column = (entries.lookup column).map
          fun as => if ActionName.remove ∈ as then ActionName.remove else .hash := by
    intro entries
    induction entries with
    | nil => rfl
    | cons e rest ih =>
      obtain ⟨d, as⟩ := e
      rw [List.map_cons, lookup_cons, lookup_cons, ih]
      by_cases h : column = d
      · rw [if_pos h, if_pos h, Option.map_some]
      · rw [if_neg h, if_neg h]
  rw [effectiveActions, mapped, lookup_selectedActions]
  by_cases none : selectedOn findings actions column = []
  · rw [if_pos none, none]
    rfl
  · rw [if_neg none, strongest_cons_ne_nil none]
    simp

/-! ## Findings and saved actions -/

/-- No two saved actions are about one detector and column. -/
def DistinctActions (actions : List GuardrailAction) : Prop :=
  (actions.map fun action => (action.detector, action.column)).Nodup

/-- Every finding has a saved action. -/
def AllSaved (actions : List GuardrailAction) (findings : List Finding) : Prop :=
  ∀ f ∈ findings, ∃ action ∈ actions, action.detector = f.detector ∧ action.column = f.column

theorem actionLookup_eq_some_iff (distinct : DistinctActions actions) {key : Detector × String}
    {a : ActionName} :
    actionLookup actions key = some a ↔
      ∃ action ∈ actions, (action.detector, action.column) = key ∧ action.action = a := by
  rw [actionLookup, Option.map_eq_some_iff]
  constructor
  · rintro ⟨action, found, rfl⟩
    have hkey := List.find?_some found
    exact ⟨action, List.mem_reverse.1 (List.mem_of_find?_eq_some found), by simpa using hkey, rfl⟩
  · rintro ⟨action, mem, hkey, rfl⟩
    obtain ⟨b, found⟩ : ∃ b, actions.reverse.find?
        (fun action => (action.detector, action.column) = key) = some b :=
      Option.isSome_iff_exists.1 (List.find?_isSome.2
        ⟨action, List.mem_reverse.2 mem, decide_eq_true hkey⟩)
    have hb : (b.detector, b.column) = key := by simpa using List.find?_some found
    have same : b = action := List.inj_on_of_nodup_map distinct
      (List.mem_reverse.1 (List.mem_of_find?_eq_some found)) mem (hb.trans hkey.symm)
    exact ⟨b, found, by rw [same]⟩

/-- The saved decisions that are added are about columns of the schema, and all of them are added. -/
theorem mem_findingKeys_addSavedDecisions {available : List String} {key : Detector × String} :
    key ∈ findingKeys (addSavedDecisions available findings actions) ↔
      key ∈ findingKeys findings ∨
        key.2 ∈ available ∧ ∃ action ∈ actions, (action.detector, action.column) = key := by
  induction actions generalizing findings with
  | nil => simp [addSavedDecisions]
  | cons action rest ih =>
    have here : (∃ b ∈ action :: rest, (b.detector, b.column) = key) ↔
        (action.detector, action.column) = key ∨ ∃ b ∈ rest, (b.detector, b.column) = key := by
      simp
    rw [addSavedDecisions, here]
    split_ifs with h
    · rw [ih, findingKeys, List.map_append, List.mem_append, ← findingKeys]
      constructor
      · rintro ((old | new) | ⟨present, more⟩)
        · exact .inl old
        · obtain rfl : key = (action.detector, action.column) := by simpa using new
          exact .inr ⟨h.1, .inl rfl⟩
        · exact .inr ⟨present, .inr more⟩
      · rintro (old | ⟨present, rfl | more⟩)
        · exact .inl (.inl old)
        · exact .inl (.inr (by simp))
        · exact .inr ⟨present, more⟩
    · rw [ih]
      constructor
      · rintro (old | ⟨present, more⟩)
        · exact .inl old
        · exact .inr ⟨present, .inr more⟩
      · rintro (old | ⟨present, rfl | more⟩)
        · exact .inl old
        · refine .inl (by_contra fun new => h ⟨present, new⟩)
        · exact .inr ⟨present, more⟩

/-- The findings on a column of the schema select all the actions that are saved for it. -/
theorem mem_selectedOn_of_present (distinct : DistinctActions actions) {column : String}
    (present : column ∈ schema.names) {a : ActionName} :
    a ∈ selectedOn (addSavedDecisions schema.names findings actions) actions column ↔
      a ∈ savedOn schema actions column := by
  rw [mem_selectedOn, mem_savedOn]
  constructor
  · rintro ⟨f, -, hc, selected⟩
    obtain ⟨action, mem, hkey, ha⟩ := (actionLookup_eq_some_iff distinct).1 selected
    exact ⟨present, action, mem, (Prod.mk.inj hkey).2.trans hc, ha⟩
  · rintro ⟨-, action, mem, hc, ha⟩
    have key : (action.detector, action.column) ∈
        findingKeys (addSavedDecisions schema.names findings actions) :=
      mem_findingKeys_addSavedDecisions.2 (.inr ⟨hc ▸ present, action, mem, rfl⟩)
    obtain ⟨f, hf, hkey⟩ := List.mem_map.1 key
    refine ⟨f, hf, (Prod.mk.inj hkey).2.trans hc, ?_⟩
    exact (actionLookup_eq_some_iff distinct).2 ⟨action, mem, hkey.symm, ha⟩

/-- Findings on columns of the schema select nothing elsewhere. -/
theorem selectedOn_of_missing {column : String}
    (within : ∀ f ∈ findings, f.column ∈ schema.names) (missing : column ∉ schema.names) :
    selectedOn (addSavedDecisions schema.names findings actions) actions column = [] := by
  rw [List.eq_nil_iff_forall_not_mem]
  intro a ha
  obtain ⟨f, hf, rfl, -⟩ := mem_selectedOn.1 ha
  rcases mem_findingKeys_addSavedDecisions.1 (List.mem_map_of_mem (f := fun f : Finding =>
    (f.detector, f.column)) hf) with old | ⟨present, -⟩
  · obtain ⟨g, hg, same⟩ := List.mem_map.1 old
    exact missing ((Prod.mk.inj same).2 ▸ within g hg)
  · exact missing present

end Meaning

/-! ## Projections -/

theorem sorted_congr {xs ys : List String} (h : ∀ t, t ∈ xs ↔ t ∈ ys) :
    sorted xs.dedup = sorted ys.dedup := by
  have perm : xs.dedup.Perm ys.dedup :=
    (List.perm_ext_iff_of_nodup (List.nodup_dedup _) (List.nodup_dedup _)).2 fun t => by
      rw [List.mem_dedup, List.mem_dedup, h]
  exact ((List.perm_insertionSort _ _).trans (perm.trans (List.perm_insertionSort _ _).symm)).eq_of_pairwise
    (fun _ _ _ _ => le_antisymm) (List.pairwise_insertionSort _ _) (List.pairwise_insertionSort _ _)

/-- A projection depends on the action of each column only. -/
theorem projectSchemaForGuardrails_congr {schema : ObjectSchema}
    {left right : List (String × ActionName)} (nodupLeft : (left.map Prod.fst).Nodup)
    (nodupRight : (right.map Prod.fst).Nodup) (same : ∀ c, left.lookup c = right.lookup c) :
    projectSchemaForGuardrails schema left = projectSchemaForGuardrails schema right := by
  have removed : ∀ c, c ∈ columnsWith left .remove ↔ c ∈ columnsWith right .remove := fun c => by
    rw [mem_columnsWith, mem_columnsWith, ← lookup_eq_some_iff nodupLeft,
      ← lookup_eq_some_iff nodupRight, same]
  have all : sorted (schema.removedColumns ++ columnsWith left .remove).dedup =
      sorted (schema.removedColumns ++ columnsWith right .remove).dedup :=
    sorted_congr fun c => by rw [List.mem_append, List.mem_append, removed]
  simp only [projectSchemaForGuardrails, removed, same, all]

/-! ## Agreement -/

section Agreement

variable {schema : ObjectSchema} {actions : List GuardrailAction} {found : List Finding}

/-- Both sides act alike on every column. -/
theorem lookup_agree (distinct : DistinctActions actions)
    (within : ∀ f ∈ found, f.column ∈ schema.names) (column : String) :
    (effectiveActions (addSavedDecisions schema.names found actions) actions).lookup column =
      (actionsByColumn schema actions).lookup column := by
  rw [lookup_effectiveActions, lookup_actionsByColumn]
  refine strongest_congr fun a => ?_
  by_cases present : column ∈ schema.names
  · exact mem_selectedOn_of_present distinct present
  · rw [selectedOn_of_missing within present, mem_savedOn]
    simp [present]

theorem projections_agree (distinct : DistinctActions actions)
    (within : ∀ f ∈ found, f.column ∈ schema.names) {original : ObjectSchema}
    (names : original.names = schema.names) :
    projectSchemaForGuardrails original
        (effectiveActions (addSavedDecisions schema.names found actions) actions) =
      projectGuardrailSchema original actions := by
  rw [← names] at within ⊢
  exact projectSchemaForGuardrails_congr nodup_effectiveActions (nodup_actionsByColumn _ _)
    (lookup_agree distinct within)

/-- The schema of the engine is that of the readiness check. -/
theorem destinationSchemaFor_eq (j : Job) (distinct : DistinctActions j.snapshot.guardrailActions)
    (within : ∀ f ∈ found, f.column ∈ schema.names) :
    destinationSchemaFor j schema (effectiveActions
        (addSavedDecisions schema.names found j.snapshot.guardrailActions)
        j.snapshot.guardrailActions) =
      readinessSchema j.snapshot schema := by
  unfold destinationSchemaFor readinessSchema
  cases h : applyColumnTypeOverridesToSchema schema j.snapshot.writePolicy.columnTypeOverrides with
  | error e => rfl
  | ok original => exact projections_agree distinct within (applyColumnTypeOverridesToSchema_names h)

/-- A resolved finding on a column that the schema does not have blocks the run. -/
theorem blocked_of_missing (distinct : DistinctActions actions) (saved : AllSaved actions found)
    {f : Finding} (hf : f ∈ found) (missing : f.column ∉ schema.names) (protected_ : List String) :
    (blockingColumns (effectiveActions (addSavedDecisions schema.names found actions) actions) schema
      protected_).1 = missingReason := by
  obtain ⟨action, mem, hd, hc⟩ := saved f hf
  have selected : selectedAction actions f = some action.action :=
    (actionLookup_eq_some_iff distinct).2 ⟨action, mem, by rw [hd, hc], rfl⟩
  have effective := mem_keys_effectiveActions
    (subset_addSavedDecisions schema.names found actions hf) (by rw [selected]; rfl)
  have some_missing : ((effectiveActions (addSavedDecisions schema.names found actions) actions).map
      Prod.fst).filter (· ∉ schema.names) ≠ [] :=
    List.ne_nil_of_mem (List.mem_filter.2 ⟨effective, decide_eq_true missing⟩)
  rw [blockingColumns, if_pos some_missing]

/-- The plan of an unblocked run is made for the schema of the readiness check. -/
theorem Planned.readinessSchema_eq {j : Job} {sourceSchema : ObjectSchema}
    {batches : List TransferBatch} {plan : Plan} (planned : Planned j sourceSchema batches plan)
    (distinct : DistinctActions j.snapshot.guardrailActions) :
    readinessSchema j.snapshot plan.scan.schema = .ok plan.schema := by
  obtain ⟨destinationSchema, hd⟩ := planned.decision
  have unblocked := planned.unblocked
  rw [hd] at unblocked
  obtain ⟨resolved, present⟩ := guardrailDecision_unblocked unblocked
  have within : ∀ f ∈ metadataGuardrailFindings sourceSchema ++ ssnFindings plan.scan.ssnCounts,
      f.column ∈ plan.scan.schema.names := fun f hf => by
    obtain ⟨action, ha⟩ := resolved f (subset_addSavedDecisions _ _ _ hf)
    exact present _ ((lookup_eq_some_iff nodup_effectiveActions).1 ha)
  have schema := planned.schema
  rw [planned.effective_eq] at schema
  exact (destinationSchemaFor_eq j distinct within).symm.trans schema

open Program (Runs) in
/-- In every run, the destination is prepared for the schema that the readiness check computes from the
schema of the scan. -/
theorem prepared_schema_eq {j : Job} (lawful : j.lib.Lawful)
    (distinct : DistinctActions j.snapshot.guardrailActions)
    {events : List (Program.Event Call.Answer Exn)} {q : Transfer Unit}
    (run : Runs (executeTransfer j) events q) {schema : ObjectSchema} {policy : WritePolicy}
    {runId : String} (next : q.head = some (.prepareDestination schema policy runId)) :
    ∃ sourceSchema batches scan, ScannedSource j (progressAfter j events) sourceSchema batches scan ∧
      readinessSchema j.snapshot scan.schema = .ok schema := by
  have allowed := ((executeTransfer_sat lawful).runs run).allowed next
  obtain ⟨-, -, j', hj, sourceSchema, batches, plan, source, planned, rfl⟩ := allowed.1
  cases hj
  exact ⟨sourceSchema, batches, plan.scan, ⟨source, planned.scan⟩,
    planned.readinessSchema_eq distinct⟩

/-- The findings of a run, before the saved decisions are added. -/
def ScanState.findings (scan : ScanState) (sourceSchema : ObjectSchema) : List Finding :=
  metadataGuardrailFindings sourceSchema ++ ssnFindings scan.ssnCounts

/-- A run with a resolved finding on a column that its scan does not have is blocked for this reason. -/
theorem scanDecision_missing {j : Job} {sourceSchema : ObjectSchema} {scan : ScanState}
    (distinct : DistinctActions j.snapshot.guardrailActions)
    (saved : AllSaved j.snapshot.guardrailActions (scan.findings sourceSchema)) {f : Finding}
    (hf : f ∈ scan.findings sourceSchema) (missing : f.column ∉ scan.schema.names)
    (destinationSchema : Option ObjectSchema) :
    (scanDecision j sourceSchema scan destinationSchema).blockedReason = missingReason := by
  have reason := blocked_of_missing distinct saved hf missing
    (protectedKeys j.snapshot.writePolicy destinationSchema)
  have named : missingReason ≠ "" := by decide
  have decided : ∀ (b : String × List String) (u : Bool), b.1 = missingReason →
      (if b.1 = "" ∧ u then unresolvedReason else b.1) = missingReason := by
    rintro b u hb
    rw [hb]
    exact if_neg fun blank => named blank.1
  exact decided _ _ reason

open Program (Runs) in
/-- What every run of the engine does with the guarded schema: it prepares the destination for the schema
of the readiness check; and with a finding on a missing column it never does, and is blocked. -/
structure RunsAgree (j : Job) (events : List (Program.Event Call.Answer Exn)) (q : Transfer Unit) :
    Prop where
  prepared : ∀ schema policy runId, q.head = some (.prepareDestination schema policy runId) →
    ∃ sourceSchema batches scan,
      ScannedSource j (progressAfter j events) sourceSchema batches scan ∧
      readinessSchema j.snapshot scan.schema = .ok schema
  missing : ∀ sourceSchema batches scan,
    ScannedSource j (progressAfter j events) sourceSchema batches scan →
    AllSaved j.snapshot.guardrailActions (scan.findings sourceSchema) →
    ∀ f ∈ scan.findings sourceSchema, f.column ∉ scan.schema.names →
      (∀ schema policy runId, q.head ≠ some (.prepareDestination schema policy runId)) ∧
      ((progressAfter j events).checked = true →
        ((progressAfter j events).blocked = false → ∀ c, q.head = some c → c = .inspectSource ∨
          ∃ summary guardrail, c = .service (.blockRun summary guardrail) ∧
            Document.get guardrail "blocked_reason" = some (.str missingReason)) ∧
        (q = .pure () → (progressAfter j events).blocked = true))

open Program (Runs) in
theorem runs_agree {j : Job} (lawful : j.lib.Lawful)
    (distinct : DistinctActions j.snapshot.guardrailActions)
    {events : List (Program.Event Call.Answer Exn)} {q : Transfer Unit}
    (run : Runs (executeTransfer j) events q) : RunsAgree j events q where
  prepared _ _ _ next := prepared_schema_eq lawful distinct run next
  missing sourceSchema batches scan known saved f hf missing := by
    have reason := scanDecision_missing distinct saved hf missing
    have sat := (executeTransfer_sat lawful).runs run
    refine ⟨fun schema policy runId next => ?_, fun checked => ?_⟩
    · obtain ⟨-, -, j', hj, src, bs, plan, source, planned, -⟩ := (sat.allowed next).1
      cases hj
      obtain ⟨rfl, rfl, same⟩ := known.unique ⟨source, planned.scan⟩
      obtain ⟨destinationSchema, decision⟩ := planned.decision
      have unblocked := (congrArg Decision.blockedReason decision).symm.trans planned.unblocked
      rw [same] at unblocked
      exact absurd ((reason destinationSchema).symm.trans unblocked) (by decide)
    · have unresolved (open_ : (progressAfter j events).blocked = false) :
          Unresolved j (progressAfter j events) := by
        refine ⟨checked, open_, sourceSchema, batches, scan, known.source, known.scan,
          fun d clear => ?_⟩
        exact absurd ((reason d).symm.trans clear) (by decide)
      refine ⟨fun open_ c next => ?_, ?_⟩
      · cases (sat.allowed next).2 (unresolved open_) with
        | inspect => exact .inl rfl
        | block destinationSchema source complete =>
          obtain ⟨rfl, rfl, rfl⟩ := known.unique ⟨source, complete⟩
          refine .inr ⟨_, _, rfl, ?_⟩
          simp [Decision.document, guardrailDocument, reason]
      · rintro rfl
        exact Bool.of_not_eq_false fun open_ => sat (unresolved open_)

end Agreement

/-- **Readiness and execution agree on the guarded schema**: when every finding is about a column of the
schema, the engine prepares the destination for the schema that the readiness check has projected, or
both refuse; when one is not, the engine blocks the run.  Every run does so with what it has scanned. -/
theorem guarded_schemas_agree (j : Job) (lawful : j.lib.Lawful) (schema : ObjectSchema)
    (found : List Finding) (distinct : DistinctActions j.snapshot.guardrailActions)
    (saved : AllSaved j.snapshot.guardrailActions found) :
    let effective := effectiveActions
      (addSavedDecisions schema.names found j.snapshot.guardrailActions) j.snapshot.guardrailActions
    ((∀ f ∈ found, f.column ∈ schema.names) →
      destinationSchemaFor j schema effective = readinessSchema j.snapshot schema) ∧
    ((∃ f ∈ found, f.column ∉ schema.names) →
      ∀ protected_, (blockingColumns effective schema protected_).1 = missingReason) ∧
    ∀ events q, Program.Runs (executeTransfer j) events q → RunsAgree j events q :=
  ⟨destinationSchemaFor_eq j distinct,
    fun ⟨_, hf, missing⟩ => blocked_of_missing distinct saved hf missing,
    fun _ _ run => runs_agree lawful distinct run⟩

/-! ## Two detectors on one column -/

/-- A marked column that also holds social security numbers, and another marked column. -/
def GuardrailAction.samples : List GuardrailAction := [
  ⟨.foundryMetadata, "tax_id", .remove, ""⟩, ⟨.ssn, "tax_id", .hash, ""⟩,
  ⟨.foundryMetadata, "name", .hash, ""⟩]

/-- The job of a route with these actions. -/
def Job.guardedSample : Job :=
  WorkerEnv.sample.job .sample
    { DefinitionSnapshot.sample with guardrailActions := GuardrailAction.samples }

/-- The schema of its source. -/
def ObjectSchema.guardedSample : ObjectSchema where
  locator := .postgresTable "public" "people"
  columns := [{ name := "id", dataType := "Int64" }, { name := "name", dataType := "String" },
    { name := "tax_id", dataType := "Int64" }]
  primaryKey := ["id"]
  uniqueConstraints := [["tax_id"], ["name"]]

/-- The finding of the content scan. -/
def Finding.sample : Finding := ⟨.ssn, "Content scan", "tax_id", some 2⟩

/-- With a finding of the content scan both sides remove its column. -/
theorem guarded_schemas_agree_people :
    destinationSchemaFor Job.guardedSample .guardedSample (effectiveActions
        (addSavedDecisions ObjectSchema.guardedSample.names [.sample] GuardrailAction.samples)
        GuardrailAction.samples) =
      readinessSchema Job.guardedSample.snapshot .guardedSample :=
  (guarded_schemas_agree Job.guardedSample Library.sample_lawful .guardedSample [.sample]
    (by decide : (GuardrailAction.samples.map fun a => (a.detector, a.column)).Nodup)
    (fun _ hf => ⟨⟨.ssn, "tax_id", .hash, ""⟩, by decide, by rw [List.mem_singleton.1 hf]; decide⟩)).1
    fun _ hf => by rw [List.mem_singleton.1 hf]; decide

/-- A finding on a column that the schema does not have separates the two projections: the engine
records the column as removed (and blocks the run), the readiness check does not know of it. -/
theorem guarded_schemas_differ : ¬ ∀ (schema : ObjectSchema) (actions : List GuardrailAction)
    (found : List Finding), DistinctActions actions → AllSaved actions found →
    projectSchemaForGuardrails schema
        (effectiveActions (addSavedDecisions schema.names found actions) actions) =
      projectGuardrailSchema schema actions := by
  intro claim
  have same := claim { locator := .postgresTable "public" "people"
                       columns := [{ name := "id", dataType := "Int64" }] }
    [⟨.foundryMetadata, "tax_id", .remove, ""⟩] [⟨.foundryMetadata, "Foundry metadata", "tax_id", none⟩]
    (List.nodup_singleton _)
    (fun _ hf => ⟨_, List.mem_singleton.2 rfl, by rw [List.mem_singleton.1 hf]; exact ⟨rfl, rfl⟩⟩)
  exact absurd (congrArg (fun r => r.toOption.map ObjectSchema.removedColumns) same) (by decide)

end DataMover
