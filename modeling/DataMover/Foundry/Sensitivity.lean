import DataMover.Foundry.Markers

/-!
# Sensitivity metadata

`FoundryClient.sensitivity_metadata` collects the markers of a dataset: those of the schema and of its
columns, and those of every marking that the provider lists, page by page.
-/

namespace DataMover

namespace Foundry

open Paging

/-! ## The schema of a dataset -/

/-- The provider, for one dataset and branch. -/
structure MetadataProvider where
  schema : Answer
  markings : Option String → Answer
  marking : String → Answer

/-- A payload, with the errors that a check reports. -/
def Answer.verified (unverified invalid : String) : Answer → Except Exn Json
  | .failed e =>
    .error (.connector { code := .providerUnavailable, summary := unverified, retryable := e.retryable })
  | .invalid => .error (permanentError .providerUnavailable invalid)
  | .json payload => .ok payload

/-- `customMetadata`, which is a dictionary or `None`. -/
def customMetadata (d : Document) : Option Json :=
  match Document.get d "customMetadata" with
  | none | some .null => some .null
  | some (.obj entries) => some (.obj entries)
  | some _ => none

def invalidColumns : Exn :=
  permanentError .providerUnavailable "Foundry returned invalid column sensitivity metadata."

/-- The markers of one field of the schema join those of the others. -/
def addField (t : MarkerText) (configured : List String) (columns : Dict String (List String))
    (item : Json) : Except Exn (Dict String (List String)) :=
  match item with
  | .obj field => match Document.get field "name", customMetadata field with
    | some (.str name), some metadata =>
      if strip name = "" then .error invalidColumns
      else
        let markers := t.matchingMetadataMarkers configured metadata
        .ok (if markers = [] then columns else columns.set name markers)
    | _, _ => .error invalidColumns
  | _ => .error invalidColumns

/-- The markers of the schema: of the table, and of the columns. -/
def schemaMarkers (t : MarkerText) (configured : List String) (payload : Json) :
    Except Exn (List String × Dict String (List String)) :=
  match payload with
  | .obj payload => match Document.get payload "schema" with
    | some (.obj schema) => match Document.get schema "fieldSchemaList" with
      | some (.arr fields) => match customMetadata schema with
        | some metadata => do
          let columns ← fields.foldlM (addField t configured) []
          return (t.matchingMetadataMarkers configured metadata, columns)
        | none => .error (permanentError .providerUnavailable
            "Foundry returned invalid table sensitivity metadata.")
      | _ => .error invalidColumns
    | _ => .error (permanentError .providerUnavailable
        "Foundry returned incomplete sensitivity metadata.")
  | _ => .error (permanentError .providerUnavailable
      "Foundry returned incomplete sensitivity metadata.")

/-! ## Markings -/

def incompleteMarkings : Exn :=
  permanentError .providerUnavailable "Foundry returned incomplete resource sensitivity markings."

/-- The text of an item, unless it is blank. -/
def markingId : Json → Option String
  | .str s => if strip s = "" then none else some (strip s)
  | _ => none

/-- The ids of a page: every item must be a text. -/
def pageMarkingIds : Json → Except Exn (List String)
  | .obj payload => match (Document.get payload "data").getD (.arr []) with
    | .arr items =>
      if items.any fun item => (markingId item).isNone then
        .error (permanentError .providerUnavailable
          "Foundry returned invalid resource sensitivity markings.")
      else .ok (items.filterMap markingId)
    | _ => .error incompleteMarkings
  | _ => .error incompleteMarkings

/-- The cursor of a page of markings: a text or `None`. -/
def nextMarkings : Json → Except Exn (Option String)
  | .obj payload => match Document.get payload "nextPageToken" with
    | none | some .null => .ok none
    | some (.str cursor) => .ok (if cursor = "" then none else some cursor)
    | some _ => .error (permanentError .providerUnavailable
        "Foundry returned an invalid resource marking cursor.")
  | _ => .error incompleteMarkings

/-- How the markings loop reads a page. -/
def markingsPager : Pager Json String String Exn where
  items := pageMarkingIds
  next := nextMarkings
  maximum := maxFoundryMarkingIds
  tooMany := permanentError .sourceLimitExceeded
    "The Foundry resource has too many markings to verify safely."
  repeated := connectorError .providerUnavailable
    "Foundry returned a repeated resource marking cursor."
  endless := permanentError .sourceLimitExceeded
    "The Foundry resource markings exceeded the page limit."

/-- The page at a cursor. -/
def markingsPage (markings : Option String → Answer) (cursor : Option String) : Except Exn Json :=
  (markings (pageToken cursor)).verified
    "Foundry resource sensitivity markings could not be verified."
    "Foundry returned invalid resource sensitivity markings."

/-- The markings loop; the state counts the requests. -/
def collectMarkingIds (markings : Option String → Answer) : Walk Nat Exn String :=
  markingsPager.collect (fun requests cursor => (markingsPage markings cursor, requests + 1))
    maxFoundryCatalogPages none [] [] 0

/-- The name of a marking. -/
def markingName : Json → Except Exn String
  | .obj marking => match Document.get marking "name" with
    | some (.str name) =>
      if strip name = "" then .error (permanentError .providerUnavailable
        "Foundry returned incomplete resource marking metadata.")
      else .ok name
    | _ => .error (permanentError .providerUnavailable
        "Foundry returned incomplete resource marking metadata.")
  | _ => .error (permanentError .providerUnavailable
      "Foundry returned incomplete resource marking metadata.")

/-- The markers of one marking: of its id, or else of its name. -/
def markingMarkers (t : MarkerText) (configured : List String) (marking : String → Answer)
    (id : String) : Except Exn (List String) :=
  let direct := t.matchingMetadataMarkers configured (.str id)
  if direct ≠ [] then .ok direct
  else do
    let payload ← (marking id).verified "A Foundry resource marking could not be verified."
      "Foundry returned invalid resource marking metadata."
    let name ← markingName payload
    return t.matchingMetadataMarkers configured (.str name)

/-- `sensitivity_metadata`. -/
def sensitivityMetadata (t : MarkerText) (configured : List String) (provider : MetadataProvider) :
    Except Exn (List String × Dict String (List String)) :=
  if configured = [] then .ok ([], [])
  else do
    let payload ← provider.schema.verified "Foundry sensitivity metadata could not be verified."
      "Foundry returned invalid sensitivity metadata."
    let (table, columns) ← schemaMarkers t configured payload
    let ids ← (collectMarkingIds provider.markings).result
    let markers ← (Dict.fromKeys ids).mapM (markingMarkers t configured provider.marking)
    return (sorted (table ++ markers.flatten).dedup, columns)

/-! ## Nothing is lost between the pages -/

/-- The ids of a page, or nothing when it has no list. -/
def idsOf : Json → List String
  | .obj payload => match Document.get payload "data" with
    | some (.arr items) => items.filterMap markingId
    | _ => []
  | _ => []

theorem eq_idsOf {page : Json} {found : List String} (h : pageMarkingIds page = .ok found) :
    found = idsOf page := by
  cases page with
  | obj payload =>
    simp only [pageMarkingIds, idsOf] at h ⊢
    cases data : Document.get payload "data" with
    | none =>
      rw [data] at h
      exact (Except.ok.inj h).symm
    | some value =>
      rw [data, Option.getD_some] at h
      cases value with
      | arr items =>
        dsimp only at h
        split_ifs at h
        exact (Except.ok.inj h).symm
      | _ => cases h
  | _ => cases h

/-- The pages of markings up to the first one without a token, every item of which is an id. -/
def MarkingPages (markings : Option String → Answer) (pages : List Json) : Prop :=
  Chain (markingsPage markings) nextMarkings none pages ∧
    ∀ page ∈ pages, pageMarkingIds page = .ok (idsOf page)

/-- What the markings loop has found. -/
theorem collectMarkingIds_eq_ok {markings : Option String → Answer} {ids : List String}
    (h : (collectMarkingIds markings).result = .ok ids) :
    ∃ pages, MarkingPages markings pages ∧ ids = pages.flatMap idsOf := by
  obtain ⟨-, pages, found, chain, reads, rfl⟩ := @Pager.collect_eq_ok
    _ _ _ _ _ _ _ _ _ _ _ _ _ _ (fun _ _ => True) (markingsPage markings)
    (fun _ _ _ _ answered => ⟨answered, fun _ => trivial⟩) trivial h
  refine ⟨pages, ⟨chain, fun page mem => ?_⟩, ?_⟩
  · obtain ⟨i, lt, rfl⟩ := List.mem_iff_getElem.1 mem
    have read : pageMarkingIds pages[i] = _ := reads.get lt (reads.length_eq ▸ lt)
    rwa [eq_idsOf read] at read
  · rw [List.nil_append, flatten_of_reads reads fun _ _ => eq_idsOf]

/-- The markers of a dataset include those of every marking. -/
theorem sensitivityMetadata_eq_ok {t : MarkerText} {configured : List String}
    {provider : MetadataProvider} {table : List String} {columns : Dict String (List String)}
    (h : sensitivityMetadata t configured provider = .ok (table, columns)) :
    configured = [] ∧ table = [] ∨
      ∃ pages, MarkingPages provider.markings pages ∧
        ∀ page ∈ pages, ∀ id ∈ idsOf page, ∃ markers,
          markingMarkers t configured provider.marking id = .ok markers ∧ markers ⊆ table := by
  unfold sensitivityMetadata at h
  split_ifs at h with none
  · cases h
    exact .inl ⟨none, rfl⟩
  · obtain ⟨payload, -, h⟩ := bind_eq_ok.1 h
    obtain ⟨⟨own, columns'⟩, -, h⟩ := bind_eq_ok.1 h
    obtain ⟨ids, collected, h⟩ := bind_eq_ok.1 h
    obtain ⟨markers, resolved, h⟩ := bind_eq_ok.1 h
    cases h
    obtain ⟨pages, listed, rfl⟩ := collectMarkingIds_eq_ok collected
    refine .inr ⟨pages, listed, fun page mem id mem_id => ?_⟩
    have known : id ∈ Dict.fromKeys (pages.flatMap idsOf) :=
      Dict.mem_fromKeys.2 (List.mem_flatMap.2 ⟨page, mem, mem_id⟩)
    obtain ⟨i, lt, same⟩ := List.mem_iff_getElem.1 known
    have all := mapM_eq_ok.1 resolved
    have lt' : i < markers.length := all.length_eq ▸ lt
    have read : markingMarkers t configured provider.marking (Dict.fromKeys _)[i] = _ := all.get lt lt'
    rw [same] at read
    refine ⟨markers[i], read, fun marker mem_marker => ?_⟩
    refine mem_sorted.2 (List.mem_dedup.2 (List.mem_append_right _ ?_))
    exact List.mem_flatten.2 ⟨_, List.getElem_mem lt', mem_marker⟩

/-- A listing that is complete or fails, within so many pages. -/
structure Enumerates (repr : Json → String) (provider : Nat → Option String → Answer)
    (client : FilesClient) : Prop where
  pages : (listAllFiles repr provider client).asked ≤ maxFoundryCatalogPages
  requests : (listAllFiles repr provider client).state.requests ≤
    client.requests + (listAllFiles repr provider client).asked +
      (if client.datasetFilesApiVersion = none then 2 - settledVersion provider none else 0)
  complete : ∀ files, (listAllFiles repr provider client).result = .ok files → ∃ version pages,
    (listAllFiles repr provider client).state.datasetFilesApiVersion = some version ∧
    (client.datasetFilesApiVersion = none ∨ client.datasetFilesApiVersion = some version) ∧
    Chain (fun cursor => (provider version (pageToken cursor)).payload)
      (fun page => .ok ((nextPageToken page).map (str repr))) none pages ∧
    files = pages.flatMap filesOf

/-- A markings loop that is complete or fails, within so many pages. -/
structure EnumeratesMarkings (markings : Option String → Answer) : Prop where
  pages : (collectMarkingIds markings).asked ≤ maxFoundryCatalogPages
  requests : (collectMarkingIds markings).state ≤ (collectMarkingIds markings).asked
  complete : ∀ ids, (collectMarkingIds markings).result = .ok ids →
    ∃ pages, MarkingPages markings pages ∧ ids = pages.flatMap idsOf

/-- A listing asks for at most so many pages, and returns the files of every page up to the first one
without a token; the markers of a dataset include those of every marking of such pages. -/
theorem foundry_enumeration_is_complete (repr : Json → String)
    (provider : Nat → Option String → Answer) (client : FilesClient) (t : MarkerText)
    (configured : List String) (metadata : MetadataProvider) :
    Enumerates repr provider client ∧ EnumeratesMarkings metadata.markings ∧
    ∀ table columns, sensitivityMetadata t configured metadata = .ok (table, columns) →
      configured = [] ∧ table = [] ∨
        ∃ pages, MarkingPages metadata.markings pages ∧
          ∀ page ∈ pages, ∀ id ∈ idsOf page, ∃ markers,
            markingMarkers t configured metadata.marking id = .ok markers ∧ markers ⊆ table := by
  refine ⟨⟨Pager.asked_collect_le _ _ _ _ _ _, requests_listAllFiles_le repr provider client,
    fun files => listAllFiles_eq_ok⟩, ⟨Pager.asked_collect_le _ _ _ _ _ _, ?_,
    fun ids => collectMarkingIds_eq_ok⟩, fun table columns => sensitivityMetadata_eq_ok⟩
  have cost := @Pager.cost_collect_le _ _ _ _ _ _ markingsPager
    (fun requests cursor => (markingsPage metadata.markings cursor, requests + 1)) id (fun _ _ => 0)
    (fun _ _ => Nat.le_refl _) (fun _ _ _ _ _ => rfl) maxFoundryCatalogPages none [] [] 0
  simpa [collectMarkingIds] using cost

/-- Two pages of markings; the second one repeats an id of the first one. -/
def MetadataProvider.sample : MetadataProvider where
  schema := .json (.obj [("schema", .obj [("fieldSchemaList", .arr [])])])
  markings
    | none => .json (.obj [("data", .arr [.str "pii"]), ("nextPageToken", .str "next")])
    | some _ => .json (.obj [("data", .arr [.str " pii ", .str "hr"]), ("nextPageToken", .null)])
  marking _ := .json (.obj [("name", .str "internal")])

example : (collectMarkingIds MetadataProvider.sample.markings).result = .ok ["pii", "pii", "hr"] := by
  decide

end Foundry

end DataMover
