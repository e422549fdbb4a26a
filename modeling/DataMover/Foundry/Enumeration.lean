import DataMover.Dict
import DataMover.Engine.Transfer
import DataMover.Paging

/-!
# Enumerating a Foundry dataset

`FoundryClient.list_all_files` and `FoundryClient.sensitivity_metadata` follow the `nextPageToken` of a
provider that may answer anything.  Both stop after `MAX_FOUNDRY_CATALOG_PAGES` pages, and what they
return comes from every page up to the first one without a token.
-/

namespace DataMover

namespace Foundry

open Paging

/-! ## Requests -/

/-- The answer to a request: a `ConnectorError`, a body that is no JSON, or a JSON value. -/
inductive Answer where
  | failed (e : ConnectorError)
  | invalid
  | json (payload : Json)
  deriving DecidableEq

/-- `self.request("GET", …).json()`. -/
def Answer.payload : Answer → Except Exn Json
  | .failed e => .error (.connector e)
  | .invalid => .error (.value "Expecting value")
  | .json payload => .ok payload

def maxFoundryCatalogPages : Nat := 1000
def maxFoundryCatalogFiles : Nat := 100000
def maxFoundryMarkingIds : Nat := 10000

/-- A `ConnectorError` with the default of its code for `retryable`. -/
def connectorError (code : TransferErrorCode) (summary : String) : Exn := .connector { code, summary }

/-- A `ConnectorError` with `retryable=False`. -/
def permanentError (code : TransferErrorCode) (summary : String) : Exn :=
  .connector { code, summary, retryable := false }

/-- `str(value)`; `repr` prints a list or a dictionary. -/
def str (repr : Json → String) : Json → String
  | .null => "None"
  | .bool b => if b then "True" else "False"
  | .int n => toString n
  | .float text => text
  | .str s => s
  | value => repr value

/-! ## Files -/

/-- The part of a `FoundryClient` that a listing uses: the API version that has answered, and how many
requests have been sent. -/
structure FilesClient where
  datasetFilesApiVersion : Option Nat := none
  requests : Nat := 0

/-- `params["pageToken"]`. -/
def pageToken (cursor : Option String) : Option String := cursor.filter (· ≠ "")

/-- The loop of `list_files` over the API versions. -/
def tryVersions (provider : Nat → Option String → Answer) (cursor : Option String) :
    List Nat → Option ConnectorError → FilesClient → Except Exn Json × FilesClient
  | [], lastError, client =>
    (.error (.connector (lastError.getD
      { code := .sourceNotFound, summary := "Could not list dataset files." })), client)
  | version :: versions, _, client =>
    let sent := { client with requests := client.requests + 1 }
    match provider version (pageToken cursor) with
    | .failed e =>
      if client.datasetFilesApiVersion = none ∧ version = 2 ∧ e.code = .sourceNotFound then
        tryVersions provider cursor versions (some e) sent
      else (.error (.connector e), sent)
    | .invalid => (.error (.value "Expecting value"), sent)
    | .json payload => (.ok payload, { sent with datasetFilesApiVersion := some version })

/-- `list_files`. -/
def listFiles (provider : Nat → Option String → Answer) (client : FilesClient)
    (cursor : Option String) : Except Exn Json × FilesClient :=
  let versions := match client.datasetFilesApiVersion with
    | some version => [version]
    | none => [2, 1]
  tryVersions provider cursor versions none client

def invalidListing : Exn := connectorError .providerUnavailable "Foundry returned an invalid file listing."

/-- The items of a list that are dictionaries. -/
def dictItems (page : List Json) : List Json :=
  page.filter fun item => match item with
    | .obj _ => true
    | _ => false

/-- The files of a page: `payload.get("data") or []`. -/
def pageFiles : Json → Except Exn (List Json)
  | .obj payload => match (Document.get payload "data").filter Json.truthy with
    | none => .ok []
    | some (.arr page) => .ok (dictItems page)
    | some _ => .error invalidListing
  | _ => .error invalidListing

/-- `payload.get("nextPageToken")`, when it is true. -/
def nextPageToken (payload : Json) : Option Json :=
  match payload with
  | .obj payload => (Document.get payload "nextPageToken").filter Json.truthy
  | _ => none

/-- How `list_all_files` reads a page. -/
def filesPager (repr : Json → String) : Pager Json String Json Exn where
  items := pageFiles
  next payload := .ok ((nextPageToken payload).map (str repr))
  maximum := maxFoundryCatalogFiles
  tooMany := permanentError .sourceLimitExceeded
    "The Foundry dataset contains too many files to enumerate safely."
  repeated := connectorError .providerUnavailable "Foundry returned a repeated catalog cursor."
  endless := permanentError .sourceLimitExceeded "The Foundry dataset exceeded the catalog page limit."

/-- `list_all_files`. -/
def listAllFiles (repr : Json → String) (provider : Nat → Option String → Answer)
    (client : FilesClient) : Walk FilesClient Exn Json :=
  (filesPager repr).collect (listFiles provider) maxFoundryCatalogPages none [] [] client

section Files

variable {repr : Json → String} {provider : Nat → Option String → Answer}

/-- A client that knows the version asks once. -/
theorem listFiles_known {client : FilesClient} {version : Nat}
    (known : client.datasetFilesApiVersion = some version) (cursor : Option String) :
    (listFiles provider client cursor).1 = (provider version (pageToken cursor)).payload ∧
      (listFiles provider client cursor).2 = { client with requests := client.requests + 1 } := by
  simp only [listFiles, known, tryVersions]
  cases provider version (pageToken cursor) with
  | failed e => simp [Answer.payload]
  | invalid => exact ⟨rfl, rfl⟩
  | json payload => exact ⟨rfl, rfl⟩

/-- The version that answers a client that knows none: the first one, when the second one could not find
the dataset. -/
def settledVersion (provider : Nat → Option String → Answer) (cursor : Option String) : Nat :=
  match provider 2 (pageToken cursor) with
  | .failed e => if e.code = .sourceNotFound then 1 else 2
  | _ => 2

/-- A client that knows no version asks once, or twice when the second version cannot find the
dataset. -/
theorem listFiles_unknown {client : FilesClient} (unknown : client.datasetFilesApiVersion = none)
    (cursor : Option String) :
    (listFiles provider client cursor).1 =
        (provider (settledVersion provider cursor) (pageToken cursor)).payload ∧
      (listFiles provider client cursor).2.requests =
        client.requests + 1 + (2 - settledVersion provider cursor) ∧
      ∀ page, (listFiles provider client cursor).1 = .ok page →
        (listFiles provider client cursor).2.datasetFilesApiVersion =
          some (settledVersion provider cursor) := by
  simp only [listFiles, unknown, tryVersions, settledVersion]
  cases second : provider 2 (pageToken cursor) with
  | failed e =>
    by_cases absent : e.code = .sourceNotFound
    · cases first : provider 1 (pageToken cursor) <;> simp [absent, first, Answer.payload]
    · simp [absent, second, Answer.payload]
  | invalid => simp [second, Answer.payload]
  | json payload => simp [second, Answer.payload]

/-- The files of a page, or nothing when it has no list. -/
def filesOf : Json → List Json
  | .obj payload => match Document.get payload "data" with
    | some (.arr page) => dictItems page
    | _ => []
  | _ => []

theorem eq_filesOf {page : Json} {found : List Json} (h : pageFiles page = .ok found) :
    found = filesOf page := by
  cases page with
  | obj payload =>
    simp only [pageFiles, filesOf] at h ⊢
    cases data : Document.get payload "data" with
    | none =>
      rw [data] at h
      exact (Except.ok.inj h).symm
    | some value =>
      rw [data, Option.filter_some] at h
      by_cases true : value.truthy
      · rw [if_pos true] at h
        cases value with
        | arr items => exact (Except.ok.inj h).symm
        | _ => cases h
      · rw [if_neg true] at h
        cases Except.ok.inj h
        cases value with
        | arr items =>
          cases items with
          | nil => rfl
          | cons item items => exact absurd rfl true
        | _ => rfl
  | _ => cases h

/-- What a walk over the files has found. -/
theorem listAllFiles_eq_ok {client : FilesClient} {files : List Json}
    (h : (listAllFiles repr provider client).result = .ok files) :
    ∃ version pages,
      (listAllFiles repr provider client).state.datasetFilesApiVersion = some version ∧
      (client.datasetFilesApiVersion = none ∨ client.datasetFilesApiVersion = some version) ∧
      Chain (fun cursor => (provider version (pageToken cursor)).payload)
        (fun page => .ok ((nextPageToken page).map (str repr))) none pages ∧
      files = pages.flatMap filesOf := by
  let version := client.datasetFilesApiVersion.getD (settledVersion provider none)
  let inv (s : FilesClient) (cursor : Option String) : Prop :=
    s.datasetFilesApiVersion = some version ∨
      s.datasetFilesApiVersion = none ∧ cursor = none ∧ settledVersion provider none = version
  have keeps (s : FilesClient) (cursor : Option String) (page : Json) (h : inv s cursor)
      (answered : (listFiles provider s cursor).1 = .ok page) :
      (provider version (pageToken cursor)).payload = .ok page ∧
        ∀ cursor', inv (listFiles provider s cursor).2 cursor' := by
    rcases h with known | ⟨unknown, rfl, same⟩
    · obtain ⟨answer, after⟩ := @listFiles_known provider _ _ known cursor
      exact ⟨answer.symm.trans answered, fun _ => .inl (by rw [after]; exact known)⟩
    · obtain ⟨answer, -, after⟩ := @listFiles_unknown provider _ unknown none
      rw [same] at answer after
      exact ⟨answer.symm.trans answered, fun _ => .inl (after page answered)⟩
  have start : inv client none := by
    cases known : client.datasetFilesApiVersion with
    | none => exact .inr ⟨known, rfl, by simp [version, known]⟩
    | some v => exact .inl (by simp [version, known])
  obtain ⟨after, pages, found, chain, reads, rfl⟩ := Pager.collect_eq_ok keeps start h
  refine ⟨version, pages, ?_, ?_, chain, ?_⟩
  · rcases after (some "") with known | ⟨-, other, -⟩
    · exact known
    · cases other
  · cases known : client.datasetFilesApiVersion with
    | none => exact .inl rfl
    | some v => exact .inr (by simp [version, known])
  · rw [List.nil_append, flatten_of_reads reads fun _ _ => eq_filesOf]

/-- How many requests a listing sends: one a page, and a second one for the first page when the client
has to fall back to the older version. -/
theorem requests_listAllFiles_le (repr : Json → String) (provider : Nat → Option String → Answer)
    (client : FilesClient) :
    (listAllFiles repr provider client).state.requests ≤
      client.requests + (listAllFiles repr provider client).asked +
        (if client.datasetFilesApiVersion = none then 2 - settledVersion provider none else 0) := by
  let extra (s : FilesClient) (cursor : Option String) : Nat :=
    if s.datasetFilesApiVersion = none then 2 - settledVersion provider cursor else 0
  refine @Pager.cost_collect_le _ _ _ _ _ _ _ _ _ extra (fun s cursor => ?_)
    (fun s cursor page answered _ => ?_) _ _ _ _ _
  · cases known : s.datasetFilesApiVersion with
    | none =>
      rw [(listFiles_unknown known cursor).2.1]
      simp [extra, known]
    | some v =>
      rw [(listFiles_known known cursor).2]
      exact Nat.le_add_right _ _
  · refine if_neg ?_
    cases known : s.datasetFilesApiVersion with
    | none => simp [(listFiles_unknown known cursor).2.2 page answered]
    | some v => simp [(@listFiles_known provider _ _ known cursor).2, known]

end Files

end Foundry

end DataMover
