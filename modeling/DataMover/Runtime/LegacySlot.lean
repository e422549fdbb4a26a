import DataMover.Runtime.Lifetime

/-!
# The owner of the legacy runtime

One process-global slot holds the runtime that settings-only calls use.  `begin_legacy_startup`
reserves the slot in one locked section, drains the old runtime without the lock and clears the slot
in another; supervisors and application lifespans come and go in between.  A caller is the locked
section it has reached; a drain succeeds only on an idle runtime, and what is drained stays drained
(`ExecutionRuntime.Drained.run`).
-/

namespace DataMover

open Transition

/-- `_LEGACY_OWNER_KIND`. -/
inductive OwnerKind where
  | temporary
  | standalone
  | lifespan
  | closed
deriving DecidableEq

/-- The module globals. -/
structure LegacySlot where
  runtime : Option Nat := none
  supervisorTask : Option Nat := none
  ownerKind : Option OwnerKind := none
  transitioning : Bool := false
  transitionToken : Option Nat := none
  generation : Nat := 0
deriving DecidableEq

/-- A runtime object; `F` are the facts about the global resources. -/
structure LegacyRuntime (F : Type) where
  settings : Nat
  stopEvent : Nat
  resourceFacts : Option F := none
  lifetime : ExecutionRuntime := {}
deriving DecidableEq

/-- `RuntimeDrainOutcome`: which of its errors are set. -/
structure RuntimeDrainOutcome where
  supervisorError : Bool := false
  drainError : Bool := false
  cancelled : Bool := false
deriving DecidableEq

/-- A call of `begin_legacy_startup` after its first locked section. -/
inductive LegacyStartup where
  /-- Inside `drain_background_runtime`. -/
  | draining (runtime token : Nat)
  /-- The drain raised or returned an error. -/
  | failed (runtime token : Nat)
  /-- The drain succeeded; `raises` when it was cancelled or the supervisor failed. -/
  | drained (runtime token : Nat) (raises : Bool)
  | aborting (token : Nat)
  | returned (token : Nat)
  | raised (token : Option Nat)
deriving DecidableEq

/-- A standalone `run_background_runtime`. -/
inductive LegacySupervisor where
  /-- `_legacy_runtime` returned the runtime. -/
  | acquired (runtime : Nat)
  | running (runtime : Nat)
  | waiting (runtime : Nat)
  | releasing (runtime : Nat)
  | marking (runtime : Nat)
  | ended
deriving DecidableEq

/-- The slot, the objects that were created and the calls. -/
structure LegacyProcess (F : Type) where
  slot : LegacySlot := {}
  runtimes : List (LegacyRuntime F) := []
  tokens : Nat := 0
  startups : List LegacyStartup := []
  supervisors : List LegacySupervisor := []
  /-- The runtimes that a lifespan has drained. -/
  drained : List Nat := []
deriving DecidableEq

inductive LegacyError where
  | runtime (text : String)
  | value (text : String)
deriving DecidableEq

namespace LegacyProcess

variable {F : Type} [DecidableEq F] (s : LegacyProcess F)

/-- The outcome of `_legacy_resource_facts`. -/
abbrev Facts (F : Type) := Except String F

def inProgress : LegacyError := .runtime "A legacy runtime transition is already in progress."

def changed : LegacyError :=
  .value "Legacy background execution resources changed during ownership."

def stopped : LegacyError := .runtime "A stopped legacy runtime cannot be installed."

/-! ## The locked sections -/

/-- A call on the lifetime of a runtime. -/
def callRuntime (r : Nat) (k : RuntimeCall) : LegacyProcess F :=
  { s with runtimes := s.runtimes.modify r fun x => { x with lifetime := k.run x.lifetime } }

/-- The slot that `_legacy_runtime` looks at. -/
def tidied : LegacySlot :=
  if s.slot.runtime = none ∧ s.slot.transitioning = false then
    { s.slot with
      ownerKind := none, supervisorTask := none, transitioning := false, transitionToken := none }
  else s.slot

/-- The existing owner is used when settings, stop event and resources are its own. -/
def checkOwner (existing : LegacyRuntime F) (settings : Nat) (stopEvent : Option Nat) (facts : F) :
    Except LegacyError Unit :=
  if existing.settings ≠ settings then
    .error (.value "Legacy background execution settings do not own the active runtime.")
  else if stopEvent.isSome && stopEvent != some existing.stopEvent then
    .error (.value "Legacy background execution event does not own the active runtime.")
  else if existing.resourceFacts ≠ some facts then .error changed
  else .ok ()

/-- `_legacy_runtime`; `fresh` is the event that is created when none is given. -/
def legacyRuntime (settings : Nat) (stopEvent : Option Nat) (fresh : Nat) (facts : Facts F) :
    Except LegacyError Nat × LegacyProcess F :=
  let s := { s with slot := s.tidied }
  if s.slot.transitioning then (.error inProgress, s)
  else match facts with
    | .error text => (.error (.value text), s)
    | .ok facts => match s.slot.runtime with
      | some r => match s.runtimes[r]? with
        | some existing => ((checkOwner existing settings stopEvent facts).map fun _ => r, s)
        | none => (.error changed, s)
      | none => (.ok s.runtimes.length, { s with
          runtimes := s.runtimes ++
            [⟨settings, stopEvent.getD fresh, some facts, {}⟩]
          slot := { s.slot with
            runtime := some s.runtimes.length
            ownerKind := some .temporary
            generation := s.slot.generation + 1 } })

/-- The runtime takes the slot, and the transition that it was started under ends. -/
def publish (r : Nat) (token : Option Nat) (facts : F) : LegacyProcess F :=
  { s with
    runtimes := s.runtimes.modify r fun x => { x with resourceFacts := some facts }
    slot := { s.slot with
      runtime := some r
      supervisorTask := none
      ownerKind := some .lifespan
      transitioning := if token.isSome then false else s.slot.transitioning
      transitionToken := if token.isSome then none else s.slot.transitionToken } }

/-- `install_legacy_runtime`; `matching` is `_runtime_matches_legacy_resources`. -/
def install (r : Nat) (token : Option Nat) (facts : Facts F) (matching : Bool) :
    Except LegacyError Unit × LegacyProcess F :=
  match s.runtimes[r]? with
  | none => (.error stopped, s)
  | some runtime =>
    if s.slot.transitioning = true ∧ s.slot.transitionToken ≠ token then (.error inProgress, s)
    else if token ≠ none ∧ s.slot.transitionToken ≠ token then
      (.error (.runtime "The legacy runtime transition token is no longer valid."), s)
    else if s.slot.runtime ≠ none ∧ s.slot.runtime ≠ some r then
      (.error (.runtime "A legacy runtime is already active; drain it before replacement."), s)
    else if runtime.lifetime.isAccepting = false then (.error stopped, s)
    else if s.slot.runtime = some r ∧ s.slot.ownerKind = some .closed then
      (.error (.runtime "A closed legacy runtime cannot be reinstalled."), s)
    else match facts with
      | .error text => (.error (.value text), s)
      | .ok facts =>
        if matching = false then
          (.error (.value "Legacy runtime resources do not match compatibility ownership."), s)
        else if s.slot.runtime = some r then
          if runtime.resourceFacts ≠ some facts then
            (.error (.value "Legacy runtime resources changed during ownership."), s)
          else (.ok (), s)
        else (.ok (), s.publish r token facts)

/-- `release_legacy_runtime`. -/
def release (r : Nat) : LegacyProcess F :=
  if s.slot.runtime = some r then
    { s with slot := { s.slot with runtime := none, supervisorTask := none, ownerKind := none } }
  else s

/-- `mark_legacy_runtime_closed`. -/
def markClosed (r : Nat) : LegacyProcess F :=
  if s.slot.runtime = some r then { s with slot := { s.slot with ownerKind := some .closed } }
  else s

/-- `abort_legacy_startup`. -/
def abort (token : Nat) : LegacyProcess F :=
  if s.slot.transitionToken = some token then
    { s with slot := { s.slot with transitioning := false, transitionToken := none } }
  else s

/-- `start_background_runtime`. -/
def startBackground (r task : Nat) : Except LegacyError Unit × LegacyProcess F :=
  if s.slot.runtime = some r then
    if s.slot.ownerKind = none ∨ s.slot.ownerKind = some .lifespan then
      (.ok (), { s with
        slot := { s.slot with ownerKind := some .lifespan, supervisorTask := some task } })
    else (.error (.runtime "A temporary runtime cannot start a lifespan supervisor."), s)
  else (.ok (), s)

/-- The slot is reserved under a new token. -/
def reserved : LegacyProcess F :=
  { s with
    tokens := s.tokens + 1
    slot := { s.slot with transitioning := true, transitionToken := some s.tokens } }

/-- The first locked section of `begin_legacy_startup`. -/
def beginStartup : LegacyStartup × LegacyProcess F :=
  if s.slot.transitioning then (.raised none, s)
  else match s.slot.runtime with
    | none => (.returned s.tokens, s.reserved)
    | some r =>
      if s.slot.ownerKind = some .lifespan then (.raised none, s)
      else (.draining r s.tokens, s.reserved.callRuntime r .beginShutdown)

/-- The later locked sections of `begin_legacy_startup`. -/
def startupSection : LegacyStartup → Option (LegacyStartup × LegacyProcess F)
  | .failed r token =>
    let s := if s.slot.transitionToken = some token then s.markClosed r else s
    some (.raised (some token), s.abort token)
  | .drained r token raises =>
    some (if raises then .aborting token else .returned token,
      if s.slot.transitionToken = some token then s.release r else s)
  | .aborting token => some (.raised (some token), s.abort token)
  | _ => none

/-- The registration in `run_background_runtime`; `done` is that of the registered task. -/
def register (r task : Nat) (done : Bool) : Except LegacyError Unit × LegacyProcess F :=
  if s.slot.runtime ≠ some r then
    (.error (.runtime "Legacy runtime changed before supervisor registration."), s)
  else if s.slot.ownerKind = some .lifespan then
    (.error (.runtime "A lifespan-owned runtime cannot start a standalone supervisor."), s)
  else if s.slot.supervisorTask.isSome && !done then
    (.error (.runtime "A standalone legacy supervisor is already active."), s)
  else (.ok (), { s with
    slot := { s.slot with ownerKind := some .standalone, supervisorTask := some task } })

end LegacyProcess

/-! ## The calls together -/

inductive LegacyStep (F : Type) where
  /-- `ExecutionRuntime(...)`. -/
  | construct (settings stopEvent : Nat)
  | call (r : Nat) (k : RuntimeCall)
  | legacyRuntime (settings : Nat) (stopEvent : Option Nat) (fresh : Nat) (facts : Except String F)
  | install (r : Nat) (token : Option Nat) (facts : Except String F) (matching : Bool)
  /-- A lifespan has drained its runtime with `drain_background_runtime`. -/
  | drainRuntime (r : Nat)
  /-- It releases what it has drained. -/
  | release (r : Nat)
  | markClosed (r : Nat)
  | startBackground (r task : Nat)
  | beginStartup
  /-- `drain_background_runtime` ends in the `i`-th startup; `none` when it raises. -/
  | drain (i : Nat) (outcome : Option RuntimeDrainOutcome)
  | startupSection (i : Nat)
  | abort (token : Nat)
  | runBackground (settings stopEvent : Nat) (facts : Except String F)
  | register (j task : Nat) (done : Bool)
  /-- The loop of a supervisor ends. -/
  | stop (j : Nat)
  /-- `_wait_for_runtime_idle` ends in a supervisor. -/
  | idle (j : Nat) (error : Bool)
  | cleanup (j : Nat)

namespace LegacyProcess

variable {F : Type} [DecidableEq F] (s : LegacyProcess F)

/-- The runtime is idle, which `wait_until_idle` waits for. -/
def idleAt (r : Nat) : Bool := s.runtimes[r]?.any (·.lifetime.isIdle)

/-- The runtime no longer accepts work. -/
def closedAt (r : Nat) : Bool := s.runtimes[r]?.any (!·.lifetime.accepting)

/-- What `begin_legacy_startup` does with the outcome of the drain. -/
def drainResult (r token : Nat) : Option RuntimeDrainOutcome → LegacyStartup
  | none => .failed r token
  | some outcome =>
    if outcome.drainError then .failed r token
    else .drained r token (outcome.cancelled || outcome.supervisorError)

/-- The drain succeeds only on an idle runtime. -/
def drainPossible (r : Nat) : Option RuntimeDrainOutcome → Bool
  | none => true
  | some outcome => outcome.drainError || s.idleAt r

def withStartup (startup : LegacyStartup) : LegacyProcess F :=
  { s with startups := s.startups ++ [startup] }

def setStartup (i : Nat) (startup : LegacyStartup) : LegacyProcess F :=
  { s with startups := s.startups.set i startup }

def setSupervisor (j : Nat) (supervisor : LegacySupervisor) : LegacyProcess F :=
  { s with supervisors := s.supervisors.set j supervisor }

/-- One step; `none` when it cannot be taken now. -/
def step : LegacyStep F → Option (LegacyProcess F)
  | .construct settings stopEvent =>
    some { s with runtimes := s.runtimes ++ [⟨settings, stopEvent, none, {}⟩] }
  | .call r k => some (s.callRuntime r k)
  | .legacyRuntime settings stopEvent fresh facts =>
    some (s.legacyRuntime settings stopEvent fresh facts).2
  | .install r token facts matching => some (s.install r token facts matching).2
  | .drainRuntime r =>
    if s.closedAt r && s.idleAt r then some { s with drained := r :: s.drained } else none
  | .release r => if r ∈ s.drained then some (s.release r) else none
  | .markClosed r => some (s.markClosed r)
  | .startBackground r task => some (s.startBackground r task).2
  | .beginStartup => some (s.beginStartup.2.withStartup s.beginStartup.1)
  | .drain i outcome => match s.startups[i]? with
    | some (.draining r token) =>
      if s.drainPossible r outcome then some (s.setStartup i (drainResult r token outcome))
      else none
    | _ => none
  | .startupSection i => s.startups[i]?.bind fun startup =>
    (s.startupSection startup).map fun e => e.2.setStartup i e.1
  | .abort token => some (s.abort token)
  | .runBackground settings stopEvent facts =>
    match s.legacyRuntime settings (some stopEvent) stopEvent facts with
    | (.ok r, s) => some { s with supervisors := s.supervisors ++ [.acquired r] }
    | (.error _, s) => some s
  | .register j task done => match s.supervisors[j]? with
    | some (.acquired r) => match s.register r task done with
      | (.ok _, s) => some (s.setSupervisor j (.running r))
      | (.error _, s) => some (s.setSupervisor j .ended)
    | _ => none
  | .stop j => match s.supervisors[j]? with
    | some (.running r) => some ((s.callRuntime r .beginShutdown).setSupervisor j (.waiting r))
    | _ => none
  | .idle j error => match s.supervisors[j]? with
    | some (.waiting r) =>
      if error then some (s.setSupervisor j (.marking r))
      else if s.idleAt r then some (s.setSupervisor j (.releasing r))
      else none
    | _ => none
  | .cleanup j => match s.supervisors[j]? with
    | some (.releasing r) => some ((s.release r).setSupervisor j .ended)
    | some (.marking r) => some ((s.markClosed r).setSupervisor j .ended)
    | _ => none

/-- Any number of callers over an empty slot. -/
def system (F : Type) [DecidableEq F] : System (LegacyProcess F) (LegacyStep F) :=
  .ofStep step (· = {})

end LegacyProcess

end DataMover
