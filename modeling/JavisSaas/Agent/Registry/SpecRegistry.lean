import JavisSaas.Lib.Calls
import JavisSaas.Lib.Dict
import JavisSaas.Lib.Fallible

/-!
# The registry of published specs

`packages/agent/registry/publisher.py`, `repository.py` and `resolver.py`: what is published for a
spec, the registry in memory, the steps of the registry in Postgres, and exact resolution. Next to
the table of Postgres a registry in memory takes the same operations, each at the step that decides
it.
-/

namespace JavisSaas.Agent.Registry

open JavisSaas.Lib

/-! ## Specs and records -/

/-- `PinnedSpecIdentity` -/
structure PinnedRef where
  specKind : String
  specId : String
  specVersion : String
  definitionHash : String
  deriving DecidableEq

/-- A spec of any kind; `body` stands for the fields that are not read here. -/
structure RegistrySpec (C : Type) where
  id : String
  version : String
  body : C
  promptRef : Option PinnedRef := none
  modelPolicyRef : Option PinnedRef := none
  definitionHash : Option String := none
  deriving DecidableEq

/-- `compute_hash` of a kind, without the hash that is declared. -/
abbrev SpecHash (C : Type) := String → RegistrySpec C → String

variable {C : Type} (specHash : SpecHash C)

def RegistrySpec.computeHash (spec : RegistrySpec C) (kind : String) : String :=
  specHash kind { spec with definitionHash := none }

/-- `definition_hash or compute_hash()` -/
def RegistrySpec.pinnedHash (spec : RegistrySpec C) (kind : String) : String :=
  match spec.definitionHash with
  | none => spec.computeHash specHash kind
  | some declared => if declared = "" then spec.computeHash specHash kind else declared

/-- `PublishedSpecRecord`; times are in microseconds. -/
structure PublishedSpecRecord (C : Type) where
  specKind : String
  specId : String
  version : String
  definitionHash : String
  content : RegistrySpec C
  status : String := "published"
  publisher : Option String := none
  createdAt : ℕ
  publishedAt : ℕ
  retiredAt : Option ℕ := none
  deriving DecidableEq

/-- `(spec_kind, spec_id, version)` -/
abbrev SpecKey := String × String × String

def PublishedSpecRecord.key (r : PublishedSpecRecord C) : SpecKey := (r.specKind, r.specId, r.version)

/-- Who publishes a spec, and the clock when its record is built. -/
structure Publication where
  publisher : Option String := none
  createdAt : ℕ
  publishedAt : ℕ

def Publication.record (publication : Publication) (kind definitionHash : String)
    (content : RegistrySpec C) : PublishedSpecRecord C where
  specKind := kind
  specId := content.id
  version := content.version
  definitionHash
  content
  publisher := publication.publisher
  createdAt := publication.createdAt
  publishedAt := publication.publishedAt

/-- The record of `publish_agent_spec`. -/
def agentRecord (spec : RegistrySpec C) (publication : Publication) : PublishedSpecRecord C :=
  let pinned := if spec.definitionHash = none then
    { spec with definitionHash := some (spec.computeHash specHash "agent") } else spec
  publication.record "agent" (pinned.pinnedHash specHash "agent") pinned

/-- The record of `publish_skill_spec` and `publish_skill_batch`. -/
def skillRecord (spec : RegistrySpec C) (publication : Publication) : PublishedSpecRecord C :=
  let hash := spec.pinnedHash specHash "skill"
  publication.record "skill" hash { spec with definitionHash := some hash }

/-- The hash of the record is that of its content. -/
def PublishedSpecRecord.Declares (r : PublishedSpecRecord C) : Prop :=
  r.definitionHash = r.content.computeHash specHash r.specKind
deriving Decidable

abbrev SpecTable (C : Type) := Dict SpecKey (PublishedSpecRecord C)

/-! ## Resolution -/

/-- `SpecDependencyMissingError` -/
structure DependencyMissing where
  kind : String
  id : String
  version : String
  reason : String

def resolveExact (t : SpecTable C) (kind id version expected : String) :
    Except DependencyMissing (RegistrySpec C) :=
  match t.get? (kind, id, version) with
  | none => .error ⟨kind, id, version, "not_found"⟩
  | some row =>
    if row.definitionHash ≠ expected then .error ⟨kind, id, version, "hash_mismatch"⟩
    else .ok row.content

structure AgentSpecResolution (C : Type) where
  agentContent : RegistrySpec C
  promptContent : Option (RegistrySpec C)
  modelPolicyContent : Option (RegistrySpec C)
  edges : List (PinnedRef × PinnedRef × String)

/-- A reference, and the content that it is resolved to. -/
def resolveRef (t : SpecTable C) : Option PinnedRef →
    Except DependencyMissing (Option (RegistrySpec C))
  | none => .ok none
  | some ref => some <$> resolveExact t ref.specKind ref.specId ref.specVersion ref.definitionHash

def resolveAgentSpecDependencies (t : SpecTable C) (spec : RegistrySpec C) :
    Except DependencyMissing (AgentSpecResolution C) := do
  let hash := spec.pinnedHash specHash "agent"
  let owner : PinnedRef := ⟨"agent", spec.id, spec.version, hash⟩
  let agentContent ← resolveExact t "agent" spec.id spec.version hash
  let promptContent ← resolveRef t spec.promptRef
  let modelPolicyContent ← resolveRef t spec.modelPolicyRef
  return {
    agentContent, promptContent, modelPolicyContent
    edges := (spec.promptRef.map fun ref => (owner, ref, "uses_prompt")).toList ++
      (spec.modelPolicyRef.map fun ref => (owner, ref, "uses_model_policy")).toList }

/-- The check of a reference before an agent spec is published. -/
def missingDependency (t : SpecTable C) (kind : String) (ref : PinnedRef) :
    Option DependencyMissing :=
  match t.get? (ref.specKind, ref.specId, ref.specVersion) with
  | none => some ⟨kind, ref.specId, ref.specVersion, "not_found"⟩
  | some row =>
    if row.definitionHash ≠ ref.definitionHash then
      some ⟨kind, ref.specId, ref.specVersion, "hash_mismatch"⟩
    else none

/-! ## The registry in memory -/

/-- `publish`, and whether it returns. -/
def memoryPublish (m : SpecTable C) (r : PublishedSpecRecord C) : SpecTable C × Bool :=
  match m.get? r.key with
  | some row => (m, row.definitionHash = r.definitionHash)
  | none => (m.set r.key r, true)

/-- The loop of `publish_batch`: the new records, unless two hashes of one key do not agree. -/
def memoryPending (m : SpecTable C) : List (PublishedSpecRecord C) →
    Dict SpecKey (PublishedSpecRecord C) → Option (Dict SpecKey (PublishedSpecRecord C))
  | [], pending => some pending
  | r :: records, pending =>
    let known := ((pending.get? r.key).or (m.get? r.key)).map (·.definitionHash)
    if ∃ hash ∈ known, hash ≠ r.definitionHash then none
    else memoryPending m records
      (if (m.get? r.key).isNone then pending.set r.key r else pending)

/-- Every record is published under its key. -/
def publishAll (t : SpecTable C) (records : List (PublishedSpecRecord C)) : SpecTable C :=
  records.foldl (fun t r => t.set r.key r) t

/-- `publish_batch`, and whether it returns. -/
def memoryPublishBatch (m : SpecTable C) (records : List (PublishedSpecRecord C)) :
    SpecTable C × Bool :=
  match memoryPending m records ∅ with
  | none => (m, false)
  | some pending => (publishAll m pending.values, true)

/-- `update_status`, in either registry. -/
def updateStatus (t : SpecTable C) (key : SpecKey) (status : String) (now : ℕ) : SpecTable C :=
  t.modify key fun row =>
    { row with status, retiredAt := if status = "retired" then some now else row.retiredAt }

/-! ## The registry in Postgres -/

/-- Whether it returned, whether the registry in memory does, and the rows that it inserted. -/
structure PublishOutcome (C : Type) where
  records : List (PublishedSpecRecord C)
  returned : Bool
  inMemory : Bool
  inserted : List (PublishedSpecRecord C)
  deriving DecidableEq

/-- `uncommitted` are the rows that open transactions have inserted. -/
structure RegistryStore (C : Type) where
  table : SpecTable C := ∅
  uncommitted : List (PublishedSpecRecord C) := []
  memory : SpecTable C := ∅
  log : List (PublishOutcome C) := []

inductive RegistryRequest (C : Type)
  | publishAgentSpec (spec : RegistrySpec C) (publication : Publication)
  /-- `publish`, of the record of a spec of another kind, or of one made otherwise. -/
  | publish (record : PublishedSpecRecord C)
  | publishBatch (records : List (PublishedSpecRecord C))
  | updateStatus (key : SpecKey) (status : String) (now : ℕ)

inductive RegistryCall (C : Type)
  /-- The references of an agent spec are checked, and then the registry is read. -/
  | checking (refs : List (String × PinnedRef)) (record : PublishedSpecRecord C)
  /-- `INSERT … ON CONFLICT DO NOTHING`, and the commit. -/
  | inserting (record : PublishedSpecRecord C)
  | readingBack (record : PublishedSpecRecord C) (inserted : List (PublishedSpecRecord C))
    (inMemory : Bool)
  /-- The loop of `publish_batch` in its transaction; at the end of the list it commits. -/
  | selecting (all todo : List (PublishedSpecRecord C)) (seen : Dict SpecKey String)
    (pending : List (PublishedSpecRecord C))
  | adding (all : List (PublishedSpecRecord C)) (record : PublishedSpecRecord C)
    (todo : List (PublishedSpecRecord C)) (seen : Dict SpecKey String)
    (pending : List (PublishedSpecRecord C))
  | batchReading (all todo inserted : List (PublishedSpecRecord C)) (inMemory : Bool)
  | updating (key : SpecKey) (status : String) (now : ℕ)

/-- Another version of the spec, with the same hash. -/
def SameHash (r r' : PublishedSpecRecord C) : Prop :=
  r.specKind = r'.specKind ∧ r.specId = r'.specId ∧ r.definitionHash = r'.definitionHash
deriving Decidable

/-- `uq_agent_registry_published_specs_hash` -/
def HashTaken (t : SpecTable C) (r : PublishedSpecRecord C) : Prop :=
  ∃ row ∈ t.values, SameHash row r ∧ row.key ≠ r.key
deriving Decidable

/-- An insert waits for the transaction that has inserted a row with the key, or the hash. -/
def Blocked (s : RegistryStore C) (r : PublishedSpecRecord C) : Prop :=
  ∃ u ∈ s.uncommitted, u.key = r.key ∨ SameHash u r
deriving Decidable

/-- The transaction ends: its rows are no longer uncommitted. -/
def RegistryStore.release (s : RegistryStore C) (pending : List (PublishedSpecRecord C)) :
    RegistryStore C :=
  { s with uncommitted := s.uncommitted.filter fun u => u.key ∉ pending.map (·.key) }

def RegistryStore.logged (s : RegistryStore C) (o : PublishOutcome C) : RegistryStore C :=
  { s with log := s.log ++ [o] }

/-- The registry has another hash under the key of the record. -/
def OtherHash (t : SpecTable C) (r : PublishedSpecRecord C) : Prop :=
  ∃ row ∈ t.get? r.key, row.definitionHash ≠ r.definitionHash
deriving Decidable

/-- `PostgresSpecRegistryRepository`, and `publish_agent_spec` before it. -/
def registryStep (s : RegistryStore C) :
    RegistryCall C → Unit → Option (RegistryStore C × Option (RegistryCall C))
  | .checking ((kind, ref) :: refs) record, _ =>
    if (missingDependency s.table kind ref).isSome then
      some (s.logged ⟨[record], false, (missingDependency s.memory kind ref).isNone, []⟩, none)
    else some (s, some (.checking refs record))
  | .checking [] record, _ =>
    if (s.table.get? record.key).isSome then
      some ({ s with memory := (memoryPublish s.memory record).1 }.logged
        ⟨[record], ¬ OtherHash s.table record, (memoryPublish s.memory record).2, []⟩, none)
    else some (s, some (.inserting record))
  | .inserting record, _ =>
    if Blocked s record then none
    else
      let (memory, inMemory) := memoryPublish s.memory record
      if (s.table.get? record.key).isSome ∨ HashTaken s.table record then
        some ({ s with memory }, some (.readingBack record [] inMemory))
      else
        some ({ s with table := s.table.set record.key record, memory },
          some (.readingBack record [record] inMemory))
  | .readingBack record inserted inMemory, _ =>
    some (s.logged ⟨[record], ¬ OtherHash s.table record, inMemory, inserted⟩, none)
  | .selecting all (record :: todo) seen pending, _ =>
    let existing := (seen.get? record.key).or
      ((s.table.get? record.key).map (·.definitionHash))
    if ∃ hash ∈ existing, hash ≠ record.definitionHash then
      let (memory, inMemory) := memoryPublishBatch s.memory all
      some (({ s with memory }.release pending).logged ⟨all, false, inMemory, []⟩, none)
    else
      some (s, some (.adding all record todo (seen.set record.key record.definitionHash) pending))
  | .adding all record todo seen pending, _ =>
    if ∃ p ∈ pending, p.key = record.key ∨ SameHash p record then
      some (s, some (.selecting all todo seen pending))
    else if Blocked s record then none
    else if (s.table.get? record.key).isSome ∨ HashTaken s.table record then
      some (s, some (.selecting all todo seen pending))
    else
      some ({ s with uncommitted := record :: s.uncommitted },
        some (.selecting all todo seen (record :: pending)))
  | .selecting all [] _ pending, _ =>
    let (memory, inMemory) := memoryPublishBatch s.memory all
    some ({ s with table := publishAll s.table pending, memory }.release pending,
      some (.batchReading all all pending inMemory))
  | .batchReading all (record :: todo) inserted inMemory, _ =>
    if OtherHash s.table record then some (s.logged ⟨all, false, inMemory, inserted⟩, none)
    else some (s, some (.batchReading all todo inserted inMemory))
  | .batchReading all [] inserted inMemory, _ =>
    some (s.logged ⟨all, true, inMemory, inserted⟩, none)
  | .updating key status now, _ =>
    some ({ s with
      table := updateStatus s.table key status now
      memory := updateStatus s.memory key status now }, none)

/-- The references of an agent spec, in the order of their check. -/
def RegistrySpec.refs (spec : RegistrySpec C) : List (String × PinnedRef) :=
  (spec.promptRef.map ("prompt", ·)).toList ++ (spec.modelPolicyRef.map ("model_policy", ·)).toList

def registry : Service (RegistryRequest C) (RegistryStore C) (RegistryCall C) Unit where
  start
    | .publishAgentSpec spec publication => .checking spec.refs (agentRecord specHash spec publication)
    | .publish record => .checking [] record
    | .publishBatch records => .selecting records records ∅ []
    | .updateStatus key status now => .updating key status now
  step := registryStep
  abort c s :=
    match c with
    | .selecting _ _ _ pending | .adding _ _ _ _ pending => s.release pending
    | _ => s

end JavisSaas.Agent.Registry
