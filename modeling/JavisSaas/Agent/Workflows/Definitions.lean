import JavisSaas.Lib.Dict
import JavisSaas.Lib.Fallible
import JavisSaas.Lib.Transition

/-!
# Saved workflow definitions

`packages/agent/workflows/repository.py`, `postgres_repository.py` and
`apps/cosa/composition/workflow_orchestration.py`. A definition may come with a hash of its own,
which is then taken for the hash of its content.

* `definitionLaw_along`: while declared hashes are right, a saved definition stays as it is, and a
  manifest runs the content that has the pinned hash.
-/

namespace JavisSaas.Agent.Workflows

open JavisSaas.Lib

/-! ## Definitions -/

/-- A `WorkflowSpec`; `body` stands for its other fields. -/
structure DefinedSpec (C : Type) where
  id : String
  version : String
  body : C
  definitionHash : Option String := none

/-- `compute_hash`, of every field but the hash. -/
abbrev ComputeHash (C : Type) := String → String → C → String

variable {C : Type} (computeHash : ComputeHash C)

def DefinedSpec.computed (spec : DefinedSpec C) : String :=
  computeHash spec.id spec.version spec.body

/-- `definition_hash or compute_hash()` -/
def DefinedSpec.hash (spec : DefinedSpec C) : String :=
  match spec.definitionHash with
  | none => spec.computed computeHash
  | some declared => if declared = "" then spec.computed computeHash else declared

/-- `WorkflowDefinitionRecord`, under the workspace, the workflow and its version. -/
structure WorkflowDefinitionRecord (C : Type) where
  definitionHash : String
  specData : DefinedSpec C

/-- A workspace, a workflow and a version. -/
abbrev DefinitionKey := String × String × String

def DefinedSpec.key (spec : DefinedSpec C) (workspaceId : String) : DefinitionKey :=
  (workspaceId, spec.id, spec.version)

abbrev DefinitionTable (C : Type) := Dict DefinitionKey (WorkflowDefinitionRecord C)

inductive SaveError
  /-- "Cannot mutate published workflow …" -/
  | hashMismatch (workflowId version existing new : String)
  /-- `UNIQUE (workspace_id, workflow_asset_id, definition_hash)` -/
  | hashTaken (workflowId definitionHash : String)

/-! ## The repositories -/

inductive DefinitionBackend
  | memory
  | postgres

def DefinedSpec.record (spec : DefinedSpec C) : WorkflowDefinitionRecord C :=
  ⟨spec.hash computeHash, spec⟩

/-- `InMemoryWorkflowDefinitionRepository.save_definition` -/
def saveInMemory (t : DefinitionTable C) (spec : DefinedSpec C) (workspaceId : String) :
    DefinitionTable C × Except SaveError (WorkflowDefinitionRecord C) :=
  (t.set (spec.key workspaceId) (spec.record computeHash), .ok (spec.record computeHash))

/-- Another version of the workflow has the hash. -/
def HashTaken (t : DefinitionTable C) (workspaceId workflowId definitionHash : String) : Prop :=
  ∃ item ∈ t.items, item.1.1 = workspaceId ∧ item.1.2.1 = workflowId ∧
    item.2.definitionHash = definitionHash
deriving Decidable

/-- `PostgresWorkflowDefinitionRepository.save_definition`: a row with the same hash is updated. -/
def saveInPostgres (t : DefinitionTable C) (spec : DefinedSpec C) (workspaceId : String) :
    DefinitionTable C × Except SaveError (WorkflowDefinitionRecord C) :=
  let hash := spec.hash computeHash
  match t.get? (spec.key workspaceId) with
  | some row =>
    if row.definitionHash = hash then
      (t.set (spec.key workspaceId) { row with specData := spec },
        .ok { row with specData := spec })
    else (t, .error (.hashMismatch spec.id spec.version row.definitionHash hash))
  | none =>
    if HashTaken t workspaceId spec.id hash then (t, .error (.hashTaken spec.id hash))
    else (t.set (spec.key workspaceId) (spec.record computeHash), .ok (spec.record computeHash))

def saveDefinition : DefinitionBackend → DefinitionTable C → DefinedSpec C → String →
    DefinitionTable C × Except SaveError (WorkflowDefinitionRecord C)
  | .memory => saveInMemory computeHash
  | .postgres => saveInPostgres computeHash

/-! ## Manifests -/

structure WorkflowManifest where
  runId : String
  workspaceId : String
  workflowAssetId : String
  workflowVersion : String
  workflowDefinitionHash : String

inductive PinError
  | noRepository
  | notFound (runId : String)
  | pinMismatch
  | suppliedMismatch

def PinError.message : PinError → String
  | noRepository => "Durable workflow definition repository is required for manifest execution"
  | notFound runId => s!"Durable workflow definition not found for manifest {runId}"
  | pinMismatch =>
    "Resolved workflow definition does not match the exact manifest definition hash pin"
  | suppliedMismatch =>
    "Caller-supplied workflow definition does not match the durable manifest pin"

/-- `_resolve_pinned_spec`. What was dumped is read back as it was. -/
def resolvePinnedSpec (repository : Option (DefinitionTable C)) (manifest : WorkflowManifest)
    (spec : Option (DefinedSpec C)) : Except PinError (DefinedSpec C) :=
  match repository with
  | none => .error .noRepository
  | some t =>
    match t.get? (manifest.workspaceId, manifest.workflowAssetId, manifest.workflowVersion) with
    | none => .error (.notFound manifest.runId)
    | some record =>
      let resolved := record.specData
      if resolved.id ≠ manifest.workflowAssetId ∨ resolved.version ≠ manifest.workflowVersion ∨
          resolved.hash computeHash ≠ record.definitionHash ∨
          record.definitionHash ≠ manifest.workflowDefinitionHash then .error .pinMismatch
      else match spec with
        | none => .ok resolved
        | some spec =>
          if spec.id ≠ resolved.id ∨ spec.version ≠ resolved.version ∨
              spec.hash computeHash ≠ resolved.hash computeHash then .error .suppliedMismatch
          else .ok resolved

/-- `execute_manifest`, for an engine that runs the specification from a state. -/
def executeManifest {S R : Type} (executeSpec : DefinedSpec C → S → R)
    (repository : Option (DefinitionTable C)) (manifest : WorkflowManifest)
    (spec : Option (DefinedSpec C)) (initialState : S) : Except PinError R := do
  return executeSpec (← resolvePinnedSpec computeHash repository manifest spec) initialState

/-- `resume_manifest`, for an engine that goes on with a workflow. -/
def resumeManifest {W R : Type} (resumeSpec : W → DefinedSpec C → R)
    (repository : Option (DefinitionTable C)) (manifest : WorkflowManifest)
    (spec : Option (DefinedSpec C)) (workflow : W) : Except PinError R := do
  return resumeSpec workflow (← resolvePinnedSpec computeHash repository manifest spec)

/-! ## Saves over time -/

structure DefinitionSave (C : Type) where
  spec : DefinedSpec C
  workspaceId : String := "default"

def definitionSystem (b : DefinitionBackend) : System (DefinitionTable C) (DefinitionSave C) where
  next t save := some (saveDefinition computeHash b t save.spec save.workspaceId).1

/-- A declared hash is that of the content; and in memory a kept content is saved again alone. -/
def Declares (b : DefinitionBackend) (t : DefinitionTable C) (save : DefinitionSave C) : Prop :=
  save.spec.hash computeHash = save.spec.computed computeHash ∧
    (b = .memory → ∀ record ∈ t.get? (save.spec.key save.workspaceId),
      record.specData.body = save.spec.body)

/-- A definition has the hash of its content, and a manifest runs what has the pinned hash. -/
structure DefinitionLaw (b : DefinitionBackend) (t : DefinitionTable C) : Prop where
  hashed : ∀ key record, t.get? key = some record →
    record.definitionHash = record.specData.computed computeHash ∧
      record.specData.key key.1 = key
  /-- other content fails and changes nothing -/
  refused : ∀ save, Declares computeHash b t save →
    ∀ record, t.get? (save.spec.key save.workspaceId) = some record →
      record.specData.body ≠ save.spec.body →
      ∃ e, saveDefinition computeHash b t save.spec save.workspaceId = (t, .error e)
  executed : ∀ {S R : Type} (executeSpec : DefinedSpec C → S → R) manifest spec initialState result,
    executeManifest computeHash executeSpec (some t) manifest spec initialState = .ok result →
    ∃ resolved, result = executeSpec resolved initialState ∧
      resolved.computed computeHash = manifest.workflowDefinitionHash
  resumed : ∀ {W R : Type} (resumeSpec : W → DefinedSpec C → R) manifest spec workflow result,
    resumeManifest computeHash resumeSpec (some t) manifest spec workflow = .ok result →
    ∃ resolved, result = resumeSpec workflow resolved ∧
      resolved.computed computeHash = manifest.workflowDefinitionHash

/-- What was saved before is there with the same content. -/
def DefinitionsKept (t t' : DefinitionTable C) : Prop :=
  ∀ key record, t.get? key = some record → ∃ record', t'.get? key = some record' ∧
    record'.definitionHash = record.definitionHash ∧
    record'.specData.body = record.specData.body

/-! ## What a save does -/

/-- The hash is collision free. -/
def CollisionFree : Prop :=
  ∀ id version body id' version' body', computeHash id version body = computeHash id' version' body' →
    id = id' ∧ version = version' ∧ body = body'

structure DefinitionInv (t : DefinitionTable C) : Prop where
  hashed : ∀ key record, t.get? key = some record →
    record.definitionHash = record.specData.computed computeHash
  declared : ∀ key record, t.get? key = some record →
    record.specData.hash computeHash = record.specData.computed computeHash
  key : ∀ key record, t.get? key = some record → record.specData.key key.1 = key

/-- The row of a specification, after it was written. -/
structure Written (t t' : DefinitionTable C) (spec : DefinedSpec C) (workspaceId : String) :
    Prop where
  table : t' = t.set (spec.key workspaceId) ⟨spec.computed computeHash, spec⟩
  /-- what was there has the same content -/
  kept : ∀ record, t.get? (spec.key workspaceId) = some record →
    record.definitionHash = spec.computed computeHash ∧ record.specData.body = spec.body

section

variable {computeHash} {b : DefinitionBackend} {t t' : DefinitionTable C}
  {save : DefinitionSave C}

/-- A save writes where none, or the same content, is kept; else it fails. -/
theorem saveDefinition_cases (hfree : CollisionFree computeHash) (h : DefinitionInv computeHash t)
    (hdeclares : Declares computeHash b t save) :
    Written computeHash t
        (saveDefinition computeHash b t save.spec save.workspaceId).1 save.spec save.workspaceId ∨
      ∃ e, saveDefinition computeHash b t save.spec save.workspaceId = (t, .error e) := by
  obtain ⟨hhash, hmemory⟩ := hdeclares
  obtain ⟨spec, workspaceId⟩ := save
  -- a record of the same key has the same content where its hash is the same
  have hcomputed : ∀ record, t.get? (spec.key workspaceId) = some record →
      record.definitionHash = computeHash spec.id spec.version record.specData.body := by
    intro record hrecord
    have hkey := h.key _ record hrecord
    have hid : record.specData.id = spec.id := congrArg (fun k => k.2.1) hkey
    have hversion : record.specData.version = spec.version := congrArg (fun k => k.2.2) hkey
    rw [h.hashed _ record hrecord, DefinedSpec.computed, hid, hversion]
  cases b with
  | memory =>
    refine .inl ⟨?_, fun record hrecord => ?_⟩
    · show t.set _ (spec.record computeHash) = _
      unfold DefinedSpec.record
      rw [hhash]
    · have hbody := hmemory rfl record hrecord
      exact ⟨by rw [hcomputed record hrecord, hbody]; rfl, hbody⟩
  | postgres =>
    unfold saveDefinition saveInPostgres
    dsimp only
    cases hrecord : t.get? (spec.key workspaceId) with
    | some record =>
      dsimp only
      by_cases hsame : record.definitionHash = spec.hash computeHash
      · rw [if_pos hsame]
        rw [hhash] at hsame
        refine .inl ⟨?_, fun record' hrecord' => ?_⟩
        · rw [← hsame]
        · cases hrecord.symm.trans hrecord'
          exact ⟨hsame, (hfree _ _ _ _ _ _ ((hcomputed record hrecord).symm.trans hsame)).2.2⟩
      · rw [if_neg hsame]
        exact .inr ⟨_, rfl⟩
    | none =>
      dsimp only
      split_ifs with htaken
      · exact .inr ⟨_, rfl⟩
      · refine .inl ⟨?_, fun record hrecord' => nomatch hrecord.symm.trans hrecord'⟩
        unfold DefinedSpec.record
        rw [hhash]

theorem DefinitionInv.written (h : DefinitionInv computeHash t) {spec : DefinedSpec C}
    {workspaceId : String} (hhash : spec.hash computeHash = spec.computed computeHash)
    (hwritten : Written computeHash t t' spec workspaceId) :
    DefinitionInv computeHash t' ∧ DefinitionsKept t t' := by
  obtain ⟨rfl, hkept⟩ := hwritten
  constructor
  · refine ⟨fun key record hrecord => ?_, fun key record hrecord => ?_, fun key record hrecord => ?_⟩
    all_goals
      rw [Dict.get?_set] at hrecord
      split_ifs at hrecord with hkey
    · cases hrecord
      rfl
    · exact h.hashed key record hrecord
    · cases hrecord
      exact hhash
    · exact h.declared key record hrecord
    · cases hrecord
      subst hkey
      rfl
    · exact h.key key record hrecord
  · intro key record hrecord
    rw [Dict.get?_set]
    split_ifs with hkey
    · subst hkey
      obtain ⟨hsame, hbody⟩ := hkept record hrecord
      exact ⟨_, rfl, hsame.symm, hbody.symm⟩
    · exact ⟨record, hrecord, rfl, rfl⟩

theorem DefinitionsKept.refl (t : DefinitionTable C) : DefinitionsKept t t :=
  fun _ record hrecord => ⟨record, hrecord, rfl, rfl⟩

theorem DefinitionsKept.trans {t'' : DefinitionTable C} (h : DefinitionsKept t t')
    (h' : DefinitionsKept t' t'') : DefinitionsKept t t'' := by
  intro key record hrecord
  obtain ⟨record', hrecord', hhash, hbody⟩ := h key record hrecord
  obtain ⟨record'', hrecord'', hhash', hbody'⟩ := h' key record' hrecord'
  exact ⟨record'', hrecord'', hhash'.trans hhash, hbody'.trans hbody⟩

theorem DefinitionInv.next (hfree : CollisionFree computeHash) (h : DefinitionInv computeHash t)
    (hdeclares : Declares computeHash b t save)
    (hs : (definitionSystem computeHash b).next t save = some t') :
    DefinitionInv computeHash t' ∧ DefinitionsKept t t' := by
  cases hs
  rcases saveDefinition_cases hfree h hdeclares with hwritten | ⟨e, herror⟩
  · exact h.written hdeclares.1 hwritten
  · rw [herror]
    exact ⟨h, .refl t⟩

/-! ## What a manifest runs -/

/-- What is resolved is the definition that is kept under the pinned hash. -/
theorem record_of_resolvePinnedSpec {manifest : WorkflowManifest} {spec : Option (DefinedSpec C)}
    {resolved : DefinedSpec C}
    (h : resolvePinnedSpec computeHash (some t) manifest spec = .ok resolved) :
    ∃ record, t.get? (manifest.workspaceId, manifest.workflowAssetId, manifest.workflowVersion) =
      some record ∧ record.specData = resolved ∧
        record.definitionHash = manifest.workflowDefinitionHash := by
  unfold resolvePinnedSpec at h
  dsimp only at h
  cases hrecord : t.get? (manifest.workspaceId, manifest.workflowAssetId,
      manifest.workflowVersion) with
  | none =>
    rw [hrecord] at h
    nomatch h
  | some record =>
    rw [hrecord] at h
    dsimp only at h
    split_ifs at h with hpin
    have hhash : record.definitionHash = manifest.workflowDefinitionHash :=
      not_not.mp fun hne => hpin (.inr (.inr (.inr hne)))
    refine ⟨record, rfl, ?_, hhash⟩
    cases spec with
    | none => exact Except.ok.inj h
    | some =>
      dsimp only at h
      split_ifs at h
      exact Except.ok.inj h

theorem DefinitionInv.computed_of_resolve (h : DefinitionInv computeHash t)
    {manifest : WorkflowManifest} {spec : Option (DefinedSpec C)} {resolved : DefinedSpec C}
    (hresolve : resolvePinnedSpec computeHash (some t) manifest spec = .ok resolved) :
    resolved.computed computeHash = manifest.workflowDefinitionHash := by
  obtain ⟨record, hrecord, rfl, hhash⟩ := record_of_resolvePinnedSpec hresolve
  exact (h.hashed _ record hrecord).symm.trans hhash

theorem DefinitionInv.law (hfree : CollisionFree computeHash) (h : DefinitionInv computeHash t) :
    DefinitionLaw computeHash b t where
  hashed key record hrecord := ⟨h.hashed key record hrecord, h.key key record hrecord⟩
  refused save hdeclares record hrecord hbody := by
    rcases saveDefinition_cases hfree h hdeclares with hwritten | herror
    · exact absurd (hwritten.kept record hrecord).2 hbody
    · exact herror
  executed executeSpec manifest spec initialState result hresult := by
    obtain ⟨resolved, hresolve, hresult⟩ := bind_eq_ok.mp hresult
    exact ⟨resolved, (pure_eq_ok.mp hresult).symm, h.computed_of_resolve hresolve⟩
  resumed resumeSpec manifest spec workflow result hresult := by
    obtain ⟨resolved, hresolve, hresult⟩ := bind_eq_ok.mp hresult
    exact ⟨resolved, (pure_eq_ok.mp hresult).symm, h.computed_of_resolve hresolve⟩

theorem definitionInv_empty : DefinitionInv computeHash (∅ : DefinitionTable C) where
  hashed _ _ h := nomatch h
  declared _ _ h := nomatch h
  key _ _ h := nomatch h

end

/-- While hashes are as declared the law holds, and a manifest runs the same before and after a
restart. -/
theorem definitionLaw_along (hfree : CollisionFree computeHash) {b : DefinitionBackend}
    {saves saves' : List (DefinitionSave C)} {t t' : DefinitionTable C}
    (hdeclares : (definitionSystem computeHash b).Along (Declares computeHash b) ∅ (saves ++ saves'))
    (hrun : (definitionSystem computeHash b).run ∅ saves = some t)
    (hrun' : (definitionSystem computeHash b).run t saves' = some t') :
    DefinitionLaw computeHash b t' ∧ DefinitionsKept t t' ∧
      ∀ manifest spec spec' resolved resolved',
        resolvePinnedSpec computeHash (some t) manifest spec = .ok resolved →
        resolvePinnedSpec computeHash (some t') manifest spec' = .ok resolved' →
        resolved.id = resolved'.id ∧ resolved.version = resolved'.version ∧
          resolved.body = resolved'.body := by
  let M := definitionSystem computeHash b
  obtain ⟨hfirst, hrest⟩ := (M.along_append hrun).mp hdeclares
  have hstep : ∀ t save t', DefinitionInv computeHash t → Declares computeHash b t save →
      M.next t save = some t' → DefinitionInv computeHash t' :=
    fun _ _ _ h hd hs => (h.next hfree hd hs).1
  have h : DefinitionInv computeHash t := M.inv_of_along hstep definitionInv_empty hfirst hrun
  have h' : DefinitionInv computeHash t' := M.inv_of_along hstep h hrest hrun'
  refine ⟨h'.law hfree, ?_, fun manifest spec spec' resolved resolved' hr hr' => ?_⟩
  · exact M.rel_of_along .refl (fun _ _ _ => .trans) (fun _ _ _ h hd hs => h.next hfree hd hs) h
      hrest hrun'
  · exact hfree _ _ _ _ _ _ ((h.computed_of_resolve hr).trans (h'.computed_of_resolve hr').symm)

/-! ## A hash of strings -/

namespace Sample

/-- The length of a text in front of it. -/
def framed (s : List Char) : List Char := List.replicate s.length 'x' ++ '.' :: s

theorem framed_append_inj {s s' rest rest' : List Char}
    (h : framed s ++ rest = framed s' ++ rest') : s = s' ∧ rest = rest' := by
  have hlength : ∀ (n m : ℕ) (l l' : List Char), List.replicate n 'x' ++ '.' :: l =
      List.replicate m 'x' ++ '.' :: l' → n = m ∧ l = l' := by
    intro n
    induction n with
    | zero =>
      intro m l l' h
      cases m with
      | zero => exact ⟨rfl, (List.cons.inj h).2⟩
      | succ => exact absurd (List.cons.inj h).1 (by decide)
    | succ _ ih =>
      intro m l l' h
      cases m with
      | zero => exact absurd (List.cons.inj h).1 (by decide)
      | succ m =>
        obtain ⟨rfl, hrest⟩ := ih m l l' (List.cons.inj h).2
        exact ⟨rfl, hrest⟩
  unfold framed at h
  rw [List.append_assoc, List.append_assoc] at h
  obtain ⟨hlen, hrest⟩ := hlength _ _ _ _ h
  exact List.append_inj hrest hlen

/-- A hash without collisions, of contents that are numbers. -/
def hash : ComputeHash ℕ := fun id version body =>
  String.ofList (framed id.toList ++ (framed version.toList ++ List.replicate body 'x'))

theorem hash_collisionFree : CollisionFree hash := by
  intro id version body id' version' body' h
  obtain ⟨hid, hrest⟩ := framed_append_inj (String.ofList_injective h)
  obtain ⟨hversion, hbody⟩ := framed_append_inj hrest
  refine ⟨String.toList_injective hid, String.toList_injective hversion, ?_⟩
  have hlength := congrArg List.length hbody
  rwa [List.length_replicate, List.length_replicate] at hlength

/-- The specification, without a declared hash. -/
def undeclared (body : ℕ) : DefinitionSave ℕ := { spec := { id := "w", version := "1", body } }

/-- The same, with a declared hash that does not depend on the content. -/
def declared (body : ℕ) : DefinitionSave ℕ :=
  { spec := { id := "w", version := "1", body, definitionHash := some "h" } }

end Sample

/-- A definition is saved, and other content after it, which fails. -/
theorem definitionLaw_along_undeclared :
    DefinitionLaw Sample.hash .postgres
      (((definitionSystem Sample.hash .postgres).run ∅ [Sample.undeclared 0, Sample.undeclared 1]).get
        rfl) := by
  have hdeclares : (definitionSystem Sample.hash .postgres).Along (Declares Sample.hash .postgres) ∅
      ([Sample.undeclared 0] ++ [Sample.undeclared 1]) :=
    ⟨⟨rfl, fun h => nomatch h⟩, fun _ _ => ⟨⟨rfl, fun h => nomatch h⟩, fun _ _ => trivial⟩⟩
  exact (definitionLaw_along Sample.hash Sample.hash_collisionFree hdeclares rfl rfl).1

/-- Under a declared hash, other content replaces a definition in Postgres. -/
theorem not_definitionLaw_declared :
    ¬ ∀ (computeHash : ComputeHash ℕ), CollisionFree computeHash →
      ∀ (b : DefinitionBackend) (saves saves' : List (DefinitionSave ℕ)) (t t' : DefinitionTable ℕ),
        (definitionSystem computeHash b).run ∅ saves = some t →
        (definitionSystem computeHash b).run t saves' = some t' →
        DefinitionLaw computeHash b t' ∧ DefinitionsKept t t' := by
  intro h
  have hkept := (h Sample.hash Sample.hash_collisionFree .postgres [Sample.declared 0]
    [Sample.declared 1] _ _ rfl rfl).2
  obtain ⟨record, hrecord, -, hbody⟩ := hkept ("default", "w", "1") ⟨"h", (Sample.declared 0).spec⟩ rfl
  obtain rfl : ⟨"h", (Sample.declared 1).spec⟩ = record := Option.some.inj hrecord
  nomatch hbody

end JavisSaas.Agent.Workflows
