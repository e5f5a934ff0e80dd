import JavisSaas.Agent.Skills.CandidateStore

/-!
# The two candidate stores side by side

* `Agreeable`: no identifier names two candidates or is taken in another workspace, hashes are
  those of the skills, approvals are used once, and published candidates are left as they are.
* `candidateLaw_along`: along such operations the stores hold the same candidates and answer alike,
  and published candidates keep the content whose hash was approved.
* `not_candidateLaw_savedElsewhere`: another workspace saves the same identifier.
-/

namespace JavisSaas.Agent.Skills

open JavisSaas.Lib JavisSaas.Agent.Runs

variable {R : Type} (digest : HashedSkill R → String)

/-! ## Operations -/

/-- The operations of the stores, and the two halves of a promotion. -/
inductive CandidateOp (R : Type) where
  | save (workspaceId : String) (candidate : SkillCandidate R)
  | get (workspaceId candidateId : String)
  | updateStatus (workspaceId candidateId : String) (status : SkillStatus) (evalScore : Option ℚ)
  | publish (request : PublicationRequest)
  | prepare (payload : PromotionPayload) (approvals : Dict String RunApprovalRecord)
      (capabilities : Option (List String)) (now : ℤ)
  | conclude (request : PublicationRequest) (cand : SkillCandidate R)

inductive CandidateAnswer (R : Type) where
  | saved (cand : SkillCandidate R)
  | found (cand : Option (SkillCandidate R))
  | published (answer : PublicationAnswer R)
  | prepared (outcome : Except (PromotionOutcome R) (PublicationRequest × SkillCandidate R))
  | concluded (outcome : PromotionOutcome R)

namespace CandidateOp

def workspaceId : CandidateOp R → String
  | save workspaceId _ | get workspaceId _ | updateStatus workspaceId _ _ _ => workspaceId
  | publish request | conclude request _ => request.workspaceId
  | prepare payload _ _ _ => payload.workspaceId.getD ""

/-- The identifier of the candidate, or of its skill. -/
def name : CandidateOp R → String
  | save _ candidate => candidate.candidateId
  | get _ candidateId | updateStatus _ candidateId _ _ => candidateId
  | publish request | conclude request _ => request.candidateId
  | prepare payload _ _ _ => payload.subjectRef.getD ""

def publication : CandidateOp R → Option PublicationRequest
  | publish request | conclude request _ => some request
  | _ => none

end CandidateOp

def MemoryStore.perform (m : MemoryStore R) : CandidateOp R → CandidateAnswer R × MemoryStore R
  | .save workspaceId candidate =>
    let r := m.saveCandidate digest workspaceId candidate
    (.saved r.1, r.2)
  | .get workspaceId candidateId => (.found (m.getCandidate digest workspaceId candidateId), m)
  | .updateStatus workspaceId candidateId status evalScore =>
    let r := m.updateCandidateStatus digest workspaceId candidateId status evalScore
    (.found r.1, r.2)
  | .publish request =>
    let r := m.publishCandidateIfApproved digest request.workspaceId request.candidateId
      request.approvalId request.expectedDefinitionHash
    (.published r.1, r.2)
  | .prepare payload approvals capabilities now =>
    (.prepared (preparePromotion digest (m.getCandidate digest) approvals capabilities now payload),
      m)
  | .conclude request cand =>
    let r := m.publishCandidateIfApproved digest request.workspaceId request.candidateId
      request.approvalId request.expectedDefinitionHash
    (.concluded (concludePromotion request cand r.1), r.2)

def CandidateTable.perform (t : CandidateTable R) (scan : ℕ) :
    CandidateOp R → Except CandidateIntegrityError (CandidateAnswer R × CandidateTable R)
  | .save workspaceId candidate =>
    (t.saveCandidate digest workspaceId candidate).map fun r => (.saved r.1, r.2)
  | .get workspaceId candidateId =>
    .ok (.found (t.getCandidate digest workspaceId candidateId scan), t)
  | .updateStatus workspaceId candidateId status evalScore =>
    let r := t.updateCandidateStatus digest workspaceId candidateId status evalScore scan
    .ok (.found r.1, r.2)
  | .publish request =>
    (t.publishCandidateIfApproved digest request.workspaceId request.candidateId
      request.approvalId request.expectedDefinitionHash scan).map fun r => (.published r.1, r.2)
  | .prepare payload approvals capabilities now =>
    .ok (.prepared (preparePromotion digest
      (fun workspaceId candidateId => t.getCandidate digest workspaceId candidateId scan)
      approvals capabilities now payload), t)
  | .conclude request cand =>
    (t.publishCandidateIfApproved digest request.workspaceId request.candidateId
      request.approvalId request.expectedDefinitionHash scan).map
      fun r => (.concluded (concludePromotion request cand r.1), r.2)

/-- Both stores. -/
structure CandidateStores (R : Type) where
  memory : MemoryStore R := ∅
  table : CandidateTable R := ∅

/-- An operation on both; the table stays as it is when its transaction fails. -/
def CandidateStores.perform (s : CandidateStores R) (op : CandidateOp R) (scan : ℕ) :
    CandidateStores R where
  memory := (s.memory.perform digest op).2
  table := ((s.table.perform digest scan op).toOption.map Prod.snd).getD s.table

/-- Operations with the row that the scans of the table meet first. -/
def candidateSystem : System (CandidateStores R) (CandidateOp R × ℕ) :=
  ⟨fun s l => some (s.perform digest l.1 l.2)⟩

/-! ## The law -/

/-- The stores hold the same candidates, with the hashes of their skills, also the published ones. -/
structure CandidateLaw (s : CandidateStores R) : Prop where
  row : ∀ workspaceId candidateId cand, s.memory.get? (workspaceId, candidateId) = some cand →
    s.table.get? candidateId = some ⟨workspaceId, cand.proposedSkill.id, cand⟩
  candidate : ∀ candidateId row, s.table.get? candidateId = some row →
    s.memory.get? (row.workspaceId, candidateId) = some row.candidate
  candidateId : ∀ key cand, s.memory.get? key = some cand → cand.candidateId = key.2
  hashed : ∀ key cand, s.memory.get? key = some cand → cand.Hashed digest
  approved : ∀ key cand, s.memory.get? key = some cand → cand.status = .published →
    cand.promotionApprovalId.isSome ∧
      cand.promotionDefinitionHash = some (cand.proposedSkill.sha256 digest)

/-- The operation names the candidate, by its identifier or that of its skill. -/
def CandidateOp.Names (op : CandidateOp R) (m : MemoryStore R) (candidateId : String) : Prop :=
  candidateId = op.name ∨
    ∃ cand ∈ m.get? (op.workspaceId, candidateId), cand.proposedSkill.id = op.name

/-- The answers are equal, only the named candidate changes, and no published one; what becomes
published has the hash of the publication, and what a promotion publishes was approved. -/
structure CandidateStepLaw (s : CandidateStores R) (op : CandidateOp R) (scan : ℕ) : Prop where
  sameAnswers : (s.table.perform digest scan op).map Prod.fst = .ok (s.memory.perform digest op).1
  frame : ∃ candidateId, op.Names s.memory candidateId ∧
    (∀ key, key ≠ (op.workspaceId, candidateId) →
      (s.perform digest op scan).memory.get? key = s.memory.get? key) ∧
    (∀ key, key ≠ candidateId →
      (s.perform digest op scan).table.get? key = s.table.get? key) ∧
    ∀ row, s.table.get? candidateId = some row → row.workspaceId ≠ op.workspaceId →
      (s.perform digest op scan).table.get? candidateId = some row
  published : ∀ key cand, s.memory.get? key = some cand → cand.status = .published →
    (s.perform digest op scan).memory.get? key = some cand
  publishedRow : ∀ key row, s.table.get? key = some row → row.candidate.status = .published →
    (s.perform digest op scan).table.get? key = some row
  approved : ∀ key cand, (s.perform digest op scan).memory.get? key = some cand →
    cand.status = .published → s.memory.get? key = some cand ∨
      ∃ request ∈ op.publication, cand.promotionApprovalId = some request.approvalId ∧
        cand.proposedSkill.sha256 digest = request.expectedDefinitionHash
  prepared : ∀ payload approvals capabilities now, op = .prepare payload approvals capabilities now →
    ∀ request cand, (s.memory.perform digest op).1 = .prepared (.ok (request, cand)) →
      cand.proposedSkill.sha256 digest = request.expectedDefinitionHash ∧
        ∃ approval ∈ approvals.get? request.approvalId, approval.status = .approved ∧
          approval.subjectRef = some request.candidateId ∧
          approval.subjectHash = some request.expectedDefinitionHash

/-! ## The condition -/

/-- A candidate of the workspace with this identifier, its own or that of its skill. -/
def NamedBy (workspaceId name : String) (item : (String × String) × SkillCandidate R) : Prop :=
  item.1.1 = workspaceId ∧ (item.1.2 = name ∨ item.2.proposedSkill.id = name)
deriving Decidable

/-- At most one candidate of the workspace has this name. -/
def MemoryStore.Unambiguous (m : MemoryStore R) (workspaceId name : String) : Prop :=
  ∀ item ∈ m.items, NamedBy workspaceId name item → ∀ item' ∈ m.items,
    NamedBy workspaceId name item' → item.1 = item'.1
deriving Decidable

/-- The hash is that of the skill, run, skill and approval stay, the approval is of no other
candidate, and what is published is stored so already. -/
structure MemoryStore.MaySave (m : MemoryStore R) (workspaceId : String) (cand : SkillCandidate R) :
    Prop where
  hashed : cand.Hashed digest
  workspace : ∀ item ∈ m.items, item.1.2 = cand.candidateId → item.1.1 = workspaceId
  same : ∀ old ∈ m.get? (workspaceId, cand.candidateId), old.parentRunId = cand.parentRunId ∧
    old.proposedSkill.id = cand.proposedSkill.id ∧
    (cand.promotionApprovalId = none → old.promotionApprovalId = none) ∧
    (cand.promotionDefinitionHash = none → old.promotionDefinitionHash = none) ∧
    (old.status = .published → old = cand)
  approval : ∀ approvalId ∈ cand.promotionApprovalId, ∀ item ∈ m.items,
    item.1 ≠ (workspaceId, cand.candidateId) → item.2.promotionApprovalId ≠ some approvalId
  published : cand.status = .published → m.get? (workspaceId, cand.candidateId) = some cand

instance [DecidableEq R] (m : MemoryStore R) (workspaceId : String) (cand : SkillCandidate R) :
    Decidable (m.MaySave digest workspaceId cand) :=
  decidable_of_iff (_ ∧ _ ∧ _ ∧ _ ∧ _)
    ⟨fun ⟨h₁, h₂, h₃, h₄, h₅⟩ => ⟨h₁, h₂, h₃, h₄, h₅⟩,
      fun ⟨h₁, h₂, h₃, h₄, h₅⟩ => ⟨h₁, h₂, h₃, h₄, h₅⟩⟩

/-- The name stands for one candidate; if it can be published, no candidate has the approval. -/
def MemoryStore.MayPublish (m : MemoryStore R) (request : PublicationRequest) : Prop :=
  m.Unambiguous request.workspaceId request.candidateId ∧
    ∀ cand ∈ m.getCandidate digest request.workspaceId request.candidateId,
      cand.refusal request.approvalId request.expectedDefinitionHash = none →
        ∀ other ∈ m.values, other.promotionApprovalId ≠ some request.approvalId
deriving Decidable

/-- No status is written over PUBLISHED, nor PUBLISHED as a status; saves are as above. -/
def Agreeable (s : CandidateStores R) (l : CandidateOp R × ℕ) : Prop :=
  match l.1 with
  | .save workspaceId candidate => s.memory.MaySave digest workspaceId (candidate.withHashes digest)
  | .get workspaceId candidateId => s.memory.Unambiguous workspaceId candidateId
  | .updateStatus workspaceId candidateId status evalScore =>
    s.memory.Unambiguous workspaceId candidateId ∧
      ∀ cand ∈ s.memory.getCandidate digest workspaceId candidateId,
        cand.status = .published ∨ status = .published → cand.withStatus status evalScore = cand
  | .publish request | .conclude request _ => s.memory.MayPublish digest request
  | .prepare payload _ _ _ =>
    s.memory.Unambiguous (payload.workspaceId.getD "") (payload.subjectRef.getD "")

instance [DecidableEq R] (s : CandidateStores R) (l : CandidateOp R × ℕ) :
    Decidable (Agreeable digest s l) := by
  unfold Agreeable
  cases l.1 <;> infer_instance

/-! ## Names in stores that agree -/

variable {digest} {s : CandidateStores R} {workspaceId name : String}

theorem CandidateLaw.start : CandidateLaw digest ({} : CandidateStores R) where
  row _ _ _ h := nomatch h
  candidate _ _ h := nomatch h
  candidateId _ _ h := nomatch h
  hashed _ _ h := nomatch h
  approved _ _ h := nomatch h

/-- The row of the candidate `cand`. -/
def rowOf (workspaceId : String) (cand : SkillCandidate R) : CandidateRow R :=
  ⟨workspaceId, cand.proposedSkill.id, cand⟩

variable {row : CandidateRow R} {t : CandidateTable R}

theorem CandidateLaw.matches_iff (h : CandidateLaw digest s) {key : String}
    (hrow : s.table.get? key = some row) : row.Matches workspaceId name ↔
      NamedBy workspaceId name ((row.workspaceId, key), row.candidate) := by
  have hcand := h.candidate key row hrow
  have heq : row = ⟨row.workspaceId, row.candidate.proposedSkill.id, row.candidate⟩ :=
    Option.some.inj (hrow.symm.trans (h.row _ _ _ hcand))
  have hid : row.candidate.candidateId = key := h.candidateId _ _ hcand
  have hskill : row.skillId = row.candidate.proposedSkill.id := congrArg CandidateRow.skillId heq
  rw [CandidateRow.Matches, NamedBy, hid, hskill]

/-- What an unambiguous name stands for, in both stores. -/
inductive Resolved (digest : HashedSkill R → String) (s : CandidateStores R)
    (workspaceId name : String) : Prop
  | missing (hmemory : s.memory.getCandidate digest workspaceId name = none)
      (hrows : ∀ key row, s.table.get? key = some row → ¬row.Matches workspaceId name)
  | found (candidateId : String) (cand : SkillCandidate R)
      (hget : s.memory.get? (workspaceId, candidateId) = some cand)
      (hnamed : candidateId = name ∨ cand.proposedSkill.id = name)
      (hmemory : s.memory.getCandidate digest workspaceId name = some cand)
      (hrows : ∀ key row, s.table.get? key = some row →
        (row.Matches workspaceId name ↔ key = candidateId))

theorem CandidateLaw.resolve (h : CandidateLaw digest s)
    (hname : s.memory.Unambiguous workspaceId name) : Resolved digest s workspaceId name := by
  have hfound : ∀ key cand, s.memory.get? (workspaceId, key) = some cand →
      (key = name ∨ cand.proposedSkill.id = name) →
      s.memory.getCandidate digest workspaceId name = some cand →
      Resolved digest s workspaceId name := by
    intro key cand hget hnamed hmemory
    refine .found key cand hget hnamed hmemory fun key' row hrow => ?_
    rw [h.matches_iff hrow]
    constructor
    · intro hrow'
      have heq := hname _ (Dict.get?_eq_some.mp hget) ⟨rfl, hnamed⟩ _
        (Dict.get?_eq_some.mp (h.candidate key' row hrow)) hrow'
      exact (congrArg Prod.snd heq).symm
    · rintro rfl
      have heq : row = rowOf workspaceId cand :=
        Option.some.inj (hrow.symm.trans (h.row _ _ _ hget))
      rw [heq]
      exact ⟨rfl, hnamed⟩
  cases hkey : s.memory.get? (workspaceId, name) with
  | some cand =>
    refine hfound name cand hkey (.inl rfl) ?_
    rw [MemoryStore.getCandidate, hkey]
    exact congrArg some (SkillCandidate.withHash_eq_self digest (h.hashed _ _ hkey))
  | none =>
    cases hfind : s.memory.items.find? fun item =>
        item.1.1 = workspaceId ∧ item.2.proposedSkill.id = name with
    | some item =>
      obtain ⟨⟨ws, key⟩, cand⟩ := item
      have hitem := List.find?_some hfind
      obtain ⟨rfl, hskill⟩ := of_decide_eq_true hitem
      have hget := Dict.get?_eq_some.mpr (List.mem_of_find?_eq_some hfind)
      refine hfound key cand hget (.inr hskill) ?_
      rw [MemoryStore.getCandidate, hkey]
      dsimp only
      rw [hfind]
      exact congrArg some (SkillCandidate.withHash_eq_self digest (h.hashed _ _ hget))
    | none =>
      have hno : ∀ key row, s.table.get? key = some row → ¬row.Matches workspaceId name := by
        intro key row hrow hmatch
        obtain ⟨rfl, hnamed⟩ := (h.matches_iff hrow).mp hmatch
        have hget := h.candidate key row hrow
        rcases hnamed with rfl | hskill
        · exact absurd (hget.symm.trans hkey) (Option.some_ne_none _)
        · have := List.find?_eq_none.mp hfind _ (Dict.get?_eq_some.mp hget)
          exact this (decide_eq_true ⟨rfl, hskill⟩)
      refine .missing ?_ hno
      rw [MemoryStore.getCandidate, hkey]
      dsimp only
      rw [hfind]
      rfl

theorem rows_eq_nil (h : ∀ key row, t.get? key = some row → ¬row.Matches workspaceId name) :
    t.rows workspaceId name = [] :=
  Dict.values_filter_eq_nil fun key row hrow => decide_eq_false (h key row hrow)

theorem rows_eq_singleton {candidateId : String} (hget : t.get? candidateId = some row)
    (h : ∀ key row, t.get? key = some row →
      (row.Matches workspaceId name ↔ key = candidateId)) : t.rows workspaceId name = [row] :=
  Dict.values_filter_eq_singleton hget (decide_eq_true ((h _ _ hget).mpr rfl))
    fun key row hrow hmatch => (h key row hrow).mp (of_decide_eq_true hmatch)

theorem getCandidate_of_nil (h : t.rows workspaceId name = []) (scan : ℕ) :
    t.getCandidate digest workspaceId name scan = none := by
  rw [CandidateTable.getCandidate, CandidateTable.first, h]
  rfl

theorem getCandidate_of_singleton (h : t.rows workspaceId name = [row])
    (hhash : row.candidate.Hashed digest) (scan : ℕ) :
    t.getCandidate digest workspaceId name scan = some row.candidate := by
  have hfirst : t.first workspaceId name scan = some row := by
    rw [CandidateTable.first, h]
    simp [Nat.mod_one]
  rw [CandidateTable.getCandidate, hfirst]
  exact congrArg some (SkillCandidate.withHash_eq_self digest hhash)

theorem CandidateLaw.getCandidate_eq (h : CandidateLaw digest s)
    (hname : s.memory.Unambiguous workspaceId name) (scan : ℕ) :
    s.table.getCandidate digest workspaceId name scan =
      s.memory.getCandidate digest workspaceId name := by
  cases h.resolve hname with
  | missing hmemory hrows => rw [hmemory, getCandidate_of_nil (rows_eq_nil hrows)]
  | found _ _ hget _ hmemory hrows =>
    have hrow := h.row _ _ _ hget
    rw [hmemory, getCandidate_of_singleton (rows_eq_singleton hrow hrows) (h.hashed _ _ hget)]

/-! ## What an operation writes -/

/-- An operation writes nothing, or one candidate in both stores. -/
inductive CandidateWrote (digest : HashedSkill R → String) (s : CandidateStores R)
    (op : CandidateOp R) (memory : MemoryStore R) (table : CandidateTable R) : Prop
  | nothing (hmemory : memory = s.memory) (htable : ∀ key, table.get? key = s.table.get? key)
  | put (candidateId : String) (cand : SkillCandidate R)
      (hnames : op.Names s.memory candidateId)
      (hid : cand.candidateId = candidateId) (hhash : cand.Hashed digest)
      (hworkspace : ∀ row ∈ s.table.get? candidateId, row.workspaceId = op.workspaceId)
      (hkept : ∀ old ∈ s.memory.get? (op.workspaceId, candidateId), old.status = .published →
        old = cand)
      (hpublished : cand.status = .published →
        s.memory.get? (op.workspaceId, candidateId) = some cand ∨
          ∃ request ∈ op.publication, cand.promotionApprovalId = some request.approvalId ∧
            cand.promotionDefinitionHash = some request.expectedDefinitionHash ∧
            cand.proposedSkill.sha256 digest = request.expectedDefinitionHash)
      (hmemory : memory = s.memory.set (op.workspaceId, candidateId) cand)
      (htable : ∀ key, table.get? key = if candidateId = key then some (rowOf op.workspaceId cand)
        else s.table.get? key)

variable {op : CandidateOp R} {memory : MemoryStore R} {table : CandidateTable R}

theorem CandidateLaw.wrote (h : CandidateLaw digest s)
    (hwrote : CandidateWrote digest s op memory table) :
    CandidateLaw digest { memory, table } := by
  cases hwrote with
  | nothing hmemory htable =>
    subst hmemory
    refine ⟨fun ws key cand hget => ?_, fun key row hrow => ?_, h.candidateId, h.hashed, h.approved⟩
    · exact (htable key).trans (h.row ws key cand hget)
    · exact h.candidate key row ((htable key).symm.trans hrow)
  | put candidateId cand _ hid hhash hworkspace _ hpublished hmemory htable =>
    subst hmemory
    -- no other workspace has a candidate with this identifier
    have hother : ∀ ws cand', ws ≠ op.workspaceId →
        s.memory.get? (ws, candidateId) ≠ some cand' := by
      intro ws cand' hws hget
      exact hws (hworkspace _ (h.row ws candidateId cand' hget))
    have hcases : ∀ key cand', (s.memory.set (op.workspaceId, candidateId) cand).get? key =
        some cand' → key = (op.workspaceId, candidateId) ∧ cand' = cand ∨
          key ≠ (op.workspaceId, candidateId) ∧ s.memory.get? key = some cand' := by
      intro key cand' hget
      rw [Dict.get?_set] at hget
      split_ifs at hget with hkey
      · exact .inl ⟨hkey.symm, (Option.some.inj hget).symm⟩
      · exact .inr ⟨fun heq => hkey heq.symm, hget⟩
    refine ⟨fun ws key cand' hget => ?_, fun key row hrow => ?_, fun key cand' hget => ?_,
      fun key cand' hget => ?_, fun key cand' hget hstatus => ?_⟩
    · rcases hcases _ _ hget with ⟨heq, rfl⟩ | ⟨hne, hget⟩
      · cases heq
        exact (htable _).trans (if_pos rfl)
      · have hkey : candidateId ≠ key := by
          rintro rfl
          exact hother ws cand' (fun hws => hne (by rw [hws])) hget
        exact ((htable key).trans (if_neg hkey)).trans (h.row ws key cand' hget)
    · replace hrow := (htable key).symm.trans hrow
      show (s.memory.set (op.workspaceId, candidateId) cand).get? _ = _
      split_ifs at hrow with hkey
      · cases hrow
        rw [← hkey]
        exact Dict.get?_set_self _ _ _
      · rw [Dict.get?_set_of_ne _ (fun heq => hkey (Prod.mk.inj heq).2)]
        exact h.candidate key row hrow
    · rcases hcases _ _ hget with ⟨rfl, rfl⟩ | ⟨-, hget⟩
      · exact hid
      · exact h.candidateId _ _ hget
    · rcases hcases _ _ hget with ⟨-, rfl⟩ | ⟨-, hget⟩
      · exact hhash
      · exact h.hashed _ _ hget
    · rcases hcases _ _ hget with ⟨-, rfl⟩ | ⟨-, hget⟩
      · rcases hpublished hstatus with hold | ⟨request, -, happroval, hpromotion, hsha⟩
        · exact h.approved _ _ hold hstatus
        · exact ⟨by rw [happroval]; rfl, by rw [hpromotion, hsha]⟩
      · exact h.approved _ _ hget hstatus

/-! ## The operations -/

/-- A save of the same run and skill that clears no approval replaces the candidate. -/
theorem upsert_eq {old cand : SkillCandidate R} (hid : old.candidateId = cand.candidateId)
    (hrun : old.parentRunId = cand.parentRunId)
    (hskill : old.proposedSkill.id = cand.proposedSkill.id)
    (happroval : cand.promotionApprovalId = none → old.promotionApprovalId = none)
    (hpromotion : cand.promotionDefinitionHash = none → old.promotionDefinitionHash = none) :
    (rowOf workspaceId old).upsert cand = rowOf workspaceId cand := by
  have hor : ∀ new old : Option String, (new = none → old = none) → new.or old = new := by
    intro new old himp
    cases new with
    | none => exact himp rfl
    | some _ => rfl
  simp only [CandidateRow.upsert, rowOf, hid, hrun, hskill, hor _ _ happroval, hor _ _ hpromotion]

theorem CandidateLaw.saveCandidate (h : CandidateLaw digest s) {candidate : SkillCandidate R}
    (hsave : s.memory.MaySave digest workspaceId (candidate.withHashes digest)) :
    ∃ table, s.table.saveCandidate digest workspaceId candidate =
        .ok ((s.memory.saveCandidate digest workspaceId candidate).1, table) ∧
      CandidateWrote digest s (.save workspaceId candidate)
        (s.memory.saveCandidate digest workspaceId candidate).2 table := by
  unfold CandidateTable.saveCandidate MemoryStore.saveCandidate
  generalize hcand : candidate.withHashes digest = cand at hsave
  have hid : cand.candidateId = candidate.candidateId := by rw [← hcand]; rfl
  have hrow : s.table.savedRow workspaceId cand = rowOf workspaceId cand := by
    unfold CandidateTable.savedRow
    cases hold : s.table.get? cand.candidateId with
    | none => rfl
    | some row =>
      have hget := h.candidate _ _ hold
      have hws : row.workspaceId = workspaceId :=
        hsave.workspace _ (Dict.get?_eq_some.mp hget) rfl
      rw [hws] at hget
      obtain ⟨old, rfl⟩ : ∃ old, row = rowOf workspaceId old :=
        ⟨_, Option.some.inj (hold.symm.trans (h.row _ _ _ hget))⟩
      obtain ⟨hrun, hskill, happroval, hpromotion, -⟩ := hsave.same _ hget
      exact upsert_eq (h.candidateId _ _ hget) hrun hskill happroval hpromotion
  have htaken : ¬s.table.ApprovalTaken cand.candidateId cand.promotionApprovalId := by
    rintro ⟨approvalId, happroval, ⟨key, row⟩, hitem, hne, hrow⟩
    have hget := h.candidate key row (Dict.get?_eq_some.mpr hitem)
    exact hsave.approval approvalId happroval _ (Dict.get?_eq_some.mp hget)
      (fun heq => hne (Prod.mk.inj heq).2) hrow
  refine ⟨_, ?_, .put cand.candidateId cand (.inl hid) rfl hsave.hashed (fun row hget => ?_)
    (fun old hget hstatus => ((hsave.same old hget).2.2.2.2 hstatus))
    (fun hstatus => .inl (hsave.published hstatus)) rfl
    fun key => Dict.get?_set _ _ _ (rowOf workspaceId cand)⟩
  · dsimp only
    rw [hrow]
    exact if_neg htaken
  · exact hsave.workspace _ (Dict.get?_eq_some.mp (h.candidate _ _ hget)) rfl

theorem CandidateLaw.updateCandidateStatus (h : CandidateLaw digest s) {status : SkillStatus}
    {evalScore : Option ℚ} (scan : ℕ) (hname : s.memory.Unambiguous workspaceId name)
    (hkeeps : ∀ cand ∈ s.memory.getCandidate digest workspaceId name,
      cand.status = .published ∨ status = .published → cand.withStatus status evalScore = cand) :
    (s.table.updateCandidateStatus digest workspaceId name status evalScore scan).1 =
        (s.memory.updateCandidateStatus digest workspaceId name status evalScore).1 ∧
      CandidateWrote digest s (.updateStatus workspaceId name status evalScore)
        (s.memory.updateCandidateStatus digest workspaceId name status evalScore).2
        (s.table.updateCandidateStatus digest workspaceId name status evalScore scan).2 := by
  let update : CandidateRow R → CandidateRow R := fun row =>
    if row.Matches workspaceId name then
      { row with candidate := row.candidate.withStatus status evalScore }
    else row
  have hmatches : ∀ row : CandidateRow R, (update row).Matches workspaceId name ↔
      row.Matches workspaceId name := by
    intro row
    by_cases hrow : row.Matches workspaceId name
    · simp only [update, if_pos hrow]
      exact Iff.rfl
    · simp only [update, if_neg hrow]
  have hrows' : CandidateTable.rows (s.table.mapValues fun _ row => update row) workspaceId name =
      (s.table.rows workspaceId name).map update :=
    Dict.values_filter_mapValues fun row => decide_eq_decide.mpr (hmatches row)
  have htable : (s.table.updateCandidateStatus digest workspaceId name status evalScore scan) =
    (CandidateTable.getCandidate digest (s.table.mapValues fun _ row => update row) workspaceId name
      scan, s.table.mapValues fun _ row => update row) := rfl
  have hget' := Dict.get?_mapValues (fun _ row => update row) s.table
  rw [htable]
  cases h.resolve hname with
  | missing hmemory hrows =>
    rw [MemoryStore.updateCandidateStatus, hmemory]
    refine ⟨getCandidate_of_nil (by rw [hrows', rows_eq_nil hrows]; rfl) scan,
      .nothing rfl fun key => ?_⟩
    rw [hget']
    cases hrow : s.table.get? key with
    | none => rfl
    | some row => exact congrArg some (if_neg (hrows key row hrow))
  | found candidateId cand hget hnamed hmemory hrows =>
    have hrow := h.row _ _ _ hget
    have hhash := h.hashed _ _ hget
    have hid : cand.candidateId = candidateId := h.candidateId _ _ hget
    have hupdate : update (rowOf workspaceId cand) =
        rowOf workspaceId (cand.withStatus status evalScore) :=
      if_pos ((hrows _ _ hrow).mpr rfl)
    rw [MemoryStore.updateCandidateStatus, hmemory]
    refine ⟨?_, .put candidateId (cand.withStatus status evalScore) ?_ hid hhash ?_ ?_ ?_ ?_ ?_⟩
    · have hone : CandidateTable.rows (s.table.mapValues fun _ row => update row) workspaceId name =
          [rowOf workspaceId (cand.withStatus status evalScore)] := by
        rw [hrows', rows_eq_singleton hrow hrows]
        exact congrArg (fun row => [row]) hupdate
      exact getCandidate_of_singleton hone hhash scan
    · rcases hnamed with rfl | hskill
      · exact .inl rfl
      · exact .inr ⟨cand, hget, hskill⟩
    · rintro row hrow'
      exact Option.some.inj (hrow.symm.trans hrow') ▸ rfl
    · intro old hold hstatus
      cases hget.symm.trans hold
      exact (hkeeps _ hmemory (.inl hstatus)).symm
    · intro hstatus
      refine .inl (hget.trans (congrArg some ?_))
      exact (hkeeps _ hmemory (.inr hstatus)).symm
    · rw [← hid]
      rfl
    · intro key
      rw [hget']
      split_ifs with hkey
      · rw [← hkey, hrow]
        exact congrArg some hupdate
      · cases hrow' : s.table.get? key with
        | none => rfl
        | some row => exact congrArg some (if_neg fun hmatch =>
            hkey ((hrows key row hrow').mp hmatch).symm)

theorem CandidateLaw.publishCandidateIfApproved (h : CandidateLaw digest s)
    (op : CandidateOp R) {request : PublicationRequest} (scan : ℕ)
    (hmay : s.memory.MayPublish digest request)
    (hpublication : request ∈ op.publication) (hworkspace : op.workspaceId = request.workspaceId)
    (hname : op.name = request.candidateId) :
    ∃ table, s.table.publishCandidateIfApproved digest request.workspaceId request.candidateId
        request.approvalId request.expectedDefinitionHash scan =
          .ok ((s.memory.publishCandidateIfApproved digest request.workspaceId request.candidateId
            request.approvalId request.expectedDefinitionHash).1, table) ∧
      CandidateWrote digest s op (s.memory.publishCandidateIfApproved digest request.workspaceId
        request.candidateId request.approvalId request.expectedDefinitionHash).2 table := by
  obtain ⟨workspaceId, candidateName, approvalId, expectedHash⟩ := request
  dsimp only at hworkspace hname ⊢
  unfold CandidateTable.publishCandidateIfApproved MemoryStore.publishCandidateIfApproved
  rw [h.getCandidate_eq hmay.1 scan]
  cases h.resolve hmay.1 with
  | missing hmemory _ =>
    rw [hmemory]
    exact ⟨_, rfl, .nothing rfl fun _ => rfl⟩
  | found candidateId cand hget hnamed hmemory hrows =>
    rw [hmemory]
    dsimp only
    cases hrefusal : cand.refusal approvalId expectedHash with
    | some => exact ⟨_, rfl, .nothing rfl fun _ => rfl⟩
    | none =>
      obtain ⟨hstatus, hdefinition, hnoApproval⟩ := SkillCandidate.of_refusal_eq_none hrefusal
      have hhash := h.hashed _ _ hget
      have hid : cand.candidateId = candidateId := h.candidateId _ _ hget
      have hrow := h.row _ _ _ hget
      have hpublishable : (rowOf workspaceId cand).Publishable workspaceId candidateName
          expectedHash :=
        ⟨(hrows _ _ hrow).mpr rfl, hstatus, .inl hdefinition, hnoApproval⟩
      have honly : ∀ key row, s.table.get? key = some row →
          row.Publishable workspaceId candidateName expectedHash → key = candidateId :=
        fun key row hrow' hpub => (hrows key row hrow').mp hpub.1
      have hrows' : s.table.values.filter (·.Publishable workspaceId candidateName expectedHash) =
          [rowOf workspaceId cand] :=
        Dict.values_filter_eq_singleton hrow (decide_eq_true hpublishable)
          fun key row hrow' hpub => honly key row hrow' (of_decide_eq_true hpub)
      have hfree : ¬∃ other ∈ s.table.values,
          other.candidate.promotionApprovalId = some approvalId := by
        rintro ⟨other, hother, happroval⟩
        obtain ⟨key, hkey⟩ := Dict.mem_values.mp hother
        exact hmay.2 cand hmemory hrefusal _ (Dict.mem_values.mpr ⟨_, h.candidate _ _ hkey⟩)
          happroval
      rw [hrows']
      dsimp only
      rw [if_neg hfree]
      have htruthy : truthy cand.definitionHash = true := by
        rw [hhash]
        exact cand.proposedSkill.truthy_sha256 digest
      let table : CandidateTable R := s.table.mapValues fun _ row =>
        if row.Publishable workspaceId candidateName expectedHash then
          row.publish cand.proposedSkill approvalId expectedHash
        else row
      refine ⟨table, ?_, .put candidateId
        (cand.publishedWith approvalId expectedHash cand.proposedSkill) ?_ hid hhash ?_ ?_ ?_ ?_ ?_⟩
      · show Except.ok (PublicationAnswer.mk true _ (some { cand.publishedWith _ _ _ with
          definitionHash := if truthy cand.definitionHash then cand.definitionHash else _ }), _) = _
        rw [if_pos htruthy]
        rfl
      · rw [CandidateOp.Names, hworkspace, hname]
        rcases hnamed with rfl | hskill
        · exact .inl rfl
        · exact .inr ⟨cand, hget, hskill⟩
      · rintro row hrow'
        rw [hworkspace]
        exact Option.some.inj (hrow.symm.trans hrow') ▸ rfl
      · intro old hold hpublished
        rw [hworkspace] at hold
        cases hget.symm.trans hold
        rw [hstatus] at hpublished
        nomatch hpublished
      · intro _
        refine .inr ⟨_, hpublication, rfl, rfl, ?_⟩
        exact Option.some.inj (hhash.symm.trans hdefinition)
      · rw [hworkspace, ← hid]
        rfl
      · intro key
        rw [Dict.get?_mapValues, hworkspace]
        split_ifs with hkey
        · rw [← hkey, hrow]
          exact congrArg some (if_pos hpublishable)
        · cases hrow' : s.table.get? key with
          | none => rfl
          | some row => exact congrArg some (if_neg fun hpub => hkey (honly key row hrow' hpub).symm)

/-! ## Promotions -/

section

variable {read read' : String → String → Option (SkillCandidate R)}
  {approvals : Dict String RunApprovalRecord} {capabilities : Option (List String)} {now : ℤ}
  {payload : PromotionPayload} {request : PublicationRequest} {cand : SkillCandidate R}

theorem preparePromotion_congr (h : read (payload.workspaceId.getD "") (payload.subjectRef.getD "") =
    read' (payload.workspaceId.getD "") (payload.subjectRef.getD "")) :
    preparePromotion digest read approvals capabilities now payload =
      preparePromotion digest read' approvals capabilities now payload := by
  unfold preparePromotion
  dsimp only
  rw [h]

theorem of_verifyChangeExecution {approvalId action : String} {subject : ApprovalSubject}
    (h : verifyChangeExecution approvals approvalId workspaceId action subject now = none) :
    ∃ approval ∈ approvals.get? approvalId, approval.status = .approved ∧
      approval.subjectRef = some subject.ref ∧
      approval.subjectHash = some subject.definitionHash := by
  unfold verifyChangeExecution at h
  cases hget : (approvals.get? approvalId).filter (·.workspaceId = some workspaceId) with
  | none => simp [hget] at h
  | some approval =>
    simp only [hget] at h
    split_ifs at h with _ _ hsubject _ hstatus
    obtain ⟨-, href, hhash⟩ : _ ∧ _ ∧ _ := by simpa only [not_or, Decidable.not_not] using hsubject
    exact ⟨approval, (Option.filter_eq_some_iff.mp hget).1, Decidable.not_not.mp hstatus, href, hhash⟩

/-- What a promotion publishes is the hash that was approved, that of the skill that it has read. -/
theorem of_preparePromotion
    (h : preparePromotion digest read approvals capabilities now payload = .ok (request, cand)) :
    cand.proposedSkill.sha256 digest = request.expectedDefinitionHash ∧
      ∃ approval ∈ approvals.get? request.approvalId, approval.status = .approved ∧
        approval.subjectRef = some request.candidateId ∧
        approval.subjectHash = some request.expectedDefinitionHash := by
  unfold preparePromotion at h
  have h := of_require h
  have h := of_require h
  dsimp only at h
  cases hread : read (payload.workspaceId.getD "") (payload.subjectRef.getD "") with
  | none => simp [hread] at h
  | some cand' =>
    simp only [hread] at h
    by_cases hstatus : cand'.status = .published
    · rw [if_pos hstatus] at h
      split_ifs at h
    rw [if_neg hstatus] at h
    by_cases hsha : cand'.proposedSkill.sha256 digest = payload.subjectHash.getD ""
    case neg => simp [hsha] at h
    rw [if_neg (not_not_intro hsha)] at h
    cases hverify : verifyChangeExecution approvals (payload.approvalId.getD "")
        (payload.workspaceId.getD "") "promote_skill_candidate"
        ⟨"skill_candidate", payload.subjectRef.getD "", payload.subjectHash.getD ""⟩ now with
    | some => simp [hverify] at h
    | none =>
      simp only [hverify] at h
      split_ifs at h
      cases h
      exact ⟨hsha, of_verifyChangeExecution hverify⟩

end

/-! ## Steps and runs -/

theorem CandidateLaw.perform (h : CandidateLaw digest s) {scan : ℕ}
    (hop : Agreeable digest s (op, scan)) :
    ∃ table, s.table.perform digest scan op = .ok ((s.memory.perform digest op).1, table) ∧
      CandidateWrote digest s op (s.memory.perform digest op).2 table := by
  cases op with
  | save =>
    obtain ⟨table, htable, hwrote⟩ := h.saveCandidate hop
    refine ⟨table, ?_, hwrote⟩
    rw [CandidateTable.perform, htable]
    rfl
  | get =>
    refine ⟨s.table, ?_, .nothing rfl fun _ => rfl⟩
    rw [CandidateTable.perform, h.getCandidate_eq hop]
    rfl
  | updateStatus =>
    obtain ⟨hanswer, hwrote⟩ := h.updateCandidateStatus scan hop.1 hop.2
    refine ⟨_, ?_, hwrote⟩
    show Except.ok (CandidateAnswer.found _, _) = _
    rw [hanswer]
    rfl
  | publish request =>
    obtain ⟨table, htable, hwrote⟩ :=
      h.publishCandidateIfApproved (.publish request) scan hop rfl rfl rfl
    refine ⟨table, ?_, hwrote⟩
    rw [CandidateTable.perform, htable]
    rfl
  | prepare =>
    refine ⟨s.table, ?_, .nothing rfl fun _ => rfl⟩
    rw [CandidateTable.perform, preparePromotion_congr (h.getCandidate_eq hop scan)]
    rfl
  | conclude request cand =>
    obtain ⟨table, htable, hwrote⟩ :=
      h.publishCandidateIfApproved (.conclude request cand) scan hop rfl rfl rfl
    refine ⟨table, ?_, hwrote⟩
    rw [CandidateTable.perform, htable]
    rfl

theorem CandidateStores.perform_eq {scan : ℕ}
    (h : s.table.perform digest scan op = .ok ((s.memory.perform digest op).1, table)) :
    s.perform digest op scan = { memory := (s.memory.perform digest op).2, table } := by
  rw [CandidateStores.perform, h]
  rfl

theorem CandidateLaw.step (h : CandidateLaw digest s) {scan : ℕ}
    (hop : Agreeable digest s (op, scan)) :
    CandidateLaw digest (s.perform digest op scan) ∧ CandidateStepLaw digest s op scan := by
  obtain ⟨table, htable, hwrote⟩ := h.perform hop
  have hperform := CandidateStores.perform_eq htable
  have hlaw := h.wrote hwrote
  rw [← hperform] at hlaw
  refine ⟨hlaw, ?_⟩
  have hanswers : (s.table.perform digest scan op).map Prod.fst =
      .ok (s.memory.perform digest op).1 := by
    rw [htable]
    rfl
  have hprepared : ∀ payload approvals capabilities now,
      op = .prepare payload approvals capabilities now → ∀ request cand,
        (s.memory.perform digest op).1 = .prepared (.ok (request, cand)) →
          cand.proposedSkill.sha256 digest = request.expectedDefinitionHash ∧
            ∃ approval ∈ approvals.get? request.approvalId, approval.status = .approved ∧
              approval.subjectRef = some request.candidateId ∧
              approval.subjectHash = some request.expectedDefinitionHash := by
    rintro payload approvals capabilities now rfl request cand hprepare
    exact of_preparePromotion (CandidateAnswer.prepared.inj hprepare)
  cases hwrote with
  | nothing hmemory htable =>
    have hmemory' : (s.perform digest op scan).memory = s.memory := by rw [hperform, hmemory]
    have htable' : ∀ key, (s.perform digest op scan).table.get? key = s.table.get? key := by
      rw [hperform]
      exact htable
    refine ⟨hanswers, ⟨op.name, .inl rfl, fun key _ => by rw [hmemory'], fun key _ => htable' key,
      fun row hrow _ => (htable' _).trans hrow⟩, fun key cand hget _ => hmemory' ▸ hget,
      fun key row hrow _ => (htable' key).trans hrow, fun key cand hget _ => .inl (hmemory' ▸ hget),
      hprepared⟩
  | put candidateId cand hnames _ _ hworkspace hkept hpublished hmemory htable =>
    have hmemory' : ∀ key, (s.perform digest op scan).memory.get? key =
        if (op.workspaceId, candidateId) = key then some cand else s.memory.get? key := by
      intro key
      rw [hperform, hmemory]
      exact Dict.get?_set _ _ _ _
    have htable' : ∀ key, (s.perform digest op scan).table.get? key =
        if candidateId = key then some (rowOf op.workspaceId cand) else s.table.get? key := by
      rw [hperform]
      exact htable
    refine ⟨hanswers, ⟨candidateId, hnames, fun key hkey => ?_, fun key hkey => ?_,
      fun row hrow hws => absurd (hworkspace row hrow) hws⟩, fun key old hget hstatus => ?_,
      fun key row hrow hstatus => ?_, fun key cand' hget hstatus => ?_, hprepared⟩
    · rw [hmemory', if_neg hkey.symm]
    · rw [htable', if_neg hkey.symm]
    · rw [hmemory']
      split_ifs with hkey
      · subst hkey
        exact congrArg some (hkept old hget hstatus).symm
      · exact hget
    · rw [htable']
      split_ifs with hkey
      · subst hkey
        have hold := h.candidate _ _ hrow
        have hws := hworkspace row hrow
        rw [hws] at hold
        have hsame := hkept _ hold hstatus
        rw [← hsame]
        exact (h.row _ _ _ hold).symm.trans hrow
      · exact hrow
    · rw [hmemory'] at hget
      split_ifs at hget with hkey
      · subst hkey
        cases hget
        rcases hpublished hstatus with hold | ⟨request, hrequest, happroval, -, hsha⟩
        · exact .inl hold
        · exact .inr ⟨request, hrequest, happroval, hsha⟩
      · exact .inl hget

/-- Along agreeable operations the stores are one, and published content was approved. -/
theorem candidateLaw_along {ls : List (CandidateOp R × ℕ)}
    (hagree : (candidateSystem digest).Along (Agreeable digest) {} ls)
    (hrun : (candidateSystem digest).run {} ls = some s) :
    CandidateLaw digest s ∧
      (candidateSystem digest).Along (fun s l => CandidateStepLaw digest s l.1 l.2) {} ls := by
  have hstep : ∀ (s : CandidateStores R) l s', CandidateLaw digest s → Agreeable digest s l →
      (candidateSystem digest).next s l = some s' → CandidateLaw digest s' := by
    rintro s ⟨op, scan⟩ s' h hop hs
    cases hs
    exact (h.step hop).1
  exact ⟨(candidateSystem digest).inv_of_along hstep .start hagree hrun,
    (candidateSystem digest).along_of_inv hstep (fun s l h hop => (h.step hop).2) .start hagree⟩

/-! ## Two workspaces -/

/-- SHA-256 of the one skill of the runs below. -/
def researchDigest (skill : HashedSkill Unit) : String :=
  if skill.instructions = "Read the notes." then
    "077dac57396fde073924dac672009070766906cd6a7e083b06d2f18bf0d21d35"
  else ""

def research : SkillSpec Unit where
  id := "skill.research"
  instructions := "Read the notes."
  requiredCapabilities := ["notes.read"]
  references := ()
  status := .candidate
  createdAt := 0

def researchCandidate : SkillCandidate Unit where
  candidateId := "cand-1"
  parentRunId := "run-1"
  proposedSkill := research
  evalScore := 9 / 10
  status := .evaluated

def researchApproval : RunApprovalRecord where
  approvalId := "appr-1"
  workspaceId := some "ws-a"
  bindingKind := .changeRequest
  status := .approved
  action := some "promote_skill_candidate"
  subjectKind := some "skill_candidate"
  subjectRef := some "cand-1"
  subjectHash := some (research.sha256 researchDigest)

/-- The candidate is saved and found by its skill. -/
def savedOps : List (CandidateOp Unit × ℕ) :=
  [(.save "ws-a" researchCandidate, 0), (.get "ws-a" "skill.research", 0)]

/-- It is promoted, while another workspace has a candidate for the same skill. -/
def promotedOps : List (CandidateOp Unit × ℕ) :=
  savedOps ++
    [(CandidateOp.prepare ⟨some "promote_skill_candidate", some "skill_candidate", some "ws-a",
        some "appr-1", some "cand-1", some (research.sha256 researchDigest)⟩
        ((∅ : Dict String RunApprovalRecord).set "appr-1" researchApproval) (some ["notes.read"]) 0,
        0),
      (.save "ws-b" { researchCandidate with candidateId := "cand-2" }, 0),
      (.publish ⟨"ws-a", "cand-1", "appr-1", research.sha256 researchDigest⟩, 0),
      (.updateStatus "ws-b" "skill.research" .retired none, 0),
      (.publish ⟨"ws-a", "cand-1", "appr-1", research.sha256 researchDigest⟩, 0)]

theorem candidateLaw_along_promoted :
    CandidateLaw researchDigest (((candidateSystem researchDigest).run {} promotedOps).get
      (by decide +kernel)) ∧
    (candidateSystem researchDigest).Along
      (fun s l => CandidateStepLaw researchDigest s l.1 l.2) {} promotedOps :=
  candidateLaw_along (by decide +kernel) (Option.some_get _).symm

/-- The other workspace saves a candidate with the same identifier. -/
def savedElsewhereOps : List (CandidateOp Unit × ℕ) :=
  savedOps ++ [(CandidateOp.save "ws-b" { researchCandidate with evalScore := 0 }, 0)]

/-- In Postgres it replaces the candidate of the first workspace. -/
theorem not_candidateLaw_savedElsewhere :
    ¬∀ ls s, (candidateSystem researchDigest).run {} ls = some s →
      CandidateLaw researchDigest s ∧ (candidateSystem researchDigest).Along
        (fun s l => CandidateStepLaw researchDigest s l.1 l.2) {} ls := by
  intro h
  obtain ⟨hlaw, -⟩ := h savedElsewhereOps (((candidateSystem researchDigest).run {}
    savedElsewhereOps).get (by decide +kernel)) (Option.some_get _).symm
  have hrow := hlaw.row "ws-a" "cand-1" (researchCandidate.withHashes researchDigest)
    (by decide +kernel)
  revert hrow
  decide +kernel

end JavisSaas.Agent.Skills
