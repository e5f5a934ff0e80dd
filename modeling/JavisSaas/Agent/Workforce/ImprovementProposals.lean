import JavisSaas.Lib.Calls
import JavisSaas.Lib.Fallible
import JavisSaas.Lib.Json

/-!
# Proposals for improvements

`packages/agent/workforce/improvements.py` over the repository in Postgres, each of whose methods is
a transaction. The lower case of a text is a parameter.

* `proposalLaw_of_run`: what every run keeps of the proposals, and what every step does.
* `not_stated_race`: a canary that was read before a rollback and is written after it.
-/

namespace JavisSaas.Agent.Workforce

open JavisSaas.Lib

/-! ## Proposals -/

inductive ProposalStatus
  | draft
  | pendingFounderReview
  | canary
  | approved
  | rejected
  | rolledBack
  deriving DecidableEq

def ProposalStatus.toText : ProposalStatus → String
  | draft => "DRAFT"
  | pendingFounderReview => "PENDING_FOUNDER_REVIEW"
  | canary => "CANARY"
  | approved => "APPROVED"
  | rejected => "REJECTED"
  | rolledBack => "ROLLED_BACK"

structure ImprovementProposal where
  proposalId : ℕ
  workspaceId : String
  status : ProposalStatus := .draft
  changeClass : String
  requiresFounder : Bool
  proposedRevision : List (Text × Json)
  riskCostImpact : List (Text × Json)
  candidateDefinitionHash : Option String := none
  /-- The `attempt_ids`. -/
  canarySelection : Option (List String) := none
  version : ℕ := 1

/-- A row of `workforce_improvement_events`, and, not a column, the `is_founder` of the promotion. -/
structure ProposalEvent where
  proposalId : ℕ
  workspaceId : String
  eventType : String
  actorId : String
  byFounder : Bool := false

structure ProposalStore where
  rows : Dict ℕ ImprovementProposal := ∅
  events : List ProposalEvent := []

def evaluationOwnerSelfService : List String := ["rubric", "tag", "sla"]

def forbiddenFields : List Text :=
  [text "credential", text "secret", text "api_key", text "password", text "delegation_token",
    text "raw_prompt"]

def ForbiddenKey (lower : Text → Text) (k : Text) : Prop :=
  ∃ f ∈ forbiddenFields, f <:+: lower k
deriving Decidable

mutual

def scanValue (lower : Text → Text) (path : Text) : Json → Except Text Unit
  | .dict items => scanForbidden lower path items
  | _ => .ok ()

/-- `_scan_forbidden`; a list is not looked into. -/
def scanForbidden (lower : Text → Text) (path : Text) : List (Text × Json) → Except Text Unit
  | [] => .ok ()
  | (k, v) :: items => do
    require (¬ForbiddenKey lower k) (text "forbidden field " ++ path ++ text "." ++ k)
    scanValue lower (path ++ text "." ++ k) v
    scanForbidden lower path items

end

/-! ## The calls -/

/-- What a change is asked for. -/
inductive ProposalOp
  | promote (isFounder : Bool)
  | canary (candidateDefinitionHash : String) (selectedAttemptIds : List String)
  | rollback

/-- The proposal that is written, and the type of its event. Only a promotion asks for a status. -/
def ProposalOp.apply (op : ProposalOp) (p : ImprovementProposal) :
    Except String (ImprovementProposal × String) :=
  let p' := { p with version := p.version + 1 }
  match op with
  | .promote isFounder =>
    match p.status with
    | .draft => .ok ({ p' with
        status := if p.requiresFounder then .pendingFounderReview else .approved }, "submitted")
    | .pendingFounderReview =>
      if isFounder then .ok ({ p' with status := .approved }, "approved")
      else .error ("change_class '" ++ p.changeClass ++ "' requires founder approval")
    | status => .error ("cannot promote from status " ++ status.toText)
  | .canary hash attemptIds => .ok ({ p' with
      status := .canary
      candidateDefinitionHash := some hash
      canarySelection := some attemptIds }, "canary_started")
  | .rollback => .ok ({ p' with status := .rolledBack }, "rolled_back")

def ProposalOp.byFounder : ProposalOp → Bool
  | .promote isFounder => isFounder
  | _ => false

structure NewProposal where
  workspaceId : String
  createdBy : String
  changeClass : String
  proposedRevision : List (Text × Json) := []
  riskCostImpact : List (Text × Json) := []

def NewProposal.proposal (new : NewProposal) (proposalId : ℕ) : ImprovementProposal where
  proposalId
  workspaceId := new.workspaceId
  changeClass := new.changeClass
  requiresFounder := new.changeClass ∉ evaluationOwnerSelfService
  proposedRevision := new.proposedRevision
  riskCostImpact := new.riskCostImpact

/-- A proposal as it was read, and as it is to be written. -/
structure ProposalChange where
  read : ImprovementProposal
  written : ImprovementProposal

inductive ProposalReq
  | create (new : NewProposal)
  /-- An id that is no UUID is `none`. -/
  | change (op : ProposalOp) (workspaceId : String) (proposalId : Option ℕ) (actorId : String)

inductive ProposalCall
  | creating (new : NewProposal)
  | changing (op : ProposalOp) (workspaceId : String) (proposalId : Option ℕ) (actorId : String)
  | updating (change : ProposalChange) (event : Option ProposalEvent)
  | logging (event : ProposalEvent) (change : Option ProposalChange)

namespace ProposalStore

def getProposal (s : ProposalStore) (workspaceId : String) (proposalId : Option ℕ) :
    Option ImprovementProposal :=
  (proposalId.bind s.rows.get?).filter (·.workspaceId = workspaceId)

/-- `update_proposal`, with its `WHERE`. -/
def updateProposal (s : ProposalStore) (p : ImprovementProposal) : ProposalStore :=
  { s with rows := s.rows.modify p.proposalId fun row =>
      if row.workspaceId = p.workspaceId then
        { row with
          status := p.status
          candidateDefinitionHash := p.candidateDefinitionHash
          canarySelection := p.canarySelection
          version := p.version }
      else row }

end ProposalStore

/-- A promotion appends its event before the update, the others after it. -/
def ProposalCall.step (lower : Text → Text) (s : ProposalStore) (newId : ℕ) :
    ProposalCall → Option (ProposalStore × Option ProposalCall)
  | .creating new =>
    match scanForbidden lower (text "proposed_revision") new.proposedRevision,
      scanForbidden lower (text "risk_cost_impact") new.riskCostImpact, s.rows.get? newId with
    | .ok (), .ok (), none => some
      ({ s with rows := s.rows.set newId (new.proposal newId) },
        some (.logging ⟨newId, new.workspaceId, "created", new.createdBy, false⟩ none))
    | _, _, _ => some (s, none)
  | .changing op workspaceId proposalId actorId =>
    match s.getProposal workspaceId proposalId with
    | none => some (s, none)
    | some read =>
      match op.apply read with
      | .error _ => some (s, none)
      | .ok (written, eventType) =>
        let event := ⟨read.proposalId, workspaceId, eventType, actorId, op.byFounder⟩
        some (s, some (match op with
          | .promote _ => .logging event (some ⟨read, written⟩)
          | _ => .updating ⟨read, written⟩ (some event)))
  | .updating change event =>
    some (s.updateProposal change.written, event.map fun e => .logging e none)
  | .logging event change =>
    some ({ s with events := s.events ++ [event] }, change.map fun c => .updating c none)

def proposals (lower : Text → Text) : Service ProposalReq ProposalStore ProposalCall ℕ where
  start
    | .create new => .creating new
    | .change op workspaceId proposalId actorId => .changing op workspaceId proposalId actorId
  step s c newId := c.step lower s newId

/-! ## What a run keeps, and what a step does -/

/-- A key of a dict, or of a dict that is a value of it, at any depth. -/
inductive DictKey : List (Text × Json) → Text → Prop
  | here {items : List (Text × Json)} {k : Text} {v : Json} (h : (k, v) ∈ items) : DictKey items k
  | deeper {items inner : List (Text × Json)} {k k' : Text} (h : (k', Json.dict inner) ∈ items)
      (hk : DictKey inner k) : DictKey items k

/-- A founder has promoted the proposal. -/
def ProposalStore.Founded (s : ProposalStore) (id : ℕ) : Prop :=
  ∃ e ∈ s.events, e.proposalId = id ∧ e.eventType = "approved" ∧ e.byFounder = true

structure ProposalLaw (lower : Text → Text) (s : ProposalStore) (id : ℕ)
    (row : ImprovementProposal) : Prop where
  founder : row.changeClass ∉ evaluationOwnerSelfService → row.status = .approved → s.Founded id
  revision : ∀ k, DictKey row.proposedRevision k → ¬ForbiddenKey lower k
  impact : ∀ k, DictKey row.riskCostImpact k → ¬ForbiddenKey lower k

/-- The events that a call has still to append. -/
def ProposalCall.pendingEvents : ProposalCall → ℕ
  | .updating _ none => 0
  | _ => 1

/-- A step refuses, or brings the call nearer to its one event; the version read is raised by one. -/
structure ChangeLaw (s : ProposalStore) (c : ProposalCall) (s' : ProposalStore)
    (c' : Option ProposalCall) : Prop where
  event : (s' = s ∧ c' = none) ∨
    s'.events.length + c'.elim 0 (·.pendingEvents) = s.events.length + c.pendingEvents
  version : ∀ id row row', s.rows.get? id = some row → s'.rows.get? id = some row' → row' = row ∨
    ∃ change e, c = .updating change e ∧ change.written.proposalId = id ∧
      row'.version = change.read.version + 1

def ChangesRightly (lower : Text → Text) (s : ProposalStore) (c : ProposalCall) (newId : ℕ) :
    Prop :=
  ∀ s' c', c.step lower s newId = some (s', c') → ChangeLaw s c s' c'

section Run

variable {lower : Text → Text} {s s' : ProposalStore} {c : ProposalCall} {c' : Option ProposalCall}
  {newId id : ℕ} {row p : ImprovementProposal} {op : ProposalOp}

theorem allowed_of_scan {path : Text} {items : List (Text × Json)} {k : Text}
    (h : scanForbidden lower path items = .ok ()) (hk : DictKey items k) :
    ¬ForbiddenKey lower k := by
  have hmem : ∀ {path : Text} {items : List (Text × Json)} {k : Text} {v : Json},
      scanForbidden lower path items = .ok () → (k, v) ∈ items →
        ¬ForbiddenKey lower k ∧ ∃ path, scanValue lower path v = .ok () := by
    intro path items k v h hkv
    induction items with
    | nil => cases hkv
    | cons item _ ih =>
      obtain ⟨k', v'⟩ := item
      rw [scanForbidden, require_bind_eq_ok, bind_eq_ok] at h
      obtain ⟨hallowed, ⟨⟩, hvalue, hrest⟩ := h
      rcases List.mem_cons.mp hkv with hhere | hthere
      · cases hhere
        exact ⟨hallowed, _, hvalue⟩
      · exact ih hrest hthere
  induction hk generalizing path with
  | here hkv => exact (hmem h hkv).1
  | deeper hinner _ ih =>
    obtain ⟨-, path', hscan⟩ := hmem h hinner
    rw [scanValue] at hscan
    exact ih hscan

theorem apply_eq_ok {eventType : String} (h : op.apply row = .ok (p, eventType)) :
    p.version = row.version + 1 ∧ p.proposalId = row.proposalId ∧
      p.requiresFounder = row.requiresFounder ∧ (p.requiresFounder = true → p.status = .approved →
        eventType = "approved" ∧ op = .promote true) := by
  cases op with
  | promote =>
    unfold ProposalOp.apply at h
    dsimp only at h
    split at h
    · cases h
      refine ⟨rfl, rfl, rfl, fun hfounder happroved => ?_⟩
      have hfounder : row.requiresFounder = true := hfounder
      rw [if_pos hfounder] at happroved
      cases happroved
    · split_ifs at h with hisFounder
      cases h
      exact ⟨rfl, rfl, rfl, fun _ _ => ⟨rfl, by rw [hisFounder]⟩⟩
    all_goals cases h
  | canary | rollback =>
    cases h
    exact ⟨rfl, rfl, rfl, nofun⟩

/-- What the invariant says of the rows. -/
structure RowsKept (lower : Text → Text) (s : ProposalStore) : Prop where
  key : ∀ id row, s.rows.get? id = some row → row.proposalId = id
  required : ∀ id row, s.rows.get? id = some row →
    row.requiresFounder = decide (row.changeClass ∉ evaluationOwnerSelfService)
  law : ∀ id row, s.rows.get? id = some row → ProposalLaw lower s id row

/-- A change comes from the row, raises the version, and does not approve by itself. -/
structure ChangeOf (s : ProposalStore) (change : ProposalChange) (founded : Prop) : Prop where
  row : ∃ row, s.rows.get? change.written.proposalId = some row ∧
    row.requiresFounder = change.written.requiresFounder
  version : change.written.version = change.read.version + 1
  founded : change.written.requiresFounder = true → change.written.status = .approved → founded

def CallKept (s : ProposalStore) : ProposalCall → Prop
  | .updating change _ => ChangeOf s change (s.Founded change.written.proposalId)
  | .logging event (some change) => ChangeOf s change
      (event.proposalId = change.written.proposalId ∧ event.eventType = "approved" ∧
        event.byFounder = true)
  | _ => True

/-- Rows keep the columns that no update writes, and events stay. -/
structure Extends (s s' : ProposalStore) : Prop where
  rows : ∀ id row, s.rows.get? id = some row →
    ∃ row', s'.rows.get? id = some row' ∧ row'.requiresFounder = row.requiresFounder
  events : ∀ e ∈ s.events, e ∈ s'.events

theorem ChangeOf.extends {change : ProposalChange} {founded founded' : Prop}
    (h : ChangeOf s change founded) (hs : Extends s s') (hf : founded → founded') :
    ChangeOf s' change founded' := by
  obtain ⟨row, hrow, hrequired⟩ := h.row
  obtain ⟨row', hrow', hsame⟩ := hs.rows _ row hrow
  exact ⟨⟨row', hrow', hsame.trans hrequired⟩, h.version, fun hr ha => hf (h.founded hr ha)⟩

theorem Extends.founded (hs : Extends s s') (h : s.Founded id) : s'.Founded id := by
  obtain ⟨e, he, hfor⟩ := h
  exact ⟨e, hs.events e he, hfor⟩

theorem CallKept.extends (h : CallKept s c) (hs : Extends s s') : CallKept s' c := by
  cases c with
  | updating => exact ChangeOf.extends h hs hs.founded
  | logging _ change =>
    cases change with
    | none => trivial
    | some => exact ChangeOf.extends h hs id
  | creating | changing => trivial

theorem ProposalLaw.extends (h : ProposalLaw lower s id row) (hs : Extends s s') :
    ProposalLaw lower s' id row :=
  ⟨fun hclass happroved => hs.founded (h.founder hclass happroved), h.revision, h.impact⟩

theorem extends_update (p : ImprovementProposal) : Extends s (s.updateProposal p) where
  rows id row hrow := by
    simp only [ProposalStore.updateProposal, Dict.get?_modify, hrow, Option.map_some]
    refine ⟨_, rfl, ?_⟩
    split_ifs <;> rfl
  events _ he := he

theorem RowsKept.update {change : ProposalChange} (h : RowsKept lower s)
    (hc : ChangeOf s change (s.Founded change.written.proposalId)) :
    RowsKept lower (s.updateProposal change.written) := by
  have hextends := extends_update (s := s) change.written
  have hrows : ∀ id row, (s.updateProposal change.written).rows.get? id = some row →
      ∃ old, s.rows.get? id = some old ∧ (row = old ∨ change.written.proposalId = id ∧
        row = { old with
          status := change.written.status
          candidateDefinitionHash := change.written.candidateDefinitionHash
          canarySelection := change.written.canarySelection
          version := change.written.version }) := by
    intro id row hrow
    simp only [ProposalStore.updateProposal, Dict.get?_modify] at hrow
    obtain ⟨old, hold, rfl⟩ := Option.map_eq_some_iff.mp hrow
    refine ⟨old, hold, ?_⟩
    split_ifs with hid hworkspace
    · exact .inr ⟨hid, rfl⟩
    · exact .inl rfl
    · exact .inl rfl
  refine ⟨fun id row hrow => ?_, fun id row hrow => ?_, fun id row hrow => ?_⟩
  all_goals
    obtain ⟨old, hold, rfl | ⟨rfl, rfl⟩⟩ := hrows id row hrow
  · exact h.key _ _ hold
  · exact h.key _ old hold
  · exact h.required _ _ hold
  · exact h.required _ old hold
  · exact (h.law _ _ hold).extends hextends
  · refine ⟨fun hclass happroved => hextends.founded (hc.founded ?_ happroved),
      (h.law _ _ hold).revision, (h.law _ _ hold).impact⟩
    obtain ⟨row, hrow, hrequired⟩ := hc.row
    cases hold.symm.trans hrow
    rw [← hrequired, h.required _ _ hold]
    exact decide_eq_true hclass

theorem creating_cases {new : NewProposal}
    (h : (ProposalCall.creating new).step lower s newId = some (s', c')) :
    s' = s ∧ c' = none ∨ s.rows.get? newId = none ∧
      scanForbidden lower (text "proposed_revision") new.proposedRevision = .ok () ∧
      scanForbidden lower (text "risk_cost_impact") new.riskCostImpact = .ok () ∧
      (∃ e, c' = some (.logging e none)) ∧
      s' = { s with rows := s.rows.set newId (new.proposal newId) } := by
  simp only [ProposalCall.step] at h
  split at h
  · next hrevision himpact hfree =>
    cases h
    exact .inr ⟨hfree, hrevision, himpact, ⟨_, rfl⟩, rfl⟩
  · cases h
    exact .inl ⟨rfl, rfl⟩

theorem changing_cases {workspaceId actorId : String} {proposalId : Option ℕ}
    (h : (ProposalCall.changing op workspaceId proposalId actorId).step lower s newId =
      some (s', c')) : s' = s ∧ (c' = none ∨ ∃ read written eventType,
        (∃ id, s.rows.get? id = some read) ∧ op.apply read = .ok (written, eventType) ∧
        ∃ event : ProposalEvent, event.proposalId = read.proposalId ∧
          event.eventType = eventType ∧ event.byFounder = op.byFounder ∧
          (c' = some (.logging event (some ⟨read, written⟩)) ∨
            (∀ b, op ≠ .promote b) ∧ c' = some (.updating ⟨read, written⟩ (some event)))) := by
  simp only [ProposalCall.step] at h
  split at h
  · cases h
    exact ⟨rfl, .inl rfl⟩
  · next read hread =>
    obtain ⟨hread, -⟩ := Option.filter_eq_some_iff.mp hread
    obtain ⟨id, -, hrow⟩ := Option.bind_eq_some_iff.mp hread
    split at h
    · cases h
      exact ⟨rfl, .inl rfl⟩
    · next written eventType happly =>
      cases h
      refine ⟨rfl, .inr ⟨read, written, eventType, ⟨id, hrow⟩, happly,
        ⟨read.proposalId, workspaceId, eventType, actorId, op.byFounder⟩, rfl, rfl, rfl, ?_⟩⟩
      cases op with
      | promote => exact .inl rfl
      | canary | rollback => exact .inr ⟨nofun, rfl⟩

theorem proposalRule (lower : Text → Text) :
    (proposals lower).Rule (fun _ _ _ => True) (RowsKept lower) CallKept where
  start s req _ := by cases req <;> trivial
  abort s c hI _ := ⟨hI, fun _ hd => hd⟩
  step s c newId s' c' hI hJ _ hs := by
    change c.step lower s newId = some (s', c') at hs
    cases c with
    | creating new =>
      rcases creating_cases hs with ⟨rfl, rfl⟩ | ⟨hfree, hrevision, himpact, ⟨e, rfl⟩, rfl⟩
      · exact ⟨hI, fun _ hd => hd, fun _ hd => nomatch hd⟩
      · have hextends : Extends s { s with rows := s.rows.set newId (new.proposal newId) } := by
          refine ⟨fun id row hrow => ⟨row, ?_, rfl⟩, fun _ he => he⟩
          rw [← hrow]
          refine Dict.get?_set_of_ne _ ?_ _
          rintro rfl
          cases hfree.symm.trans hrow
        refine ⟨?_, fun d hd => hd.extends hextends, fun d hd => ?_⟩
        · refine ⟨fun id row hrow => ?_, fun id row hrow => ?_, fun id row hrow => ?_⟩
          all_goals
            rw [Dict.get?_set] at hrow
            split_ifs at hrow with hid
          · cases hrow
            exact hid
          · exact hI.key id row hrow
          · cases hrow
            rfl
          · exact hI.required id row hrow
          · cases hrow
            exact ⟨nofun, fun _ => allowed_of_scan hrevision, fun _ => allowed_of_scan himpact⟩
          · exact (hI.law id row hrow).extends hextends
        · cases hd
          trivial
    | changing =>
      obtain ⟨rfl, rfl | ⟨read, written, eventType, ⟨id, hrow⟩, happly, event, hid, htype, hby,
        hnext⟩⟩ := changing_cases hs
      · exact ⟨hI, fun _ hd => hd, fun _ hd => nomatch hd⟩
      · obtain ⟨hversion, hsame, hrequired, happroves⟩ := apply_eq_ok happly
        have hread : ∃ row, s'.rows.get? written.proposalId = some row ∧
            row.requiresFounder = written.requiresFounder := by
          rw [hsame, hI.key id read hrow]
          exact ⟨read, hrow, hrequired.symm⟩
        refine ⟨hI, fun _ hd => hd, fun d hd => ?_⟩
        rcases hnext with rfl | ⟨hop, rfl⟩
        all_goals cases hd
        · refine ⟨hread, hversion, fun hr ha => ⟨hid.trans hsame.symm, ?_, ?_⟩⟩
          · exact htype.trans (happroves hr ha).1
          · rw [hby, (happroves hr ha).2, ProposalOp.byFounder]
        · exact ⟨hread, hversion, fun hr ha => absurd (happroves hr ha).2 (hop true)⟩
    | updating =>
      cases hs
      refine ⟨hI.update hJ, fun d hd => hd.extends (extends_update _), fun d hd => ?_⟩
      obtain ⟨e, -, rfl⟩ := Option.map_eq_some_iff.mp hd
      trivial
    | logging event =>
      cases hs
      have hextends : Extends s { s with events := s.events ++ [event] } :=
        ⟨fun id row hrow => ⟨row, hrow, rfl⟩, fun _ he => List.mem_append_left _ he⟩
      refine ⟨⟨hI.key, hI.required, fun id row hrow => (hI.law id row hrow).extends hextends⟩,
        fun d hd => hd.extends hextends, fun d hd => ?_⟩
      obtain ⟨c, rfl, rfl⟩ := Option.map_eq_some_iff.mp hd
      refine ChangeOf.extends hJ hextends fun hevent => ⟨event, ?_, hevent⟩
      exact List.mem_concat_self

theorem changeLaw_of_step (hJ : CallKept s c) (h : c.step lower s newId = some (s', c')) :
    ChangeLaw s c s' c' := by
  have hsame : s'.rows = s.rows → ∀ id row row', s.rows.get? id = some row →
      s'.rows.get? id = some row' → row' = row := by
    intro hrows id row row' hrow hrow'
    rw [hrows, hrow] at hrow'
    exact (Option.some.inj hrow').symm
  cases c with
  | creating =>
    rcases creating_cases h with ⟨rfl, rfl⟩ | ⟨hfree, -, -, ⟨e, rfl⟩, rfl⟩
    · exact ⟨.inl ⟨rfl, rfl⟩, fun id row row' hrow hrow' => .inl (hsame rfl id row row' hrow hrow')⟩
    · refine ⟨.inr rfl, fun id row row' hrow hrow' => .inl ?_⟩
      rw [Dict.get?_set_of_ne _ ?_, hrow] at hrow'
      · exact (Option.some.inj hrow').symm
      · rintro rfl
        cases hfree.symm.trans hrow
  | changing =>
    obtain ⟨rfl, hnext⟩ := changing_cases h
    refine ⟨?_, fun id row row' hrow hrow' => .inl (hsame rfl id row row' hrow hrow')⟩
    rcases hnext with rfl | ⟨_, _, _, _, _, _, _, _, _, rfl | ⟨-, rfl⟩⟩
    · exact .inl ⟨rfl, rfl⟩
    · exact .inr rfl
    · exact .inr rfl
  | updating change event =>
    cases h
    refine ⟨.inr ?_, fun id row row' hrow hrow' => ?_⟩
    · cases event <;> rfl
    · simp only [ProposalStore.updateProposal, Dict.get?_modify, hrow, Option.map_some,
        Option.some.injEq] at hrow'
      split_ifs at hrow' with hid hworkspace
      · exact .inr ⟨change, event, rfl, hid, hrow' ▸ hJ.version⟩
      · exact .inl hrow'.symm
      · exact .inl hrow'.symm
  | logging _ change =>
    cases h
    refine ⟨.inr ?_, fun id row row' hrow hrow' => .inl (hsame rfl id row row' hrow hrow')⟩
    cases change <;> simp [ProposalCall.pendingEvents]

end Run

/-- Outside the owner's classes only founders approve, no key of a dict is forbidden, and every step
belongs to a change with one event. -/
theorem proposalLaw_of_run (lower : Text → Text) {ls : List (CallLabel ProposalReq ℕ)}
    {s : InFlight ProposalStore ProposalCall}
    (hs : (proposals lower).system.run { store := {} } ls = some s) :
    (∀ id row, s.store.rows.get? id = some row → ProposalLaw lower s.store id row) ∧
      (proposals lower).system.Along (Service.Meets (ChangesRightly lower)) { store := {} } ls := by
  have hempty : Service.Inv (RowsKept lower) CallKept { store := {} } :=
    .of_empty ⟨nofun, nofun, nofun⟩
  refine ⟨((proposalRule lower).inv_of_run hempty hs).store.law, ?_⟩
  refine (proposalRule lower).along hempty
    (fun s c newId _ hJ _ s' c' h => changeLaw_of_step hJ h) ?_
  exact (proposals lower).system.along_true.mono _ fun s l _ => Service.meets_true s l

/-! ## A race -/

def startChange (op : ProposalOp) : CallLabel ProposalReq ℕ :=
  .start (.change op "ws" (some 1) "founder")

/-- A canary reads the draft, a rollback ends, and the canary is written. -/
def canaryRace : List (CallLabel ProposalReq ℕ) :=
  [.start (.create { workspaceId := "ws", createdBy := "owner", changeClass := "autonomy" }),
    .step 0 1, .step 0 0, startChange (.canary "sha" ["wa"]), .step 1 0, startChange .rollback,
    .step 2 0, .step 2 0, .step 2 0, .step 1 0, .step 1 0]

def afterRace : InFlight ProposalStore ProposalCall :=
  ((proposals id).system.run { store := {} } canaryRace).get (by decide +kernel)

theorem proposalLaw_of_run_race : (∀ i row, afterRace.store.rows.get? i = some row →
    ProposalLaw id afterRace.store i row) ∧
      (proposals id).system.Along (Service.Meets (ChangesRightly id)) { store := {} } canaryRace :=
  proposalLaw_of_run id (Option.some_get _).symm

/-- Where a proposal is updated, the row and what is written are so related. -/
def AtUpdate (P : ImprovementProposal → ImprovementProposal → Prop) (s : ProposalStore) :
    ProposalCall → ℕ → Prop
  | .updating change _, _ => ∀ row ∈ s.rows.get? change.written.proposalId, P row change.written
  | _, _ => True

instance (P : ImprovementProposal → ImprovementProposal → Prop) [DecidableRel P]
    (s : ProposalStore) : (c : ProposalCall) → (newId : ℕ) → Decidable (AtUpdate P s c newId)
  | .updating change _, _ =>
    inferInstanceAs (Decidable (∀ row ∈ s.rows.get? _, P row change.written))
  | .creating _, _ | .changing .., _ | .logging .., _ => instDecidableTrue

/-- A canary without approval, an ended proposal that goes on, a version that is not raised by one;
and a key in a list is not found. -/
theorem not_stated_race :
    ¬(proposals id).system.Along (Service.Meets (AtUpdate fun row p =>
      p.status = .canary → row.status = .approved)) { store := {} } canaryRace ∧
    ¬(proposals id).system.Along (Service.Meets (AtUpdate fun row p =>
      row.status = .rejected ∨ row.status = .rolledBack → p.status = row.status))
      { store := {} } canaryRace ∧
    ¬(proposals id).system.Along (Service.Meets (AtUpdate fun row p =>
      p.version = row.version + 1)) { store := {} } canaryRace ∧
    (scanForbidden id [] [(text "steps", .list [.dict [(text "api_key", .null)]])]).isOk := by
  decide +kernel

end JavisSaas.Agent.Workforce
