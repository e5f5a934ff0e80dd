import JavisSaas.Lib.Histories
import JavisSaas.Lib.Transition
import JavisSaas.Agent.Sync.Envelopes

/-!
# Replicas of a critical entity

Replicas edit one entity, whose conflicts are resolved by hand, and exchange envelopes, which may
come late, again or out of order. The decision compares two revisions, which every replica counts
on its own, and the file of a conflict is named after the revision.

* `conflictLaw_along`: no diverged envelope is applied or dropped, and every conflict keeps its
  record, if such envelopes are ahead and based on another number and no file is in the way.
* `not_conflictLaw_equalRevisions`: two replicas make the same revision.
-/

namespace JavisSaas.Agent.Sync

open JavisSaas.Lib

variable {P : Type}

/-! ## The system -/

/-- A version of the entity; its author gives a revision once. -/
structure Version (P : Type) where
  revision : ℤ
  author : String
  payload : P
  deriving DecidableEq

abbrev History (P : Type) := List (Version P)

/-- The revision of a replica, which has 0 of an entity without versions. -/
def History.revision (h : History P) : ℤ := top Version.revision 0 h

/-- An envelope with the history of its content, and with the version that it is based on. -/
structure Sent (P : Type) where
  envelope : SyncEnvelope
  history : History P
  base : History P

/-- A delivery to a replica, with its history before and after. -/
structure Delivery (P : Type) where
  node : String
  sent : Sent P
  before : History P
  after : History P
  resolution : Except SyncError ConflictResolution
  conflict : Conflict

/-- The entity, and the functions that the envelopes and files are made with. -/
structure Entity (P : Type) where
  workspaceId : String
  entityType : String
  entityId : String
  payloadHash : P → String
  isAlnum : Char → Bool

structure SyncState (P : Type) where
  histories : Dict String (History P) := ∅
  sent : List (Sent P) := []
  /-- The files in `sync/conflicts/` of every replica. -/
  conflicts : Dict String (Dict String ConflictRecord) := ∅
  deliveries : List (Delivery P) := []

namespace SyncState

variable (s : SyncState P)

def historyOf (node : String) : History P := (s.histories.get? node).getD []

def conflictsOf (node : String) : Dict String ConflictRecord := (s.conflicts.get? node).getD ∅

end SyncState

inductive SyncOp (P : Type)
  | edit (node : String) (revision : ℤ) (payload : P)
  /-- An envelope of the current version, based on the one that many versions ago. -/
  | send (node : String) (versions : ℕ) (occurredAt idempotencyKey : String)
      (encryptedPayload : Except SyncError String)
  | deliver (node : String) (i : ℕ) (localPayloadHash : Option String) (detectedAt : String)

/-- An envelope that arrives: its content is taken, or its conflict is written, as resolved. -/
def deliver (entity : Entity P) (s : SyncState P) (node : String) (sent : Sent P)
    (localPayloadHash : Option String) (detectedAt : String) : SyncState P :=
  let before := s.historyOf node
  let resolution := resolveIncomingRevision sent.envelope before.revision
  let delivered (after : History P) : Delivery P :=
    ⟨node, sent, before, after, resolution,
      conflictOf sent.envelope before.revision localPayloadHash⟩
  match resolution with
  | .ok .apply | .ok .applyWithAudit =>
    { s with
      histories := s.histories.set node sent.history
      deliveries := s.deliveries ++ [delivered sent.history] }
  | .ok .queueConflict =>
    { s with
      conflicts := s.conflicts.set node (writeConflictEntry entity.isAlnum (s.conflictsOf node)
        sent.envelope before.revision localPayloadHash detectedAt)
      deliveries := s.deliveries ++ [delivered before] }
  | .ok .ignoreStale | .error _ => { s with deliveries := s.deliveries ++ [delivered before] }

def next (entity : Entity P) (s : SyncState P) : SyncOp P → Option (SyncState P)
  | .edit node revision payload =>
    if (s.historyOf node).revision < revision then
      some { s with
        histories := s.histories.set node (⟨revision, node, payload⟩ :: s.historyOf node) }
    else none
  | .send node versions occurredAt idempotencyKey encryptedPayload =>
    match s.historyOf node with
    | [] => none
    | version :: older =>
      let history : History P := version :: older
      let base : History P := history.drop versions
      let input : BuildInput :=
        { workspaceId := entity.workspaceId
          entityType := entity.entityType
          entityId := entity.entityId
          revision := history.revision
          baseRevision := base.revision
          sourceRuntimeNodeId := node
          occurredAt
          idempotencyKey }
      match buildSyncEnvelope input (entity.payloadHash version.payload) encryptedPayload with
      | .ok envelope => some { s with sent := s.sent ++ [⟨envelope, history, base⟩] }
      | .error _ => some s
  | .deliver node i localPayloadHash detectedAt =>
    (s.sent[i]?).map fun sent => deliver entity s node sent localPayloadHash detectedAt

def system (entity : Entity P) : System (SyncState P) (SyncOp P) := ⟨next entity⟩

/-! ## The law and its condition -/

/-- One of the files of the replica is the record of the conflict. -/
def Recorded (s : SyncState P) (node : String) (conflict : Conflict) : Prop :=
  ∃ file record, (s.conflictsOf node).get? file = some record ∧ record.toConflict = conflict

structure ConflictLaw (s : SyncState P) : Prop where
  /-- The content is replaced by what is based on it. -/
  replaced : ∀ d ∈ s.deliveries, d.after ≠ d.before →
    d.sent.base = d.before ∧ d.after = d.sent.history
  /-- What has diverged is queued, and neither applied nor dropped. -/
  queued : ∀ d ∈ s.deliveries, Diverged d.sent.history d.before →
    d.resolution = .ok .queueConflict
  recorded : ∀ d ∈ s.deliveries, d.resolution = .ok .queueConflict →
    Recorded s d.node d.conflict

/-- A diverged envelope is ahead of the replica, and not based on its number. -/
def TellsApart (s : SyncState P) (node : String) (sent : Sent P) : Prop :=
  Diverged sent.history (s.historyOf node) →
    (s.historyOf node).revision < sent.envelope.revision ∧
      sent.envelope.baseRevision ≠ (s.historyOf node).revision

/-- The file of a conflict is a new one, or has a record of that same conflict. -/
def HasRoom (entity : Entity P) (s : SyncState P) (node : String) (sent : Sent P)
    (localPayloadHash : Option String) : Prop :=
  (s.historyOf node).revision < sent.envelope.revision →
    sent.envelope.baseRevision ≠ (s.historyOf node).revision →
    ∀ record ∈ (s.conflictsOf node).get? (conflictFile entity.isAlnum sent.envelope),
      record.toConflict =
        conflictOf sent.envelope (s.historyOf node).revision localPayloadHash
deriving Decidable

def Apart (entity : Entity P) (s : SyncState P) : SyncOp P → Prop
  | .deliver node i localPayloadHash _ => ∀ sent ∈ s.sent[i]?,
    TellsApart s node sent ∧ HasRoom entity s node sent localPayloadHash
  | _ => True

section Decidability

variable [DecidableEq P]

instance (s : SyncState P) (node : String) (sent : Sent P) : Decidable (TellsApart s node sent) :=
  inferInstanceAs (Decidable (_ → _ ∧ _))

instance (entity : Entity P) (s : SyncState P) (op : SyncOp P) : Decidable (Apart entity s op) := by
  unfold Apart
  split <;> infer_instance

end Decidability

/-! ## Invariants -/

/-- An envelope is what its history says. -/
structure Sent.Honest (entity : Entity P) (sent : Sent P) : Prop where
  numbered : Numbered Version.revision 0 sent.history
  based : sent.base <:+ sent.history
  revision : sent.envelope.revision = sent.history.revision
  baseRevision : sent.envelope.baseRevision = sent.base.revision
  entityType : sent.envelope.entityType = entity.entityType

structure SyncInv (entity : Entity P) (s : SyncState P) : Prop where
  numbered : ∀ node, Numbered Version.revision 0 (s.historyOf node)
  honest : ∀ sent ∈ s.sent, sent.Honest entity
  law : ConflictLaw s

theorem SyncInv.init (entity : Entity P) : SyncInv entity {} where
  numbered _ := trivial
  honest _ h := nomatch h
  law := ⟨fun _ h => (nomatch h), fun _ h => (nomatch h), fun _ h => (nomatch h)⟩

section Steps

variable {entity : Entity P} {s s' : SyncState P}

theorem historyOf_set (s : SyncState P) (node node' : String) (h : History P) :
    ((s.histories.set node h).get? node').getD [] = if node = node' then h else s.historyOf node' := by
  rw [Dict.get?_set]
  split_ifs <;> rfl

theorem SyncInv.edit {node : String} {revision : ℤ} {payload : P} (hinv : SyncInv entity s)
    (h : next entity s (.edit node revision payload) = some s') : SyncInv entity s' := by
  obtain ⟨hlt, h⟩ := Option.ite_none_right_eq_some.mp h
  cases h
  refine ⟨fun node' => ?_, hinv.honest, hinv.law.replaced, hinv.law.queued, hinv.law.recorded⟩
  show Numbered _ _ (((s.histories.set node _).get? node').getD [])
  rw [historyOf_set]
  split_ifs
  · exact ⟨hlt, hinv.numbered node⟩
  · exact hinv.numbered node'

theorem built {input : BuildInput} {payloadHash : String} {encrypted : Except SyncError String}
    {envelope : SyncEnvelope} (h : buildSyncEnvelope input payloadHash encrypted = .ok envelope) :
    envelope.revision = input.revision ∧ envelope.baseRevision = input.baseRevision ∧
      envelope.entityType = input.entityType := by
  have h := of_require h
  have h := of_require h
  obtain ⟨_, h⟩ := of_bind h
  cases h
  exact ⟨rfl, rfl, rfl⟩

theorem SyncInv.send {node : String} {versions : ℕ} {occurredAt key : String}
    {encrypted : Except SyncError String} (hinv : SyncInv entity s)
    (h : next entity s (.send node versions occurredAt key encrypted) = some s') :
    SyncInv entity s' := by
  have hnumbered := hinv.numbered node
  unfold next at h
  dsimp only at h
  split at h
  case h_1 => nomatch h
  case h_2 version older hhistory =>
    rw [hhistory] at hnumbered
    split at h
    case h_2 => exact Option.some.inj h ▸ hinv
    case h_1 envelope hbuilt =>
      cases h
      obtain ⟨hrevision, hbase, htype⟩ := built hbuilt
      refine ⟨hinv.numbered, fun sent hsent => ?_, hinv.law.replaced, hinv.law.queued,
        hinv.law.recorded⟩
      rcases mem_concat hsent with hsent | rfl
      · exact hinv.honest sent hsent
      · exact ⟨hnumbered, List.drop_suffix versions _, hrevision, hbase, htype⟩

theorem resolve_critical {incoming : SyncEnvelope} {r : ℤ}
    (h : (scopeFor incoming.entityType).conflictPolicy = .humanResolve) :
    resolveIncomingRevision incoming r = .ok (
      if incoming.revision ≤ r then .ignoreStale
      else if incoming.baseRevision = r then .apply else .queueConflict) := by
  unfold resolveIncomingRevision
  simp only [h]
  rw [require, if_pos (by decide)]
  show (if _ then _ else _) = _
  split_ifs <;> rfl

theorem ConflictLaw.append {d : Delivery P} (hlaw : ConflictLaw s)
    (hdeliveries : s'.deliveries = s.deliveries ++ [d])
    (hkept : ∀ node conflict, Recorded s node conflict → Recorded s' node conflict)
    (hreplaced : d.after ≠ d.before → d.sent.base = d.before ∧ d.after = d.sent.history)
    (hqueued : Diverged d.sent.history d.before → d.resolution = .ok .queueConflict)
    (hrecorded : d.resolution = .ok .queueConflict → Recorded s' d.node d.conflict) :
    ConflictLaw s' := by
  refine ⟨fun d' hd' => ?_, fun d' hd' => ?_, fun d' hd' => ?_⟩ <;>
    rw [hdeliveries, List.mem_append, List.mem_singleton] at hd' <;>
    rcases hd' with hd' | rfl
  · exact hlaw.replaced d' hd'
  · exact hreplaced
  · exact hlaw.queued d' hd'
  · exact hqueued
  · exact fun hq => hkept _ _ (hlaw.recorded d' hd' hq)
  · exact hrecorded

/-- A conflict that is written where there is room for it leaves the others recorded. -/
theorem recorded_write {node : String} {sent : Sent P} {localPayloadHash : Option String}
    {detectedAt : String} (hs' : s'.conflicts = s.conflicts.set node
      (writeConflictEntry entity.isAlnum (s.conflictsOf node) sent.envelope
        (s.historyOf node).revision localPayloadHash detectedAt))
    (hroom : ∀ record ∈ (s.conflictsOf node).get? (conflictFile entity.isAlnum sent.envelope),
      record.toConflict = conflictOf sent.envelope (s.historyOf node).revision localPayloadHash) :
    Recorded s' node (conflictOf sent.envelope (s.historyOf node).revision localPayloadHash) ∧
      ∀ node' conflict, Recorded s node' conflict → Recorded s' node' conflict := by
  have hfiles : ∀ node', s'.conflictsOf node' = if node = node' then
      writeConflictEntry entity.isAlnum (s.conflictsOf node) sent.envelope
        (s.historyOf node).revision localPayloadHash detectedAt else s.conflictsOf node' := by
    intro node'
    rw [SyncState.conflictsOf, hs', Dict.get?_set]
    split_ifs <;> rfl
  have hnew : Recorded s' node
      (conflictOf sent.envelope (s.historyOf node).revision localPayloadHash) :=
    ⟨_, _, by rw [hfiles, if_pos rfl, writeConflictEntry, Dict.get?_set_self], rfl⟩
  refine ⟨hnew, fun node' conflict => ?_⟩
  rintro ⟨file, record, hrecord, rfl⟩
  by_cases hnode : node = node'
  · subst hnode
    by_cases hfile : conflictFile entity.isAlnum sent.envelope = file
    · subst hfile
      rw [hroom record hrecord]
      exact hnew
    · refine ⟨file, record, ?_, rfl⟩
      rw [hfiles, if_pos rfl, writeConflictEntry, Dict.get?_set_of_ne _ hfile, hrecord]
  · refine ⟨file, record, ?_, rfl⟩
    rw [hfiles, if_neg hnode, hrecord]

theorem SyncInv.deliver {node : String} {sent : Sent P} {localPayloadHash : Option String}
    {detectedAt : String} (hcritical : (scopeFor entity.entityType).conflictPolicy = .humanResolve)
    (hinv : SyncInv entity s) (hsent : sent ∈ s.sent) (happart : TellsApart s node sent)
    (hroom : HasRoom entity s node sent localPayloadHash) :
    SyncInv entity (deliver entity s node sent localPayloadHash detectedAt) := by
  have hhonest := hinv.honest sent hsent
  rw [← hhonest.entityType] at hcritical
  unfold Sync.deliver
  dsimp only
  rw [resolve_critical hcritical]
  unfold TellsApart at happart
  unfold HasRoom at hroom
  split_ifs with hstale hbase
  · refine ⟨hinv.numbered, hinv.honest, hinv.law.append rfl (fun _ _ h => h)
      (fun h => absurd rfl h) (fun hdiv => ?_) (fun h => nomatch h)⟩
    exact absurd hstale (Int.not_le.mpr (happart hdiv).1)
  · have hdiv : ¬ Diverged sent.history (s.historyOf node) := fun hdiv => (happart hdiv).2 hbase
    have hsuffix : s.historyOf node <:+ sent.history := by
      rw [hhonest.revision] at hstale
      exact (hinv.numbered node).suffix_of_lt_top hdiv (Int.not_le.mp hstale)
    have heq : sent.base = s.historyOf node :=
      hhonest.numbered.eq_of_top_eq hhonest.based hsuffix (hhonest.baseRevision.symm.trans hbase)
    refine ⟨fun node' => ?_, hinv.honest, hinv.law.append rfl (fun _ _ h => h)
      (fun _ => ⟨heq, rfl⟩) (fun h => absurd h hdiv) (fun h => nomatch h)⟩
    show Numbered _ _ (((s.histories.set node _).get? node').getD [])
    rw [historyOf_set]
    split_ifs
    · exact hhonest.numbered
    · exact hinv.numbered node'
  · have hfile := hroom (Int.not_le.mp hstale) hbase
    exact ⟨hinv.numbered, hinv.honest, hinv.law.append rfl (recorded_write rfl hfile).2
      (fun h => absurd rfl h) (fun _ => rfl) (fun _ => (recorded_write rfl hfile).1)⟩

theorem SyncInv.next {op : SyncOp P}
    (hcritical : (scopeFor entity.entityType).conflictPolicy = .humanResolve)
    (hinv : SyncInv entity s) (hop : Apart entity s op) (h : next entity s op = some s') :
    SyncInv entity s' := by
  cases op with
  | edit => exact hinv.edit h
  | send => exact hinv.send h
  | deliver =>
    obtain ⟨sent, hsent, rfl⟩ := Option.map_eq_some_iff.mp h
    obtain ⟨happart, hroom⟩ := hop sent hsent
    exact hinv.deliver hcritical (List.mem_of_getElem? hsent) happart hroom

end Steps

/-- While numbers tell diverged envelopes and files tell conflicts, no diverged one is applied or
lost. -/
theorem conflictLaw_along (entity : Entity P)
    (hcritical : (scopeFor entity.entityType).conflictPolicy = .humanResolve)
    (ops : List (SyncOp P)) (s : SyncState P) (hrun : (system entity).run {} ops = some s)
    (hops : (system entity).Along (Apart entity) {} ops) : ConflictLaw s :=
  have hinv : SyncInv entity s := (system entity).inv_of_along
    (fun _ _ _ hinv hop h => hinv.next hcritical hop h) (.init entity) hops hrun
  hinv.law

/-! ## Runs -/

def invoice : Entity String := ⟨"ws", "invoice", "inv-1", fun payload => payload, Char.isAlphanum⟩

/-- An envelope of the current version, based on the one before. -/
def send (node : String) : SyncOp String := .send node 1 "t" "key" (.ok "sealed")

/-- One envelope is applied and delivered again, and the next one finds another version. -/
def editedTwice : List (SyncOp String) :=
  [.edit "a" 1 "draft", send "a", .deliver "b" 0 none "t1", .deliver "b" 0 none "t2",
    .edit "b" 2 "paid", .edit "a" 3 "void", send "a", .deliver "b" 1 (some "paid") "t3"]

theorem conflictLaw_along_editedTwice :
    ∃ s, (system invoice).run {} editedTwice = some s ∧
      s.deliveries.map (·.resolution) = [.ok .apply, .ok .ignoreStale, .ok .queueConflict] ∧
      ConflictLaw s :=
  let h : ((system invoice).run {} editedTwice).isSome := by decide +kernel
  ⟨_, (Option.some_get h).symm, by decide +kernel, conflictLaw_along invoice (by decide +kernel)
    editedTwice _ (Option.some_get h).symm (by decide +kernel)⟩

/-- Two replicas make their first versions, and one hears of the other. -/
def equalRevisions : List (SyncOp String) :=
  [.edit "a" 1 "paid", .edit "b" 1 "void", send "a", .deliver "b" 0 (some "void") "t"]

theorem not_conflictLaw_equalRevisions :
    ¬ ∀ (entity : Entity String), (scopeFor entity.entityType).conflictPolicy = .humanResolve →
      ∀ ops s, (system entity).run {} ops = some s → ConflictLaw s := by
  intro hlaw
  have hrun : ((system invoice).run {} equalRevisions).isSome := by decide +kernel
  have hdropped : ∀ d ∈ (((system invoice).run {} equalRevisions).get
      (by decide +kernel)).deliveries, d.resolution = .ok .ignoreStale ∧
        Diverged d.sent.history d.before := by decide +kernel
  have hdelivered : (((system invoice).run {} equalRevisions).get
      (by decide +kernel)).deliveries ≠ [] := by decide +kernel
  obtain ⟨d, hd⟩ := List.exists_mem_of_ne_nil _ hdelivered
  have hqueued := (hlaw invoice (by decide +kernel) equalRevisions _
    (Option.some_get hrun).symm).queued d hd (hdropped d hd).2
  nomatch (hdropped d hd).1.symm.trans hqueued

end JavisSaas.Agent.Sync
