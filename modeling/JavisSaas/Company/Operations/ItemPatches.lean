import JavisSaas.Company.Operations.ExecutionPlanCalls

/-!
# Patches of plan items

`patchExecutionPlanItemService` as one operation. A patch may not make an item `AUTO` when a policy
of the workspace gave the item its class; it takes that from the source of the last change.

* `neverAuto_iff`: an item that may not be `AUTO` never is one if and only if no patch asks for it
  after a patch that changed the class.
* `not_neverAuto_relabelled`: a denied item that becomes `AUTO` with the second patch.
-/

namespace JavisSaas.Company.Operations

open JavisSaas.Lib

/-! ## `patchExecutionPlanItemService` (lines 495–570) -/

def patchExecutionPlanItemService (db : PlanDb) (p : PatchParams) : Except ApiError PlanDb := do
  let _ ← patchablePlan db p
  let changes ← patchChanges db p
  return writePatch db p.itemId changes

/-- A patch that is refused changes nothing. -/
def patched (db : PlanDb) (p : PatchParams) : PlanDb :=
  (patchExecutionPlanItemService db p).toOption.getD db

/-- The patches, one after the other. -/
def patchedAll (db : PlanDb) (ps : List PatchParams) : PlanDb := ps.foldl patched db

/-! ## The law -/

/-- A policy of the workspace denies the capability of the item, or requires approval. -/
def Restricted (policy : String → Option TenantPolicyDecision) (it : ExecutionPlanItem) : Prop :=
  ∃ cap, it.expectedCapability = some cap ∧
    (policy cap = some .deny ∨ policy cap = some .requireApproval)

/-- After no number of the patches is the item `AUTO`. -/
def NeverAuto (db : PlanDb) (itemId : ℕ) (ps : List PatchParams) : Prop :=
  ∀ qs, qs <+: ps → ∀ row, (patchedAll db qs).items.get? itemId = some row →
    row.autonomyClass ≠ .auto

/-- The patch is one of the item, in its plan and workspace, with a valid title. -/
def Addresses (it : ExecutionPlanItem) (p : PatchParams) : Prop :=
  p.planId = it.planId ∧ p.itemId = it.id ∧ p.workspaceId = it.workspaceId ∧
    p.patch.title.map trimmed ≠ some ""
deriving Decidable

/-- The patch asks for a class that is neither `AUTO` nor the one the item was created with. -/
def Relabels (it : ExecutionPlanItem) (p : PatchParams) : Prop :=
  Addresses it p ∧ p.patch.autonomyClass ∉ [none, some .auto, some it.autonomyClass]
deriving Decidable

def AsksAuto (it : ExecutionPlanItem) (p : PatchParams) : Prop :=
  Addresses it p ∧ p.patch.autonomyClass = some .auto
deriving Decidable

/-- No patch asks for `AUTO` after one that changed the class. -/
def NoAutoAfterRelabel (it : ExecutionPlanItem) (ps : List PatchParams) : Prop :=
  ps.Pairwise fun p q => Relabels it p → ¬AsksAuto it q
deriving Decidable

/-! ## One patch -/

/-- The class and its source in a row. -/
def ExecutionPlanItem.state (row : ExecutionPlanItem) : AutonomyClass × AutonomyClassSource :=
  (row.autonomyClass, row.autonomyClassSource)

/-- The row of the item `it`, as far as the patches of its class read it. -/
structure ItemState (db : PlanDb) (it : ExecutionPlanItem)
    (state : AutonomyClass × AutonomyClassSource) : Prop where
  plan : ∃ plan, db.plans.get? it.planId = some plan ∧ plan.workspaceId = it.workspaceId ∧
    plan.status = .draft
  row : ∃ row, db.items.get? it.id = some row ∧ row.planId = it.planId ∧
    row.expectedCapability = it.expectedCapability ∧
    row.state = state

/-- `checkAuto` lets the class become `AUTO`. -/
def AutoAllowed (capability : Option String) (source : AutonomyClassSource) : Prop :=
  source ≠ .tenantPolicy ∧ validateFounderOverride .auto ⟨capability, none, some .allow⟩ = none
deriving Decidable

/-- The class and its source after a patch of the item that wants a class. -/
def nextState (capability : Option String) (wanted : Option AutonomyClass)
    (state : AutonomyClass × AutonomyClassSource) : AutonomyClass × AutonomyClassSource :=
  match wanted.filter (· ≠ state.1) with
  | none => state
  | some c => if c = .auto ∧ ¬AutoAllowed capability state.2 then state else (c, .founderOverride)

section Patch

variable {db db' : PlanDb} {it : ExecutionPlanItem} {p : PatchParams}
  {state : AutonomyClass × AutonomyClassSource}

variable {row : ExecutionPlanItem} {patch : PatchPlanItemInput}

theorem checkAuto_eq_ok {u : Unit} : checkAuto row = .ok u ↔
    AutoAllowed row.expectedCapability row.autonomyClassSource := by
  unfold checkAuto AutoAllowed
  rw [require_bind_eq_ok]
  refine and_congr_right fun _ => ?_
  split
  · next reason hreason =>
    refine iff_of_false (fun h => nomatch h) fun h => ?_
    nomatch hreason.symm.trans h
  · next hnone => exact ⟨fun _ => hnone, fun _ => rfl⟩

theorem validateFounderOverride_auto {capability : Option String} :
    validateFounderOverride .auto ⟨capability, none, some .allow⟩ = none ↔
      MayBeAuto capability := by
  refine ⟨mayBeAuto_of_validateFounderOverride, fun h => ?_⟩
  obtain ⟨cap, rfl, hne, hallowed⟩ := h
  have hcap : (⟨some cap, none, some .allow⟩ : ClassifyInput).capability? = some cap :=
    capability?_eq_some.mpr ⟨rfl, hne⟩
  simp [validateFounderOverride, hcap, hallowed]

theorem patchExecutionPlanItemService_eq_ok : patchExecutionPlanItemService db p = .ok db' ↔
    ∃ plan changes, patchablePlan db p = .ok plan ∧ patchChanges db p = .ok changes ∧
      writePatch db p.itemId changes = db' := by
  unfold patchExecutionPlanItemService
  simp only [bind_eq_ok, pure_eq_ok, exists_and_left]

theorem patchablePlan_eq_ok {plan : ExecutionPlan} : patchablePlan db p = .ok plan ↔
    db.plans.get? p.planId = some plan ∧ plan.workspaceId = p.workspaceId ∧
      plan.status = .draft := by
  unfold patchablePlan
  cases hplan : (db.plans.get? p.planId).filter fun plan => plan.workspaceId = p.workspaceId with
  | none =>
    refine iff_of_false (fun h => nomatch h) fun ⟨hget, hworkspace, _⟩ => ?_
    rw [hget, Option.filter_some, if_pos (decide_eq_true hworkspace)] at hplan
    nomatch hplan
  | some =>
    obtain ⟨hget, hworkspace⟩ := Option.filter_eq_some_iff.mp hplan
    simp only [require_bind_eq_ok, pure_eq_ok]
    constructor
    · rintro ⟨hdraft, rfl⟩
      exact ⟨hget, of_decide_eq_true hworkspace, hdraft⟩
    · rintro ⟨hget', -, hdraft⟩
      cases hget.symm.trans hget'
      exact ⟨hdraft, rfl⟩

theorem patchChanges_eq_ok {changes : PatchPlanItemInput} : patchChanges db p = .ok changes ↔
    ∃ row, db.items.get? p.itemId = some row ∧ row.planId = p.planId ∧
      p.patch.title.map trimmed ≠ some "" ∧ checkNewClass p.patch row = .ok () ∧
      { p.patch with
        title := p.patch.title.map trimmed, autonomyClass := p.patch.newClass row } = changes := by
  unfold patchChanges
  cases hrow : (db.items.get? p.itemId).filter fun row => row.planId = p.planId with
  | none =>
    refine iff_of_false (fun h => nomatch h) ?_
    rintro ⟨row, hget, hplan, -⟩
    rw [hget, Option.filter_some, if_pos (decide_eq_true hplan)] at hrow
    nomatch hrow
  | some row' =>
    obtain ⟨hget, hplan⟩ := Option.filter_eq_some_iff.mp hrow
    simp only [require_bind_eq_ok]
    constructor
    · rintro ⟨htitle, h⟩
      obtain ⟨_, hcheck, h⟩ := bind_eq_ok.mp h
      exact ⟨row', hget, of_decide_eq_true hplan, htitle, hcheck, pure_eq_ok.mp h⟩
    · rintro ⟨row, hget', -, htitle, hcheck, rfl⟩
      cases hget.symm.trans hget'
      exact ⟨htitle, bind_eq_ok.mpr ⟨(), hcheck, rfl⟩⟩

theorem writePatch_of_get? {itemId : ℕ} (h : db.items.get? itemId = some row)
    (c : PatchPlanItemInput) :
    writePatch db itemId c = { db with items := db.items.set itemId (c.apply row) } := by
  rw [writePatch, h]

theorem checkNewClass_eq_ok {u : Unit} :
    checkNewClass patch row = .ok u ↔ (patch.newClass row = some .auto →
      AutoAllowed row.expectedCapability row.autonomyClassSource) := by
  unfold checkNewClass
  split_ifs with hauto
  · rw [checkAuto_eq_ok]
    exact ⟨fun h _ => h, fun h => h hauto⟩
  · exact ⟨fun _ h => absurd h hauto, fun _ => rfl⟩

theorem state_apply {title : Option String} (h : checkNewClass patch row = .ok ()) :
    (PatchPlanItemInput.apply { patch with title, autonomyClass := patch.newClass row } row).state =
      nextState row.expectedCapability patch.autonomyClass row.state := by
  rw [checkNewClass_eq_ok] at h
  change _ = (match patch.newClass row with
    | none => row.state
    | some c => if c = AutonomyClass.auto ∧ ¬AutoAllowed row.expectedCapability row.autonomyClassSource
      then row.state else (c, .founderOverride))
  unfold PatchPlanItemInput.apply ExecutionPlanItem.state
  cases hclass : patch.newClass row with
  | none => rfl
  | some c =>
    rw [hclass] at h
    have hallowed : ¬(c = .auto ∧ ¬AutoAllowed row.expectedCapability row.autonomyClassSource) :=
      fun hc => hc.2 (h (congrArg some hc.1))
    exact (if_neg hallowed).symm

theorem nextState_of_refused (h : checkNewClass patch row ≠ .ok ()) :
    nextState row.expectedCapability patch.autonomyClass row.state = row.state := by
  rw [Ne, checkNewClass_eq_ok, Classical.not_imp] at h
  obtain ⟨hclass, hrefused⟩ := h
  change (match patch.newClass row with
    | none => row.state
    | some c => if c = AutonomyClass.auto ∧ ¬AutoAllowed row.expectedCapability row.autonomyClassSource
      then row.state else (c, .founderOverride)) = _
  rw [hclass]
  exact if_pos ⟨rfl, hrefused⟩

/-- What one patch makes of the class of an item: nothing, if it is not one of the item. -/
theorem itemState_patched (h : ItemState db it state) (p : PatchParams) :
    ItemState (patched db p) it (if Addresses it p
      then nextState it.expectedCapability p.patch.autonomyClass state else state) := by
  obtain ⟨⟨plan, hplan, hworkspace, hdraft⟩, row, hrow, hof, hcap, rfl⟩ := h
  unfold patched
  cases hpatch : patchExecutionPlanItemService db p with
  | error =>
    refine ⟨⟨plan, hplan, hworkspace, hdraft⟩, row, hrow, hof, hcap, ?_⟩
    split_ifs with haddr
    · obtain ⟨hplanId, hitemId, hws, htitle⟩ := haddr
      rw [← hcap]
      refine (nextState_of_refused fun hcheck => ?_).symm
      -- nothing else could have refused it
      have hok := patchExecutionPlanItemService_eq_ok.mpr ⟨plan, _,
        patchablePlan_eq_ok.mpr ⟨hplanId ▸ hplan, hworkspace.trans hws.symm, hdraft⟩,
        patchChanges_eq_ok.mpr ⟨row, hitemId ▸ hrow, hof.trans hplanId.symm, htitle, hcheck, rfl⟩,
        rfl⟩
      nomatch hpatch.symm.trans hok
    · rfl
  | ok =>
    obtain ⟨plan', changes, hplan', hchanges, rfl⟩ := patchExecutionPlanItemService_eq_ok.mp hpatch
    obtain ⟨row', hrow', hof', htitle, hcheck, rfl⟩ := patchChanges_eq_ok.mp hchanges
    obtain ⟨hget', hws', -⟩ := patchablePlan_eq_ok.mp hplan'
    show ItemState (writePatch db p.itemId _) it _
    rw [writePatch_of_get? hrow']
    by_cases hid : p.itemId = it.id
    · cases hrow.symm.trans (hid ▸ hrow')
      have hplanId : p.planId = it.planId := hof'.symm.trans hof
      cases hplan.symm.trans (hplanId ▸ hget')
      rw [if_pos ⟨hplanId, hid, hws'.symm.trans hworkspace, htitle⟩]
      rw [hid, ← hcap, ← state_apply hcheck]
      exact ⟨⟨plan, hplan, hworkspace, hdraft⟩, _, Dict.get?_set_self db.items it.id _, hof, hcap, rfl⟩
    · rw [if_neg (fun haddr => hid haddr.2.1)]
      refine ⟨⟨plan, hplan, hworkspace, hdraft⟩, row, ?_, hof, hcap, rfl⟩
      exact (Dict.get?_set_of_ne _ hid _).trans hrow

end Patch

/-! ## The next class -/

section NextState

variable {capability : Option String} {wanted : Option AutonomyClass} {k : AutonomyClass}
  {source : AutonomyClassSource}

theorem nextState_some {c : AutonomyClass} : nextState capability (some c) (k, source) =
    if c = k then (k, source)
    else if c = .auto ∧ ¬AutoAllowed capability source then (k, source)
    else (c, .founderOverride) := by
  unfold nextState
  by_cases hck : c = k <;> simp [Option.filter_some, hck]

variable (capability wanted)

theorem nextState_tenantPolicy (hk : k ≠ .auto) : ∃ c, c ≠ .auto ∧
    nextState capability wanted (k, .tenantPolicy) =
      if wanted ∉ [none, some .auto, some k] then (c, .founderOverride) else (k, .tenantPolicy) := by
  have hrefused : ¬AutoAllowed capability .tenantPolicy := fun h => h.1 rfl
  cases wanted with
  | none => exact ⟨k, hk, rfl⟩
  | some c =>
    rw [nextState_some]
    by_cases hck : c = k
    · exact ⟨k, hk, by simp [hck]⟩
    · by_cases hauto : c = .auto
      · exact ⟨k, hk, by simp [hauto, hrefused]⟩
      · exact ⟨c, hauto, by simp [hck, hauto]⟩

/-- After a change of the class, a patch that asks for `AUTO` gets it. -/
theorem nextState_founderOverride (hk : k ≠ .auto) (hmay : MayBeAuto capability) :
    ∃ c, (c = .auto ↔ wanted = some .auto) ∧
      nextState capability wanted (k, .founderOverride) = (c, .founderOverride) := by
  have hallowed : AutoAllowed capability .founderOverride :=
    ⟨(fun h => nomatch h), validateFounderOverride_auto.mpr hmay⟩
  cases wanted with
  | none => exact ⟨k, by simp [hk], rfl⟩
  | some c =>
    rw [nextState_some]
    by_cases hck : c = k
    · exact ⟨k, by simp [hck], by simp [hck]⟩
    · exact ⟨c, by simp, by simp [hck, hallowed]⟩

variable {capability wanted}

theorem nextState_ne_auto (hk : k ≠ .auto) (hmay : ¬MayBeAuto capability) :
    (nextState capability wanted (k, source)).1 ≠ .auto := by
  have hrefused : ¬AutoAllowed capability source :=
    fun h => hmay (validateFounderOverride_auto.mp h.2)
  unfold nextState
  split
  · exact hk
  · split_ifs with hc
    · exact hk
    · exact fun hauto => hc ⟨hauto, hrefused⟩

end NextState

/-! ## Sequences of patches -/

section Sequences

variable {db : PlanDb} {it : ExecutionPlanItem} {ps : List PatchParams} {k : AutonomyClass}
  {source : AutonomyClassSource}

theorem ne_auto_of_itemState (h : ItemState db it (k, source)) (hk : k ≠ .auto)
    {row : ExecutionPlanItem} (hrow : db.items.get? it.id = some row) :
    row.autonomyClass ≠ .auto := by
  obtain ⟨row', hrow', -, -, hstate⟩ := h.row
  cases hrow.symm.trans hrow'
  rw [(Prod.mk.inj hstate).1]
  exact hk

theorem neverAuto_cons (h : ItemState db it (k, source)) (hk : k ≠ .auto) {p : PatchParams} :
    NeverAuto db it.id (p :: ps) ↔ NeverAuto (patched db p) it.id ps := by
  unfold NeverAuto
  constructor
  · intro hnever qs hqs
    exact hnever (p :: qs) (List.cons_prefix_cons.mpr ⟨rfl, hqs⟩)
  · intro hnever qs hqs row hrow
    rcases List.prefix_cons_iff.mp hqs with rfl | ⟨qs', rfl, hqs'⟩
    · exact ne_auto_of_itemState h hk hrow
    · exact hnever qs' hqs' row hrow

theorem neverAuto_nil (h : ItemState db it (k, source)) (hk : k ≠ .auto) :
    NeverAuto db it.id [] := by
  intro qs hqs row hrow
  obtain rfl := List.prefix_nil.mp hqs
  exact ne_auto_of_itemState h hk hrow

/-- Once a patch has changed the class, nothing keeps another one from `AUTO`. -/
theorem neverAuto_of_founderOverride (h : ItemState db it (k, .founderOverride)) (hk : k ≠ .auto)
    (hmay : MayBeAuto it.expectedCapability) :
    NeverAuto db it.id ps ↔ ∀ q ∈ ps, ¬AsksAuto it q := by
  induction ps generalizing db k with
  | nil => exact iff_of_true (neverAuto_nil h hk) fun q hq => absurd hq List.not_mem_nil
  | cons p _ ih =>
    have hnext := itemState_patched h p
    rw [neverAuto_cons h hk, List.forall_mem_cons]
    by_cases haddr : Addresses it p
    · obtain ⟨c, hc, hstate⟩ := nextState_founderOverride it.expectedCapability
        p.patch.autonomyClass hk hmay
      rw [if_pos haddr, hstate] at hnext
      by_cases hauto : p.patch.autonomyClass = some .auto
      · refine iff_of_false (fun hnever => ?_) fun hall => hall.1 ⟨haddr, hauto⟩
        obtain ⟨row, hrow, -, -, hrowState⟩ := hnext.row
        exact hnever [] List.nil_prefix row hrow ((Prod.mk.inj hrowState).1.trans (hc.mpr hauto))
      · rw [ih hnext (fun heq => hauto (hc.mp heq))]
        exact ⟨fun hall => ⟨fun hasks => hauto hasks.2, hall⟩, fun hall => hall.2⟩
    · rw [if_neg haddr] at hnext
      rw [ih hnext hk]
      exact ⟨fun hall => ⟨fun hasks => haddr hasks.1, hall⟩, fun hall => hall.2⟩

theorem neverAuto_of_tenantPolicy (h : ItemState db it (it.autonomyClass, .tenantPolicy))
    (hk : it.autonomyClass ≠ .auto) (hmay : MayBeAuto it.expectedCapability) :
    NeverAuto db it.id ps ↔ NoAutoAfterRelabel it ps := by
  induction ps generalizing db with
  | nil => exact iff_of_true (neverAuto_nil h hk) List.Pairwise.nil
  | cons p _ ih =>
    have hnext := itemState_patched h p
    obtain ⟨c, hc, hstate⟩ := nextState_tenantPolicy it.expectedCapability
      p.patch.autonomyClass hk
    rw [neverAuto_cons h hk, NoAutoAfterRelabel, List.pairwise_cons]
    by_cases hrelabels : Relabels it p
    · obtain ⟨haddr, hwanted⟩ := hrelabels
      rw [if_pos haddr, hstate, if_pos hwanted] at hnext
      rw [neverAuto_of_founderOverride hnext hc hmay]
      constructor
      · exact fun hall => ⟨fun q hq _ => hall q hq,
          List.pairwise_of_forall_mem_list fun _ _ q hq _ => hall q hq⟩
      · exact fun hall q hq => hall.1 q hq ⟨haddr, hwanted⟩
    · have hsame : ItemState (patched db p) it (it.autonomyClass, .tenantPolicy) := by
        by_cases haddr : Addresses it p
        · rwa [if_pos haddr, hstate, if_neg (fun hwanted => hrelabels ⟨haddr, hwanted⟩)] at hnext
        · rwa [if_neg haddr] at hnext
      rw [ih hsame]
      exact ⟨fun hall => ⟨fun q _ hp => absurd hp hrelabels, hall⟩, fun hall => hall.2⟩

theorem neverAuto_of_not_mayBeAuto (h : ItemState db it (k, source)) (hk : k ≠ .auto)
    (hmay : ¬MayBeAuto it.expectedCapability) : NeverAuto db it.id ps := by
  induction ps generalizing db k source with
  | nil => exact neverAuto_nil h hk
  | cons p _ ih =>
    rw [neverAuto_cons h hk]
    have hnext := itemState_patched h p
    by_cases haddr : Addresses it p
    · rw [if_pos haddr] at hnext
      exact ih hnext (nextState_ne_auto hk hmay)
    · rw [if_neg haddr] at hnext
      exact ih hnext hk

end Sequences

/-! ## Items of a new plan -/

section Created

variable {keywords : OwnerAgentProfile → String → Bool} {db db' : PlanDb}
  {input : CreateExecutionPlanInput} {answers : PlanAnswers} {it : ExecutionPlanItem}

theorem itemState_created (h : createExecutionPlanService keywords db input answers = .ok db')
    (hit : it ∈ newItems keywords input answers) : ItemState db' it it.state := by
  have h := of_require h
  have h := of_require h
  have h := of_require h
  have h := of_require h
  obtain ⟨_, h⟩ := of_bind h
  obtain ⟨⟨-, hids, -⟩, h⟩ := require_bind_eq_ok.mp h
  cases h
  obtain ⟨idx, i, deps, hnew⟩ := exists_of_mem_newItems hit
  have hplan : it.planId = answers.newId := by rw [hnew]; rfl
  have hworkspace : it.workspaceId = input.workspaceId := by rw [hnew]; rfl
  refine ⟨⟨newPlan input (trimmed input.goalText) answers.newId, ?_, hworkspace.symm, rfl⟩, it, ?_,
    rfl, rfl, rfl⟩
  · rw [hplan]
    exact Dict.get?_set_self _ _ _
  · have hkeys : (((newItems keywords input answers).map fun it => (it.id, it)).reverse.map
        Prod.fst).Nodup := by
      rw [List.map_reverse, List.nodup_reverse, List.map_map]
      exact hids
    have hlookup := (Dict.lookup_eq_some hkeys).mpr
      (List.mem_reverse.mpr (List.mem_map.mpr ⟨it, hit, rfl⟩))
    show (db.items.update _).get? it.id = some it
    rw [Dict.get?_update, hlookup]
    rfl

/-- A policy that denies a capability, or requires approval, gives the class. -/
theorem state_of_restricted (hit : it ∈ newItems keywords input answers)
    (hpolicy : Restricted answers.policy it) (hmay : MayBeAuto it.expectedCapability) :
    it.autonomyClass ≠ .auto ∧ it.autonomyClassSource = .tenantPolicy := by
  obtain ⟨idx, i, deps, rfl⟩ := exists_of_mem_newItems hit
  obtain ⟨cap, hcap, hdecision⟩ := hpolicy
  obtain ⟨cap', hcap', hne, hallowed⟩ := hmay
  cases hcap.symm.trans hcap'
  have hcapability : (classifyInput answers.policy i).capability? = some cap :=
    capability?_eq_some.mpr ⟨hcap, hne⟩
  have hasked : (i.expectedCapability.filter (· ≠ "")).bind answers.policy = answers.policy cap := by
    rw [show i.expectedCapability = some cap from hcap, Option.filter_some,
      if_pos (decide_eq_true hne)]
    rfl
  have hclass : ∀ d, answers.policy cap = some d → d = .deny ∨ d = .requireApproval →
      (classifyItem (classifyInput answers.policy i)).1 ≠ .auto ∧
        (classifyItem (classifyInput answers.policy i)).2 = .tenantPolicy := by
    intro d hd hcases
    have htenant : (classifyInput answers.policy i).tenantPolicyDecision = some d := by
      show ((i.expectedCapability.filter (· ≠ "")).bind answers.policy).or _ = some d
      rw [hasked, hd]
      rfl
    unfold classifyItem
    rw [hcapability]
    simp only [hallowed, htenant, Bool.false_eq_true, if_false]
    rcases hcases with rfl | rfl <;> exact ⟨(fun h => nomatch h), rfl⟩
  rcases hdecision with hd | hd
  · exact hclass _ hd (.inl rfl)
  · exact hclass _ hd (.inr rfl)

/-- An item that a policy restricts, or whose capability may not be `AUTO`, never is, if and only if
(in the first case) no patch asks for it after a change of class. -/
theorem neverAuto_iff (keywords : OwnerAgentProfile → String → Bool) (db db' : PlanDb)
    (input : CreateExecutionPlanInput) (answers : PlanAnswers)
    (hcreate : createExecutionPlanService keywords db input answers = .ok db')
    (it : ExecutionPlanItem) (hit : it ∈ newItems keywords input answers)
    (hguard : Restricted answers.policy it ∨ ¬MayBeAuto it.expectedCapability)
    (ps : List PatchParams) : NeverAuto db' it.id ps ↔
      (MayBeAuto it.expectedCapability → NoAutoAfterRelabel it ps) := by
  have hstate := itemState_created hcreate hit
  by_cases hmay : MayBeAuto it.expectedCapability
  · rcases hguard with hpolicy | hnot
    · obtain ⟨hclass, hsource⟩ := state_of_restricted hit hpolicy hmay
      rw [ExecutionPlanItem.state, hsource] at hstate
      rw [neverAuto_of_tenantPolicy hstate hclass hmay]
      exact ⟨fun h _ => h, fun h => h hmay⟩
    · exact absurd hmay hnot
  · have hclass : it.autonomyClass ≠ .auto := fun hauto => hmay (mayBeAuto_of_newItems hit hauto)
    exact iff_of_true (neverAuto_of_not_mayBeAuto hstate hclass hmay) fun h => absurd h hmay

end Created

/-! ### A denied capability -/

/-- The policy of the workspace denies drafts of reports. -/
def reportsDenied : PlanAnswers where
  newId := 10
  itemIds := (20 + ·)
  policy cap := if cap = "operations.report.create_draft" then some .deny else none

def reportPlan : CreateExecutionPlanInput where
  workspaceId := 1
  projectId := 2
  weeklyPlanId := none
  goalText := "Know the customers"
  items := [{
    title := "Summarise the interviews"
    decisionReason := "after the interviews"
    expectedCapability := some "operations.report.create_draft" }]

def reportDb : Except ApiError PlanDb :=
  createExecutionPlanService (fun _ _ => false) { projects := Dict.update ∅ [(2, 1)] } reportPlan
    reportsDenied

def reportTables : PlanDb := reportDb.toOption.get (by decide +kernel)

theorem reportDb_eq : reportDb = .ok reportTables := eq_ok_get _

/-- The item 20, `FOUNDER_ONLY` by the policy. -/
def reportItem : ExecutionPlanItem :=
  (newItems (fun _ _ => false) reportPlan reportsDenied).head (by decide +kernel)

def reportPatch (autonomyClass : AutonomyClass) : PatchParams :=
  ⟨10, 20, 1, { autonomyClass := some autonomyClass }⟩

theorem restricted_reportItem : Restricted reportsDenied.policy reportItem :=
  ⟨"operations.report.create_draft", by decide +kernel, by decide +kernel⟩

theorem neverAuto_reportItem :
    NeverAuto reportTables reportItem.id [reportPatch .auto, reportPatch .needsApproval] :=
  (neverAuto_iff (fun _ _ => false) _ reportTables reportPlan reportsDenied reportDb_eq reportItem
    (List.head_mem _) (.inl restricted_reportItem)
    [reportPatch .auto, reportPatch .needsApproval]).mpr fun _ => by decide +kernel

/-- `NEEDS_APPROVAL` first, and the next patch makes the denied item `AUTO`. -/
theorem not_neverAuto_relabelled : reportDb = .ok reportTables ∧
    Restricted reportsDenied.policy reportItem ∧
    ¬NeverAuto reportTables reportItem.id [reportPatch .needsApproval, reportPatch .auto] := by
  refine ⟨reportDb_eq, restricted_reportItem, fun h => ?_⟩
  have hauto : ((patchedAll reportTables [reportPatch .needsApproval, reportPatch .auto]).items.get?
      reportItem.id).map (·.autonomyClass) = some .auto := by decide +kernel
  obtain ⟨row, hrow, hclass⟩ := Option.map_eq_some_iff.mp hauto
  exact h _ (List.prefix_refl _) row hrow hclass

end JavisSaas.Company.Operations
