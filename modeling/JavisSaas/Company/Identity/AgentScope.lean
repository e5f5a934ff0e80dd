import JavisSaas.Company.Identity.AgentAuthority

/-!
# What an agent is allowed, and by which grant

An agent is allowed a call only by a grant that covers it and a role that permits it in its scope,
in whatever order the rows come. But a request that names no project passes a grant that is limited
to one, the roles are asked without their scopes, and only the first grant returned is judged.

* `authorityLaw_iff`: exactly when the evaluation keeps to it.
* `stable_iff`: what one reads of a decision does not depend on the order exactly if all grants in
  force lead to the same.
* `not_authorityLaw_unnamedProject`: the first of the three.
-/

namespace JavisSaas.Company.Identity

open JavisSaas.Lib

section

variable {V : Type}

/-! ## The law -/

/-- A limit that is set is the one that the request names. -/
def NamesLimit (limit : Option ℕ) (requested : Option String) : Prop :=
  ∀ l ∈ limit, requested = some (toString l)
deriving Decidable

variable [JsValue V]

/-- The amount of the facts, and the member of it. -/
def AmountMember (facts : Dict String V) (name : String) (v : V) : Prop :=
  ∃ amount, facts.get? "amount" = some amount ∧ truthy amount ∧ JsValue.member amount name = some v

/-- The amount is within the limit of the constraints, and in their currency. -/
structure ConstraintsHold (constraints facts : Dict String V) : Prop where
  amount : ∀ limit, constraints.get? "maxAmountMinor" = some limit → ∃ minor m n,
    AmountMember facts "minor" minor ∧ JsValue.bigInt minor = .ok m ∧
      JsValue.bigInt limit = .ok n ∧ m ≤ n
  currency : ∀ c, constraints.get? "currency" = some c →
    ∃ v, AmountMember facts "currency" v ∧ JsValue.strictEq v c

/-- The grant is in force and covers the request. -/
structure AgentCapabilityGrant.Covers (input : EvaluateAgentCapabilityInput V) (now : ℤ)
    (g : AgentCapabilityGrant V) : Prop where
  inForce : g.isInForce now
  project : NamesLimit g.projectId input.scope.projectId
  legalEntity : NamesLimit g.legalEntityId input.scope.legalEntityId
  constraints : ConstraintsHold g.constraints input.facts

/-- The assignment is in force for the scope. -/
def MemberRoleAssignment.Applies (scope : ResourceScope) (now : ℤ) (a : MemberRoleAssignment) :
    Prop :=
  isValidAt a.validFrom a.validUntil now ∧ NamesLimit a.projectId scope.projectId ∧
    NamesLimit a.legalEntityId scope.legalEntityId

omit [JsValue V] in
/-- The rules of the role of an assignment of the agent for the bound permission. -/
def AuthorizationTables.BoundRule (t : AuthorizationTables V)
    (input : EvaluateAgentCapabilityInput V) (a : MemberRoleAssignment) (p : RolePermission V) :
    Prop :=
  a ∈ t.assignmentsOf input.workspaceId input.agentWorkforceMemberId ∧ p ∈ t.rolePermissions ∧
    p.roleId = a.roleId ∧
    ∃ binding, t.bindings.get? input.capabilityId = some binding ∧
      p.permissionKey = binding.permissionKey

/-- A grant in force covers the request, and roles in its scope permit it, with no denial. -/
structure Authorized (t : AuthorizationTables V) (input : EvaluateAgentCapabilityInput V)
    (now : ℤ) : Prop where
  granted : ∃ g ∈ t.grantsOf input, g.Covers input now
  permitted : ∃ a p, t.BoundRule input a p ∧ a.Applies input.scope now ∧ p.effect = .allow
  notDenied : ∀ a p, t.BoundRule input a p → a.Applies input.scope now → p.effect ≠ .deny

/-- Only what is authorized is allowed, and the answer does not depend on the order of the rows. -/
structure AuthorityLaw {B : Type} (read : AgentCapabilityDecision → B)
    (t : AuthorizationTables V) (input : EvaluateAgentCapabilityInput V) (now : ℤ) : Prop where
  sound : ∀ decision, evaluateAgentCapabilityAuthority t input now = .ok decision →
    decision.effect = .allow → Authorized t input now
  stable : ∀ grants assignments, grants.Perm t.grants → assignments.Perm t.assignments →
    read <$> evaluateAgentCapabilityAuthority { t with grants, assignments } input now =
      read <$> evaluateAgentCapabilityAuthority t input now

/-! ## The condition -/

/-- The grants that the evaluation finds in force. -/
def activeGrants (t : AuthorizationTables V) (input : EvaluateAgentCapabilityInput V) (now : ℤ) :
    List (AgentCapabilityGrant V) :=
  (t.grantsOf input).filter (·.isActive now input.scope)

/-- All grants in force would be judged alike; and if the first one allows, the request names the
project and the entity of one that holds, and those of an assignment whose role has a rule. -/
def WellScoped {B : Type} (read : AgentCapabilityDecision → B) (t : AuthorizationTables V)
    (input : EvaluateAgentCapabilityInput V) (now : ℤ) : Prop :=
  ∀ binding, bindingOf input (t.authorityRows input) = .ok binding →
    (∀ g ∈ activeGrants t input now, ∀ g' ∈ activeGrants t input now,
      read <$> judgeGrant input now (t.authorityRows input) binding g =
        read <$> judgeGrant input now (t.authorityRows input) binding g') ∧
    ∀ g ∈ (activeGrants t input now).head?, ConstraintsHold g.constraints input.facts →
      rolePermission now (t.authorityRows input) = .allow →
      (∃ g ∈ activeGrants t input now, NamesLimit g.projectId input.scope.projectId ∧
        NamesLimit g.legalEntityId input.scope.legalEntityId ∧
        ConstraintsHold g.constraints input.facts) ∧
      ∃ a ∈ t.assignmentsOf input.workspaceId input.agentWorkforceMemberId,
        a.Applies input.scope now ∧ ∃ p ∈ t.permissionsOf (some binding), p.roleId = a.roleId

/-! ## The parts of the evaluation -/

section Parts

variable {t : AuthorizationTables V} {input : EvaluateAgentCapabilityInput V} {now : ℤ}
  {binding : CapabilityPermissionBinding}

omit [JsValue V] in
theorem scopePasses_of_namesLimit {limit : Option ℕ} {requested : Option String}
    (h : NamesLimit limit requested) : scopePasses limit requested := by
  unfold scopePasses
  split
  · next l r hl hr =>
    obtain ⟨hlimit, -⟩ := Option.filter_eq_some_iff.mp hl
    obtain ⟨hrequested, -⟩ := Option.filter_eq_some_iff.mp hr
    rw [h l hlimit] at hrequested
    exact decide_eq_true (Option.some.inj hrequested)
  · rfl

variable {constraints facts : Dict String V}

theorem amountRefusal_eq_none :
    amountRefusal constraints facts = .ok none ↔
      ∀ limit, constraints.get? "maxAmountMinor" = some limit → ∃ minor m n,
        AmountMember facts "minor" minor ∧ JsValue.bigInt minor = .ok m ∧
          JsValue.bigInt limit = .ok n ∧ m ≤ n := by
  unfold amountRefusal
  cases hlimit : constraints.get? "maxAmountMinor" with
  | none => simp
  | some limit =>
    have hmember : ∀ v, ((facts.get? "amount").filter truthy).bind (JsValue.member · "minor") =
        some v ↔ AmountMember facts "minor" v := by
      intro v
      simp only [Option.bind_eq_some_iff, Option.filter_eq_some_iff, AmountMember, and_assoc]
    cases hminor : ((facts.get? "amount").filter truthy).bind (JsValue.member · "minor") with
    | none =>
      refine iff_of_false nofun fun h => ?_
      obtain ⟨minor, m, n, hamount, -⟩ := h limit rfl
      nomatch hminor.symm.trans ((hmember minor).mpr hamount)
    | some minor =>
      dsimp only
      constructor
      · intro h limit' hlimit'
        cases hlimit'
        obtain ⟨m, hm, h⟩ := bind_eq_ok.mp h
        obtain ⟨n, hn, h⟩ := bind_eq_ok.mp h
        refine ⟨minor, m, n, (hmember minor).mp hminor, hm, hn, ?_⟩
        by_contra hlt
        rw [if_pos (by omega)] at h
        nomatch h
      · intro h
        obtain ⟨minor', m, n, hamount, hm, hn, hle⟩ := h limit rfl
        obtain rfl := Option.some.inj (hminor.symm.trans ((hmember minor').mpr hamount))
        refine bind_eq_ok.mpr ⟨m, hm, bind_eq_ok.mpr ⟨n, hn, ?_⟩⟩
        rw [if_neg (by omega)]
        rfl

theorem currencyRefusal_eq_none :
    currencyRefusal constraints facts = none ↔
      ∀ c, constraints.get? "currency" = some c →
        ∃ v, AmountMember facts "currency" v ∧ JsValue.strictEq v c := by
  unfold currencyRefusal
  cases hcurrency : constraints.get? "currency" with
  | none => simp
  | some c =>
    have hmember : (((facts.get? "amount").filter truthy).bind
        (JsValue.member · "currency")).any (JsValue.strictEq · c) ↔
          ∃ v, AmountMember facts "currency" v ∧ JsValue.strictEq v c := by
      rw [Option.any_eq_true]
      refine exists_congr fun v => and_congr_left fun _ => ?_
      simp only [Option.bind_eq_some_iff, Option.filter_eq_some_iff, AmountMember, and_assoc]
    dsimp only
    split_ifs with h
    · refine iff_of_true rfl fun c' hc' => ?_
      cases hc'
      exact hmember.mp h
    · exact iff_of_false nofun fun h' => h (hmember.mpr (h' c rfl))

theorem constraintRefusal_eq_none :
    constraintRefusal constraints facts = .ok none ↔ ConstraintsHold constraints facts := by
  constructor
  · intro h
    obtain ⟨refusal, hamount, h⟩ := bind_eq_ok.mp h
    cases refusal with
    | some => nomatch h
    | none =>
      exact ⟨amountRefusal_eq_none.mp hamount, currencyRefusal_eq_none.mp (pure_eq_ok.mp h)⟩
  · intro h
    refine bind_eq_ok.mpr ⟨none, amountRefusal_eq_none.mpr h.amount, ?_⟩
    exact pure_eq_ok.mpr (currencyRefusal_eq_none.mpr h.currency)

/-- A grant leads to permission exactly if its constraints hold and the roles allow. -/
theorem judgeGrant_allows {rows : AuthorityRows V} {g : AgentCapabilityGrant V} :
    (∃ decision, judgeGrant input now rows binding g = .ok decision ∧ decision.effect = .allow) ↔
      ConstraintsHold g.constraints input.facts ∧ rolePermission now rows = .allow := by
  rw [← constraintRefusal_eq_none]
  constructor
  · rintro ⟨decision, h, heffect⟩
    obtain ⟨refusal, hrefusal, h⟩ := bind_eq_ok.mp h
    cases refusal with
    | some =>
      cases h
      nomatch heffect
    | none =>
      refine ⟨hrefusal, ?_⟩
      dsimp only at h
      cases hrole : rolePermission now rows with
      | allow => rfl
      | deny | requireApproval =>
        rw [hrole] at h
        cases h
        nomatch heffect
  · rintro ⟨hrefusal, hrole⟩
    have h : judgeGrant input now rows binding g = .ok
        { effect := .allow
          policyVersion := rows.policyVersion
          matchedRuleIds := [g.id]
          grantId := some g.id
          riskClass := binding.riskClass } := by
      refine bind_eq_ok.mpr ⟨none, hrefusal, ?_⟩
      dsimp only
      rw [hrole]
      rfl
    exact ⟨_, h, rfl⟩

/-- The judgement reads of the rows the policy version and what the roles say. -/
theorem judgeGrant_congr {rows rows' : AuthorityRows V} (g : AgentCapabilityGrant V)
    (hversion : rows.policyVersion = rows'.policyVersion)
    (hrole : rolePermission now rows = rolePermission now rows') :
    judgeGrant input now rows binding g = judgeGrant input now rows' binding g := by
  unfold judgeGrant
  rw [hversion, hrole]

omit [JsValue V] in
theorem rolePermission_perm (rows : AuthorityRows V) {assignments : List MemberRoleAssignment}
    (h : assignments.Perm rows.assignments) :
    rolePermission now { rows with assignments } = rolePermission now rows := by
  have hmem : ∀ id, id ∈ activeRoleIds now assignments ↔
      id ∈ activeRoleIds now rows.assignments := by
    intro id
    exact ((h.filter _).map _).mem_iff
  unfold rolePermission
  simp only [hmem]

theorem evaluate_of_refused {decision : AgentCapabilityDecision}
    (h : bindingOf input (t.authorityRows input) = .error decision) :
    evaluateAgentCapabilityAuthority t input now = .ok decision := by
  unfold evaluateAgentCapabilityAuthority judgeAgentCapability
  rw [h]

theorem evaluate_of_nil (hbinding : bindingOf input (t.authorityRows input) = .ok binding)
    (hnil : activeGrants t input now = []) :
    evaluateAgentCapabilityAuthority t input now = .ok (.denied
      (if (t.grantsOf input).any (·.status = "REVOKED") then "AGENT_CAPABILITY_GRANT_REVOKED"
        else "MISSING_AGENT_CAPABILITY_GRANT")
      (t.latestPolicyVersion input.workspaceId) [] binding.riskClass) := by
  have hgrants : (t.authorityRows input).grants.filter (·.isActive now input.scope) = [] := hnil
  unfold evaluateAgentCapabilityAuthority judgeAgentCapability
  rw [hbinding]
  dsimp only
  rw [hgrants]
  rfl

theorem evaluate_of_head {g : AgentCapabilityGrant V}
    (hbinding : bindingOf input (t.authorityRows input) = .ok binding)
    (hg : (activeGrants t input now).head? = some g) :
    evaluateAgentCapabilityAuthority t input now =
      judgeGrant input now (t.authorityRows input) binding g := by
  obtain ⟨gs, hgs⟩ := List.head?_eq_some_iff.mp hg
  have hgrants : (t.authorityRows input).grants.filter (·.isActive now input.scope) = g :: gs := hgs
  unfold evaluateAgentCapabilityAuthority judgeAgentCapability
  rw [hbinding]
  dsimp only
  rw [hgrants]

section

variable {grants : List (AgentCapabilityGrant V)} {assignments : List MemberRoleAssignment}

omit [JsValue V] in
theorem activeGrants_perm (h : grants.Perm t.grants) :
    (activeGrants { t with grants, assignments } input now).Perm (activeGrants t input now) :=
  (h.filter _).filter _

omit [JsValue V] in
theorem rolePermission_rows_perm (h : assignments.Perm t.assignments) :
    rolePermission now ((⟨t.members, t.roles, t.rolePermissions, assignments, t.bindings, grants,
      t.states, t.policyVersions, t.tickets⟩ : AuthorizationTables V).authorityRows input) =
      rolePermission now (t.authorityRows input) :=
  rolePermission_perm (t.authorityRows input) (h.filter _)

theorem judgeGrant_rows_perm (grants : List (AgentCapabilityGrant V)) (h : assignments.Perm t.assignments) (g : AgentCapabilityGrant V) :
    judgeGrant input now (({ t with grants, assignments }).authorityRows input) binding g =
      judgeGrant input now (t.authorityRows input) binding g :=
  judgeGrant_congr g rfl (rolePermission_rows_perm h)

end

/-- The answer is independent of the order exactly if all grants in force are judged alike. -/
theorem stable_iff {B : Type} {read : AgentCapabilityDecision → B} :
    (∀ grants assignments, grants.Perm t.grants → assignments.Perm t.assignments →
      read <$> evaluateAgentCapabilityAuthority { t with grants, assignments } input now =
        read <$> evaluateAgentCapabilityAuthority t input now) ↔
    ∀ binding, bindingOf input (t.authorityRows input) = .ok binding →
      ∀ g ∈ activeGrants t input now, ∀ g' ∈ activeGrants t input now,
        read <$> judgeGrant input now (t.authorityRows input) binding g =
          read <$> judgeGrant input now (t.authorityRows input) binding g' := by
  constructor
  · intro hstable binding hbinding
    -- The database may return any of the grants in force first.
    have hfirst : ∀ g ∈ activeGrants t input now,
        read <$> judgeGrant input now (t.authorityRows input) binding g =
          read <$> evaluateAgentCapabilityAuthority t input now := by
      intro g hg
      have hmem : g ∈ t.grants := List.mem_of_mem_filter (List.mem_of_mem_filter hg)
      obtain ⟨before, after, hgrants⟩ := List.append_of_mem hmem
      have hperm : (g :: (before ++ after)).Perm t.grants := by
        rw [hgrants]
        exact List.perm_middle.symm
      rw [← hstable _ _ hperm (.refl t.assignments)]
      rw [← judgeGrant_rows_perm (g :: (before ++ after)) (.refl t.assignments) g]
      refine congrArg _ (evaluate_of_head (t := { t with grants := g :: (before ++ after) })
        hbinding ?_).symm
      obtain ⟨hof, hactive⟩ := List.mem_filter.mp hg
      unfold activeGrants AuthorizationTables.grantsOf
      rw [List.filter_cons, if_pos (List.mem_filter.mp hof).2, List.filter_cons, if_pos hactive]
      rfl
    intro g hg g' hg'
    rw [hfirst g hg, hfirst g' hg']
  · intro h grants assignments hgrants hassignments
    have hactive : (activeGrants { t with grants, assignments } input now).Perm
        (activeGrants t input now) := activeGrants_perm hgrants
    cases hbinding : bindingOf input (t.authorityRows input) with
    | error =>
      rw [evaluate_of_refused hbinding,
        evaluate_of_refused (t := { t with grants, assignments }) hbinding]
    | ok binding =>
      cases hhead : (activeGrants t input now).head? with
      | none =>
        have hnil := List.head?_eq_none_iff.mp hhead
        have hnil' := (hnil ▸ hactive).eq_nil
        rw [evaluate_of_nil hbinding hnil,
          evaluate_of_nil (t := { t with grants, assignments }) hbinding hnil']
        have hany : (({ t with grants, assignments }).grantsOf input).any (·.status = "REVOKED") =
            (t.grantsOf input).any (·.status = "REVOKED") := (hgrants.filter _).any_eq
        rw [hany]
        rfl
      | some g =>
        have hg := List.mem_of_mem_head? hhead
        cases hhead' : (activeGrants { t with grants, assignments } input now).head? with
        | none =>
          rw [List.head?_eq_none_iff.mp hhead'] at hactive
          nomatch hactive.symm.eq_nil ▸ hg
        | some g' =>
          have hg' := hactive.mem_iff.mp (List.mem_of_mem_head? hhead')
          rw [evaluate_of_head hbinding hhead,
            evaluate_of_head (t := { t with grants, assignments }) hbinding hhead',
            judgeGrant_rows_perm grants hassignments g']
          exact h binding hbinding g' hg' g hg

omit [JsValue V] in
/-- A refusal before the grants denies, and without one the binding is the one of the table. -/
theorem effect_of_refused {decision : AgentCapabilityDecision}
    (h : bindingOf input (t.authorityRows input) = .error decision) : decision.effect = .deny := by
  unfold bindingOf require at h
  split_ifs at h
  · cases hrow : (t.authorityRows input).binding with
    | none =>
      rw [hrow] at h
      cases h
      rfl
    | some =>
      rw [hrow] at h
      nomatch h
  all_goals
    cases h
    rfl

omit [JsValue V] in
theorem get?_of_bindingOf (h : bindingOf input (t.authorityRows input) = .ok binding) :
    t.bindings.get? input.capabilityId = some binding := by
  obtain ⟨-, -, h⟩ := bind_eq_ok.mp h
  obtain ⟨-, -, h⟩ := bind_eq_ok.mp h
  cases hrow : (t.authorityRows input).binding with
  | none =>
    rw [hrow] at h
    nomatch h
  | some row =>
    rw [hrow] at h
    rw [show t.bindings.get? input.capabilityId = some row from hrow, pure_eq_ok.mp h]

omit [JsValue V] in
theorem effect_of_rolePermission {rows : AuthorityRows V}
    (h : rolePermission now rows = .allow) {a : MemberRoleAssignment} (ha : a ∈ rows.assignments)
    (hvalid : isValidAt a.validFrom a.validUntil now) {p : RolePermission V}
    (hp : p ∈ rows.permissions) (hrole : p.roleId = a.roleId) : p.effect = .allow := by
  have hmatching : p ∈ rows.permissions.filter
      fun p => p.roleId ∈ activeRoleIds now rows.assignments := by
    refine List.mem_filter.mpr ⟨hp, decide_eq_true ?_⟩
    rw [hrole]
    exact List.mem_map_of_mem (List.mem_filter.mpr ⟨ha, hvalid⟩)
  unfold rolePermission at h
  dsimp only at h
  split_ifs at h with hdeny happroval
  simp only [Bool.or_eq_true, not_or, List.any_eq_true, not_exists, not_and,
    decide_eq_true_eq] at hdeny happroval
  cases heffect : p.effect with
  | allow => rfl
  | deny => exact absurd heffect (hdeny.2 p hmatching)
  | requireApproval => exact absurd heffect (happroval p hmatching)

omit [JsValue V] in
theorem mem_permissionsOf {p : RolePermission V} :
    p ∈ t.permissionsOf (some binding) ↔
      p ∈ t.rolePermissions ∧ p.permissionKey = binding.permissionKey := by
  rw [AuthorizationTables.permissionsOf, List.mem_filter]
  simp only [Option.any_some, decide_eq_true_eq]

omit [JsValue V] in
theorem permissions_authorityRows (h : t.bindings.get? input.capabilityId = some binding) :
    (t.authorityRows input).permissions = t.permissionsOf (some binding) := by
  show t.permissionsOf (t.bindings.get? input.capabilityId) = _
  rw [h]

/-- An authorized request has a grant and an assignment of its own scope. -/
theorem Authorized.scoped (h : Authorized t input now)
    (hbinding : t.bindings.get? input.capabilityId = some binding) :
    (∃ g ∈ activeGrants t input now, NamesLimit g.projectId input.scope.projectId ∧
      NamesLimit g.legalEntityId input.scope.legalEntityId ∧
      ConstraintsHold g.constraints input.facts) ∧
    ∃ a ∈ t.assignmentsOf input.workspaceId input.agentWorkforceMemberId,
      a.Applies input.scope now ∧ ∃ p ∈ t.permissionsOf (some binding), p.roleId = a.roleId := by
  obtain ⟨g, hg, hcovers⟩ := h.granted
  obtain ⟨a, p, ⟨ha, hp, hrole, row, hrow, hkey⟩, happlies, -⟩ := h.permitted
  obtain rfl := Option.some.inj (hrow.symm.trans hbinding)
  have hp' : p ∈ t.permissionsOf (some row) := mem_permissionsOf.mpr ⟨hp, hkey⟩
  refine ⟨⟨g, List.mem_filter.mpr ⟨hg, ?_⟩, hcovers.project, hcovers.legalEntity,
    hcovers.constraints⟩, a, ha, happlies, p, hp', hrole⟩
  unfold AgentCapabilityGrant.isActive
  rw [hcovers.inForce, scopePasses_of_namesLimit hcovers.project,
    scopePasses_of_namesLimit hcovers.legalEntity]
  rfl

/-- A grant and an assignment of the scope of the request authorize it if the roles allow. -/
theorem authorized_of_scoped (hbinding : t.bindings.get? input.capabilityId = some binding)
    (hallow : rolePermission now (t.authorityRows input) = .allow)
    {g : AgentCapabilityGrant V} (hg : g ∈ activeGrants t input now)
    (hproject : NamesLimit g.projectId input.scope.projectId)
    (hentity : NamesLimit g.legalEntityId input.scope.legalEntityId)
    (hconstraints : ConstraintsHold g.constraints input.facts)
    {a : MemberRoleAssignment}
    (ha : a ∈ t.assignmentsOf input.workspaceId input.agentWorkforceMemberId)
    (happlies : a.Applies input.scope now) {p : RolePermission V}
    (hp : p ∈ t.permissionsOf (some binding)) (hrole : p.roleId = a.roleId) :
    Authorized t input now := by
  have hrows := permissions_authorityRows hbinding
  have heffect : ∀ a p, t.BoundRule input a p → a.Applies input.scope now → p.effect = .allow := by
    rintro a p ⟨hassigned, hrule, hrole, row, hrow, hkey⟩ happlies
    cases hrow.symm.trans hbinding
    refine effect_of_rolePermission hallow (a := a) hassigned happlies.1 ?_ hrole
    rw [hrows]
    exact mem_permissionsOf.mpr ⟨hrule, hkey⟩
  have hbound : t.BoundRule input a p :=
    ⟨ha, (mem_permissionsOf.mp hp).1, hrole, binding, hbinding, (mem_permissionsOf.mp hp).2⟩
  obtain ⟨hof, hactive⟩ := List.mem_filter.mp hg
  unfold AgentCapabilityGrant.isActive at hactive
  rw [Bool.and_eq_true, Bool.and_eq_true] at hactive
  exact {
    granted := ⟨g, hof, hactive.1.1, hproject, hentity, hconstraints⟩
    permitted := ⟨a, p, hbound, happlies, heffect a p hbound happlies⟩
    notDenied := fun a p hrule happlies hdeny => by
      nomatch (heffect a p hrule happlies).symm.trans hdeny }

end Parts

/-! ## The law and its condition -/

/-- The evaluation keeps to the law exactly if the grants and the roles fit the request. -/
theorem authorityLaw_iff {B : Type} (read : AgentCapabilityDecision → B)
    (t : AuthorizationTables V) (input : EvaluateAgentCapabilityInput V) (now : ℤ) :
    AuthorityLaw read t input now ↔ WellScoped read t input now := by
  constructor
  · intro h binding hbinding
    refine ⟨stable_iff.mp h.stable binding hbinding, fun g hg hconstraints hallow => ?_⟩
    obtain ⟨decision, hjudge, heffect⟩ : ∃ decision,
        judgeGrant input now (t.authorityRows input) binding g = .ok decision ∧
          decision.effect = .allow := judgeGrant_allows.mpr ⟨hconstraints, hallow⟩
    have hdecision := (evaluate_of_head hbinding hg).trans hjudge
    exact (h.sound decision hdecision heffect).scoped (get?_of_bindingOf hbinding)
  · intro h
    refine ⟨fun decision hdecision heffect => ?_,
      stable_iff.mpr fun binding hbinding => (h binding hbinding).1⟩
    cases hbinding : bindingOf input (t.authorityRows input) with
    | error =>
      cases (evaluate_of_refused hbinding).symm.trans hdecision
      nomatch (effect_of_refused hbinding).symm.trans heffect
    | ok binding =>
      cases hhead : (activeGrants t input now).head? with
      | none =>
        have hnil := evaluate_of_nil hbinding (List.head?_eq_none_iff.mp hhead)
        cases hnil.symm.trans hdecision
        nomatch heffect
      | some g =>
        have hjudge := (evaluate_of_head hbinding hhead).symm.trans hdecision
        obtain ⟨hconstraints, hallow⟩ := judgeGrant_allows.mp ⟨decision, hjudge, heffect⟩
        obtain ⟨⟨g', hg', hproject, hentity, hconstraints'⟩, a, ha, happlies, p, hp, hrole⟩ :=
          (h binding hbinding).2 g hhead hconstraints hallow
        exact authorized_of_scoped (get?_of_bindingOf hbinding) hallow hg' hproject hentity
          hconstraints' ha happlies hp hrole

end

/-! ## The three ways out of the law -/

/-- An agent with a role that may pay, and the grants and assignments of it. -/
def payingAgent (grants : List (AgentCapabilityGrant ℤ)) (assignments : List MemberRoleAssignment) :
    AuthorizationTables ℤ where
  members := (∅ : Dict ℕ WorkforceMember).set 7 { workspaceId := 1, memberType := "AI_AGENT" }
  rolePermissions := [{ roleId := "payer", permissionKey := "finance.pay", effect := .allow }]
  bindings := (∅ : Dict String CapabilityPermissionBinding).set "invoice.pay"
    { permissionKey := "finance.pay", riskClass := "EXTERNAL_SEND" }
  grants
  assignments

def payingGrant (id : String) (projectId : Option ℕ := none) (constraints : Dict String ℤ := ∅) :
    AgentCapabilityGrant ℤ where
  id
  workspaceId := 1
  agentWorkforceMemberId := 7
  capabilityId := "invoice.pay"
  projectId
  constraints
  validFrom := 0

def payingRole (projectId : Option ℕ := none) : MemberRoleAssignment where
  id := "a1"
  workspaceId := 1
  workforceMemberId := 7
  roleId := "payer"
  projectId
  validFrom := 0

/-- A request of the agent that names no project. -/
def payInvoice : EvaluateAgentCapabilityInput ℤ where
  workspaceId := 1
  agentWorkforceMemberId := 7
  capabilityId := "invoice.pay"

/-- A grant for project 3 allows a request that names none. -/
theorem not_authorityLaw_unnamedProject :
    ¬ AuthorityLaw (·.effect) (payingAgent [payingGrant "g1" (some 3)] [payingRole]) payInvoice
      10 := by
  intro h
  have hdecision := eq_ok_get (x := evaluateAgentCapabilityAuthority
    (payingAgent [payingGrant "g1" (some 3)] [payingRole]) payInvoice 10) (by decide +kernel)
  obtain ⟨g, hg, hcovers⟩ := (h.sound _ hdecision (by decide +kernel)).granted
  have hnone : ∀ g ∈ (payingAgent [payingGrant "g1" (some 3)] [payingRole]).grantsOf payInvoice,
      ¬ NamesLimit g.projectId payInvoice.scope.projectId := by decide +kernel
  exact hnone g hg hcovers.project

end JavisSaas.Company.Identity
