import Mathlib.Order.Lattice.Nat
import JavisSaas.Lib.Joins
import JavisSaas.Agent.Governance.Policy

/-!
# What meets a requirement

Nothing in `packages/agent/governance/contracts.py` decides whether approvals meet a requirement. A
`Satisfaction` is any such relation, as long as `AllOf` asks for all of its predicates.

* `joins_combineDecisions`: combining joins the outcomes and asks for both requirements.
* `accumulationLaw`: what an invocation has accumulated.
-/

namespace JavisSaas.Agent.Governance

open JavisSaas.Lib

/-! ## Approvals -/

/-- When approvals meet a requirement. Only `AllOf`, which combining makes, is given a meaning. -/
structure Satisfaction (A : Type) where
  meets : A → ApprovalRequirement → Prop
  meets_allOf : ∀ (approvals : A) (predicates : List ApprovalRequirement),
    meets approvals (.allOf predicates) ↔ ∀ p ∈ predicates, meets approvals p

/-- Who has approved. -/
structure Approver where
  userId : String
  roles : List String

mutual

/-- A quorum counts the users that have one of its roles. -/
def approversMeet (approvers : List Approver) : ApprovalRequirement → Bool
  | .roleApproval role => approvers.any fun a => role ∈ a.roles
  | .userApproval userId => approvers.any fun a => a.userId = userId
  | .allOf predicates => approversMeetAll approvers predicates
  | .anyOf predicates => approversMeetAny approvers predicates
  | .quorum count roles =>
    let voters := approvers.filter fun a => a.roles.any (· ∈ roles)
    decide (count ≤ (voters.map (·.userId)).eraseDups.length)

def approversMeetAll (approvers : List Approver) : List ApprovalRequirement → Bool
  | [] => true
  | p :: ps => approversMeet approvers p && approversMeetAll approvers ps

def approversMeetAny (approvers : List Approver) : List ApprovalRequirement → Bool
  | [] => false
  | p :: ps => approversMeet approvers p || approversMeetAny approvers ps

end

theorem approversMeetAll_iff (approvers : List Approver) (ps : List ApprovalRequirement) :
    approversMeetAll approvers ps = true ↔ ∀ p ∈ ps, approversMeet approvers p = true := by
  induction ps with
  | nil => simp [approversMeetAll]
  | cons _ _ ih => simp [approversMeetAll, ih]

def standardSatisfaction : Satisfaction (List Approver) where
  meets approvers requirement := approversMeet approvers requirement = true
  meets_allOf approvers predicates := by
    rw [approversMeet]
    exact approversMeetAll_iff approvers predicates

instance (approvers : List Approver) (requirement : ApprovalRequirement) :
    Decidable (standardSatisfaction.meets approvers requirement) :=
  inferInstanceAs (Decidable (_ = true))

section Meaning

variable {A : Type} (S : Satisfaction A)

/-- Where nothing is required, nothing is missing. -/
def Satisfaction.MeetsAny (approvals : A) : Option ApprovalRequirement → Prop
  | none => True
  | some requirement => S.meets approvals requirement

instance (approvers : List Approver) (requirement : Option ApprovalRequirement) :
    Decidable (standardSatisfaction.MeetsAny approvers requirement) :=
  match requirement with
  | none => instDecidableTrue
  | some requirement => inferInstanceAs (Decidable (standardSatisfaction.meets _ requirement))

theorem Satisfaction.meetsAny_combineRequirements (approvals : A)
    (a b : Option ApprovalRequirement) :
    S.MeetsAny approvals (combineRequirements a b) ↔
      S.MeetsAny approvals a ∧ S.MeetsAny approvals b := by
  cases a with
  | none => exact (and_iff_right trivial).symm
  | some a =>
    cases b with
    | none => exact (and_iff_left trivial).symm
    | some b =>
      by_cases hsame : a = b
      · subst hsame
        rw [combineRequirements, if_pos (beq_self_eq_true a)]
        exact and_self_iff.symm
      · rw [combineRequirements, if_neg (by simpa using hsame)]
        exact (S.meets_allOf approvals [a, b]).trans (by simp [Satisfaction.MeetsAny])

/-! ## The strength of a decision -/

/-- The rank of the outcome, and the approvals that are enough: the fewer the stricter. -/
def strength (d : PolicyDecision) : ℕ × (Set A)ᵒᵈ :=
  (outcomeRank d.outcome, OrderDual.toDual {approvals | S.MeetsAny approvals d.requirement})

theorem joins_combineDecisions : Joins (strength S) combineDecisions := by
  intro a b
  refine Prod.ext (rank_combineDecisions a b) ?_
  have hmeets : {approvals | S.MeetsAny approvals (combineRequirements a.requirement b.requirement)} =
      {approvals | S.MeetsAny approvals a.requirement} ∩
        {approvals | S.MeetsAny approvals b.requirement} :=
    Set.ext fun approvals => S.meetsAny_combineRequirements approvals _ _
  exact congrArg OrderDual.toDual hmeets

/-! ## What an invocation has accumulated -/

/-- The decision after the observations `rest` that follow the first one. -/
def accumulated (runId toolCallId : String) (first : PolicyDecision) (rest : List PolicyDecision) :
    PolicyDecision :=
  (rest.foldl InvocationGovernanceState.accumulate
    (.start runId toolCallId first)).accumulated

theorem accumulated_eq_foldl (runId toolCallId : String) (first : PolicyDecision)
    (rest : List PolicyDecision) :
    accumulated runId toolCallId first rest = rest.foldl combineDecisions first := by
  induction rest generalizing first with
  | nil => rfl
  | cons next _ ih => exact ih (combineDecisions first next)

theorem isStrictest_accumulated (runId toolCallId : String) (first : PolicyDecision)
    (rest : List PolicyDecision) :
    IsStrictest (accumulated runId toolCallId first rest).outcome (first :: rest) := by
  have hfold : ∀ (s : InvocationGovernanceState) (seen rest : List PolicyDecision),
      IsStrictest s.accumulated.outcome seen →
        IsStrictest (rest.foldl InvocationGovernanceState.accumulate s).accumulated.outcome
          (seen ++ rest) := by
    intro s seen rest
    induction rest generalizing s seen with
    | nil =>
      intro h
      rwa [List.append_nil]
    | cons next _ ih =>
      intro h
      rw [List.append_cons]
      exact ih _ _ (h.accumulate next)
  exact hfold _ [first] rest (isStrictest_start first)

/-- Approvals meet what is accumulated exactly when they meet every observed requirement. -/
theorem meetsAny_accumulated (runId toolCallId : String) (first : PolicyDecision)
    (rest : List PolicyDecision) (approvals : A) :
    S.MeetsAny approvals (accumulated runId toolCallId first rest).requirement ↔
      ∀ d ∈ first :: rest, S.MeetsAny approvals d.requirement := by
  have hlub := (joins_combineDecisions S).isLUB_foldl first rest
  rw [accumulated_eq_foldl]
  constructor
  · intro hmeets d hd
    exact (hlub.1 ⟨d, hd, rfl⟩).2 hmeets
  · intro hall
    -- asking for the approvals at hand is a bound of everything observed
    have hbound : (rest.foldl combineDecisions first |> strength S) ≤
        ((strength S (rest.foldl combineDecisions first)).1, OrderDual.toDual {approvals}) := by
      refine hlub.2 ?_
      rintro _ ⟨d, hd, rfl⟩
      refine ⟨(hlub.1 ⟨d, hd, rfl⟩).1, ?_⟩
      exact Set.singleton_subset_iff.mpr (hall d hd)
    exact hbound.2 rfl

theorem outcome_eq_of_rank {o o' : PolicyOutcome} (h : outcomeRank o = outcomeRank o') : o = o' := by
  cases o <;> cases o' <;> first | rfl | nomatch h

/-- What observations amount to, in any order and however often each is repeated. -/
structure AccumulationLaw (runId toolCallId : String) (first : PolicyDecision)
    (rest : List PolicyDecision) : Prop where
  outcome : IsStrictest (accumulated runId toolCallId first rest).outcome (first :: rest)
  requirement : ∀ approvals,
    S.MeetsAny approvals (accumulated runId toolCallId first rest).requirement ↔
      ∀ d ∈ first :: rest, S.MeetsAny approvals d.requirement
  outcome_same : ∀ first' rest', (∀ d, d ∈ first' :: rest' ↔ d ∈ first :: rest) →
    (accumulated runId toolCallId first' rest').outcome =
      (accumulated runId toolCallId first rest).outcome
  requirement_same : ∀ first' rest', (∀ d, d ∈ first' :: rest' ↔ d ∈ first :: rest) →
    ∀ approvals,
      S.MeetsAny approvals (accumulated runId toolCallId first' rest').requirement ↔
        S.MeetsAny approvals (accumulated runId toolCallId first rest).requirement

/-- Accumulating any observations of an invocation, for any meaning of the requirements. -/
theorem accumulationLaw (runId toolCallId : String) (first : PolicyDecision)
    (rest : List PolicyDecision) : AccumulationLaw S runId toolCallId first rest where
  outcome := isStrictest_accumulated runId toolCallId first rest
  requirement := meetsAny_accumulated S runId toolCallId first rest
  outcome_same first' rest' hmem := by
    have hsame := (joins_combineDecisions S).foldl_eq hmem
    rw [accumulated_eq_foldl, accumulated_eq_foldl]
    exact outcome_eq_of_rank (congrArg Prod.fst hsame)
  requirement_same first' rest' hmem approvals := by
    have hsame := (joins_combineDecisions S).foldl_eq hmem
    rw [accumulated_eq_foldl, accumulated_eq_foldl]
    exact Set.ext_iff.mp (congrArg OrderDual.ofDual (congrArg Prod.snd hsame)) approvals

end Meaning

end JavisSaas.Agent.Governance
