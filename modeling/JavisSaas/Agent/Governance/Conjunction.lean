import JavisSaas.Agent.Governance.Requirements

/-!
# Conjoining two decisions

`conjoin` of `packages/agent/governance/floor.py`, where `upper` is `str.upper`. `NON_APPROVABLE`
has neither `DENY` nor `APPROVAL` in it, so it counts as an allowance; and of two requirements the
first one is lost, although `accumulator.py` says that both must be met.

* `conjunctionLaw_iff`: the operands of which the conjunction is as strict as each of them.
-/

namespace JavisSaas.Agent.Governance

/-! ## The order of the outcomes -/

/-- `DENY / NON_APPROVABLE > REQUIRE_APPROVAL > ALLOW`, as the docstring of `conjoin` has it. -/
def strictness : PolicyOutcome → ℕ
  | .allow => 0
  | .requireApproval => 1
  | .deny => 2
  | .nonApprovable => 2

def PolicyOutcome.Denies (o : PolicyOutcome) : Prop := o ∈ [PolicyOutcome.deny, .nonApprovable]
deriving Decidable

theorem strictness_le_two (o : PolicyOutcome) : strictness o ≤ 2 := by cases o <;> decide

variable {upper : String → String} {o : PolicyOutcome} {a b : Evaluation}

theorem strictness_le_one (h : ¬ o.Denies) : strictness o ≤ 1 := by
  revert h
  cases o <;> decide

/-- A text is read as `_normalize_decision` reads it, in capitals and without white space around it. -/
def Evaluation.named (upper : String → String) : Evaluation → Option PolicyOutcome
  | .decision d => some d.outcome
  | .outcome o => some o
  | .text s =>
    [PolicyOutcome.allow, .deny, .requireApproval, .nonApprovable].find? fun o =>
      strip (upper s) = o.value
  | .none => Option.none

/-- The requirement that an operand carries. -/
def Evaluation.requirement : Evaluation → Option ApprovalRequirement
  | .decision d => d.requirement
  | _ => Option.none

/-- What an operand counts as. -/
def Evaluation.read (upper : String → String) (e : Evaluation) : PolicyOutcome :=
  (normalizeDecision upper e "").outcome

def Evaluation.IsNonApprovableText (upper : String → String) : Evaluation → Prop
  | .text s => strip (upper s) = PolicyOutcome.nonApprovable.value
  | _ => False

theorem normalizeDecision_outcome (e : Evaluation) (source : String) :
    (normalizeDecision upper e source).outcome = e.read upper := by
  cases e with
  | text =>
    unfold Evaluation.read normalizeDecision
    dsimp only
    split_ifs <;> rfl
  | _ => rfl

theorem normalizeDecision_requirement (e : Evaluation) (source : String) :
    (normalizeDecision upper e source).requirement = e.requirement := by
  cases e with
  | text =>
    unfold normalizeDecision
    dsimp only
    split_ifs <;> rfl
  | _ => rfl

theorem read_text {s : String} (h : strip (upper s) = o.value) :
    (Evaluation.text s).read upper = if o = .nonApprovable then .allow else o := by
  unfold Evaluation.read normalizeDecision
  dsimp only
  rw [h]
  cases o <;> decide +kernel

/-- An operand counts as the outcome that it gives, but for the text of a non-approvable one. -/
theorem named_cases {e : Evaluation} (h : e.named upper = some o) :
    e.read upper = o ∨
      (e.IsNonApprovableText upper ∧ o = .nonApprovable ∧ e.read upper = .allow) := by
  cases e with
  | decision | outcome => exact .inl (Option.some.inj h)
  | none => nomatch h
  | text s =>
    have hvalue : strip (upper s) = o.value := by simpa using List.find?_some h
    have hread := read_text hvalue
    by_cases hnon : o = .nonApprovable
    · subst hnon
      exact .inr ⟨hvalue, rfl, hread⟩
    · rw [if_neg hnon] at hread
      exact .inl hread

theorem named_of_isNonApprovableText {e : Evaluation} (h : e.IsNonApprovableText upper) :
    e.named upper = some .nonApprovable ∧ e.read upper = .allow := by
  cases e with
  | text s =>
    have hvalue : strip (upper s) = PolicyOutcome.nonApprovable.value := h
    refine ⟨?_, read_text hvalue⟩
    unfold Evaluation.named
    dsimp only
    rw [hvalue]
    decide +kernel
  | _ => exact h.elim

/-! ## The branches of `conjoin` -/

theorem conjoin_denies (h : (a.read upper).Denies ∨ (b.read upper).Denies) :
    (conjoin upper a b).outcome = .deny := by
  unfold conjoin
  dsimp only
  unfold PolicyOutcome.Denies at h
  rw [normalizeDecision_outcome, normalizeDecision_outcome, if_pos h]

theorem conjoin_requires (ha : ¬ (a.read upper).Denies) (hb : ¬ (b.read upper).Denies)
    (h : a.read upper = .requireApproval ∨ b.read upper = .requireApproval) :
    (conjoin upper a b).outcome = .requireApproval ∧
      (conjoin upper a b).requirement =
        (b.requirement.or a.requirement).or (some (.roleApproval "admin")) := by
  have hdeny : ¬ ((a.read upper).Denies ∨ (b.read upper).Denies) := fun hor => hor.elim ha hb
  have hin : PolicyOutcome.requireApproval ∈ [a.read upper, b.read upper] := by
    rcases h with h | h <;> simp [h]
  unfold conjoin
  dsimp only
  rw [normalizeDecision_outcome, normalizeDecision_outcome, normalizeDecision_requirement,
    normalizeDecision_requirement]
  unfold PolicyOutcome.Denies at hdeny
  rw [if_neg hdeny, if_pos hin]
  exact ⟨rfl, rfl⟩

theorem conjoin_allows (ha : a.read upper = .allow) (hb : b.read upper = .allow) :
    (conjoin upper a b).outcome = .allow ∧ (conjoin upper a b).requirement = none := by
  unfold conjoin
  dsimp only
  rw [normalizeDecision_outcome, normalizeDecision_outcome, ha, hb]
  exact ⟨rfl, rfl⟩

theorem conjoin_cases (upper : String → String) (a b : Evaluation) :
    ((a.read upper).Denies ∨ (b.read upper).Denies) ∨
      (¬ (a.read upper).Denies ∧ ¬ (b.read upper).Denies ∧
        (a.read upper = .requireApproval ∨ b.read upper = .requireApproval)) ∨
      (a.read upper = .allow ∧ b.read upper = .allow) := by
  cases a.read upper <;> cases b.read upper <;> decide

/-! ## The law -/

section Law

variable {A : Type} (upper) (S : Satisfaction A)

/-- The conjunction of two operands is as strict as each of them, in either order. -/
structure ConjunctionLaw (a b : Evaluation) : Prop where
  outcome : ∀ o, a.named upper = some o ∨ b.named upper = some o →
    strictness o ≤ strictness (conjoin upper a b).outcome
  requirement : (conjoin upper a b).outcome = .requireApproval →
    ∀ approvals, S.MeetsAny approvals (conjoin upper a b).requirement →
      S.MeetsAny approvals a.requirement ∧ S.MeetsAny approvals b.requirement
  outcome_comm : strictness (conjoin upper a b).outcome = strictness (conjoin upper b a).outcome
  requirement_comm : (conjoin upper a b).outcome = .requireApproval →
    ∀ approvals, S.MeetsAny approvals (conjoin upper a b).requirement ↔
      S.MeetsAny approvals (conjoin upper b a).requirement

/-- A non-approvable text comes with an operand that denies, and two requirements are met alike. -/
structure Conjoinable (a b : Evaluation) : Prop where
  left : a.IsNonApprovableText upper → (b.read upper).Denies
  right : b.IsNonApprovableText upper → (a.read upper).Denies
  requirements : ¬ (a.read upper).Denies → ¬ (b.read upper).Denies →
    (a.read upper = .requireApproval ∨ b.read upper = .requireApproval) →
    ∀ ra ∈ a.requirement, ∀ rb ∈ b.requirement, ∀ approvals,
      S.meets approvals ra ↔ S.meets approvals rb

variable {upper} {S} {a b : Evaluation}

theorem Conjoinable.symm (h : Conjoinable upper S a b) : Conjoinable upper S b a where
  left := h.right
  right := h.left
  requirements hb ha hreq ra hra rb hrb approvals :=
    (h.requirements ha hb hreq.symm rb hrb ra hra approvals).symm

theorem meetsAny_or {ra rb : Option ApprovalRequirement} {approvals : A}
    (h : ∀ r ∈ ra, ∀ r' ∈ rb, S.meets approvals r ↔ S.meets approvals r') :
    S.MeetsAny approvals (rb.or ra) ↔ S.MeetsAny approvals ra ∧ S.MeetsAny approvals rb := by
  cases ra with
  | none =>
    cases rb with
    | none => exact (and_self_iff (a := True)).symm
    | some => exact (and_iff_right trivial).symm
  | some ra =>
    cases rb with
    | none => exact (and_iff_left trivial).symm
    | some rb =>
      have hsame := h ra rfl rb rfl
      exact ⟨fun hb => ⟨hsame.mpr hb, hb⟩, fun hboth => hboth.2⟩

/-- The conjunction asks for both requirements where it asks for approval. -/
theorem Conjoinable.meetsAny_conjoin (h : Conjoinable upper S a b) (ha : ¬ (a.read upper).Denies)
    (hb : ¬ (b.read upper).Denies)
    (hreq : a.read upper = .requireApproval ∨ b.read upper = .requireApproval)
    {approvals : A} (hmeets : S.MeetsAny approvals (conjoin upper a b).requirement) :
    S.MeetsAny approvals a.requirement ∧ S.MeetsAny approvals b.requirement := by
  have hboth := meetsAny_or fun r hr r' hr' => h.requirements ha hb hreq r hr r' hr' approvals
  rw [(conjoin_requires ha hb hreq).2] at hmeets
  cases hor : b.requirement.or a.requirement with
  | none => exact hboth.mp (hor ▸ trivial)
  | some =>
    rw [hor] at hmeets hboth
    exact hboth.mp hmeets

theorem Conjoinable.requirement_comm (h : Conjoinable upper S a b) (ha : ¬ (a.read upper).Denies)
    (hb : ¬ (b.read upper).Denies)
    (hreq : a.read upper = .requireApproval ∨ b.read upper = .requireApproval)
    (approvals : A) : S.MeetsAny approvals (conjoin upper a b).requirement ↔
      S.MeetsAny approvals (conjoin upper b a).requirement := by
  have hab := h.requirements ha hb hreq
  rw [(conjoin_requires ha hb hreq).2, (conjoin_requires hb ha hreq.symm).2]
  cases hra : a.requirement with
  | none => rw [Option.or_none, Option.none_or]
  | some ra =>
    cases hrb : b.requirement with
    | none => rw [Option.or_none, Option.none_or]
    | some rb => exact (hab ra hra rb hrb approvals).symm

theorem Conjoinable.named_le (h : Conjoinable upper S a b) {o : PolicyOutcome}
    (ho : a.named upper = some o) :
    strictness o ≤ strictness (conjoin upper a b).outcome ∧
      strictness o ≤ strictness (conjoin upper b a).outcome := by
  rcases named_cases ho with hread | ⟨htext, rfl, hread⟩
  · rcases conjoin_cases upper a b with hdeny | ⟨ha, hb, hreq⟩ | ⟨ha, hb⟩
    · rw [conjoin_denies hdeny, conjoin_denies hdeny.symm]
      exact ⟨strictness_le_two o, strictness_le_two o⟩
    · rw [(conjoin_requires ha hb hreq).1, (conjoin_requires hb ha hreq.symm).1]
      have hone := strictness_le_one (hread ▸ ha)
      exact ⟨hone, hone⟩
    · obtain rfl := hread.symm.trans ha
      exact ⟨Nat.zero_le _, Nat.zero_le _⟩
  · have hdeny := h.left htext
    rw [conjoin_denies (.inr hdeny), conjoin_denies (.inl hdeny)]
    exact ⟨le_refl 2, le_refl 2⟩

theorem Conjoinable.law (h : Conjoinable upper S a b) : ConjunctionLaw upper S a b where
  outcome o ho := by
    rcases ho with ho | ho
    · exact (h.named_le ho).1
    · exact (h.symm.named_le ho).2
  requirement hout approvals hmeets := by
    rcases conjoin_cases upper a b with hdeny | ⟨ha, hb, hreq⟩ | ⟨ha, hb⟩
    · nomatch (conjoin_denies hdeny).symm.trans hout
    · exact h.meetsAny_conjoin ha hb hreq hmeets
    · nomatch (conjoin_allows ha hb).1.symm.trans hout
  outcome_comm := by
    rcases conjoin_cases upper a b with hdeny | ⟨ha, hb, hreq⟩ | ⟨ha, hb⟩
    · rw [conjoin_denies hdeny, conjoin_denies hdeny.symm]
    · rw [(conjoin_requires ha hb hreq).1, (conjoin_requires hb ha hreq.symm).1]
    · rw [(conjoin_allows ha hb).1, (conjoin_allows hb ha).1]
  requirement_comm hout approvals := by
    rcases conjoin_cases upper a b with hdeny | ⟨ha, hb, hreq⟩ | ⟨ha, hb⟩
    · nomatch (conjoin_denies hdeny).symm.trans hout
    · exact h.requirement_comm ha hb hreq approvals
    · nomatch (conjoin_allows ha hb).1.symm.trans hout

theorem denies_of_strictness (h : 2 ≤ strictness (conjoin upper a b).outcome) :
    (a.read upper).Denies ∨ (b.read upper).Denies := by
  rcases conjoin_cases upper a b with hdeny | ⟨ha, hb, hreq⟩ | ⟨ha, hb⟩
  · exact hdeny
  · rw [(conjoin_requires ha hb hreq).1] at h
    exact absurd h (by decide)
  · rw [(conjoin_allows ha hb).1] at h
    exact absurd h (by decide)

theorem ConjunctionLaw.conjoinable (h : ConjunctionLaw upper S a b) : Conjoinable upper S a b where
  left htext := by
    obtain ⟨hnamed, hread⟩ := named_of_isNonApprovableText htext
    rcases denies_of_strictness (h.outcome _ (.inl hnamed)) with ha | hb
    · rw [hread] at ha
      exact absurd ha (by decide)
    · exact hb
  right htext := by
    obtain ⟨hnamed, hread⟩ := named_of_isNonApprovableText htext
    rcases denies_of_strictness (h.outcome _ (.inr hnamed)) with ha | hb
    · exact ha
    · rw [hread] at hb
      exact absurd hb (by decide)
  requirements ha hb hreq ra hra rb hrb approvals := by
    obtain ⟨hout, hsome⟩ := conjoin_requires ha hb hreq
    obtain ⟨-, hsome'⟩ := conjoin_requires hb ha hreq.symm
    have hra : a.requirement = some ra := hra
    have hrb : b.requirement = some rb := hrb
    rw [hra, hrb] at hsome hsome'
    -- the conjunction keeps the second requirement, and the other way round the first one
    have hcomm := h.requirement_comm hout approvals
    rw [hsome, hsome'] at hcomm
    exact hcomm.symm

end Law

/-- The conjunction is as strict as each operand exactly for operands that may be conjoined so. -/
theorem conjunctionLaw_iff {A : Type} (upper : String → String) (S : Satisfaction A)
    (a b : Evaluation) : ConjunctionLaw upper S a b ↔ Conjoinable upper S a b :=
  ⟨fun h => h.conjoinable, fun h => h.law⟩

/-- A tenant's `NON_APPROVABLE` is allowed; and of two required roles the second is enough. -/
theorem not_conjunctionLaw :
    ¬ ConjunctionLaw String.toUpper standardSatisfaction
      (.outcome .allow) (.text "NON_APPROVABLE") ∧
    ¬ ConjunctionLaw String.toUpper standardSatisfaction
      (.decision { outcome := .requireApproval, requirement := some (.roleApproval "finance") })
      (.decision { outcome := .requireApproval, requirement := some (.roleApproval "legal") }) := by
  constructor
  · intro hlaw
    exact absurd (hlaw.outcome .nonApprovable (.inr (by decide +kernel))) (by decide +kernel)
  · intro hlaw
    exact absurd (hlaw.requirement rfl [⟨"u", ["legal"]⟩] (by decide +kernel)).1 (by decide +kernel)

end JavisSaas.Agent.Governance
