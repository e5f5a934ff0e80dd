import Mathlib.Data.List.Sort
import Mathlib.Data.Rat.Init
import JavisSaas.Lib.Dict

/-!
# Skills and their candidates

`packages/agent/skills/contracts.py`. SHA-256 over the sorted JSON of the hashed data is a
parameter `digest`. `R` are the reference templates of a skill, a JSON object.

* `SkillSpec.computeHash`: the hash of a skill, which leaves out its status and its texts for
  display.
-/

namespace JavisSaas.Agent.Skills

open JavisSaas.Lib

inductive ProjectLifecycleStage where
  | p0Discovery
  | p1ProblemValidation
  | p2SolutionValidation
  | p3BuildValidate
  | p4GoToMarket
  | p5OperateGrowth
  | p6ScaleGovern
  deriving DecidableEq

structure LifecycleApplicability where
  projectStages : List ProjectLifecycleStage := [.p0Discovery]
  gates : List String := []
  requiredContext : List String := []
  outputs : List String := []
  deriving DecidableEq

inductive AutonomyCeiling where
  | l0Observe
  | l1Propose
  | l2Bounded
  deriving DecidableEq

inductive SideEffectClass where
  | R
  | A
  | B
  | X
  | M
  | D
  deriving DecidableEq

structure AutonomyPolicy where
  ceiling : AutonomyCeiling := .l0Observe
  sideEffectClass : SideEffectClass := .R
  deriving DecidableEq

structure EvidenceRequirement where
  minSourceRefs : ℕ := 0
  freshnessDays : Option ℕ := none
  selfValidationForbidden : Bool := true
  deriving DecidableEq

structure SkillQualitySpec where
  evalSuite : String
  requiredNegativeCases : List String
  deriving DecidableEq

inductive SkillStatus where
  | draft
  | candidate
  | evaluated
  | approved
  | published
  | retired
  deriving DecidableEq

structure SkillSpec (R : Type) where
  id : String
  version : String := "1.0.0"
  name : String := ""
  description : String := ""
  instructions : String := ""
  applicability : LifecycleApplicability := {}
  autonomy : AutonomyPolicy := {}
  evidenceRequirement : EvidenceRequirement := {}
  quality : Option SkillQualitySpec := none
  requiredCapabilities : List String := []
  requiredKnowledge : List String := []
  references : R
  status : SkillStatus := .published
  publisher : String := "cosa_platform"
  createdAt : ℤ
  definitionHash : Option String := none
  deriving DecidableEq

/-- The data that `compute_hash` dumps. -/
structure HashedSkill (R : Type) where
  id : String
  version : String
  instructions : String
  applicability : LifecycleApplicability
  autonomy : AutonomyPolicy
  evidenceRequirement : EvidenceRequirement
  quality : Option SkillQualitySpec
  requiredCapabilities : List String
  requiredKnowledge : List String
  references : R

structure SkillCandidate (R : Type) where
  candidateId : String
  parentRunId : String
  proposedSkill : SkillSpec R
  evidenceRefs : List String := []
  evalScore : ℚ := 0
  status : SkillStatus := .candidate
  definitionHash : Option String := none
  promotionApprovalId : Option String := none
  promotionDefinitionHash : Option String := none
  deriving DecidableEq

variable {R : Type} (digest : HashedSkill R → String)

def SkillSpec.hashed (spec : SkillSpec R) : HashedSkill R where
  id := spec.id
  version := spec.version
  instructions := spec.instructions
  applicability := spec.applicability
  autonomy := spec.autonomy
  evidenceRequirement := spec.evidenceRequirement
  quality := spec.quality
  requiredCapabilities := spec.requiredCapabilities.insertionSort (· ≤ ·)
  requiredKnowledge := spec.requiredKnowledge.insertionSort (· ≤ ·)
  references := spec.references

def SkillSpec.computeHash (spec : SkillSpec R) : String := digest spec.hashed

/-- The text of a definition hash, `f"sha256:{spec.compute_hash()}"`. -/
def SkillSpec.sha256 (spec : SkillSpec R) : String := "sha256:" ++ spec.computeHash digest

theorem SkillSpec.truthy_sha256 (spec : SkillSpec R) : truthy (some (spec.sha256 digest)) = true := by
  have hne : spec.sha256 digest ≠ "" := by
    intro h
    have hlength := congrArg String.length h
    rw [SkillSpec.sha256, String.length_append] at hlength
    exact absurd (Nat.eq_zero_of_add_eq_zero_right hlength) (by decide)
  exact decide_eq_true hne

namespace SkillCandidate

/-- What a read returns: the hash is computed where none is stored. -/
def withHash (cand : SkillCandidate R) : SkillCandidate R :=
  { cand with
    definitionHash := if truthy cand.definitionHash then cand.definitionHash
      else some (cand.proposedSkill.sha256 digest) }

/-- A candidate and its skill get the hash of each other where they have none. -/
def withHashes (candidate : SkillCandidate R) : SkillCandidate R :=
  let cand := candidate.withHash digest
  { cand with
    proposedSkill := { cand.proposedSkill with
      definitionHash := if truthy cand.proposedSkill.definitionHash then
        cand.proposedSkill.definitionHash else cand.definitionHash } }

variable (cand : SkillCandidate R)

/-- The stored hash is the hash of the stored skill. -/
def Hashed : Prop := cand.definitionHash = some (cand.proposedSkill.sha256 digest)
deriving Decidable

theorem withHash_eq_self {cand : SkillCandidate R} (h : cand.Hashed digest) :
    cand.withHash digest = cand := by
  have htruthy : truthy cand.definitionHash = true := by
    rw [h]
    exact cand.proposedSkill.truthy_sha256 digest
  rw [withHash, if_pos htruthy]

@[simp] theorem candidateId_withHashes :
    (cand.withHashes digest).candidateId = cand.candidateId := rfl

@[simp] theorem status_withHashes : (cand.withHashes digest).status = cand.status := rfl

@[simp] theorem skillId_withHashes :
    (cand.withHashes digest).proposedSkill.id = cand.proposedSkill.id := rfl

end SkillCandidate

end JavisSaas.Agent.Skills
