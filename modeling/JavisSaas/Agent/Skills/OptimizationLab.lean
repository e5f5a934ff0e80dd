import Mathlib.Algebra.Order.Ring.Rat
import Mathlib.Data.List.Chain

/-!
# The lab that optimizes a skill

`SkillOptimizationLab.optimize` of `packages/agent/skills/lab/lab.py`, and `run_suite` of its
executor. The scores are rationals; what mutates a skill is given the round, and makes a new skill.

* `optimizeLaw_iff`: the base skills, scorings and cases for which `improved` can be relied on.
* `not_optimizeLaw_holdout`: an improvement that scores less on the whole suite.
-/

namespace JavisSaas.Agent.Skills

/-! ## `run_suite` and `optimize` -/

/-- A scoring of the cases of a suite, some of which are held out. -/
structure EvalSuite (Skill Case : Type) where
  score : Skill → Case → ℚ
  isHoldout : Case → Bool
  cases : List Case

namespace EvalSuite

variable {Skill Case : Type} (E : EvalSuite Skill Case)

/-- The average that `run_suite` returns. -/
def runSuite (skill : Skill) (includeHoldout : Bool) : ℚ :=
  let scores := (E.cases.filter fun c => includeHoldout || !E.isHoldout c).map (E.score skill)
  if scores = [] then 0 else scores.sum / scores.length

end EvalSuite

structure SkillMutationRecord where
  roundNo : ℕ
  diffSummary : String
  preScore : ℚ
  postScore : ℚ
  accepted : Bool

/-- The candidate while the rounds go on: the best skill so far, and its score. -/
structure SkillCandidateRecord (Skill : Type) where
  proposedContent : Skill
  latestScore : ℚ
  roundNo : ℕ := 0
  mutations : List SkillMutationRecord := []

structure OptimizationResult (Skill : Type) where
  proposedContent : Skill
  baselineScore : ℚ
  finalScore : ℚ
  roundNo : ℕ
  improved : Bool
  mutations : List SkillMutationRecord

section Optimize

variable {Skill Case : Type} (E : EvalSuite Skill Case) (mutate : ℕ → Skill → Skill × String)

/-- One round: the mutated skill is kept if its score is higher, and the old one else. -/
def optimizeRound (record : SkillCandidateRecord Skill) (roundNo : ℕ) :
    SkillCandidateRecord Skill :=
  let (mutated, rationale) := mutate roundNo record.proposedContent
  let newScore := E.runSuite mutated false
  let accepted := newScore > record.latestScore
  let mutations := record.mutations ++
    [⟨roundNo, rationale, record.latestScore, newScore, accepted⟩]
  if accepted then ⟨mutated, newScore, roundNo, mutations⟩ else { record with mutations }

def startRecord (base : Skill) : SkillCandidateRecord Skill := ⟨base, E.runSuite base false, 0, []⟩

def optimizeRounds (base : Skill) (maxRounds : ℕ) : SkillCandidateRecord Skill :=
  (List.range' 1 maxRounds).foldl (optimizeRound E mutate) (startRecord E base)

def optimize (base : Skill) (maxRounds : ℕ) : OptimizationResult Skill :=
  let record := optimizeRounds E mutate base maxRounds
  let baselineScore := E.runSuite base false
  let finalScore := E.runSuite record.proposedContent true
  { proposedContent := record.proposedContent
    baselineScore
    finalScore
    roundNo := record.roundNo
    improved := finalScore > baselineScore ∧ record.roundNo > 0
    mutations := record.mutations }

/-! ## What a result says -/

/-- One skill is a mutation of the other, with a higher score. -/
def Raises (s s' : Skill) : Prop :=
  (∃ roundNo, (mutate roundNo s).1 = s') ∧ E.runSuite s false < E.runSuite s' false

/-- The accepted skills, from the base to the result. -/
structure AcceptedChain (base : Skill) (chain : List Skill) (last : Skill) : Prop where
  first : chain.head? = some base
  last : chain.getLast? = some last
  raises : chain.IsChain (Raises E mutate)

/-- The best skill seen, reached by mutations that each raise the score, and better on the whole
suite. -/
structure OptimizeLaw (base : Skill) (r : OptimizationResult Skill) : Prop where
  best : ∀ m ∈ r.mutations, m.postScore ≤ E.runSuite r.proposedContent false
  chain : ∃ chain, AcceptedChain E mutate base chain r.proposedContent
  improved : r.improved = true → E.runSuite base true < E.runSuite r.proposedContent true

end Optimize

/-! ## When the law holds -/

section

variable {Skill Case : Type} {E : EvalSuite Skill Case} {mutate : ℕ → Skill → Skill × String}
  {base : Skill}

/-- What every round keeps. -/
structure Climbed (E : EvalSuite Skill Case) (mutate : ℕ → Skill → Skill × String) (base : Skill)
    (record : SkillCandidateRecord Skill) : Prop where
  latest : record.latestScore = E.runSuite record.proposedContent false
  best : ∀ m ∈ record.mutations, m.postScore ≤ record.latestScore
  chain : ∃ chain, AcceptedChain E mutate base chain record.proposedContent
  raised : 0 < record.roundNo → E.runSuite base false < record.latestScore

theorem Climbed.round {record : SkillCandidateRecord Skill} (h : Climbed E mutate base record)
    (hbase : E.runSuite base false ≤ record.latestScore) (roundNo : ℕ) :
    Climbed E mutate base (optimizeRound E mutate record roundNo) ∧
      E.runSuite base false ≤ (optimizeRound E mutate record roundNo).latestScore := by
  unfold optimizeRound
  dsimp only
  split_ifs with haccepted
  · obtain ⟨chain, hfirst, hlast, hraises⟩ := h.chain
    refine ⟨⟨rfl, ?_, ⟨chain ++ [(mutate roundNo record.proposedContent).1], ?_, ?_, ?_⟩,
      fun _ => lt_of_le_of_lt hbase haccepted⟩, hbase.trans haccepted.le⟩
    · intro m hm
      rcases List.mem_append.mp hm with hm | hm
      · exact (h.best m hm).trans haccepted.le
      · rw [List.mem_singleton.mp hm]
    · rw [List.head?_append, hfirst]
      rfl
    · simp
    · refine List.isChain_append.mpr ⟨hraises, List.isChain_singleton _, ?_⟩
      intro s hs s' hs'
      rw [hlast, Option.mem_some_iff] at hs
      rw [List.head?_singleton, Option.mem_some_iff] at hs'
      subst hs hs'
      exact ⟨⟨roundNo, rfl⟩, h.latest ▸ haccepted⟩
  · refine ⟨⟨h.latest, ?_, h.chain, h.raised⟩, hbase⟩
    intro m hm
    rcases List.mem_append.mp hm with hm | hm
    · exact h.best m hm
    · rw [List.mem_singleton.mp hm]
      exact not_lt.mp haccepted

theorem climbed_optimizeRounds (E : EvalSuite Skill Case) (mutate : ℕ → Skill → Skill × String)
    (base : Skill) (maxRounds : ℕ) :
    Climbed E mutate base (optimizeRounds E mutate base maxRounds) := by
  have hfold : ∀ (rounds : List ℕ) (record : SkillCandidateRecord Skill),
      Climbed E mutate base record → E.runSuite base false ≤ record.latestScore →
        Climbed E mutate base (rounds.foldl (optimizeRound E mutate) record) := by
    intro rounds
    induction rounds with
    | nil => exact fun _ h _ => h
    | cons roundNo _ ih =>
      intro record h hbase
      obtain ⟨h', hbase'⟩ := h.round hbase roundNo
      exact ih _ h' hbase'
  exact hfold _ _ ⟨rfl, fun _ hm => absurd hm List.not_mem_nil,
    ⟨[base], rfl, rfl, List.isChain_singleton _⟩,
    fun h => absurd h (Nat.lt_irrefl 0)⟩ le_rfl

end

/-- The law, exactly if no skill better than the base on the cases that are not held out scores, on
the whole suite, between the two scores of the base. -/
theorem optimizeLaw_iff {Skill Case : Type} (E : EvalSuite Skill Case) (base : Skill) :
    (∀ (mutate : ℕ → Skill → Skill × String) (maxRounds : ℕ),
      OptimizeLaw E mutate base (optimize E mutate base maxRounds)) ↔
    ∀ s, E.runSuite base false < E.runSuite s false → E.runSuite base false < E.runSuite s true →
      E.runSuite base true < E.runSuite s true := by
  constructor
  · intro h s hraised hfinal
    have hrecord : optimizeRounds E (fun _ _ => (s, "")) base 1 =
        ⟨s, E.runSuite s false, 1, [⟨1, "", E.runSuite base false, E.runSuite s false, true⟩]⟩ := by
      simp [optimizeRounds, optimizeRound, startRecord, hraised]
    have himproved := (h (fun _ _ => (s, "")) 1).improved
    simp only [optimize, hrecord] at himproved
    exact himproved (decide_eq_true ⟨hfinal, Nat.one_pos⟩)
  · intro h mutate maxRounds
    have hclimbed := climbed_optimizeRounds E mutate base maxRounds
    refine ⟨fun m hm => hclimbed.latest ▸ hclimbed.best m hm, hclimbed.chain, fun himproved => ?_⟩
    obtain ⟨hfinal, hround⟩ := of_decide_eq_true himproved
    exact h _ (hclimbed.latest ▸ hclimbed.raised hround) hfinal

/-- A skill scores each case by its number, and the base the held out one in full. -/
def heldOut : EvalSuite ℚ Bool where
  score skill case := if skill = 0 ∧ case then 1 else skill
  isHoldout := id
  cases := [false, true]

theorem not_optimizeLaw_holdout :
    ¬OptimizeLaw heldOut (fun _ _ => (1 / 4, "")) 0
      (optimize heldOut (fun _ _ => (1 / 4, "")) 0 1) := by
  intro h
  exact absurd (h.improved (by decide +kernel)) (by decide +kernel)

end JavisSaas.Agent.Skills
