import Mathlib.Algebra.Field.Basic
import Mathlib.Algebra.Field.Rat
import Mathlib.Algebra.Order.Ring.Rat
import Mathlib.Data.List.GetD
import Mathlib.Data.Nat.Cast.Order.Ring
import JavisSaas.Agent.Skills.ImprovementRepository

/-!
# The window in which a skill degrades

The feedbacks of one skill, one after another, with exact rationals as scores. For one version both
repositories keep the same window.

* `degradationLaw_iff`: the scores of which a fall from one full window to a later one is noticed.
* `not_degradationLaw_default`: with the default policy, ten good scores and then ten bad ones.
-/

namespace JavisSaas.Agent.Skills

open JavisSaas.Lib ImprovementStore

/-! ## The feedbacks of a skill -/

def exactScores : ScoreOps ℚ where
  zero := 0
  one := 1
  ratio rating := rating / 5
  lt a b := a < b
  le a b := a ≤ b
  sum := List.sum
  div a n := a / n
  sub a b := a - b

/-- A policy whose sample minimum is positive and not above the window. -/
structure WindowPolicy extends ImprovementPolicy ℚ where
  positive : 0 < minFeedbackSamples
  fits : minFeedbackSamples ≤ feedbackWindowSize

/-- Feedbacks of one skill version under their ids, with increasing creation times. -/
structure FeedbackSequence where
  pin : SkillPin
  feedbacks : List (String × StoredFeedback)
  samePin : ∀ f ∈ feedbacks, f.2.pin = pin
  increasing : feedbacks.Pairwise (·.2.createdAt < ·.2.createdAt)
  nodup : (feedbacks.map (·.1)).Nodup

/-- The call for a feedback that is new, with no other call beside it. -/
def recordFeedback (policy : ImprovementPolicy ℚ) (s : ImprovementStore ℚ)
    (f : String × StoredFeedback) : ImprovementStore ℚ :=
  let aggregate := s.nextAggregate exactScores policy f.2
  let disposition := policy.disposition aggregate
  let live := if disposition = .queued then s.liveRequest f.2.pin else none
  s.commit ⟨f.1, f.2, aggregate, disposition, live, policy.policyHash⟩ {}

def recordAll (policy : ImprovementPolicy ℚ) (fs : List (String × StoredFeedback)) :
    ImprovementStore ℚ :=
  fs.foldl (recordFeedback policy) {}

def scoresOf (fs : List (String × StoredFeedback)) : List ℚ :=
  fs.map fun f => exactScores.score f.2.success f.2.rating

/-! ## Falling means -/

/-- The mean of the last scores, as many as the window has. -/
def windowMean (size : ℕ) (xs : List ℚ) : ℚ :=
  (xs.reverse.take size).sum / (xs.reverse.take size).length

section Law

variable (policy : ImprovementPolicy ℚ) (xs : List ℚ)

/-- The mean after the first `t` scores. -/
def meanAt (t : ℕ) : ℚ := windowMean policy.feedbackWindowSize (xs.take t)

/-- The full window that ends at `e` is low, by the delta lower than the one that ends at `a` before
it. -/
def Falls (a e : ℕ) : Prop :=
  (policy.feedbackWindowSize ≤ a ∧ a + policy.feedbackWindowSize ≤ e ∧ e ≤ xs.length) ∧
    meanAt policy xs e ≤ policy.lowScoreThreshold ∧
    policy.minimumDegradationDelta ≤ meanAt policy xs a - meanAt policy xs e
deriving Decidable

def AnsweredDegrading (answers : List (FeedbackWriteResult ℚ)) (t : ℕ) : Prop :=
  ∃ r, answers[t]? = some r ∧ r.feedbackHealth = .degrading

structure DegradationLaw (answers : List (FeedbackWriteResult ℚ)) : Prop where
  mean : answers.map (·.aggregateScore) =
    (List.range xs.length).map fun t => meanAt policy xs (t + 1)
  falls : ∀ a e, Falls policy xs a e →
    ∃ t, e - policy.feedbackWindowSize ≤ t ∧ t < e ∧ AnsweredDegrading answers t
  calm : (∀ a e, 0 < a → a < e → e ≤ xs.length →
      meanAt policy xs a - meanAt policy xs e < policy.minimumDegradationDelta) →
    ∀ t, ¬AnsweredDegrading answers t

/-- The score pushes one out that is higher by the delta for each place, and the mean is low then. -/
def DropsAt (t : ℕ) : Prop :=
  meanAt policy xs (t + 1) ≤ policy.lowScoreThreshold ∧
    policy.feedbackWindowSize * policy.minimumDegradationDelta ≤
      xs.getD (t - policy.feedbackWindowSize) 0 - xs.getD t 0

/-- The answer to the feedback at `t` is `DEGRADING`. -/
def Degrades (t : ℕ) : Prop :=
  policy.minFeedbackSamples ≤ min policy.feedbackWindowSize (t + 1) ∧
    meanAt policy xs (t + 1) ≤ policy.lowScoreThreshold ∧ 0 < t ∧
    policy.minimumDegradationDelta ≤ meanAt policy xs t - meanAt policy xs (t + 1)
deriving Decidable

end Law

/-! ## Every answer -/

section

variable {policy : ImprovementPolicy ℚ} {pin : SkillPin} {s : ImprovementStore ℚ}
  {f : String × StoredFeedback} {fs : List (String × StoredFeedback)} {xs : List ℚ}

theorem insertionSort_eq_reverse {α : Type} (r : α → α → Prop) [DecidableRel r] {l : List α}
    (h : l.Pairwise fun a b => ¬r a b) : l.insertionSort r = l.reverse := by
  have hlast : ∀ (a : α) (l : List α), (∀ b ∈ l, ¬r a b) → l.orderedInsert r a = l ++ [a] := by
    intro a l hl
    induction l with
    | nil => rfl
    | cons b _ ih =>
      rw [List.orderedInsert, if_neg (hl b List.mem_cons_self),
        ih fun b hb => hl b (List.mem_cons_of_mem _ hb), List.cons_append]
  induction h with
  | nil => rfl
  | cons hall _ ih =>
    rw [List.insertionSort_cons, ih, List.reverse_cons]
    exact hlast _ _ fun b hb => hall b (List.mem_reverse.mp hb)

theorem window_eq (hitems : s.feedback.items = fs) (hpins : ∀ g ∈ fs, g.2.pin = f.2.pin)
    (hincreasing : (fs ++ [f]).Pairwise (·.2.createdAt < ·.2.createdAt)) (size : ℕ) :
    s.window f.2 size = ((fs ++ [f]).map (·.2)).reverse.take size := by
  obtain ⟨hfs, -, hlast⟩ := List.pairwise_append.mp hincreasing
  have hvalues : s.feedback.values = fs.map (·.2) := by rw [Dict.values, hitems]
  have hall : s.feedback.values.filter (fun r => r.pin.workspaceId = f.2.pin.workspaceId ∧
      r.pin.skillId = f.2.pin.skillId ∧ r.pin.definitionHash = f.2.pin.definitionHash) =
        fs.map (·.2) := by
    rw [hvalues, List.filter_eq_self]
    intro r hr
    obtain ⟨g, hg, rfl⟩ := List.mem_map.mp hr
    simp [hpins g hg]
  have hsorted : (fs.map (·.2)).Pairwise fun a b => ¬b.createdAt ≤ a.createdAt :=
    List.pairwise_map.mpr (hfs.imp fun hlt => Int.not_le.mpr hlt)
  have hnewest : ∀ r ∈ fs.map (·.2), r.createdAt ≤ f.2.createdAt := by
    intro r hr
    obtain ⟨g, hg, rfl⟩ := List.mem_map.mp hr
    exact (hlast g hg f (List.mem_singleton_self f)).le
  have hfirst : (f.2 :: fs.map (·.2)).insertionSort (fun a b => b.createdAt ≤ a.createdAt) =
      f.2 :: (fs.map (·.2)).insertionSort fun a b => b.createdAt ≤ a.createdAt :=
    List.insertionSort_cons_of_forall_rel _ hnewest
  rw [window, hall, hfirst, insertionSort_eq_reverse _ hsorted, List.map_append,
    List.reverse_append]
  rfl

theorem latestAggregate_commit {w : FeedbackWrite ℚ} {a : ImprovementAnswers}
    (hpin : w.aggregate.pin = pin)
    (hnew : ∀ c ∈ s.latestAggregate pin, c.revision < w.aggregate.revision) :
    (s.commit w a).latestAggregate pin = some w.aggregate := by
  unfold latestAggregate at hnew ⊢
  have happend : (s.commit w a).aggregatesOf pin = s.aggregatesOf pin ++ [w.aggregate] := by
    simp [aggregatesOf, commit, List.filter_append, hpin]
  rw [happend, List.argmax_concat]
  cases hlatest : (s.aggregatesOf pin).argmax (·.revision) with
  | none => rfl
  | some c => exact if_pos (hnew c hlatest)

/-- What the store holds after the feedbacks. -/
structure Measured (policy : ImprovementPolicy ℚ) (pin : SkillPin)
    (fs : List (String × StoredFeedback)) (s : ImprovementStore ℚ) : Prop where
  stored : s.feedback.items = fs
  latest : (s.latestAggregate pin).map (·.aggregateScore) =
    if fs = [] then none else some (meanAt policy (scoresOf fs) fs.length)
  answers : s.results.map (fun r => (r.aggregateScore, decide (r.feedbackHealth = .degrading))) =
    (List.range fs.length).map fun t =>
      (meanAt policy (scoresOf fs) (t + 1), decide (Degrades policy (scoresOf fs) t))

theorem meanAt_concat {x : ℚ} {t : ℕ} (h : t ≤ xs.length) :
    meanAt policy (xs ++ [x]) t = meanAt policy xs t := by
  rw [meanAt, List.take_append_of_le_length h, meanAt]

theorem degrades_concat {x : ℚ} {t : ℕ} (h : t < xs.length) :
    Degrades policy (xs ++ [x]) t ↔ Degrades policy xs t := by
  rw [Degrades, meanAt_concat h, meanAt_concat h.le, Degrades]

theorem length_scoresOf (fs : List (String × StoredFeedback)) :
    (scoresOf fs).length = fs.length := List.length_map _

theorem scoresOf_concat : scoresOf (fs ++ [f]) =
    scoresOf fs ++ [exactScores.score f.2.success f.2.rating] := List.map_append

section Step

variable (hM : Measured policy pin fs s) (hpins : ∀ g ∈ fs ++ [f], g.2.pin = pin)
  (hincreasing : (fs ++ [f]).Pairwise (·.2.createdAt < ·.2.createdAt))
include hM hpins hincreasing

theorem Measured.window : s.window f.2 policy.feedbackWindowSize =
    ((fs ++ [f]).map (·.2)).reverse.take policy.feedbackWindowSize := by
  have hself : f.2.pin = pin := hpins f List.mem_concat_self
  exact window_eq hM.stored (fun g hg => (hpins g (List.mem_append_left _ hg)).trans hself.symm)
    hincreasing _

theorem Measured.score : (s.nextAggregate exactScores policy f.2).aggregateScore =
    meanAt policy (scoresOf (fs ++ [f])) (fs.length + 1) := by
  have hscores : (s.window f.2 policy.feedbackWindowSize).map
      (fun r => exactScores.score r.success r.rating) =
        (scoresOf (fs ++ [f])).reverse.take policy.feedbackWindowSize := by
    rw [hM.window hpins hincreasing, List.map_take, List.map_reverse, List.map_map]
    rfl
  have hlength := congrArg List.length hscores
  rw [List.length_map] at hlength
  have htake : (scoresOf (fs ++ [f])).take (fs.length + 1) = scoresOf (fs ++ [f]) :=
    List.take_of_length_le (by simp [length_scoresOf])
  simp only [nextAggregate, meanAt, windowMean, htake, hscores, hlength]
  split_ifs with hzero
  · rw [hzero, Nat.cast_zero, div_zero]
    rfl
  · rfl

theorem Measured.degrading : (s.nextAggregate exactScores policy f.2).health = .degrading ↔
    Degrades policy (scoresOf (fs ++ [f])) fs.length := by
  have hscore := hM.score hpins hincreasing
  have hcount : (s.nextAggregate exactScores policy f.2).sampleCount =
      min policy.feedbackWindowSize (fs.length + 1) := by
    simp [nextAggregate, hM.window hpins hincreasing]
  have hbefore : meanAt policy (scoresOf (fs ++ [f])) fs.length =
      meanAt policy (scoresOf fs) fs.length := by
    rw [scoresOf_concat, meanAt_concat (length_scoresOf fs).ge]
  have hdelta : (s.nextAggregate exactScores policy f.2).degradationDelta.any
      (exactScores.le policy.minimumDegradationDelta) = true ↔
      0 < fs.length ∧ policy.minimumDegradationDelta ≤
        meanAt policy (scoresOf (fs ++ [f])) fs.length -
          meanAt policy (scoresOf (fs ++ [f])) (fs.length + 1) := by
    change ((s.latestAggregate f.2.pin).map fun a => exactScores.sub a.aggregateScore
      (s.nextAggregate exactScores policy f.2).aggregateScore).any _ = true ↔ _
    rw [hpins f List.mem_concat_self, hscore, hbefore]
    have hlatest := hM.latest
    cases hfind : s.latestAggregate pin with
    | none =>
      rw [hfind] at hlatest
      split_ifs at hlatest with hnil
      · simp [hnil]
      · cases hlatest
    | some =>
      rw [hfind] at hlatest
      split_ifs at hlatest with hnil
      · cases hlatest
      · rw [← Option.some.inj hlatest]
        simp [exactScores, List.length_pos_iff.mpr hnil]
  have hhealth : (s.nextAggregate exactScores policy f.2).health =
      if (s.nextAggregate exactScores policy f.2).sampleCount < policy.minFeedbackSamples then
        .insufficientSamples
      else if exactScores.le (s.nextAggregate exactScores policy f.2).aggregateScore
            policy.lowScoreThreshold ∧
          (s.nextAggregate exactScores policy f.2).degradationDelta.any
            (exactScores.le policy.minimumDegradationDelta) then .degrading
      else .stable := rfl
  rw [hhealth, hcount, hscore, Degrades]
  split_ifs with hfew hlow
  · exact iff_of_false nofun fun h => absurd h.1 (not_le.mpr hfew)
  · exact iff_of_true rfl ⟨not_lt.mp hfew, of_decide_eq_true hlow.1, hdelta.mp hlow.2⟩
  · exact iff_of_false nofun fun h => hlow ⟨decide_eq_true h.2.1, hdelta.mpr h.2.2⟩

theorem Measured.step (hnew : f.1 ∉ fs.map (·.1)) :
    Measured policy pin (fs ++ [f]) (recordFeedback policy s f) where
  stored := by
    have hnone : s.feedback.get? f.1 = none := by
      rw [Dict.get?_eq_none, Dict.keys, hM.stored]
      exact hnew
    rw [← hM.stored]
    exact Dict.items_set_of_get?_eq_none hnone f.2
  latest := by
    have hpin : f.2.pin = pin := hpins f List.mem_concat_self
    rw [recordFeedback, latestAggregate_commit hpin, Option.map_some,
      hM.score hpins hincreasing, if_neg (by simp), List.length_append]
    · rfl
    · intro c hc
      change c.revision < (s.latestAggregate f.2.pin).elim 1 (·.revision + 1)
      rw [hpin, Option.mem_def.mp hc]
      exact Nat.lt_succ_self _
  answers := by
    have hresults : (recordFeedback policy s f).results.map
        (fun r => (r.aggregateScore, decide (r.feedbackHealth = .degrading))) =
        s.results.map (fun r => (r.aggregateScore, decide (r.feedbackHealth = .degrading))) ++
          [((s.nextAggregate exactScores policy f.2).aggregateScore,
            decide ((s.nextAggregate exactScores policy f.2).health = .degrading))] :=
      List.map_append
    rw [hresults, hM.answers, List.length_append, List.length_singleton, List.range_succ,
      List.map_append, hM.score hpins hincreasing,
      decide_eq_decide.mpr (hM.degrading hpins hincreasing)]
    congr 1
    refine List.map_congr_left fun t ht => ?_
    have ht : t < (scoresOf fs).length := length_scoresOf fs ▸ List.mem_range.mp ht
    rw [scoresOf_concat, meanAt_concat ht, decide_eq_decide.mpr (degrades_concat ht)]

end Step

theorem measured_recordAll (policy : ImprovementPolicy ℚ) (pin : SkillPin)
    {fs : List (String × StoredFeedback)} (hpins : ∀ g ∈ fs, g.2.pin = pin)
    (hincreasing : fs.Pairwise (·.2.createdAt < ·.2.createdAt)) (hnodup : (fs.map (·.1)).Nodup) :
    Measured policy pin fs (recordAll policy fs) := by
  induction fs using List.reverseRecOn with
  | nil => exact ⟨rfl, rfl, rfl⟩
  | append_singleton _ _ ih =>
    rw [List.map_append] at hnodup
    obtain ⟨hfs, -, hnew⟩ := List.nodup_append.mp hnodup
    have hM := ih (fun g hg => hpins g (List.mem_append_left _ hg))
      (List.pairwise_append.mp hincreasing).1 hfs
    rw [recordAll, List.foldl_append]
    exact hM.step hpins hincreasing fun hmem => hnew _ hmem _ (List.mem_singleton_self _) rfl

theorem answeredDegrading_iff (hM : Measured policy pin fs s) {t : ℕ} :
    AnsweredDegrading s.results t ↔ t < fs.length ∧ Degrades policy (scoresOf fs) t := by
  have hat := congrArg (·[t]?) hM.answers
  simp only [List.getElem?_map] at hat
  by_cases ht : t < fs.length
  · rw [List.getElem?_range ht] at hat
    obtain ⟨r, hr, hanswer⟩ := Option.map_eq_some_iff.mp hat
    have hdegrading := decide_eq_decide.mp (Prod.mk.inj hanswer).2
    rw [and_iff_right ht, ← hdegrading, AnsweredDegrading, hr]
    simp
  · have hnone : (List.range fs.length)[t]? = none :=
      List.getElem?_eq_none (List.length_range ▸ not_lt.mp ht)
    rw [hnone, Option.map_none] at hat
    refine iff_of_false (fun ⟨r, hr, _⟩ => ?_) fun h => ht h.1
    rw [hr] at hat
    cases hat

theorem windowMean_concat (xs : List ℚ) {size : ℕ} (x : ℚ) (hpos : 0 < size) (h : size ≤ xs.length) :
    windowMean size xs - windowMean size (xs ++ [x]) =
      (xs.getD (xs.length - size) 0 - x) / size := by
  obtain ⟨w, rfl⟩ := Nat.exists_eq_add_one.mpr hpos
  have hlast : xs.reverse.take (w + 1) =
      xs.reverse.take w ++ [xs.getD (xs.length - (w + 1)) 0] := by
    rw [List.take_add_one, List.getElem?_reverse h, Nat.sub_sub, Nat.add_comm 1,
      List.getElem?_eq_getElem (by omega), List.getD_eq_getElem _ _ (by omega)]
    rfl
  have hnext : (xs ++ [x]).reverse.take (w + 1) = x :: xs.reverse.take w := by
    rw [List.reverse_append]
    rfl
  have hlength : (xs.reverse.take w).length = w := by
    rw [List.length_take, List.length_reverse]
    omega
  rw [windowMean, windowMean, hlast, hnext, List.sum_append, List.sum_singleton, List.sum_cons,
    List.length_append, List.length_singleton, List.length_cons, hlength, ← sub_div,
    add_comm x, add_sub_add_left_eq_sub]

theorem meanAt_sub {t : ℕ} (hpos : 0 < policy.feedbackWindowSize)
    (h : policy.feedbackWindowSize ≤ t) (ht : t < xs.length) :
    meanAt policy xs t - meanAt policy xs (t + 1) =
      (xs.getD (t - policy.feedbackWindowSize) 0 - xs.getD t 0) / policy.feedbackWindowSize := by
  have hlength : (xs.take t).length = t := List.length_take_of_le ht.le
  have hfirst : (xs.take t).getD (t - policy.feedbackWindowSize) 0 =
      xs.getD (t - policy.feedbackWindowSize) 0 := by
    rw [List.getD_eq_getElem?_getD, List.getElem?_take_of_lt (by omega),
      List.getD_eq_getElem?_getD]
  have hstep := windowMean_concat (xs.take t) xs[t] hpos (h.trans_eq hlength.symm)
  rwa [hlength, hfirst, ← List.take_succ_eq_append_getElem ht, ← List.getD_eq_getElem _ 0 ht]
    at hstep

theorem degrades_iff (hpositive : 0 < policy.minFeedbackSamples)
    (hfits : policy.minFeedbackSamples ≤ policy.feedbackWindowSize) {t : ℕ}
    (h : policy.feedbackWindowSize ≤ t) (ht : t < xs.length) :
    Degrades policy xs t ↔ DropsAt policy xs t := by
  have hsize : (0 : ℚ) < policy.feedbackWindowSize := Nat.cast_pos.mpr (hpositive.trans_le hfits)
  rw [Degrades, DropsAt, meanAt_sub (hpositive.trans_le hfits) h ht, le_div_iff₀ hsize, mul_comm]
  constructor
  · exact fun hd => ⟨hd.2.1, hd.2.2.2⟩
  · exact fun hd => ⟨by omega, hd.1, by omega, hd.2⟩

end

/-- The law, exactly if the later window of every fall has a score so far below the one it pushes
out. -/
theorem degradationLaw_iff (policy : WindowPolicy) (sequence : FeedbackSequence) :
    DegradationLaw policy.toImprovementPolicy (scoresOf sequence.feedbacks)
      (recordAll policy.toImprovementPolicy sequence.feedbacks).results ↔
    ∀ a e, Falls policy.toImprovementPolicy (scoresOf sequence.feedbacks) a e →
      ∃ t, e - policy.feedbackWindowSize ≤ t ∧ t < e ∧
        DropsAt policy.toImprovementPolicy (scoresOf sequence.feedbacks) t := by
  have hM := measured_recordAll policy.toImprovementPolicy sequence.pin sequence.samePin
    sequence.increasing sequence.nodup
  have hdrops : ∀ {a e t}, Falls policy.toImprovementPolicy (scoresOf sequence.feedbacks) a e →
      e - policy.feedbackWindowSize ≤ t → t < e →
      (AnsweredDegrading (recordAll policy.toImprovementPolicy sequence.feedbacks).results t ↔
        DropsAt policy.toImprovementPolicy (scoresOf sequence.feedbacks) t) := by
    intro a e t hfalls hfrom hto
    obtain ⟨⟨hfull, hafter, hend⟩, -⟩ := hfalls
    have ht : t < (scoresOf sequence.feedbacks).length := by omega
    rw [answeredDegrading_iff hM, degrades_iff policy.positive policy.fits (by omega) ht]
    exact and_iff_right (length_scoresOf _ ▸ ht)
  constructor
  · intro h a e hfalls
    obtain ⟨t, hfrom, hto, hanswer⟩ := h.falls a e hfalls
    exact ⟨t, hfrom, hto, (hdrops hfalls hfrom hto).mp hanswer⟩
  · intro h
    refine ⟨?_, fun a e hfalls => ?_, fun hcalm t hanswer => ?_⟩
    · have hmeans := congrArg (List.map Prod.fst) hM.answers
      rw [List.map_map, List.map_map, ← length_scoresOf] at hmeans
      exact hmeans
    · obtain ⟨t, hfrom, hto, hdrop⟩ := h a e hfalls
      exact ⟨t, hfrom, hto, (hdrops hfalls hfrom hto).mpr hdrop⟩
    · obtain ⟨ht, -, -, hpos, hdelta⟩ := (answeredDegrading_iff hM).mp hanswer
      have hless := hcalm t (t + 1) hpos (Nat.lt_succ_self t) (length_scoresOf _ ▸ ht)
      exact absurd hdelta (not_le.mpr hless)

/-- The default policy. -/
def defaultWindow : WindowPolicy where
  lowScoreThreshold := 3 / 5
  minimumDegradationDelta := 3 / 20
  positive := by decide
  fits := by decide

/-- Ten good feedbacks, then ten bad ones. -/
def tenThenTen : FeedbackSequence where
  pin := ⟨"ws", "skill", "1", "sha"⟩
  feedbacks := (List.range 20).map fun i =>
    (toString i, ⟨⟨"ws", "skill", "1", "sha"⟩, none, i < 10, none, (i : ℤ)⟩)
  samePin := by decide +kernel
  increasing := by decide +kernel
  nodup := by decide +kernel

theorem not_degradationLaw_default :
    ¬DegradationLaw defaultWindow.toImprovementPolicy (scoresOf tenThenTen.feedbacks)
      (recordAll defaultWindow.toImprovementPolicy tenThenTen.feedbacks).results := by
  intro h
  obtain ⟨t, -, -, r, hr, hdegrading⟩ := h.falls 10 20 (by decide +kernel)
  have hnone : ∀ r ∈ (recordAll defaultWindow.toImprovementPolicy tenThenTen.feedbacks).results,
      r.feedbackHealth ≠ .degrading := by decide +kernel
  exact hnone r (List.mem_of_getElem? hr) hdegrading

end JavisSaas.Agent.Skills
