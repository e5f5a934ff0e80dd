import JavisSaas.Lib.Fallible
import JavisSaas.Lib.Json

/-!
# Criteria that are checked on the facts of a run

`packages/agent/verification/models.py`, `deterministic.py` and `combine.py`.

* `evaluateDeterministic_pass_iff`: a deterministic criterion passes exactly if its predicate holds
  on the facts.
* `combine_eq_pass`: the verdict is `PASS` exactly if every required criterion passed.
-/

namespace JavisSaas.Agent.Verification

open JavisSaas.Lib

/-! ## Models -/

inductive Verdict
  | pass
  | fail
  | inconclusive
  deriving DecidableEq

def Verdict.value : Verdict → String
  | pass => "PASS"
  | fail => "FAIL"
  | inconclusive => "INCONCLUSIVE"

inductive CriterionVerdict
  | pass
  | fail
  | unclear
  deriving DecidableEq

def CriterionVerdict.value : CriterionVerdict → String
  | pass => "pass"
  | fail => "fail"
  | unclear => "unclear"

/-- `CriterionVerdict(value)` -/
def CriterionVerdict.ofText? (s : Text) : Option CriterionVerdict :=
  [pass, fail, unclear].find? fun v => text v.value = s

structure CriterionResult where
  id : Text
  required : Bool
  check : Text
  verdict : CriterionVerdict
  reason : Text

structure ArtifactFact where
  kind : Text
  displayName : Text

structure RunFacts where
  outputText : Text
  structuredOutput : Option Json
  artifacts : List ArtifactFact
  /-- The values of the key results; `none` could not be read. -/
  metrics : Dict Text (Option PyFloat) := ∅
  metricsBefore : Dict Text (Option PyFloat) := ∅

/-! ## Predicates -/

/-- `bool(c.get("required", True))` -/
def isRequired (criterion : Json) : Bool := (criterion.get? "required").elim true Json.truthy

def result (criterion : Json) (verdict : CriterionVerdict) (reason : String) : CriterionResult where
  id := match criterion.get? "id" with
    | some (.str cid) => cid
    | _ => []
  required := isRequired criterion
  check := text "deterministic"
  verdict
  reason := text reason

def artifactKinds : List Text := ["assistant_output", "report", "table", "file_export"].map text

abbrev Args := List (Text × Json)

def Args.get? (args : Args) (key : String) : Option Json := Dict.lookup args (text key)

/-- A text that may be missing or `None`. -/
def optionalText : Option Json → Option (Option Text)
  | none | some .null => some none
  | some (.str s) => some (some s)
  | some _ => none

/-- The kind and the part of the name that `_artifact_exists` looks for. -/
def artifactArgs (args : Args) : Option (Option Text × Option Text) := do
  let kind ← optionalText (args.get? "kind")
  guard (∀ k ∈ kind, k ∈ artifactKinds)
  let needle ← optionalText (args.get? "display_name_contains")
  return (kind, needle)

abbrev Casefold := Text → Text

def ArtifactFact.Matches (casefold : Casefold) (a : ArtifactFact) (kind needle : Option Text) :
    Prop :=
  (∀ k ∈ kind, a.kind = k) ∧ ∀ n ∈ needle, casefold n <:+: casefold a.displayName
deriving Decidable

def artifactExists (casefold : Casefold) (criterion : Json) (args : Args) (facts : RunFacts) :
    CriterionResult :=
  match artifactArgs args with
  | none => result criterion .unclear "invalid_args"
  | some (kind, needle) =>
    if ∃ a ∈ facts.artifacts, a.Matches casefold kind needle then
      result criterion .pass "artifact_found"
    else result criterion .fail "artifact_not_found"

/-- A path of names with dots between them. -/
def pathArg (args : Args) : Option (List Text) :=
  match args.get? "path" with
  | some (.str path) =>
    let parts := path.splitOn 46
    if path.strip ≠ [] ∧ ∀ part ∈ parts, part ≠ [] then some parts else none
  | _ => none

/-- The walk of `_field_present`: it goes through dicts only. -/
def walk : Json → List Text → Except (CriterionVerdict × String) Json
  | node, [] => .ok node
  | .list _, _ :: _ => .error (.unclear, "path_through_list_unsupported")
  | .dict items, part :: parts =>
    match Dict.lookup items part with
    | some node => walk node parts
    | none => .error (.fail, "field_missing")
  | _, _ :: _ => .error (.fail, "field_missing")

/-- `None`, or a text, a list or a dict with nothing in it. -/
def isEmptyField : Json → Bool
  | .null => true
  | .str s => s.isEmpty
  | .list items => items.isEmpty
  | .dict items => items.isEmpty
  | _ => false

def fieldPresent (criterion : Json) (args : Args) (facts : RunFacts) : CriterionResult :=
  match pathArg args with
  | none => result criterion .unclear "invalid_args"
  | some parts =>
    match facts.structuredOutput with
    | none => result criterion .unclear "output_not_structured"
    | some output =>
      match walk output parts with
      | .error (verdict, reason) => result criterion verdict reason
      | .ok node =>
        if isEmptyField node then result criterion .fail "field_empty"
        else result criterion .pass "field_present"

structure MetricArgs where
  keyResultId : Text
  threshold : PyFloat
  mustChange : Bool

/-- The arguments of `_metric_gte`; `math.isfinite` raises for an integer that no float can be. -/
def metricArgs (args : Args) : Except String (Option MetricArgs) :=
  match args.get? "key_result_id", args.get? "threshold" with
  | some (.str keyResultId), some threshold =>
    match threshold.number? with
    | none => .ok none
    | some value =>
      if keyResultId.strip = [] then .ok none
      else if (match threshold with | .int n => floatOfInt n | _ => some value) = none then
        .error "OverflowError"
      else if !value.isFinite then .ok none
      else match args.get? "must_change" with
        | none => .ok (some ⟨keyResultId, value, false⟩)
        | some (.bool mustChange) => .ok (some ⟨keyResultId, value, mustChange⟩)
        | some _ => .ok none
  | _, _ => .ok none

/-- What `_metric_gte` says of valid arguments. -/
def metricVerdict (metric : MetricArgs) (facts : RunFacts) : CriterionVerdict × String :=
  match (facts.metrics.get? metric.keyResultId).join with
  | none => (.unclear, "metric_unavailable")
  | some value =>
    let reached : CriterionVerdict × String :=
      if metric.threshold.le value then (.pass, "metric_met") else (.fail, "metric_below_threshold")
    if metric.mustChange then
      match (facts.metricsBefore.get? metric.keyResultId).join with
      | none => (.unclear, "baseline_unavailable")
      | some before => if value.eq before then (.fail, "metric_unchanged") else reached
    else reached

def metricGte (criterion : Json) (args : Args) (facts : RunFacts) :
    Except String CriterionResult := do
  match ← metricArgs args with
  | none => return result criterion .unclear "invalid_args"
  | some metric =>
    let (verdict, reason) := metricVerdict metric facts
    return result criterion verdict reason

/-- The predicate of a criterion, if it has the form of one. -/
def predicateOf (criterion : Json) : Except String (Text × Args) :=
  match criterion.get? "predicate" with
  | some (.dict predicate) =>
    match Args.get? predicate "kind", Args.get? predicate "args" with
    | some (.str kind), some (.dict args) => .ok (kind, args)
    | some (.str _), _ => .error "invalid_args"
    | _, _ => .error "unknown_predicate"
  | _ => .error "invalid_args"

/-- `evaluate_deterministic`. It raises where `math.isfinite` does. -/
def evaluateDeterministic (casefold : Casefold) (criterion : Json) (facts : RunFacts) :
    Except String CriterionResult :=
  match predicateOf criterion with
  | .error reason => .ok (result criterion .unclear reason)
  | .ok (kind, args) =>
    if kind = text "artifact_exists" then .ok (artifactExists casefold criterion args facts)
    else if kind = text "field_present" then .ok (fieldPresent criterion args facts)
    else if kind = text "metric_gte" then metricGte criterion args facts
    else .ok (result criterion .unclear "unknown_predicate")

def combine (results : List CriterionResult) : Verdict :=
  if results = [] then .inconclusive
  else if ∃ r ∈ results, r.required ∧ r.verdict = .fail then .fail
  else if ∃ r ∈ results, r.required ∧ r.verdict = .unclear then .inconclusive
  else .pass

/-! ## What the predicates say -/

/-- The field at the end of a path through dicts. -/
def fieldAt : Json → List Text → Option Json
  | node, [] => some node
  | .dict items, part :: parts => (Dict.lookup items part).bind (fieldAt · parts)
  | _, _ :: _ => none

/-- The predicate holds on the facts of the run. -/
inductive PredicateHolds (casefold : Casefold) (facts : RunFacts) : Text → Args → Prop
  /-- A tool of the agent made an artifact of that kind and with that name. -/
  | artifactExists (args : Args) (kind needle : Option Text) (a : ArtifactFact)
      (hargs : artifactArgs args = some (kind, needle)) (ha : a ∈ facts.artifacts)
      (hmatches : a.Matches casefold kind needle) :
    PredicateHolds casefold facts (text "artifact_exists") args
  /-- The structured output has a value at the path, which is not empty. -/
  | fieldPresent (args : Args) (parts : List Text) (output node : Json)
      (hargs : pathArg args = some parts) (houtput : facts.structuredOutput = some output)
      (hnode : fieldAt output parts = some node) (hfilled : isEmptyField node = false) :
    PredicateHolds casefold facts (text "field_present") args
  /-- The key result has reached the threshold, and changed if it must. -/
  | metricGte (args : Args) (metric : MetricArgs) (value : PyFloat)
      (hargs : metricArgs args = .ok (some metric))
      (hvalue : facts.metrics.get? metric.keyResultId = some (some value))
      (hreached : metric.threshold.le value)
      (hchanged : metric.mustChange → ∃ before,
        facts.metricsBefore.get? metric.keyResultId = some (some before) ∧ value.eq before = false) :
    PredicateHolds casefold facts (text "metric_gte") args

/-- The deterministic criterion holds on the facts. -/
def Holds (casefold : Casefold) (facts : RunFacts) (criterion : Json) : Prop :=
  ∃ kind args, predicateOf criterion = .ok (kind, args) ∧ PredicateHolds casefold facts kind args

/-! ## Evaluation -/

section

variable {casefold : Casefold} {facts : RunFacts} {criterion : Json} {args : Args}

theorem walk_eq_ok {node node' : Json} {parts : List Text} :
    walk node parts = .ok node' ↔ fieldAt node parts = some node' := by
  induction parts generalizing node with
  | nil => simp [walk, fieldAt]
  | cons part _ ih =>
    cases node with
    | dict items =>
      rw [walk, fieldAt]
      cases Dict.lookup items part with
      | none => simp
      | some => exact ih
    | null | bool | int | float | str | list => simp [walk, fieldAt]

theorem walk_ne_pass {node : Json} {parts : List Text} {reason : String} :
    walk node parts ≠ .error (.pass, reason) := by
  induction parts generalizing node with
  | nil => exact fun h => nomatch h
  | cons part _ ih =>
    cases node with
    | dict items =>
      rw [walk]
      cases Dict.lookup items part with
      | none => simp
      | some => exact ih
    | null | bool | int | float | str | list => simp [walk]

theorem verdict_result (verdict : CriterionVerdict) (reason : String) :
    (result criterion verdict reason).verdict = verdict := rfl

theorem artifactExists_pass_iff : (artifactExists casefold criterion args facts).verdict = .pass ↔
    PredicateHolds casefold facts (text "artifact_exists") args := by
  unfold artifactExists
  constructor
  · intro h
    split at h
    · nomatch h
    · rename_i kind needle hargs
      split_ifs at h with hfound
      · obtain ⟨a, ha, hmatches⟩ := hfound
        exact .artifactExists args kind needle a hargs ha hmatches
      · nomatch h
  · intro h
    cases h with
    | artifactExists _ _ _ a hargs ha hmatches =>
      rw [hargs]
      dsimp only
      rw [if_pos ⟨a, ha, hmatches⟩]
      rfl

theorem fieldPresent_pass_iff : (fieldPresent criterion args facts).verdict = .pass ↔
    PredicateHolds casefold facts (text "field_present") args := by
  unfold fieldPresent
  constructor
  · intro h
    split at h
    · nomatch h
    · rename_i parts hargs
      split at h
      · nomatch h
      · rename_i output houtput
        split at h
        · rename_i verdict reason hwalk
          rw [verdict_result] at h
          subst h
          exact absurd hwalk walk_ne_pass
        · rename_i node hwalk
          split_ifs at h with hempty
          · nomatch h
          · exact .fieldPresent args parts output node hargs houtput (walk_eq_ok.mp hwalk)
              (Bool.eq_false_iff.mpr hempty)
  · intro h
    cases h with
    | fieldPresent _ _ _ _ hargs houtput hnode hfilled =>
      rw [hargs]
      dsimp only
      rw [houtput]
      dsimp only
      rw [walk_eq_ok.mpr hnode]
      dsimp only
      rw [if_neg (Bool.eq_false_iff.mp hfilled)]
      rfl

theorem metricVerdict_pass_iff {metric : MetricArgs} : (metricVerdict metric facts).1 = .pass ↔
    ∃ value, facts.metrics.get? metric.keyResultId = some (some value) ∧
      metric.threshold.le value ∧ (metric.mustChange → ∃ before,
        facts.metricsBefore.get? metric.keyResultId = some (some before) ∧
          value.eq before = false) := by
  unfold metricVerdict
  cases hvalue : (facts.metrics.get? metric.keyResultId).join with
  | none =>
    refine iff_of_false (by simp) ?_
    rintro ⟨value, hget, -⟩
    rw [hget] at hvalue
    nomatch hvalue
  | some value =>
    have hget := Option.join_eq_some_iff.mp hvalue
    have hreached : (if metric.threshold.le value then
          ((.pass, "metric_met") : CriterionVerdict × String)
        else (.fail, "metric_below_threshold")).1 = .pass ↔ metric.threshold.le value := by
      split_ifs with hle
      · exact iff_of_true rfl hle
      · exact iff_of_false (by simp) hle
    -- the value is the only one
    have hvalues : ∀ P : PyFloat → Prop, (∃ value', facts.metrics.get? metric.keyResultId =
        some (some value') ∧ P value') ↔ P value := by
      refine fun P => ⟨?_, fun h => ⟨value, hget, h⟩⟩
      rintro ⟨value', hvalue', h⟩
      cases Option.some.inj (hvalue'.symm.trans hget)
      exact h
    rw [hvalues fun value => metric.threshold.le value ∧ (metric.mustChange → ∃ before,
      facts.metricsBefore.get? metric.keyResultId = some (some before) ∧ value.eq before = false)]
    dsimp only
    by_cases hmust : metric.mustChange
    · rw [if_pos hmust]
      cases hbefore : (facts.metricsBefore.get? metric.keyResultId).join with
      | none =>
        refine iff_of_false (by simp) ?_
        rintro ⟨-, hchanged⟩
        obtain ⟨before, hget', -⟩ := hchanged hmust
        rw [hget'] at hbefore
        nomatch hbefore
      | some before =>
        have hget' := Option.join_eq_some_iff.mp hbefore
        dsimp only
        by_cases heq : value.eq before
        · rw [if_pos heq]
          refine iff_of_false (by simp) ?_
          rintro ⟨-, hchanged⟩
          obtain ⟨before', hget'', hne⟩ := hchanged hmust
          cases Option.some.inj (hget''.symm.trans hget')
          nomatch heq.symm.trans hne
        · rw [if_neg heq]
          refine hreached.trans ⟨fun hle => ⟨hle, fun _ => ?_⟩, fun h => h.1⟩
          exact ⟨before, hget', Bool.eq_false_iff.mpr heq⟩
    · rw [if_neg hmust]
      exact hreached.trans ⟨fun hle => ⟨hle, fun h => absurd h hmust⟩, fun h => h.1⟩

theorem metricGte_pass_iff {r : CriterionResult} (h : metricGte criterion args facts = .ok r) :
    r.verdict = .pass ↔ PredicateHolds casefold facts (text "metric_gte") args := by
  obtain ⟨metric?, hargs, h⟩ := bind_eq_ok.mp h
  cases metric? with
  | none =>
    cases h
    refine iff_of_false (by rw [verdict_result]; decide) fun hholds => ?_
    cases hholds with
    | metricGte _ _ _ hargs' => nomatch hargs'.symm.trans hargs
  | some metric =>
    obtain rfl : result criterion (metricVerdict metric facts).1 (metricVerdict metric facts).2 = r :=
      pure_eq_ok.mp h
    rw [verdict_result, metricVerdict_pass_iff]
    constructor
    · rintro ⟨value, hvalue, hreached, hchanged⟩
      exact .metricGte args metric value hargs hvalue hreached hchanged
    · intro hholds
      cases hholds with
      | metricGte _ _ value hargs' hvalue hreached hchanged =>
        cases Except.ok.inj (hargs'.symm.trans hargs)
        exact ⟨value, hvalue, hreached, hchanged⟩

/-- A deterministic criterion passes exactly if its predicate holds on the facts. -/
theorem evaluateDeterministic_pass_iff {r : CriterionResult}
    (h : evaluateDeterministic casefold criterion facts = .ok r) :
    r.verdict = .pass ↔ Holds casefold facts criterion := by
  unfold evaluateDeterministic at h
  cases hpredicate : predicateOf criterion with
  | error =>
    rw [hpredicate] at h
    cases h
    refine iff_of_false (by rw [verdict_result]; decide) ?_
    rintro ⟨kind, args, hargs, -⟩
    nomatch hpredicate.symm.trans hargs
  | ok r =>
    obtain ⟨kind, args⟩ := r
    rw [hpredicate] at h
    have hholds : Holds casefold facts criterion ↔ PredicateHolds casefold facts kind args := by
      refine ⟨?_, fun h => ⟨kind, args, hpredicate, h⟩⟩
      rintro ⟨kind', args', hpredicate', h⟩
      obtain ⟨rfl, rfl⟩ := Prod.mk.inj (Except.ok.inj (hpredicate.symm.trans hpredicate'))
      exact h
    rw [hholds]
    dsimp only at h
    split_ifs at h with hartifact hfield hmetric
    · cases h
      exact hartifact ▸ artifactExists_pass_iff
    · cases h
      exact hfield ▸ fieldPresent_pass_iff
    · exact hmetric ▸ metricGte_pass_iff h
    · cases h
      refine iff_of_false (by rw [verdict_result]; decide) fun hholds => ?_
      cases hholds with
      | artifactExists => exact hartifact rfl
      | fieldPresent => exact hfield rfl
      | metricGte => exact hmetric rfl

theorem combine_eq_pass {results : List CriterionResult} : combine results = .pass ↔
    results ≠ [] ∧ ∀ r ∈ results, r.required → r.verdict = .pass := by
  unfold combine
  split_ifs with hnil hfail hunclear
  · exact iff_of_false (by simp) fun h => h.1 hnil
  · refine iff_of_false (by simp) fun h => ?_
    obtain ⟨r, hr, hrequired, hverdict⟩ := hfail
    nomatch hverdict.symm.trans (h.2 r hr hrequired)
  · refine iff_of_false (by simp) fun h => ?_
    obtain ⟨r, hr, hrequired, hverdict⟩ := hunclear
    nomatch hverdict.symm.trans (h.2 r hr hrequired)
  · refine iff_of_true rfl ⟨hnil, fun r hr hrequired => ?_⟩
    cases hverdict : r.verdict with
    | pass => rfl
    | fail => exact absurd ⟨r, hr, hrequired, hverdict⟩ hfail
    | unclear => exact absurd ⟨r, hr, hrequired, hverdict⟩ hunclear

end

end JavisSaas.Agent.Verification
