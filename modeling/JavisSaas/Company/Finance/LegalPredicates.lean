import JavisSaas.Lib.Dict
import JavisSaas.Lib.Kleene

/-!
# Legal predicates

Models `services/company/finance-legal/services/legal-predicate.ts`. A predicate is an object of the
database, of which each condition has two spellings; `||` chooses one of them.

* `evaluateLegalPredicate_eq`: the result is the conjunction of the conditions that are chosen.
* `predicateLaw_iff`: when it is that of all conditions that are stated.
-/

namespace JavisSaas.Company.Finance

open JavisSaas.Lib
open Kleene (all all_append all_congr all_eq_no all_eq_yes all_refines ofBool refines_refl unknown yes)

/-! ## Values -/

/-- Of what is neither `null` nor a text the code sees its truthiness and what `String` makes of it. -/
inductive PredicateValue
  | null
  | text (s : String)
  | other (truthy : Bool) (shown : String)
  deriving DecidableEq

namespace PredicateValue

def truthy : PredicateValue → Bool
  | null => false
  | text s => s ≠ ""
  | other truthy _ => truthy

/-- `String(v)` -/
def shown : PredicateValue → String
  | null => "null"
  | text s => s
  | other _ shown => shown

end PredicateValue

abbrev LegalPredicate := Dict String PredicateValue

/-- What is missing is `null` or `undefined`. -/
structure LegalFacts where
  entityStatus : Option String
  accountingRegime : Option String
  fiscalYearStart : Option String

inductive ApplicabilityEvaluationResult
  | applies
  | notApplies
  | needsReview
  deriving DecidableEq

structure EvaluationDetail where
  result : ApplicabilityEvaluationResult
  reasonCodes : List String

def knownPredicateFields : List String :=
  ["entityStatus", "entity_status", "accountingRegime", "accounting_regime",
    "fiscalYearStartOnOrAfter", "fiscal_year_start_on_or_after"]

/-- `/^\d{4}-\d{2}-\d{2}$/` -/
def isDateShaped (s : String) : Bool :=
  match s.toList with
  | [y₁, y₂, y₃, y₄, h₁, m₁, m₂, h₂, d₁, d₂] =>
    h₁ = '-' && h₂ = '-' && [y₁, y₂, y₃, y₄, m₁, m₂, d₁, d₂].all Char.isDigit
  | _ => false

/-- `isDate s` is that `new Date(s)` is valid, of a text of this shape. -/
def isValidIsoDate (isDate : String → Bool) (s : String) : Bool := isDateShaped s && isDate s

/-! ## Evaluation -/

/-- What becomes of one condition. -/
inductive PredicateCheck
  | passed
  | review (code : String)
  | refused (code : String)

/-- `predicate[a] || predicate[b]` -/
def required (predicate : LegalPredicate) (a b : String) : Option PredicateValue :=
  if (predicate.get? a).any (·.truthy) then predicate.get? a else predicate.get? b

/-- A fact that must be what is required. -/
def checkEqual (name label : String) (fact : Option String) (req : PredicateValue) :
    PredicateCheck :=
  match fact with
  | none => .review ("missing_fact:" ++ name)
  | some fact =>
    if .text fact = req then .passed
    else .refused ("mismatched_" ++ label ++ ":expected_" ++ req.shown ++ "_got_" ++ fact)

def checkStatus (facts : LegalFacts) : PredicateValue → PredicateCheck :=
  checkEqual "entityStatus" "status" facts.entityStatus

def checkRegime (facts : LegalFacts) : PredicateValue → PredicateCheck :=
  checkEqual "accountingRegime" "regime" facts.accountingRegime

/-- A fiscal year that must not begin before a date. -/
def checkFiscalStart (isDate : String → Bool) (facts : LegalFacts) (req : PredicateValue) :
    PredicateCheck :=
  if ¬isValidIsoDate isDate req.shown then .review ("malformed_predicate_date:" ++ req.shown)
  else
    match facts.fiscalYearStart with
    | none => .review "missing_fact:fiscalYearStart"
    | some start =>
      if ¬isValidIsoDate isDate start then .review ("malformed_fact_date:" ++ start)
      else if start.toList < req.shown.toList then
        .refused ("fiscal_start_before_threshold:" ++ start ++ "_vs_" ++ req.shown)
      else .passed

/-- The checks in turn: the first refusal ends the evaluation, and has the only code. -/
def finishEvaluation (reasonCodes : List String) : List PredicateCheck → EvaluationDetail
  | [] =>
    if reasonCodes ≠ [] then ⟨.needsReview, reasonCodes⟩
    else ⟨.applies, ["all_conditions_satisfied"]⟩
  | .passed :: rest => finishEvaluation reasonCodes rest
  | .review code :: rest => finishEvaluation (reasonCodes ++ [code]) rest
  | .refused code :: _ => ⟨.notApplies, [code]⟩

/-- A condition that is not stated passes. -/
def checkRequired (check : PredicateValue → PredicateCheck) (req : Option PredicateValue) :
    PredicateCheck :=
  req.elim .passed check

def evaluateLegalPredicateWithDetails (isDate : String → Bool) (predicate : LegalPredicate)
    (facts : LegalFacts) : EvaluationDetail :=
  finishEvaluation
    ((predicate.keys.filter (· ∉ knownPredicateFields)).map ("unknown_predicate_field:" ++ ·))
    [checkRequired (checkStatus facts) (required predicate "entityStatus" "entity_status"),
      checkRequired (checkRegime facts) (required predicate "accountingRegime" "accounting_regime"),
      checkRequired (checkFiscalStart isDate facts)
        (required predicate "fiscalYearStartOnOrAfter" "fiscal_year_start_on_or_after")]

def evaluateLegalPredicate (isDate : String → Bool) (predicate : LegalPredicate)
    (facts : LegalFacts) : ApplicabilityEvaluationResult :=
  (evaluateLegalPredicateWithDetails isDate predicate facts).result

/-! ## Conditions -/

/-- What a condition says of the facts: a fact is what is required. -/
def equality (fact : Option String) (required : PredicateValue) : Kleene :=
  fact.elim .unknown fun fact => .ofBool (.text fact = required)

/-- What a condition says of the facts: a date, as far as both are dates. -/
def onOrAfter (isDate : String → Bool) (fact : Option String) (required : PredicateValue) :
    Kleene :=
  if isValidIsoDate isDate required.shown ∧ fact.any (isValidIsoDate isDate) then
    .ofBool (¬(fact.getD "").toList < required.shown.toList)
  else .unknown

/-- What is stated under a key; of an unknown field nothing is known. -/
def condition (isDate : String → Bool) (facts : LegalFacts) (entry : String × PredicateValue) :
    Kleene :=
  if entry.1 ∈ ["entityStatus", "entity_status"] then equality facts.entityStatus entry.2
  else if entry.1 ∈ ["accountingRegime", "accounting_regime"] then
    equality facts.accountingRegime entry.2
  else if entry.1 ∈ ["fiscalYearStartOnOrAfter", "fiscal_year_start_on_or_after"] then
    onOrAfter isDate facts.fiscalYearStart entry.2
  else .unknown

/-- The two spellings of each field. -/
def spellings : List (String × String) :=
  [("entityStatus", "entity_status"), ("accountingRegime", "accounting_regime"),
    ("fiscalYearStartOnOrAfter", "fiscal_year_start_on_or_after")]

def entryOf (predicate : LegalPredicate) (key : String) : List (String × PredicateValue) :=
  (predicate.items.filter (·.1 = key))

/-- The entries that the evaluation looks at. -/
def takesPart (predicate : LegalPredicate) : List (String × PredicateValue) :=
  predicate.items.filter (·.1 ∉ knownPredicateFields) ++ spellings.flatMap fun (a, b) =>
    entryOf predicate (if (predicate.get? a).any (·.truthy) then a else b)

/-- The entries of the other spelling. -/
def passedOver (predicate : LegalPredicate) : List (String × PredicateValue) :=
  spellings.flatMap fun (a, b) =>
    entryOf predicate (if (predicate.get? a).any (·.truthy) then b else a)

/-- No facts are left out that were there. -/
structure LegalFacts.Extends (facts facts' : LegalFacts) : Prop where
  entityStatus : ∀ s ∈ facts.entityStatus, facts'.entityStatus = some s
  accountingRegime : ∀ s ∈ facts.accountingRegime, facts'.accountingRegime = some s
  fiscalYearStart : ∀ s ∈ facts.fiscalYearStart, facts'.fiscalYearStart = some s

/-- The result is the conjunction of what is stated. -/
structure Classifies (isDate : String → Bool) (predicate : LegalPredicate) (facts : LegalFacts)
    (result : ApplicabilityEvaluationResult) : Prop where
  notApplies : result = .notApplies ↔ ∃ entry ∈ predicate.items, condition isDate facts entry = .no
  applies : result = .applies ↔ ∀ entry ∈ predicate.items, condition isDate facts entry = .yes

/-- What is passed over would change nothing. -/
def Unhidden (isDate : String → Bool) (predicate : LegalPredicate) (facts : LegalFacts) : Prop :=
  (∀ entry ∈ passedOver predicate, condition isDate facts entry = .yes) ∨
    (∃ entry ∈ takesPart predicate, condition isDate facts entry = .no) ∨
    (∃ entry ∈ takesPart predicate, condition isDate facts entry = .unknown) ∧
      ∀ entry ∈ passedOver predicate, condition isDate facts entry ≠ .no

/-! ## The result -/

def PredicateCheck.value : PredicateCheck → Kleene
  | passed => .yes
  | review _ => .unknown
  | refused _ => .no

def ApplicabilityEvaluationResult.ofKleene : Kleene → ApplicabilityEvaluationResult
  | .no => .notApplies
  | .unknown => .needsReview
  | .yes => .applies

open ApplicabilityEvaluationResult (ofKleene)

section Result

variable {isDate : String → Bool} {predicate predicate' : LegalPredicate}
  {facts facts' : LegalFacts}

theorem value_checkEqual (name label : String) (fact : Option String) (req : PredicateValue) :
    (checkEqual name label fact req).value = equality fact req := by
  cases fact with
  | none => rfl
  | some fact =>
    unfold checkEqual equality
    by_cases h : .text fact = req <;> simp [h, PredicateCheck.value, ofBool]

theorem value_checkFiscalStart (req : PredicateValue) :
    (checkFiscalStart isDate facts req).value = onOrAfter isDate facts.fiscalYearStart req := by
  unfold checkFiscalStart onOrAfter
  by_cases hreq : isValidIsoDate isDate req.shown
  · cases facts.fiscalYearStart with
    | none => simp [hreq, PredicateCheck.value]
    | some start =>
      by_cases hstart : isValidIsoDate isDate start
      · by_cases hlt : start.toList < req.shown.toList
        · simp [hreq, hstart, hlt, PredicateCheck.value, ofBool]
        · simp [hreq, hstart, hlt, PredicateCheck.value, ofBool]
      · simp [hreq, hstart, PredicateCheck.value]
  · simp [hreq, PredicateCheck.value]

theorem result_finishEvaluation (codes : List String) (checks : List PredicateCheck) :
    (finishEvaluation codes checks).result =
      ofKleene (.all ((codes.map fun _ => .unknown) ++ checks.map PredicateCheck.value)) := by
  induction checks generalizing codes with
  | nil =>
    cases codes with
    | nil => rfl
    | cons => simp [finishEvaluation, all, ofKleene]
  | cons check checks ih =>
    cases check with
    | passed | review =>
      rw [finishEvaluation, ih]
      exact congrArg ofKleene (all_congr (by simp [PredicateCheck.value])
        (by simp [PredicateCheck.value]))
    | refused code =>
      have hno : all ((codes.map fun _ => .unknown) ++
          (.refused code :: checks).map PredicateCheck.value) = .no :=
        all_eq_no.mpr (List.mem_append_right _ List.mem_cons_self)
      rw [hno]
      rfl

variable {entry : String × PredicateValue} {key : String}

theorem mem_entryOf :
    entry ∈ entryOf predicate key ↔ entry.1 = key ∧ predicate.get? key = some entry.2 := by
  rw [entryOf, List.mem_filter, decide_eq_true_iff, Dict.get?_eq_some, and_comm]
  exact and_congr_right fun h => by rw [← h]

theorem condition_status (isDate : String → Bool) (h : key ∈ ["entityStatus", "entity_status"])
    (v : PredicateValue) : condition isDate facts (key, v) = (checkStatus facts v).value := by
  rw [condition, if_pos h, checkStatus, value_checkEqual]

theorem condition_regime (isDate : String → Bool) {key : String}
    (h : key ∈ ["accountingRegime", "accounting_regime"])
    (v : PredicateValue) : condition isDate facts (key, v) = (checkRegime facts v).value := by
  have hnot : key ∉ ["entityStatus", "entity_status"] := by
    rcases List.mem_pair.mp h with rfl | rfl <;> decide
  rw [condition, if_neg hnot, if_pos h, checkRegime, value_checkEqual]

theorem condition_fiscalStart
    (h : key ∈ ["fiscalYearStartOnOrAfter", "fiscal_year_start_on_or_after"]) (v : PredicateValue) :
    condition isDate facts (key, v) = (checkFiscalStart isDate facts v).value := by
  have hstatus : key ∉ ["entityStatus", "entity_status"] := by
    rcases List.mem_pair.mp h with rfl | rfl <;> decide
  have hregime : key ∉ ["accountingRegime", "accounting_regime"] := by
    rcases List.mem_pair.mp h with rfl | rfl <;> decide
  rw [condition, if_neg hstatus, if_neg hregime, if_pos h, value_checkFiscalStart]

theorem condition_unknown (h : entry.1 ∉ knownPredicateFields) :
    condition isDate facts entry = .unknown := by
  have hstatus : entry.1 ∉ ["entityStatus", "entity_status"] := fun hmem =>
    h ((by decide : _ ⊆ knownPredicateFields) hmem)
  have hregime : entry.1 ∉ ["accountingRegime", "accounting_regime"] := fun hmem =>
    h ((by decide : _ ⊆ knownPredicateFields) hmem)
  have hfiscal : entry.1 ∉ ["fiscalYearStartOnOrAfter", "fiscal_year_start_on_or_after"] :=
    fun hmem => h ((by decide : _ ⊆ knownPredicateFields) hmem)
  rw [condition, if_neg hstatus, if_neg hregime, if_neg hfiscal]

/-- The spelling of a field that is looked at, and the other one. -/
def chosenKey (predicate : LegalPredicate) (a b : String) : String :=
  if (predicate.get? a).any (·.truthy) then a else b

def otherKey (predicate : LegalPredicate) (a b : String) : String :=
  if (predicate.get? a).any (·.truthy) then b else a

theorem required_eq (a b : String) :
    required predicate a b = predicate.get? (chosenKey predicate a b) := by
  unfold required chosenKey
  split_ifs <;> rfl

theorem chosenKey_mem (a b : String) : chosenKey predicate a b ∈ [a, b] := by
  unfold chosenKey
  split_ifs <;> simp

theorem value_checkRequired {check : PredicateValue → PredicateCheck} {x : Kleene}
    (hcond : ∀ v, condition isDate facts (key, v) = (check v).value) (hx : x ≠ .yes) :
    x = (checkRequired check (predicate.get? key)).value ↔
      ∃ entry ∈ entryOf predicate key, condition isDate facts entry = x := by
  cases hget : predicate.get? key with
  | none =>
    refine iff_of_false hx fun ⟨entry, hentry, _⟩ => ?_
    rw [mem_entryOf, hget] at hentry
    cases hentry.2
  | some v =>
    show x = (check v).value ↔ _
    constructor
    · exact fun h => ⟨(key, v), mem_entryOf.mpr ⟨rfl, hget⟩, (hcond v).trans h.symm⟩
    · rintro ⟨⟨key', v'⟩, hentry, h⟩
      obtain ⟨rfl, hget'⟩ := mem_entryOf.mp hentry
      obtain rfl := Option.some.inj (hget.symm.trans hget')
      exact h.symm.trans (hcond v)

theorem mem_takesPart :
    entry ∈ takesPart predicate ↔
      (entry ∈ predicate.items ∧ entry.1 ∉ knownPredicateFields) ∨
      ∃ ab ∈ spellings, entry ∈ entryOf predicate (chosenKey predicate ab.1 ab.2) := by
  rw [takesPart, List.mem_append, List.mem_filter, decide_eq_true_iff, List.mem_flatMap]
  rfl

theorem mem_passedOver :
    entry ∈ passedOver predicate ↔
      ∃ ab ∈ spellings, entry ∈ entryOf predicate (otherKey predicate ab.1 ab.2) := by
  rw [passedOver, List.mem_flatMap]
  rfl

theorem mem_items :
    entry ∈ predicate.items ↔ entry ∈ takesPart predicate ∨ entry ∈ passedOver predicate := by
  have hkey : ∀ key, entry ∈ entryOf predicate key ↔ entry ∈ predicate.items ∧ entry.1 = key := by
    intro key
    rw [entryOf, List.mem_filter, decide_eq_true_iff]
  have hboth : ∀ a b, entry ∈ entryOf predicate (chosenKey predicate a b) ∨
      entry ∈ entryOf predicate (otherKey predicate a b) ↔
        entry ∈ predicate.items ∧ entry.1 ∈ [a, b] := by
    intro a b
    unfold chosenKey otherKey
    split_ifs
    · rw [hkey, hkey, ← and_or_left, List.mem_pair]
    · rw [hkey, hkey, ← and_or_left, List.mem_pair, or_comm]
  rw [mem_takesPart, mem_passedOver, or_assoc, ← exists_or]
  simp only [← and_or_left, hboth]
  by_cases hknown : entry.1 ∈ knownPredicateFields
  · have hspelled : ∀ key ∈ knownPredicateFields, ∃ ab ∈ spellings, key ∈ [ab.1, ab.2] := by decide
    obtain ⟨ab, hab, hmem⟩ := hspelled _ hknown
    constructor
    · exact fun h => .inr ⟨ab, hab, h, hmem⟩
    · rintro (⟨h, -⟩ | ⟨_, -, h, -⟩) <;> exact h
  · constructor
    · exact fun h => .inl ⟨h, hknown⟩
    · rintro (⟨h, -⟩ | ⟨_, -, h, -⟩) <;> exact h

/-- The conditions that are not true are those of the entries that take part. -/
theorem evaluateLegalPredicate_eq :
    evaluateLegalPredicate isDate predicate facts =
      ofKleene (.all ((takesPart predicate).map (condition isDate facts))) := by
  have hmem : ∀ x : Kleene, x ≠ .yes →
      (x ∈ (((predicate.keys.filter (· ∉ knownPredicateFields)).map
        ("unknown_predicate_field:" ++ ·)).map fun _ => unknown) ++
        [checkRequired (checkStatus facts) (required predicate "entityStatus" "entity_status"),
          checkRequired (checkRegime facts)
            (required predicate "accountingRegime" "accounting_regime"),
          checkRequired (checkFiscalStart isDate facts) (required predicate
            "fiscalYearStartOnOrAfter" "fiscal_year_start_on_or_after")].map PredicateCheck.value ↔
      x ∈ (takesPart predicate).map (condition isDate facts)) := by
    intro x hx
    rw [required_eq, required_eq, required_eq]
    simp only [List.mem_append, List.map_cons, List.map_nil, List.mem_cons, List.not_mem_nil,
      or_false, List.mem_map, mem_takesPart]
    rw [value_checkRequired (fun v => condition_status isDate (chosenKey_mem _ _) v) hx,
      value_checkRequired (fun v => condition_regime isDate (chosenKey_mem _ _) v) hx,
      value_checkRequired (fun v => condition_fiscalStart (chosenKey_mem _ _) v) hx]
    have hunknown : (∃ code, (∃ key ∈ predicate.keys.filter (· ∉ knownPredicateFields),
        "unknown_predicate_field:" ++ key = code) ∧ unknown = x) ↔
        ∃ entry, (entry ∈ predicate.items ∧ entry.1 ∉ knownPredicateFields) ∧
          condition isDate facts entry = x := by
      constructor
      · rintro ⟨_, ⟨key, hkey, -⟩, rfl⟩
        obtain ⟨hkey, hfield⟩ := List.mem_filter.mp hkey
        obtain ⟨entry, hentry, rfl⟩ := List.mem_map.mp hkey
        have hfield := of_decide_eq_true hfield
        exact ⟨entry, ⟨hentry, hfield⟩, condition_unknown hfield⟩
      · rintro ⟨entry, ⟨hentry, hfield⟩, rfl⟩
        refine ⟨_, ⟨entry.1, List.mem_filter.mpr ⟨List.mem_map_of_mem hentry, ?_⟩, rfl⟩,
          (condition_unknown hfield).symm⟩
        exact decide_eq_true hfield
    rw [hunknown]
    simp only [spellings, List.exists_mem_cons_iff, List.not_mem_nil, false_and, exists_false,
      or_false, or_and_right, exists_or]
  unfold evaluateLegalPredicate evaluateLegalPredicateWithDetails
  rw [result_finishEvaluation]
  exact congrArg ofKleene (all_congr (hmem _ nofun) (hmem _ nofun))

theorem ofKleene_inj {a b : Kleene} : ofKleene a = ofKleene b ↔ a = b := by
  cases a <;> cases b <;> simp [ofKleene]

theorem classifies_ofKleene {a : Kleene} :
    Classifies isDate predicate facts (ofKleene a) ↔
      a = .all (predicate.items.map (condition isDate facts)) := by
  have hno : ofKleene a = .notApplies ↔ a = .no := ofKleene_inj (b := .no)
  have hyes : ofKleene a = .applies ↔ a = .yes := ofKleene_inj (b := .yes)
  constructor
  · rintro ⟨hnot, happlies⟩
    rw [hno, ← List.mem_map, ← all_eq_no] at hnot
    rw [hyes, ← List.forall_mem_map (P := (· = yes)), ← all_eq_yes] at happlies
    cases a with
    | no => exact (hnot.mp rfl).symm
    | yes => exact (happlies.mp rfl).symm
    | unknown =>
      cases hall : all (predicate.items.map (condition isDate facts)) with
      | no => exact hnot.mpr hall
      | unknown => rfl
      | yes => exact happlies.mpr hall
  · rintro rfl
    refine ⟨?_, ?_⟩
    · rw [hno, all_eq_no, List.mem_map]
    · rw [hyes, all_eq_yes, List.forall_mem_map]

theorem all_items :
    all (predicate.items.map (condition isDate facts)) =
      .all ((takesPart predicate).map (condition isDate facts) ++
        (passedOver predicate).map (condition isDate facts)) := by
  have hmem : ∀ x : Kleene, x ∈ predicate.items.map (condition isDate facts) ↔
      x ∈ (takesPart predicate).map (condition isDate facts) ++
        (passedOver predicate).map (condition isDate facts) := by
    intro x
    rw [← List.map_append, List.mem_map, List.mem_map]
    exact exists_congr fun entry => by rw [mem_items, List.mem_append]
  exact all_congr (hmem _) (hmem _)

theorem classifies_iff :
    Classifies isDate predicate facts (evaluateLegalPredicate isDate predicate facts) ↔
      Unhidden isDate predicate facts := by
  rw [evaluateLegalPredicate_eq, classifies_ofKleene, all_items, eq_comm, all_append,
    List.forall_mem_map]
  simp only [Unhidden, List.mem_map, not_exists, not_and, ne_eq]

/-! ## More facts, and another order -/

theorem equality_refines {fact fact' : Option String} (h : ∀ s ∈ fact, fact' = some s)
    (v : PredicateValue) : Kleene.Refines (equality fact v) (equality fact' v) := by
  cases fact with
  | none => exact .inl rfl
  | some s => exact .inr (by rw [h s rfl])

theorem onOrAfter_refines {fact fact' : Option String} (h : ∀ s ∈ fact, fact' = some s)
    (v : PredicateValue) :
    Kleene.Refines (onOrAfter isDate fact v) (onOrAfter isDate fact' v) := by
  cases fact with
  | none => exact .inl (if_neg fun hdates => by cases hdates.2)
  | some s => exact .inr (by rw [h s rfl])

theorem condition_refines (h : facts.Extends facts') (entry : String × PredicateValue) :
    Kleene.Refines (condition isDate facts entry) (condition isDate facts' entry) := by
  unfold condition
  split_ifs
  · exact equality_refines h.entityStatus _
  · exact equality_refines h.accountingRegime _
  · exact onOrAfter_refines h.fiscalYearStart _
  · exact refines_refl _

theorem evaluateLegalPredicate_extends (h : facts.Extends facts')
    (hdecided : evaluateLegalPredicate isDate predicate facts ≠ .needsReview) :
    evaluateLegalPredicate isDate predicate facts' =
      evaluateLegalPredicate isDate predicate facts := by
  rw [evaluateLegalPredicate_eq] at hdecided ⊢
  rw [evaluateLegalPredicate_eq]
  have hconditions : List.Forall₂ Kleene.Refines
      ((takesPart predicate).map (condition isDate facts))
      ((takesPart predicate).map (condition isDate facts')) := by
    rw [List.forall₂_map_left_iff, List.forall₂_map_right_iff]
    exact List.forall₂_same.mpr fun entry _ => condition_refines h entry
  refine congrArg ofKleene ((all_refines hconditions).resolve_left fun hopen => ?_).symm
  exact hdecided (congrArg ofKleene hopen)

theorem get?_perm (h : predicate'.items.Perm predicate.items) (key : String) :
    predicate'.get? key = predicate.get? key := by
  refine Option.ext fun v => ?_
  rw [Dict.get?_eq_some, Dict.get?_eq_some, h.mem_iff]

theorem evaluateLegalPredicate_perm (h : predicate'.items.Perm predicate.items) :
    evaluateLegalPredicate isDate predicate' facts =
      evaluateLegalPredicate isDate predicate facts := by
  rw [evaluateLegalPredicate_eq, evaluateLegalPredicate_eq]
  have hmem : ∀ entry, entry ∈ takesPart predicate' ↔ entry ∈ takesPart predicate := by
    intro entry
    rw [mem_takesPart, mem_takesPart, h.mem_iff]
    simp only [mem_entryOf, chosenKey, get?_perm h]
  have hmap : ∀ x : Kleene, x ∈ (takesPart predicate').map (condition isDate facts) ↔
      x ∈ (takesPart predicate).map (condition isDate facts) := by
    intro x
    rw [List.mem_map, List.mem_map]
    exact exists_congr fun entry => by rw [hmem]
  exact congrArg ofKleene (all_congr (hmap _) (hmap _))

end Result

/-! ## The law -/

/-- The conjunction of the stated conditions; more facts leave it decided, and key order does not
count. -/
structure PredicateLaw (isDate : String → Bool) (predicate : LegalPredicate) (facts : LegalFacts) :
    Prop where
  classifies : Classifies isDate predicate facts (evaluateLegalPredicate isDate predicate facts)
  decided : ∀ facts', facts.Extends facts' →
    evaluateLegalPredicate isDate predicate facts ≠ .needsReview →
      evaluateLegalPredicate isDate predicate facts' =
        evaluateLegalPredicate isDate predicate facts
  order : ∀ predicate' : LegalPredicate, predicate'.items.Perm predicate.items →
    evaluateLegalPredicate isDate predicate' facts = evaluateLegalPredicate isDate predicate facts

theorem predicateLaw_iff (isDate : String → Bool) (predicate : LegalPredicate)
    (facts : LegalFacts) :
    PredicateLaw isDate predicate facts ↔ Unhidden isDate predicate facts := by
  rw [← classifies_iff]
  refine ⟨fun h => h.classifies, fun h => ⟨h, fun facts' hext hdecided => ?_, fun p hperm => ?_⟩⟩
  · exact evaluateLegalPredicate_extends hext hdecided
  · exact evaluateLegalPredicate_perm hperm

/-- Both spellings, with different values. -/
def twoSpellings : LegalPredicate :=
  (∅ : LegalPredicate).update [("entityStatus", .text "VERIFIED"), ("entity_status", .text "DRAFT")]

def verifiedFacts : LegalFacts := ⟨some "VERIFIED", none, none⟩

theorem not_predicateLaw_twoSpellings :
    evaluateLegalPredicate (fun _ => true) twoSpellings verifiedFacts = .applies ∧
      ¬PredicateLaw (fun _ => true) twoSpellings verifiedFacts := by
  have happlies : evaluateLegalPredicate (fun _ => true) twoSpellings verifiedFacts = .applies := by
    decide
  refine ⟨happlies, fun h => ?_⟩
  have hall := h.classifies.applies.mp happlies
  revert hall
  decide

end JavisSaas.Company.Finance
