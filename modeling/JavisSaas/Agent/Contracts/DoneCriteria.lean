import Mathlib.Algebra.Ring.Nat
import JavisSaas.Lib.Fallible
import JavisSaas.Lib.Json

/-!
# Done criteria

`packages/agent/contracts/done_criteria.py`. What `parse_done_criteria` accepts is a list of
criteria whose ids are valid and differ, each with a check that has what it needs.
-/

namespace JavisSaas.Agent.Contracts

open JavisSaas.Lib

/-! ## Sizes -/

/-- The ECMAScript text of a finite number that is not zero, from `repr`. -/
abbrev NumberText := ℚ → Text

def jsNumber (shortest : NumberText) : PyFloat → Text
  | .finite q => if q = 0 then text "0" else shortest q
  | .nan => text "null"
  | .inf _ => text "null"

/-- The length of `_js_string` of one code point in UTF-8. -/
def jsCharSize (c : ℕ) : ℕ :=
  if c ∈ [34, 92, 8, 12, 10, 13, 9] then 2
  else if c < 0x20 ∨ 0xd800 ≤ c ∧ c ≤ 0xdfff then 6
  else if c < 0x80 then 1
  else if c < 0x800 then 2
  else if c < 0x10000 then 3
  else 4

def jsStringSize (s : Text) : ℕ := 2 + (s.map jsCharSize).sum

mutual

/-- `js_canonical_json_size`. The count with a limit gives up where the total exceeds it. -/
def jsCanonicalJsonSize (shortest : NumberText) : Json → ℕ
  | .null => 4
  | .bool b => if b then 4 else 5
  | .int n => (jsNumber shortest ((floatOfInt n).getD .nan)).length
  | .float x => (jsNumber shortest x).length
  | .str s => jsStringSize s
  | .list items => 2 + (items.length - 1) + jsItemsSize shortest items
  | .dict items => 2 + (items.length - 1) + jsMembersSize shortest items

def jsItemsSize (shortest : NumberText) : List Json → ℕ
  | [] => 0
  | item :: items => jsCanonicalJsonSize shortest item + jsItemsSize shortest items

def jsMembersSize (shortest : NumberText) : List (Text × Json) → ℕ
  | [] => 0
  | (key, item) :: items =>
    jsStringSize key + 1 + jsCanonicalJsonSize shortest item + jsMembersSize shortest items

end

/-! ## Criteria -/

/-- `_ID` -/
def isCriterionId (s : Text) : Bool :=
  1 ≤ s.length && s.length ≤ 40 &&
    s.all fun c => (97 ≤ c && c ≤ 122) || (48 ≤ c && c ≤ 57) || c = 95 || c = 45

/-- `_WS` -/
def isJsSpace (c : ℕ) : Bool :=
  c ∈ [9, 10, 11, 12, 13, 32, 0xa0, 0x1680, 0x2028, 0x2029, 0x202f, 0x205f, 0x3000, 0xfeff] ||
    (0x2000 ≤ c && c ≤ 0x200a)

def rawFactor : ℕ := 4
def maxArgsBytes : ℕ := 2048

def predicateKinds : List Text := ["artifact_exists", "metric_gte", "field_present"].map text

/-- A text member, or the empty text. -/
def textMember (raw : Json) (key : String) : Text :=
  match raw.get? key with
  | some (.str s) => s
  | _ => []

/-- A text of at most `limit` code points that is not blank. -/
def boundedText (raw : Json) (key : String) (limit : ℕ) (message : String) : Except String Text := do
  let value := textMember raw key
  require (value.length ≤ limit * rawFactor) message
  let value := value.stripBy isJsSpace
  require (1 ≤ value.length ∧ value.length ≤ limit) message
  return value

def requiredMember (raw : Json) : Bool :=
  match raw.get? "required" with
  | some (.bool b) => b
  | _ => true

/-- The predicate of a deterministic criterion. -/
def parsePredicate (shortest : NumberText) (raw : Json) : Except String Json := do
  match raw.get? "predicate" with
  | some (.dict predicate) =>
    match Dict.lookup predicate (text "kind") with
    | some (.str kind) => do
      require (kind ∈ predicateKinds) "unknown predicate kind"
      match Dict.lookup predicate (text "args") with
      | some (.dict args) => do
        require (jsCanonicalJsonSize shortest (.dict args) ≤ maxArgsBytes)
          "predicate args too large"
        return .dict [(text "kind", .str kind), (text "args", .dict args)]
      | _ => .error "deterministic criterion requires predicate"
    | _ => .error "unknown predicate kind"
  | _ => .error "deterministic criterion requires predicate"

/-- `_parse_criterion`, without the test of its id against the earlier ones. -/
def criterionBody (shortest : NumberText) (raw : Json) (cid : Text) : Except String Json := do
  let description ← boundedText raw "description" 300 "description must be 1..300 chars"
  let head := [(text "id", Json.str cid), (text "description", .str description),
    (text "required", .bool (requiredMember raw))]
  match raw.get? "check" with
  | some (.str check) =>
    if check = text "deterministic" then do
      let predicate ← parsePredicate shortest raw
      return .dict (head ++ [(text "check", .str check), (text "predicate", predicate)])
    else if check = text "rubric" then do
      let rubric ← boundedText raw "rubric" 500 "rubric criterion requires rubric"
      return .dict (head ++ [(text "check", .str check), (text "rubric", .str rubric)])
    else .error "invalid check"
  | _ => .error "invalid check"

def parseCriterion (shortest : NumberText) (raw : Json) (seen : List Text) :
    Except String (Json × List Text) :=
  match raw with
  | .dict _ =>
    match raw.get? "id" with
    | some (.str cid) => do
      require (isCriterionId cid) "invalid criterion id"
      require (cid ∉ seen) "duplicate criterion id"
      return (← criterionBody shortest raw cid, cid :: seen)
    | _ => .error "invalid criterion id"
  | _ => .error "invalid criterion id"

def parseCriteria (shortest : NumberText) : List Json → List Text → Except String (List Json)
  | [], _ => .ok []
  | raw :: rest, seen => do
    let (criterion, seen) ← parseCriterion shortest raw seen
    return criterion :: (← parseCriteria shortest rest seen)

/-- `version == 1`, of a number that is no `bool`. -/
def isVersionOne (raw : Json) : Bool :=
  match (raw.get? "version").bind Json.number? with
  | some version => version.eq (.finite 1)
  | none => false

/-- `parse_done_criteria`: the parsed criteria, of version 1. -/
def parseDoneCriteria (shortest : NumberText) (raw : Json) : Except String (List Json) := do
  require (isVersionOne raw) "unsupported version"
  match raw.get? "criteria" with
  | some (.list criteria) => do
    require (1 ≤ criteria.length ∧ criteria.length ≤ 10) "criteria must contain 1..10 items"
    parseCriteria shortest criteria []
  | _ => .error "criteria must contain 1..10 items"

/-! ## The ids -/

/-- `criterion["id"]`, if it is a text. -/
def criterionId (criterion : Json) : Option Text :=
  match criterion.get? "id" with
  | some (.str cid) => some cid
  | _ => none

end JavisSaas.Agent.Contracts
