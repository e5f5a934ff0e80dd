import JavisSaas.Agent.Contracts.DoneCriteria
import JavisSaas.Agent.Verification.Criteria

/-!
# The answer of the judge

`packages/agent/verification/judge.py`, the reading of the judge's answer. The decoding of JSON, the
lower case and the categories of Unicode are parameters.

* `passes_of_mem`: a criterion passes only if the first entry for its id says so.
-/

namespace JavisSaas.Agent.Verification

open JavisSaas.Lib
open JavisSaas.Agent.Contracts (criterionId)

/-- What `json.loads` may raise. -/
inductive LoadsError
  | decode
  /-- `RecursionError`. -/
  | recursion

structure JudgeRuntime where
  loads : Text → Except LoadsError Json
  lower : Text → Text
  /-- The category is `Cc`, `Cf` or `Cs`. -/
  isControl : ℕ → Bool

/-- A `JudgeOutputError`, or another exception. -/
inductive JudgeOutputError
  | judgeOutput (message : String)
  | raised

/-! ## Parsing -/

/-- "```" -/
def fence : Text := text "```"

/-- `s.rstrip()` -/
def rstrip (s : Text) : Text := (s.reverse.dropWhile Text.isSpace).reverse

def stripFences (raw : Text) : Text :=
  let s := raw.strip
  if fence.isPrefixOf s then
    -- What follows the first line break, or nothing.
    let s := (s.dropWhile (· ≠ 10)).drop 1
    let s := if fence.isSuffixOf (rstrip s) then (rstrip s).take ((rstrip s).length - 3) else s
    Text.strip s
  else s.strip

def maxReason : ℕ := 300

/-- `" ".join(s.split())[:limit]` -/
def clean (s : Text) (limit : ℕ) : Text := ([32].intercalate s.words).take limit

def cleanReason (rt : JudgeRuntime) : Option Json → Text
  | some (.str s) => Text.strip ((clean s maxReason).filter (!rt.isControl ·))
  | _ => []

def parseVerdict (rt : JudgeRuntime) : Option Json → CriterionVerdict
  | some (.str s) => (CriterionVerdict.ofText? (rt.lower s.strip)).getD .unclear
  | _ => .unclear

/-- What the judge says of a criterion, and why. -/
abbrev Judgement := CriterionVerdict × Text

def judgement (rt : JudgeRuntime) (item : Json) : Judgement :=
  (parseVerdict rt (item.get? "verdict"), cleanReason rt (item.get? "reason"))

/-- The loop over the entries: the first one for an expected id is kept. -/
def collect (rt : JudgeRuntime) (expected : List Text) :
    List Json → Dict Text Judgement → Dict Text Judgement
  | [], found => found
  | item :: items, found =>
    match criterionId item with
    | some cid =>
      if cid ∉ expected ∨ (found.get? cid).isSome then collect rt expected items found
      else collect rt expected items (found.set cid (judgement rt item))
    | none => collect rt expected items found

def omitted : Judgement := (.unclear, text "judge_omitted")

/-- The entries of the answer. -/
def judgeEntries (rt : JudgeRuntime) (raw : Text) : Except JudgeOutputError (List Json) :=
  match rt.loads (stripFences raw) with
  | .error .decode => .error (.judgeOutput "judge output is not valid JSON")
  | .error .recursion => .error .raised
  | .ok data =>
    match data.get? "results" with
    | some (.list items) => .ok items
    | _ => .error (.judgeOutput "judge output must be an object with a results list")

/-- The entries that are looked at. -/
def entryLimit (expected : List Text) : ℕ := max (expected.length * 2) 1

def parseJudgeOutput (rt : JudgeRuntime) (raw : Text) (expectedIds : List Text) :
    Except JudgeOutputError (List (Text × Judgement)) := do
  let expected := expectedIds.eraseDups
  let items ← judgeEntries rt raw
  let found := collect rt expected (items.take (entryLimit expected)) ∅
  return expected.map fun cid => (cid, (found.get? cid).getD omitted)

/-! ## What the judge has said -/

/-- The first of the entries for the id. -/
def entryFor (items : List Json) (cid : Text) : Option Json :=
  items.find? (criterionId · = some cid)

/-- The judge answered `pass` for the id: its first entry does, among those that are looked at. -/
def JudgePasses (rt : JudgeRuntime) (raw : Text) (expectedIds : List Text) (cid : Text) : Prop :=
  ∃ items, judgeEntries rt raw = .ok items ∧
    ∃ entry, entryFor (items.take (entryLimit expectedIds.eraseDups)) cid = some entry ∧
      parseVerdict rt (entry.get? "verdict") = .pass

section

variable {rt : JudgeRuntime} {expected : List Text} {cid : Text}

theorem get?_collect (hcid : cid ∈ expected) (items : List Json) (found : Dict Text Judgement) :
    (collect rt expected items found).get? cid =
      (found.get? cid).or ((entryFor items cid).map (judgement rt)) := by
  induction items generalizing found with
  | nil => simp [collect, entryFor]
  | cons item _ ih =>
    unfold collect entryFor
    cases hid : criterionId item with
    | none =>
      dsimp only
      rw [ih, List.find?_cons_of_neg (by simp [hid])]
      rfl
    | some cid' =>
      dsimp only
      by_cases hsame : cid' = cid
      · subst hsame
        rw [List.find?_cons_of_pos (by simp [hid])]
        cases hfound : found.get? cid' with
        | some =>
          rw [if_pos (.inr rfl), ih, hfound]
          rfl
        | none =>
          rw [if_neg (by simp [hcid]), ih, Dict.get?_set_self]
          rfl
      · rw [List.find?_cons_of_neg (by simp [hid, hsame])]
        split_ifs with hskip
        · exact ih found
        · rw [ih, Dict.get?_set_of_ne _ hsame]
          rfl

theorem passes_of_mem {raw : Text} {expectedIds : List Text}
    {verdicts : List (Text × Judgement)} {reason : Text}
    (h : parseJudgeOutput rt raw expectedIds = .ok verdicts)
    (hmem : (cid, (.pass, reason)) ∈ verdicts) : JudgePasses rt raw expectedIds cid := by
  obtain ⟨items, hitems, h⟩ := bind_eq_ok.mp h
  cases h
  obtain ⟨cid', hcid', heq⟩ := List.mem_map.mp hmem
  obtain ⟨rfl, hjudgement⟩ := Prod.mk.inj heq
  rw [get?_collect hcid'] at hjudgement
  cases hentry : entryFor (items.take (entryLimit expectedIds.eraseDups)) cid' with
  | none =>
    rw [hentry] at hjudgement
    nomatch (Prod.mk.inj hjudgement).1
  | some entry =>
    rw [hentry] at hjudgement
    exact ⟨items, hitems, entry, hentry, (Prod.mk.inj hjudgement).1⟩

theorem lookup_parseJudgeOutput {raw : Text} {expectedIds : List Text}
    {verdicts : List (Text × Judgement)} {reason : Text}
    (h : parseJudgeOutput rt raw expectedIds = .ok verdicts)
    (hlookup : Dict.lookup verdicts cid = some (.pass, reason)) :
    JudgePasses rt raw expectedIds cid :=
  passes_of_mem h (Dict.mem_of_lookup hlookup)

end

end JavisSaas.Agent.Verification
