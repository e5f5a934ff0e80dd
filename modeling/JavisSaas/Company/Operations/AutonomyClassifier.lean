import Mathlib.Data.List.Infix

/-!
# The autonomy classifier

`services/company/operations/services/autonomy-classifier.ts`: which class of autonomy a plan item
gets, and which agent takes it. The regular expressions of capabilities are searches for literal
texts; those of the domains are an argument.

* `mayBeAuto_of_classifyItem`, `mayBeAuto_of_validateFounderOverride`: a capability that must be
  approved is never classified `AUTO`, nor made so by the founder.
-/

namespace JavisSaas.Company.Operations

inductive AutonomyClass
  | auto
  | needsApproval
  | founderOnly
  deriving DecidableEq

inductive AutonomyClassSource
  | classifierDefault
  | tenantPolicy
  | founderOverride
  deriving DecidableEq

inductive TenantPolicyDecision
  | allow
  | requireApproval
  | deny
  deriving DecidableEq

inductive CapabilityRisk
  | low
  | medium
  | high
  deriving DecidableEq

inductive OwnerAgentProfile
  | operations
  | finance
  | marketing
  | researchIntelligence
  | strategy
  | sales
  | coding
  | product
  | people
  | security
  | legal
  | data

def OwnerAgentProfile.text : OwnerAgentProfile → String
  | operations => "operations"
  | finance => "finance"
  | marketing => "marketing"
  | researchIntelligence => "research_intelligence"
  | strategy => "strategy"
  | sales => "sales"
  | coding => "coding"
  | product => "product"
  | people => "people"
  | security => "security"
  | legal => "legal"
  | data => "data"

/-! ## `classifyItem` (lines 31–74) -/

/-- `FORBIDDEN_CAPABILITY_RE`, its alternatives. -/
def forbiddenCapabilityTexts : List String :=
  ["billing.", "finance.write", ".opportunity.", ".lead.write", ".message.send", "legal.write",
    ".deploy", ".delete", "workspace.settings"]

/-- `AUTO_SAFE_SUFFIX_RE`, its alternatives. -/
def autoSafeSuffixes : List String := [".read", ".list", ".draft", ".create_draft", ".get"]

def forbiddenCapability (cap : String) : Bool :=
  forbiddenCapabilityTexts.any fun text => text.toList <:+: cap.toList

def autoSafe (cap : String) : Bool :=
  autoSafeSuffixes.any fun suffix => suffix.toList <:+ cap.toList

structure ClassifyInput where
  expectedCapability : Option String
  capabilityRisk : Option CapabilityRisk
  tenantPolicyDecision : Option TenantPolicyDecision

/-- The capability, which an empty text does not name. -/
def ClassifyInput.capability? (input : ClassifyInput) : Option String :=
  input.expectedCapability.filter (· ≠ "")

def classifyItem (input : ClassifyInput) : AutonomyClass × AutonomyClassSource :=
  match input.capability? with
  | none => (.founderOnly, .classifierDefault)
  | some cap =>
    if forbiddenCapability cap then (.needsApproval, .classifierDefault)
    else
      match input.tenantPolicyDecision with
      | some .deny => (.founderOnly, .tenantPolicy)
      | some .requireApproval => (.needsApproval, .tenantPolicy)
      | some .allow => (.auto, .tenantPolicy)
      | none =>
        if input.capabilityRisk = some .low ∧ autoSafe cap then (.auto, .classifierDefault)
        else (.needsApproval, .classifierDefault)

/-! ## `routeOwnerProfile` (lines 76–135) -/

def capPrefixToProfile : List (String × OwnerAgentProfile) :=
  [("operations.", .operations), ("engagement.", .operations), ("finance.", .finance),
    ("billing.", .finance), ("strategy.positioning", .marketing),
    ("evidence.", .researchIntelligence), ("source.", .researchIntelligence),
    ("resource.", .researchIntelligence), ("research.intelligence", .researchIntelligence),
    ("strategy.initiative", .strategy), ("strategy.ranking", .strategy), ("strategy.", .strategy),
    ("marketing.", .marketing), ("research.", .marketing), ("project.crm.", .sales),
    ("engineering.", .coding), ("product.", .product), ("people.", .people),
    ("security.", .security), ("legal.", .legal), ("data.", .data)]

/-- The domains whose keywords are tried, in this order. -/
def keywordDomains : List OwnerAgentProfile :=
  [.researchIntelligence, .strategy, .operations, .finance, .marketing]

/-- `keywords p text` is `DOMAIN_KEYWORDS[p].test(text)`. -/
def routeOwnerProfile (keywords : OwnerAgentProfile → String → Bool)
    (expectedCapability suggestedDomain : Option String) : Option OwnerAgentProfile :=
  let byPrefix := (expectedCapability.filter (· ≠ "")).bind fun cap =>
    (capPrefixToProfile.find? fun entry => entry.1.toList <+: cap.toList).map Prod.snd
  let byDomain := (suggestedDomain.filter (· ≠ "")).bind fun domain =>
    keywordDomains.find? fun p => keywords p domain
  byPrefix.or byDomain

/-! ## `validateFounderOverride` (lines 142–166) -/

/-- `none` is `{ ok: true }`, else the reason of a refusal. -/
def validateFounderOverride (target : AutonomyClass) (input : ClassifyInput) : Option String :=
  if target ≠ .auto then none
  else
    match input.capability? with
    | none => some "Việc không gắn capability không thể đặt AUTO"
    | some cap =>
      if forbiddenCapability cap then
        some ("Capability nhóm bắt buộc duyệt (outbound/finance/deploy/delete/settings) không thể " ++
          "đặt AUTO")
      else if input.tenantPolicyDecision ≠ some .allow then
        some "Cần đặt chính sách workspace = ALLOW cho capability này trước khi cho AUTO"
      else none

/-! ## What may run on its own -/

/-- An item may be `AUTO`: its capability is named, and not one that must be approved. -/
def MayBeAuto (expectedCapability : Option String) : Prop :=
  ∃ cap, expectedCapability = some cap ∧ cap ≠ "" ∧ forbiddenCapability cap = false

theorem capability?_eq_some {input : ClassifyInput} {cap : String} :
    input.capability? = some cap ↔ input.expectedCapability = some cap ∧ cap ≠ "" := by
  rw [ClassifyInput.capability?, Option.filter_eq_some_iff, decide_eq_true_eq]

theorem mayBeAuto_of_classifyItem {input : ClassifyInput}
    (h : (classifyItem input).1 = .auto) : MayBeAuto input.expectedCapability := by
  unfold classifyItem at h
  split at h
  · nomatch h
  · next cap hcap =>
    obtain ⟨hsome, hne⟩ := capability?_eq_some.mp hcap
    refine ⟨cap, hsome, hne, ?_⟩
    by_contra hforbidden
    rw [if_pos (by simpa using hforbidden)] at h
    nomatch h

theorem mayBeAuto_of_validateFounderOverride {input : ClassifyInput}
    (h : validateFounderOverride .auto input = none) : MayBeAuto input.expectedCapability := by
  unfold validateFounderOverride at h
  rw [if_neg (fun hne => hne rfl)] at h
  split at h
  · nomatch h
  · next cap hcap =>
    obtain ⟨hsome, hne⟩ := capability?_eq_some.mp hcap
    refine ⟨cap, hsome, hne, ?_⟩
    by_contra hforbidden
    rw [if_pos (by simpa using hforbidden)] at h
    nomatch h

end JavisSaas.Company.Operations
