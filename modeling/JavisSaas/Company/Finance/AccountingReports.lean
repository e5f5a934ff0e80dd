import Mathlib.Algebra.BigOperators.Group.List.Basic
import Mathlib.Data.List.Sort
import Mathlib.Data.Prod.Lex
import JavisSaas.Lib.Newest
import JavisSaas.Lib.Transition
import JavisSaas.Company.Finance.Ledger

/-!
# Accounting reports

`accounting-reports.service.ts`, `accounting-mapping.ts`, `createBookEntryService` of
`accounting-books.service.ts` and the tax rate of `accounting-policy.service.ts`. The mapping of the
code is an argument, since another version of the code comes with another one.

* `bucketTotals_eq_ok`: the totals are the sums of the effects.
* `computeReport_perm`: a report does not depend on the order of the entries.
-/

namespace JavisSaas.Company.Finance

open JavisSaas.Lib

/-! ## The mapping -/

inductive LedgerBucket
  | cash
  | receivable
  | payable
  | loan
  | advance
  | capital
  | revenue
  | cogs
  | opex
  | inventory
  deriving DecidableEq

structure BucketEffect where
  bucket : LedgerBucket
  amountMinor : ℤ

/-- `classifyBookEntry`; `undefined` for a category that it does not know. -/
def classifyBookEntry (category : String) (amountMinor : ℤ) : Option (List BucketEffect) :=
  match category with
  | "capital" => some [⟨.cash, amountMinor⟩, ⟨.capital, amountMinor⟩]
  | "loan" => some [⟨.cash, amountMinor⟩, ⟨.loan, amountMinor⟩]
  | "revenue" => some [⟨.receivable, amountMinor⟩, ⟨.revenue, amountMinor⟩]
  | "cogs" => some [⟨.inventory, -amountMinor⟩, ⟨.cogs, amountMinor⟩]
  | "opex" => some [⟨.payable, amountMinor⟩, ⟨.opex, amountMinor⟩]
  | "inventory_purchase" => some [⟨.cash, -amountMinor⟩, ⟨.inventory, amountMinor⟩]
  | "receivable" => some [⟨.receivable, -amountMinor⟩, ⟨.cash, amountMinor⟩]
  | "payable" => some [⟨.payable, -amountMinor⟩, ⟨.cash, -amountMinor⟩]
  | "internal_transfer" => some [⟨.cash, amountMinor⟩]
  | "advance" => some [⟨.cash, -amountMinor⟩, ⟨.advance, amountMinor⟩]
  | _ => none

inductive ReportRuleType
  | opening
  | movement
  | closing
  deriving DecidableEq

inductive DerivedLineKind
  | grossProfit
  | corporateIncomeTax
  | netProfitAfterTax
  deriving DecidableEq

inductive LineSign
  | plus
  | minus
  deriving DecidableEq

def LineSign.value : LineSign → ℤ
  | plus => 1
  | minus => -1

structure ReportMappingLine where
  reportCode : String
  lineCode : String
  officialCode : String
  name : String
  sourceRef : String
  ruleType : ReportRuleType
  bucket : Option LedgerBucket := none
  derivedKind : Option DerivedLineKind := none
  sign : LineSign := .plus
  deriving DecidableEq

structure RegimeMapping where
  regimeCode : String
  mappingVersion : String
  lines : List ReportMappingLine
  deriving DecidableEq

def unverifiedSource : String :=
  "CHƯA XÁC MINH — chờ founder xác nhận đối chiếu văn bản Thông tư 58/2024 " ++
  "(https://www.mof.gov.vn/tin-tuc-tai-chinh/tin-chinh-sach-tai-chinh/" ++
  "quy-dinh-moi-ve-che-do-ke-toan-cho-doanh-nghiep-sieu-nho) " ++
  "trước khi coi report dùng mapping này là VERIFIED."

/-- A line whose official code is its code. -/
def tt58Line (reportCode lineCode name : String) (ruleType : ReportRuleType)
    (bucket : Option LedgerBucket) (derivedKind : Option DerivedLineKind) : ReportMappingLine :=
  ⟨reportCode, lineCode, lineCode, name, unverifiedSource, ruleType, bucket, derivedKind, .plus⟩

/-- `TT58_2026_MAPPING`. -/
def tt58Mapping : RegimeMapping where
  regimeCode := "TT58_2026"
  mappingVersion := "v2"
  lines := [
    tt58Line "B01" "TS" "Tiền và tương đương tiền" .closing (some .cash) none,
    tt58Line "B01" "PHAI_THU" "Phải thu khách hàng" .closing (some .receivable) none,
    tt58Line "B01" "TON_KHO" "Hàng tồn kho" .closing (some .inventory) none,
    tt58Line "B01" "NO_VAY" "Nợ vay" .closing (some .loan) none,
    tt58Line "B01" "VON_GOP" "Vốn góp chủ sở hữu" .closing (some .capital) none,
    tt58Line "B01" "LOI_NHUAN_GIU_LAI" "Lợi nhuận giữ lại trong kỳ" .closing none
      (some .netProfitAfterTax),
    tt58Line "B02" "DOANH_THU_THUAN" "Doanh thu thuần" .movement (some .revenue) none,
    tt58Line "B02" "GIA_VON" "Giá vốn hàng bán" .movement (some .cogs) none,
    tt58Line "B02" "LOI_NHUAN_GOP" "Lợi nhuận gộp" .movement none (some .grossProfit),
    tt58Line "B02" "CHI_PHI_HDKD" "Chi phí hoạt động kinh doanh" .movement (some .opex) none,
    tt58Line "B02" "THUE_TNDN" "Thuế thu nhập doanh nghiệp" .movement none
      (some .corporateIncomeTax),
    tt58Line "B02" "LOI_NHUAN_SAU_THUE" "Lợi nhuận sau thuế" .movement none
      (some .netProfitAfterTax)]

/-! ## The tables -/

/-- What the watermark takes of a book entry. -/
structure EntryDigest where
  id : ℕ
  category : String
  amountMinor : ℤ
  version : ℕ
  deriving DecidableEq

/-- What `inputWatermark` is the hash of. -/
structure WatermarkInput where
  mappingVersion : String
  taxRateBps : Option ℤ
  entries : List EntryDigest
  deriving DecidableEq

/-- `computeCanonicalSha256` of a mapping and of the inputs of a report. -/
structure ReportHashes (D W : Type) where
  definition : RegimeMapping → D
  watermark : WatermarkInput → W

/-- A row of `accounting_report_mappings`. -/
structure MappingRow (D : Type) where
  line : ReportMappingLine
  definitionHash : D

inductive ReportStatus
  | incomplete
  | providerNotReady
  | verified
  deriving DecidableEq

structure ReportLineView where
  lineCode : String
  officialCode : String
  name : String
  sourceRef : String
  amountMinor : ℤ
  deriving DecidableEq

structure ComputedReport where
  lines : List ReportLineView
  status : ReportStatus
  issues : List String
  deriving DecidableEq

/-- The lines of the mapping, and whether it was confirmed, are in no column of a snapshot. -/
structure ReportBasis where
  lines : List ReportMappingLine
  input : WatermarkInput
  confirmed : Bool

/-- A row of `accounting_report_snapshots`. -/
structure ReportSnapshot (W : Type) where
  id : ℕ
  workspaceId : ℕ
  legalEntityId : ℕ
  periodId : ℕ
  reportCode : String
  mappingVersion : String
  inputWatermark : W
  report : ComputedReport
  generatedAt : ℤ
  basis : ReportBasis

/-- The mappings are kept by regime and version, and their rows by report and line. -/
structure ReportDb (D W : Type) where
  ledger : LedgerDb := {}
  mappings : Dict (String × String) (Dict (String × String) (MappingRow D)) := ∅
  /-- Who has confirmed the mapping of a regime and version, by workspace. -/
  confirmations : Dict (ℕ × String × String) ℕ := ∅
  /-- `corporate_income_tax_rate_bps` by workspace and entity. -/
  taxRates : Dict (ℕ × ℕ) (Option ℤ) := ∅
  snapshots : List (ReportSnapshot W) := []

structure GenerateReportInput where
  legalEntityId : ℕ
  periodId : ℕ
  reportCode : String
  mappingVersion : Option String := none
  expectedPeriodVersion : Option ℕ := none

/-! ## The totals of the buckets -/

def bucketAmount (totals : Dict LedgerBucket ℤ) (bucket : LedgerBucket) : ℤ :=
  (totals.get? bucket).getD 0

def addEffects (totals : Dict LedgerBucket ℤ) (effects : List BucketEffect) :
    Dict LedgerBucket ℤ :=
  effects.foldl (fun totals e => totals.set e.bucket (bucketAmount totals e.bucket + e.amountMinor))
    totals

/-- The effects of an entry on a bucket. -/
def EntryDigest.effectOn (e : EntryDigest) (bucket : LedgerBucket) : ℤ :=
  ((((classifyBookEntry e.category e.amountMinor).getD []).filter
    (·.bucket = bucket)).map (·.amountMinor)).sum

def addEntry (totals : Dict LedgerBucket ℤ) (e : EntryDigest) :
    Except ApiError (Dict LedgerBucket ℤ) :=
  match classifyBookEntry e.category e.amountMinor with
  | some effects => .ok (addEffects totals effects)
  | none => .error ⟨"internal", "effects is not iterable"⟩

/-- The loop of lines 354–360. -/
def bucketTotals (entries : List EntryDigest) : Except ApiError (Dict LedgerBucket ℤ) :=
  entries.foldlM addEntry ∅

theorem bucketAmount_addEffects (totals : Dict LedgerBucket ℤ) (effects : List BucketEffect)
    (bucket : LedgerBucket) : bucketAmount (addEffects totals effects) bucket =
      bucketAmount totals bucket + ((effects.filter (·.bucket = bucket)).map (·.amountMinor)).sum := by
  induction effects generalizing totals with
  | nil => simp [addEffects]
  | cons e effects ih =>
    have hstep : addEffects totals (e :: effects) =
        addEffects (totals.set e.bucket (bucketAmount totals e.bucket + e.amountMinor)) effects := rfl
    rw [hstep, ih, List.filter_cons]
    by_cases h : e.bucket = bucket
    · subst h
      simp only [decide_true, if_true, List.map_cons, List.sum_cons]
      rw [bucketAmount, Dict.get?_set_self, Option.getD_some]
      omega
    · simp only [h, decide_false, Bool.false_eq_true, if_false]
      rw [bucketAmount, Dict.get?_set_of_ne _ h, ← bucketAmount]

theorem foldlM_addEntry_eq_ok {entries : List EntryDigest} {totals totals' : Dict LedgerBucket ℤ}
    (h : entries.foldlM addEntry totals = .ok totals') :
    (∀ e ∈ entries, (classifyBookEntry e.category e.amountMinor).isSome) ∧
      ∀ bucket, bucketAmount totals' bucket =
        bucketAmount totals bucket + (entries.map (·.effectOn bucket)).sum := by
  induction entries generalizing totals with
  | nil =>
    cases h
    exact ⟨fun _ he => absurd he List.not_mem_nil, fun _ => by simp⟩
  | cons _ _ ih =>
    rw [List.foldlM_cons] at h
    obtain ⟨mid, hmid, h⟩ := bind_eq_ok.mp h
    obtain ⟨hknown, hsum⟩ := ih h
    unfold addEntry at hmid
    split at hmid
    · next effects heffects =>
      cases hmid
      refine ⟨fun e' he' => ?_, fun bucket => ?_⟩
      · rcases List.mem_cons.mp he' with rfl | he'
        · rw [heffects]
          rfl
        · exact hknown e' he'
      · rw [hsum, bucketAmount_addEffects, List.map_cons, List.sum_cons, EntryDigest.effectOn,
          heffects, Option.getD_some, Int.add_assoc]
    · nomatch hmid

theorem bucketTotals_eq_ok {entries : List EntryDigest} {totals : Dict LedgerBucket ℤ}
    (h : bucketTotals entries = .ok totals) :
    (∀ e ∈ entries, (classifyBookEntry e.category e.amountMinor).isSome) ∧
      ∀ bucket, bucketAmount totals bucket = (entries.map (·.effectOn bucket)).sum := by
  obtain ⟨hknown, hsum⟩ := foldlM_addEntry_eq_ok h
  refine ⟨hknown, fun bucket => (hsum bucket).trans ?_⟩
  rw [bucketAmount, Dict.get?_empty, Option.getD_none, Int.zero_add]

theorem exists_bucketTotals {entries : List EntryDigest}
    (h : ∀ e ∈ entries, (classifyBookEntry e.category e.amountMinor).isSome) :
    ∃ totals, bucketTotals entries = .ok totals := by
  have hfold : ∀ totals, ∃ totals', entries.foldlM addEntry totals = .ok totals' := by
    induction entries with
    | nil => exact fun totals => ⟨totals, rfl⟩
    | cons e _ ih =>
      intro totals
      obtain ⟨effects, heffects⟩ := Option.isSome_iff_exists.mp (h e List.mem_cons_self)
      obtain ⟨totals', hrest⟩ := ih (fun e' he' => h e' (List.mem_cons_of_mem _ he'))
        (addEffects totals effects)
      refine ⟨totals', ?_⟩
      rw [List.foldlM_cons, addEntry, heffects]
      exact hrest
  exact hfold ∅

/-! ## The lines -/

def taxIssue : String := "corporate_income_tax_rate_not_configured"

def mappingIssue : String := "mapping_not_confirmed_by_founder"

/-- `computeDerivedLine`, of the amounts of the buckets. -/
def computeDerivedLine (kind : DerivedLineKind) (amount : LedgerBucket → ℤ)
    (taxRateBps : Option ℤ) : ℤ × Option String :=
  let grossProfit := amount .revenue - amount .cogs
  let preTax := grossProfit - amount .opex
  let base := if 0 < preTax then preTax else 0
  match kind, taxRateBps with
  | .grossProfit, _ => (grossProfit, none)
  | .corporateIncomeTax, none => (0, some taxIssue)
  | .corporateIncomeTax, some rate => ((base * rate).tdiv 10000, none)
  | .netProfitAfterTax, none => (preTax, some taxIssue)
  | .netProfitAfterTax, some rate => (preTax - (base * rate).tdiv 10000, none)

/-- The amount of a line and its issue. -/
def ReportMappingLine.amount (line : ReportMappingLine) (amount : LedgerBucket → ℤ)
    (taxRateBps : Option ℤ) : Except ApiError (ℤ × Option String) :=
  match line.derivedKind, line.bucket with
  | some kind, _ => .ok (computeDerivedLine kind amount taxRateBps)
  | none, some bucket => .ok (amount bucket, none)
  | none, none => .error (.failedPrecondition "report mapping line is missing ledger bucket")

def ReportMappingLine.view (line : ReportMappingLine) (amountMinor : ℤ) : ReportLineView where
  lineCode := line.lineCode
  officialCode := line.officialCode
  name := line.name
  sourceRef := line.sourceRef
  amountMinor := amountMinor * line.sign.value

def ReportMappingLine.compute (amount : LedgerBucket → ℤ) (taxRateBps : Option ℤ)
    (line : ReportMappingLine) : Except ApiError (ReportLineView × Option String) := do
  let (amountMinor, issue) ← line.amount amount taxRateBps
  return (line.view amountMinor, issue)

/-- A set of issues, in the order in which they come first. -/
def addIssue (issues : List String) (issue : String) : List String :=
  if issue ∈ issues then issues else issues ++ [issue]

/-- Lines 354–397, with `computeReportStatus`. -/
def computeReport (lines : List ReportMappingLine) (entries : List EntryDigest)
    (taxRateBps : Option ℤ) (confirmed : Bool) : Except ApiError ComputedReport := do
  let totals ← bucketTotals entries
  let computed ← lines.mapM (ReportMappingLine.compute (bucketAmount totals) taxRateBps)
  let derivedIssues := (computed.filterMap Prod.snd).foldl addIssue []
  let issues := (if confirmed then [] else [mappingIssue]) ++ derivedIssues
  return {
    lines := computed.map Prod.fst
    status := if issues = [] then .verified else .incomplete
    issues }

theorem computeReport_perm {lines : List ReportMappingLine} {entries entries' : List EntryDigest}
    (h : entries.Perm entries') (taxRateBps : Option ℤ) (confirmed : Bool)
    {report : ComputedReport} (hok : computeReport lines entries taxRateBps confirmed = .ok report) :
    computeReport lines entries' taxRateBps confirmed = .ok report := by
  obtain ⟨totals, htotals, hok⟩ := bind_eq_ok.mp hok
  obtain ⟨hknown, hsum⟩ := bucketTotals_eq_ok htotals
  obtain ⟨totals', htotals'⟩ := exists_bucketTotals fun e he => hknown e (h.mem_iff.mpr he)
  have hamounts : bucketAmount totals' = bucketAmount totals := by
    funext bucket
    rw [hsum, (bucketTotals_eq_ok htotals').2]
    exact ((h.map _).sum_eq).symm
  rw [computeReport, htotals']
  refine bind_eq_ok.mpr ⟨totals', rfl, ?_⟩
  rw [hamounts]
  exact hok

theorem mem_foldl_addIssue {issues more : List String} {issue : String}
    (h : issue ∈ more.foldl addIssue issues) : issue ∈ issues ∨ issue ∈ more := by
  induction more generalizing issues with
  | nil => exact .inl h
  | cons _ _ ih =>
    rcases ih h with hold | hmore
    · unfold addIssue at hold
      split_ifs at hold with hin
      · exact .inl hold
      · rcases mem_concat hold with hold | hnew
        · exact .inl hold
        · exact .inr (hnew ▸ List.mem_cons_self)
    · exact .inr (List.mem_cons_of_mem _ hmore)

theorem issue_of_computeDerivedLine {kind : DerivedLineKind} {amount : LedgerBucket → ℤ}
    {taxRateBps : Option ℤ} {issue : String}
    (h : (computeDerivedLine kind amount taxRateBps).2 = some issue) : issue = taxIssue := by
  cases kind with
  | grossProfit => nomatch h
  | corporateIncomeTax | netProfitAfterTax =>
    cases taxRateBps with
    | none => exact (Option.some.inj h).symm
    | some => nomatch h

theorem issue_of_compute {amount : LedgerBucket → ℤ} {taxRateBps : Option ℤ}
    {line : ReportMappingLine} {view : ReportLineView} {issue : String}
    (h : line.compute amount taxRateBps = .ok (view, some issue)) : issue = taxIssue := by
  obtain ⟨⟨amountMinor, own⟩, hown, h⟩ := bind_eq_ok.mp h
  obtain ⟨-, rfl⟩ := Prod.mk.inj (pure_eq_ok.mp h)
  unfold ReportMappingLine.amount at hown
  split at hown
  · exact issue_of_computeDerivedLine (congrArg Prod.snd (Except.ok.inj hown))
  · nomatch hown
  · nomatch hown

theorem mappingIssue_mem {lines : List ReportMappingLine} {entries : List EntryDigest}
    {taxRateBps : Option ℤ} {confirmed : Bool} {report : ComputedReport}
    (h : computeReport lines entries taxRateBps confirmed = .ok report) :
    mappingIssue ∈ report.issues ↔ confirmed = false := by
  obtain ⟨totals, -, h⟩ := bind_eq_ok.mp h
  obtain ⟨computed, hcomputed, h⟩ := bind_eq_ok.mp h
  cases h
  have hderived : mappingIssue ∉ (computed.filterMap Prod.snd).foldl addIssue [] := by
    intro hmem
    rcases mem_foldl_addIssue hmem with hnil | hmem
    · nomatch hnil
    · obtain ⟨⟨view, issue⟩, hin, rfl⟩ := List.mem_filterMap.mp hmem
      obtain ⟨line, -, hline⟩ := exists_of_mem_mapM hcomputed hin
      nomatch issue_of_compute hline
  cases confirmed with
  | false => simp
  | true => simpa using hderived

/-! ## The services -/

section Services

variable {D W : Type} [DecidableEq D] [DecidableEq W] (hashes : ReportHashes D W)

/-- The rows that the insertions of a mapping make; the last line of a code is kept. -/
def seedRows (mapping : RegimeMapping) : Dict (String × String) (MappingRow D) :=
  mapping.lines.foldl (fun rows line => rows.set (line.reportCode, line.lineCode)
    ⟨line, hashes.definition mapping⟩) ∅

def ReportDb.mappingRows (db : ReportDb D W) (mapping : RegimeMapping) :
    Dict (String × String) (MappingRow D) :=
  (db.mappings.get? (mapping.regimeCode, mapping.mappingVersion)).getD ∅

def isFresh (existing : Dict (String × String) (MappingRow D)) (mapping : RegimeMapping) : Bool :=
  existing.values.length = mapping.lines.length &&
    existing.values.all (fun row => row.definitionHash = hashes.definition mapping) &&
    (existing.values.filter fun row => row.line.derivedKind.isSome).length =
      (mapping.lines.filter fun line => line.derivedKind.isSome).length

/-- `ensureMappingSeeded` (lines 39–125). -/
def ensureMappingSeeded (db : ReportDb D W) (mapping : RegimeMapping) : ReportDb D W :=
  if isFresh hashes (db.mappingRows mapping) mapping then db
  else
    let key := (mapping.regimeCode, mapping.mappingVersion)
    { db with mappings := db.mappings.set key (seedRows hashes mapping) }

def confirmMappingService (db : ReportDb D W) (mapping : RegimeMapping) (ctx : TenantContext)
    (userId : ℕ) (regimeCode mappingVersion : String) : Except ApiError (ReportDb D W) := do
  requireFounderCommand ctx "finance.accounting_mapping.confirm"
  require (regimeCode = mapping.regimeCode ∧ mappingVersion = mapping.mappingVersion)
    (.invalidArgument ("Unknown mapping " ++ regimeCode ++ "/" ++ mappingVersion))
  let db := ensureMappingSeeded hashes db mapping
  let key := (ctx.workspaceId, regimeCode, mappingVersion)
  return { db with
    confirmations := db.confirmations.set key (ctx.workforceMemberId.getD userId) }

/-- `setAccountingPolicyService`, as far as the tax rate goes. -/
def setAccountingPolicyService (db : ReportDb D W) (ctx : TenantContext) (legalEntityId : ℕ)
    (corporateIncomeTaxRateBps : Option ℤ) : Except ApiError (ReportDb D W) := do
  requireFounderCommand ctx "finance.accounting_policy.set"
  require (∀ rate ∈ corporateIncomeTaxRateBps, 0 ≤ rate ∧ rate ≤ 10000)
    (.invalidArgument "corporateIncomeTaxRateBps must be between 0 and 10000")
  let key := (ctx.workspaceId, legalEntityId)
  return { db with
    taxRates := db.taxRates.set key (corporateIncomeTaxRateBps.or (db.taxRates.get? key).join) }

def createBookEntryService (T : DateType) (db : LedgerDb) (ctx : TenantContext)
    (input : CreateBookEntryInput) (answers : LedgerAnswers) : Except ApiError LedgerDb := do
  require (0 < input.amountMinor) (.invalidArgument "amountMinor must be positive")
  let params : AssertOpenPostingPeriodParams :=
    ⟨ctx.workspaceId, some input.legalEntityId, input.effectiveDate⟩
  closedQuery T db params
  if openQuery T db params = [] then anyQuery db params
  declaredPeriod T db ctx input
  insertBookEntry T db ctx input answers

/-- The default of the column; no service changes it. -/
def AccountingBookEntry.version (_ : AccountingBookEntry) : ℕ := 1

def AccountingBookEntry.digest (e : AccountingBookEntry) : EntryDigest :=
  ⟨e.id, e.category, e.amountMinor, e.version⟩

def listBookEntriesService (db : LedgerDb) (ctx : TenantContext) (legalEntityId periodId : ℕ) :
    List AccountingBookEntry :=
  db.entries.values.filter fun e => e.workspaceId = ctx.workspaceId &&
    e.legalEntityId = legalEntityId && e.periodId = periodId

/-- `a.id.localeCompare(b.id)`, of the digits of two identifiers. -/
def idBefore (a b : EntryDigest) : Prop := toString a.id ≤ toString b.id
deriving Decidable

/-- The checks of lines 278–326. -/
def checkReportInput (db : ReportDb D W) (mapping : RegimeMapping) (ctx : TenantContext)
    (input : GenerateReportInput) : Except ApiError Unit := do
  require (∀ version ∈ input.mappingVersion, version = "" ∨ version = mapping.mappingVersion)
    (.invalidArgument ("Unknown mappingVersion " ++ input.mappingVersion.getD "" ++
      "; available: " ++ mapping.mappingVersion))
  let knownReportCodes := (mapping.lines.map (·.reportCode)).foldl addIssue []
  require (input.reportCode ∈ knownReportCodes)
    (.invalidArgument ("Unknown reportCode " ++ input.reportCode ++ "; available: " ++
      ", ".intercalate knownReportCodes))
  match (db.ledger.periods.get? input.periodId).filter fun p =>
    p.workspaceId = ctx.workspaceId with
  | none => .error (.notFound ("accounting period " ++ toString input.periodId ++ " not found"))
  | some period => do
    require (period.legalEntityId = none ∨ period.legalEntityId = some input.legalEntityId)
      (.invalidArgument ("period " ++ toString input.periodId ++
        " belongs to a different legal entity than " ++ toString input.legalEntityId))
    require (∀ version ∈ input.expectedPeriodVersion, period.version = version)
      ⟨"aborted", "VERSION_CONFLICT: expected period version " ++
        toString (input.expectedPeriodVersion.getD 0) ++ " but current is " ++
        toString period.version⟩

/-- The lines of the report in a seeded mapping. -/
def linesOf (rows : Dict (String × String) (MappingRow D)) (reportCode : String) :
    List ReportMappingLine :=
  (rows.values.map (·.line)).filter (·.reportCode = reportCode)

def ReportDb.taxRateBps (db : ReportDb D W) (ctx : TenantContext) (legalEntityId : ℕ) : Option ℤ :=
  (db.taxRates.get? (ctx.workspaceId, legalEntityId)).join

def ReportDb.entries (db : ReportDb D W) (ctx : TenantContext) (input : GenerateReportInput) :
    List AccountingBookEntry :=
  listBookEntriesService db.ledger ctx input.legalEntityId input.periodId

/-- What the report is computed from. -/
def ReportDb.basis (db : ReportDb D W) (mapping : RegimeMapping) (ctx : TenantContext)
    (input : GenerateReportInput) : ReportBasis where
  lines := linesOf (db.mappingRows mapping) input.reportCode
  input := {
    mappingVersion := mapping.mappingVersion
    taxRateBps := db.taxRateBps ctx input.legalEntityId
    entries := ((db.entries ctx input).map (·.digest)).insertionSort idBefore }
  confirmed :=
    (db.confirmations.get? (ctx.workspaceId, mapping.regimeCode, mapping.mappingVersion)).isSome

/-- The last snapshot of the report, by its time and identifier. -/
def ReportDb.latestSnapshot (db : ReportDb D W) (mapping : RegimeMapping) (ctx : TenantContext)
    (input : GenerateReportInput) : Option (ReportSnapshot W) :=
  newest (fun r => toLex (r.generatedAt, r.id)) <|
    db.snapshots.filter fun r => r.workspaceId = ctx.workspaceId &&
      r.legalEntityId = input.legalEntityId && r.periodId = input.periodId &&
      r.reportCode = input.reportCode && r.mappingVersion = mapping.mappingVersion

def newSnapshot (mapping : RegimeMapping) (ctx : TenantContext) (input : GenerateReportInput)
    (answers : LedgerAnswers) (basis : ReportBasis) (report : ComputedReport) :
    ReportSnapshot W where
  id := answers.newId
  workspaceId := ctx.workspaceId
  legalEntityId := input.legalEntityId
  periodId := input.periodId
  reportCode := input.reportCode
  mappingVersion := mapping.mappingVersion
  inputWatermark := hashes.watermark basis.input
  report
  generatedAt := answers.now
  basis

/-- The last snapshot, if its watermark, its status and its issues are those of the report. -/
def ReportDb.reusable (db : ReportDb D W) (mapping : RegimeMapping) (ctx : TenantContext)
    (input : GenerateReportInput) (report : ComputedReport) : Option (ReportSnapshot W) :=
  (db.latestSnapshot mapping ctx input).filter fun existing =>
    existing.inputWatermark = hashes.watermark (db.basis mapping ctx input).input &&
      existing.report.status = report.status && existing.report.issues = report.issues

/-- `generateReportService` (lines 274–484), when its input is checked and its mapping seeded. -/
def reportOf (db : ReportDb D W) (mapping : RegimeMapping) (ctx : TenantContext)
    (input : GenerateReportInput) (answers : LedgerAnswers) :
    Except ApiError (ReportDb D W × ReportSnapshot W) := do
  let basis := db.basis mapping ctx input
  let report ← computeReport basis.lines ((db.entries ctx input).map (·.digest))
    basis.input.taxRateBps basis.confirmed
  match db.reusable hashes mapping ctx input report with
  | some existing => return (db, existing)
  | none => do
    require (∀ r ∈ db.snapshots, r.id ≠ answers.newId)
      ⟨"internal", "Failed to generate report snapshot"⟩
    let row := newSnapshot hashes mapping ctx input answers basis report
    return ({ db with snapshots := db.snapshots ++ [row] }, row)

/-- A call that fails behind its checks has seeded the mapping. -/
def generateReportService (db : ReportDb D W) (mapping : RegimeMapping) (ctx : TenantContext)
    (input : GenerateReportInput) (answers : LedgerAnswers) :
    ReportDb D W × Except ApiError (ReportSnapshot W) :=
  match checkReportInput db mapping ctx input with
  | .error e => (db, .error e)
  | .ok _ =>
    let db := ensureMappingSeeded hashes db mapping
    match reportOf hashes db mapping ctx input answers with
    | .error e => (db, .error e)
    | .ok (db, view) => (db, .ok view)

end Services

/-! ## Histories -/

inductive ReportLabel
  /-- Any service of the books. -/
  | books (post : LedgerDb → Except ApiError LedgerDb)
  | setPolicy (ctx : TenantContext) (legalEntityId : ℕ) (corporateIncomeTaxRateBps : Option ℤ)
  | seed (mapping : RegimeMapping)
  | confirm (mapping : RegimeMapping) (ctx : TenantContext) (userId : ℕ)
      (regimeCode mappingVersion : String)
  | generate (mapping : RegimeMapping) (ctx : TenantContext) (input : GenerateReportInput)
      (answers : LedgerAnswers)

/-- The services one after the other. -/
def accountingReports {D W : Type} [DecidableEq D] [DecidableEq W] (hashes : ReportHashes D W) :
    System (ReportDb D W) ReportLabel where
  next db
    | .books post => some { db with ledger := (post db.ledger).toOption.getD db.ledger }
    | .setPolicy ctx legalEntityId rate =>
      some ((setAccountingPolicyService db ctx legalEntityId rate).toOption.getD db)
    | .seed mapping => some (ensureMappingSeeded hashes db mapping)
    | .confirm mapping ctx userId regimeCode mappingVersion =>
      some ((confirmMappingService hashes db mapping ctx userId regimeCode
        mappingVersion).toOption.getD db)
    | .generate mapping ctx input answers =>
      some (generateReportService hashes db mapping ctx input answers).1

end JavisSaas.Company.Finance
