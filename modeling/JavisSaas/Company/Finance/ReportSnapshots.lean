import JavisSaas.Lib.Sums
import JavisSaas.Company.Finance.AccountingReports

/-!
# Reused report snapshots

The watermark takes neither the lines of the mapping nor the currencies of the entries.

* `reportLaw_along`: a report is what a fresh computation gives, in one currency, if no snapshot of
  the same entries was made from other lines, and no line counts different currencies.
* `ensureMappingSeeded_rows`: what is stored after a seeding is the mapping of the code.
* `not_reportLaw_changed`: a mapping that changes under its version, and dong added to dollars.
-/

namespace JavisSaas.Company.Finance

open JavisSaas.Lib

section

variable {D W : Type} [DecidableEq D] [DecidableEq W] (U : UpperCase) (hashes : ReportHashes D W)

/-! ## The law -/

/-- The report of the current entries, tax rate and mapping. -/
def freshReport (db : ReportDb D W) (mapping : RegimeMapping) (ctx : TenantContext)
    (input : GenerateReportInput) : Except ApiError ComputedReport :=
  computeReport (linesOf (seedRows hashes mapping) input.reportCode)
    ((db.entries ctx input).map (·.digest)) (db.taxRateBps ctx input.legalEntityId)
    (db.confirmations.get? (ctx.workspaceId, mapping.regimeCode, mapping.mappingVersion)).isSome

/-- The entries of the report in one currency. -/
def ReportDb.entriesIn (db : ReportDb D W) (ctx : TenantContext) (input : GenerateReportInput)
    (currency : String) : List EntryDigest :=
  ((db.entries ctx input).filter fun e => U.upper e.currency = currency).map (·.digest)

/-- The line is one of the mapping, with the amount of the entries in one currency. -/
def OfOneCurrency (db : ReportDb D W) (mapping : RegimeMapping) (ctx : TenantContext)
    (input : GenerateReportInput) (view : ReportLineView) : Prop :=
  ∃ line ∈ linesOf (seedRows hashes mapping) input.reportCode, ∃ currency totals issue,
    bucketTotals (db.entriesIn U ctx input currency) = .ok totals ∧
      line.compute (bucketAmount totals) (db.taxRateBps ctx input.legalEntityId) = .ok (view, issue)

/-- A report that a call returns. -/
structure ReportLaw (db : ReportDb D W) (mapping : RegimeMapping) (ctx : TenantContext)
    (input : GenerateReportInput) (report : ComputedReport) : Prop where
  fresh : freshReport hashes db mapping ctx input = .ok report
  currency : ∀ view ∈ report.lines, OfOneCurrency U hashes db mapping ctx input view

/-- Every report that the step returns meets the law. -/
def ReturnsReports (db : ReportDb D W) : ReportLabel → Prop
  | .generate mapping ctx input answers => ∀ view,
      (generateReportService hashes db mapping ctx input answers).2 = .ok view →
        ReportLaw U hashes db mapping ctx input view.report
  | _ => True

/-! ## The condition -/

/-- The buckets that the line takes its amount from. -/
def ReportMappingLine.buckets (line : ReportMappingLine) : List LedgerBucket :=
  match line.derivedKind with
  | some .grossProfit => [.revenue, .cogs]
  | some .corporateIncomeTax | some .netProfitAfterTax => [.revenue, .cogs, .opex]
  | none => line.bucket.toList

/-- The entry has an effect on a bucket of the line. -/
def ReportMappingLine.counts (line : ReportMappingLine) (e : EntryDigest) : Bool :=
  ((classifyBookEntry e.category e.amountMinor).getD []).any (·.bucket ∈ line.buckets)

/-- A last snapshot of the same basis was made from the same lines, each in one currency. -/
def NothingChanged (db : ReportDb D W) : ReportLabel → Prop
  | .generate mapping ctx input _ =>
    let basis := (ensureMappingSeeded hashes db mapping).basis mapping ctx input
    (∀ existing ∈ db.latestSnapshot mapping ctx input, existing.basis.input = basis.input →
      existing.basis.confirmed = basis.confirmed → existing.basis.lines = basis.lines) ∧
    ∀ line ∈ basis.lines, ∀ e ∈ db.entries ctx input, ∀ e' ∈ db.entries ctx input,
      line.counts e.digest → line.counts e'.digest → U.upper e.currency = U.upper e'.currency
  | _ => True

instance (db : ReportDb D W) (l : ReportLabel) : Decidable (NothingChanged U hashes db l) := by
  unfold NothingChanged
  split <;> infer_instance

/-! ## What every step keeps -/

/-- Every mapping is stored as it was seeded, and every snapshot has what its basis gives. -/
structure ReportDb.Sound (db : ReportDb D W) : Prop where
  mappings : ∀ key rows, db.mappings.get? key = some rows →
    ∃ mapping, key = (mapping.regimeCode, mapping.mappingVersion) ∧
      rows = seedRows hashes mapping
  snapshots : ∀ r ∈ db.snapshots, r.inputWatermark = hashes.watermark r.basis.input ∧
    computeReport r.basis.lines r.basis.input.entries r.basis.input.taxRateBps
      r.basis.confirmed = .ok r.report

end

section

variable {D W : Type} {U : UpperCase} {hashes : ReportHashes D W} {db : ReportDb D W} {mapping : RegimeMapping} {ctx : TenantContext}
  {input : GenerateReportInput} {answers : LedgerAnswers}

theorem definitionHash_of_seedRows {key : String × String} {row : MappingRow D}
    (h : (seedRows hashes mapping).get? key = some row) :
    row.definitionHash = hashes.definition mapping := by
  have hfold : ∀ (lines : List ReportMappingLine) (rows : Dict (String × String) (MappingRow D)),
      (∀ key row, rows.get? key = some row → row.definitionHash = hashes.definition mapping) →
      ∀ key row, (lines.foldl (fun rows line => rows.set (line.reportCode, line.lineCode)
        ⟨line, hashes.definition mapping⟩) rows).get? key = some row →
          row.definitionHash = hashes.definition mapping := by
    intro lines
    induction lines with
    | nil => exact fun _ h => h
    | cons _ _ ih =>
      intro rows hrows
      refine ih _ fun key row hrow => ?_
      rw [Dict.get?_set] at hrow
      split_ifs at hrow
      · cases hrow
        rfl
      · exact hrows key row hrow
  exact hfold mapping.lines ∅ (fun _ _ h => nomatch h) key row h

theorem ensureMappingSeeded_rows [DecidableEq D]
    (hdefinition : Function.Injective hashes.definition)
    (h : db.Sound hashes) (mapping : RegimeMapping) :
    (ensureMappingSeeded hashes db mapping).mappingRows mapping = seedRows hashes mapping := by
  unfold ensureMappingSeeded
  split_ifs with hfresh
  · simp only [isFresh, Bool.and_eq_true, decide_eq_true_eq, List.all_eq_true] at hfresh
    obtain ⟨⟨hlength, hall⟩, -⟩ := hfresh
    cases hrows : db.mappings.get? (mapping.regimeCode, mapping.mappingVersion) with
    | none =>
      have hempty : db.mappingRows mapping = ∅ := by rw [ReportDb.mappingRows, hrows]; rfl
      rw [hempty] at hlength ⊢
      have hnil : mapping.lines = [] := List.eq_nil_of_length_eq_zero hlength.symm
      rw [seedRows, hnil]
      rfl
    | some rows =>
      obtain ⟨seeded, -, hseeded⟩ := h.mappings _ rows hrows
      have hown : db.mappingRows mapping = rows := by rw [ReportDb.mappingRows, hrows]; rfl
      rw [hown] at hlength hall ⊢
      cases hvalues : rows.values with
      | nil =>
        have hnil : mapping.lines = [] := by
          rw [hvalues] at hlength
          exact List.eq_nil_of_length_eq_zero hlength.symm
        have hitems : rows.items = [] := List.map_eq_nil_iff.mp hvalues
        obtain ⟨items, nodup⟩ := rows
        obtain rfl : items = [] := hitems
        rw [seedRows, hnil]
        rfl
      | cons row =>
        have hmem : row ∈ rows.values := hvalues ▸ List.mem_cons_self
        obtain ⟨key, hkey⟩ := Dict.mem_values.mp hmem
        have hhash := definitionHash_of_seedRows (hseeded ▸ hkey)
        obtain rfl := hdefinition (hhash.symm.trans (hall row hmem))
        exact hseeded
  · show (Dict.get? (Dict.set _ _ _) _).getD ∅ = _
    rw [Dict.get?_set_self]
    rfl

theorem ensureMappingSeeded_frame [DecidableEq D] (hashes : ReportHashes D W) (db : ReportDb D W)
    (mapping : RegimeMapping) :
    ∃ mappings, ensureMappingSeeded hashes db mapping = { db with mappings } := by
  unfold ensureMappingSeeded
  split_ifs
  · exact ⟨db.mappings, rfl⟩
  · exact ⟨_, rfl⟩

theorem sound_ensureMappingSeeded [DecidableEq D] (h : db.Sound hashes) (mapping : RegimeMapping) :
    (ensureMappingSeeded hashes db mapping).Sound hashes := by
  unfold ensureMappingSeeded
  split_ifs
  · exact h
  · refine ⟨fun key rows hrows => ?_, h.snapshots⟩
    rw [Dict.get?_set] at hrows
    split_ifs at hrows with heq
    · cases hrows
      exact ⟨mapping, heq.symm, rfl⟩
    · exact h.mappings key rows hrows

variable {db' : ReportDb D W} {line : ReportMappingLine}

theorem sound_reportOf [DecidableEq W] (h : db.Sound hashes) {view : ReportSnapshot W}
    (hok : reportOf hashes db mapping ctx input answers = .ok (db', view)) : db'.Sound hashes := by
  obtain ⟨report, hreport, hok⟩ := bind_eq_ok.mp hok
  split at hok
  · cases hok
    exact h
  · have hok := of_require hok
    cases hok
    refine ⟨h.mappings, fun r hr => ?_⟩
    rcases mem_concat hr with hold | rfl
    · exact h.snapshots r hold
    · refine ⟨rfl, ?_⟩
      exact computeReport_perm (List.perm_insertionSort idBefore _).symm _ _ hreport

/-- A call fails at its checks, or behind them, or returns a report. -/
theorem generateReportService_cases [DecidableEq D] [DecidableEq W] (hashes : ReportHashes D W)
    (db : ReportDb D W) (mapping : RegimeMapping) (ctx : TenantContext)
    (input : GenerateReportInput) (answers : LedgerAnswers) :
    let seeded := ensureMappingSeeded hashes db mapping
    (∃ e, generateReportService hashes db mapping ctx input answers = (db, .error e)) ∨
    (∃ e, generateReportService hashes db mapping ctx input answers = (seeded, .error e)) ∨
    ∃ db' view, reportOf hashes seeded mapping ctx input answers = .ok (db', view) ∧
      generateReportService hashes db mapping ctx input answers = (db', .ok view) := by
  unfold generateReportService
  cases hcheck : checkReportInput db mapping ctx input with
  | error e => exact .inl ⟨e, rfl⟩
  | ok =>
    dsimp only
    cases hreport : reportOf hashes (ensureMappingSeeded hashes db mapping) mapping ctx input
        answers with
    | error e => exact .inr (.inl ⟨e, rfl⟩)
    | ok result => exact .inr (.inr ⟨result.1, result.2, rfl, rfl⟩)

theorem sound_generate [DecidableEq D] [DecidableEq W] (h : db.Sound hashes) :
    (generateReportService hashes db mapping ctx input answers).1.Sound hashes := by
  have hseeded := sound_ensureMappingSeeded h mapping
  obtain ⟨e, hcall⟩ | ⟨e, hcall⟩ | ⟨db', view, hreport, hcall⟩ :=
    generateReportService_cases hashes db mapping ctx input answers
  · rw [hcall]
    exact h
  · rw [hcall]
    exact hseeded
  · rw [hcall]
    exact sound_reportOf hseeded hreport

theorem sound_next [DecidableEq D] [DecidableEq W] (h : db.Sound hashes) {l : ReportLabel}
    (hnext : (accountingReports hashes).next db l = some db') : db'.Sound hashes := by
  cases l with
  | books =>
    cases hnext
    exact ⟨h.mappings, h.snapshots⟩
  | setPolicy ctx legalEntityId rate =>
    cases hnext
    cases hset : setAccountingPolicyService db ctx legalEntityId rate with
    | error => exact h
    | ok =>
      obtain ⟨_, hset⟩ := of_bind hset
      have hset := of_require hset
      cases hset
      exact ⟨h.mappings, h.snapshots⟩
  | seed mapping =>
    cases hnext
    exact sound_ensureMappingSeeded h mapping
  | confirm mapping ctx userId regimeCode mappingVersion =>
    cases hnext
    cases hconfirm : confirmMappingService hashes db mapping ctx userId regimeCode
        mappingVersion with
    | error => exact h
    | ok =>
      obtain ⟨_, hconfirm⟩ := of_bind hconfirm
      have hconfirm := of_require hconfirm
      cases hconfirm
      have hseeded := sound_ensureMappingSeeded h mapping
      exact ⟨hseeded.mappings, hseeded.snapshots⟩
  | generate =>
    cases hnext
    exact sound_generate h

/-! ## A report is fresh -/

theorem report_of_reusable [DecidableEq W] (hwatermark : Function.Injective hashes.watermark)
    (h : db.Sound hashes) {report : ComputedReport} {existing : ReportSnapshot W}
    (hreport : computeReport (db.basis mapping ctx input).lines
      (db.basis mapping ctx input).input.entries (db.basis mapping ctx input).input.taxRateBps
      (db.basis mapping ctx input).confirmed = .ok report)
    (hsame : ∀ existing ∈ db.latestSnapshot mapping ctx input,
      existing.basis.input = (db.basis mapping ctx input).input →
      existing.basis.confirmed = (db.basis mapping ctx input).confirmed →
        existing.basis.lines = (db.basis mapping ctx input).lines)
    (hreusable : db.reusable hashes mapping ctx input report = some existing) :
    existing.report = report := by
  obtain ⟨hlatest, hmatch⟩ := Option.filter_eq_some_iff.mp hreusable
  simp only [Bool.and_eq_true, decide_eq_true_eq] at hmatch
  obtain ⟨⟨hmark, hstatus⟩, hissues⟩ := hmatch
  obtain ⟨hown, hcomputed⟩ := h.snapshots existing
    (List.mem_of_mem_filter (mem_of_newest hlatest))
  have hinput := hwatermark (hown.symm.trans hmark)
  have hconfirmed : existing.basis.confirmed = (db.basis mapping ctx input).confirmed := by
    have hiff := (mappingIssue_mem hcomputed).symm.trans (hissues ▸ mappingIssue_mem hreport)
    rwa [Bool.eq_iff_iff, ← Bool.not_eq_false, ← Bool.not_eq_false, not_iff_not]
  rw [hsame existing hlatest hinput hconfirmed, hinput, hconfirmed, hreport] at hcomputed
  exact (Except.ok.inj hcomputed).symm

theorem computeReport_of_reportOf [DecidableEq W] (hwatermark : Function.Injective hashes.watermark)
    (h : db.Sound hashes) (hsame : ∀ existing ∈ db.latestSnapshot mapping ctx input,
      existing.basis.input = (db.basis mapping ctx input).input →
      existing.basis.confirmed = (db.basis mapping ctx input).confirmed →
        existing.basis.lines = (db.basis mapping ctx input).lines) {view : ReportSnapshot W}
    (hok : reportOf hashes db mapping ctx input answers = .ok (db', view)) :
    computeReport (db.basis mapping ctx input).lines ((db.entries ctx input).map (·.digest))
      (db.basis mapping ctx input).input.taxRateBps (db.basis mapping ctx input).confirmed =
        .ok view.report := by
  obtain ⟨report, hreport, hok⟩ := bind_eq_ok.mp hok
  split at hok
  · next existing hreusable =>
    obtain ⟨-, rfl⟩ := Prod.mk.inj (pure_eq_ok.mp hok)
    have hsorted := computeReport_perm (List.perm_insertionSort idBefore _).symm _ _ hreport
    rw [report_of_reusable hwatermark h hsorted hsame hreusable]
    exact hreport
  · have hok := of_require hok
    obtain ⟨-, rfl⟩ := Prod.mk.inj (pure_eq_ok.mp hok)
    exact hreport

/-! ## A line is of one currency -/

theorem effectOn_eq_zero {e : EntryDigest} {bucket : LedgerBucket} (hbucket : bucket ∈ line.buckets)
    (h : line.counts e = false) : e.effectOn bucket = 0 := by
  have hnone : ((classifyBookEntry e.category e.amountMinor).getD []).filter
      (·.bucket = bucket) = [] := by
    refine List.filter_eq_nil_iff.mpr fun effect heffect hown => ?_
    rw [decide_eq_true_eq] at hown
    refine List.any_eq_false.mp h effect heffect (decide_eq_true ?_)
    exact hown ▸ hbucket
  rw [EntryDigest.effectOn, hnone]
  rfl

theorem compute_congr {amount amount' : LedgerBucket → ℤ}
    (h : ∀ bucket ∈ line.buckets, amount bucket = amount' bucket) (taxRateBps : Option ℤ) :
    line.compute amount taxRateBps = line.compute amount' taxRateBps := by
  have hamount : line.amount amount taxRateBps = line.amount amount' taxRateBps := by
    unfold ReportMappingLine.amount
    unfold ReportMappingLine.buckets at h
    split
    · next kind hkind =>
      rw [hkind] at h
      cases kind with
      | grossProfit => rw [computeDerivedLine, h .revenue (by simp), h .cogs (by simp)]; rfl
      | corporateIncomeTax | netProfitAfterTax =>
        simp only [computeDerivedLine, h .revenue (by simp), h .cogs (by simp), h .opex (by simp)]
    · next bucket hkind hbucket =>
      rw [hkind, hbucket] at h
      rw [h bucket (by simp)]
    · rfl
  rw [ReportMappingLine.compute, hamount, ← ReportMappingLine.compute]

/-- The amount of a line, of the entries of the only currency that it counts. -/
theorem exists_compute_in {totals : Dict LedgerBucket ℤ}
    (htotals : bucketTotals ((db.entries ctx input).map (·.digest)) = .ok totals)
    (hone : ∀ e ∈ db.entries ctx input, ∀ e' ∈ db.entries ctx input, line.counts e.digest →
      line.counts e'.digest → U.upper e.currency = U.upper e'.currency) (taxRateBps : Option ℤ) :
    ∃ currency totals', bucketTotals (db.entriesIn U ctx input currency) = .ok totals' ∧
      line.compute (bucketAmount totals') taxRateBps =
        line.compute (bucketAmount totals) taxRateBps := by
  obtain ⟨currency, hcurrency⟩ : ∃ currency, ∀ e ∈ db.entries ctx input,
      line.counts e.digest → U.upper e.currency = currency := by
    by_cases hany : ∃ e ∈ db.entries ctx input, line.counts e.digest
    · obtain ⟨e, he, hcounts⟩ := hany
      exact ⟨U.upper e.currency, fun e' he' hcounts' => hone e' he' e he hcounts' hcounts⟩
    · exact ⟨"", fun e he hcounts => absurd ⟨e, he, hcounts⟩ hany⟩
  obtain ⟨hknown, hsum⟩ := bucketTotals_eq_ok htotals
  obtain ⟨totals', htotals'⟩ : ∃ totals', bucketTotals (db.entriesIn U ctx input currency) =
      .ok totals' := by
    refine exists_bucketTotals fun e he => ?_
    obtain ⟨entry, hentry, rfl⟩ := List.mem_map.mp he
    exact hknown _ (List.mem_map_of_mem (List.mem_of_mem_filter hentry))
  refine ⟨currency, totals', htotals', compute_congr (fun bucket hbucket => ?_) taxRateBps⟩
  rw [(bucketTotals_eq_ok htotals').2, hsum, ReportDb.entriesIn, List.map_map, List.map_map,
    sum_map_filter]
  congr 1
  refine List.map_congr_left fun e he => ?_
  split_ifs with hown
  · rfl
  · rw [decide_eq_true_eq] at hown
    have hcounts : line.counts e.digest = false := by
      rw [← Bool.not_eq_true]
      exact fun h => hown (hcurrency e he h)
    exact (effectOn_eq_zero hbucket hcounts).symm

/-! ## Histories -/

theorem returnsReports_of_nothingChanged [DecidableEq D] [DecidableEq W]
    (hdefinition : Function.Injective hashes.definition)
    (hwatermark : Function.Injective hashes.watermark) (h : db.Sound hashes) {l : ReportLabel}
    (hnot : NothingChanged U hashes db l) : ReturnsReports U hashes db l := by
  cases l with
  | generate mapping ctx input answers =>
    intro view hview
    obtain ⟨e, hcall⟩ | ⟨e, hcall⟩ | ⟨db', report, hreport, hcall⟩ :=
      generateReportService_cases hashes db mapping ctx input answers
    · rw [hcall] at hview
      nomatch hview
    · rw [hcall] at hview
      nomatch hview
    · rw [hcall] at hview
      cases hview
      have hrows := ensureMappingSeeded_rows hdefinition h mapping
      have hsound := sound_ensureMappingSeeded h mapping
      obtain ⟨hsame, hone⟩ := hnot
      obtain ⟨mappings, hseeded⟩ := ensureMappingSeeded_frame hashes db mapping
      rw [hseeded] at hrows hsound hreport hsame hone
      have hfresh := computeReport_of_reportOf hwatermark hsound hsame hreport
      have hlines : (ReportDb.basis { db with mappings } mapping ctx input).lines =
          linesOf (seedRows hashes mapping) input.reportCode := by
        rw [← hrows]
        rfl
      rw [hlines] at hfresh hone
      refine ⟨hfresh, fun line hline => ?_⟩
      obtain ⟨totals, htotals, hok⟩ := bind_eq_ok.mp hfresh
      obtain ⟨computed, hcomputed, hok⟩ := bind_eq_ok.mp hok
      rw [← pure_eq_ok.mp hok] at hline
      obtain ⟨⟨line, issue⟩, hin, rfl⟩ := List.mem_map.mp hline
      obtain ⟨own, hown, hcompute⟩ := exists_of_mem_mapM hcomputed hin
      obtain ⟨currency, totals', htotals', hsame⟩ := exists_compute_in htotals (hone own hown)
        (db.taxRateBps ctx input.legalEntityId)
      exact ⟨own, hown, currency, totals', issue, htotals', hsame.trans hcompute⟩
  | books | setPolicy | seed | confirm => trivial

/-- Under the condition every report of a history is fresh, and each line in one currency. -/
theorem reportLaw_along {D W : Type} [DecidableEq D] [DecidableEq W] (U : UpperCase)
    (hashes : ReportHashes D W) (hdefinition : Function.Injective hashes.definition)
    (hwatermark : Function.Injective hashes.watermark) (db : ReportDb D W) (h : db.Sound hashes)
    (ls : List ReportLabel)
    (hnot : (accountingReports hashes).Along (NothingChanged U hashes) db ls) :
    (accountingReports hashes).Along (ReturnsReports U hashes) db ls :=
  (accountingReports hashes).along_of_inv (fun _ _ _ hI _ hnext => sound_next hI hnext)
    (fun _ _ hI hG => returnsReports_of_nothingChanged hdefinition hwatermark hI hG) h hnot

end

/-! ### The books of an entity -/

/-- The texts themselves, as hashes of them. -/
def plainReportHashes : ReportHashes RegimeMapping WatermarkInput := ⟨id, id⟩

theorem plain_upper_upper (s : String) : id (id s) = id s := rfl

def plainUpper : UpperCase := ⟨id, plain_upper_upper⟩

def reportFounder : TenantContext := ⟨1, some 9, "founder"⟩

/-- An open period of the entity 2. -/
def reportBooks : ReportDb RegimeMapping WatermarkInput where
  ledger := {
    periods := Dict.update ∅ [(3, ⟨3, 1, some 2, Civil.toDays ⟨2026, 1, 1⟩,
      Civil.toDays ⟨2026, 12, 31⟩, .opened, none, 1⟩)] }

theorem sound_reportBooks : reportBooks.Sound plainReportHashes :=
  ⟨fun _ _ h => (nomatch h), fun _ h => absurd h List.not_mem_nil⟩

def capitalEntry (id : ℕ) (amountMinor : ℤ) (currency : String) : ReportLabel :=
  .books fun db => createBookEntryService isoDates db reportFounder
    { legalEntityId := 2, periodId := 3, item := "Góp vốn", category := "capital", amountMinor
      currency := some currency, effectiveDate := "2026-03-01", source := "manual" }
    { now := 0, newId := id }

def balanceSheetInput : GenerateReportInput :=
  { legalEntityId := 2, periodId := 3, reportCode := "B01" }

def balanceSheet (mapping : RegimeMapping) (id : ℕ) : ReportLabel :=
  .generate mapping reportFounder balanceSheetInput { now := id, newId := id }

/-- Reports before and after the confirmation and the tax rate, and one that is reused. -/
def yearOfReports : List ReportLabel :=
  [capitalEntry 11 100 "VND", balanceSheet tt58Mapping 21,
    .confirm tt58Mapping reportFounder 9 "TT58_2026" "v2", balanceSheet tt58Mapping 22,
    .setPolicy reportFounder 2 (some 2000), balanceSheet tt58Mapping 23,
    balanceSheet tt58Mapping 24, capitalEntry 12 50 "VND", balanceSheet tt58Mapping 25]

theorem reportLaw_along_year : (accountingReports plainReportHashes).Along
    (ReturnsReports plainUpper plainReportHashes) reportBooks yearOfReports :=
  reportLaw_along plainUpper plainReportHashes (fun _ _ h => h) (fun _ _ h => h) reportBooks
    sound_reportBooks yearOfReports (by decide +kernel)

/-- The same version, with what is receivable in its first line. -/
def changedMapping : RegimeMapping :=
  let line := tt58Line "B01" "TS" "Tiền" .closing (some .receivable) none
  { tt58Mapping with lines := tt58Mapping.lines.set 0 line }

def changedBooks : ReportDb RegimeMapping WatermarkInput :=
  ((accountingReports plainReportHashes).run reportBooks
    [capitalEntry 11 100 "VND", balanceSheet tt58Mapping 21]).get (by decide +kernel)

def mixedBooks : ReportDb RegimeMapping WatermarkInput :=
  ((accountingReports plainReportHashes).run reportBooks
    [capitalEntry 11 100 "VND", capitalEntry 12 50 "USD"]).get (by decide +kernel)

/-- The report after the change is the one before it. -/
def staleReport : ReportSnapshot WatermarkInput :=
  (generateReportService plainReportHashes changedBooks changedMapping reportFounder
    balanceSheetInput { now := 22, newId := 22 }).2.toOption.get (by decide +kernel)

def mixedReport : ReportSnapshot WatermarkInput :=
  (generateReportService plainReportHashes mixedBooks tt58Mapping reportFounder
    balanceSheetInput { now := 21, newId := 21 }).2.toOption.get (by decide +kernel)

/-- Cash of 100 dong and 50 dollars. -/
def mixedCash : ReportLineView :=
  ⟨"TS", "TS", "Tiền và tương đương tiền", unverifiedSource, 150⟩

theorem mixedBooks_entriesIn (currency : String) :
    mixedBooks.entriesIn plainUpper reportFounder balanceSheetInput currency ∈
      [[⟨11, "capital", 100, 1⟩], [⟨12, "capital", 50, 1⟩], ([] : List EntryDigest)] := by
  have hentries : mixedBooks.entries reportFounder balanceSheetInput =
      [⟨11, 1, 2, 3, none, "Góp vốn", "capital", 100, "VND", Civil.toDays ⟨2026, 3, 1⟩, "manual"⟩,
        ⟨12, 1, 2, 3, none, "Góp vốn", "capital", 50, "USD", Civil.toDays ⟨2026, 3, 1⟩, "manual"⟩] := by
    decide +kernel
  rw [ReportDb.entriesIn, hentries]
  by_cases hdong : "VND" = currency
  · subst hdong
    decide
  · by_cases hdollar : "USD" = currency
    · subst hdollar
      decide
    · simp [plainUpper, hdong, hdollar]

theorem not_reportLaw_changed :
    ((accountingReports plainReportHashes).run reportBooks
        [capitalEntry 11 100 "VND", balanceSheet tt58Mapping 21] = some changedBooks ∧
      ¬ReturnsReports plainUpper plainReportHashes changedBooks
        (balanceSheet changedMapping 22)) ∧
    (accountingReports plainReportHashes).run reportBooks
        [capitalEntry 11 100 "VND", capitalEntry 12 50 "USD"] = some mixedBooks ∧
      ¬ReturnsReports plainUpper plainReportHashes mixedBooks (balanceSheet tt58Mapping 21) := by
  refine ⟨⟨(Option.some_get _).symm, fun h => ?_⟩, (Option.some_get _).symm, fun h => ?_⟩
  · have hfresh := congrArg Except.toOption (h staleReport (eq_ok_get _)).fresh
    revert hfresh
    decide +kernel
  · obtain ⟨line, hline, currency, totals, issue, htotals, hcompute⟩ :=
      (h mixedReport (eq_ok_get _)).currency mixedCash (by decide +kernel)
    have hnever : ∀ line ∈ linesOf (seedRows plainReportHashes tt58Mapping) "B01",
        ∀ entries ∈ [[⟨11, "capital", 100, 1⟩], [⟨12, "capital", 50, 1⟩], ([] : List EntryDigest)],
          ((bucketTotals entries).toOption.bind fun totals =>
            ((line.compute (bucketAmount totals) none).toOption.map Prod.fst)) ≠ some mixedCash := by
      decide +kernel
    refine hnever line hline _ (mixedBooks_entriesIn currency) ?_
    have hrate : mixedBooks.taxRateBps reportFounder 2 = none := by decide +kernel
    rw [show balanceSheetInput.legalEntityId = 2 from rfl, hrate] at hcompute
    rw [htotals]
    show ((line.compute (bucketAmount totals) none).toOption.map Prod.fst) = _
    rw [hcompute]
    rfl

end JavisSaas.Company.Finance
