import Mathlib.Tactic.Linarith
import JavisSaas.Company.Finance.AccountingReports

/-!
# The balance of the book entries

Every category of `classifyBookEntry` moves the assets by as much as it moves the liabilities, the
equity and the profit before tax, except for an internal transfer.

* `assets_eq_iff`: the totals balance exactly when the internal transfers cancel each other.
* `tax_le_base`, `tax_add_le`: the bounds and the growth of the corporate income tax.
* `accounts_balance`: the balance, and the derived lines.
-/

namespace JavisSaas.Company.Finance

open JavisSaas.Lib

/-! ## What the buckets stand for -/

/-- `BookEntryCategory`. -/
def bookEntryCategories : List String :=
  ["capital", "loan", "internal_transfer", "revenue", "cogs", "opex", "inventory_purchase",
    "advance", "payable", "receivable"]

def assets (amount : LedgerBucket → ℤ) : ℤ :=
  amount .cash + amount .receivable + amount .inventory + amount .advance

def liabilitiesAndEquity (amount : LedgerBucket → ℤ) : ℤ :=
  amount .payable + amount .loan + amount .capital

def preTaxProfit (amount : LedgerBucket → ℤ) : ℤ :=
  amount .revenue - amount .cogs - amount .opex

/-- What the assets are more than what they come from. -/
def imbalance (amount : LedgerBucket → ℤ) : ℤ :=
  assets amount - (liabilitiesAndEquity amount + preTaxProfit amount)

/-- The sum of the internal transfers. -/
def netTransfer (entries : List EntryDigest) : ℤ :=
  ((entries.filter (·.category = "internal_transfer")).map (·.amountMinor)).sum

/-! ## The balance -/

theorem isSome_classifyBookEntry {category : String} (h : category ∈ bookEntryCategories)
    (amountMinor : ℤ) : (classifyBookEntry category amountMinor).isSome := by
  simp only [bookEntryCategories, List.mem_cons, List.not_mem_nil, or_false] at h
  rcases h with rfl | rfl | rfl | rfl | rfl | rfl | rfl | rfl | rfl | rfl <;> rfl

theorem imbalance_effectOn (e : EntryDigest) (h : e.category ∈ bookEntryCategories) :
    imbalance e.effectOn = if e.category = "internal_transfer" then e.amountMinor else 0 := by
  obtain ⟨id, category, amountMinor, version⟩ := e
  simp only [bookEntryCategories, List.mem_cons, List.not_mem_nil, or_false] at h
  rcases h with rfl | rfl | rfl | rfl | rfl | rfl | rfl | rfl | rfl | rfl <;>
    simp [imbalance, assets, liabilitiesAndEquity, preTaxProfit, EntryDigest.effectOn,
      classifyBookEntry]

theorem imbalance_zero : imbalance (fun _ => 0) = 0 := rfl

theorem imbalance_add (a b : LedgerBucket → ℤ) :
    imbalance (fun bucket => a bucket + b bucket) = imbalance a + imbalance b := by
  simp only [imbalance, assets, liabilitiesAndEquity, preTaxProfit]
  omega

theorem imbalance_sum (entries : List EntryDigest)
    (h : ∀ e ∈ entries, e.category ∈ bookEntryCategories) :
    imbalance (fun bucket => (entries.map (·.effectOn bucket)).sum) = netTransfer entries := by
  induction entries with
  | nil => exact imbalance_zero
  | cons e _ ih =>
    have hrest := ih fun e' he' => h e' (List.mem_cons_of_mem _ he')
    have hfirst := imbalance_effectOn e (h e List.mem_cons_self)
    simp only [List.map_cons, List.sum_cons]
    rw [imbalance_add, hrest, hfirst, netTransfer, netTransfer, List.filter_cons]
    by_cases htransfer : e.category = "internal_transfer"
    · simp only [htransfer, if_true, decide_true, List.map_cons, List.sum_cons]
    · simp only [htransfer, if_false, decide_false, Bool.false_eq_true, zero_add]

/-- The totals balance exactly when the internal transfers cancel each other. -/
theorem assets_eq_iff {entries : List EntryDigest} {totals : Dict LedgerBucket ℤ}
    (hknown : ∀ e ∈ entries, e.category ∈ bookEntryCategories)
    (htotals : bucketTotals entries = .ok totals) :
    assets (bucketAmount totals) =
        liabilitiesAndEquity (bucketAmount totals) + preTaxProfit (bucketAmount totals) ↔
      netTransfer entries = 0 := by
  have hsum : bucketAmount totals = fun bucket => (entries.map (·.effectOn bucket)).sum :=
    funext (bucketTotals_eq_ok htotals).2
  rw [← imbalance_sum entries hknown, ← hsum, imbalance]
  exact sub_eq_zero.symm

/-! ## The derived lines -/

/-- The tax on a profit. -/
def corporateIncomeTax (preTax rate : ℤ) : ℤ :=
  ((if 0 < preTax then preTax else 0) * rate).tdiv 10000

theorem taxBase_eq_max (preTax : ℤ) : (if 0 < preTax then preTax else 0) = max 0 preTax := by
  split_ifs with hpos <;> omega

/-- The quotient is not below zero, where truncation and rounding down agree. -/
theorem corporateIncomeTax_eq {preTax rate : ℤ} (hrate : 0 ≤ rate) :
    corporateIncomeTax preTax rate = max 0 preTax * rate / 10000 := by
  rw [corporateIncomeTax, taxBase_eq_max]
  exact Int.tdiv_eq_ediv_of_nonneg (mul_nonneg (le_max_left _ _) hrate)

theorem tax_nonneg (preTax : ℤ) {rate : ℤ} (hrate : 0 ≤ rate) :
    0 ≤ corporateIncomeTax preTax rate := by
  rw [corporateIncomeTax_eq hrate]
  exact Int.ediv_nonneg (mul_nonneg (le_max_left _ _) hrate) (by decide)

theorem tax_le_base (preTax : ℤ) {rate : ℤ} (hrate : 0 ≤ rate) (hle : rate ≤ 10000) :
    corporateIncomeTax preTax rate ≤ max 0 preTax := by
  rw [corporateIncomeTax_eq hrate]
  have hbase : max 0 preTax * rate ≤ max 0 preTax * 10000 :=
    mul_le_mul_of_nonneg_left hle (le_max_left _ _)
  exact Int.ediv_le_of_le_mul (by decide) hbase

theorem tax_add_le {preTax preTax' rate : ℤ} (h : preTax ≤ preTax') (hrate : 0 ≤ rate)
    (hle : rate ≤ 10000) :
    corporateIncomeTax preTax' rate ≤ corporateIncomeTax preTax rate + (preTax' - preTax) := by
  rw [corporateIncomeTax_eq hrate, corporateIncomeTax_eq hrate,
    ← Int.add_mul_ediv_right _ _ (by decide : (10000 : ℤ) ≠ 0)]
  refine Int.ediv_le_ediv (by decide) ?_
  have hgrowth : max 0 preTax' - max 0 preTax ≤ preTax' - preTax := by omega
  have hnonneg : 0 ≤ max 0 preTax' - max 0 preTax := by omega
  have hpart : (max 0 preTax' - max 0 preTax) * rate ≤ (preTax' - preTax) * 10000 :=
    mul_le_mul hgrowth hle hrate (hnonneg.trans hgrowth)
  linarith only [hpart]

theorem computeDerivedLine_net (amount : LedgerBucket → ℤ) (rate : ℤ) :
    computeDerivedLine .netProfitAfterTax amount (some rate) =
      (preTaxProfit amount - corporateIncomeTax (preTaxProfit amount) rate, none) := rfl

/-! ## The books -/

/-- The totals exist and balance. -/
def Balanced (entries : List EntryDigest) : Prop :=
  ∃ totals, bucketTotals entries = .ok totals ∧
    assets (bucketAmount totals) =
      liabilitiesAndEquity (bucketAmount totals) + preTaxProfit (bucketAmount totals)

/-- What the derived lines say about the profit, of the amounts of the buckets. -/
structure DerivedLinesLaw (amount : LedgerBucket → ℤ) (rate : ℤ) : Prop where
  net : (computeDerivedLine .netProfitAfterTax amount (some rate)).1 =
    amount .revenue - amount .cogs - amount .opex -
      (computeDerivedLine .corporateIncomeTax amount (some rate)).1
  tax_nonneg : 0 ≤ (computeDerivedLine .corporateIncomeTax amount (some rate)).1
  tax_le : (computeDerivedLine .corporateIncomeTax amount (some rate)).1 ≤
    max 0 (amount .revenue - amount .cogs - amount .opex)
  net_mono : ∀ revenue, amount .revenue ≤ revenue →
    (computeDerivedLine .netProfitAfterTax amount (some rate)).1 ≤
      (computeDerivedLine .netProfitAfterTax (Function.update amount .revenue revenue)
        (some rate)).1

theorem balanced_of_netTransfer {entries : List EntryDigest}
    (hknown : ∀ e ∈ entries, e.category ∈ bookEntryCategories)
    (hnet : netTransfer entries = 0) : Balanced entries := by
  obtain ⟨totals, htotals⟩ := exists_bucketTotals fun e he =>
    isSome_classifyBookEntry (hknown e he) e.amountMinor
  exact ⟨totals, htotals, (assets_eq_iff hknown htotals).mpr hnet⟩

theorem preTaxProfit_update (amount : LedgerBucket → ℤ) (revenue : ℤ) :
    preTaxProfit (Function.update amount .revenue revenue) =
      preTaxProfit amount + (revenue - amount .revenue) := by
  have hrevenue : Function.update amount .revenue revenue .revenue = revenue :=
    Function.update_self ..
  have hcogs : Function.update amount .revenue revenue .cogs = amount .cogs :=
    Function.update_of_ne (by decide) ..
  have hopex : Function.update amount .revenue revenue .opex = amount .opex :=
    Function.update_of_ne (by decide) ..
  rw [preTaxProfit, preTaxProfit, hrevenue, hcogs, hopex]
  omega

theorem derivedLinesLaw (amount : LedgerBucket → ℤ) {rate : ℤ} (hrate : 0 ≤ rate)
    (hle : rate ≤ 10000) : DerivedLinesLaw amount rate where
  net := rfl
  tax_nonneg := tax_nonneg (preTaxProfit amount) hrate
  tax_le := tax_le_base (preTaxProfit amount) hrate hle
  net_mono revenue hgrows := by
    rw [computeDerivedLine_net, computeDerivedLine_net, preTaxProfit_update]
    have hmore : preTaxProfit amount ≤ preTaxProfit amount + (revenue - amount .revenue) := by
      omega
    have htax := tax_add_le hmore hrate hle
    dsimp only
    omega

/-- The books balance, and the profit after tax is what the lines of the report say. -/
theorem accounts_balance :
    (∀ entries : List EntryDigest, (∀ e ∈ entries, e.category ∈ bookEntryCategories) →
      netTransfer entries = 0 → Balanced entries) ∧
    ∀ (amount : LedgerBucket → ℤ) (rate : ℤ), 0 ≤ rate → rate ≤ 10000 →
      DerivedLinesLaw amount rate :=
  ⟨fun _ hknown hnet => balanced_of_netTransfer hknown hnet,
    fun amount _ hrate hle => derivedLinesLaw amount hrate hle⟩

/-- A sale with its cost, and the profit tax of a company. -/
theorem accounts_balance_sale :
    Balanced [⟨1, "capital", 900, 1⟩, ⟨2, "inventory_purchase", 300, 1⟩, ⟨3, "revenue", 500, 1⟩,
      ⟨4, "cogs", 200, 1⟩] ∧
    DerivedLinesLaw (fun bucket => if bucket = .revenue then 500 else 0) 2000 :=
  ⟨accounts_balance.1 _ (by decide) (by decide),
    accounts_balance.2 _ 2000 (by decide) (by decide)⟩

end JavisSaas.Company.Finance
