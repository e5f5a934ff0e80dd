import JavisSaas.Lib.Dict
import JavisSaas.Lib.LocalTime
import JavisSaas.Lib.Table
import JavisSaas.Lib.Transition
import JavisSaas.Company.Finance.Money

/-!
# Financial snapshots

`financial-snapshot.service.ts`: the cash, the burn and the runway of a day, in one row for a
workspace, a day, a currency and a legal entity. Without an entity a row is looked for without it,
and the bank transactions are read without their category.

* `snapshotLaw_of_along`: the snapshot of every key is the last one calculated for it, if every
  calculation finds the row of its own entity first, or none, and no other category is burnt.
* `not_snapshotLaw_captured`: a row is taken over, and a loan enters the burn.
-/

namespace JavisSaas.Company.Finance

open JavisSaas.Lib

/-! ## Numbers, dates and columns -/

/-- What a snapshot keeps of the computation. -/
structure SnapshotValues (N : Type) where
  cashIn : String
  cashOut : String
  netBurn : String
  runwayMonths : Option String
  openingBalance : String
  currentCash : String
  monthlyNetBurn : String
  burnWindowMonths : N
  cashFlowPositive : Bool
  deriving DecidableEq

/-- The numbers, dates and big integers of the language, and what the columns make of a text. -/
structure SnapshotRuntime (N : Type) where
  zero : N
  add : N → N → N
  sub : N → N → N
  div : N → N → N
  abs : N → N
  ofInt : ℤ → N
  /-- Towards zero, where the number is finite. -/
  truncate : N → Option ℤ
  /-- `x > 0`. -/
  positive : N → Bool
  /-- `x <= 0`. -/
  nonPositive : N → Bool
  /-- `parseFloat(text) || 0`. -/
  parseFloat : String → N
  /-- `parseFloat(x.toFixed(2))`. -/
  toFixed2 : N → N
  toText : N → String
  /-- `new Date(text)`, in milliseconds since 1970. -/
  date : String → Option ℤ
  bigInt : String → Except ApiError ℤ
  /-- The day that a `date` column reads from a text. -/
  dateColumn : String → Option ℤ
  /-- The values as the columns keep them, unless they refuse one of them. -/
  columns : SnapshotValues N → Option (SnapshotValues N)

/-- `a > b` of two times, each of which may be invalid. -/
def isAfter (a b : Option ℤ) : Bool := a.any fun a => b.any fun b => b < a

/-- `a >= b`. -/
def isFrom (a b : Option ℤ) : Bool := a.any fun a => b.any fun b => b ≤ a

/-- `setUTCMonth(month)`: the months outside of the year count on from it. -/
def setUTCMonth (t month : ℤ) : Option ℤ :=
  let day := Civil.ofDays (t / msPerDay)
  let moved :=
    Civil.toDays ⟨day.year + month / 12, month % 12 + 1, day.day⟩ * msPerDay + t % msPerDay
  if moved.natAbs ≤ 8640000000000000 then some moved else none

/-- `text || fallback`. -/
def orText (text : Option String) (fallback : String) : String :=
  (firstTruthy [text]).getD fallback

/-! ## `computeSnapshot` -/

structure SnapshotTxn where
  amount : String
  direction : String
  postedAt : Option ℤ
  currency : Option String := none
  category : Option String := none

structure SnapshotOptions (N : Type) where
  snapshotDate : String
  openingBalance : Option N := none
  burnWindowMonths : Option N := none
  currency : Option String := none

structure SnapshotCalcResult (N : Type) where
  cashInLifetime : N
  cashOutLifetime : N
  currentCash : N
  periodNetBurn : N
  monthlyNetBurn : N
  cashFlowPositive : Bool
  runwayMonths : Option N
  currency : String

def nonOperatingCategories : List String :=
  ["TRANSFER", "INTERNAL_TRANSFER", "CAPITAL", "CAPITAL_CONTRIBUTION", "LOAN", "FINANCING",
    "EQUITY"]

def isOperating (U : UpperCase) (category : Option String) : Bool :=
  U.upper (category.getD "") ∉ nonOperatingCategories

/-- The sums of the loop. -/
structure SnapshotTotals (N : Type) where
  cashInLifetime : N
  cashOutLifetime : N
  periodIn : N
  periodOut : N

section Compute

variable {N : Type} (R : SnapshotRuntime N) (U : UpperCase)

namespace SnapshotOptions

variable (opts : SnapshotOptions N)

def windowMonths : N := opts.burnWindowMonths.getD (R.ofInt 3)

def targetCurrency : String := U.upper (orText opts.currency "VND")

def snapEnd : Option ℤ := R.date (opts.snapshotDate ++ "T23:59:59.999Z")

def windowStart : Option ℤ := do
  let t ← opts.snapEnd R
  let month := R.ofInt ((Civil.ofDays (t / msPerDay)).month - 1)
  setUTCMonth t (← R.truncate (R.sub month (opts.windowMonths R)))

/-- The transaction is one of the currency, not after the day. -/
def counts (t : SnapshotTxn) : Bool :=
  U.upper (orText t.currency "VND") = opts.targetCurrency U && !isAfter t.postedAt (opts.snapEnd R)

/-- The transaction is posted in the window of the burn. -/
def inWindow (t : SnapshotTxn) : Bool :=
  opts.counts R U t && isFrom t.postedAt (opts.windowStart R)

end SnapshotOptions

def SnapshotTxn.amt (t : SnapshotTxn) : N := R.abs (R.parseFloat t.amount)

def SnapshotTotals.step (opts : SnapshotOptions N) (s : SnapshotTotals N) (t : SnapshotTxn) :
    SnapshotTotals N :=
  if U.upper (orText t.currency "VND") ≠ opts.targetCurrency U then s else
  let amt := t.amt R
  if isAfter t.postedAt (opts.snapEnd R) then s else
  let isIn := t.direction = "IN"
  let s := if isIn then { s with cashInLifetime := R.add s.cashInLifetime amt }
    else { s with cashOutLifetime := R.add s.cashOutLifetime amt }
  if isFrom t.postedAt (opts.windowStart R) && isOperating U t.category then
    if isIn then { s with periodIn := R.add s.periodIn amt }
    else { s with periodOut := R.add s.periodOut amt }
  else s

def computeSnapshot (txns : List SnapshotTxn) (opts : SnapshotOptions N) : SnapshotCalcResult N :=
  let s := txns.foldl (SnapshotTotals.step R U opts) ⟨R.zero, R.zero, R.zero, R.zero⟩
  let openingBalance := opts.openingBalance.getD R.zero
  let currentCash := R.sub (R.add openingBalance s.cashInLifetime) s.cashOutLifetime
  let periodNetBurn := R.sub s.periodOut s.periodIn
  let monthlyNetBurn := R.div periodNetBurn (opts.windowMonths R)
  let cashFlowPositive := R.nonPositive monthlyNetBurn
  { cashInLifetime := s.cashInLifetime
    cashOutLifetime := s.cashOutLifetime
    currentCash
    periodNetBurn
    monthlyNetBurn
    cashFlowPositive
    runwayMonths := if cashFlowPositive then none
      else if R.positive currentCash then some (R.toFixed2 (R.div currentCash monthlyNetBurn))
      else some R.zero
    currency := opts.targetCurrency U }

end Compute

/-! ## The tables -/

structure BankTransactionRow where
  id : ℤ
  workspaceId : ℤ
  bankConnectionId : ℤ
  postedAt : ℤ
  amount : String
  currency : String
  direction : String

/-- The columns of a snapshot that say what it is of. -/
structure SnapshotKey where
  workspaceId : ℤ
  snapshotDate : ℤ
  currency : String
  /-- `none` for the whole workspace. -/
  legalEntityId : Option ℤ
  deriving DecidableEq

structure SnapshotRow (N : Type) where
  id : ℤ
  key : SnapshotKey
  values : SnapshotValues N

/-- `financial_snapshots_workspace_snapshot_currency_entity_key`, where no entity is the entity 0. -/
def SnapshotRow.indexed {N : Type} (row : SnapshotRow N) : ℤ × ℤ × String × ℤ :=
  (row.key.workspaceId, row.key.snapshotDate, row.key.currency, row.key.legalEntityId.getD 0)

def snapshotSchema (N : Type) : Schema (SnapshotRow N) where
  Key := ℤ
  key row := row.id
  Index := Unit
  indexes := [()]
  Val _ := ℤ × ℤ × String × ℤ
  val _ row := some row.indexed
  decKey := inferInstance
  decVal _ := inferInstance

/-- `calculated` lists the snapshots that were saved so far, with what they are of. -/
structure SnapshotDb (N : Type) where
  transactions : List BankTransactionRow := []
  /-- The legal entity of every bank connection. -/
  connections : Dict ℤ (Option ℤ) := ∅
  snapshots : Table (snapshotSchema N) := ∅
  calculated : List (SnapshotKey × SnapshotValues N) := []

/-! ## `calculateAndSaveSnapshotService` -/

/-- An id that is given as a big integer or as its text. -/
inductive EntityParam
  | big (id : ℤ)
  | text (id : String)

structure CalculateSnapshotParams (N : Type) where
  workspaceId : ℤ
  legalEntityId : Option EntityParam := none
  currency : Option String := none
  snapshotDate : String
  openingBalance : Option String := none
  burnWindowMonths : Option N := none

/-- Which of the matching rows comes first, the new id, and the failure of a statement. -/
structure SnapshotAnswers where
  first : Option ℤ := none
  newId : ℤ := 0
  failure : Option ApiError := none

section Service

variable {N : Type} (R : SnapshotRuntime N) (U : UpperCase)

namespace CalculateSnapshotParams

variable (p : CalculateSnapshotParams N)

def targetCurrency : String := U.upper (orText p.currency "VND")

/-- `p.legalEntityId ? BigInt(p.legalEntityId) : null`. -/
def entity : Except ApiError (Option ℤ) :=
  match p.legalEntityId with
  | none | some (.big 0) | some (.text "") => .ok none
  | some (.big id) => .ok (some id)
  | some (.text id) => (R.bigInt id).map some

def key : Except ApiError SnapshotKey := do
  let legalEntityId ← p.entity R
  match R.dateColumn p.snapshotDate with
  | none => .error (.internal "invalid input syntax for type date")
  | some day => .ok ⟨p.workspaceId, day, p.targetCurrency U, legalEntityId⟩

def options : SnapshotOptions N where
  snapshotDate := p.snapshotDate
  openingBalance := some (R.parseFloat (p.openingBalance.getD "0"))
  burnWindowMonths := some (p.burnWindowMonths.getD (R.ofInt 3))
  currency := some (p.targetCurrency U)

def values (c : SnapshotCalcResult N) : SnapshotValues N where
  cashIn := R.toText c.cashInLifetime
  cashOut := R.toText c.cashOutLifetime
  netBurn := R.toText c.periodNetBurn
  runwayMonths := c.runwayMonths.map R.toText
  openingBalance := R.toText (R.parseFloat (p.openingBalance.getD "0"))
  currentCash := R.toText c.currentCash
  monthlyNetBurn := R.toText c.monthlyNetBurn
  burnWindowMonths := p.burnWindowMonths.getD (R.ofInt 3)
  cashFlowPositive := c.cashFlowPositive

end CalculateSnapshotParams

namespace SnapshotDb

variable (db : SnapshotDb N)

/-- Of the workspace and the currency; of the entity's connections, if it is given and not 0. -/
def selectTransactions (key : SnapshotKey) : List BankTransactionRow :=
  let ofCurrency := db.transactions.filter fun t =>
    t.workspaceId = key.workspaceId && t.currency = key.currency
  match key.legalEntityId.filter (· ≠ 0) with
  | some id => ofCurrency.filter fun t => (db.connections.get? t.bankConnectionId).any (· = some id)
  | none => ofCurrency

/-- The query does not read the category. -/
def txnOf (t : BankTransactionRow) : SnapshotTxn where
  amount := t.amount
  direction := t.direction
  postedAt := some t.postedAt
  currency := some t.currency

/-- The rows of the key; of every entity, if there is none or it is 0. -/
def existingRows (key : SnapshotKey) : List (SnapshotRow N) :=
  db.snapshots.rows.filter fun row =>
    row.key.workspaceId = key.workspaceId && row.key.snapshotDate = key.snapshotDate &&
      row.key.currency = key.currency &&
      (key.legalEntityId.filter (· ≠ 0)).all fun id => row.key.legalEntityId = some id

/-- `const [existing] = …`, without an order. -/
def existing (key : SnapshotKey) (answers : SnapshotAnswers) : Option (SnapshotRow N) :=
  ((db.existingRows key).find? fun row => some row.id = answers.first).or
    (db.existingRows key).head?

/-- The update, or the insert. -/
def save (key : SnapshotKey) (values : SnapshotValues N) (answers : SnapshotAnswers) :
    Except (Violation (snapshotSchema N)) (Table (snapshotSchema N)) :=
  match db.existing key answers with
  | some row => db.snapshots.update row.id fun row =>
      { row with
        key := { row.key with currency := key.currency, legalEntityId := key.legalEntityId }
        values }
  | none => db.snapshots.insert ⟨answers.newId, key, values⟩

end SnapshotDb

variable (db : SnapshotDb N) (p : CalculateSnapshotParams N) (answers : SnapshotAnswers)

def calculateAndSaveSnapshotService : Except ApiError (SnapshotDb N) := do
  let key ← p.key R U
  let c := computeSnapshot R U ((db.selectTransactions key).map SnapshotDb.txnOf) (p.options R U)
  answers.failure.elim (pure ()) throw
  match R.columns (p.values R c) with
  | none => .error (.internal "numeric field overflow")
  | some values =>
    match db.save key values answers with
    | .error _ => .error (.internal "duplicate key value violates unique constraint")
    | .ok snapshots =>
      .ok { db with snapshots, calculated := db.calculated ++ [(key, values)] }

end Service

inductive SnapshotLabel (N : Type)
  /-- The bank transactions and connections change. -/
  | bank (transactions : List BankTransactionRow) (connections : Dict ℤ (Option ℤ))
  | calculate (p : CalculateSnapshotParams N) (answers : SnapshotAnswers)

/-- A calculation that raises leaves the database as it is. -/
def snapshots {N : Type} (R : SnapshotRuntime N) (U : UpperCase) :
    System (SnapshotDb N) (SnapshotLabel N) where
  next db
    | .bank transactions connections => some { db with transactions, connections }
    | .calculate p answers =>
      some ((calculateAndSaveSnapshotService R U db p answers).toOption.getD db)

/-! ## The law -/

section Law

variable {N : Type} (R : SnapshotRuntime N) (U : UpperCase) (category : ℤ → Option String)

/-- The snapshot that is stored for a key. -/
def SnapshotDb.snapshotOf (db : SnapshotDb N) (key : SnapshotKey) : Option (SnapshotValues N) :=
  (db.snapshots.rows.find? fun row => row.key = key).map (·.values)

/-- The last snapshot that was calculated for a key. -/
def lastCalculated (calculated : List (SnapshotKey × SnapshotValues N)) (key : SnapshotKey) :
    Option (SnapshotValues N) :=
  (calculated.reverse.find? fun c => c.1 = key).map Prod.snd

/-- What a calculation is to store, by the categories of the transactions. -/
def expectedValues (db : SnapshotDb N) (p : CalculateSnapshotParams N) (key : SnapshotKey) :
    Option (SnapshotValues N) :=
  R.columns (p.values R (computeSnapshot R U
    ((db.selectTransactions key).map fun t => { SnapshotDb.txnOf t with category := category t.id })
    (p.options R U)))

/-- What is stored for every key is what was calculated for it last, or was there before. -/
def SnapshotLaw (start db : SnapshotDb N) : Prop :=
  ∀ key, db.snapshotOf key = (lastCalculated db.calculated key).or (start.snapshotOf key)

/-- What is saved is what the operating transactions give, for its own key and no other. -/
def SnapshotStepLaw (db : SnapshotDb N) : SnapshotLabel N → Prop
  | .calculate p answers => ∀ db' key, calculateAndSaveSnapshotService R U db p answers = .ok db' →
      p.key R U = .ok key → ∀ key', db'.snapshotOf key' =
        if key' = key then expectedValues R U category db p key else db.snapshotOf key'
  | .bank .. => True

/-- The first row is of the same entity; what is posted in the window is operating. -/
def OwnRow (db : SnapshotDb N) : SnapshotLabel N → Prop
  | .calculate p answers => ∀ key, p.key R U = .ok key →
      (∀ row ∈ db.existing key answers, row.key.legalEntityId = key.legalEntityId) ∧
      ∀ t ∈ db.selectTransactions key,
        (p.options R U).inWindow R U (SnapshotDb.txnOf t) → isOperating U (category t.id)
  | .bank .. => True

instance (db : SnapshotDb N) :
    (l : SnapshotLabel N) → Decidable (OwnRow R U category db l)
  | .bank .. => instDecidableTrue
  | .calculate p answers =>
    match hkey : p.key R U with
    | .error _ => .isTrue fun _ h => nomatch hkey.symm.trans h
    | .ok key =>
      decidable_of_iff ((∀ row ∈ db.existing key answers,
          row.key.legalEntityId = key.legalEntityId) ∧ ∀ t ∈ db.selectTransactions key,
            (p.options R U).inWindow R U (SnapshotDb.txnOf t) → isOperating U (category t.id))
        ⟨fun h _ hkey' => Except.ok.inj (hkey.symm.trans hkey') ▸ h, fun h => h key hkey⟩

end Law

/-! ## The burn -/

section Burn

variable {N : Type} {R : SnapshotRuntime N} {U : UpperCase} {opts : SnapshotOptions N}

theorem step_category {t : SnapshotTxn} {c : Option String}
    (h : opts.inWindow R U t → isOperating U c = isOperating U t.category)
    (s : SnapshotTotals N) :
    s.step R U opts { t with category := c } = s.step R U opts t := by
  unfold SnapshotTotals.step
  by_cases hcurrency : U.upper (orText t.currency "VND") = opts.targetCurrency U
  · cases hafter : isAfter t.postedAt (opts.snapEnd R)
    · cases hfrom : isFrom t.postedAt (opts.windowStart R)
      · simp only [Bool.false_and]
        rfl
      · have hin : opts.inWindow R U t = true := by
          simp [SnapshotOptions.inWindow, SnapshotOptions.counts, hcurrency, hafter, hfrom]
        simp only [h hin]
        rfl
    · simp only [if_true]
  · simp only [ne_eq, hcurrency, not_false_eq_true, if_true]

theorem computeSnapshot_category {txns : List BankTransactionRow} {category : ℤ → Option String}
    (hupper : U.upper "" = "") (h : ∀ t ∈ txns, opts.inWindow R U (SnapshotDb.txnOf t) →
      isOperating U (category t.id)) :
    computeSnapshot R U (txns.map fun t => { SnapshotDb.txnOf t with category := category t.id })
      opts = computeSnapshot R U (txns.map SnapshotDb.txnOf) opts := by
  have hnone : isOperating U none = true := by
    show decide (U.upper "" ∉ nonOperatingCategories) = true
    rw [hupper]
    decide
  unfold computeSnapshot
  rw [List.foldl_map, List.foldl_map]
  rw [List.foldl_ext _ _ _ fun s t ht => step_category (t := SnapshotDb.txnOf t)
    (fun hin => (h t ht hin).trans hnone.symm) s]

end Burn

/-! ## One row for a key -/

section Rows

variable {N : Type} {R : SnapshotRuntime N} {U : UpperCase} {db : SnapshotDb N}
  {key key' : SnapshotKey} {values : SnapshotValues N} {answers : SnapshotAnswers}

variable {row : SnapshotRow N} {db' : SnapshotDb N}

theorem indexed_eq_of_key {row' : SnapshotRow N} (h : row.key = row'.key) :
    row.indexed = row'.indexed := by
  unfold SnapshotRow.indexed
  rw [h]

theorem eq_of_key {t : Table (snapshotSchema N)} {row' : SnapshotRow N} (hrow : row ∈ t.rows)
    (hrow' : row' ∈ t.rows) (h : row.key = row'.key) : row = row' :=
  (t.unique () List.mem_cons_self).eq_of_mem hrow hrow' rfl
    (congrArg some (indexed_eq_of_key h).symm)

theorem snapshotOf_eq_some : db.snapshotOf key = some values ↔
    ∃ row ∈ db.snapshots.rows, row.key = key ∧ row.values = values := by
  unfold SnapshotDb.snapshotOf
  rw [Option.map_eq_some_iff]
  constructor
  · rintro ⟨row, hfind, hvalues⟩
    exact ⟨row, List.mem_of_find?_eq_some hfind, of_decide_eq_true (List.find?_some hfind :),
      hvalues⟩
  · rintro ⟨row, hrow, hkey, hvalues⟩
    obtain ⟨row', hfind⟩ := Option.isSome_iff_exists.mp
      (List.find?_isSome (p := fun row => decide (row.key = key)).mpr
        ⟨row, hrow, decide_eq_true hkey⟩)
    have hkey' : row'.key = key := of_decide_eq_true (List.find?_some hfind :)
    obtain rfl := eq_of_key (List.mem_of_find?_eq_some hfind) hrow (hkey'.trans hkey.symm)
    exact ⟨row', hfind, hvalues⟩

theorem snapshotOf_of_rows (hrow : row ∈ db'.snapshots.rows)
    (hrest : ∀ r, r.key ≠ row.key → (r ∈ db'.snapshots.rows ↔ r ∈ db.snapshots.rows)) :
    db'.snapshotOf key' = if key' = row.key then some row.values else db.snapshotOf key' := by
  apply Option.ext
  intro v
  split_ifs with hkey
  · rw [snapshotOf_eq_some]
    constructor
    · rintro ⟨r, hr, hrkey, rfl⟩
      rw [eq_of_key hr hrow (hrkey.trans hkey)]
    · rintro ⟨⟩
      exact ⟨row, hrow, hkey.symm, rfl⟩
  · rw [snapshotOf_eq_some, snapshotOf_eq_some]
    constructor
    · rintro ⟨r, hr, rfl, hv⟩
      exact ⟨r, (hrest r hkey).mp hr, rfl, hv⟩
    · rintro ⟨r, hr, rfl, hv⟩
      exact ⟨r, (hrest r hkey).mpr hr, rfl, hv⟩

theorem mem_existingRows (h : row ∈ db.existingRows key) :
    row ∈ db.snapshots.rows ∧ row.key.workspaceId = key.workspaceId ∧
      row.key.snapshotDate = key.snapshotDate ∧ row.key.currency = key.currency := by
  obtain ⟨hmem, hwhere⟩ := List.mem_filter.mp h
  simp only [Bool.and_eq_true, decide_eq_true_eq] at hwhere
  exact ⟨hmem, hwhere.1.1.1, hwhere.1.1.2, hwhere.1.2⟩

theorem mem_of_existing (h : db.existing key answers = some row) : row ∈ db.existingRows key := by
  rcases Option.or_eq_some_iff.mp h with hfirst | ⟨-, hhead⟩
  · exact List.mem_of_find?_eq_some hfirst
  · exact List.mem_of_mem_head? hhead

/-- Where the row of the key itself comes first, it is replaced, and no other. -/
theorem snapshotOf_update {id : (snapshotSchema N).Key} (hrow : row ∈ db.snapshots.rows)
    (hkey : row.key = key) (hid : (snapshotSchema N).key row = id)
    (h : db.snapshots.update id (fun r => { r with
      key := { r.key with currency := key.currency, legalEntityId := key.legalEntityId },
      values }) = .ok db'.snapshots) :
    db'.snapshotOf key' = if key' = key then some values else db.snapshotOf key' := by
  have hrows := Table.update_eq_ok.mp h
  have honly : ∀ r ∈ db.snapshots.rows, (snapshotSchema N).key r = id → r = row :=
    fun r hr hr' => db.snapshots.key_injective hr hrow (hr'.trans hid.symm)
  subst hkey
  have hnew : ({ row with values } : SnapshotRow N) ∈ db'.snapshots.rows := by
    rw [hrows, mem_updateWhere]
    exact ⟨row, hrow, (if_pos hid).symm⟩
  refine snapshotOf_of_rows hnew fun r hr => ?_
  rw [hrows, mem_updateWhere]
  constructor
  · rintro ⟨r₀, hr₀, rfl⟩
    split_ifs at hr ⊢ with hr₀id
    · obtain rfl := honly r₀ hr₀ hr₀id
      exact absurd rfl hr
    · exact hr₀
  · intro hmem
    refine ⟨r, hmem, (if_neg fun hrid => ?_).symm⟩
    obtain rfl := honly r hmem hrid
    exact hr rfl

theorem snapshotOf_insert (h : db'.snapshots.rows = db.snapshots.rows ++ [row]) :
    db'.snapshotOf key' = if key' = row.key then some row.values else db.snapshotOf key' := by
  have hnew : row ∈ db'.snapshots.rows := by
    rw [h]
    exact List.mem_concat_self
  refine snapshotOf_of_rows hnew fun r hr => ?_
  rw [h, List.mem_append, List.mem_singleton]
  constructor
  · rintro (hmem | rfl)
    · exact hmem
    · exact absurd rfl hr
  · exact Or.inl

theorem snapshotOf_save {t : Table (snapshotSchema N)} (hsnapshots : db'.snapshots = t)
    (h : db.save key values answers = .ok t)
    (hown : ∀ row ∈ db.existing key answers, row.key.legalEntityId = key.legalEntityId) :
    db'.snapshotOf key' = if key' = key then some values else db.snapshotOf key' := by
  subst hsnapshots
  cases hexisting : db.existing key answers with
  | none =>
    rw [SnapshotDb.save, hexisting] at h
    exact snapshotOf_insert (Table.insert_eq_ok.mp h)
  | some row =>
    rw [SnapshotDb.save, hexisting] at h
    obtain ⟨hrow, hworkspace, hdate, hcurrency⟩ := mem_existingRows (mem_of_existing hexisting)
    have hentity := hown row hexisting
    have hkey : row.key = key := by
      cases hrowKey : row.key
      cases key
      rw [hrowKey] at hworkspace hdate hcurrency hentity
      cases hworkspace
      cases hdate
      cases hcurrency
      cases hentity
      rfl
    exact snapshotOf_update hrow hkey rfl h

end Rows

/-! ## Every run -/

section Run

variable {N : Type} {R : SnapshotRuntime N} {U : UpperCase} {category : ℤ → Option String}
  {db db' start : SnapshotDb N} {p : CalculateSnapshotParams N} {answers : SnapshotAnswers}

theorem calculateAndSaveSnapshotService_eq_ok
    (h : calculateAndSaveSnapshotService R U db p answers = .ok db') :
    ∃ key values t, p.key R U = .ok key ∧
      R.columns (p.values R (computeSnapshot R U
        ((db.selectTransactions key).map SnapshotDb.txnOf) (p.options R U))) = some values ∧
      db.save key values answers = .ok t ∧
      db' = { db with snapshots := t, calculated := db.calculated ++ [(key, values)] } := by
  obtain ⟨key, hkey, h⟩ := bind_eq_ok.mp h
  obtain ⟨-, -, h⟩ := bind_eq_ok.mp h
  split at h
  · nomatch h
  · next values hvalues =>
    split at h
    · nomatch h
    · next t ht => exact ⟨key, values, t, hkey, hvalues, ht, (Except.ok.inj h).symm⟩

/-- A calculation under the condition: what it stores, and that it stores nothing else. -/
theorem snapshotOf_of_calculate (hupper : U.upper "" = "")
    (hown : OwnRow R U category db (.calculate p answers))
    (h : calculateAndSaveSnapshotService R U db p answers = .ok db') :
    ∃ key values, p.key R U = .ok key ∧ expectedValues R U category db p key = some values ∧
      db'.calculated = db.calculated ++ [(key, values)] ∧
      ∀ key', db'.snapshotOf key' = if key' = key then some values else db.snapshotOf key' := by
  obtain ⟨key, values, t, hkey, hvalues, hsave, rfl⟩ := calculateAndSaveSnapshotService_eq_ok h
  obtain ⟨hrow, hoperating⟩ := hown key hkey
  refine ⟨key, values, hkey, ?_, rfl, fun key' => snapshotOf_save rfl hsave hrow⟩
  rw [expectedValues, computeSnapshot_category hupper hoperating]
  exact hvalues

theorem snapshotStepLaw_of_ownRow (hupper : U.upper "" = "") {l : SnapshotLabel N}
    (hown : OwnRow R U category db l) : SnapshotStepLaw R U category db l := by
  cases l with
  | bank => trivial
  | calculate =>
    intro db' key hok hkey key'
    obtain ⟨key₁, values, hkey₁, hvalues, -, hstored⟩ := snapshotOf_of_calculate hupper hown hok
    cases hkey.symm.trans hkey₁
    rw [hvalues]
    exact hstored key'

theorem lastCalculated_concat (calculated : List (SnapshotKey × SnapshotValues N))
    (key key' : SnapshotKey) (values : SnapshotValues N) :
    lastCalculated (calculated ++ [(key, values)]) key' =
      if key' = key then some values else lastCalculated calculated key' := by
  unfold lastCalculated
  rw [List.reverse_append, List.reverse_singleton, List.singleton_append]
  split_ifs with hkey
  · rw [List.find?_cons_of_pos (by simpa using hkey.symm)]
    rfl
  · rw [List.find?_cons_of_neg (by simpa using Ne.symm hkey)]

theorem snapshotLaw_next (hupper : U.upper "" = "") {l : SnapshotLabel N}
    (h : SnapshotLaw start db) (hown : OwnRow R U category db l)
    (hs : (snapshots R U).next db l = some db') : SnapshotLaw start db' := by
  cases l with
  | bank =>
    cases hs
    exact h
  | calculate p answers =>
    cases hs
    cases hresult : calculateAndSaveSnapshotService R U db p answers with
    | error => exact h
    | ok db' =>
      obtain ⟨key, values, -, -, hcalculated, hstored⟩ :=
        snapshotOf_of_calculate hupper hown hresult
      intro key'
      show db'.snapshotOf key' = (lastCalculated db'.calculated key').or _
      rw [hcalculated, hstored, lastCalculated_concat]
      split_ifs
      · rfl
      · exact h key'

/-- If every calculation finds the row of its own entity first, or none, and only operating
transactions are in its window, the stored snapshots are the last calculated ones, each for its own
key alone. -/
theorem snapshotLaw_of_along {ls : List (SnapshotLabel N)} (hupper : U.upper "" = "")
    (hstart : start.calculated = []) (hown : (snapshots R U).Along (OwnRow R U category) start ls)
    (hs : (snapshots R U).run start ls = some db') :
    SnapshotLaw start db' ∧
      (snapshots R U).Along (SnapshotStepLaw R U category) start ls := by
  have hlaw : SnapshotLaw start start := by
    intro key
    rw [hstart]
    rfl
  refine ⟨(snapshots R U).inv_of_along (fun _ _ _ h hown hs => snapshotLaw_next hupper h hown hs)
    hlaw hown hs, ?_⟩
  exact hown.mono _ fun db l => snapshotStepLaw_of_ownRow hupper

end Run

/-! ## An entity and its workspace -/

/-- Integers, one day, and columns that take every value. -/
def dongRuntime : SnapshotRuntime ℤ where
  zero := 0
  add := (· + ·)
  sub := (· - ·)
  div := (· / ·)
  abs x := x.natAbs
  ofInt := id
  truncate := some
  positive x := 0 < x
  nonPositive x := x ≤ 0
  parseFloat text := if text = "300" then 300 else 0
  toFixed2 := id
  toText x := if x = 300 then "300" else if x = 100 then "100" else "0"
  date text := if text = "2026-08-29T23:59:59.999Z" then some 1788047999999 else none
  bigInt _ := .error (.internal "SyntaxError")
  dateColumn text := if text = "2026-08-29" then some 20694 else none
  columns := some

/-- Texts in capitals already. -/
def capitals : UpperCase := ⟨id, upper_id⟩

/-- A repayment of a loan, through a connection of the entity 7. -/
def repayment : BankTransactionRow := ⟨1, 1, 5, 1788000000000, "300", "VND", "OUT"⟩

def ofEntity : CalculateSnapshotParams ℤ :=
  { workspaceId := 1, legalEntityId := some (.big 7), snapshotDate := "2026-08-29" }

def ofWorkspace : CalculateSnapshotParams ℤ := { ofEntity with legalEntityId := none }

def entityKey : SnapshotKey := ⟨1, 20694, "VND", some 7⟩

def bankOfEntity : SnapshotLabel ℤ := .bank [repayment] (Dict.empty.set 5 (some 7))

/-- The workspace is calculated, and its entity twice. -/
def ownRowRun : List (SnapshotLabel ℤ) :=
  [bankOfEntity, .calculate ofWorkspace { newId := 9 }, .calculate ofEntity { newId := 10 },
    .calculate ofEntity { first := some 10, newId := 11 }]

theorem snapshotLaw_of_along_twice :
    SnapshotLaw {} (((snapshots dongRuntime capitals).run {} ownRowRun).get (by decide +kernel)) ∧
      (snapshots dongRuntime capitals).Along
        (SnapshotStepLaw dongRuntime capitals fun _ => some "RENT") {} ownRowRun :=
  snapshotLaw_of_along rfl rfl (by decide +kernel) (Option.some_get _).symm

/-- The entity is calculated first. -/
def entityRun : List (SnapshotLabel ℤ) := [bankOfEntity, .calculate ofEntity { newId := 10 }]

def entityDb : SnapshotDb ℤ :=
  ((snapshots dongRuntime capitals).run {} entityRun).get (by decide +kernel)

def capturedDb : SnapshotDb ℤ :=
  ((snapshots dongRuntime capitals).run entityDb [.calculate ofWorkspace { newId := 11 }]).get
    (by decide +kernel)

/-- The snapshot of the workspace replaces that of the entity, and a repaid loan is burnt. -/
theorem not_snapshotLaw_captured :
    entityDb.snapshotOf entityKey ≠ none ∧ capturedDb.snapshotOf entityKey = none ∧
      ¬SnapshotLaw {} capturedDb ∧
      ¬(snapshots dongRuntime capitals).Along
        (SnapshotStepLaw dongRuntime capitals fun _ => some "LOAN") {} entityRun := by
  refine ⟨by decide +kernel, by decide +kernel, fun h => ?_, fun h => ?_⟩
  · exact absurd (h entityKey) (by decide +kernel)
  · obtain ⟨-, h⟩ := h
    obtain ⟨h, -⟩ := h _ rfl
    have hstored := h _ entityKey (eq_ok_get (by decide +kernel)) (by decide +kernel) entityKey
    exact absurd hstored (by decide +kernel)

end JavisSaas.Company.Finance
