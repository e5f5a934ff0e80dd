import JavisSaas.Lib.Dict
import JavisSaas.Lib.Fallible
import JavisSaas.Company.Finance.Money

/-!
# Normalising bank transactions

`services/company/finance-legal/services/cas-normalizer.ts`, and how `cas-webhook.service.ts` (lines
104–105) and `cas-sync.service.ts` (lines 157–159) name a transaction. The functions of the runtime
are an argument (`JsRuntime`); of a number the code looks at its text, its sign and whether it is
finite.
-/

namespace JavisSaas.Company.Finance

open JavisSaas.Lib

/-! ## Payloads -/

structure JsNumber where
  /-- `String(n)`. -/
  text : String
  /-- `Number.isFinite(n)`. -/
  finite : Bool
  sign : ℤ
  deriving DecidableEq

inductive JsonValue
  | null
  | bool (b : Bool)
  | number (n : JsNumber)
  | string (s : String)
  /-- An array or an object, by its text. -/
  | nested (text : String)
  deriving DecidableEq

/-- `String(v)`. -/
def JsonValue.text : JsonValue → String
  | null => "null"
  | bool b => toString b
  | number n => n.text
  | string s => s
  | nested text => text

/-- The members of an object; one that is missing is `undefined`. -/
abbrev JsonObject := Dict String JsonValue

inductive RawPayload
  | object (fields : JsonObject)
  /-- `null`, an array, or no object at all. -/
  | other

structure JsRuntime where
  upper : UpperCase
  /-- `Number(s)`. -/
  number : String → JsNumber
  /-- `Date.parse(s)`; `none` for `NaN`. -/
  dateParse : String → Option ℤ
  /-- `new Date(ms).toISOString()`. -/
  toISOString : ℤ → String
  /-- `createHash("sha256").update(s).digest("hex")`. -/
  sha256 : String → String

/-- `typeof v === "string" && v.trim().length > 0`. -/
def nonEmptyString : Option JsonValue → Option String
  | some (.string s) => if trim s ≠ [] then some s else none
  | _ => none

/-! ## Identities -/

/-- `CAS_CONTRACT.contractVersion`. -/
def casContractVersion : String := "2023-01-01"

inductive CasEventKind
  | transaction
  | notATransaction

def CasEventKind.text : CasEventKind → String
  | transaction => "transaction"
  | notATransaction => "not_a_transaction"

def computeCasEventIdentity (bankConnectionId : Option ℕ) (bankSubAccId : Option String)
    (externalTransactionId : String) (eventKind : CasEventKind) : String :=
  let connectionPart := match bankConnectionId with
    | some id => toString id
    | none => "unresolved:" ++ bankSubAccId.getD "unknown_account"
  ":".intercalate [connectionPart, externalTransactionId, eventKind.text, casContractVersion]

/-! ## `normalizeCasTransaction` (lines 77–203) -/

inductive NormalizeRejectReason
  | invalidProviderPayload
  | malformedRawPayload
  deriving DecidableEq

structure NormalizeReject where
  reason : NormalizeRejectReason
  detail : String
  deriving DecidableEq

def invalidPayload {A : Type} (detail : String) : Except NormalizeReject A :=
  .error ⟨.invalidProviderPayload, detail⟩

inductive Direction
  | incoming
  | outgoing

/-- What a delivery says of a transaction. -/
structure CanonicalContent where
  amountMinor : ℤ
  currency : String
  direction : Direction
  bookedAt : String
  description : String

structure CanonicalBankTransaction where
  workspaceId : ℕ
  bankConnectionId : ℕ
  externalTransactionId : String
  content : CanonicalContent
  providerReference : Option String
  rawPayloadRef : String
  contractVersion : String := casContractVersion

def extractExternalTransactionId (raw : JsonObject) : Option String :=
  match nonEmptyString (raw.get? "tid") with
  | some tid => some tid
  | none =>
    match raw.get? "id" with
    | some (.number n) => if n.finite then some n.text else none
    | id => nonEmptyString id

def transactionIdOf (raw : JsonObject) : Except NormalizeReject String :=
  match (extractExternalTransactionId raw).filter (· ≠ "") with
  | some id => .ok id
  | none => invalidPayload "missing transaction identifier (tid/id)"

/-- The amount, a finite number or a text that is not blank. -/
def amountOf (raw : JsonObject) : Except NormalizeReject JsonValue :=
  match raw.get? "amount" with
  | some (.number n) => if n.finite then .ok (.number n) else invalidPayload "missing amount"
  | some (.string s) => if trim s ≠ [] then .ok (.string s) else invalidPayload "missing amount"
  | _ => invalidPayload "missing amount"

section Runtime

variable (R : JsRuntime)

/-- The explicit direction, else the sign of the amount. -/
def directionOf (raw : JsonObject) (rawAmount : JsonValue) : Except NormalizeReject Direction :=
  let n := match rawAmount with
    | .number n => n
    | v => R.number v.text
  if raw.get? "direction" = some (.string "IN") then .ok .incoming
  else if raw.get? "direction" = some (.string "OUT") then .ok .outgoing
  else if n.finite ∧ n.sign ≠ 0 then .ok (if 0 < n.sign then .incoming else .outgoing)
  else invalidPayload
    "cannot determine direction (amount is zero/ambiguous and no explicit direction field)"

/-- `rec.when ?? rec.postedAt`. -/
def rawWhen (raw : JsonObject) : Option JsonValue :=
  match raw.get? "when" with
  | none | some .null => raw.get? "postedAt"
  | some v => some v

def bookedAtOf (raw : JsonObject) : Except NormalizeReject String :=
  match nonEmptyString (rawWhen raw) with
  | none => invalidPayload "missing booked time (when)"
  | some s =>
    match R.dateParse s with
    | some ms => .ok (R.toISOString ms)
    | none => invalidPayload ("unparseable booked time: " ++ s)

def currencyOf (raw : JsonObject) : String :=
  match nonEmptyString (raw.get? "currency") with
  | some s => R.upper.upper s
  | none => "VND"

/-- `s.replace(/^[+-]/, "")`. -/
def withoutSign (cs : List Char) : List Char :=
  if cs.head? = some '+' ∨ cs.head? = some '-' then cs.tail else cs

def amountMinorOf (rawAmount : JsonValue) (currency : String) : Except NormalizeReject ℤ :=
  match parseDecimalToMoney R.upper (String.ofList (withoutSign (trim rawAmount.text))) currency with
  | .ok money => .ok money.minor
  | .error e => invalidPayload ("unparseable amount: " ++ rawAmount.text ++ " (" ++ e.message ++ ")")

/-- What the payload says of the transaction. -/
def contentOf (raw : JsonObject) : Except NormalizeReject CanonicalContent := do
  let rawAmount ← amountOf raw
  let direction ← directionOf R raw rawAmount
  let bookedAt ← bookedAtOf R raw
  let currency := currencyOf R raw
  let amountMinor ← amountMinorOf R rawAmount currency
  return {
    amountMinor
    currency
    direction
    bookedAt
    description := (nonEmptyString (raw.get? "description")).getD "" }

def providerReferenceOf (raw : JsonObject) : Option String :=
  match raw.get? "id" with
  | some (.number n) => some n.text
  | id => nonEmptyString id

def normalizeCasTransaction (payload : RawPayload) (connectionId workspaceId : ℕ) :
    Except NormalizeReject CanonicalBankTransaction :=
  match payload with
  | .other => .error ⟨.malformedRawPayload, "raw transaction payload is not an object"⟩
  | .object raw => do
    let externalTransactionId ← transactionIdOf raw
    let content ← contentOf R raw
    return {
      workspaceId
      bankConnectionId := connectionId
      externalTransactionId
      content
      providerReference := providerReferenceOf raw
      rawPayloadRef := "cas_sync_inbox:" ++ computeCasEventIdentity (some connectionId)
        (nonEmptyString (raw.get? "bank_sub_acc_id")) externalTransactionId .transaction }

end Runtime

/-! ## The identifier of a valid payload -/

section Identifiers

variable {R : JsRuntime} {raw : JsonObject} {id : String}

/-- What a normalised transaction has of its connection and of its payload. -/
theorem normalizeCasTransaction_eq_ok {payload : RawPayload} {connectionId workspaceId : ℕ}
    {t : CanonicalBankTransaction}
    (h : normalizeCasTransaction R payload connectionId workspaceId = .ok t) :
    ∃ raw, payload = .object raw ∧ transactionIdOf raw = .ok t.externalTransactionId ∧
      contentOf R raw = .ok t.content ∧ t.bankConnectionId = connectionId ∧
        t.workspaceId = workspaceId := by
  cases payload with
  | other => nomatch h
  | object raw =>
    obtain ⟨id, hid, h⟩ := bind_eq_ok.mp h
    obtain ⟨content, hcontent, h⟩ := bind_eq_ok.mp h
    cases h
    exact ⟨raw, rfl, hid, hcontent, rfl, rfl⟩

end Identifiers

end JavisSaas.Company.Finance
