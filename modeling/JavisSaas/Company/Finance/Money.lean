import JavisSaas.Lib.ApiError
import JavisSaas.Lib.Digits

/-!
# Money

Models `services/company/finance-legal/services/money.ts`, and what the finance services
share: the upper case of a text.

* `parseDecimalToMoney`: the minor units of a decimal numeral.
* `formatMoneyToDecimal`: and back.
-/

namespace JavisSaas.Company

open JavisSaas.Lib

namespace Finance

/-- `toUpperCase()`: the full case mapping of Unicode, which maps its own values to themselves. -/
structure UpperCase where
  upper : String → String
  upper_upper : ∀ s, upper (upper s) = upper s

theorem upper_id (s : String) : id (id s) = id s := rfl

/-- The white space that `trim()` removes. -/
def isJsSpace (c : Char) : Bool :=
  c ∈ ['\t', '\n', '\x0b', '\x0c', '\r', ' ', '\u00a0', '\u1680', '\u2028', '\u2029', '\u202f',
    '\u205f', '\u3000', '\ufeff'] || ('\u2000' ≤ c && c ≤ '\u200a')

/-- `s.trim()`, as characters. -/
def trim (s : String) : List Char :=
  ((s.toList.dropWhile isJsSpace).reverse.dropWhile isJsSpace).reverse

theorem trim_of_forall {s : String} (h : ∀ c ∈ s.toList, isJsSpace c = false) :
    trim s = s.toList := by
  have hself : ∀ cs : List Char, (∀ c ∈ cs, isJsSpace c = false) → cs.dropWhile isJsSpace = cs := by
    intro cs h
    cases cs with
    | nil => rfl
    | cons c =>
      rw [List.dropWhile_cons, h c List.mem_cons_self]
      rfl
  rw [trim, hself _ h, hself _ fun c hc => h c (List.mem_reverse.mp hc), List.reverse_reverse]

theorem isJsSpace_of_isDigit {c : Char} (h : c.isDigit) : isJsSpace c = false := by
  have hall : ∀ n < 58, 48 ≤ n → isJsSpace (Char.ofNat n) = false := by decide
  have hbounds := digit_bounds h
  rw [← Char.ofNat_toNat c]
  exact hall c.toNat (by omega) hbounds.1

structure Money where
  minor : ℤ
  currency : String

/-- `decimals`: none for VND, two for the other currencies. -/
def currencyDecimals (curr : String) : ℕ := if curr = "VND" then 0 else 2

/-- `\d+`. -/
def isDigits (cs : List Char) : Bool := !cs.isEmpty && cs.all Char.isDigit

/-- The number that a list of digits denotes. -/
def digitsValue (cs : List Char) : ℕ := cs.foldl (fun n c => 10 * n + (c.toNat - '0'.toNat)) 0

/-- `fraction.padEnd(decimals, "0").slice(0, decimals)`. -/
def padFraction (decimals : ℕ) (fraction : List Char) : List Char :=
  (fraction ++ List.replicate (decimals - fraction.length) '0').take decimals

/-- `customDecimals !== undefined ? customDecimals : …` -/
def decimalsOf (curr : String) (customDecimals : Option ℕ) : ℕ :=
  customDecimals.getD (currencyDecimals curr)

def parseDecimalToMoney (U : UpperCase) (amountDecimal currency : String)
    (customDecimals : Option ℕ := none) : Except ApiError Money :=
  let curr := U.upper currency
  let decimals := decimalsOf curr customDecimals
  let str := trim amountDecimal
  let isNegative := str.head? = some '-'
  let absStr := if isNegative then str.tail else str
  let whole := absStr.takeWhile (· ≠ '.')
  let rest := absStr.dropWhile (· ≠ '.')
  if isDigits whole && (rest.isEmpty || isDigits rest.tail) then
    let minorBig : ℤ := digitsValue (whole ++ padFraction decimals rest.tail)
    .ok { minor := if isNegative then -minorBig else minorBig, currency := curr }
  else .error (.invalidArgument s!"Invalid decimal amount: {amountDecimal}")

def formatMoneyToDecimal (U : UpperCase) (money : Money) (customDecimals : Option ℕ := none) :
    String :=
  let decimals := decimalsOf (U.upper money.currency) customDecimals
  let absStr := (toString money.minor.natAbs).toList
  let sign := if money.minor < 0 then "-" else ""
  if decimals = 0 then sign ++ String.ofList absStr
  else
    let padded := padZeros (decimals + 1) absStr
    let whole := padded.take (padded.length - decimals)
    let fraction := padded.drop (padded.length - decimals)
    sign ++ String.ofList whole ++ "." ++ String.ofList fraction

end Finance

end JavisSaas.Company
