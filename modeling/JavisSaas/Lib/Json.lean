import Mathlib.Algebra.Order.Ring.Rat
import JavisSaas.Lib.Dict

/-!
# JSON values as Python reads them

A `str` is the sequence of its code points, an `int` is unbounded, and a `float` is a rational, an
infinity or `nan`. Comparing an `int` with a `float` is exact; converting one rounds.

* `floatOfInt`: the rounding, and the overflow, of `float(n)`.
* `Json.get?`: a member of a dict.
-/

namespace JavisSaas.Lib

/-! ## Texts -/

/-- A `str`, by its code points. -/
abbrev Text := List ℕ

instance Text.lawfulBEq : LawfulBEq Text := inferInstance

def text (s : String) : Text := s.toList.map Char.toNat

/-- A text of given characters, which a literal is. -/
theorem text_ofList (l : List Char) : text (String.ofList l) = l.map Char.toNat := by
  rw [text, String.toList_ofList]

namespace Text

/-- `str.isspace` of one code point. -/
def isSpace (c : ℕ) : Bool :=
  c ∈ [9, 10, 11, 12, 13, 28, 29, 30, 31, 32, 0x85, 0xa0, 0x1680, 0x2028, 0x2029, 0x202f, 0x205f,
    0x3000] || (0x2000 ≤ c && c ≤ 0x200a)

/-- `s.strip(chars)` -/
def stripBy (p : ℕ → Bool) (s : Text) : Text :=
  ((s.dropWhile p).reverse.dropWhile p).reverse

/-- `s.strip()` -/
def strip (s : Text) : Text := s.stripBy isSpace

/-- `s.split()` -/
def words (s : Text) : List Text := (s.splitOnP isSpace).filter (· ≠ [])

end Text

/-! ## Numbers -/

inductive PyFloat
  | finite (q : ℚ)
  | nan
  | inf (negative : Bool)

namespace PyFloat

/-- `x == y` -/
def eq : PyFloat → PyFloat → Bool
  | finite p, finite q => p = q
  | inf a, inf b => a = b
  | _, _ => false

/-- `x <= y` -/
def le : PyFloat → PyFloat → Bool
  | finite p, finite q => p ≤ q
  | inf true, finite _ => true
  | finite _, inf false => true
  | inf a, inf b => a || !b
  | _, _ => false

def isFinite : PyFloat → Bool
  | finite _ => true
  | _ => false

end PyFloat

/-- `float(n)`: to 53 bits, halves to even; too large an integer overflows. -/
def floatOfInt (n : ℤ) : Option PyFloat :=
  let m := n.natAbs
  let k := m.log2 - 52
  let q := m / 2 ^ k
  let r := m % 2 ^ k
  let up := 2 ^ k < 2 * r ∨ 2 ^ k = 2 * r ∧ q % 2 = 1
  let rounded := (if up then q + 1 else q) * 2 ^ k
  if rounded < 2 ^ 1024 then some (.finite (n.sign * rounded)) else none

/-! ## Values -/

inductive Json
  | null
  | bool (b : Bool)
  | int (n : ℤ)
  | float (x : PyFloat)
  | str (s : Text)
  | list (items : List Json)
  | dict (items : List (Text × Json))

namespace Json

/-- `d.get(key)`, of a value that need not be a dict. -/
def get? : Json → String → Option Json
  | dict items, key => Dict.lookup items (text key)
  | _, _ => none

/-- `bool(value)` -/
def truthy : Json → Bool
  | null => false
  | bool b => b
  | int n => n ≠ 0
  | float x => !(x.eq (.finite 0))
  | str s => !s.isEmpty
  | list items => !items.isEmpty
  | dict items => !items.isEmpty

/-- The exact value of an `int` or a `float` that is no `bool`. -/
def number? : Json → Option PyFloat
  | int n => some (.finite n)
  | float x => some x
  | _ => none

end Json

end JavisSaas.Lib
