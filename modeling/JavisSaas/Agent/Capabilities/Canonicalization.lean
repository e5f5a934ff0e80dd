import Mathlib.Data.List.Lex
import JavisSaas.Agent.Remote.CommandEnvelopes
import JavisSaas.Lib.Json

/-!
# Canonical payloads

`packages/agent/capabilities/canonicalization.py`. The finite floats, their rounding and their
`repr` are a parameter, and so is SHA-256. A `set` is the list of its members in the order in which
Python iterates it, a `dict` that of its items.

`Payload.value` is what a payload is, `Payload.reading` how canonicalization takes it.
-/

namespace JavisSaas.Agent.Capabilities

open JavisSaas.Lib
open JavisSaas.Agent.Remote (quote encode Raised)

universe u

/-! ## Payloads -/

/-- `round(x, 8)` and `repr(x)` of a finite float. A `repr` shows which float it is, and that it is
    one. -/
structure FloatFormat (F : Type u) where
  round8 : F → F
  repr : F → Text
  repr_injective : ∀ {x y}, repr x = repr y → x = y
  mem_repr : ∀ {x c}, c ∈ repr x → c ∈ text "0123456789.-+e"
  point : ∀ x, ∃ c ∈ repr x, c ∈ text ".e"

inductive Double (F : Type u)
  | finite (x : F)
  | nan
  | inf (negative : Bool)
  deriving DecidableEq

/-- What a `dict` may have as a key and a `set` as a member. -/
inductive Atom (F : Type u)
  | none
  | bool (b : Bool)
  | int (n : ℤ)
  | float (x : Double F)
  | str (s : Text)
  deriving DecidableEq

inductive Payload (F : Type u)
  | atom (a : Atom F)
  | list (items : List (Payload F))
  | tuple (items : List (Payload F))
  | set (members : List (Atom F))
  | dict (items : List (Atom F × Payload F))

/-- What `_normalize_item` returns. -/
inductive Normal (F : Type u)
  | atom (a : Atom F)
  | list (items : List (Normal F))
  | dict (items : List (Text × Normal F))

variable {F : Type u}

/-! ## `_normalize_item` -/

section Normalize

variable (fmt : FloatFormat F)

/-- `str(a)` -/
def Atom.pyStr : Atom F → Text
  | none => text "None"
  | bool b => text (if b then "True" else "False")
  | int n => text (toString n)
  | float (.finite x) => fmt.repr x
  | float .nan => text "nan"
  | float (.inf negative) => text (if negative then "-inf" else "inf")
  | str s => s

/-- `round(value, 8)` of a float. -/
def Atom.rounded : Atom F → Atom F
  | float (.finite x) => float (.finite (fmt.round8 x))
  | a => a

/-- `sorted(members, key=str)`, after each was normalized. -/
def sortedMembers (members : List (Atom F)) : List (Atom F) :=
  (members.map (Atom.rounded fmt)).insertionSort fun a b => a.pyStr fmt ≤ b.pyStr fmt

/-- `{k: v for k, v in sorted(items)}`: the last item of a key counts. -/
def collect (items : List (Text × Normal F)) : List (Text × Normal F) :=
  ((∅ : Dict Text (Normal F)).update (items.insertionSort fun a b => a.1 ≤ b.1)).items

mutual

def normalizeItem : Payload F → Normal F
  | .atom a => .atom (a.rounded fmt)
  | .list items => .list (normalizeItems items)
  | .tuple items => .list (normalizeItems items)
  | .set members => .list ((sortedMembers fmt members).map .atom)
  | .dict items => .dict (collect (normalizeEntries items))

def normalizeItems : List (Payload F) → List (Normal F)
  | [] => []
  | item :: items => normalizeItem item :: normalizeItems items

def normalizeEntries : List (Atom F × Payload F) → List (Text × Normal F)
  | [] => []
  | (key, item) :: items => (key.pyStr fmt, normalizeItem item) :: normalizeEntries items

end

/-! ## `canonicalize_payload` -/

/-- What `json.dumps` writes for a value that is no `dict` and no `list`. -/
def Atom.dumps : Atom F → Text
  | none => text "null"
  | bool b => text (if b then "true" else "false")
  | int n => text (toString n)
  | float (.finite x) => fmt.repr x
  | float .nan => text "NaN"
  | float (.inf negative) => text (if negative then "-Infinity" else "Infinity")
  | str s => quote s

/-- An item of an object. -/
def entryText (item : Text × Text) : Text := quote item.1 ++ text ":" ++ item.2

mutual

/-- `json.dumps(value, sort_keys=True, separators=(",", ":"), ensure_ascii=False)` -/
def dumps : Normal F → Text
  | .atom a => a.dumps fmt
  | .list items => text "[" ++ (text ",").intercalate (dumpsList items) ++ text "]"
  | .dict items =>
    let sorted := (dumpsItems items).insertionSort fun a b => a.1 ≤ b.1
    text "\x7b" ++ (text ",").intercalate (sorted.map entryText) ++ text "\x7d"

def dumpsList : List (Normal F) → List Text
  | [] => []
  | item :: items => dumps item :: dumpsList items

def dumpsItems : List (Text × Normal F) → List (Text × Text)
  | [] => []
  | (key, item) :: items => (key, dumps item) :: dumpsItems items

end

def canonicalizePayload (payload : Payload F) : Text := dumps fmt (normalizeItem fmt payload)

/-- A text with a lone surrogate has no bytes, and raises. -/
def computePayloadHash {H : Type} (sha256 : Remote.Bytes → H) (payload : Payload F) :
    Except Raised H := do
  return sha256 (← encode (canonicalizePayload fmt payload))

end Normalize

/-! ## What a payload says -/

inductive Value (F : Type u)
  | atom (a : Atom F)
  | list (items : List (Value F))
  | tuple (items : List (Value F))
  | set (members : Set (Atom F))
  | dict (entries : Atom F → Option (Value F))

section Values

variable [DecidableEq F]

mutual

/-- A payload as a value: the order of a `set` and of a `dict` is nothing that it has. -/
def Payload.value : Payload F → Value F
  | .atom a => .atom a
  | .list items => .list (values items)
  | .tuple items => .tuple (values items)
  | .set members => .set {a | a ∈ members}
  | .dict items => .dict (valueAt items)

def values : List (Payload F) → List (Value F)
  | [] => []
  | item :: items => item.value :: values items

/-- The value under a key. -/
def valueAt : List (Atom F × Payload F) → Atom F → Option (Value F)
  | [], _ => none
  | (key, item) :: items, a => (valueAt items a).or (if key = a then some item.value else none)

end

end Values

section Readings

variable (fmt : FloatFormat F)

/-- The value under a text. -/
def underText (entries : Text → Option (Value F)) : Atom F → Option (Value F)
  | .str s => entries s
  | _ => none

mutual

/-- A key is its text, `tuple` and `set` are lists, that of a `set` in the order of its texts, and
floats count to 8 places. -/
def Payload.reading : Payload F → Value F
  | .atom a => .atom (a.rounded fmt)
  | .list items => .list (readings items)
  | .tuple items => .list (readings items)
  | .set members => .list ((sortedMembers fmt members).map .atom)
  | .dict items => .dict (underText (readingAt items))

def readings : List (Payload F) → List (Value F)
  | [] => []
  | item :: items => item.reading :: readings items

/-- The reading under a key's text: where two keys have one text, the last one counts. -/
def readingAt : List (Atom F × Payload F) → Text → Option (Value F)
  | [], _ => none
  | (key, item) :: items, s =>
    (readingAt items s).or (if key.pyStr fmt = s then some item.reading else none)

end

end Readings

end JavisSaas.Agent.Capabilities
