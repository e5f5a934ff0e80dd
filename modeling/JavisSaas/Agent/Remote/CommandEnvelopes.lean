import Mathlib.Data.List.Sort
import Mathlib.Data.Rat.Init
import JavisSaas.Lib.Dict
import JavisSaas.Lib.Fallible
import JavisSaas.Lib.Transition

/-!
# Authenticated command envelopes

`packages/agent/remote/command_envelope.py`. HMAC-SHA256, `datetime.fromisoformat`, the rounding
of seconds to a float and `repr` are parameters. A datetime in UTC is the number of microseconds
since the year 1, and an exception that is no `EnvelopeError` is told by its type.
-/

namespace JavisSaas.Agent.Remote

open JavisSaas.Lib

/-! ## Values -/

/-- A `str`, by its code points, with lone surrogates among them. -/
abbrev Text := List ℕ

abbrev Bytes := List ℕ

def text (s : String) : Text := s.toList.map Char.toNat

inductive Value
  | none
  | bool (b : Bool)
  | int (n : ℤ)
  /-- A float, by its `repr`. -/
  | float (repr : Text) (isZero : Bool)
  | str (s : Text)
  | list (items : List Value)
  | dict (items : List (Text × Value))
  /-- A value of another type, which JSON does not know. -/
  | object (truthy : Bool)

def Value.truthy : Value → Bool
  | none => false
  | bool b => b
  | int n => n ≠ 0
  | float _ isZero => !isZero
  | str s => !s.isEmpty
  | list items => !items.isEmpty
  | dict items => !items.isEmpty
  | object truthy => truthy

abbrev Items := List (Text × Value)

/-- `d.get(key)` -/
def Items.get? (items : Items) (key : String) : Option Value := Dict.lookup items (text key)

/-- What `verify` may raise. -/
inductive Raised
  | envelopeError (message : String)
  | other (type : String)

/-! ## `canonical_bytes` -/

def hexDigit (n : ℕ) : ℕ := if n < 10 then 48 + n else 87 + n

/-- `ESCAPE_DCT` -/
def escape (c : ℕ) : Text :=
  if c = 34 then text "\\\""
  else if c = 92 then text "\\\\"
  else if c = 10 then text "\\n"
  else if c = 13 then text "\\r"
  else if c = 9 then text "\\t"
  else if c = 12 then text "\\f"
  else if c = 8 then text "\\b"
  else if c < 32 then text "\\u00" ++ [hexDigit (c / 16), hexDigit (c % 16)]
  else [c]

def quote (s : Text) : Text := [34] ++ s.flatMap escape ++ [34]

mutual

/-- `json.dumps(value, sort_keys=True, separators=(",", ":"), ensure_ascii=False)` -/
def dumps : Value → Except Raised Text
  | .none => .ok (text "null")
  | .bool b => .ok (text (if b then "true" else "false"))
  | .int n => .ok (text (toString n))
  | .float repr _ => .ok repr
  | .str s => .ok (quote s)
  | .list items => do
    let items ← dumpsList items
    return text "[" ++ (text ",").intercalate items ++ text "]"
  | .dict items => do
    let items ← dumpsItems items
    let sorted := items.insertionSort fun a b => a.1 ≤ b.1
    return text "\x7b" ++ (text ",").intercalate (sorted.map fun kv => quote kv.1 ++ text ":" ++ kv.2)
      ++ text "\x7d"
  | .object _ => .error (.other "TypeError")

def dumpsList : List Value → Except Raised (List Text)
  | [] => .ok []
  | item :: items => do return (← dumps item) :: (← dumpsList items)

def dumpsItems : List (Text × Value) → Except Raised (List (Text × Text))
  | [] => .ok []
  | (key, item) :: items => do return (key, ← dumps item) :: (← dumpsItems items)

end

def isSurrogate (c : ℕ) : Bool := 0xd800 ≤ c && c ≤ 0xdfff

/-- The UTF-8 bytes of a code point. -/
def utf8 (c : ℕ) : Bytes :=
  if c < 0x80 then [c]
  else if c < 0x800 then [0xc0 + c / 0x40, 0x80 + c % 0x40]
  else if c < 0x10000 then [0xe0 + c / 0x1000, 0x80 + c / 0x40 % 0x40, 0x80 + c % 0x40]
  else [0xf0 + c / 0x40000, 0x80 + c / 0x1000 % 0x40, 0x80 + c / 0x40 % 0x40, 0x80 + c % 0x40]

/-- `s.encode("utf-8")` -/
def encode (s : Text) : Except Raised Bytes := do
  require (s.all (!isSurrogate ·)) (.other "UnicodeEncodeError")
  return s.flatMap utf8

def canonicalBytes (payload : Value) : Except Raised Bytes := do
  encode (← dumps payload)

/-! ## Envelopes -/

structure Principal where
  kind : Text
  id : Text

def Principal.toDict (p : Principal) : Value :=
  .dict [(text "kind", .str p.kind), (text "id", .str p.id)]

/-- The signature of a dict may be of any type. -/
structure CommandEnvelope where
  workspaceId : Text
  principal : Principal
  command : Items
  nonce : Text
  issuedAt : Text
  expiresAt : Text
  signature : Value

def CommandEnvelope.signingPayload (env : CommandEnvelope) : Value :=
  .dict [(text "workspace_id", .str env.workspaceId), (text "principal", env.principal.toDict),
    (text "command", .dict env.command), (text "nonce", .str env.nonce),
    (text "issued_at", .str env.issuedAt), (text "expires_at", .str env.expiresAt)]

structure VerifiedCommand where
  workspaceId : Text
  principal : Principal
  command : Items
  nonce : Text
  expiresAt : ℤ

/-- An aware datetime has an offset. -/
structure DateTime where
  micros : ℤ
  utcOffset : Option ℤ

/-- The microseconds from the year 1 to the year 10000. -/
def maxMicros : ℤ := 3652059 * 86400 * 1000000

/-- `dt.astimezone(UTC)`, of a naive one taken as UTC. -/
def DateTime.toUtc (dt : DateTime) : Except Raised ℤ := do
  let micros := dt.micros - dt.utcOffset.getD 0
  require (0 ≤ micros ∧ micros < maxMicros) (.other "OverflowError")
  return micros

structure Runtime where
  /-- `hmac.new(key, message, hashlib.sha256).hexdigest()` -/
  hmacHex : Bytes → Bytes → Text
  fromIsoFormat : Text → Option DateTime
  /-- `timedelta(microseconds=micros).total_seconds()` -/
  totalSeconds : ℤ → ℚ
  repr : Value → String

namespace Runtime

variable (rt : Runtime)

/-- `dt.timestamp()` -/
def timestamp (micros : ℤ) : ℚ := rt.totalSeconds (micros - 719162 * 86400 * 1000000)

def parseIsoUtc (value : Text) (field : String) : Except Raised ℤ :=
  match rt.fromIsoFormat value with
  | none => .error (.envelopeError s!"{field} không phải ISO-8601: {rt.repr (.str value)}")
  | some dt => dt.toUtc

/-- A field of the envelope that has to be a text which is not empty. -/
def textField (items : Items) (field : String) : Except Raised Text :=
  match items.get? field with
  | some (.str (c :: s)) => .ok (c :: s)
  | _ => .error (.envelopeError s!"thiếu/không hợp lệ field '{field}'")

def kindField (items : Items) : Except Raised Text :=
  match items.get? "kind" with
  | some (.str kind) =>
    if kind = text "user" ∨ kind = text "workforce_member" then .ok kind
    else .error (.envelopeError s!"principal.kind không hợp lệ: {rt.repr (.str kind)}")
  | kind => .error (.envelopeError s!"principal.kind không hợp lệ: {rt.repr (kind.getD .none)}")

/-- `Principal.from_dict` -/
def principalFromDict (items : Items) : Except Raised Principal := do
  let kind ← rt.kindField items
  match items.get? "id" with
  | some (.str (c :: id)) => return ⟨kind, c :: id⟩
  | _ => throw (.envelopeError "principal.id rỗng/không hợp lệ")

/-- `Principal.from_dict(d.get("principal") or {})` -/
def principalOf (principal : Option Value) : Except Raised Principal :=
  match principal with
  | some (.dict items) => rt.principalFromDict items
  | some value => if value.truthy then .error (.other "AttributeError") else rt.principalFromDict []
  | none => rt.principalFromDict []

def commandField (items : Items) : Except Raised Items :=
  match items.get? "command" with
  | some (.dict command) => .ok command
  | _ => .error (.envelopeError "command phải là object")

def fromDict (items : Items) : Except Raised CommandEnvelope := do
  let workspaceId ← textField items "workspace_id"
  let nonce ← textField items "nonce"
  let issuedAt ← textField items "issued_at"
  let expiresAt ← textField items "expires_at"
  let command ← commandField items
  let principal ← rt.principalOf (items.get? "principal")
  let signature := (items.get? "signature").getD (.str [])
  return {
    workspaceId, principal, command, nonce, issuedAt, expiresAt
    signature := if signature.truthy then signature else .str [] }

end Runtime

/-! ## The verifier -/

structure Verifier where
  signingKey : Bytes
  clockSkewSec : ℤ := 60
  maxTtlSec : ℤ := 15 * 60
  signingKey_ne_nil : signingKey ≠ []

inductive Input
  | envelope (env : CommandEnvelope)
  | dict (items : Items)

/-- `NonceReplayCache`: the expiry of every `(workspace_id, nonce)` that was used. -/
abbrev NonceReplayCache := Dict (Text × Text) ℚ

def NonceReplayCache.evict (seen : NonceReplayCache) (now : ℚ) : NonceReplayCache :=
  seen.filter fun expires => ¬ expires ≤ now

def NonceReplayCache.checkAndRecord (seen : NonceReplayCache) (key : Text × Text)
    (expires now : ℚ) : Except Raised Unit × NonceReplayCache :=
  let seen := seen.evict now
  if (seen.get? key).isSome then
    (.error (.envelopeError "nonce đã được dùng (replay bị chặn)"), seen)
  else (.ok (), seen.set key expires)

namespace Verifier

variable (rt : Runtime) (v : Verifier)

def parse : Input → Except Raised CommandEnvelope
  | .envelope env => .ok env
  | .dict items => rt.fromDict items

/-- `hmac.compare_digest(expected, signature)` -/
def compareDigest (expected : Text) : Value → Except Raised Bool
  | .str signature =>
    if signature.all (· < 128) then .ok (expected = signature) else .error (.other "TypeError")
  | _ => .error (.other "TypeError")

def checkSignature (env : CommandEnvelope) : Except Raised Unit := do
  require env.signature.truthy (.envelopeError "thiếu signature")
  let expected := rt.hmacHex v.signingKey (← canonicalBytes env.signingPayload)
  require (← compareDigest expected env.signature) (.envelopeError "chữ ký không hợp lệ")

/-- The validity window of an envelope, and its end. -/
def checkWindow (env : CommandEnvelope) (current : ℤ) : Except Raised ℤ := do
  let issued ← rt.parseIsoUtc env.issuedAt "issued_at"
  let expires ← rt.parseIsoUtc env.expiresAt "expires_at"
  require (issued < expires) (.envelopeError "expires_at phải sau issued_at")
  require (¬ (v.maxTtlSec : ℚ) < rt.totalSeconds (expires - issued))
    (.envelopeError s!"TTL envelope vượt trần {v.maxTtlSec}s")
  require (current < expires) (.envelopeError "envelope đã hết hạn")
  require (issued - current ≤ v.clockSkewSec * 1000000)
    (.envelopeError "issued_at ở tương lai quá cửa sổ clock-skew")
  return expires

/-- What is checked before the nonce. -/
def check (input : Input) (current : ℤ) : Except Raised VerifiedCommand := do
  let env ← parse rt input
  checkSignature rt v env
  let expires ← checkWindow rt v env current
  return ⟨env.workspaceId, env.principal, env.command, env.nonce, expires⟩

/-- `verify`, at a reading of the clock. -/
def verify (seen : NonceReplayCache) (input : Input) (current : ℤ) :
    Except Raised VerifiedCommand × NonceReplayCache :=
  match check rt v input current with
  | .error e => (.error e, seen)
  | .ok command =>
    let (checked, seen) := seen.checkAndRecord (command.workspaceId, command.nonce)
      (rt.timestamp command.expiresAt) (rt.timestamp current)
    (checked.map fun _ => command, seen)

end Verifier

end JavisSaas.Agent.Remote
