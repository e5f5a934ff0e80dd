import Mathlib.Data.List.Infix
import JavisSaas.Agent.Remote.CommandEnvelopes

/-!
# Accepted commands

Envelopes are delivered to one verifier, at readings of the clock that may repeat or go back. A
nonce is kept until the expiry of its envelope, and may be used again then.

* `verifierLaw`: what is accepted is authentic and in its window, a nonce is accepted once until
  the clock has read the expiry of its envelope, and all else consumes no nonce.
* `not_strictLaw_clockTurnedBack`: a replay after the clock was ahead.
-/

namespace JavisSaas.Agent.Remote

open JavisSaas.Lib

/-! ## The system -/

structure Delivery where
  input : Input
  current : ℤ
  result : Except Raised VerifiedCommand
  before : NonceReplayCache
  after : NonceReplayCache

structure VerifierState where
  seen : NonceReplayCache := ∅
  deliveries : List Delivery := []

def deliver (rt : Runtime) (v : Verifier) (s : VerifierState) (input : Input) (current : ℤ) :
    VerifierState :=
  let (result, seen) := v.verify rt s.seen input current
  ⟨seen, s.deliveries ++ [⟨input, current, result, s.seen, seen⟩]⟩

/-- An envelope and a reading of the clock make a step. -/
def system (rt : Runtime) (v : Verifier) : System VerifierState (Input × ℤ) :=
  ⟨fun s l => some (deliver rt v s l.1 l.2)⟩

/-! ## The law -/

def VerifiedCommand.key (c : VerifiedCommand) : Text × Text := (c.workspaceId, c.nonce)

/-- The command is in the envelope, which is signed over it and in its window. -/
def Authentic (rt : Runtime) (v : Verifier) (input : Input) (current : ℤ) (c : VerifiedCommand) :
    Prop :=
  ∃ issuedAt expiresAt signature bytes issued,
    Verifier.parse rt input = .ok
      ⟨c.workspaceId, c.principal, c.command, c.nonce, issuedAt, expiresAt, signature⟩ ∧
    canonicalBytes (CommandEnvelope.signingPayload
      ⟨c.workspaceId, c.principal, c.command, c.nonce, issuedAt, expiresAt, signature⟩) =
        .ok bytes ∧
    signature = .str (rt.hmacHex v.signingKey bytes) ∧
    rt.parseIsoUtc issuedAt "issued_at" = .ok issued ∧
    rt.parseIsoUtc expiresAt "expires_at" = .ok c.expiresAt ∧
    issued < c.expiresAt ∧ rt.totalSeconds (c.expiresAt - issued) ≤ v.maxTtlSec ∧
    current < c.expiresAt ∧ issued - current ≤ v.clockSkewSec * 1000000

def AllAuthentic (rt : Runtime) (v : Verifier) (s : VerifierState) : Prop :=
  ∀ d ∈ s.deliveries, ∀ c, d.result = .ok c → Authentic rt v d.input d.current c

def Raised.IsEnvelopeError (e : Raised) : Prop := ∃ message, e = .envelopeError message

/-- What is refused consumes no nonce, and is an `EnvelopeError` where the input is declared. -/
def AllRefused (Declared : Input → Prop) (s : VerifierState) : Prop :=
  ∀ d ∈ s.deliveries, ∀ e, d.result = .error e →
    (∀ key ∈ d.after.keys, key ∈ d.before.keys) ∧
      (Declared d.input → e.IsEnvelopeError)

/-- The pairs of the accepted commands, first to last. -/
def acceptedKeys (s : VerifierState) : List (Text × Text) :=
  s.deliveries.filterMap fun d => d.result.toOption.map (·.key)

/-- Every pair is accepted at most once in the life of the verifier. -/
structure StrictLaw (rt : Runtime) (v : Verifier) (s : VerifierState) : Prop where
  authentic : AllAuthentic rt v s
  once : (acceptedKeys s).Nodup
  refused : AllRefused (fun _ => True) s

/-- Between two acceptances of a pair, the clock has read the expiry of the first. -/
def OnceUntilExpiry (rt : Runtime) (s : VerifierState) : Prop :=
  ∀ (i j : ℕ) (a b : Delivery) (c c' : VerifiedCommand), i < j →
    s.deliveries[i]? = some a → s.deliveries[j]? = some b →
    a.result = .ok c → b.result = .ok c' → c.key = c'.key →
    ∃ (k : ℕ) (d : Delivery), i < k ∧ k ≤ j ∧ s.deliveries[k]? = some d ∧
      rt.timestamp c.expiresAt ≤ rt.timestamp d.current

/-- The payload can be encoded, the signature is ASCII, and the times are in the range of a
datetime. -/
structure Declared (rt : Runtime) (input : Input) : Prop where
  principal : ∀ items value, input = .dict items → items.get? "principal" = some value →
    value.truthy → ∃ principal, value = .dict principal
  signature : ∀ env, Verifier.parse rt input = .ok env → env.signature.truthy →
    ∃ s : Text, env.signature = .str s ∧ ∀ c ∈ s, c < 128
  payload : ∀ env, Verifier.parse rt input = .ok env →
    ∃ bytes, canonicalBytes env.signingPayload = .ok bytes
  times : ∀ env, Verifier.parse rt input = .ok env → ∀ value ∈ [env.issuedAt, env.expiresAt],
    ∀ dt ∈ rt.fromIsoFormat value, ∃ micros, dt.toUtc = .ok micros

structure VerifierLaw (rt : Runtime) (v : Verifier) (s : VerifierState) : Prop where
  authentic : AllAuthentic rt v s
  once : OnceUntilExpiry rt s
  refused : AllRefused (Declared rt) s

/-! ## What is checked -/

section Checks

variable {rt : Runtime} {v : Verifier} {input : Input} {current : ℤ}

theorem eq_of_compareDigest {expected : Text} {signature : Value}
    (h : Verifier.compareDigest expected signature = .ok true) : signature = .str expected := by
  unfold Verifier.compareDigest at h
  split at h
  · split_ifs at h
    rw [of_decide_eq_true (Except.ok.inj h)]
  · nomatch h

theorem authentic_of_check {c : VerifiedCommand} (h : v.check rt input current = .ok c) :
    Authentic rt v input current c := by
  obtain ⟨env, hparse, h⟩ := bind_eq_ok.mp h
  obtain ⟨_, hsigned, h⟩ := bind_eq_ok.mp h
  obtain ⟨expires, hwindow, h⟩ := bind_eq_ok.mp h
  cases h
  have hsigned := of_require hsigned
  obtain ⟨bytes, hbytes, hsigned⟩ := bind_eq_ok.mp hsigned
  obtain ⟨equal, hequal, hsigned⟩ := bind_eq_ok.mp hsigned
  obtain ⟨issued, hissued, hwindow⟩ := bind_eq_ok.mp hwindow
  obtain ⟨expires', hexpires, hwindow⟩ := bind_eq_ok.mp hwindow
  obtain ⟨horder, hwindow⟩ := require_bind_eq_ok.mp hwindow
  obtain ⟨httl, hwindow⟩ := require_bind_eq_ok.mp hwindow
  obtain ⟨hexpired, hwindow⟩ := require_bind_eq_ok.mp hwindow
  obtain ⟨hskew, hwindow⟩ := require_bind_eq_ok.mp hwindow
  cases hwindow
  rw [require_eq_ok.mp hsigned] at hequal
  exact ⟨env.issuedAt, env.expiresAt, env.signature, bytes, issued, hparse, hbytes,
    eq_of_compareDigest hequal, hissued, hexpires, horder, Rat.not_lt.mp httl, hexpired, hskew⟩

/-! ### Refusals -/

theorem isEnvelopeError {message : String} : (Raised.envelopeError message).IsEnvelopeError :=
  ⟨message, rfl⟩

theorem textField_fails (items : Items) (field : String) :
    FailsWith Raised.IsEnvelopeError (Runtime.textField items field) := by
  unfold Runtime.textField
  split
  · exact .ok
  · exact .error isEnvelopeError

theorem principalFromDict_fails (items : Items) :
    FailsWith Raised.IsEnvelopeError (rt.principalFromDict items) := by
  refine .bind ?_ fun kind _ => ?_
  · unfold Runtime.kindField
    split
    · split_ifs
      · exact .ok
      · exact .error isEnvelopeError
    · exact .error isEnvelopeError
  · split
    · exact .ok
    · exact .error isEnvelopeError

theorem principalOf_fails {principal : Option Value}
    (h : ∀ value, principal = some value → value.truthy → ∃ items, value = .dict items) :
    FailsWith Raised.IsEnvelopeError (rt.principalOf principal) := by
  unfold Runtime.principalOf
  split
  · exact principalFromDict_fails _
  · next value hdict =>
    split_ifs with htruthy
    · obtain ⟨items, rfl⟩ := h value rfl htruthy
      exact absurd rfl (hdict items)
    · exact principalFromDict_fails _
  · exact principalFromDict_fails _

theorem parse_fails (hinput : Declared rt input) :
    FailsWith Raised.IsEnvelopeError (Verifier.parse rt input) := by
  cases input with
  | envelope => exact .ok
  | dict items =>
    refine .bind (textField_fails _ _) fun workspaceId _ => ?_
    refine .bind (textField_fails _ _) fun nonce _ => ?_
    refine .bind (textField_fails _ _) fun issuedAt _ => ?_
    refine .bind (textField_fails _ _) fun expiresAt _ => ?_
    refine .bind ?_ fun command _ => ?_
    · unfold Runtime.commandField
      split
      · exact .ok
      · exact .error isEnvelopeError
    · refine .bind (principalOf_fails fun value hvalue => ?_) fun principal _ => .ok
      exact hinput.principal items value rfl hvalue

theorem checkSignature_fails {env : CommandEnvelope} (hinput : Declared rt input)
    (henv : Verifier.parse rt input = .ok env) :
    FailsWith Raised.IsEnvelopeError (v.checkSignature rt env) := by
  refine .bind (.require isEnvelopeError) fun _ htruthy => ?_
  obtain ⟨s, hs, hascii⟩ := hinput.signature env henv (require_eq_ok.mp htruthy)
  obtain ⟨bytes, hbytes⟩ := hinput.payload env henv
  rw [hbytes, hs]
  refine .bind .ok fun _ _ => .bind ?_ fun _ _ => .require isEnvelopeError
  have hall : s.all (· < 128) = true := by simpa using hascii
  show FailsWith _ (if s.all (· < 128) then _ else _)
  rw [if_pos hall]
  exact .ok

theorem parseIsoUtc_fails {value : Text} {field : String}
    (h : ∀ dt ∈ rt.fromIsoFormat value, ∃ micros, dt.toUtc = .ok micros) :
    FailsWith Raised.IsEnvelopeError (rt.parseIsoUtc value field) := by
  unfold Runtime.parseIsoUtc
  split
  · exact .error isEnvelopeError
  · next dt hdt =>
    obtain ⟨micros, hmicros⟩ := h dt hdt
    rw [hmicros]
    exact .ok

theorem checkWindow_fails {env : CommandEnvelope} (hinput : Declared rt input)
    (henv : Verifier.parse rt input = .ok env) :
    FailsWith Raised.IsEnvelopeError (v.checkWindow rt env current) := by
  have htimes := hinput.times env henv
  refine .bind (parseIsoUtc_fails (htimes _ List.mem_cons_self)) fun issued _ => ?_
  refine .bind (parseIsoUtc_fails (htimes _ (List.mem_cons_of_mem _ List.mem_cons_self)))
    fun expires _ => ?_
  refine .bind (.require isEnvelopeError) fun _ _ => ?_
  refine .bind (.require isEnvelopeError) fun _ _ => ?_
  refine .bind (.require isEnvelopeError) fun _ _ => ?_
  exact .bind (.require isEnvelopeError) fun _ _ => .ok

theorem check_fails (hinput : Declared rt input) :
    FailsWith Raised.IsEnvelopeError (v.check rt input current) := by
  refine .bind (parse_fails hinput) fun env henv => ?_
  refine .bind (checkSignature_fails hinput henv) fun _ _ => ?_
  exact .bind (checkWindow_fails hinput henv) fun _ _ => .ok

end Checks

/-! ## What a delivery does -/

theorem get?_evict (seen : NonceReplayCache) (now : ℚ) (key : Text × Text) :
    (seen.evict now).get? key = (seen.get? key).filter fun expires => ¬ expires ≤ now :=
  Dict.get?_filter _ seen key

theorem keys_evict {seen : NonceReplayCache} {now : ℚ} {key : Text × Text}
    (h : key ∈ (seen.evict now).keys) : key ∈ seen.keys := by
  rw [← Dict.get?_isSome] at h ⊢
  rw [get?_evict] at h
  obtain ⟨expires, hexpires⟩ := Option.isSome_iff_exists.mp h
  rw [(Option.filter_eq_some_iff.mp hexpires).1]
  rfl

theorem evict_or {seen : NonceReplayCache} {expires : ℚ} {key : Text × Text} (now : ℚ)
    (h : seen.get? key = some expires) :
    expires ≤ now ∨ (seen.evict now).get? key = some expires := by
  by_cases hnow : expires ≤ now
  · exact .inl hnow
  · refine .inr ?_
    rw [get?_evict, h, Option.filter_some, if_pos (by simpa using hnow)]

section Deliveries

variable {rt : Runtime} {v : Verifier} {seen : NonceReplayCache} {input : Input} {current : ℤ}

theorem verify_cases :
    (∃ e, v.check rt input current = .error e ∧ v.verify rt seen input current = (.error e, seen)) ∨
    (∃ message, v.verify rt seen input current =
      (.error (.envelopeError message), seen.evict (rt.timestamp current))) ∨
    ∃ c, v.check rt input current = .ok c ∧
      (seen.evict (rt.timestamp current)).get? c.key = none ∧
      v.verify rt seen input current =
        (.ok c, (seen.evict (rt.timestamp current)).set c.key (rt.timestamp c.expiresAt)) := by
  unfold Verifier.verify
  cases hcheck : v.check rt input current with
  | error e => exact .inl ⟨e, rfl, rfl⟩
  | ok c =>
    refine .inr ?_
    dsimp only
    unfold NonceReplayCache.checkAndRecord
    dsimp only
    split_ifs with hseen
    · exact .inl ⟨_, rfl⟩
    · exact .inr ⟨c, rfl, Option.not_isSome_iff_eq_none.mp hseen, rfl⟩

end Deliveries

/-! ## The invariant -/

/-- What was accepted is in the cache, until the clock has read its expiry. -/
def Kept (rt : Runtime) (s : VerifierState) : Prop :=
  ∀ (i : ℕ) (a : Delivery) (c : VerifiedCommand), s.deliveries[i]? = some a → a.result = .ok c →
    (∃ (k : ℕ) (d : Delivery), i < k ∧ s.deliveries[k]? = some d ∧
      rt.timestamp c.expiresAt ≤ rt.timestamp d.current) ∨
    s.seen.get? c.key = some (rt.timestamp c.expiresAt)

structure VerifierInv (rt : Runtime) (v : Verifier) (s : VerifierState) : Prop where
  law : VerifierLaw rt v s
  kept : Kept rt s

theorem VerifierInv.init (rt : Runtime) (v : Verifier) (seen : NonceReplayCache) :
    VerifierInv rt v { seen } where
  law := ⟨fun _ h => (nomatch h), fun _ _ _ _ _ _ _ h => (nomatch h), fun _ h => (nomatch h)⟩
  kept _ _ _ h := nomatch h

section Steps

variable {rt : Runtime} {v : Verifier} {s : VerifierState} {input : Input} {current : ℤ}

theorem getElem?_concat {α : Type} {l : List α} {x y : α} {i : ℕ} :
    (l ++ [x])[i]? = some y ↔ l[i]? = some y ∨ i = l.length ∧ y = x := by
  rcases Nat.lt_trichotomy i l.length with hlt | rfl | hgt
  · rw [List.getElem?_append_left hlt]
    exact ⟨.inl, fun h => h.resolve_right fun h => absurd h.1 (Nat.ne_of_lt hlt)⟩
  · rw [List.getElem?_concat_length, List.getElem?_eq_none (Nat.le_refl _)]
    simp [eq_comm]
  · rw [List.getElem?_eq_none (by rw [List.length_append]; exact hgt), List.getElem?_eq_none (Nat.le_of_lt hgt)]
    simp [Nat.ne_of_gt hgt]

/-- A delivery that keeps or outlives every expiry in the cache extends the invariant. -/
theorem VerifierInv.append {d : Delivery} {seen : NonceReplayCache} (hinv : VerifierInv rt v s)
    (hauthentic : ∀ c, d.result = .ok c → Authentic rt v d.input d.current c)
    (hrefused : ∀ e, d.result = .error e → (∀ key ∈ d.after.keys, key ∈ d.before.keys) ∧
      (Declared rt d.input → e.IsEnvelopeError))
    (hkept : ∀ key expires, s.seen.get? key = some expires →
      expires ≤ rt.timestamp d.current ∨ seen.get? key = some expires)
    (hnew : ∀ c, d.result = .ok c → seen.get? c.key = some (rt.timestamp c.expiresAt))
    (honce : ∀ c expires, d.result = .ok c → s.seen.get? c.key = some expires →
      expires ≤ rt.timestamp d.current) :
    VerifierInv rt v ⟨seen, s.deliveries ++ [d]⟩ := by
  refine ⟨⟨fun d' hd' => ?_, ?_, fun d' hd' => ?_⟩, ?_⟩
  · rcases mem_concat hd' with hd' | hd'
    · exact hinv.law.authentic d' hd'
    · rw [hd']
      exact hauthentic
  · intro i j a b c c' hij ha hb hc hc' hkey
    rcases getElem?_concat.mp ha with hold | ⟨rfl, rfl⟩
    case inr =>
      have hj : j < (s.deliveries ++ [a]).length := (List.getElem?_eq_some_iff.mp hb).1
      rw [List.length_append, List.length_singleton] at hj
      omega
    rcases getElem?_concat.mp hb with hb | ⟨rfl, rfl⟩
    · obtain ⟨k, d', hik, hkj, hd', hread⟩ := hinv.law.once i j a b c c' hij hold hb hc hc' hkey
      exact ⟨k, d', hik, hkj, getElem?_concat.mpr (.inl hd'), hread⟩
    · rcases hinv.kept i a c hold hc with ⟨k, d', hik, hd', hread⟩ | hseen
      · have hk : k < s.deliveries.length := (List.getElem?_eq_some_iff.mp hd').1
        exact ⟨k, d', hik, Nat.le_of_lt hk, getElem?_concat.mpr (.inl hd'), hread⟩
      · rw [hkey] at hseen
        exact ⟨_, b, hij, Nat.le_refl _, getElem?_concat.mpr (.inr ⟨rfl, rfl⟩),
          honce c' _ hc' hseen⟩
  · rcases mem_concat hd' with hd' | hd'
    · exact hinv.law.refused d' hd'
    · rw [hd']
      exact hrefused
  · intro i a c ha hc
    rcases getElem?_concat.mp ha with ha | ⟨rfl, rfl⟩
    · have hi : i < s.deliveries.length := (List.getElem?_eq_some_iff.mp ha).1
      rcases hinv.kept i a c ha hc with ⟨k, d', hik, hd', hread⟩ | hseen
      · exact .inl ⟨k, d', hik, getElem?_concat.mpr (.inl hd'), hread⟩
      · rcases hkept _ _ hseen with hread | hseen
        · exact .inl ⟨_, d, hi, getElem?_concat.mpr (.inr ⟨rfl, rfl⟩), hread⟩
        · exact .inr hseen
    · exact .inr (hnew c hc)

theorem VerifierInv.deliver (hinv : VerifierInv rt v s) :
    VerifierInv rt v (deliver rt v s input current) := by
  unfold Remote.deliver
  obtain ⟨e, hcheck, hverify⟩ | ⟨message, hverify⟩ | ⟨c, hcheck, hnone, hverify⟩ :=
    @verify_cases rt v s.seen input current
  · rw [hverify]
    refine hinv.append (fun _ h => nomatch h) ?_ (fun _ _ h => .inr h) (fun _ h => nomatch h)
      (fun _ _ h => nomatch h)
    rintro _ ⟨rfl⟩
    exact ⟨fun _ h => h, fun hinput => check_fails hinput _ hcheck⟩
  · rw [hverify]
    refine hinv.append (fun _ h => nomatch h) ?_ (fun _ _ => evict_or _) (fun _ h => nomatch h)
      (fun _ _ h => nomatch h)
    rintro _ ⟨rfl⟩
    exact ⟨fun _ => keys_evict, fun _ => isEnvelopeError⟩
  · rw [hverify]
    have honce : ∀ expires, s.seen.get? c.key = some expires →
        expires ≤ rt.timestamp current := by
      intro expires hexpires
      rcases evict_or (rt.timestamp current) hexpires with hread | hseen
      · exact hread
      · nomatch hnone.symm.trans hseen
    refine hinv.append ?_ (fun _ h => nomatch h) (fun key expires hexpires => ?_) ?_ ?_
    · rintro _ ⟨rfl⟩
      exact authentic_of_check hcheck
    · by_cases hkey : c.key = key
      · subst hkey
        exact .inl (honce expires hexpires)
      · rw [Dict.get?_set_of_ne _ hkey]
        exact evict_or _ hexpires
    · rintro _ ⟨rfl⟩
      exact Dict.get?_set_self _ _ _
    · rintro _ expires ⟨rfl⟩
      exact honce expires

end Steps

/-- What is accepted is authentic, in its window, and once until its expiry; refusals consume no
nonce. -/
theorem verifierLaw (rt : Runtime) (v : Verifier) (seen : NonceReplayCache)
    (ls : List (Input × ℤ)) (s : VerifierState) (hrun : (system rt v).run { seen } ls = some s) :
    VerifierLaw rt v s :=
  have hinv : VerifierInv rt v s := (system rt v).inv_of_run
    (fun _ _ _ hinv h => Option.some.inj h ▸ hinv.deliver) (.init rt v seen) hrun
  hinv.law

/-! ## Runs -/

/-- The midnight that starts the year 2026. -/
def newYear : ℤ := 739616 * 86400 * 1000000

def minutes (n : ℤ) : ℤ := n * 60 * 1000000

/-- An envelope of ten minutes. -/
def ping (nonce issuedAt expiresAt signature : String) : Input :=
  .envelope
    { workspaceId := text "1001"
      principal := ⟨text "user", text "u-1"⟩
      command := [(text "type", .str (text "ping"))]
      nonce := text nonce
      issuedAt := text issuedAt
      expiresAt := text expiresAt
      signature := .str (text signature) }

def firstDigest : String := "d1a0917bc78814aecac4b4549c5ca9fe89a1ecbe13e0e7af064d63197a544aa2"

def secondDigest : String := "d78b4c7ec37f0c79b3d9dd666a85f4a1bd9b89720780d78fa15594b4461f2e34"

def first : Input := ping "n-1" "2026-01-01T00:00:00Z" "2026-01-01T00:10:00Z" firstDigest

def second : Input := ping "n-2" "2026-01-01T00:10:00Z" "2026-01-01T00:20:00Z" secondDigest

/-- What the parameters are for these envelopes. -/
def python : Runtime where
  hmacHex _ message := text (if text "n-1" <:+: message then firstDigest else secondDigest)
  fromIsoFormat value :=
    if value = text "2026-01-01T00:00:00Z" then some ⟨newYear, some 0⟩
    else if value = text "2026-01-01T00:10:00Z" then some ⟨newYear + minutes 10, some 0⟩
    else if value = text "2026-01-01T00:20:00Z" then some ⟨newYear + minutes 20, some 0⟩
    else none
  totalSeconds micros := (micros : ℚ) / 1000000
  repr _ := "..."

def relay : Verifier := { signingKey := text "relay-key", signingKey_ne_nil := by decide }

/-- A replay is refused, and the next command accepted. -/
def replayed : List (Input × ℤ) :=
  [(first, newYear), (first, newYear + minutes 5), (second, newYear + minutes 10)]

theorem verifierLaw_replayed :
    ∃ s, (system python relay).run {} replayed = some s ∧
      s.deliveries.map (·.result.toOption.isSome) = [true, false, true] ∧
      VerifierLaw python relay s :=
  ⟨_, rfl, by decide +kernel, verifierLaw python relay ∅ replayed _ rfl⟩

/-- The clock was ten minutes ahead, and the first envelope comes again. -/
def clockTurnedBack : List (Input × ℤ) :=
  [(first, newYear), (second, newYear + minutes 10), (first, newYear + minutes 1)]

theorem not_strictLaw_clockTurnedBack :
    ¬ ∀ (rt : Runtime) (v : Verifier) (seen : NonceReplayCache) (ls : List (Input × ℤ))
      (s : VerifierState), (system rt v).run { seen } ls = some s → StrictLaw rt v s := by
  intro hlaw
  have hkeys : ¬ (acceptedKeys (((system python relay).run {} clockTurnedBack).get rfl)).Nodup := by
    decide +kernel
  exact hkeys (hlaw python relay ∅ clockTurnedBack _ (Option.some_get rfl).symm).once

end JavisSaas.Agent.Remote
