import Mathlib.Data.List.TakeWhile
import Mathlib.Data.Rat.Floor
import JavisSaas.Company.Finance.CasNormalizer

/-!
# Decimal amounts

What `services/company/finance-legal/services/money.ts` formats and parses, with any number of
decimals, and the amounts that `cas-normalizer.ts` reads.

* `moneyLaw_of_signed`: what a money is formatted as is parsed to it; a normalised amount is the
  decimal amount in minor units, cut, and its direction is the stated one or has its sign.
* `not_statedMoneyLaw_cut`: an amount of dongs with decimals is not rejected.
-/

namespace JavisSaas.Company.Finance

open JavisSaas.Lib

/-! ## The laws -/

/-- The number that a decimal text denotes: a sign or none, digits, and a fraction or none. -/
def decimalAmount? (cs : List Char) : Option ℚ :=
  let abs := withoutSign cs
  let whole := abs.takeWhile (· ≠ '.')
  let rest := abs.dropWhile (· ≠ '.')
  if isDigits whole && (rest.isEmpty || isDigits rest.tail) then
    let magnitude : ℚ := digitsValue (whole ++ rest.tail) / 10 ^ rest.tail.length
    some (if cs.head? = some '-' then -magnitude else magnitude)
  else none

/-- The number has the sign of the decimal. -/
def JsNumber.Signed (n : JsNumber) (v : ℚ) : Prop := (0 < n.sign → 0 < v) ∧ (n.sign < 0 → v < 0)

/-- `Number(s)` of a decimal text has its sign, unless it is zero or not finite. -/
def JsRuntime.ReadsSigns (R : JsRuntime) : Prop :=
  ∀ s v, decimalAmount? (trim s) = some v → (R.number s).finite → (R.number s).Signed v

/-- A number in a payload has the sign of its text. -/
def NumbersSigned (raw : JsonObject) : Prop :=
  ∀ n v, raw.get? "amount" = some (.number n) → decimalAmount? (trim n.text) = some v → n.Signed v

/-- The direction that the provider states. -/
def statedDirection (raw : JsonObject) : Option Direction :=
  if raw.get? "direction" = some (.string "IN") then some .incoming
  else if raw.get? "direction" = some (.string "OUT") then some .outgoing
  else none

/-- The stated direction, or else the sign of the amount, which is then not zero. -/
def DirectionAgrees (raw : JsonObject) (v : ℚ) (direction : Direction) : Prop :=
  match statedDirection raw with
  | some stated => direction = stated
  | none => match direction with
    | .incoming => 0 < v
    | .outgoing => v < 0

/-- What is formatted is parsed again; a normalised amount is the decimal amount, cut. -/
structure MoneyLaw (R : JsRuntime) : Prop where
  roundTrip : ∀ (money : Money) (customDecimals : Option ℕ),
    parseDecimalToMoney R.upper (formatMoneyToDecimal R.upper money customDecimals) money.currency customDecimals =
      .ok { minor := money.minor, currency := R.upper.upper money.currency }
  normalised : ∀ raw connectionId workspaceId t amount v, NumbersSigned raw →
    normalizeCasTransaction R (.object raw) connectionId workspaceId = .ok t →
    raw.get? "amount" = some amount → decimalAmount? (trim amount.text) = some v →
      t.content.amountMinor = ⌊|v| * 10 ^ currencyDecimals (R.upper.upper t.content.currency)⌋ ∧
        0 ≤ t.content.amountMinor ∧ DirectionAgrees raw v t.content.direction

/-- The same money comes back, and a normalised amount is exactly the decimal amount, and
    positive. -/
structure StatedMoneyLaw (R : JsRuntime) : Prop where
  roundTrip : ∀ (money : Money) (customDecimals : Option ℕ),
    parseDecimalToMoney R.upper (formatMoneyToDecimal R.upper money customDecimals) money.currency customDecimals =
      .ok money
  normalised : ∀ raw connectionId workspaceId t, NumbersSigned raw →
    normalizeCasTransaction R (.object raw) connectionId workspaceId = .ok t →
    ∃ amount v, raw.get? "amount" = some amount ∧ decimalAmount? (trim amount.text) = some v ∧
      (t.content.amountMinor : ℚ) = |v| * 10 ^ currencyDecimals (R.upper.upper t.content.currency) ∧
        0 < t.content.amountMinor ∧ DirectionAgrees raw v t.content.direction

/-! ## Numerals -/

section Numerals

variable {cs whole fraction : List Char} {decimals : ℕ}

theorem isDigits_iff : isDigits cs = true ↔ cs ≠ [] ∧ ∀ c ∈ cs, c.isDigit := by
  rw [isDigits, Bool.and_eq_true, List.all_eq_true, Bool.not_eq_true', List.isEmpty_eq_false_iff]

theorem digit_ne_dot {c : Char} (h : c.isDigit) : c ≠ '.' := by
  rintro rfl
  cases h

theorem digit_ne_minus {c : Char} (h : c.isDigit) : c ≠ '-' := by
  rintro rfl
  cases h

theorem takeWhile_dot (hwhole : ∀ c ∈ whole, c.isDigit) (rest : List Char) :
    (whole ++ '.' :: rest).takeWhile (· ≠ '.') = whole ∧
      (whole ++ '.' :: rest).dropWhile (· ≠ '.') = '.' :: rest := by
  have hdigits : ∀ c ∈ whole, (decide (c ≠ '.')) = true := fun c hc =>
    decide_eq_true (digit_ne_dot (hwhole c hc))
  constructor
  · rw [List.takeWhile_append_of_pos hdigits]
    simp
  · rw [List.dropWhile_append_of_pos hdigits]
    simp

theorem takeWhile_digits (hwhole : ∀ c ∈ whole, c.isDigit) :
    whole.takeWhile (· ≠ '.') = whole ∧ whole.dropWhile (· ≠ '.') = [] := by
  have hdigits : ∀ c ∈ whole, (decide (c ≠ '.')) = true := fun c hc =>
    decide_eq_true (digit_ne_dot (hwhole c hc))
  exact ⟨List.takeWhile_eq_self_iff.mpr hdigits, List.dropWhile_eq_nil_iff.mpr hdigits⟩

theorem digitsValue_append (cs ds : List Char) :
    digitsValue (cs ++ ds) = digitsValue cs * 10 ^ ds.length + digitsValue ds := by
  show Nat.ofDigitChars 10 (cs ++ ds) 0 = Nat.ofDigitChars 10 cs 0 * _ + Nat.ofDigitChars 10 ds 0
  rw [Nat.ofDigitChars_append, Nat.ofDigitChars_eq_ofDigitChars_zero, Nat.mul_comm]

theorem digitsValue_zeros (n : ℕ) : digitsValue (List.replicate n '0') = 0 := by
  show Nat.ofDigitChars 10 (List.replicate n '0') 0 = 0
  rw [Nat.ofDigitChars_replicate_zero, Nat.mul_zero]

/-- The decimals that are cut off are those that the division drops. -/
theorem digitsValue_padFraction (whole : List Char) (hfraction : ∀ c ∈ fraction, c.isDigit) :
    digitsValue (whole ++ padFraction decimals fraction) =
      digitsValue (whole ++ fraction) * 10 ^ decimals / 10 ^ fraction.length := by
  rcases Nat.le_total fraction.length decimals with hle | hlt
  · -- zeros are added, and nothing is cut
    have hpad : padFraction decimals fraction =
        fraction ++ List.replicate (decimals - fraction.length) '0' := by
      rw [padFraction, List.take_of_length_le]
      rw [List.length_append, List.length_replicate]
      omega
    have hpow : 10 ^ decimals = 10 ^ (decimals - fraction.length) * 10 ^ fraction.length := by
      rw [← Nat.pow_add, Nat.sub_add_cancel hle]
    rw [hpad, ← List.append_assoc, digitsValue_append, digitsValue_zeros, List.length_replicate,
      Nat.add_zero, hpow, ← Nat.mul_assoc, Nat.mul_div_cancel _ (Nat.pow_pos (by decide))]
  · -- the fraction is cut after its first decimals
    have hpad : padFraction decimals fraction = fraction.take decimals := by
      rw [padFraction, List.take_append_of_le_length hlt]
    have hsplit : digitsValue (whole ++ fraction) =
        digitsValue (whole ++ fraction.take decimals) * 10 ^ (fraction.length - decimals) +
          digitsValue (fraction.drop decimals) := by
      rw [← List.length_drop, ← digitsValue_append, List.append_assoc, List.take_append_drop]
    have hrest : digitsValue (fraction.drop decimals) < 10 ^ (fraction.length - decimals) := by
      rw [← List.length_drop]
      exact ofDigitChars_lt fun c hc => hfraction c (List.mem_of_mem_drop hc)
    have hpow : 10 ^ fraction.length = 10 ^ (fraction.length - decimals) * 10 ^ decimals := by
      rw [← Nat.pow_add, Nat.sub_add_cancel hlt]
    rw [hpad, hpow, Nat.mul_div_mul_right _ _ (Nat.pow_pos (by decide)), hsplit, Nat.mul_comm,
      Nat.mul_add_div (Nat.pow_pos (by decide)), Nat.div_eq_of_lt hrest, Nat.add_zero]

/-- The characters are digits, and a point with the digits of a fraction, if there is one. -/
structure Numeral (cs whole fraction : List Char) : Prop where
  digits : isDigits whole = true
  split : (cs = whole ∧ fraction = []) ∨ (cs = whole ++ '.' :: fraction ∧ isDigits fraction = true)

namespace Numeral

theorem fraction_digits (h : Numeral cs whole fraction) : ∀ c ∈ fraction, c.isDigit := by
  rcases h.split with ⟨-, rfl⟩ | ⟨-, hfraction⟩
  · exact fun c hc => absurd hc List.not_mem_nil
  · exact (isDigits_iff.mp hfraction).2

theorem parts (h : Numeral cs whole fraction) : cs.takeWhile (· ≠ '.') = whole ∧
    (cs.dropWhile (· ≠ '.')).tail = fraction ∧
      ((cs.dropWhile (· ≠ '.')).isEmpty || isDigits fraction) = true := by
  have hwhole := (isDigits_iff.mp h.digits).2
  rcases h.split with ⟨rfl, rfl⟩ | ⟨rfl, hfraction⟩
  · obtain ⟨htake, hdrop⟩ := takeWhile_digits hwhole
    rw [htake, hdrop]
    exact ⟨rfl, rfl, rfl⟩
  · obtain ⟨htake, hdrop⟩ := takeWhile_dot hwhole fraction
    rw [htake, hdrop]
    exact ⟨rfl, rfl, hfraction⟩

theorem of_parts (hwhole : isDigits (cs.takeWhile (· ≠ '.')) = true)
    (hrest : ((cs.dropWhile (· ≠ '.')).isEmpty || isDigits (cs.dropWhile (· ≠ '.')).tail) = true) :
    Numeral cs (cs.takeWhile (· ≠ '.')) (cs.dropWhile (· ≠ '.')).tail := by
  have happend := List.takeWhile_append_dropWhile (p := (· ≠ '.')) (l := cs)
  refine ⟨hwhole, ?_⟩
  cases hdrop : cs.dropWhile (· ≠ '.') with
  | nil =>
    rw [hdrop, List.append_nil] at happend
    exact .inl ⟨happend.symm, rfl⟩
  | cons c =>
    rw [hdrop] at happend hrest
    have hdot : c = '.' := by
      have hhead := List.head?_dropWhile_not (p := (· ≠ '.')) cs
      rw [hdrop] at hhead
      simpa using hhead
    subst hdot
    exact .inr ⟨happend.symm, hrest⟩

theorem not_space (h : Numeral cs whole fraction) : ∀ c ∈ cs, isJsSpace c = false := by
  have hwhole := (isDigits_iff.mp h.digits).2
  intro c hc
  rcases h.split with ⟨rfl, -⟩ | ⟨rfl, -⟩
  · exact isJsSpace_of_isDigit (hwhole c hc)
  · rcases List.mem_append.mp hc with hc | hc
    · exact isJsSpace_of_isDigit (hwhole c hc)
    · rcases List.mem_cons.mp hc with rfl | hc
      · decide
      · exact isJsSpace_of_isDigit (h.fraction_digits c hc)

theorem head? (h : Numeral cs whole fraction) : ∃ c, cs.head? = some c ∧ c.isDigit := by
  obtain ⟨hne, hdigits⟩ := isDigits_iff.mp h.digits
  cases whole with
  | nil => exact absurd rfl hne
  | cons c =>
    refine ⟨c, ?_, hdigits c List.mem_cons_self⟩
    rcases h.split with ⟨rfl, -⟩ | ⟨rfl, -⟩ <;> rfl

end Numeral

/-- The minus sign of a negative amount. -/
def minusSign (negative : Bool) : List Char := if negative then ['-'] else []

theorem parseDecimal_numeral (U : UpperCase) (currency : String) (customDecimals : Option ℕ)
    (h : Numeral cs whole fraction) (negative : Bool) :
    parseDecimalToMoney U (String.ofList (minusSign negative ++ cs)) currency customDecimals = .ok
      { minor := (if negative then -1 else 1) * (digitsValue
          (whole ++ padFraction (decimalsOf (U.upper currency) customDecimals) fraction) : ℤ)
        currency := U.upper currency } := by
  obtain ⟨htake, hdrop, hrest⟩ := h.parts
  obtain ⟨c, hhead, hc⟩ := h.head?
  have htrim : trim (String.ofList (minusSign negative ++ cs)) = minusSign negative ++ cs := by
    rw [trim_of_forall, String.toList_ofList]
    rw [String.toList_ofList]
    intro d hd
    rcases List.mem_append.mp hd with hd | hd
    · cases negative with
      | false => cases hd
      | true =>
        obtain rfl := List.mem_singleton.mp hd
        decide
    · exact h.not_space d hd
  have hminus : (minusSign negative ++ cs).head? = some '-' ↔ negative = true := by
    cases negative with
    | false =>
      show cs.head? = some '-' ↔ _
      rw [hhead, Option.some.injEq]
      exact ⟨fun heq => absurd heq (digit_ne_minus hc), fun hfalse => by cases hfalse⟩
    | true => exact ⟨fun _ => rfl, fun _ => rfl⟩
  have habs : (if (minusSign negative ++ cs).head? = some '-' then (minusSign negative ++ cs).tail
      else minusSign negative ++ cs) = cs := by
    simp only [hminus]
    cases negative with
    | false | true => rfl
  rw [parseDecimalToMoney]
  dsimp only
  rw [htrim, habs, htake, hdrop, hrest, h.digits]
  simp only [hminus]
  cases negative with
  | false => rw [if_neg Bool.false_ne_true, if_neg Bool.false_ne_true, Int.one_mul]; rfl
  | true => rw [if_pos rfl, if_pos rfl, Int.neg_mul, Int.one_mul]; rfl

/-- The text of a money is its sign and a numeral of its minor units. -/
theorem exists_numeral_formatMoney (U : UpperCase) (money : Money) (customDecimals : Option ℕ) :
    ∃ cs whole fraction, formatMoneyToDecimal U money customDecimals =
        String.ofList (minusSign (money.minor < 0) ++ cs) ∧ Numeral cs whole fraction ∧
      fraction.length = decimalsOf (U.upper money.currency) customDecimals ∧
      digitsValue (whole ++ fraction) = money.minor.natAbs := by
  have hsign : ∀ cs : List Char, (if money.minor < 0 then "-" else "") ++ String.ofList cs =
      String.ofList (minusSign (money.minor < 0) ++ cs) := by
    intro cs
    rw [String.ofList_append]
    congr 1
    by_cases hneg : money.minor < 0
    · rw [if_pos hneg, minusSign, decide_eq_true hneg]
      rfl
    · rw [if_neg hneg, minusSign, decide_eq_false hneg]
      rfl
  have hchars : (toString money.minor.natAbs).toList = Nat.toDigits 10 money.minor.natAbs :=
    Nat.toList_repr
  have hdigits : ∀ c ∈ Nat.toDigits 10 money.minor.natAbs, c.isDigit := fun c hc =>
    Nat.isDigit_of_mem_toDigits (by decide) (by decide) hc
  rw [formatMoneyToDecimal]
  dsimp only
  rw [hchars]
  generalize decimalsOf (U.upper money.currency) customDecimals = decimals
  by_cases hzero : decimals = 0
  · rw [if_pos hzero]
    refine ⟨_, _, [], hsign _, ⟨isDigits_iff.mpr ⟨Nat.toDigits_ne_nil, hdigits⟩, .inl ⟨rfl, rfl⟩⟩,
      hzero.symm, ?_⟩
    rw [List.append_nil]
    exact Nat.ofDigitChars_ten_toDigits
  · rw [if_neg hzero]
    -- The digits are filled up to one more than the decimals, so that both parts have some.
    have hpadded : ∀ c ∈ padZeros (decimals + 1) (Nat.toDigits 10 money.minor.natAbs), c.isDigit :=
      fun c hc => isDigit_of_mem_padZeros hc
    have hlength : decimals + 1 ≤
        (padZeros (decimals + 1) (Nat.toDigits 10 money.minor.natAbs)).length := by
      rw [padZeros, List.length_append, List.length_replicate]
      omega
    have hvalue : digitsValue (padZeros (decimals + 1) (Nat.toDigits 10 money.minor.natAbs)) =
        money.minor.natAbs := by
      show Nat.ofDigitChars 10 _ 0 = _
      rw [ofDigitChars_padZeros, Nat.ofDigitChars_ten_toDigits]
    generalize padZeros (decimals + 1) (Nat.toDigits 10 money.minor.natAbs) = padded at *
    refine ⟨padded.take (padded.length - decimals) ++ '.' :: padded.drop (padded.length - decimals),
      padded.take (padded.length - decimals), padded.drop (padded.length - decimals), ?_,
      ⟨isDigits_iff.mpr ⟨?_, fun c hc => hpadded c (List.mem_of_mem_take hc)⟩,
        .inr ⟨rfl, isDigits_iff.mpr ⟨?_, fun c hc => hpadded c (List.mem_of_mem_drop hc)⟩⟩⟩, ?_, ?_⟩
    · have hpoint : ∀ cs, String.ofList ('.' :: cs) = "." ++ String.ofList cs := by
        intro cs
        show String.ofList (['.'] ++ cs) = _
        rw [String.ofList_append]
      rw [← hsign, String.append_assoc, String.append_assoc, String.ofList_append, hpoint]
    · intro hnil
      have hzero' := congrArg List.length hnil
      rw [List.length_take, List.length_nil] at hzero'
      omega
    · intro hnil
      have hzero' := congrArg List.length hnil
      rw [List.length_drop, List.length_nil] at hzero'
      omega
    · rw [List.length_drop]
      omega
    · rw [List.take_append_drop, hvalue]

theorem parseDecimal_formatMoney (U : UpperCase) (money : Money) (customDecimals : Option ℕ) :
    parseDecimalToMoney U (formatMoneyToDecimal U money customDecimals) money.currency customDecimals =
      .ok { minor := money.minor, currency := U.upper money.currency } := by
  obtain ⟨cs, whole, fraction, htext, hnumeral, hlength, hvalue⟩ :=
    exists_numeral_formatMoney U money customDecimals
  have hpad : padFraction (decimalsOf (U.upper money.currency) customDecimals) fraction =
      fraction := by
    rw [← hlength, padFraction, Nat.sub_self, List.replicate_zero, List.append_nil,
      List.take_length]
  rw [htext, parseDecimal_numeral U _ _ hnumeral, hpad, hvalue]
  congr 2
  by_cases hneg : money.minor < 0
  · rw [decide_eq_true hneg, if_pos rfl]
    omega
  · rw [decide_eq_false hneg, if_neg Bool.false_ne_true]
    omega

/-! ## Normalised amounts -/

theorem numeral_of_decimalAmount {v : ℚ} (h : decimalAmount? cs = some v) :
    ∃ whole fraction, Numeral (withoutSign cs) whole fraction ∧
      |v| = digitsValue (whole ++ fraction) / 10 ^ fraction.length := by
  unfold decimalAmount? at h
  dsimp only at h
  split_ifs at h with hparts hminus
  · rw [Bool.and_eq_true] at hparts
    refine ⟨_, _, .of_parts hparts.1 hparts.2, ?_⟩
    rw [← Option.some.inj h, abs_neg]
    exact abs_of_nonneg (by positivity)
  · rw [Bool.and_eq_true] at hparts
    refine ⟨_, _, .of_parts hparts.1 hparts.2, ?_⟩
    rw [← Option.some.inj h]
    exact abs_of_nonneg (by positivity)

theorem amountMinorOf_eq {R : JsRuntime} {rawAmount : JsonValue} {v : ℚ} (currency : String)
    (h : decimalAmount? (trim rawAmount.text) = some v) :
    amountMinorOf R rawAmount currency =
      .ok ⌊|v| * 10 ^ currencyDecimals (R.upper.upper currency)⌋ := by
  obtain ⟨whole, fraction, hnumeral, hvalue⟩ := numeral_of_decimalAmount h
  have hparse := parseDecimal_numeral R.upper currency none hnumeral false
  rw [if_neg Bool.false_ne_true, Int.one_mul] at hparse
  have hminor : amountMinorOf R rawAmount currency = .ok
      (digitsValue (whole ++ padFraction (decimalsOf (R.upper.upper currency) none) fraction) :
        ℤ) := by
    unfold amountMinorOf
    split
    · next money hmoney =>
      rw [Except.ok.inj (hmoney.symm.trans hparse)]
    · next e he => cases he.symm.trans hparse
  refine hminor.trans (congrArg Except.ok ?_)
  rw [digitsValue_padFraction whole hnumeral.fraction_digits, hvalue, div_mul_eq_mul_div]
  have hfloor := Rat.floor_natCast_div_natCast
    (digitsValue (whole ++ fraction) * 10 ^ currencyDecimals (R.upper.upper currency))
    (10 ^ fraction.length)
  push_cast at hfloor ⊢
  exact hfloor.symm

end Numerals

section Law

variable {R : JsRuntime} {raw : JsonObject} {amount : JsonValue} {v : ℚ}

theorem amountOf_eq_ok {rawAmount : JsonValue} (h : amountOf raw = .ok rawAmount)
    (hamount : raw.get? "amount" = some amount) : rawAmount = amount := by
  unfold amountOf at h
  split at h
  · next n hn =>
    split_ifs at h
    · exact (Except.ok.inj h).symm.trans (Option.some.inj (hn.symm.trans hamount))
    · cases h
  · next s hs =>
    split_ifs at h
    · exact (Except.ok.inj h).symm.trans (Option.some.inj (hs.symm.trans hamount))
    · cases h
  · cases h

theorem directionAgrees_of_directionOf (hR : R.ReadsSigns) (hraw : NumbersSigned raw)
    {direction : Direction} (hamount : raw.get? "amount" = some amount)
    (hv : decimalAmount? (trim amount.text) = some v)
    (h : directionOf R raw amount = .ok direction) : DirectionAgrees raw v direction := by
  obtain ⟨n, e, hsigned, hdirection⟩ : ∃ (n : JsNumber) (e : NormalizeReject),
      (n.finite → n.Signed v) ∧ directionOf R raw amount =
        if raw.get? "direction" = some (.string "IN") then .ok .incoming
        else if raw.get? "direction" = some (.string "OUT") then .ok .outgoing
        else if n.finite ∧ n.sign ≠ 0 then .ok (if 0 < n.sign then .incoming else .outgoing)
        else .error e := by
    cases amount with
    | number n => exact ⟨n, _, fun _ => hraw n v hamount hv, rfl⟩
    | null | bool | string | nested => exact ⟨R.number _, _, hR _ v hv, rfl⟩
  rw [hdirection] at h
  unfold DirectionAgrees statedDirection
  split_ifs at h ⊢ with hin hout hsign hpos
  · exact (Except.ok.inj h).symm
  · exact (Except.ok.inj h).symm
  · cases h
    exact (hsigned hsign.1).1 hpos
  · cases h
    exact (hsigned hsign.1).2 (by omega)

/-- With a runtime whose numbers have the signs of their texts. -/
theorem moneyLaw_of_signed (R : JsRuntime) (hR : R.ReadsSigns) : MoneyLaw R where
  roundTrip := parseDecimal_formatMoney R.upper
  normalised := by
    intro raw connectionId workspaceId t amount v hraw h hamount hv
    obtain ⟨raw', hpayload, -, hcontent, -, -⟩ := normalizeCasTransaction_eq_ok h
    obtain rfl := RawPayload.object.inj hpayload
    obtain ⟨rawAmount, hraw', hcontent⟩ := bind_eq_ok.mp hcontent
    obtain ⟨direction, hdirection, hcontent⟩ := bind_eq_ok.mp hcontent
    obtain ⟨bookedAt, -, hcontent⟩ := bind_eq_ok.mp hcontent
    obtain ⟨amountMinor, hminor, hcontent⟩ := bind_eq_ok.mp hcontent
    obtain rfl := amountOf_eq_ok hraw' hamount
    have hminor' := Except.ok.inj (hminor.symm.trans (amountMinorOf_eq (currencyOf R raw) hv))
    rw [← pure_eq_ok.mp hcontent]
    refine ⟨hminor', ?_, directionAgrees_of_directionOf hR hraw hamount hv hdirection⟩
    show 0 ≤ amountMinor
    rw [hminor']
    exact Int.floor_nonneg.mpr (by positivity)

end Law

/-! ## An amount of dongs -/

/-- A runtime that reads decimal texts and one date, and upper-cases nothing. -/
def decimalRuntime : JsRuntime where
  upper := ⟨id, upper_id⟩
  number s := match decimalAmount? (trim s) with
    | some v => ⟨s, true, v.num⟩
    | none => ⟨s, false, 0⟩
  dateParse s := if s = "2026-08-29T10:00:00Z" then some 1787997600000 else none
  toISOString _ := "2026-08-29T10:00:00.000Z"
  sha256 := id

theorem readsSigns_decimalRuntime : decimalRuntime.ReadsSigns := by
  intro s v hv _
  have hnumber : decimalRuntime.number s = ⟨s, true, v.num⟩ := by
    show (match decimalAmount? (trim s) with
      | some v => (⟨s, true, v.num⟩ : JsNumber)
      | none => ⟨s, false, 0⟩) = _
    rw [hv]
  rw [hnumber]
  exact ⟨Rat.num_pos.mp, Rat.num_neg.mp⟩

theorem moneyLaw_of_signed_decimal : MoneyLaw decimalRuntime :=
  moneyLaw_of_signed decimalRuntime readsSigns_decimalRuntime

/-- A transfer of one and a half thousand dongs and three quarters of a dong. -/
def fractionalTransfer : JsonObject :=
  ((Dict.empty.set "tid" (.string "tid_1")).set "amount" (.string "1500.75")).set "when"
    (.string "2026-08-29T10:00:00Z")

/-- It is accepted as 1500 dongs. -/
theorem not_statedMoneyLaw_cut : ¬∀ R : JsRuntime, R.ReadsSigns → StatedMoneyLaw R := by
  intro h
  have hraw : NumbersSigned fractionalTransfer := by
    intro n v hn
    cases (show some (JsonValue.string "1500.75") = some (.number n) from hn)
  have hnormal : (normalizeCasTransaction decimalRuntime (.object fractionalTransfer) 1 1).map
      (fun t => (t.content.amountMinor, t.content.currency)) = .ok (1500, "VND") := by
    decide +kernel
  obtain ⟨t, ht, hcontent⟩ := map_eq_ok.mp hnormal
  obtain ⟨hminor, hcurrency⟩ := Prod.mk.inj hcontent
  obtain ⟨amount, v, hamount, hv, hexact, -, -⟩ :=
    (h decimalRuntime readsSigns_decimalRuntime).normalised fractionalTransfer 1 1 t hraw ht
  have hget : fractionalTransfer.get? "amount" = some (.string "1500.75") := by decide
  cases hget.symm.trans hamount
  have hvalue : decimalAmount? (trim "1500.75") = some (6003 / 4) := by decide +kernel
  cases hvalue.symm.trans hv
  have hdecimals : currencyDecimals (decimalRuntime.upper.upper "VND") = 0 := by decide
  rw [hminor, hcurrency, hdecimals] at hexact
  norm_num [abs_of_pos] at hexact

end JavisSaas.Company.Finance
