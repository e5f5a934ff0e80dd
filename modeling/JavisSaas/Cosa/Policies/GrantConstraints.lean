import JavisSaas.Company.Identity.AgentScope
import JavisSaas.Cosa.Policies.PolicyEngine

/-!
# The constraints of a grant in both languages

`AgentAuthorizationSnapshot.resolve` of the runtime, and the check of the constraints in
`evaluateAgentCapabilityAuthority`, on one grant and one payload.

* `contained_iff`: exactly when the check allows what the runtime allows.
* `not_contained_escaping`: an empty payload, a bare amount and an amount without minor units
  escape a maximum.
-/

namespace JavisSaas.Cosa.Policies

open JavisSaas.Lib
open JavisSaas.Company.Identity (JsValue JsError constraintRefusal ConstraintsHold AmountMember
  constraintRefusal_eq_none)

/-! ## JSON in both languages -/

/-- What Python and JavaScript make of the JSON values `D`. -/
structure JsonReading (D V W : Type) [PayloadValue V] [JsValue W] where
  /-- `null` is `None`. -/
  python : D → Option V
  javascript : D → W
  /-- The members of an object. -/
  members : D → Option (Dict String D)
  asDict_python : ∀ d, (python d).bind PayloadValue.asDict =
    (members d).map (·.mapValues fun _ => python)
  member_javascript : ∀ d, ∀ name ∈ ["minor", "currency"],
    JsValue.member (javascript d) name = (members d).bind fun m => (m.get? name).map javascript
  truthy_object : ∀ d, (members d).isSome → truthy (javascript d) = true
  bigInt_null : ∀ d, python d = none → ∃ e, JsValue.bigInt (javascript d) = .error e

/-- A grant, as the database holds it. -/
structure SharedGrant (D : Type) where
  capabilityId : String
  permissionKey : String
  constraints : Dict String D := ∅

variable {D V W : Type} [PayloadValue V] [JsValue W]

namespace JsonReading

variable (R : JsonReading D V W)

def pyDict (d : Dict String D) : PyDict V := d.mapValues fun _ => R.python

def jsObject (d : Dict String D) : Dict String W := d.mapValues fun _ => R.javascript

def authority (g : SharedGrant D) : AgentCapabilityAuthority V where
  capabilityId := g.capabilityId
  permissionKey := g.permissionKey
  constraints := R.pyDict g.constraints

/-- The check allows the call if the runtime does, by the first grant of the capability. -/
def Contained (grants : List (SharedGrant D)) (capabilityId : String) (payload : Dict String D) :
    Prop :=
  ∀ g, grants.find? (·.capabilityId = capabilityId) = some g →
    (AgentAuthorizationSnapshot.mk (grants.map R.authority)).resolve capabilityId
      (R.pyDict payload) = .ok (.granted (R.authority g)) →
    constraintRefusal (R.jsObject g.constraints) (R.jsObject payload) = .ok none

/-! ## The condition -/

/-- An amount that is not `null`. -/
def Amount (payload : Dict String D) (amount : D) : Prop :=
  payload.get? "amount" = some amount ∧ (R.python amount).isSome

/-- What Python compares with a maximum: the bare amount, or minor units that are not `null`. -/
def Units (amount units : D) : Prop :=
  R.members amount = none ∧ units = amount ∨
    ∃ m, R.members amount = some m ∧ m.get? "minor" = some units ∧ (R.python units).isSome

def PyWithin (units limit : D) : Prop :=
  ∃ m n, int (R.python units) = .ok m ∧ int (R.python limit) = .ok n ∧ m ≤ n

def JsWithin (units limit : D) : Prop :=
  ∃ m n, JsValue.bigInt (R.javascript units) = .ok m ∧
    JsValue.bigInt (R.javascript limit) = .ok n ∧ m ≤ n

/-- A payload with members has no amount, or one that is not within the maximum. -/
def OverLimit (limit : D) (payload : Dict String D) : Prop :=
  payload.items ≠ [] ∧ ∀ amount, R.Amount payload amount →
    ∃ units, R.Units amount units ∧ ¬R.PyWithin units limit

/-- The currency of an amount, or that it has none. -/
def pyCurrency (amount : Dict String D) : Option V := (amount.get? "currency").bind R.python

/-- The amount is an object in another currency. -/
def OtherCurrency (currency : D) (payload : Dict String D) : Prop :=
  ∃ amount m, payload.get? "amount" = some amount ∧ R.members amount = some m ∧
    eq (R.pyCurrency m) (R.python currency) = false

/-- An amount that is there has units; those that Python finds within the maximum are an object's,
and JavaScript finds them so too. -/
structure LimitRead (limit : D) (payload : Dict String D) : Prop where
  nonEmpty : payload.items ≠ []
  units : ∀ amount, R.Amount payload amount → ∃ units, R.Units amount units ∧
    (R.PyWithin units limit → (R.members amount).isSome ∧ R.JsWithin units limit)

/-- The amount is an object, and if Python finds its currency equal, JavaScript does too. -/
def CurrencyRead (currency : D) (payload : Dict String D) : Prop :=
  ∃ amount m, payload.get? "amount" = some amount ∧ R.members amount = some m ∧
    (eq (R.pyCurrency m) (R.python currency) = true → ∃ v, m.get? "currency" = some v ∧
      JsValue.strictEq (R.javascript v) (R.javascript currency))

/-- What each constraint is about is read in both, or the other one is broken. -/
structure Reads (constraints payload : Dict String D) : Prop where
  limit : ∀ limit, constraints.get? "maxAmountMinor" = some limit → R.LimitRead limit payload ∨
    ∃ c, constraints.get? "currency" = some c ∧ R.OtherCurrency c payload
  currency : ∀ c, constraints.get? "currency" = some c → R.CurrencyRead c payload ∨
    ∃ limit, constraints.get? "maxAmountMinor" = some limit ∧ R.OverLimit limit payload

/-! ## The runtime -/

variable {R} {constraints payload m : Dict String D} {amount limit units units' c d : D}

theorem get_pyDict (name : String) :
    get (R.pyDict payload) name = (payload.get? name).bind R.python := by
  rw [get, pyDict, Dict.get?_mapValues]
  cases payload.get? name <;> rfl

theorem has_pyDict (name : String) : has (R.pyDict payload) name = (payload.get? name).isSome := by
  rw [has, pyDict, Dict.get?_mapValues, Option.isSome_map]

theorem nonEmpty_pyDict : nonEmpty (R.pyDict payload) = true ↔ payload.items ≠ [] := by
  simp [nonEmpty, pyDict, Dict.mapValues]

theorem Units.unique (h : R.Units amount units) (h' : R.Units amount units') : units = units' := by
  rcases h with ⟨hbare, rfl⟩ | ⟨m, hm, hminor, -⟩ <;>
    rcases h' with ⟨hbare', rfl⟩ | ⟨m', hm', hminor', -⟩
  · rfl
  · nomatch hbare.symm.trans hm'
  · nomatch hbare'.symm.trans hm
  · obtain rfl := Option.some.inj (hm.symm.trans hm')
    exact Option.some.inj (hminor.symm.trans hminor')

theorem items_ne_nil (hamount : payload.get? "amount" = some amount) : payload.items ≠ [] := by
  intro hnil
  rw [Dict.get?, hnil] at hamount
  nomatch hamount

theorem overLimit_iff (hamount : R.Amount payload amount) (hunits : R.Units amount units) :
    R.OverLimit limit payload ↔ ¬R.PyWithin units limit := by
  constructor
  · rintro ⟨-, h⟩
    obtain ⟨units', hunits', hnot⟩ := h amount hamount
    exact hunits'.unique hunits ▸ hnot
  · refine fun hnot => ⟨items_ne_nil hamount.1, fun amount' h => ?_⟩
    obtain rfl := Option.some.inj (h.1.symm.trans hamount.1)
    exact ⟨units, hunits, hnot⟩

theorem read_units {v w : V} (hamount : R.python amount = some v) :
    (PayloadValue.asDict v).elim (some v) (get · "minor") = some w ↔
      ∃ units, R.Units amount units ∧ R.python units = some w := by
  have hdict := R.asDict_python amount
  rw [hamount, Option.bind_some] at hdict
  rw [hdict]
  cases hm : R.members amount with
  | none =>
    constructor
    · rintro h
      exact ⟨amount, .inl ⟨hm, rfl⟩, hamount.trans h⟩
    · rintro ⟨units, ⟨-, rfl⟩ | ⟨m, hm', -⟩, hw⟩
      · exact hamount.symm.trans hw
      · nomatch hm.symm.trans hm'
  | some m =>
    show get (R.pyDict m) "minor" = some w ↔ _
    rw [get_pyDict, Option.bind_eq_some_iff]
    constructor
    · rintro ⟨units, hminor, hw⟩
      exact ⟨units, .inr ⟨m, hm, hminor, hw ▸ rfl⟩, hw⟩
    · rintro ⟨units, ⟨hbare, -⟩ | ⟨m', hm', hminor, -⟩, hw⟩
      · nomatch hm.symm.trans hbare
      · obtain rfl := Option.some.inj (hm.symm.trans hm')
        exact ⟨units, hminor, hw⟩

theorem amountRefusal_pyDict : amountRefusal (R.pyDict constraints) (R.pyDict payload) = .ok none ↔
    ∀ limit, constraints.get? "maxAmountMinor" = some limit → ¬R.OverLimit limit payload := by
  unfold amountRefusal
  rw [has_pyDict, get_pyDict, get_pyDict]
  cases hlimit : constraints.get? "maxAmountMinor" with
  | none => simp
  | some limit =>
    by_cases hpayload : payload.items = []
    · rw [if_neg (by simp [nonEmpty_pyDict, hpayload])]
      exact iff_of_true rfl fun _ _ h => h.1 hpayload
    · rw [if_pos (by simp [nonEmpty_pyDict.mpr hpayload])]
      have hiff : (∀ l, some limit = some l → ¬R.OverLimit l payload) ↔
          ¬R.OverLimit limit payload := by simp
      rw [hiff]
      cases hv : (payload.get? "amount").bind R.python with
      | none =>
        refine iff_of_false nofun (not_not_intro ⟨hpayload, fun amount hamount => ?_⟩)
        rw [hamount.1, Option.bind_some] at hv
        rw [Amount, hv] at hamount
        nomatch hamount.2
      | some v =>
        obtain ⟨amount, hamount, hv⟩ := Option.bind_eq_some_iff.mp hv
        have hown : R.Amount payload amount := ⟨hamount, hv ▸ rfl⟩
        dsimp only
        cases hw : (PayloadValue.asDict v).elim (some v) (get · "minor") with
        | none =>
          refine iff_of_true rfl fun h => ?_
          obtain ⟨units, hunits, -⟩ := h.2 amount hown
          have hsome : (R.python units).isSome := by
            rcases hunits with ⟨-, rfl⟩ | ⟨_, -, -, hsome⟩
            · rw [hv]
              rfl
            · exact hsome
          obtain ⟨w, hw'⟩ := Option.isSome_iff_exists.mp hsome
          nomatch hw.symm.trans ((read_units hv).mpr ⟨units, hunits, hw'⟩)
        | some =>
          obtain ⟨units, hunits, hw'⟩ := (read_units hv).mp hw
          rw [overLimit_iff hown hunits, not_not]
          constructor
          · intro h
            obtain ⟨m, hm, h⟩ := bind_eq_ok.mp h
            obtain ⟨n, hn, h⟩ := bind_eq_ok.mp h
            refine ⟨m, n, hw' ▸ hm, hn, ?_⟩
            by_contra hlt
            rw [if_pos (by omega)] at h
            nomatch h
          · rintro ⟨m, n, hm, hn, hle⟩
            rw [hw'] at hm
            refine bind_eq_ok.mpr ⟨m, hm, bind_eq_ok.mpr ⟨n, hn, ?_⟩⟩
            rw [if_neg (by omega)]
            rfl

theorem currencyRefusal_pyDict : currencyRefusal (R.pyDict constraints) (R.pyDict payload) = none ↔
    ∀ c, constraints.get? "currency" = some c → ¬R.OtherCurrency c payload := by
  unfold currencyRefusal
  rw [has_pyDict, get_pyDict, get_pyDict]
  cases hc : constraints.get? "currency" with
  | none => simp
  | some c =>
    have hiff : (∀ c', some c = some c' → ¬R.OtherCurrency c' payload) ↔
        ¬R.OtherCurrency c payload := by simp
    rw [hiff]
    cases hamount : payload.get? "amount" with
    | none =>
      refine iff_of_true (by split_ifs <;> rfl) ?_
      rintro ⟨amount, m, hamount', -⟩
      nomatch hamount.symm.trans hamount'
    | some amount =>
      rw [if_pos (by simp [nonEmpty_pyDict.mpr (items_ne_nil hamount)]), Option.bind_some,
        R.asDict_python]
      cases hm : R.members amount with
      | none =>
        refine iff_of_true rfl ?_
        rintro ⟨amount', m, hamount', hm', -⟩
        obtain rfl := Option.some.inj (hamount.symm.trans hamount')
        nomatch hm.symm.trans hm'
      | some m =>
        have hother : R.OtherCurrency c payload ↔ eq (R.pyCurrency m) (R.python c) = false := by
          constructor
          · rintro ⟨amount', m', hamount', hm', hne⟩
            obtain rfl := Option.some.inj (hamount.symm.trans hamount')
            obtain rfl := Option.some.inj (hm.symm.trans hm')
            exact hne
          · exact fun hne => ⟨amount, m, hamount, hm, hne⟩
        rw [hother, Bool.not_eq_false]
        show (if eq (get (R.pyDict m) "currency") (R.python c) then none else some _) = none ↔ _
        rw [get_pyDict]
        by_cases heq : eq (R.pyCurrency m) (R.python c) = true
        · rw [pyCurrency] at heq
          simp [heq, pyCurrency]
        · rw [pyCurrency] at heq
          simp [heq, pyCurrency]

theorem resolve_eq_granted {grants : List (SharedGrant D)} {capabilityId : String}
    {g : SharedGrant D} (hg : grants.find? (·.capabilityId = capabilityId) = some g) :
    (AgentAuthorizationSnapshot.mk (grants.map R.authority)).resolve capabilityId
        (R.pyDict payload) = .ok (.granted (R.authority g)) ↔
      (∀ limit, g.constraints.get? "maxAmountMinor" = some limit → ¬R.OverLimit limit payload) ∧
        ∀ c, g.constraints.get? "currency" = some c → ¬R.OtherCurrency c payload := by
  have hfind : (grants.map R.authority).find? (·.capabilityId = capabilityId) =
      some (R.authority g) := by
    rw [List.find?_map]
    exact congrArg (Option.map R.authority) hg
  rw [← amountRefusal_pyDict, ← currencyRefusal_pyDict]
  unfold AgentAuthorizationSnapshot.resolve
  dsimp only
  rw [hfind]
  constructor
  · intro h
    obtain ⟨refusal, hamount, h⟩ := bind_eq_ok.mp h
    cases refusal with
    | some => nomatch h
    | none =>
      refine ⟨hamount, ?_⟩
      dsimp only at h
      split at h
      · nomatch h
      · assumption
  · rintro ⟨hamount, hcurrency⟩
    refine bind_eq_ok.mpr ⟨none, hamount, ?_⟩
    dsimp only
    rw [show currencyRefusal (R.authority g).constraints (R.pyDict payload) = none from hcurrency]
    rfl

/-! ## The service -/

theorem amountMember_jsObject {name : String} {v : W} (hname : name ∈ ["minor", "currency"]) :
    AmountMember (R.jsObject payload) name v ↔ ∃ amount m d, payload.get? "amount" = some amount ∧
      R.members amount = some m ∧ m.get? name = some d ∧ R.javascript d = v := by
  unfold AmountMember
  rw [jsObject, Dict.get?_mapValues]
  constructor
  · rintro ⟨w, hw, -, hmember⟩
    obtain ⟨amount, hamount, rfl⟩ := Option.map_eq_some_iff.mp hw
    rw [R.member_javascript amount name hname] at hmember
    obtain ⟨m, hm, hmember⟩ := Option.bind_eq_some_iff.mp hmember
    obtain ⟨d, hd, rfl⟩ := Option.map_eq_some_iff.mp hmember
    exact ⟨amount, m, d, hamount, hm, hd, rfl⟩
  · rintro ⟨amount, m, d, hamount, hm, hd, rfl⟩
    refine ⟨R.javascript amount, by rw [hamount]; rfl, R.truthy_object amount (hm ▸ rfl), ?_⟩
    rw [R.member_javascript amount name hname, hm, Option.bind_some, hd]
    rfl

/-- The amount is an object with minor units within the maximum. -/
def JsLimit (R : JsonReading D V W) (limit : D) (payload : Dict String D) : Prop :=
  ∃ amount m units, payload.get? "amount" = some amount ∧ R.members amount = some m ∧
    m.get? "minor" = some units ∧ R.JsWithin units limit

/-- The amount is an object in the currency. -/
def JsCurrency (R : JsonReading D V W) (c : D) (payload : Dict String D) : Prop :=
  ∃ amount m v, payload.get? "amount" = some amount ∧ R.members amount = some m ∧
    m.get? "currency" = some v ∧ JsValue.strictEq (R.javascript v) (R.javascript c)

theorem constraintsHold_jsObject :
    ConstraintsHold (R.jsObject constraints) (R.jsObject payload) ↔
      (∀ limit, constraints.get? "maxAmountMinor" = some limit → R.JsLimit limit payload) ∧
        ∀ c, constraints.get? "currency" = some c → R.JsCurrency c payload := by
  have hget : ∀ name d, constraints.get? name = some d →
      (R.jsObject constraints).get? name = some (R.javascript d) := fun name d h => by
    rw [jsObject, Dict.get?_mapValues, h]
    rfl
  constructor
  · intro h
    refine ⟨fun limit hlimit => ?_, fun c hc => ?_⟩
    · obtain ⟨v, m, n, hmember, hm, hn, hle⟩ := h.amount _ (hget _ _ hlimit)
      obtain ⟨amount, fields, units, hamount, hfields, hminor, rfl⟩ :=
        (amountMember_jsObject (by simp)).mp hmember
      exact ⟨amount, fields, units, hamount, hfields, hminor, m, n, hm, hn, hle⟩
    · obtain ⟨v, hmember, heq⟩ := h.currency _ (hget _ _ hc)
      obtain ⟨amount, m, d, hamount, hm, hd, rfl⟩ := (amountMember_jsObject (by simp)).mp hmember
      exact ⟨amount, m, d, hamount, hm, hd, heq⟩
  · rintro ⟨hlimit, hcurrency⟩
    refine ⟨fun w hw => ?_, fun w hw => ?_⟩ <;> rw [jsObject, Dict.get?_mapValues] at hw <;>
      obtain ⟨d, hd, rfl⟩ := Option.map_eq_some_iff.mp hw
    · obtain ⟨amount, fields, units, hamount, hfields, hminor, m, n, hm, hn, hle⟩ := hlimit d hd
      exact ⟨R.javascript units, m, n, (amountMember_jsObject (by simp)).mpr
        ⟨amount, fields, units, hamount, hfields, hminor, rfl⟩, hm, hn, hle⟩
    · obtain ⟨amount, m, v, hamount, hm, hv, heq⟩ := hcurrency d hd
      exact ⟨R.javascript v, (amountMember_jsObject (by simp)).mpr
        ⟨amount, m, v, hamount, hm, hv, rfl⟩, heq⟩

/-! ## One constraint -/

theorem limitRead_iff :
    R.LimitRead limit payload ↔ (¬R.OverLimit limit payload → R.JsLimit limit payload) := by
  constructor
  · rintro ⟨hpayload, hunits⟩ hnot
    by_contra hjs
    refine hnot ⟨hpayload, fun amount hamount => ?_⟩
    obtain ⟨units, hown, hwithin⟩ := hunits amount hamount
    refine ⟨units, hown, fun hpy => hjs ?_⟩
    obtain ⟨hobject, hjs⟩ := hwithin hpy
    rcases hown with ⟨hbare, -⟩ | ⟨m, hm, hminor, -⟩
    · rw [hbare] at hobject
      nomatch hobject
    · exact ⟨amount, m, units, hamount.1, hm, hminor, hjs⟩
  · intro h
    refine ⟨fun hnil => ?_, fun amount hamount => ?_⟩
    · obtain ⟨amount, _, _, hamount, -⟩ := h fun hover => hover.1 hnil
      exact items_ne_nil hamount hnil
    · have hsame : ∀ {amount'}, payload.get? "amount" = some amount' → amount' = amount :=
        fun hamount' => Option.some.inj (hamount'.symm.trans hamount.1)
      by_cases hunits : ∃ units, R.Units amount units
      · obtain ⟨units, hunits⟩ := hunits
        refine ⟨units, hunits, fun hwithin => ?_⟩
        obtain ⟨amount', m, units', hamount', hm, hminor, hjs⟩ :=
          h fun hover => (overLimit_iff hamount hunits).mp hover hwithin
        obtain rfl := hsame hamount'
        refine ⟨hm ▸ rfl, ?_⟩
        rcases hunits with ⟨hbare, -⟩ | ⟨m', hm', hminor', -⟩
        · nomatch hbare.symm.trans hm
        · obtain rfl := Option.some.inj (hm.symm.trans hm')
          exact Option.some.inj (hminor.symm.trans hminor') ▸ hjs
      -- without units the runtime passes the payload, and JavaScript throws on `null`
      · obtain ⟨amount', m, units, hamount', hm, hminor, n, _, hn, -⟩ := h fun hover =>
          hunits ((hover.2 amount hamount).imp fun _ h => h.1)
        obtain rfl := hsame hamount'
        cases hnull : R.python units with
        | some => exact absurd ⟨units, .inr ⟨m, hm, hminor, hnull ▸ rfl⟩⟩ hunits
        | none =>
          obtain ⟨e, he⟩ := R.bigInt_null units hnull
          nomatch he.symm.trans hn

theorem currencyRead_iff :
    R.CurrencyRead c payload ↔ (¬R.OtherCurrency c payload → R.JsCurrency c payload) := by
  constructor
  · rintro ⟨amount, m, hamount, hm, hread⟩ hnot
    cases heq : eq (R.pyCurrency m) (R.python c) with
    | false => exact absurd ⟨amount, m, hamount, hm, heq⟩ hnot
    | true =>
      obtain ⟨v, hv, hsame⟩ := hread heq
      exact ⟨amount, m, v, hamount, hm, hv, hsame⟩
  · intro h
    by_cases hother : R.OtherCurrency c payload
    · obtain ⟨amount, m, hamount, hm, hne⟩ := hother
      exact ⟨amount, m, hamount, hm, fun heq => nomatch hne.symm.trans heq⟩
    · obtain ⟨amount, m, v, hamount, hm, hv, hsame⟩ := h hother
      exact ⟨amount, m, hamount, hm, fun _ => ⟨v, hv, hsame⟩⟩

/-! ## Containment -/

/-- The check allows what the runtime allows, exactly if both read what the first grant is about. -/
theorem contained_iff (R : JsonReading D V W) (grants : List (SharedGrant D))
    (capabilityId : String) (payload : Dict String D) :
    R.Contained grants capabilityId payload ↔
      ∀ g, grants.find? (·.capabilityId = capabilityId) = some g →
        R.Reads g.constraints payload := by
  refine forall_congr' fun g => forall_congr' fun hg => ?_
  rw [resolve_eq_granted hg, constraintRefusal_eq_none, constraintsHold_jsObject]
  constructor
  · intro h
    refine ⟨fun limit hlimit => ?_, fun c hc => ?_⟩
    · by_cases hother : ∃ c, g.constraints.get? "currency" = some c ∧ R.OtherCurrency c payload
      · exact .inr hother
      · refine .inl (limitRead_iff.mpr fun hnot => ?_)
        refine (h ⟨fun limit' hlimit' => ?_, fun c hc hown => hother ⟨c, hc, hown⟩⟩).1 limit hlimit
        exact Option.some.inj (hlimit.symm.trans hlimit') ▸ hnot
    · by_cases hover : ∃ limit, g.constraints.get? "maxAmountMinor" = some limit ∧
          R.OverLimit limit payload
      · exact .inr hover
      · refine .inl (currencyRead_iff.mpr fun hnot => ?_)
        refine (h ⟨fun limit hlimit hown => hover ⟨limit, hlimit, hown⟩, fun c' hc' => ?_⟩).2 c hc
        exact Option.some.inj (hc.symm.trans hc') ▸ hnot
  · rintro ⟨hlimit, hcurrency⟩ ⟨hnoLimit, hnoCurrency⟩
    refine ⟨fun limit hl => ?_, fun c hc => ?_⟩
    · rcases hlimit limit hl with hread | ⟨c, hc, hother⟩
      · exact limitRead_iff.mp hread (hnoLimit limit hl)
      · exact absurd hother (hnoCurrency c hc)
    · rcases hcurrency c hc with hread | ⟨limit, hl, hover⟩
      · exact currencyRead_iff.mp hread (hnoCurrency c hc)
      · exact absurd hover (hnoLimit limit hl)

end JsonReading

/-! ### A maximum of 5000 -/

/-- Numbers, texts, and amounts with what they name. -/
inductive AmountJson
  | number (n : ℤ)
  | text (s : String)
  | amount (minor : Option ℤ) (currency : Option String)
  deriving DecidableEq

namespace AmountJson

def members : AmountJson → Option (Dict String AmountJson)
  | amount minor currency => some (Dict.update ∅
      ((minor.toList.map fun n => ("minor", number n)) ++
        currency.toList.map fun s => ("currency", text s)))
  | _ => none

def toInt? : AmountJson → Option ℤ
  | number n => some n
  | text s => s.toInt?
  | amount _ _ => none

instance : PayloadValue AmountJson where
  truthy v := v ≠ number 0 ∧ v ≠ text ""
  asDict v := v.members.map (·.mapValues fun _ => some)
  int v := v.toInt?.elim (.error .valueError) .ok
  greater v n := .ok (v.toInt?.any (n < ·))
  eq v w := v = w
  str v := match v with
    | text s => s
    | _ => ""

instance : JsValue AmountJson where
  truthy v := v ≠ number 0 ∧ v ≠ text ""
  member v name := v.members.bind (·.get? name)
  bigInt v := v.toInt?.elim (.error .syntaxError) .ok
  strictEq v w := v = w ∧ v.members.isNone

def reading : JsonReading AmountJson AmountJson AmountJson where
  python := some
  javascript := id
  members := members
  asDict_python _ := rfl
  member_javascript d name _ := by
    show d.members.bind (·.get? name) = _
    simp
  truthy_object d h := by cases d <;> first | rfl | nomatch h
  bigInt_null _ h := nomatch h

end AmountJson

open AmountJson (reading)

/-- A grant for payment requests. -/
def requestGrant (constraints : List (String × AmountJson)) : SharedGrant AmountJson where
  capabilityId := "finance.request.create"
  permissionKey := "finance.request.create"
  constraints := Dict.update ∅ constraints

def limitedGrant : SharedGrant AmountJson :=
  requestGrant [("maxAmountMinor", .number 5000), ("currency", .text "USD")]

def paymentOf (amount : AmountJson) : Dict String AmountJson :=
  Dict.update ∅ [("amount", amount)]

/-- 4000 USD of at most 5000. -/
theorem contained_usd :
    reading.Contained [limitedGrant] "finance.request.create"
      (paymentOf (.amount (some 4000) (some "USD"))) := by
  refine (reading.contained_iff _ _ _).mpr fun g hg => ?_
  cases (show some limitedGrant = some g from hg)
  refine ⟨fun limit hlimit => .inl ⟨by decide, fun amount hamount => ?_⟩, fun c hc => .inl ?_⟩
  · cases hlimit
    obtain ⟨hget, -⟩ := hamount
    cases hget
    exact ⟨.number 4000, .inr ⟨_, rfl, rfl, rfl⟩, fun _ => ⟨rfl, 4000, 5000, rfl, rfl, by decide⟩⟩
  · cases hc
    exact ⟨_, _, rfl, rfl, fun _ => ⟨.text "USD", rfl, rfl⟩⟩

/-- An empty payload, a bare amount and an amount without minor units escape. -/
theorem not_contained_escaping :
    ¬reading.Contained [limitedGrant] "finance.request.create" ∅ ∧
      ¬reading.Contained [limitedGrant] "finance.request.create" (paymentOf (.number 4000)) ∧
      ¬reading.Contained [limitedGrant] "finance.request.create"
        (paymentOf (.amount none (some "USD"))) := by
  refine ⟨fun h => ?_, fun h => ?_, fun h => ?_⟩ <;>
    · have hallowed := h _ rfl rfl
      nomatch hallowed

end JavisSaas.Cosa.Policies
