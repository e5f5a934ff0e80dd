import JavisSaas.Lib.Calls

/-!
# Tokens in the custody of calls

A token is held by one call at a time, and what the store owes is held by a call.

* `Service.CustodyRule`: what every step keeps, where only some calls are given up.
* `Service.CustodyRule.inv_of_along`, `Service.CustodyRule.along`: every state and step of a run.
-/

namespace JavisSaas.Lib

universe u v w x y

namespace Service

variable {Req : Type u} {S : Type v} {C : Type w} {X : Type x} {H : Type y}

/-- The two calls have no token in common. -/
def Apart (hold : C → H → Prop) (c d : C) : Prop := ∀ h, hold c h → ¬hold d h

/-- A step that meets `G` keeps `I` of the store and `J` of its call and of those with no token in
common. A new token was held by no other, and what is owed was owed to another or is owed to this
one. Nothing is owed to a call that is given up. -/
structure CustodyRule (V : Service Req S C X) (hold : C → H → Prop) (owed : S → H → Prop)
    (G : S → C → X → Prop) (A : S → C → Prop) (I : S → Prop) (J : S → C → Prop) : Prop where
  start : ∀ s req, I s → J s (V.start req) ∧ ∀ h, ¬hold (V.start req) h
  step : ∀ s c a s' c', I s → J s c → G s c a → V.step s c a = some (s', c') →
    I s' ∧ (∀ d, J s d → Apart hold c d → J s' d) ∧ ∀ d ∈ c', J s' d
  taken : ∀ s c a s' d, I s → J s c → G s c a → V.step s c a = some (s', some d) →
    ∀ h, hold d h → hold c h ∨ ∀ e, J s e → ¬hold e h
  debts : ∀ s c a s' c', I s → J s c → G s c a → V.step s c a = some (s', c') →
    ∀ h, owed s' h → owed s h ∧ ¬hold c h ∨ ∃ d ∈ c', hold d h
  abort : ∀ s c, I s → J s c → A s c →
    I (V.abort c s) ∧ ∀ d, J s d → Apart hold c d → J (V.abort c s) d
  abandoned : ∀ s c, I s → J s c → A s c → ∀ h, owed (V.abort c s) h → owed s h ∧ ¬hold c h

/-- `I` of the store, `J` of every call, and every token in the custody of one call. -/
structure CustodyInv (hold : C → H → Prop) (owed : S → H → Prop) (I : S → Prop)
    (J : S → C → Prop) (s : InFlight S C) : Prop where
  inv : Inv I J s
  exclusive : ∀ i j c d h, s.call? i = some c → s.call? j = some d → hold c h → hold d h → i = j
  held : ∀ h, owed s.store h → ∃ i c, s.call? i = some c ∧ hold c h

variable {store : S} {c : C} {j i : ℕ} {o : Option C} {ls : List (CallLabel Req X)}

theorem CustodyInv.of_empty {hold : C → H → Prop} {owed : S → H → Prop} {I : S → Prop}
    {J : S → C → Prop} (h : I store) (howed : ∀ h, ¬owed store h) :
    CustodyInv hold owed I J ({ store } : InFlight S C) :=
  ⟨.of_empty h, (fun _ _ _ _ _ hc => nomatch InFlight.call?_eq_some.mp hc),
    fun h hh => absurd hh (howed h)⟩

theorem call?_start {s : InFlight S C} {d : C}
    (h : ({ s with calls := s.calls ++ [some c] } : InFlight S C).call? j = some d) :
    s.call? j = some d ∨ j = s.calls.length ∧ d = c := by
  rw [InFlight.call?_eq_some, List.getElem?_append] at h
  split_ifs at h with hj
  · exact .inl (InFlight.call?_eq_some.mpr h)
  · rw [List.getElem?_singleton] at h
    split_ifs at h with h0
    exact .inr ⟨by omega, (Option.some.inj (Option.some.inj h)).symm⟩

theorem call?_set {s : InFlight S C} {d : C}
    (h : ({ store, calls := s.calls.set i o } : InFlight S C).call? j = some d) :
    j = i ∧ o = some d ∨ j ≠ i ∧ s.call? j = some d := by
  rw [InFlight.call?_eq_some, List.getElem?_set] at h
  split_ifs at h with hij hlt
  · exact .inl ⟨hij.symm, Option.some.inj h⟩
  · exact .inr ⟨fun heq => hij heq.symm, InFlight.call?_eq_some.mpr h⟩

theorem call?_set_self {s : InFlight S C} (h : s.call? i = some c) :
    ({ store, calls := s.calls.set i o } : InFlight S C).call? i = o := by
  obtain ⟨hlt, -⟩ := List.getElem?_eq_some_iff.mp (InFlight.call?_eq_some.mp h)
  rw [InFlight.call?, List.getElem?_set_self hlt]
  rfl

theorem call?_set_of_ne {s : InFlight S C} (h : i ≠ j) :
    ({ store, calls := s.calls.set i o } : InFlight S C).call? j = s.call? j := by
  rw [InFlight.call?, List.getElem?_set_ne h]
  rfl

variable {V : Service Req S C X} {hold : C → H → Prop} {owed : S → H → Prop}
  {G : S → C → X → Prop} {A : S → C → Prop} {I : S → Prop} {J : S → C → Prop}
  {s s' : InFlight S C} {l : CallLabel Req X}

theorem CustodyRule.inv_start (hV : V.CustodyRule hold owed G A I J)
    (h : CustodyInv hold owed I J s) (req : Req) :
    CustodyInv hold owed I J { s with calls := s.calls ++ [some (V.start req)] } := by
  obtain ⟨hJ, hnone⟩ := hV.start s.store req h.inv.store
  refine ⟨⟨h.inv.store, fun j d hd => ?_⟩, fun i j c d t hc hd hct hdt => ?_, fun t ht => ?_⟩
  · rcases call?_start hd with hd | ⟨-, rfl⟩
    · exact h.inv.calls j d hd
    · exact hJ
  · rcases call?_start hc with hc | ⟨-, rfl⟩
    · rcases call?_start hd with hd | ⟨-, rfl⟩
      · exact h.exclusive i j c d t hc hd hct hdt
      · exact absurd hdt (hnone t)
    · exact absurd hct (hnone t)
  · obtain ⟨i, c, hc, hct⟩ := h.held t ht
    refine ⟨i, c, InFlight.call?_eq_some.mpr ?_, hct⟩
    have hget := InFlight.call?_eq_some.mp hc
    exact (List.getElem?_append_left (List.getElem?_eq_some_iff.mp hget).1).trans hget

theorem CustodyRule.inv_step (hV : V.CustodyRule hold owed G A I J) (h : CustodyInv hold owed I J s)
    {a : X} {c' : Option C} (hc : s.call? i = some c) (hG : G s.store c a)
    (hstep : V.step s.store c a = some (store, c')) :
    CustodyInv hold owed I J { store, calls := s.calls.set i c' } := by
  have hJ := h.inv.calls i c hc
  obtain ⟨hI, hothers, hown⟩ := hV.step _ c a store c' h.inv.store hJ hG hstep
  -- a token that the call has after the step is in no other call
  have htoken : ∀ j d e t, c' = some d → s.call? j = some e → j ≠ i → hold d t → ¬hold e t := by
    rintro j d e t rfl he hj hdt het
    rcases hV.taken _ c a store d h.inv.store hJ hG hstep t hdt with hct | hfree
    · exact hj (h.exclusive j i e c t he hc het hct)
    · exact hfree e (h.inv.calls j e he) het
  refine ⟨⟨hI, fun j d hd => ?_⟩, fun j k d e t hd he hdt het => ?_, fun t ht => ?_⟩
  · rcases call?_set hd with ⟨-, hd⟩ | ⟨hj, hd⟩
    · exact hown d hd
    · exact hothers d (h.inv.calls j d hd)
        fun t hct hdt => hj (h.exclusive j i d c t hd hc hdt hct)
  · rcases call?_set hd with ⟨hj, hd'⟩ | ⟨hj, hd'⟩
    · rcases call?_set he with ⟨hk, -⟩ | ⟨hk, he'⟩
      · exact hj.trans hk.symm
      · exact absurd het (htoken k d e t hd' he' hk hdt)
    · rcases call?_set he with ⟨-, he'⟩ | ⟨-, he'⟩
      · exact absurd hdt (htoken j e d t he' hd' hj het)
      · exact h.exclusive j k d e t hd' he' hdt het
  · rcases hV.debts _ c a store c' h.inv.store hJ hG hstep t ht with ⟨hbefore, hct⟩ | ⟨d, hd, hdt⟩
    · obtain ⟨j, d, hd, hdt⟩ := h.held t hbefore
      have hij : i ≠ j := by
        rintro rfl
        cases hc.symm.trans hd
        exact hct hdt
      exact ⟨j, d, (call?_set_of_ne hij).trans hd, hdt⟩
    · exact ⟨i, d, (call?_set_self hc).trans hd, hdt⟩

theorem CustodyRule.inv_giveUp (hV : V.CustodyRule hold owed G A I J)
    (h : CustodyInv hold owed I J s) (hA : ∀ c ∈ s.call? i, A s.store c) :
    CustodyInv hold owed I J
      { store := (s.call? i).elim s.store fun c => V.abort c s.store, calls := s.calls.set i none } := by
  have hold' : ∀ store j d,
      ({ store, calls := s.calls.set i none } : InFlight S C).call? j = some d →
        j ≠ i ∧ s.call? j = some d := by
    intro store j d hd
    rcases call?_set hd with ⟨-, hd⟩ | hd
    · nomatch hd
    · exact hd
  have hexclusive : ∀ store j k c d t,
      ({ store, calls := s.calls.set i none } : InFlight S C).call? j = some c →
      ({ store, calls := s.calls.set i none } : InFlight S C).call? k = some d →
      hold c t → hold d t → j = k :=
    fun store j k c d t hc hd => h.exclusive j k c d t (hold' _ j c hc).2 (hold' _ k d hd).2
  have howed : ∀ store t, owed s.store t → (∀ c, s.call? i = some c → ¬hold c t) →
      ∃ j d, ({ store, calls := s.calls.set i none } : InFlight S C).call? j = some d ∧ hold d t := by
    intro store t ht hnot
    obtain ⟨j, d, hd, hdt⟩ := h.held t ht
    have hij : i ≠ j := by
      rintro rfl
      exact hnot d hd hdt
    exact ⟨j, d, (call?_set_of_ne hij).trans hd, hdt⟩
  cases hc : s.call? i with
  | none =>
    exact ⟨⟨h.inv.store, fun j d hd => h.inv.calls j d (hold' _ j d hd).2⟩, hexclusive _,
      fun t ht => howed _ t ht fun c hc' => nomatch hc.symm.trans hc'⟩
  | some c =>
    have hJ := h.inv.calls i c hc
    obtain ⟨hI, hothers⟩ := hV.abort s.store c h.inv.store hJ (hA c hc)
    refine ⟨⟨hI, fun j d hd => ?_⟩, hexclusive _, fun t ht => ?_⟩
    · obtain ⟨hj, hd⟩ := hold' _ j d hd
      exact hothers d (h.inv.calls j d hd)
        fun t hct hdt => hj (h.exclusive j i d c t hd hc hdt hct)
    obtain ⟨hbefore, hct⟩ := hV.abandoned s.store c h.inv.store hJ (hA c hc) t ht
    refine howed _ t hbefore fun c' hc' => ?_
    cases hc.symm.trans hc'
    exact hct

theorem CustodyRule.inv_next (hV : V.CustodyRule hold owed G A I J)
    (h : CustodyInv hold owed I J s) (hl : Meets G s l) (hA : Spares A s l)
    (hs : V.next s l = some s') : CustodyInv hold owed I J s' := by
  cases l with
  | start req =>
    cases hs
    exact hV.inv_start h req
  | step =>
    obtain ⟨c, hc, store, c', hstep, rfl⟩ := V.next_step_eq_some.mp hs
    exact hV.inv_step h hc (hl c hc) hstep
  | giveUp =>
    cases hs
    exact hV.inv_giveUp h hA

/-- The conditions that every run meets. -/
theorem along_always :
    V.system.Along (fun s l => Meets (fun _ _ _ => True) s l ∧ Spares (fun _ _ => True) s l) s ls :=
  System.Along.mono _ (fun s l _ => ⟨meets_true s l, spares_true s l⟩) V.system.along_true

/-- What every run keeps whose steps meet `G`, and whose calls are given up only under `A`. -/
theorem CustodyRule.inv_of_along (hV : V.CustodyRule hold owed G A I J)
    (h : CustodyInv hold owed I J s)
    (hl : V.system.Along (fun s l => Meets G s l ∧ Spares A s l) s ls)
    (hs : V.system.run s ls = some s') : CustodyInv hold owed I J s' :=
  V.system.inv_of_along (fun _ _ _ hI hG hn => hV.inv_next hI hG.1 hG.2 hn) h hl hs

/-- A property of the steps of a call that follows from what the steps keep. -/
theorem CustodyRule.along (hV : V.CustodyRule hold owed G A I J) (h : CustodyInv hold owed I J s)
    {P : S → C → X → Prop} (hP : ∀ s c a, I s → J s c → G s c a → P s c a)
    (hl : V.system.Along (fun s l => Meets G s l ∧ Spares A s l) s ls) :
    V.system.Along (Meets P) s ls := by
  refine V.system.along_of_inv (fun _ _ _ hI hG hn => hV.inv_next hI hG.1 hG.2 hn) ?_ h hl
  intro s l hinv hG
  cases l with
  | step i =>
    exact fun c hc => hP _ _ _ hinv.inv.store (hinv.inv.calls i c hc) (hG.1 c hc)
  | start | giveUp => trivial

end Service

end JavisSaas.Lib
