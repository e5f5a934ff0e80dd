import JavisSaas.Lib.Transition

/-!
# Calls that read first and write later

Any number of calls run over one store. Each step is atomic, and what a call has read it keeps until
its next step, while others move. A call may have to wait (its step is `none`), may end, and may be
given up between any two steps.

* `Service.system`: the calls in any interleaving.
* `Service.Rule`: what every step keeps of the store and of what the calls have read.
* `Service.Rule.inv_of_along`, `Service.Rule.along`: what holds of every state and step of a run.
* `Service.GuardedRule`: the same for runs in which only some calls are given up.
* `Service.run_solo`: the run of one call while no other moves.
-/

namespace JavisSaas.Lib

universe u v w x

/-- How a call starts, what its next step does with an answer of `X`, and what is rolled back when
it is given up. A call that has ended is `none`. -/
structure Service (Req : Type u) (S : Type v) (C : Type w) (X : Type x) where
  start : Req → C
  step : S → C → X → Option (S × Option C)
  abort : C → S → S := fun _ s => s

/-- A store, and the calls that were made so far. -/
structure InFlight (S : Type v) (C : Type w) where
  store : S
  calls : List (Option C) := []

inductive CallLabel (Req : Type u) (X : Type x) where
  | start (req : Req)
  | step (i : ℕ) (answers : X)
  | giveUp (i : ℕ)

/-- How a call of another service, or of a database, ends: `lost` is done and raises. -/
inductive CallEnd
  | ok
  | raised
  | lost
  deriving DecidableEq

namespace InFlight

variable {S : Type v} {C : Type w}

/-- The call with number `i`, unless it has ended. -/
def call? (s : InFlight S C) (i : ℕ) : Option C := s.calls[i]?.join

theorem call?_eq_some {s : InFlight S C} {i : ℕ} {c : C} :
    s.call? i = some c ↔ s.calls[i]? = some (some c) := by
  rw [call?, Option.join_eq_some_iff]

/-- A call of the list after one entry was replaced. -/
theorem getElem?_set_cases {calls : List (Option C)} {i j : ℕ} {o : Option C} {d : C}
    (h : (calls.set i o)[j]? = some (some d)) : o = some d ∨ calls[j]? = some (some d) := by
  rw [List.getElem?_set] at h
  split_ifs at h with hij hlt
  · exact .inl (Option.some.inj h)
  · exact .inr h

end InFlight

namespace Service

variable {Req : Type u} {S : Type v} {C : Type w} {X : Type x} (V : Service Req S C X)

def next (s : InFlight S C) : CallLabel Req X → Option (InFlight S C)
  | .start req => some { s with calls := s.calls ++ [some (V.start req)] }
  | .step i answers =>
    (s.call? i).bind fun c =>
      (V.step s.store c answers).map fun r => { store := r.1, calls := s.calls.set i r.2 }
  | .giveUp i => some
    { store := (s.call? i).elim s.store fun c => V.abort c s.store, calls := s.calls.set i none }

def system : System (InFlight S C) (CallLabel Req X) := ⟨V.next⟩

theorem next_step_eq_some {s s' : InFlight S C} {i : ℕ} {answers : X} :
    V.next s (.step i answers) = some s' ↔ ∃ c, s.call? i = some c ∧ ∃ store c',
      V.step s.store c answers = some (store, c') ∧
        s' = { store, calls := s.calls.set i c' } := by
  simp only [next, Option.bind_eq_some_iff, Option.map_eq_some_iff, Prod.exists]
  constructor
  · rintro ⟨c, hc, store, c', hstep, rfl⟩
    exact ⟨c, hc, store, c', hstep, rfl⟩
  · rintro ⟨c, hc, store, c', hstep, rfl⟩
    exact ⟨c, hc, store, c', hstep, rfl⟩

/-- The store changes by the step of a call or by its rollback, if at all. -/
theorem store_of_next {s s' : InFlight S C} {l : CallLabel Req X} (h : V.next s l = some s') :
    s'.store = s.store ∨ (∃ c, s'.store = V.abort c s.store) ∨
      ∃ i answers c c', l = .step i answers ∧ s.call? i = some c ∧
        V.step s.store c answers = some (s'.store, c') := by
  cases l with
  | start =>
    cases h
    exact .inl rfl
  | step i answers =>
    obtain ⟨c, hc, store, c', hstep, rfl⟩ := V.next_step_eq_some.mp h
    exact .inr (.inr ⟨i, answers, c, c', rfl, hc, hstep⟩)
  | giveUp i =>
    cases h
    show (s.call? i).elim s.store _ = s.store ∨ _
    cases s.call? i with
    | none => exact .inl rfl
    | some c => exact .inr (.inl ⟨c, rfl⟩)

/-- If the label is a step of a call, it meets `G`. -/
def Meets (G : S → C → X → Prop) (s : InFlight S C) : CallLabel Req X → Prop
  | .step i answers => ∀ c ∈ s.call? i, G s.store c answers
  | _ => True

instance (G : S → C → X → Prop) [∀ s c a, Decidable (G s c a)] (s : InFlight S C) :
    (l : CallLabel Req X) → Decidable (Meets G s l)
  | .start _ => instDecidableTrue
  | .giveUp _ => instDecidableTrue
  | .step i answers => inferInstanceAs (Decidable (∀ c ∈ s.call? i, G s.store c answers))

variable {G' : S → C → X → Prop} {ls : List (CallLabel Req X)} {store : S}

theorem Meets.mono {G : S → C → X → Prop} (h : ∀ s c a, G s c a → G' s c a) {s : InFlight S C}
    {l : CallLabel Req X} (hl : Meets G s l) : Meets G' s l := by
  cases l with
  | step => exact fun c hc => h _ _ _ (hl c hc)
  | start | giveUp => trivial

theorem Meets.and {G : S → C → X → Prop} {s : InFlight S C} {l : CallLabel Req X} (h : Meets G s l)
    (h' : Meets G' s l) : Meets (fun s c a => G s c a ∧ G' s c a) s l := by
  cases l with
  | step => exact fun c hc => ⟨h c hc, h' c hc⟩
  | start | giveUp => trivial

/-- If the label gives up a call, that call meets `A`. -/
def Spares (A : S → C → Prop) (s : InFlight S C) : CallLabel Req X → Prop
  | .giveUp i => ∀ c ∈ s.call? i, A s.store c
  | _ => True

instance (A : S → C → Prop) [∀ s c, Decidable (A s c)] (s : InFlight S C) :
    (l : CallLabel Req X) → Decidable (Spares A s l)
  | .start _ => instDecidableTrue
  | .step _ _ => instDecidableTrue
  | .giveUp i => inferInstanceAs (Decidable (∀ c ∈ s.call? i, A s.store c))

/-- The same calls, for the requests that meet `P`. -/
def only (P : Req → Prop) : Service {req // P req} S C X where
  start req := V.start req.1
  step := V.step
  abort := V.abort

/-- What every step and rollback relates, a whole run relates. -/
theorem rel_of_along {G : InFlight S C → CallLabel Req X → Prop} {K : InFlight S C → Prop}
    {R : S → S → Prop} (hrefl : ∀ s, R s s) (htrans : ∀ a b c, R a b → R b c → R a c)
    (hnext : ∀ f l f', K f → G f l → V.next f l = some f' → K f')
    (hstep : ∀ f i c a s' c', K f → G f (.step i a) → f.call? i = some c →
      V.step f.store c a = some (s', c') → R f.store s')
    (habort : ∀ f c, K f → R f.store (V.abort c f.store)) {f f' : InFlight S C} (h0 : K f)
    (hl : V.system.Along G f ls) (hs : V.system.run f ls = some f') : R f.store f'.store := by
  refine V.system.rel_of_along (R := fun a b => R a.store b.store) (fun _ => hrefl _)
    (fun _ _ _ => htrans _ _ _) ?_ h0 hl hs
  intro f l f' hK hG hf
  refine ⟨hnext f l f' hK hG hf, ?_⟩
  rcases V.store_of_next hf with hsame | ⟨c, hc⟩ | ⟨i, a, c, c', rfl, hc, hs⟩
  · exact hsame ▸ hrefl _
  · exact hc ▸ habort f c hK
  · exact hstep f i c a _ c' hK hG hc hs

/-! ## What the steps keep -/

/-- Every step that meets `G` keeps `I` of the store, and `J` of every call. -/
structure Rule (G : S → C → X → Prop) (I : S → Prop) (J : S → C → Prop) : Prop where
  start : ∀ s req, I s → J s (V.start req)
  step : ∀ s c a s' c', I s → J s c → G s c a → V.step s c a = some (s', c') →
    I s' ∧ (∀ d, J s d → J s' d) ∧ ∀ d ∈ c', J s' d
  abort : ∀ s c, I s → J s c → I (V.abort c s) ∧ ∀ d, J s d → J (V.abort c s) d

/-- The same, where only the calls that meet `A` are given up. -/
structure GuardedRule (G : S → C → X → Prop) (A : S → C → Prop) (I : S → Prop)
    (J : S → C → Prop) : Prop where
  start : ∀ s req, I s → J s (V.start req)
  step : ∀ s c a s' c', I s → J s c → G s c a → V.step s c a = some (s', c') →
    I s' ∧ (∀ d, J s d → J s' d) ∧ ∀ d ∈ c', J s' d
  abort : ∀ s c, I s → J s c → A s c → I (V.abort c s) ∧ ∀ d, J s d → J (V.abort c s) d

/-- `I` of the store and `J` of every call that has not ended. -/
structure Inv (I : S → Prop) (J : S → C → Prop) (s : InFlight S C) : Prop where
  store : I s.store
  calls : ∀ i c, s.call? i = some c → J s.store c

theorem Inv.of_empty {I : S → Prop} {J : S → C → Prop} (h : I store) :
    Inv I J ({ store } : InFlight S C) :=
  ⟨h, fun _ _ hc => nomatch InFlight.call?_eq_some.mp hc⟩

variable {V} {G : S → C → X → Prop} {I : S → Prop} {J : S → C → Prop} {s s' : InFlight S C}
  {l : CallLabel Req X}

theorem GuardedRule.inv_next {A : S → C → Prop} (hV : V.GuardedRule G A I J) (h : Inv I J s)
    (hl : Meets G s l) (hA : Spares A s l) (hs : V.next s l = some s') : Inv I J s' := by
  cases l with
  | start req =>
    cases hs
    refine ⟨h.store, fun j d hd => ?_⟩
    rw [InFlight.call?_eq_some, List.getElem?_append] at hd
    split_ifs at hd with hj
    · exact h.calls j d (InFlight.call?_eq_some.mpr hd)
    · rw [List.getElem?_singleton] at hd
      split_ifs at hd with h0
      cases hd
      exact hV.start s.store req h.store
  | step i answers =>
    obtain ⟨c, hc, store, c', hstep, rfl⟩ := V.next_step_eq_some.mp hs
    obtain ⟨hI, hothers, hown⟩ :=
      hV.step s.store c answers store c' h.store (h.calls i c hc) (hl c hc) hstep
    refine ⟨hI, fun j d hd => ?_⟩
    rcases InFlight.getElem?_set_cases (InFlight.call?_eq_some.mp hd) with rfl | hd
    · exact hown d rfl
    · exact hothers d (h.calls j d (InFlight.call?_eq_some.mpr hd))
  | giveUp i =>
    cases hs
    have hother : ∀ j d, ({ store := s.store, calls := s.calls.set i none } : InFlight S C).call? j =
        some d → J s.store d := by
      intro j d hd
      rcases InFlight.getElem?_set_cases (InFlight.call?_eq_some.mp hd) with hd | hd
      · nomatch hd
      · exact h.calls j d (InFlight.call?_eq_some.mpr hd)
    cases hc : s.call? i with
    | none => exact ⟨h.store, hother⟩
    | some c =>
      obtain ⟨hI, hothers⟩ := hV.abort s.store c h.store (h.calls i c hc) (hA c hc)
      exact ⟨hI, fun j d hd => hothers d (hother j d hd)⟩

/-- What every run keeps whose steps meet `G`, and whose calls are given up only under `A`. -/
theorem GuardedRule.inv_of_along {A : S → C → Prop} (hV : V.GuardedRule G A I J) (h : Inv I J s)
    (hl : V.system.Along (fun s l => Meets G s l ∧ Spares A s l) s ls)
    (hs : V.system.run s ls = some s') : Inv I J s' :=
  V.system.inv_of_along (fun _ _ _ hI hG hn => hV.inv_next hI hG.1 hG.2 hn) h hl hs

theorem Rule.guarded (hV : V.Rule G I J) : V.GuardedRule G (fun _ _ => True) I J where
  start := hV.start
  step := hV.step
  abort s c hI hJ _ := hV.abort s c hI hJ

theorem meets_true (s : InFlight S C) (l : CallLabel Req X) :
    Meets (fun _ _ _ => True) s l := by
  cases l with
  | step => exact fun _ _ => trivial
  | start | giveUp => trivial

theorem spares_true (s : InFlight S C) (l : CallLabel Req X) : Spares (fun _ _ => True) s l := by
  cases l with
  | giveUp => exact fun _ _ => trivial
  | start | step => trivial

theorem Rule.inv_next (hV : V.Rule G I J) (h : Inv I J s) (hl : Meets G s l)
    (hs : V.next s l = some s') : Inv I J s' :=
  hV.guarded.inv_next h hl (spares_true s l) hs

/-- What holds of the store and the calls after every run whose steps meet `G`. -/
theorem Rule.inv_of_along (hV : V.Rule G I J) (h : Inv I J s) (hl : V.system.Along (Meets G) s ls)
    (hs : V.system.run s ls = some s') : Inv I J s' :=
  V.system.inv_of_along (fun _ _ _ hI hG hn => hV.inv_next hI hG hn) h hl hs

/-- What holds of the store and the calls after every run. -/
theorem Rule.inv_of_run (hV : V.Rule (fun _ _ _ => True) I J) (h : Inv I J s)
    (hs : V.system.run s ls = some s') : Inv I J s' :=
  V.system.inv_of_run (fun s l _ hI hn => hV.inv_next hI (meets_true s l) hn) h hs

theorem Rule.imp (hV : V.Rule G I J) (h : ∀ s c a, G' s c a → G s c a) : V.Rule G' I J where
  start := hV.start
  step s c a s' c' hI hJ hG hs := hV.step s c a s' c' hI hJ (h s c a hG) hs
  abort := hV.abort

/-- What the steps keep may be used to show that they keep more. -/
theorem Rule.and (hV : V.Rule G I J) (G' : S → C → X → Prop) (I' : S → Prop)
    (h : ∀ s c a s' c', I s → J s c → I' s → G' s c a → V.step s c a = some (s', c') → I' s')
    (habort : ∀ s c, I s → J s c → I' s → I' (V.abort c s)) :
    V.Rule (fun s c a => G s c a ∧ G' s c a) (fun s => I s ∧ I' s) J where
  start s req hI := hV.start s req hI.1
  step s c a s' c' hI hJ hG hs :=
    have hkept := hV.step s c a s' c' hI.1 hJ hG.1 hs
    ⟨⟨hkept.1, h s c a s' c' hI.1 hJ hI.2 hG.2 hs⟩, hkept.2⟩
  abort s c hI hJ :=
    have hkept := hV.abort s c hI.1 hJ
    ⟨⟨hkept.1, habort s c hI.1 hJ hI.2⟩, hkept.2⟩

/-- A property of the steps of a call that follows from what the steps keep. -/
theorem Rule.along (hV : V.Rule G I J) (h : Inv I J s) {P : S → C → X → Prop}
    (hP : ∀ s c a, I s → J s c → G s c a → P s c a) {ls : List (CallLabel Req X)}
    (hl : V.system.Along (Meets G) s ls) : V.system.Along (Meets P) s ls := by
  refine V.system.along_of_inv (fun _ _ _ hI hG hn => hV.inv_next hI hG hn) ?_ h hl
  intro s l hinv hG
  cases l with
  | step i =>
    exact fun c hc => hP _ _ _ hinv.store (hinv.calls i c hc) (hG c hc)
  | start | giveUp => trivial

/-! ## A call that moves alone -/

variable (V) in
/-- What the steps of one call come to, with these answers and while no other moves. -/
def solo : S → C → List X → Option (S × Option C)
  | s, c, [] => some (s, some c)
  | s, c, a :: as =>
    match V.step s c a with
    | some (s', some c') => solo s' c' as
    | some (s', none) => if as = [] then some (s', none) else none
    | none => none

theorem solo_cons {store' : S} {c c' : C} {a : X} (h : V.step store c a = some (store', some c'))
    (as : List X) : V.solo store c (a :: as) = V.solo store' c' as := by
  rw [solo, h]

theorem run_solo {i : ℕ} {c : C} {as : List X} {c' : Option C} (hc : s.call? i = some c)
    (h : V.solo s.store c as = some (store, c')) :
    ∃ s', V.system.run s (as.map (.step i)) = some s' ∧ s'.store = store := by
  induction as generalizing s c with
  | nil => exact ⟨s, rfl, congrArg Prod.fst (Option.some.inj h)⟩
  | cons a _ ih =>
    have hset : ∀ store₁ o, V.step s.store c a = some (store₁, o) → V.system.next s (.step i a) =
        some { store := store₁, calls := s.calls.set i o } := fun store₁ o hstep =>
      V.next_step_eq_some.mpr ⟨c, hc, store₁, o, hstep, rfl⟩
    rw [solo] at h
    match hstep : V.step s.store c a with
    | none =>
      rw [hstep] at h
      nomatch h
    | some (store₁, none) =>
      rw [hstep] at h
      dsimp only at h
      split_ifs at h with has
      obtain rfl := has
      refine ⟨_, V.system.run_cons_eq_some.mpr ⟨_, hset _ _ hstep, rfl⟩, ?_⟩
      exact congrArg Prod.fst (Option.some.inj h)
    | some (store₁, some c₁) =>
      rw [hstep] at h
      have hlt := (List.getElem?_eq_some_iff.mp (InFlight.call?_eq_some.mp hc)).1
      have hc₁ : ({ store := store₁, calls := s.calls.set i (some c₁) } : InFlight S C).call? i =
          some c₁ := InFlight.call?_eq_some.mpr (List.getElem?_set_self hlt)
      obtain ⟨s', hrun, hstore⟩ := ih hc₁ h
      exact ⟨s', V.system.run_cons_eq_some.mpr ⟨_, hset _ _ hstep, hrun⟩, hstore⟩

end Service

end JavisSaas.Lib
