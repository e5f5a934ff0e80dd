import Mathlib.Data.List.Forall2

/-!
# Computations that may fail

Reading a successful `Except` computation back, and the checks (`require`) and
loops of checks that a validator is made of.
-/

namespace JavisSaas.Lib

universe u v

section

variable {E : Type u} {A B : Type v}

theorem bind_eq_ok {x : Except E A} {f : A → Except E B} {b : B} :
    x >>= f = .ok b ↔ ∃ a, x = .ok a ∧ f a = .ok b := by
  cases x <;> simp [bind, Except.bind]

/-- The rest of a computation whose first step ends well. -/
theorem of_bind {x : Except E A} {f : A → Except E B} {b : B} (h : x >>= f = .ok b) :
    ∃ a, f a = .ok b :=
  (bind_eq_ok.mp h).imp fun _ => And.right

theorem bind_eq_error {x : Except E A} {f : A → Except E B} {e : E} :
    x >>= f = .error e ↔ x = .error e ∨ ∃ a, x = .ok a ∧ f a = .error e := by
  cases x <;> simp [bind, Except.bind]

theorem map_eq_ok {x : Except E A} {f : A → B} {b : B} :
    f <$> x = .ok b ↔ ∃ a, x = .ok a ∧ f a = b := by
  cases x <;> simp [Functor.map, Except.map]

theorem pure_eq_ok {a b : A} : (pure a : Except E A) = .ok b ↔ a = b := by
  simp [pure, Except.pure]

/-- A computation with a result. -/
theorem eq_ok_get {x : Except E A} (h : x.toOption.isSome) : x = .ok (x.toOption.get h) := by
  cases x with
  | ok => rfl
  | error => nomatch h

end

/-! ## Checks -/

variable {E : Type u} {A : Type v}

/-- `if not p: raise e`. -/
def require (p : Prop) [Decidable p] (e : E) : Except E Unit := if p then .ok () else .error e

@[simp] theorem require_eq_ok {p : Prop} [Decidable p] {e : E} {u : Unit} :
    require p e = .ok u ↔ p := by
  unfold require
  split_ifs with h <;> simp [h]

/-- A computation behind a check succeeds if both do. -/
theorem require_bind_eq_ok {p : Prop} [Decidable p] {e : E} {B : Type} {f : Unit → Except E B}
    {b : B} : require p e >>= f = .ok b ↔ p ∧ f () = .ok b := by
  unfold require
  split_ifs with h <;> simp [h, bind, Except.bind]

theorem of_require {p : Prop} [Decidable p] {e : E} {B : Type} {f : Unit → Except E B} {b : B}
    (h : require p e >>= f = .ok b) : f () = .ok b :=
  (require_bind_eq_ok.mp h).2

@[simp] theorem check_bind_eq_ok {x y : Except E Unit} {u : Unit} :
    (do x; y) = .ok u ↔ x = .ok () ∧ y = .ok () := by
  cases x <;> cases y <;> simp [bind, Except.bind]

@[simp] theorem forM_eq_ok {l : List A} {f : A → Except E Unit} {u : Unit} :
    forM l f = .ok u ↔ ∀ a ∈ l, f a = .ok () := by
  induction l with
  | nil => simp [List.forM_nil, pure, Except.pure]
  | cons _ _ ih => simp [List.forM_cons, ih]

/-! ## Errors of a kind -/

/-- Every error of the computation is of the kind. -/
def FailsWith (P : E → Prop) (x : Except E A) : Prop := ∀ e, x = .error e → P e

namespace FailsWith

variable {B : Type v} {P : E → Prop} {e : E}

theorem ok {a : A} : FailsWith P (.ok a : Except E A) := fun _ h => nomatch h

theorem error (h : P e) : FailsWith P (.error e : Except E A) := by
  rintro _ ⟨rfl⟩
  exact h

theorem bind {x : Except E A} {f : A → Except E B} (hx : FailsWith P x)
    (hf : ∀ a, x = .ok a → FailsWith P (f a)) : FailsWith P (x >>= f) := by
  intro e he
  rcases bind_eq_error.mp he with he | ⟨a, ha, he⟩
  · exact hx e he
  · exact hf a ha e he

theorem require {p : Prop} [Decidable p] (h : P e) : FailsWith P (require p e) := by
  unfold Lib.require
  split_ifs
  · exact ok
  · exact error h

end FailsWith

/-! ## Loops -/

/-- A loop that collects its results. -/
theorem mapM_eq_ok {B : Type v} {f : A → Except E B} {l : List A} {bs : List B} :
    l.mapM f = .ok bs ↔ List.Forall₂ (fun a b => f a = .ok b) l bs := by
  induction l generalizing bs with
  | nil =>
    rw [List.mapM_nil, pure_eq_ok, List.forall₂_nil_left_iff]
    exact eq_comm
  | cons _ _ ih =>
    rw [List.mapM_cons, bind_eq_ok, List.forall₂_cons_left_iff]
    constructor
    · rintro ⟨b, hb, h⟩
      obtain ⟨rest, hrest, h⟩ := bind_eq_ok.mp h
      exact ⟨b, rest, hb, ih.mp hrest, (pure_eq_ok.mp h).symm⟩
    · rintro ⟨b, rest, hb, hrest, rfl⟩
      exact ⟨b, hb, bind_eq_ok.mpr ⟨rest, ih.mpr hrest, rfl⟩⟩

theorem exists_of_mem_mapM {B : Type v} {f : A → Except E B} {l : List A} {bs : List B}
    (h : l.mapM f = .ok bs) {b : B} (hb : b ∈ bs) : ∃ a ∈ l, f a = .ok b := by
  induction mapM_eq_ok.mp h with
  | nil => nomatch hb
  | @cons a c l bs hac hrest ih =>
    rcases List.mem_cons.mp hb with rfl | hb
    · exact ⟨a, List.mem_cons_self, hac⟩
    · obtain ⟨a', ha', hf⟩ := ih (mapM_eq_ok.mpr hrest) hb
      exact ⟨a', List.mem_cons_of_mem _ ha', hf⟩

theorem exists_result_of_mapM {B : Type v} {f : A → Except E B} {l : List A} {bs : List B}
    (h : l.mapM f = .ok bs) {a : A} (ha : a ∈ l) : ∃ b ∈ bs, f a = .ok b := by
  induction mapM_eq_ok.mp h with
  | nil => nomatch ha
  | @cons c b l bs hcb hrest ih =>
    rcases List.mem_cons.mp ha with rfl | ha
    · exact ⟨b, List.mem_cons_self, hcb⟩
    · obtain ⟨b', hb', hf⟩ := ih (mapM_eq_ok.mpr hrest) ha
      exact ⟨b', List.mem_cons_of_mem _ hb', hf⟩

end JavisSaas.Lib
