import Mathlib.Tactic.Common

/-!
# Programs over operations, and contracts on them

A program is a tree: it returns, raises an exception, or performs an operation and goes on with the
answer, which may itself be an exception. A contract follows it through phases: which operations it
may perform (`allowed`), which answers it may count on (`assumed`) and which phase an answer leads
to (`after`).

* `Prog.Meets`: a program keeps a contract, and its outcome satisfies a postcondition.
* `Prog.meets_bind`, `Prog.meets_tryCatch`, `Prog.meets_attempt`, `Prog.meets_perform`: the rules.
* `Prog.Keeps`: programs that leave the phase alone.
* `Prog.runOn`: a program alone on a store.
-/

namespace JavisSaas.Lib

universe u v

/-- Programs with operations `Op`, answered in `Ans o`, exceptions `E` and results `α`. -/
inductive Prog (Op : Type u) (Ans : Op → Type u) (E α : Type u) : Type u where
  | ret (a : α)
  | raise (e : E)
  | call (o : Op) (k : Except E (Ans o) → Prog Op Ans E α)

namespace Prog

variable {Op : Type u} {Ans : Op → Type u} {E α β : Type u}

/-- Go on with `f` after a result; exceptions propagate. -/
def bind : Prog Op Ans E α → (α → Prog Op Ans E β) → Prog Op Ans E β
  | ret a, f => f a
  | raise e, _ => raise e
  | call o k, f => call o fun r => (k r).bind f

/-- `try: p` `except e: h(e)`. -/
def tryCatch : Prog Op Ans E α → (E → Prog Op Ans E α) → Prog Op Ans E α
  | ret a, _ => ret a
  | raise e, h => h e
  | call o k, h => call o fun r => (k r).tryCatch h

instance : Monad (Prog Op Ans E) where
  pure := ret
  bind := bind

/-- Perform one operation; an exception it answers with is raised. -/
def perform (o : Op) : Prog Op Ans E (Ans o) :=
  call o fun
    | .ok a => ret a
    | .error e => raise e

/-- A pure computation that may raise. -/
def ofExcept : Except E α → Prog Op Ans E α
  | .ok a => ret a
  | .error e => raise e

/-- The outcome of a program as a value: `try: p` `except e: …` with both cases left to do. -/
def attempt (p : Prog Op Ans E α) : Prog Op Ans E (Except E α) :=
  (p.bind fun a => ret (.ok a)).tryCatch fun e => ret (.error e)

/-- The operation a program performs next. -/
def pending : Prog Op Ans E α → Option Op
  | call o _ => some o
  | _ => none

/-- What a finished program has returned. -/
def result? : Prog Op Ans E α → Option α
  | ret a => some a
  | _ => none

theorem eq_ret_of_result? {p : Prog Op Ans E α} {a : α} (h : p.result? = some a) : p = ret a := by
  cases p with
  | ret => rw [Option.some.inj h]
  | raise | call => nomatch h

@[simp] theorem pending_call (o : Op) (k : Except E (Ans o) → Prog Op Ans E α) :
    (call o k).pending = some o := rfl

@[simp] theorem pending_ret (a : α) : (ret a : Prog Op Ans E α).pending = none := rfl

@[simp] theorem pending_raise (e : E) : (raise e : Prog Op Ans E α).pending = none := rfl

end Prog

/-- What a program may do and count on, phase by phase. -/
structure Contract (Op : Type u) (Ans : Op → Type u) (E : Type u) (Φ : Type v) where
  allowed : Φ → Op → Prop
  assumed : Φ → (o : Op) → Except E (Ans o) → Prop
  after : Φ → (o : Op) → Except E (Ans o) → Φ

namespace Prog

variable {Op : Type u} {Ans : Op → Type u} {E α β : Type u} {Φ : Type v}
variable (C : Contract Op Ans E Φ)

/-- From phase `φ` on only allowed operations, given the answers it counts on, and an outcome in
`Q`. -/
def Meets : Prog Op Ans E α → (Φ → Except E α → Prop) → Φ → Prop
  | ret a, Q, φ => Q φ (.ok a)
  | raise e, Q, φ => Q φ (.error e)
  | call o k, Q, φ => C.allowed φ o ∧ ∀ r, C.assumed φ o r → (k r).Meets Q (C.after φ o r)

/-- The postcondition of the first half of a sequence. -/
def andThen (f : α → Prog Op Ans E β) (Q : Φ → Except E β → Prop) (φ : Φ) : Except E α → Prop
  | .ok a => (f a).Meets C Q φ
  | .error e => Q φ (.error e)

/-- The postcondition of a guarded program. -/
def orElse (h : E → Prog Op Ans E α) (Q : Φ → Except E α → Prop) (φ : Φ) : Except E α → Prop
  | .ok a => Q φ (.ok a)
  | .error e => (h e).Meets C Q φ

variable {C} {Q Q' : Φ → Except E α → Prop} {φ : Φ}

@[simp] theorem meets_ret {a : α} : (ret a : Prog Op Ans E α).Meets C Q φ ↔ Q φ (.ok a) := Iff.rfl

@[simp] theorem meets_pure {a : α} :
    (pure a : Prog Op Ans E α).Meets C Q φ ↔ Q φ (.ok a) := Iff.rfl

@[simp] theorem meets_raise {e : E} :
    (raise e : Prog Op Ans E α).Meets C Q φ ↔ Q φ (.error e) := Iff.rfl

variable {o : Op} {p : Prog Op Ans E α} {f : α → Prog Op Ans E β}

theorem meets_call {k : Except E (Ans o) → Prog Op Ans E α} :
    (call o k).Meets C Q φ ↔
      C.allowed φ o ∧ ∀ r, C.assumed φ o r → (k r).Meets C Q (C.after φ o r) := Iff.rfl

theorem meets_bind {Q : Φ → Except E β → Prop} :
    (p >>= f).Meets C Q φ ↔ p.Meets C (andThen C f Q) φ := by
  show (p.bind f).Meets C Q φ ↔ _
  induction p generalizing φ with
  | ret | raise => exact Iff.rfl
  | call _ _ ih => simp only [bind, Meets, ih]

theorem meets_tryCatch {h : E → Prog Op Ans E α} :
    (p.tryCatch h).Meets C Q φ ↔ p.Meets C (orElse C h Q) φ := by
  induction p generalizing φ with
  | ret | raise => exact Iff.rfl
  | call _ _ ih => simp only [tryCatch, Meets, ih]

theorem meets_perform {Q : Φ → Except E (Ans o) → Prop} :
    (perform o : Prog Op Ans E (Ans o)).Meets C Q φ ↔
      C.allowed φ o ∧ ∀ r, C.assumed φ o r → Q (C.after φ o r) r := by
  rw [perform, meets_call]
  refine and_congr_right fun _ => forall_congr' fun r => imp_congr_right fun _ => ?_
  cases r <;> exact Iff.rfl

@[simp] theorem meets_ofExcept {x : Except E α} :
    (ofExcept x : Prog Op Ans E α).Meets C Q φ ↔ Q φ x := by
  cases x <;> exact Iff.rfl

/-- Rule of consequence. -/
theorem Meets.mono (h : p.Meets C Q φ) (hQ : ∀ φ' r, Q φ' r → Q' φ' r) : p.Meets C Q' φ := by
  induction p generalizing φ with
  | ret | raise => exact hQ _ _ h
  | call _ _ ih => exact ⟨h.1, fun r hr => ih r (h.2 r hr)⟩

/-- Sequencing, with the second half under the postcondition of the first. -/
theorem Meets.bind {R : Φ → Except E β → Prop} (h : p.Meets C Q φ)
    (hok : ∀ φ' a, Q φ' (.ok a) → (f a).Meets C R φ')
    (herr : ∀ φ' e, Q φ' (.error e) → R φ' (.error e)) : (p >>= f).Meets C R φ := by
  refine meets_bind.mpr (h.mono fun φ' r hr => ?_)
  cases r with
  | ok a => exact hok φ' a hr
  | error e => exact herr φ' e hr

/-- A guarded program hands its outcome on as a value. -/
theorem meets_attempt {Q : Φ → Except E (Except E α) → Prop} :
    p.attempt.Meets C Q φ ↔ p.Meets C (fun φ' r => Q φ' (.ok r)) φ := by
  have hpost : andThen C (fun a : α => (ret (.ok a) : Prog Op Ans E (Except E α)))
      (orElse C (fun e => ret (.error e)) Q) = fun φ' r => Q φ' (.ok r) := by
    funext φ' r
    cases r <;> rfl
  have hbind := meets_bind (C := C) (p := p) (φ := φ)
    (f := fun a => (ret (.ok a) : Prog Op Ans E (Except E α)))
    (Q := orElse C (fun e => ret (.error e)) Q)
  rw [hpost] at hbind
  exact meets_tryCatch.trans hbind

/-! ## Programs that leave the phase alone -/

/-- Started in `φ`, the program stays in `φ`. -/
def Keeps (C : Contract Op Ans E Φ) (φ : Φ) (p : Prog Op Ans E α) : Prop :=
  p.Meets C (fun φ' _ => φ' = φ) φ

/-- An operation that is allowed in `φ` and never leads out of it. -/
structure Silent (C : Contract Op Ans E Φ) (φ : Φ) (o : Op) : Prop where
  allowed : C.allowed φ o
  after : ∀ r, C.assumed φ o r → C.after φ o r = φ

theorem Silent.keeps (h : Silent C φ o) : Keeps C φ (perform o : Prog Op Ans E (Ans o)) :=
  meets_perform.mpr ⟨h.allowed, h.after⟩

theorem keeps_ret (a : α) : Keeps C φ (ret a : Prog Op Ans E α) := rfl

theorem keeps_pure (a : α) : Keeps C φ (pure a : Prog Op Ans E α) := rfl

theorem keeps_ofExcept (x : Except E α) : Keeps C φ (ofExcept x : Prog Op Ans E α) := by
  cases x <;> rfl

/-- A program that keeps the phase may be put in front of any other. -/
theorem Keeps.meets_bind (hp : Keeps C φ p) {Q : Φ → Except E β → Prop}
    (hok : ∀ a, (f a).Meets C Q φ) (herr : ∀ e, Q φ (.error e)) : (p >>= f).Meets C Q φ :=
  Meets.bind hp (fun _ a h => h ▸ hok a) (fun _ e h => h ▸ herr e)

theorem Keeps.bind (hp : Keeps C φ p) (hf : ∀ a, Keeps C φ (f a)) : Keeps C φ (p >>= f) :=
  hp.meets_bind hf fun _ => rfl

theorem Keeps.tryCatch {p : Prog Op Ans E α} (hp : Keeps C φ p) {h : E → Prog Op Ans E α}
    (hh : ∀ e, Keeps C φ (h e)) : Keeps C φ (p.tryCatch h) := by
  refine meets_tryCatch.mpr (Meets.mono hp fun φ' r hr => ?_)
  cases r with
  | ok => exact hr
  | error e => exact hr ▸ hh e

theorem Keeps.attempt (hp : Keeps C φ p) : Keeps C φ p.attempt := by
  have hok : Keeps C φ (p >>= fun a => ret (Except.ok a : Except E α)) :=
    hp.bind fun a => keeps_ret _
  exact hok.tryCatch fun e => keeps_ret _

theorem Keeps.meets (hp : Keeps C φ p) (hQ : ∀ r, Q φ r) : p.Meets C Q φ :=
  Meets.mono hp fun _ r h => h ▸ hQ r

/-! ## Programs alone on a store -/

section

universe w

variable {σ : Type w} (exec : (o : Op) → σ → Ans o × σ)

/-- The outcome of a program that nothing interrupts, and the store after it. -/
def runOn : Prog Op Ans E α → σ → Except E α × σ
  | ret a, s => (.ok a, s)
  | raise e, s => (.error e, s)
  | call o k, s => (k (.ok (exec o s).1)).runOn (exec o s).2

@[simp] theorem runOn_pure (a : α) (s : σ) :
    (pure a : Prog Op Ans E α).runOn exec s = (.ok a, s) := rfl

theorem runOn_perform_bind (o : Op) (f : Ans o → Prog Op Ans E β) (s : σ) :
    ((perform o : Prog Op Ans E (Ans o)) >>= f).runOn exec s =
      (f (exec o s).1).runOn exec (exec o s).2 := rfl

end

end Prog

end JavisSaas.Lib
