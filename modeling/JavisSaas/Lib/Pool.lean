import Mathlib.Data.List.Basic
import JavisSaas.Lib.Program
import JavisSaas.Lib.Transition

/-!
# Programs that share a store

A pool runs any number of programs over one store. The environment chooses whose operation comes
next, may make it raise, answers what the store does not, and may stop a program between any two
operations. Operations that last begin and end in two steps. The history is kept in `log`.

* `Workload.system`: the transition system, `Workload.Moves` its steps.
* `phase`: the phase of a contract that the history has led a program to.
* `Before`: one entry of a history precedes another.
-/

namespace JavisSaas.Lib

universe u v w

/-- What it was started for, what is left, whether an operation lasts, and whether it can move. -/
structure Thread (Op : Type u) (Ans : Op → Type u) (E α : Type u) (τ : Type v) where
  tag : τ
  code : Prog Op Ans E α
  busy : Bool := false
  alive : Bool := true

/-- What the history records, with the number and the tag of the program it was done by. -/
inductive Entry (Op : Type u) (Ans : Op → Type u) (E : Type u) (τ : Type v) where
  | began (i : ℕ) (tag : τ) (o : Op)
  | did (i : ℕ) (tag : τ) (o : Op) (r : Except E (Ans o))

def Entry.thread {Op : Type u} {Ans : Op → Type u} {E : Type u} {τ : Type v} :
    Entry Op Ans E τ → ℕ
  | began i _ _ => i
  | did i _ _ _ => i

structure Pool (Op : Type u) (Ans : Op → Type u) (E α : Type u) (τ : Type v) (σ : Type w) where
  store : σ
  threads : List (Thread Op Ans E α τ) := []
  log : List (Entry Op Ans E τ) := []

/-- What program `i` was started for, and the operation it performs next. -/
def Pool.pendingAt {Op : Type u} {Ans : Op → Type u} {E α : Type u} {τ : Type v} {σ : Type w}
    (s : Pool Op Ans E α τ σ) (i : ℕ) : Option (τ × Op) :=
  s.threads[i]?.bind fun t => t.code.pending.map fun o => (t.tag, o)

theorem Pool.pendingAt_of_call {Op : Type u} {Ans : Op → Type u} {E α : Type u} {τ : Type v}
    {σ : Type w} (s : Pool Op Ans E α τ σ) {i : ℕ} {tag : τ} {o : Op}
    {k : Except E (Ans o) → Prog Op Ans E α} {busy alive : Bool}
    (ht : s.threads[i]? = some ⟨tag, .call o k, busy, alive⟩) : s.pendingAt i = some (tag, o) := by
  rw [Pool.pendingAt, ht]
  rfl

/-- The steps of a pool; `act` changes the store from outside. -/
inductive PoolLabel (Op : Type u) (Ans : Op → Type u) (E : Type u) (τ : Type v) (ε : Type w) where
  | start (tag : τ)
  | begin (i : ℕ)
  | step (i : ℕ) (answer : (o : Op) → Except E (Ans o))
  | crash (i : ℕ)
  | act (e : ε)

/-- `exec` performs the operations, and is `none` on those that the environment answers. -/
structure Workload (Op : Type u) (Ans : Op → Type u) (E α : Type u) (τ : Type v) (σ ε : Type w) where
  program : τ → Prog Op Ans E α
  exec : (o : Op) → σ → Option (Ans o × σ)
  lasting : Op → Bool
  act : ε → σ → σ

namespace Workload

variable {Op : Type u} {Ans : Op → Type u} {E α : Type u} {τ : Type v} {σ ε : Type w}
variable (W : Workload Op Ans E α τ σ ε)

/-- An operation that raises leaves the store as it is. -/
def respond (o : Op) (answer : Except E (Ans o)) (store : σ) : Except E (Ans o) × σ :=
  match answer with
  | .error e => (.error e, store)
  | .ok a =>
    match W.exec o store with
    | none => (.ok a, store)
    | some (a', store') => (.ok a', store')

def next (s : Pool Op Ans E α τ σ) : PoolLabel Op Ans E τ ε → Option (Pool Op Ans E α τ σ)
  | .start tag => some { s with threads := s.threads ++ [{ tag, code := W.program tag }] }
  | .begin i =>
    match s.threads[i]? with
    | some ⟨tag, .call o k, false, true⟩ =>
      if W.lasting o then
        some { s with
          threads := s.threads.set i ⟨tag, .call o k, true, true⟩
          log := s.log ++ [Entry.began i tag o] }
      else none
    | _ => none
  | .step i answer =>
    match s.threads[i]? with
    | some ⟨tag, .call o k, busy, true⟩ =>
      if W.lasting o = true → busy = true then
        some {
          store := (W.respond o (answer o) s.store).2
          threads := s.threads.set i ⟨tag, k (W.respond o (answer o) s.store).1, false, true⟩
          log := s.log ++ [Entry.did i tag o (W.respond o (answer o) s.store).1] }
      else none
    | _ => none
  | .crash i =>
    match s.threads[i]? with
    | some ⟨tag, code, _, true⟩ => some { s with threads := s.threads.set i ⟨tag, code, false, false⟩ }
    | _ => none
  | .act e => some { s with store := W.act e s.store }

def system : System (Pool Op Ans E α τ σ) (PoolLabel Op Ans E τ ε) := ⟨W.next⟩

/-- What a step does. -/
inductive Moves (s : Pool Op Ans E α τ σ) :
    PoolLabel Op Ans E τ ε → Pool Op Ans E α τ σ → Prop
  | start (tag : τ) :
    Moves s (.start tag) { s with threads := s.threads ++ [{ tag, code := W.program tag }] }
  | begin {i : ℕ} {tag : τ} {o : Op} {k : Except E (Ans o) → Prog Op Ans E α}
    (ht : s.threads[i]? = some ⟨tag, .call o k, false, true⟩) (hl : W.lasting o = true) :
    Moves s (.begin i) { s with
      threads := s.threads.set i ⟨tag, .call o k, true, true⟩
      log := s.log ++ [Entry.began i tag o] }
  | step {i : ℕ} {tag : τ} {o : Op} {k : Except E (Ans o) → Prog Op Ans E α} {busy : Bool}
    (answer : (o : Op) → Except E (Ans o)) {r : Except E (Ans o)} {store : σ}
    (ht : s.threads[i]? = some ⟨tag, .call o k, busy, true⟩) (hl : W.lasting o = true → busy = true)
    (hr : W.respond o (answer o) s.store = (r, store)) :
    Moves s (.step i answer) {
      store, threads := s.threads.set i ⟨tag, k r, false, true⟩,
      log := s.log ++ [Entry.did i tag o r] }
  | crash {i : ℕ} {tag : τ} {code : Prog Op Ans E α} {busy : Bool}
    (ht : s.threads[i]? = some ⟨tag, code, busy, true⟩) :
    Moves s (.crash i) { s with threads := s.threads.set i ⟨tag, code, false, false⟩ }
  | act (e : ε) : Moves s (.act e) { s with store := W.act e s.store }

theorem moves_of_next {s s' : Pool Op Ans E α τ σ} {l : PoolLabel Op Ans E τ ε}
    (h : W.next s l = some s') : W.Moves s l s' := by
  cases l with
  | start tag => exact Option.some.inj h ▸ .start tag
  | act e => exact Option.some.inj h ▸ .act e
  | begin =>
    simp only [next] at h
    split at h
    · next ht =>
      split_ifs at h with hl
      exact Option.some.inj h ▸ .begin ht hl
    · nomatch h
  | step _ answer =>
    simp only [next] at h
    split at h
    · next ht =>
      split_ifs at h with hl
      exact Option.some.inj h ▸ .step answer ht hl rfl
    · nomatch h
  | crash =>
    simp only [next] at h
    split at h
    · next ht => exact Option.some.inj h ▸ .crash ht
    · nomatch h

end Workload

/-! ## Phases -/

section Phases

variable {Op : Type u} {Ans : Op → Type u} {E : Type u} {τ : Type v} {Φ : Type w}
variable (after : Φ → (o : Op) → Except E (Ans o) → Φ)

/-- The phase of program `i` after one more entry of the history. -/
def advance (i : ℕ) (φ : Φ) : Entry Op Ans E τ → Φ
  | .began _ _ _ => φ
  | .did j _ o r => if j = i then after φ o r else φ

/-- The phase that the history has led program `i` to. -/
def phase (φ₀ : Φ) (i : ℕ) (log : List (Entry Op Ans E τ)) : Φ := log.foldl (advance after i) φ₀

variable {after} {φ₀ : Φ} {i j : ℕ} {log : List (Entry Op Ans E τ)} {tag : τ} {o : Op}

@[simp] theorem phase_nil : phase after φ₀ i ([] : List (Entry Op Ans E τ)) = φ₀ := rfl

@[simp] theorem phase_began :
    phase after φ₀ i (log ++ [Entry.began j tag o]) = phase after φ₀ i log := by
  simp [phase, advance]

@[simp] theorem phase_did_self {r : Except E (Ans o)} :
    phase after φ₀ i (log ++ [Entry.did i tag o r]) = after (phase after φ₀ i log) o r := by
  simp [phase, advance]

theorem phase_did_of_ne {r : Except E (Ans o)} (h : j ≠ i) :
    phase after φ₀ i (log ++ [Entry.did j tag o r]) = phase after φ₀ i log := by
  simp [phase, advance, h]

/-- A program that has done nothing is in its first phase. -/
theorem phase_of_fresh (h : ∀ e ∈ log, e.thread < i) : phase after φ₀ i log = φ₀ := by
  have hfold : ∀ (l : List (Entry Op Ans E τ)) (φ : Φ), (∀ e ∈ l, e.thread < i) →
      l.foldl (advance after i) φ = φ := by
    intro l
    induction l with
    | nil => intro φ _; rfl
    | cons e _ ih =>
      intro φ hl
      have he : e.thread < i := hl e List.mem_cons_self
      rw [List.foldl_cons, ih _ fun e' he' => hl e' (List.mem_cons_of_mem _ he')]
      cases e with
      | began => rfl
      | did => exact if_neg (Nat.ne_of_lt he)
  exact hfold log φ₀ h

end Phases

/-! ## Conforming pools -/

namespace Workload

variable {Op : Type u} {Ans : Op → Type u} {E α : Type u} {τ : Type v} {σ ε : Type w}
variable {Φ : Type v} (W : Workload Op Ans E α τ σ ε)
variable (C : τ → Contract Op Ans E Φ) (φ₀ : Φ) (Q : τ → Φ → Except E α → Prop)

/-- What is left of every program meets its contract in its phase. -/
structure Conforms (s : Pool Op Ans E α τ σ) : Prop where
  meets : ∀ (i : ℕ) (t : Thread Op Ans E α τ), s.threads[i]? = some t →
    t.code.Meets (C t.tag) (Q t.tag) (phase (C t.tag).after φ₀ i s.log)
  threads : ∀ e ∈ s.log, e.thread < s.threads.length
  busy : ∀ (i : ℕ) (t : Thread Op Ans E α τ), s.threads[i]? = some t → t.busy = true →
    t.alive = true ∧ ∃ o, t.code.pending = some o ∧ W.lasting o = true

/-- The step gives the answer that the program counts on. -/
def AnswersAs (s : Pool Op Ans E α τ σ) : PoolLabel Op Ans E τ ε → Prop
  | .step i answer => ∀ x ∈ s.pendingAt i,
    (C x.1).assumed (phase (C x.1).after φ₀ i s.log) x.2 (W.respond x.2 (answer x.2) s.store).1
  | _ => True

instance [∀ tag φ o r, Decidable ((C tag).assumed φ o r)] (s : Pool Op Ans E α τ σ) :
    (l : PoolLabel Op Ans E τ ε) → Decidable (W.AnswersAs C φ₀ s l)
  | .step i answer => inferInstanceAs (Decidable (∀ x ∈ s.pendingAt i,
    (C x.1).assumed (phase (C x.1).after φ₀ i s.log) x.2 (W.respond x.2 (answer x.2) s.store).1))
  | .start _ => instDecidableTrue
  | .begin _ => instDecidableTrue
  | .crash _ => instDecidableTrue
  | .act _ => instDecidableTrue

variable {W C φ₀ Q}

theorem Conforms.allowed {s : Pool Op Ans E α τ σ} (h : Conforms W C φ₀ Q s) {i : ℕ}
    {t : Thread Op Ans E α τ} (ht : s.threads[i]? = some t) {o : Op}
    (ho : t.code.pending = some o) : (C t.tag).allowed (phase (C t.tag).after φ₀ i s.log) o := by
  have hm := h.meets i t ht
  obtain ⟨tag, code, busy, alive⟩ := t
  cases code with
  | ret | raise => nomatch ho
  | call => cases ho; exact hm.1

theorem conforms_empty {store : σ} :
    Conforms W C φ₀ Q ({ store } : Pool Op Ans E α τ σ) :=
  ⟨fun _ _ h => (nomatch h), fun _ h => (nomatch h), fun _ _ h => (nomatch h)⟩

variable {ts : List (Thread Op Ans E α τ)}

theorem getElem?_start {t t' : Thread Op Ans E α τ} {i : ℕ}
    (h : (ts ++ [t])[i]? = some t') : ts[i]? = some t' ∨ i = ts.length ∧ t' = t := by
  rw [List.getElem?_append] at h
  split_ifs at h with hi
  · exact Or.inl h
  · rw [List.getElem?_singleton] at h
    split_ifs at h with h0
    exact Or.inr ⟨by omega, (Option.some.inj h).symm⟩

theorem getElem?_set {t t' : Thread Op Ans E α τ} {i j : ℕ}
    (h : (ts.set i t)[j]? = some t') : i = j ∧ t' = t ∨ i ≠ j ∧ ts[j]? = some t' := by
  rw [List.getElem?_set] at h
  split_ifs at h with hij hlt
  · exact Or.inl ⟨hij, (Option.some.inj h).symm⟩
  · exact Or.inr ⟨hij, h⟩

theorem lt_of_getElem? {t : Thread Op Ans E α τ} {i : ℕ}
    (h : ts[i]? = some t) : i < ts.length := (List.getElem?_eq_some_iff.mp h).1

/-- A step that answers as the contract counts on leads to a conforming pool. -/
theorem Conforms.next {s s' : Pool Op Ans E α τ σ} {l : PoolLabel Op Ans E τ ε}
    (hC : ∀ tag, (W.program tag).Meets (C tag) (Q tag) φ₀) (h : Conforms W C φ₀ Q s)
    (hl : W.AnswersAs C φ₀ s l) (hs : W.next s l = some s') : Conforms W C φ₀ Q s' := by
  cases W.moves_of_next hs with
  | start tag =>
    constructor
    · intro i t ht
      rcases getElem?_start ht with ht | ⟨rfl, rfl⟩
      · exact h.meets i t ht
      · rw [phase_of_fresh h.threads]
        exact hC tag
    · intro e he
      have := h.threads e he
      rw [List.length_append]
      omega
    · intro i t ht hb
      rcases getElem?_start ht with ht | ⟨rfl, rfl⟩
      · exact h.busy i t ht hb
      · nomatch hb
  | @begin i tag o k ht hlast =>
    constructor
    · intro j t htj
      rw [phase_began]
      rcases getElem?_set htj with ⟨rfl, rfl⟩ | ⟨_, htj⟩
      · have hmeets := h.meets i _ ht
        exact hmeets
      · exact h.meets j t htj
    · intro e he
      rw [List.length_set]
      rcases mem_concat he with he | he
      · exact h.threads e he
      · rw [he]
        exact lt_of_getElem? ht
    · intro j t htj hb
      rcases getElem?_set htj with ⟨rfl, rfl⟩ | ⟨_, htj⟩
      · exact ⟨rfl, o, rfl, hlast⟩
      · exact h.busy j t htj hb
  | @step i tag o k busy answer r store ht hlast hr =>
    have hanswer := hl (tag, o) (s.pendingAt_of_call ht)
    rw [hr] at hanswer
    constructor
    · intro j t htj
      rcases getElem?_set htj with ⟨rfl, rfl⟩ | ⟨hij, htj⟩
      · rw [phase_did_self]
        exact (h.meets i _ ht).2 r hanswer
      · rw [phase_did_of_ne hij]
        exact h.meets j t htj
    · intro e he
      rw [List.length_set]
      rcases mem_concat he with he | he
      · exact h.threads e he
      · rw [he]
        exact lt_of_getElem? ht
    · intro j t htj hb
      rcases getElem?_set htj with ⟨rfl, rfl⟩ | ⟨_, htj⟩
      · nomatch hb
      · exact h.busy j t htj hb
  | @crash i tag code busy ht =>
    constructor
    · intro j t htj
      rcases getElem?_set htj with ⟨rfl, rfl⟩ | ⟨_, htj⟩
      · have hmeets := h.meets i _ ht
        exact hmeets
      · exact h.meets j t htj
    · intro e he
      rw [List.length_set]
      exact h.threads e he
    · intro j t htj hb
      rcases getElem?_set htj with ⟨rfl, rfl⟩ | ⟨_, htj⟩
      · nomatch hb
      · exact h.busy j t htj hb
  | act => exact ⟨h.meets, h.threads, h.busy⟩

end Workload

/-! ## Order in a history -/

section Order

variable {A : Type u} {P R : A → Prop} {log : List A} {e : A}

/-- An entry that satisfies `P` is followed, at some distance, by one that satisfies `R`. -/
def Before (P R : A → Prop) (log : List A) : Prop :=
  ∃ pre e post, log = pre ++ e :: post ∧ R e ∧ ∃ x ∈ pre, P x

@[simp] theorem not_before_nil : ¬Before P R [] := by
  rintro ⟨pre, e, post, h, _⟩
  simp at h

theorem before_snoc : Before P R (log ++ [e]) ↔ Before P R log ∨ R e ∧ ∃ x ∈ log, P x := by
  constructor
  · rintro ⟨pre, e', post, h, he', x, hx, hP⟩
    rcases List.eq_nil_or_concat post with rfl | ⟨post, e'', rfl⟩
    · obtain ⟨rfl, hlast⟩ := List.append_inj' h rfl
      rw [List.singleton_inj.mp hlast]
      exact Or.inr ⟨he', x, hx, hP⟩
    · rw [List.concat_eq_append, ← List.cons_append, ← List.append_assoc] at h
      obtain ⟨rfl, -⟩ := List.append_inj' h rfl
      exact Or.inl ⟨pre, e', post, rfl, he', x, hx, hP⟩
  · rintro (⟨pre, e', post, rfl, he', x, hx, hP⟩ | ⟨he, x, hx, hP⟩)
    · exact ⟨pre, e', post ++ [e], by simp, he', x, hx, hP⟩
    · exact ⟨log, e, [], rfl, he, x, hx, hP⟩

theorem before_cons {x : A} : Before P R (x :: log) ↔ P x ∧ (∃ e ∈ log, R e) ∨ Before P R log := by
  constructor
  · rintro ⟨pre, e, post, h, he, y, hy, hP⟩
    cases pre with
    | nil => nomatch hy
    | cons _ pre =>
      obtain ⟨rfl, rfl⟩ := List.cons_eq_cons.mp h
      rcases List.mem_cons.mp hy with rfl | hy
      · exact Or.inl ⟨hP, e, List.mem_append_right _ List.mem_cons_self, he⟩
      · exact Or.inr ⟨pre, e, post, rfl, he, y, hy, hP⟩
  · rintro (⟨hP, e, he, hR⟩ | ⟨pre, e, post, rfl, he, y, hy, hP⟩)
    · obtain ⟨pre, post, rfl⟩ := List.append_of_mem he
      exact ⟨x :: pre, e, post, rfl, hR, x, List.mem_cons_self, hP⟩
    · exact ⟨x :: pre, e, post, rfl, he, y, List.mem_cons_of_mem _ hy, hP⟩

/-- Every entry of a longer history together with what came before it. -/
theorem forall_split_snoc {C : List A → A → Prop} :
    (∀ pre x post, log ++ [e] = pre ++ x :: post → C pre x) ↔
      (∀ pre x post, log = pre ++ x :: post → C pre x) ∧ C log e := by
  constructor
  · intro h
    refine ⟨fun pre x post hlog => h pre x (post ++ [e]) ?_, h log e [] rfl⟩
    rw [hlog, List.append_assoc, List.cons_append]
  · rintro ⟨h, he⟩ pre x post hlog
    rcases List.eq_nil_or_concat post with rfl | ⟨post, e', rfl⟩
    · obtain ⟨rfl, hlast⟩ := List.append_inj' hlog rfl
      rw [← List.singleton_inj.mp hlast]
      exact he
    · rw [List.concat_eq_append, ← List.cons_append, ← List.append_assoc] at hlog
      obtain ⟨rfl, -⟩ := List.append_inj' hlog rfl
      exact h pre x post rfl

instance decidableBefore [DecidablePred P] [DecidablePred R] :
    (log : List A) → Decidable (Before P R log)
  | [] => isFalse not_before_nil
  | x :: log =>
    have := decidableBefore log
    decidable_of_iff (P x ∧ (∃ e ∈ log, R e) ∨ Before P R log) before_cons.symm

end Order

end JavisSaas.Lib
