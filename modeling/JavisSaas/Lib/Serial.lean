import JavisSaas.Lib.Pool

/-!
# Programs one after another

A pool in which a program starts, and the store changes from outside, only while no other is under
way; `admits` says which answers the services behind an operation can give.

* `Workload.serial`: the transition system.
* `Pool.Solo`: at most one program can move.
* `Workload.SerialInv.next`: what every operation keeps, every step keeps: an invariant between the
  programs, and facts of the running one in its phase.
-/

namespace JavisSaas.Lib

universe u v w

variable {Op : Type u} {Ans : Op → Type u} {E α : Type u} {τ : Type v} {σ ε : Type w}

/-- The program can still move. -/
def Thread.isActive (t : Thread Op Ans E α τ) : Bool := t.alive && t.code.pending.isSome

namespace Pool

/-- No program is under way. -/
def quiet (s : Pool Op Ans E α τ σ) : Bool := s.threads.all fun t => !t.isActive

/-- What program `i` is about to perform, if it can still move. -/
def nextAt (s : Pool Op Ans E α τ σ) (i : ℕ) : Option (τ × Op) :=
  s.threads[i]?.bind fun t =>
    if t.alive then t.code.pending.map fun o => (t.tag, o) else none

/-- At most one program can move. -/
def Solo (s : Pool Op Ans E α τ σ) : Prop :=
  ∀ (i j : ℕ) (t t' : Thread Op Ans E α τ), s.threads[i]? = some t → s.threads[j]? = some t' →
    t.isActive = true → t'.isActive = true → i = j

variable {s : Pool Op Ans E α τ σ}

theorem nextAt_of_call {i : ℕ} {tag : τ} {o : Op} {k : Except E (Ans o) → Prog Op Ans E α}
    {busy : Bool} (ht : s.threads[i]? = some ⟨tag, .call o k, busy, true⟩) :
    s.nextAt i = some (tag, o) := by
  rw [nextAt, ht]
  rfl

theorem thread_of_nextAt {i : ℕ} {tag : τ} {o : Op} (h : s.nextAt i = some (tag, o)) :
    ∃ t, s.threads[i]? = some t ∧ t.tag = tag ∧ t.code.pending = some o ∧ t.isActive = true := by
  obtain ⟨t, ht, h⟩ := Option.bind_eq_some_iff.mp h
  split_ifs at h with halive
  obtain ⟨o', ho, h⟩ := Option.map_eq_some_iff.mp h
  cases h
  refine ⟨t, ht, rfl, ho, ?_⟩
  rw [Thread.isActive, halive, ho]
  rfl

theorem not_isActive_of_quiet (h : s.quiet = true) {i : ℕ} {t : Thread Op Ans E α τ}
    (ht : s.threads[i]? = some t) : t.isActive ≠ true := by
  have hall := List.all_eq_true.mp h t (List.mem_of_getElem? ht)
  simpa using hall

end Pool

namespace Workload

variable (W : Workload Op Ans E α τ σ ε) (admits : (o : Op) → σ → Except E (Ans o) → Bool)

/-- The step is taken in turn, and with an answer that can be given. -/
def InTurn (s : Pool Op Ans E α τ σ) : PoolLabel Op Ans E τ ε → Prop
  | .start _ => s.quiet = true
  | .begin _ => True
  | .step i answer => ∀ x ∈ s.nextAt i, admits x.2 s.store (answer x.2) = true
  | .crash _ => True
  | .act _ => s.quiet = true

instance (s : Pool Op Ans E α τ σ) :
    (l : PoolLabel Op Ans E τ ε) → Decidable (InTurn admits s l)
  | .start _ => inferInstanceAs (Decidable (_ = true))
  | .begin _ => instDecidableTrue
  | .step i answer =>
    inferInstanceAs (Decidable (∀ x ∈ s.nextAt i, admits x.2 s.store (answer x.2) = true))
  | .crash _ => instDecidableTrue
  | .act _ => inferInstanceAs (Decidable (_ = true))

/-- One program after another. -/
def serial : System (Pool Op Ans E α τ σ) (PoolLabel Op Ans E τ ε) where
  next s l := if InTurn admits s l then W.next s l else none

variable {W admits}

theorem next_of_serial {s s' : Pool Op Ans E α τ σ} {l : PoolLabel Op Ans E τ ε}
    (h : (W.serial admits).next s l = some s') : InTurn admits s l ∧ W.next s l = some s' := by
  have h : (if InTurn admits s l then W.next s l else none) = some s' := h
  split_ifs at h with hturn
  exact ⟨hturn, h⟩

/-! ## One program at a time -/

theorem not_isActive_stopped {tag : τ} {code : Prog Op Ans E α} {busy : Bool} :
    ¬(⟨tag, code, busy, false⟩ : Thread Op Ans E α τ).isActive = true := Bool.false_ne_true

/-- Replacing a program that could move, or stopping one, leaves at most one. -/
theorem solo_set {s : Pool Op Ans E α τ σ} (h : s.Solo) {i : ℕ} {t t' : Thread Op Ans E α τ}
    (ht : s.threads[i]? = some t) (hactive : t'.isActive = true → t.isActive = true)
    {store : σ} {log : List (Entry Op Ans E τ)} :
    Pool.Solo { store, threads := s.threads.set i t', log } := by
  have hsame : ∀ (j : ℕ) (u : Thread Op Ans E α τ), (s.threads.set i t')[j]? = some u →
      u.isActive = true → ∃ u', s.threads[j]? = some u' ∧ u'.isActive = true := by
    intro j u hu hact
    rcases getElem?_set hu with ⟨rfl, rfl⟩ | ⟨-, hu⟩
    · exact ⟨t, ht, hactive hact⟩
    · exact ⟨u, hu, hact⟩
  intro j j' u u' hu hu' hact hact'
  obtain ⟨w, hw, hwact⟩ := hsame j u hu hact
  obtain ⟨w', hw', hwact'⟩ := hsame j' u' hu' hact'
  exact h j j' w w' hw hw' hwact hwact'

theorem solo_next {s s' : Pool Op Ans E α τ σ} {l : PoolLabel Op Ans E τ ε} (h : s.Solo)
    (hs : (W.serial admits).next s l = some s') : s'.Solo := by
  obtain ⟨hturn, hs⟩ := next_of_serial hs
  cases W.moves_of_next hs with
  | start =>
    intro i j t t' ht ht' hact hact'
    rcases getElem?_start ht with ht | ⟨rfl, -⟩
    · exact absurd hact (Pool.not_isActive_of_quiet hturn ht)
    · rcases getElem?_start ht' with ht' | ⟨rfl, -⟩
      · exact absurd hact' (Pool.not_isActive_of_quiet hturn ht')
      · rfl
  | begin ht => exact solo_set h ht fun _ => rfl
  | step _ ht => exact solo_set h ht fun _ => rfl
  | crash ht => exact solo_set h ht fun hact => absurd hact not_isActive_stopped
  | act => exact h

/-! ## Invariants -/

section Rule

variable {Φ : Type v} (W admits)
variable (C : τ → Contract Op Ans E Φ) (φ₀ : Φ) (Q : τ → Φ → Except E α → Prop)
variable (K : σ → List (Entry Op Ans E τ) → Prop)
variable (F : τ → Φ → σ → List (Entry Op Ans E τ) → Prop)
variable (G : σ → List (Entry Op Ans E τ) → τ → Op → Prop)

/-- `K` is kept by everything, `F` holds of the running program, if states satisfy `G`. -/
structure SerialRule : Prop where
  start {store : σ} {log : List (Entry Op Ans E τ)} (tag : τ) : K store log → F tag φ₀ store log
  began {store : σ} {log : List (Entry Op Ans E τ)} (i : ℕ) (tag : τ) (o : Op) :
    K store log → K store (log ++ [Entry.began i tag o])
  factsBegan {store : σ} {log : List (Entry Op Ans E τ)} {tag' : τ} {φ : Φ} (i : ℕ) (tag : τ)
    (o : Op) : F tag' φ store log → F tag' φ store (log ++ [Entry.began i tag o])
  did {store store' : σ} {log : List (Entry Op Ans E τ)} {φ : Φ} {i : ℕ} {tag : τ} {o : Op}
    {answer r : Except E (Ans o)} : K store log → F tag φ store log → (C tag).allowed φ o →
    G store log tag o → admits o store answer = true → W.respond o answer store = (r, store') →
    K store' (log ++ [Entry.did i tag o r]) ∧
      F tag ((C tag).after φ o r) store' (log ++ [Entry.did i tag o r])
  act {store : σ} {log : List (Entry Op Ans E τ)} (e : ε) : K store log → K (W.act e store) log

/-- The operation is performed in a state that satisfies `G`. -/
def PerformedIn (s : Pool Op Ans E α τ σ) : PoolLabel Op Ans E τ ε → Prop
  | .step i _ => ∀ x ∈ s.nextAt i, G s.store s.log x.1 x.2
  | _ => True

instance [∀ store log tag o, Decidable (G store log tag o)] (s : Pool Op Ans E α τ σ) :
    (l : PoolLabel Op Ans E τ ε) → Decidable (PerformedIn G s l)
  | .start _ => instDecidableTrue
  | .begin _ => instDecidableTrue
  | .step i _ => inferInstanceAs (Decidable (∀ x ∈ s.nextAt i, G s.store s.log x.1 x.2))
  | .crash _ => instDecidableTrue
  | .act _ => instDecidableTrue

structure SerialInv (s : Pool Op Ans E α τ σ) : Prop where
  conforms : Conforms W C φ₀ Q s
  solo : s.Solo
  kept : K s.store s.log
  facts : ∀ (i : ℕ) (t : Thread Op Ans E α τ), s.threads[i]? = some t → t.isActive = true →
    F t.tag (phase (C t.tag).after φ₀ i s.log) s.store s.log

variable {W admits C φ₀ Q K F G}

theorem serialInv_empty {store : σ} (h : K store []) :
    SerialInv W C φ₀ Q K F ({ store } : Pool Op Ans E α τ σ) where
  conforms := conforms_empty
  solo := fun _ _ _ _ h => (nomatch h)
  kept := h
  facts := fun _ _ h => (nomatch h)

namespace SerialInv

variable {s s' : Pool Op Ans E α τ σ} {l : PoolLabel Op Ans E τ ε}

/-- The facts of a program that is about to perform an operation, and its leave to do so. -/
theorem at_nextAt (h : SerialInv W C φ₀ Q K F s) {i : ℕ} {tag : τ} {o : Op}
    (hi : s.nextAt i = some (tag, o)) : ∃ φ, F tag φ s.store s.log ∧ (C tag).allowed φ o := by
  obtain ⟨t, ht, rfl, ho, hact⟩ := Pool.thread_of_nextAt hi
  exact ⟨_, h.facts i t ht hact, h.conforms.allowed ht ho⟩

/-- What one operation keeps. -/
theorem next (h : SerialInv W C φ₀ Q K F s) (rule : SerialRule W admits C φ₀ K F G)
    (hC : ∀ tag, (W.program tag).Meets (C tag) (Q tag) φ₀)
    (hassumed : ∀ tag φ o r, (C tag).assumed φ o r) (hl : PerformedIn G s l)
    (hs : (W.serial admits).next s l = some s') : SerialInv W C φ₀ Q K F s' := by
  have hsolo := solo_next h.solo hs
  obtain ⟨hturn, hnext⟩ := next_of_serial hs
  have hconf : Conforms W C φ₀ Q s' := by
    refine h.conforms.next hC ?_ hnext
    cases l with
    | step => exact fun x _ => hassumed _ _ _ _
    | _ => exact trivial
  cases W.moves_of_next hnext with
  | start tag =>
    refine ⟨hconf, hsolo, h.kept, fun i t ht hact => ?_⟩
    rcases getElem?_start ht with ht | ⟨rfl, rfl⟩
    · exact absurd hact (Pool.not_isActive_of_quiet hturn ht)
    · show F tag (phase (C tag).after φ₀ s.threads.length s.log) s.store s.log
      rw [phase_of_fresh h.conforms.threads]
      exact rule.start tag h.kept
  | @begin i tag o k ht hlast =>
    refine ⟨hconf, hsolo, rule.began i tag o h.kept, fun j t htj hact => ?_⟩
    rw [phase_began]
    apply rule.factsBegan
    rcases getElem?_set htj with ⟨rfl, rfl⟩ | ⟨-, htj⟩
    · exact h.facts i ⟨tag, .call o k, false, true⟩ ht rfl
    · exact h.facts j t htj hact
  | @step i tag o k busy answer r store ht hlast hr =>
    have hat := s.nextAt_of_call ht
    have hdid := rule.did (i := i) h.kept (h.facts i _ ht rfl) (h.conforms.allowed ht rfl)
      (hl _ hat) (hturn _ hat) hr
    refine ⟨hconf, hsolo, hdid.1, fun j t htj hact => ?_⟩
    rcases getElem?_set htj with ⟨rfl, rfl⟩ | ⟨hij, htj⟩
    · rw [phase_did_self]
      exact hdid.2
    · exact absurd (h.solo i j _ t ht htj rfl hact) hij
  | @crash i tag code busy ht =>
    refine ⟨hconf, hsolo, h.kept, fun j t htj hact => ?_⟩
    rcases getElem?_set htj with ⟨rfl, rfl⟩ | ⟨-, htj⟩
    · exact absurd hact not_isActive_stopped
    · exact h.facts j t htj hact
  | act e =>
    refine ⟨hconf, hsolo, rule.act e h.kept, fun i t ht hact => ?_⟩
    exact absurd hact (Pool.not_isActive_of_quiet hturn ht)

/-- The facts of the program that performed an operation, whether or not it is finished. -/
theorem facts_of_step (h : SerialInv W C φ₀ Q K F s) (rule : SerialRule W admits C φ₀ K F G)
    {i : ℕ} {answer : (o : Op) → Except E (Ans o)}
    (hl : PerformedIn G s (.step i answer : PoolLabel Op Ans E τ ε))
    (hs : (W.serial admits).next s (.step i answer) = some s') {t : Thread Op Ans E α τ}
    (ht : s'.threads[i]? = some t) :
    F t.tag (phase (C t.tag).after φ₀ i s'.log) s'.store s'.log := by
  obtain ⟨hturn, hnext⟩ := next_of_serial hs
  cases W.moves_of_next hnext with
  | @step i tag o k busy answer r store hti hlast hr =>
    have hat := s.nextAt_of_call hti
    have hdid := rule.did (i := i) h.kept (h.facts i _ hti rfl) (h.conforms.allowed hti rfl)
      (hl _ hat) (hturn _ hat) hr
    rcases getElem?_set ht with ⟨-, rfl⟩ | ⟨hij, -⟩
    · rw [phase_did_self]
      exact hdid.2
    · exact absurd rfl hij

end SerialInv

end Rule

end Workload

end JavisSaas.Lib
