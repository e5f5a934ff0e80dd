import JavisSaas.Agent.Remote.CommandEnvelopes
import JavisSaas.Lib.Codes

/-!
# Quoted and encoded texts

The escapes of `json.dumps` and the bytes of UTF-8 are codes that can be read back.

* `quote_prefixFree`: a quoted text ends at its closing quote.
* `encode_inj`: different texts have different bytes.
-/

namespace JavisSaas.Agent.Remote

open JavisSaas.Lib

/-! ## Escapes -/

/-- The code points with an escape of two characters, and the second of these. -/
def shortEscapes : List (ℕ × ℕ) :=
  [(34, 34), (92, 92), (10, 110), (13, 114), (9, 116), (12, 102), (8, 98)]

theorem escape_cases (c : ℕ) :
    (∃ x, (c, x) ∈ shortEscapes ∧ escape c = [92, x]) ∨
      (c < 32 ∧ escape c = [92, 117, 48, 48, hexDigit (c / 16), hexDigit (c % 16)]) ∨
        (c ≠ 34 ∧ c ≠ 92 ∧ escape c = [c]) := by
  unfold escape
  split_ifs with h34 h92 h10 h13 h9 h12 h8 h32
  · exact .inl ⟨34, by simp [h34, shortEscapes], rfl⟩
  · exact .inl ⟨92, by simp [h92, shortEscapes], rfl⟩
  · exact .inl ⟨110, by simp [h10, shortEscapes], rfl⟩
  · exact .inl ⟨114, by simp [h13, shortEscapes], rfl⟩
  · exact .inl ⟨116, by simp [h9, shortEscapes], rfl⟩
  · exact .inl ⟨102, by simp [h12, shortEscapes], rfl⟩
  · exact .inl ⟨98, by simp [h8, shortEscapes], rfl⟩
  · exact .inr (.inl ⟨h32, rfl⟩)
  · exact .inr (.inr ⟨h34, h92, rfl⟩)

theorem shortEscapes_inj :
    ∀ p ∈ shortEscapes, ∀ q ∈ shortEscapes, p.2 = q.2 → p.1 = q.1 := by decide

theorem shortEscapes_ne : ∀ p ∈ shortEscapes, p.2 ≠ 117 := by decide

theorem hexDigit_inj {m n : ℕ} (h : hexDigit m = hexDigit n) : m = n := by
  unfold hexDigit at h
  split_ifs at h <;> omega

theorem escape_prefixFree : PrefixFree escape := by
  intro c d r s h
  rcases escape_cases c with ⟨x, hcx, hc⟩ | ⟨hc32, hc⟩ | ⟨hc34, hc92, hc⟩ <;>
    rcases escape_cases d with ⟨y, hdy, hd⟩ | ⟨hd32, hd⟩ | ⟨hd34, hd92, hd⟩ <;>
    rw [hc, hd] at h
  · simp only [List.cons_append, List.nil_append, List.cons.injEq, true_and] at h
    exact ⟨shortEscapes_inj _ hcx _ hdy h.1, h.2⟩
  · simp only [List.cons_append, List.nil_append, List.cons.injEq, true_and] at h
    exact absurd h.1 (shortEscapes_ne _ hcx)
  · simp only [List.cons_append, List.nil_append, List.cons.injEq] at h
    exact absurd h.1.symm hd92
  · simp only [List.cons_append, List.nil_append, List.cons.injEq, true_and] at h
    exact absurd h.1.symm (shortEscapes_ne _ hdy)
  · simp only [List.cons_append, List.nil_append, List.cons.injEq, true_and] at h
    have hhigh := hexDigit_inj h.1
    have hlow := hexDigit_inj h.2.1
    exact ⟨by omega, h.2.2⟩
  · simp only [List.cons_append, List.nil_append, List.cons.injEq] at h
    exact absurd h.1.symm hd92
  · simp only [List.cons_append, List.nil_append, List.cons.injEq] at h
    exact absurd h.1 hc92
  · simp only [List.cons_append, List.nil_append, List.cons.injEq] at h
    exact absurd h.1 hc92
  · simp only [List.cons_append, List.nil_append, List.cons.injEq] at h
    exact h

theorem escape_start (c : ℕ) : ∃ x l, escape c = x :: l ∧ x ≠ 34 := by
  rcases escape_cases c with ⟨x, -, hc⟩ | ⟨-, hc⟩ | ⟨hc34, -, hc⟩
  · exact ⟨92, _, hc, by decide⟩
  · exact ⟨92, _, hc, by decide⟩
  · exact ⟨c, _, hc, hc34⟩

theorem quote_prefixFree : PrefixFree quote := by
  intro a b r s h
  simp only [quote, List.cons_append, List.nil_append, List.append_assoc, List.cons.injEq,
    true_and] at h
  exact terminated_inj escape_prefixFree escape_start h

/-! ## UTF-8 -/

theorem utf8_ne_nil (c : ℕ) : utf8 c ≠ [] := by
  unfold utf8
  split_ifs <;> exact List.cons_ne_nil _ _

/-- The first byte tells how many there are, and the bytes are the digits of the code point. -/
theorem utf8_prefixFree : PrefixFree utf8 := by
  intro c d r s h
  unfold utf8 at h
  split_ifs at h <;>
    simp only [List.cons_append, List.nil_append, List.cons.injEq] at h <;>
    first
      | exact ⟨by omega, h.2⟩
      | exact ⟨by omega, h.2.2⟩
      | exact ⟨by omega, h.2.2.2⟩
      | exact ⟨by omega, h.2.2.2.2⟩
      | omega

theorem encode_eq_ok {s : Text} {bytes : Bytes} (h : encode s = .ok bytes) :
    bytes = s.flatMap utf8 := by
  unfold encode require at h
  split_ifs at h
  · exact (Except.ok.inj h).symm
  · nomatch h

theorem encode_inj {s t : Text} {bytes : Bytes} (hs : encode s = .ok bytes)
    (ht : encode t = .ok bytes) : s = t :=
  flatMap_inj utf8_prefixFree utf8_ne_nil ((encode_eq_ok hs).symm.trans (encode_eq_ok ht))

end JavisSaas.Agent.Remote
