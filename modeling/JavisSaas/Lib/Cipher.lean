import Mathlib.Tactic.Common

/-!
# Authenticated encryption

An ideal cipher that binds every message to its key and to a context: a message is decrypted
to what was encrypted, and under another key or in another context not at all.
-/

namespace JavisSaas.Lib

universe u v

/-- `B` are texts and keys, and `C` the contexts that a message is bound to. -/
structure AuthenticatedCipher (B : Type u) (C : Type v) where
  encrypt (key nonce : B) (context : C) (plain : B) : B
  decrypt (key : B) (context : C) (message : B) : Option B
  decrypt_encrypt (key nonce : B) (context : C) (plain : B) :
    decrypt key context (encrypt key nonce context plain) = some plain
  decrypt_other {key key' : B} {context context' : C} (nonce plain : B)
    (h : key ≠ key' ∨ context ≠ context') :
    decrypt key' context' (encrypt key nonce context plain) = none

namespace AuthenticatedCipher

variable {B : Type u} {C : Type v} (cipher : AuthenticatedCipher B C)

/-- What is decrypted was encrypted under the same key in the same context. -/
theorem decrypt_encrypt_eq_some {key key' nonce plain plain' : B} {context context' : C} :
    cipher.decrypt key' context' (cipher.encrypt key nonce context plain) = some plain' ↔
      key = key' ∧ context = context' ∧ plain = plain' := by
  constructor
  · intro h
    by_cases hother : key ≠ key' ∨ context ≠ context'
    · rw [cipher.decrypt_other nonce plain hother] at h
      nomatch h
    · rw [not_or, not_not, not_not] at hother
      obtain ⟨rfl, rfl⟩ := hother
      rw [cipher.decrypt_encrypt] at h
      exact ⟨rfl, rfl, Option.some.inj h⟩
  · rintro ⟨rfl, rfl, rfl⟩
    exact cipher.decrypt_encrypt _ _ _ _

end AuthenticatedCipher

end JavisSaas.Lib
