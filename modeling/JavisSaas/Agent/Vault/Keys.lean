import Mathlib.Data.List.Sort
import JavisSaas.Lib.Cipher
import JavisSaas.Lib.Dict
import JavisSaas.Lib.Fallible
import JavisSaas.Agent.Governance.Policy

/-!
# Keys of workspaces

`packages/agent/vault/keys.py`, and the check of path segments in `object_store.py`. A key that is
made at random, and the nonce of an encryption, are given with the operation; a nonce stands before
what it encrypts, and a wrapped key is kept without its Base64.
-/

namespace JavisSaas.Agent.Vault

open JavisSaas.Lib JavisSaas.Agent.Governance

/-! ## Errors and segments -/

inductive VaultError
  | security (message : String)
  | key (message : String)
  | quota (message : String)
  /-- The exceptions of the cipher and of `json`. -/
  | invalidTag
  | json
  deriving DecidableEq

/-- `str(exc)` -/
def VaultError.text : VaultError → String
  | security message => message
  | key message => message
  | quota message => message
  | invalidTag => ""
  | json => "..."

def maxSegmentLen : ℕ := 200

/-- `_ALLOWED_SEGMENT` -/
def isAllowed (c : Char) : Bool := c.isAlphanum || c ∈ ['.', '_', '-']

/-- The characters that are not allowed, each once and in their order. -/
def badChars (name : String) : String :=
  String.ofList ((name.toList.filter (!isAllowed ·)).dedup.insertionSort (· ≤ ·))

def checkSegment (name field : String) : Except VaultError Unit := do
  require (name ≠ "") (.security s!"{field} rỗng/không hợp lệ")
  require (name ≠ "." ∧ name ≠ "..") (.security s!"{field} không được là '.' hoặc '..'")
  require (name.length ≤ maxSegmentLen) (.security s!"{field} quá dài")
  require (strip name = name) (.security s!"{field} có khoảng trắng đầu/cuối")
  require (name.toList.head? ≠ some '.') (.security s!"{field} không được bắt đầu bằng '.'")
  require (name.toList.all isAllowed)
    (.security s!"{field} chứa ký tự không cho phép: '{badChars name}'")

/-! ## `WorkspaceKeyManager` -/

/-- Messages are bound to the workspace they are encrypted for. -/
structure KeyRuntime (B : Type) where
  cipher : AuthenticatedCipher B (Option String)
  master : B

structure DekFile (B : Type) where
  version : ℕ
  wrapped : B
  history : List B := []

/-- The files under `host/keys/`, and the keys in memory. -/
structure KeyManager (B : Type) where
  files : Dict String (DekFile B) := ∅
  cache : Dict String B := ∅

namespace KeyManager

variable {B : Type} (rt : KeyRuntime B) (km : KeyManager B) (workspaceId : String)

def wrap (dek nonce : B) : B := rt.cipher.encrypt rt.master nonce none dek

def unwrap (wrapped : B) : Option B := rt.cipher.decrypt rt.master none wrapped

def readFile : Except VaultError (Option (DekFile B)) := do
  checkSegment workspaceId "workspace_id"
  return km.files.get? workspaceId

def writeFile (file : DekFile B) : KeyManager B :=
  { km with files := km.files.set workspaceId file }

def ensureDek (dek nonce : B) : Except VaultError (KeyManager B) := do
  match ← km.readFile workspaceId with
  | some _ => return km
  | none => return km.writeFile workspaceId { version := 1, wrapped := wrap rt dek nonce }

def dek : Except VaultError B × KeyManager B :=
  match km.cache.get? workspaceId with
  | some dek => (.ok dek, km)
  | none =>
    match km.readFile workspaceId with
    | .error e => (.error e, km)
    | .ok none =>
      (.error (.key s!"workspace {workspaceId} chưa có DEK — gọi ensure_dek()"), km)
    | .ok (some file) =>
      match unwrap rt file.wrapped with
      | none => (.error .invalidTag, km)
      | some dek => (.ok dek, { km with cache := km.cache.set workspaceId dek })

def encrypt (plaintext nonce : B) : Except VaultError B × KeyManager B :=
  let (dek, km) := km.dek rt workspaceId
  (dek.map fun dek => rt.cipher.encrypt dek nonce (some workspaceId) plaintext, km)

def undecipherable (exc : VaultError) : VaultError :=
  .key (s!"không giải mã được payload của workspace {workspaceId} " ++
    s!"(sai key / cross-workspace / tamper): {exc.text}")

def decrypt (blob : B) : Except VaultError B × KeyManager B :=
  let (dek, km) := km.dek rt workspaceId
  match dek with
  | .error e => (.error (undecipherable workspaceId e), km)
  | .ok dek =>
    match rt.cipher.decrypt dek (some workspaceId) blob with
    | none => (.error (undecipherable workspaceId .invalidTag), km)
    | some plaintext => (.ok plaintext, km)

/-- Gives the new version of the key. -/
def rotate (newDek nonce : B) : Except VaultError (ℕ × KeyManager B) := do
  match ← km.readFile workspaceId with
  | none => throw (.key s!"workspace {workspaceId} chưa có DEK")
  | some file =>
    let km := km.writeFile workspaceId
      { version := file.version + 1
        wrapped := wrap rt newDek nonce
        history := file.history ++ [file.wrapped] }
    return (file.version + 1, { km with cache := km.cache.set workspaceId newDek })

/-! ### What the operations keep -/

section Keeping

variable {rt km} {km' : KeyManager B} {workspaceId}

theorem unwrap_wrap (dek nonce : B) : unwrap rt (wrap rt dek nonce) = some dek :=
  rt.cipher.decrypt_encrypt _ _ _ _

/-- The key that the file of a workspace holds. -/
def Holds (rt : KeyRuntime B) (km : KeyManager B) (workspaceId : String) (dek : B) : Prop :=
  ∃ file, km.files.get? workspaceId = some file ∧ unwrap rt file.wrapped = some dek

/-- The keys in memory are the ones in the files. -/
def CacheHolds (rt : KeyRuntime B) (km : KeyManager B) : Prop :=
  ∀ workspaceId dek, km.cache.get? workspaceId = some dek → km.Holds rt workspaceId dek

theorem CacheHolds.empty : CacheHolds rt {} := fun _ _ h => nomatch h

theorem dek_spec (h : CacheHolds rt km) :
    (km.dek rt workspaceId).2.files = km.files ∧ CacheHolds rt (km.dek rt workspaceId).2 ∧
      ∀ dek, (km.dek rt workspaceId).1 = .ok dek → km.Holds rt workspaceId dek := by
  unfold KeyManager.dek
  split
  · next dek hdek =>
    refine ⟨rfl, h, ?_⟩
    rintro _ ⟨rfl⟩
    exact h _ _ hdek
  · split
    · exact ⟨rfl, h, fun _ hdek => nomatch hdek⟩
    · exact ⟨rfl, h, fun _ hdek => nomatch hdek⟩
    · next file hfile =>
      obtain ⟨_, hfile⟩ := of_bind hfile
      have hfile := pure_eq_ok.mp hfile
      split
      · exact ⟨rfl, h, fun _ hdek => nomatch hdek⟩
      · next dek hdek =>
        refine ⟨rfl, fun ws dek' hcache => ?_, ?_⟩
        · rw [Dict.get?_set] at hcache
          split_ifs at hcache with hws
          · subst hws
            exact ⟨file, hfile, Option.some.inj hcache ▸ hdek⟩
          · exact h ws dek' hcache
        · rintro _ ⟨rfl⟩
          exact ⟨file, hfile, hdek⟩

theorem Holds.unique {dek dek' : B} (h : km.Holds rt workspaceId dek)
    (h' : km.Holds rt workspaceId dek') : dek = dek' := by
  obtain ⟨file, hfile, hunwrap⟩ := h
  obtain ⟨file', hfile', hunwrap'⟩ := h'
  cases hfile.symm.trans hfile'
  exact Option.some.inj (hunwrap.symm.trans hunwrap')

theorem dek_of_holds {d : B} (h : CacheHolds rt km)
    (hws : checkSegment workspaceId "workspace_id" = .ok ()) (hd : km.Holds rt workspaceId d) :
    (km.dek rt workspaceId).1 = .ok d := by
  unfold KeyManager.dek
  split
  · next dek hdek => rw [hd.unique (h _ _ hdek)]
  · obtain ⟨file, hfile, hunwrap⟩ := hd
    have hread : km.readFile workspaceId = .ok (some file) := by
      rw [readFile, hws, hfile]
      rfl
    rw [hread]
    dsimp only
    rw [hunwrap]

theorem encrypt_spec {plaintext nonce : B} (h : CacheHolds rt km) :
    (km.encrypt rt workspaceId plaintext nonce).2.files = km.files ∧
      CacheHolds rt (km.encrypt rt workspaceId plaintext nonce).2 ∧
      ∀ blob, (km.encrypt rt workspaceId plaintext nonce).1 = .ok blob →
        ∃ dek, km.Holds rt workspaceId dek ∧
          blob = rt.cipher.encrypt dek nonce (some workspaceId) plaintext := by
  obtain ⟨hfiles, hcache, hdek⟩ := @dek_spec B rt km workspaceId h
  refine ⟨hfiles, hcache, fun blob hblob => ?_⟩
  change (km.dek rt workspaceId).1.map _ = _ at hblob
  cases hd : (km.dek rt workspaceId).1 with
  | error =>
    rw [hd] at hblob
    nomatch hblob
  | ok dek =>
    rw [hd] at hblob
    exact ⟨dek, hdek dek hd, (Except.ok.inj hblob).symm⟩

theorem decrypt_snd {blob : B} : (km.decrypt rt workspaceId blob).2 = (km.dek rt workspaceId).2 := by
  unfold KeyManager.decrypt
  dsimp only
  split
  · rfl
  · split <;> rfl

theorem decrypt_eq_ok {blob plaintext : B} :
    (km.decrypt rt workspaceId blob).1 = .ok plaintext ↔
      ∃ dek, (km.dek rt workspaceId).1 = .ok dek ∧
        rt.cipher.decrypt dek (some workspaceId) blob = some plaintext := by
  unfold KeyManager.decrypt
  dsimp only
  split
  · next hdek => simp [hdek]
  · next dek hdek =>
    split
    · next hnone => simp [hdek, hnone]
    · next hsome => simp [hdek, hsome]

/-- Every file is still there, and has its key unless its version has grown. -/
def Grows (km km' : KeyManager B) : Prop :=
  ∀ workspaceId file, km.files.get? workspaceId = some file →
    ∃ file', km'.files.get? workspaceId = some file' ∧ file.version ≤ file'.version ∧
      (file.version = file'.version → file'.wrapped = file.wrapped)

theorem Grows.of_files (h : km'.files = km.files) : Grows km km' := by
  intro ws file hfile
  exact ⟨file, by rw [h, hfile], Nat.le_refl _, fun _ => rfl⟩

/-- A file is written where there is none, or with a greater version. -/
theorem Grows.writeFile {file : DekFile B}
    (h : ∀ old, km.files.get? workspaceId = some old → old.version < file.version) :
    Grows km (km.writeFile workspaceId file) := by
  intro ws old hold
  by_cases hws : workspaceId = ws
  · subst hws
    have hlt := h old hold
    exact ⟨file, Dict.get?_set_self _ _ _, Nat.le_of_lt hlt, fun heq => absurd heq (Nat.ne_of_lt hlt)⟩
  · exact ⟨old, (Dict.get?_set_of_ne _ hws _).trans hold, Nat.le_refl _, fun _ => rfl⟩

theorem ensureDek_spec {dek nonce : B} (h : CacheHolds rt km)
    (hok : km.ensureDek rt workspaceId dek nonce = .ok km') : Grows km km' ∧ CacheHolds rt km' := by
  obtain ⟨file?, hfile, hok⟩ := bind_eq_ok.mp hok
  obtain ⟨_, hfile⟩ := of_bind hfile
  cases hfile
  cases hfile : km.files.get? workspaceId with
  | some =>
    rw [hfile] at hok
    cases hok
    exact ⟨.of_files rfl, h⟩
  | none =>
    rw [hfile] at hok
    cases hok
    refine ⟨.writeFile fun old hold => (nomatch hfile.symm.trans hold), fun ws dek' hcache => ?_⟩
    obtain ⟨file, hws, hunwrap⟩ := h ws dek' hcache
    refine ⟨file, ?_, hunwrap⟩
    rw [writeFile, Dict.get?_set_of_ne _ (fun heq => ?_), hws]
    subst heq
    nomatch hfile.symm.trans hws

theorem rotate_spec {newDek nonce : B} {version : ℕ} (h : CacheHolds rt km)
    (hok : km.rotate rt workspaceId newDek nonce = .ok (version, km')) :
    Grows km km' ∧ CacheHolds rt km' := by
  obtain ⟨file?, hfile, hok⟩ := bind_eq_ok.mp hok
  obtain ⟨_, hfile⟩ := of_bind hfile
  cases hfile
  cases hfile : km.files.get? workspaceId with
  | none =>
    rw [hfile] at hok
    nomatch hok
  | some =>
    rw [hfile] at hok
    obtain ⟨-, rfl⟩ := Prod.mk.inj (pure_eq_ok.mp hok)
    constructor
    · refine @Grows.writeFile B km workspaceId _ fun old hold => ?_
      cases hfile.symm.trans hold
      exact Nat.lt_succ_self _
    · intro ws dek' hcache
      rw [Dict.get?_set] at hcache
      split_ifs at hcache with hws
      · subst hws
        cases hcache
        exact ⟨_, Dict.get?_set_self _ _ _, unwrap_wrap _ _⟩
      · obtain ⟨old, hold, hunwrap⟩ := h ws dek' hcache
        exact ⟨old, (Dict.get?_set_of_ne _ hws _).trans hold, hunwrap⟩

end Keeping

end KeyManager

end JavisSaas.Agent.Vault
