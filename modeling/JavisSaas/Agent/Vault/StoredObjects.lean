import JavisSaas.Agent.Vault.ObjectStore

/-!
# What the object store returns

All blobs of a version share its metadata, and a message is decrypted with the current key only.

* `storedLaw`: a blob that is the only one of its version reads as it was last put, until the
  version is deleted, or the key rotated; and it never reads otherwise.
* `not_readsLastPut_rotated`: what was put before a rotation is not readable.
-/

namespace JavisSaas.Agent.Vault

open JavisSaas.Lib

variable {B : Type}

/-! ## The system -/

/-- A put, with the version of the key that its bytes are encrypted with. -/
structure PutRecord (B : Type) where
  blobName : String
  data : B
  keyVersion : Option ℕ
  deriving DecidableEq

structure StoreState (B : Type) where
  store : ObjectStore B := {}
  /-- The puts to every version since it was deleted, first to last. -/
  puts : Dict Path (List (PutRecord B)) := ∅

inductive StoreOp (B : Type)
  | put (ref : ObjectRef) (data nonce : B) (quotaRefuses : Option String)
  | get (workspaceId : String) (ref : ObjectRef)
  | archive (workspaceId : String) (ref : ObjectRef)
  | delete (workspaceId : String) (ref : ObjectRef)
  | ensureDek (workspaceId : String) (dek nonce : B)
  | rotate (workspaceId : String) (dek nonce : B)

namespace StoreState

variable (s : StoreState B)

def putsOf (ref : ObjectRef) : List (PutRecord B) := (s.puts.get? ref.versionDir).getD []

/-- The version of the key of a workspace, if the store encrypts. -/
def keyVersion (encrypts : Bool) (workspaceId : String) : Option ℕ :=
  if encrypts then (s.store.keys.files.get? workspaceId).map (·.version) else none

end StoreState

/-- An operation that fails leaves what it has done so far. -/
def StoreState.next (rt : StoreRuntime B) (encrypts : Bool) (s : StoreState B) :
    StoreOp B → StoreState B
  | .put ref data nonce quotaRefuses =>
    match s.store.put rt encrypts ref data nonce quotaRefuses with
    | (.error _, store) => { s with store }
    | (.ok _, store) =>
      let record := ⟨ref.blobName, data, s.keyVersion encrypts ref.workspaceId⟩
      { store, puts := s.puts.set ref.versionDir (s.putsOf ref ++ [record]) }
  | .get workspaceId ref => { s with store := (s.store.get rt encrypts workspaceId ref).2 }
  | .archive workspaceId ref =>
    { s with store := (s.store.archive rt workspaceId ref).toOption.getD s.store }
  | .delete workspaceId ref =>
    match s.store.deleteAfterRetention rt workspaceId ref with
    | .error _ => s
    | .ok store => { store, puts := s.puts.erase ref.versionDir }
  | .ensureDek workspaceId dek nonce =>
    match s.store.keys.ensureDek rt.toKeyRuntime workspaceId dek nonce with
    | .error _ => s
    | .ok keys => { s with store := { s.store with keys } }
  | .rotate workspaceId dek nonce =>
    match s.store.keys.rotate rt.toKeyRuntime workspaceId dek nonce with
    | .error _ => s
    | .ok (_, keys) => { s with store := { s.store with keys } }

def StoreState.system (rt : StoreRuntime B) (encrypts : Bool) :
    System (StoreState B) (StoreOp B) :=
  ⟨fun s op => some (s.next rt encrypts op)⟩

/-! ## The law -/

/-- What the reference reads as. -/
def StoreState.reads (rt : StoreRuntime B) (encrypts : Bool) (s : StoreState B) (ref : ObjectRef) :
    Except VaultError B :=
  (s.store.get rt encrypts ref.workspaceId ref).1

/-- Every reference reads as it was last put. -/
def ReadsLastPut (rt : StoreRuntime B) (encrypts : Bool) (s : StoreState B) : Prop :=
  ∀ (ref : ObjectRef) (p : PutRecord B),
    ((s.putsOf ref).filter (·.blobName = ref.blobName)).getLast? = some p →
      s.reads rt encrypts ref = .ok p.data

/-- The blob is the only one of its version, whose metadata is then its own. -/
def OnlyBlob (s : StoreState B) (ref : ObjectRef) : Prop :=
  ref.blobName ≠ "meta.json" ∧ ∀ p ∈ s.putsOf ref, p.blobName = ref.blobName

/-- The last put of the only blob of a version. -/
structure LastPut (s : StoreState B) (ref : ObjectRef) (p : PutRecord B) : Prop where
  only : OnlyBlob s ref
  last : (s.putsOf ref).getLast? = some p

structure StoredLaw (rt : StoreRuntime B) (encrypts : Bool) (s : StoreState B) : Prop where
  /-- What was put under the current key reads as it was put. -/
  readable : ∀ ref p, LastPut s ref p → p.keyVersion = s.keyVersion encrypts ref.workspaceId →
    s.reads rt encrypts ref = .ok p.data
  /-- Nothing reads as anything else. -/
  unchanged : ∀ ref p, LastPut s ref p → ∀ data, s.reads rt encrypts ref = .ok data → data = p.data

/-! ## The invariant -/

/-- What a stored blob is. -/
def Sealed (rt : StoreRuntime B) (encrypts : Bool) (keys : KeyManager B) (ref : ObjectRef)
    (p : PutRecord B) (raw : B) : Prop :=
  if encrypts then
    ∃ key nonce file, raw = rt.cipher.encrypt key nonce (some ref.workspaceId) p.data ∧
      keys.files.get? ref.workspaceId = some file ∧
      ∃ n, p.keyVersion = some n ∧ n ≤ file.version ∧
        (n = file.version → KeyManager.unwrap rt.toKeyRuntime file.wrapped = some key)
  else raw = p.data

/-- A put is in the files, with metadata of its own. -/
structure Stored (rt : StoreRuntime B) (encrypts : Bool) (store : ObjectStore B) (ref : ObjectRef)
    (p : PutRecord B) : Prop where
  checked : ref.check = .ok ()
  info : ∃ text info, store.tree.read? ref.metaPath = some text ∧ rt.loads text = some info ∧
    info.workspaceId = some ref.workspaceId ∧ info.checksumSha256 = some (rt.sha256 p.data) ∧
    info.encrypted = encrypts
  blob : ∃ raw, store.tree.read? ref.blobPath = some raw ∧
    Sealed rt encrypts store.keys ref p raw

structure StoreInv (rt : StoreRuntime B) (encrypts : Bool) (s : StoreState B) : Prop where
  cached : KeyManager.CacheHolds rt.toKeyRuntime s.store.keys
  stored : ∀ ref p, LastPut s ref p → Stored rt encrypts s.store ref p

theorem StoreInv.init (rt : StoreRuntime B) (encrypts : Bool) : StoreInv rt encrypts {} where
  cached := .empty
  stored _ _ h := nomatch h.last

/-! ## Reading what is stored -/

section Reading

variable {rt : StoreRuntime B} {encrypts : Bool} {store : ObjectStore B} {ref : ObjectRef}
  {p : PutRecord B}

theorem checkChecksum_eq_ok {info : Meta} {data data' : B}
    (h : ObjectStore.checkChecksum rt info data = .ok data') : data' = data := by
  unfold ObjectStore.checkChecksum at h
  split at h
  · exact (Except.ok.inj h).symm
  · exact (Except.ok.inj h).symm
  · have h := of_require h
    exact (pure_eq_ok.mp h).symm

theorem checkChecksum_self {info : Meta} {data : B}
    (h : info.checksumSha256 = some (rt.sha256 data)) :
    ObjectStore.checkChecksum rt info data = .ok data := by
  unfold ObjectStore.checkChecksum
  split
  · rfl
  · rfl
  · next checksum hchecksum =>
    refine require_bind_eq_ok.mpr ⟨?_, rfl⟩
    exact Option.some.inj (h.symm.trans hchecksum)

theorem workspaceId_of_check (h : ref.check = .ok ()) :
    checkSegment ref.workspaceId "workspace_id" = .ok () := by
  obtain ⟨_, h⟩ := of_bind h
  obtain ⟨_, h⟩ := of_bind h
  obtain ⟨_, h⟩ := of_bind h
  obtain ⟨_, h⟩ := of_bind h
  exact h

theorem Stored.find (h : Stored rt encrypts store ref p) : ∃ info raw,
    store.find rt ref.workspaceId ref = .ok (info, raw) ∧ info.encrypted = encrypts ∧
      info.checksumSha256 = some (rt.sha256 p.data) ∧
      Sealed rt encrypts store.keys ref p raw := by
  obtain ⟨text, info, htext, hloads, hws, hchecksum, hencrypted⟩ := h.info
  obtain ⟨raw, hraw, hsealed⟩ := h.blob
  refine ⟨info, raw, ?_, hencrypted, hchecksum, hsealed⟩
  have hmeta : store.loadMeta rt ref = .ok info := by
    rw [ObjectStore.loadMeta, htext]
    dsimp only
    rw [hloads]
  refine require_bind_eq_ok.mpr ⟨rfl, ?_⟩
  rw [h.checked]
  refine bind_eq_ok.mpr ⟨(), rfl, bind_eq_ok.mpr ⟨info, hmeta, ?_⟩⟩
  refine require_bind_eq_ok.mpr ⟨hws, ?_⟩
  rw [hraw]
  rfl

/-- A reference reads as the plain bytes of what is stored, once they match the checksum. -/
theorem get_of_find {info : Meta} {raw : B}
    (h : store.find rt ref.workspaceId ref = .ok (info, raw)) :
    (store.get rt encrypts ref.workspaceId ref).1 =
      (store.opened rt encrypts ref.workspaceId info raw).1.bind
        (ObjectStore.checkChecksum rt info) := by
  unfold ObjectStore.get
  rw [h]

/-- What is stored reads as it was put, if it reads, and it does under the key it was put with. -/
theorem Stored.reads (h : Stored rt encrypts store ref p)
    (hcached : KeyManager.CacheHolds rt.toKeyRuntime store.keys) :
    (∀ data, (store.get rt encrypts ref.workspaceId ref).1 = .ok data → data = p.data) ∧
      ((encrypts = true → ∀ file, store.keys.files.get? ref.workspaceId = some file →
        p.keyVersion = some file.version) →
          (store.get rt encrypts ref.workspaceId ref).1 = .ok p.data) := by
  obtain ⟨info, raw, hfind, hencrypted, hchecksum, hsealed⟩ := h.find
  rw [get_of_find hfind]
  unfold ObjectStore.opened
  rw [hencrypted]
  unfold Sealed at hsealed
  cases encrypts with
  | false =>
    rw [if_neg Bool.false_ne_true] at hsealed ⊢
    subst hsealed
    exact ⟨fun data hdata => checkChecksum_eq_ok hdata, fun _ => checkChecksum_self hchecksum⟩
  | true =>
    rw [if_pos rfl] at hsealed ⊢
    rw [if_pos rfl]
    obtain ⟨key, nonce, file, rfl, hfile, n, hn, hle, hkey⟩ := hsealed
    constructor
    · intro data hdata
      obtain ⟨plain, hplain, hdata⟩ := bind_eq_ok.mp hdata
      obtain ⟨dek, -, hdecrypted⟩ := KeyManager.decrypt_eq_ok.mp hplain
      obtain ⟨-, -, rfl⟩ := rt.cipher.decrypt_encrypt_eq_some.mp hdecrypted
      exact checkChecksum_eq_ok hdata
    · intro hversion
      have heq : n = file.version := Option.some.inj (hn.symm.trans (hversion rfl file hfile))
      have hdek := KeyManager.dek_of_holds hcached (workspaceId_of_check h.checked)
        ⟨file, hfile, hkey heq⟩
      refine bind_eq_ok.mpr ⟨p.data, ?_, checkChecksum_self hchecksum⟩
      exact KeyManager.decrypt_eq_ok.mpr ⟨key, hdek, rt.cipher.decrypt_encrypt _ _ _ _⟩

end Reading

/-! ## Paths -/

section Paths

variable {ref ref' : ObjectRef} {a b : String}

theorem versionDir_concat :
    ref.versionDir ++ [a] = ref'.versionDir ++ [b] ↔ ref.versionDir = ref'.versionDir ∧ a = b := by
  constructor
  · intro h
    exact ⟨List.append_inj_left' h rfl, List.singleton_inj.mp (List.append_inj_right' h rfl)⟩
  · rintro ⟨hdir, rfl⟩
    rw [hdir]

theorem versionDir_of_below (h : ref.versionDir <+: ref'.versionDir ++ [b]) :
    ref.versionDir = ref'.versionDir :=
  (List.prefix_of_prefix_length_le h (List.prefix_append _ _) (Nat.le_refl 6)).eq_of_length rfl

end Paths

/-! ## What the operations keep -/

section Keeping

variable {rt : StoreRuntime B} {encrypts : Bool} {s s' : StoreState B} {ref : ObjectRef}
  {p : PutRecord B}

theorem Sealed.mono {keys keys' : KeyManager B} {raw : B} (h : Sealed rt encrypts keys ref p raw)
    (hgrows : KeyManager.Grows keys keys') : Sealed rt encrypts keys' ref p raw := by
  unfold Sealed at h ⊢
  split_ifs at h ⊢
  · obtain ⟨key, nonce, file, hraw, hfile, n, hn, hle, hkey⟩ := h
    obtain ⟨file', hfile', hle', hwrapped⟩ := hgrows _ file hfile
    refine ⟨key, nonce, file', hraw, hfile', n, hn, Nat.le_trans hle hle', fun heq => ?_⟩
    have hversion : file.version = file'.version := Nat.le_antisymm hle' (heq ▸ hle)
    rw [hwrapped hversion]
    exact hkey (heq.trans hversion.symm)
  · exact h

theorem Stored.mono {store store' : ObjectStore B} (h : Stored rt encrypts store ref p)
    (hmeta : store'.tree.read? ref.metaPath = store.tree.read? ref.metaPath)
    (hblob : store'.tree.read? ref.blobPath = store.tree.read? ref.blobPath)
    (hgrows : KeyManager.Grows store.keys store'.keys) : Stored rt encrypts store' ref p where
  checked := h.checked
  info := by
    rw [hmeta]
    exact h.info
  blob := by
    obtain ⟨raw, hraw, hsealed⟩ := h.blob
    exact ⟨raw, hblob.trans hraw, hsealed.mono hgrows⟩

theorem StoreInv.sameFiles (hinv : StoreInv rt encrypts s)
    (htree : ∀ path, s'.store.tree.read? path = s.store.tree.read? path) (hputs : s'.puts = s.puts)
    (hgrows : KeyManager.Grows s.store.keys s'.store.keys)
    (hcached : KeyManager.CacheHolds rt.toKeyRuntime s'.store.keys) : StoreInv rt encrypts s' where
  cached := hcached
  stored ref p h := by
    have hold : LastPut s ref p := by
      have hof : s'.putsOf ref = s.putsOf ref := by
        rw [StoreState.putsOf, hputs]
        rfl
      obtain ⟨⟨hname, hall⟩, hlast⟩ := h
      rw [hof] at hall hlast
      exact ⟨⟨hname, hall⟩, hlast⟩
    exact (hinv.stored ref p hold).mono (htree _) (htree _) hgrows

theorem get_snd (rt : StoreRuntime B) (encrypts : Bool) (store : ObjectStore B)
    (workspaceId : String) (ref : ObjectRef) :
    (store.get rt encrypts workspaceId ref).2 = store ∨
      (store.get rt encrypts workspaceId ref).2 =
        { store with keys := (store.keys.dek rt.toKeyRuntime workspaceId).2 } := by
  unfold ObjectStore.get
  split
  · exact .inl rfl
  · unfold ObjectStore.opened
    split_ifs
    · exact .inr (by rw [← KeyManager.decrypt_snd])
    · exact .inl rfl
    · exact .inl rfl

theorem StoreInv.get (hinv : StoreInv rt encrypts s) (workspaceId : String) (ref : ObjectRef) :
    StoreInv rt encrypts (s.next rt encrypts (.get workspaceId ref)) := by
  obtain ⟨hfiles, hcached, -⟩ := @KeyManager.dek_spec B rt.toKeyRuntime s.store.keys workspaceId
    hinv.cached
  show StoreInv rt encrypts { s with store := (s.store.get rt encrypts workspaceId ref).2 }
  rcases get_snd rt encrypts s.store workspaceId ref with h | h
  · rw [h]
    exact hinv
  · rw [h]
    exact hinv.sameFiles (fun _ => rfl) rfl (.of_files hfiles) hcached

theorem StoreInv.ensureDek (hinv : StoreInv rt encrypts s) (workspaceId : String) (dek nonce : B) :
    StoreInv rt encrypts (s.next rt encrypts (.ensureDek workspaceId dek nonce)) := by
  unfold StoreState.next
  dsimp only
  split
  · exact hinv
  · next keys hkeys =>
    obtain ⟨hgrows, hcached⟩ := KeyManager.ensureDek_spec hinv.cached hkeys
    exact hinv.sameFiles (fun _ => rfl) rfl hgrows hcached

theorem StoreInv.rotate (hinv : StoreInv rt encrypts s) (workspaceId : String) (dek nonce : B) :
    StoreInv rt encrypts (s.next rt encrypts (.rotate workspaceId dek nonce)) := by
  unfold StoreState.next
  dsimp only
  split
  · exact hinv
  · next version keys hkeys =>
    obtain ⟨hgrows, hcached⟩ := KeyManager.rotate_spec hinv.cached hkeys
    exact hinv.sameFiles (fun _ => rfl) rfl hgrows hcached

theorem StoreInv.archive (hinv : StoreInv rt encrypts s) (workspaceId : String) (ref : ObjectRef) :
    StoreInv rt encrypts (s.next rt encrypts (.archive workspaceId ref)) := by
  show StoreInv rt encrypts
    { s with store := (s.store.archive rt workspaceId ref).toOption.getD s.store }
  cases harchive : s.store.archive rt workspaceId ref with
  | error => exact hinv
  | ok =>
    have harchive := of_require harchive
    obtain ⟨_, harchive⟩ := of_bind harchive
    obtain ⟨info, hinfo, harchive⟩ := bind_eq_ok.mp harchive
    cases harchive
    refine ⟨hinv.cached, fun ref' p h => ?_⟩
    have hstored := hinv.stored ref' p ⟨h.only, h.last⟩
    have hblob : ref.metaPath ≠ ref'.blobPath := fun heq => h.only.1 (versionDir_concat.mp heq).2.symm
    refine ⟨hstored.checked, ?_, ?_⟩
    · show ∃ text info', (s.store.tree.write ref.metaPath _).read? ref'.metaPath = some text ∧ _
      rw [FileTree.read?_write]
      split_ifs with hmeta
      · obtain ⟨text, info', htext, hloads, hws, hchecksum, hencrypted⟩ := hstored.info
        have heq : info' = info := by
          rw [← hmeta] at htext
          rw [ObjectStore.loadMeta, htext] at hinfo
          dsimp only at hinfo
          rw [hloads] at hinfo
          exact Except.ok.inj hinfo
        subst heq
        exact ⟨_, _, rfl, rt.loads_dumps _, hws, hchecksum, hencrypted⟩
      · exact hstored.info
    · obtain ⟨raw, hraw, hsealed⟩ := hstored.blob
      exact ⟨raw, (FileTree.read?_write _ _ _).trans (by rw [if_neg hblob, hraw]), hsealed⟩

theorem StoreInv.delete (hinv : StoreInv rt encrypts s) (workspaceId : String) (ref : ObjectRef) :
    StoreInv rt encrypts (s.next rt encrypts (.delete workspaceId ref)) := by
  unfold StoreState.next
  dsimp only
  split
  · exact hinv
  · next store hdelete =>
    have hdelete := of_require hdelete
    obtain ⟨_, hdelete⟩ := of_bind hdelete
    have htree : store.keys = s.store.keys ∧ (store.tree = s.store.tree ∨
        store.tree = s.store.tree.rmtree ref.versionDir) := by
      split_ifs at hdelete
      · obtain ⟨_, hdelete⟩ := of_bind hdelete
        cases hdelete
        exact ⟨rfl, .inr rfl⟩
      · cases hdelete
        exact ⟨rfl, .inl rfl⟩
    obtain ⟨hkeys, htree⟩ := htree
    refine ⟨hkeys ▸ hinv.cached, fun ref' p h => ?_⟩
    have hputs : (StoreState.mk store (s.puts.erase ref.versionDir)).putsOf ref' =
        if ref.versionDir = ref'.versionDir then [] else s.putsOf ref' := by
      rw [StoreState.putsOf, Dict.get?_erase]
      split_ifs <;> rfl
    obtain ⟨⟨hname, hall⟩, hlast⟩ := h
    rw [hputs] at hall hlast
    by_cases hdir : ref.versionDir = ref'.versionDir
    · rw [if_pos hdir] at hlast
      nomatch hlast
    · rw [if_neg hdir] at hall hlast
      have hread : ∀ name, store.tree.read? (ref'.versionDir ++ [name]) =
          s.store.tree.read? (ref'.versionDir ++ [name]) := by
        intro name
        rcases htree with htree | htree
        · rw [htree]
        · rw [htree, FileTree.read?_rmtree, if_neg fun h => hdir (versionDir_of_below h)]
      exact (hinv.stored ref' p ⟨⟨hname, hall⟩, hlast⟩).mono (hread _) (hread _)
        (.of_files (by rw [hkeys]))

/-! ### Putting -/

/-- What a put writes, once it is through its checks. -/
structure Written (rt : StoreRuntime B) (encrypts : Bool) (store store' : ObjectStore B)
    (ref : ObjectRef) (data : B) : Prop where
  checked : ref.check = .ok ()
  files : store'.keys.files = store.keys.files
  cached : KeyManager.CacheHolds rt.toKeyRuntime store'.keys
  stored : ∃ raw, (∀ path, store'.tree.read? path =
      if ref.metaPath = path then some (rt.dumps (ObjectStore.metaOf rt encrypts ref data))
      else if ref.blobPath = path then some raw else store.tree.read? path) ∧
    if encrypts then ∃ key nonce, store.keys.Holds rt.toKeyRuntime ref.workspaceId key ∧
      raw = rt.cipher.encrypt key nonce (some ref.workspaceId) data
    else raw = data

theorem sealed_spec (store : ObjectStore B) (ref : ObjectRef) (data nonce : B)
    (hcached : KeyManager.CacheHolds rt.toKeyRuntime store.keys) :
    (store.sealed rt encrypts ref data nonce).2.tree = store.tree ∧
      (store.sealed rt encrypts ref data nonce).2.keys.files = store.keys.files ∧
      KeyManager.CacheHolds rt.toKeyRuntime (store.sealed rt encrypts ref data nonce).2.keys ∧
      ∀ raw, (store.sealed rt encrypts ref data nonce).1 = .ok raw →
        if encrypts then ∃ key nonce, store.keys.Holds rt.toKeyRuntime ref.workspaceId key ∧
          raw = rt.cipher.encrypt key nonce (some ref.workspaceId) data
        else raw = data := by
  unfold ObjectStore.sealed
  split_ifs
  · obtain ⟨hfiles, hcached, hraw⟩ := @KeyManager.encrypt_spec B rt.toKeyRuntime store.keys
      ref.workspaceId data nonce hcached
    refine ⟨rfl, hfiles, hcached, fun raw h => ?_⟩
    obtain ⟨key, hkey, rfl⟩ := hraw raw h
    exact ⟨key, nonce, hkey, rfl⟩
  · exact ⟨rfl, rfl, hcached, fun raw h => (Except.ok.inj h).symm⟩

theorem put_spec (store : ObjectStore B) (ref : ObjectRef) (data nonce : B)
    (quotaRefuses : Option String) (hcached : KeyManager.CacheHolds rt.toKeyRuntime store.keys) :
    (∃ e store', store.put rt encrypts ref data nonce quotaRefuses = (.error e, store') ∧
      (∀ path, store'.tree.read? path = store.tree.read? path) ∧
      store'.keys.files = store.keys.files ∧
      KeyManager.CacheHolds rt.toKeyRuntime store'.keys) ∨
    ∃ ref' store', store.put rt encrypts ref data nonce quotaRefuses = (.ok ref', store') ∧
      Written rt encrypts store store' ref data := by
  obtain ⟨htree, hfiles, hcached', hraw⟩ := @sealed_spec B rt encrypts store ref data nonce hcached
  unfold ObjectStore.put
  cases hcheck : store.checkPut ref quotaRefuses with
  | error e => exact .inl ⟨e, store, rfl, fun _ => rfl, rfl, hcached⟩
  | ok =>
    dsimp only
    generalize store.sealed rt encrypts ref data nonce = result at htree hfiles hcached' hraw
    obtain ⟨stored, store'⟩ := result
    cases stored with
    | error e => exact .inl ⟨e, store', rfl, fun path => by rw [htree], hfiles, hcached'⟩
    | ok raw =>
      dsimp only
      split
      · next e _ =>
        refine .inl ⟨e, _, rfl, fun path => ?_, hfiles, hcached'⟩
        rw [FileTree.read?_mkdirs, htree]
      · refine .inr ⟨_, _, rfl, ?_, hfiles, hcached', raw, fun path => ?_, hraw raw rfl⟩
        · obtain ⟨_, hchecked, -⟩ := bind_eq_ok.mp hcheck
          exact hchecked
        · rw [FileTree.read?_write, FileTree.read?_write, FileTree.read?_mkdirs, htree]

theorem Written.stored_of {store store' : ObjectStore B} {data : B}
    (h : Written rt encrypts store store' ref data) (hname : ref.blobName ≠ "meta.json")
    (hkey : encrypts = true → p.keyVersion =
      (store.keys.files.get? ref.workspaceId).map (·.version)) (hdata : p.data = data) :
    Stored rt encrypts store' ref p := by
  subst hdata
  obtain ⟨raw, hread, hraw⟩ := h.stored
  have hblob : ref.metaPath ≠ ref.blobPath := fun heq => hname (versionDir_concat.mp heq).2.symm
  refine ⟨h.checked, ⟨_, _, (hread _).trans (if_pos rfl), rt.loads_dumps _, rfl, rfl, rfl⟩,
    raw, ?_, ?_⟩
  · rw [hread, if_neg hblob, if_pos rfl]
  · unfold Sealed
    split_ifs at hraw ⊢ with hencrypts
    · obtain ⟨key, nonce, ⟨file, hfile, hunwrap⟩, rfl⟩ := hraw
      refine ⟨key, nonce, file, rfl, by rw [h.files, hfile], file.version, ?_, Nat.le_refl _,
        fun _ => hunwrap⟩
      rw [hkey hencrypts, hfile]
      rfl
    · exact hraw

/-- References to one version with one blob differ in their checksums only. -/
theorem eq_of_versionDir {ref' : ObjectRef} (hdir : ref.versionDir = ref'.versionDir)
    (hblob : ref.blobName = ref'.blobName) :
    ref' = { ref with checksumSha256 := ref'.checksumSha256 } := by
  obtain ⟨ws, kind, objectId, versionId, blobName, checksum⟩ := ref
  obtain ⟨ws', kind', objectId', versionId', blobName', checksum'⟩ := ref'
  simp only [ObjectRef.versionDir, ObjectRef.versionsDir, workspaceRoot, List.cons_append,
    List.nil_append, List.cons.injEq, true_and, and_true] at hdir
  obtain ⟨rfl, rfl, rfl, rfl⟩ := hdir
  dsimp only at hblob
  rw [hblob]

theorem StoreInv.put (hinv : StoreInv rt encrypts s) (ref : ObjectRef) (data nonce : B)
    (quotaRefuses : Option String) :
    StoreInv rt encrypts (s.next rt encrypts (.put ref data nonce quotaRefuses)) := by
  unfold StoreState.next
  dsimp only
  obtain ⟨e, store, hput, hread, hfiles, hcached⟩ | ⟨_, store, hput, hwritten⟩ :=
    @put_spec B rt encrypts s.store ref data nonce quotaRefuses hinv.cached
  · rw [hput]
    exact hinv.sameFiles hread rfl (.of_files hfiles) hcached
  · rw [hput]
    refine ⟨hwritten.cached, fun ref' p h => ?_⟩
    obtain ⟨⟨hname, hall⟩, hlast⟩ := h
    unfold StoreState.putsOf at hall hlast
    rw [Dict.get?_set] at hall hlast
    by_cases hdir : ref.versionDir = ref'.versionDir
    · rw [if_pos hdir, Option.getD_some] at hall hlast
      rw [List.getLast?_concat] at hlast
      cases hlast
      have hblob : ref.blobName = ref'.blobName :=
        hall _ List.mem_concat_self
      rw [eq_of_versionDir hdir hblob]
      have hstored := hwritten.stored_of
        (p := ⟨ref.blobName, data, s.keyVersion encrypts ref.workspaceId⟩) (hblob ▸ hname)
        (fun hencrypts => if_pos hencrypts) rfl
      exact ⟨hstored.checked, hstored.info, hstored.blob⟩
    · rw [if_neg hdir] at hall hlast
      have hread : ∀ name, store.tree.read? (ref'.versionDir ++ [name]) =
          s.store.tree.read? (ref'.versionDir ++ [name]) := by
        intro name
        obtain ⟨raw, hread, -⟩ := hwritten.stored
        have hmeta : ref.metaPath ≠ ref'.versionDir ++ [name] :=
          fun h => hdir (versionDir_concat.mp h).1
        have hblob : ref.blobPath ≠ ref'.versionDir ++ [name] :=
          fun h => hdir (versionDir_concat.mp h).1
        rw [hread, if_neg hmeta, if_neg hblob]
      exact (hinv.stored ref' p ⟨⟨hname, hall⟩, hlast⟩).mono (hread _) (hread _)
        (.of_files hwritten.files)

theorem StoreInv.next (hinv : StoreInv rt encrypts s) (op : StoreOp B) :
    StoreInv rt encrypts (s.next rt encrypts op) := by
  cases op with
  | put ref data nonce quotaRefuses => exact hinv.put ref data nonce quotaRefuses
  | get workspaceId ref => exact hinv.get workspaceId ref
  | archive workspaceId ref => exact hinv.archive workspaceId ref
  | delete workspaceId ref => exact hinv.delete workspaceId ref
  | ensureDek workspaceId dek nonce => exact hinv.ensureDek workspaceId dek nonce
  | rotate workspaceId dek nonce => exact hinv.rotate workspaceId dek nonce

theorem StoreInv.law (hinv : StoreInv rt encrypts s) : StoredLaw rt encrypts s where
  unchanged ref p h := ((hinv.stored ref p h).reads hinv.cached).1
  readable ref p h hversion := by
    refine ((hinv.stored ref p h).reads hinv.cached).2 fun hencrypts file hfile => ?_
    rw [hversion, StoreState.keyVersion, if_pos hencrypts, hfile]
    rfl

end Keeping

/-- In every run of the store, with or without encryption. -/
theorem storedLaw (rt : StoreRuntime B) (encrypts : Bool) (ops : List (StoreOp B))
    (s : StoreState B) (hrun : (StoreState.system rt encrypts).run {} ops = some s) :
    StoredLaw rt encrypts s :=
  have hinv : StoreInv rt encrypts s := (StoreState.system rt encrypts).inv_of_run
    (fun _ op _ hinv h => Option.some.inj h ▸ hinv.next op) (.init rt encrypts) hrun
  hinv.law

/-! ## Runs -/

/-- Bytes by what they are made of. -/
inductive Doc
  | text (s : String)
  | json (info : Meta)
  | sealed (key nonce : Doc) (context : Option String) (plain : Doc)
  deriving DecidableEq

namespace Doc

def open? (key : Doc) (context : Option String) : Doc → Option Doc
  | sealed key' _ context' plain => if key' = key ∧ context' = context then some plain else none
  | _ => none

def loads : Doc → Option Meta
  | json info => some info
  | _ => none

def digest : Doc → String
  | text s => "text:" ++ s
  | json info => "json:" ++ info.blobName
  | sealed key _ _ plain => "sealed:" ++ key.digest ++ plain.digest

def runtime : StoreRuntime Doc where
  cipher :=
    { encrypt := sealed
      decrypt := open?
      decrypt_encrypt := fun _ _ _ _ => if_pos ⟨rfl, rfl⟩
      decrypt_other := fun _ _ h => if_neg fun heq => h.elim (· heq.1) (· heq.2) }
  master := text "master"
  sha256 := digest
  size _ := 0
  dumps := json
  loads := loads
  loads_dumps _ := rfl

end Doc

def contract : ObjectRef where
  workspaceId := "1001"
  kind := "documents"
  objectId := "contract"
  versionId := "v1"

/-- A contract is put again after a rotation. -/
def putAgain : List (StoreOp Doc) :=
  [.ensureDek "1001" (.text "dek-1") (.text "n-1"),
    .put contract (.text "draft") (.text "n-2") none, .archive "1001" contract,
    .rotate "1001" (.text "dek-2") (.text "n-3"),
    .put contract (.text "signed") (.text "n-4") none, .get "1001" contract]

theorem storedLaw_putAgain :
    ∃ s, (StoreState.system Doc.runtime true).run {} putAgain = some s ∧
      s.reads Doc.runtime true contract = .ok (.text "signed") ∧ StoredLaw Doc.runtime true s :=
  ⟨_, rfl, by decide +kernel, storedLaw Doc.runtime true putAgain _ rfl⟩

/-- The key is rotated after the put. -/
def rotated : List (StoreOp Doc) :=
  [.ensureDek "1001" (.text "dek-1") (.text "n-1"),
    .put contract (.text "draft") (.text "n-2") none,
    .rotate "1001" (.text "dek-2") (.text "n-3")]

theorem not_readsLastPut_rotated :
    ¬ ∀ (rt : StoreRuntime Doc) (encrypts : Bool) (ops : List (StoreOp Doc)) (s : StoreState Doc),
      (StoreState.system rt encrypts).run {} ops = some s → ReadsLastPut rt encrypts s := by
  intro hlaw
  have hput : ∃ p, (((((StoreState.system Doc.runtime true).run {} rotated).get rfl).putsOf
      contract).filter (·.blobName = contract.blobName)).getLast? = some p ∧
      p.data = .text "draft" := ⟨⟨"blob", .text "draft", some 1⟩, by decide +kernel, rfl⟩
  have hreads : ¬ (((StoreState.system Doc.runtime true).run {} rotated).get rfl).reads Doc.runtime
      true contract = .ok (.text "draft") := by decide +kernel
  obtain ⟨p, hlast, hdata⟩ := hput
  have hread := hlaw Doc.runtime true rotated _ (Option.some_get rfl).symm contract p hlast
  rw [hdata] at hread
  exact hreads hread

end JavisSaas.Agent.Vault
