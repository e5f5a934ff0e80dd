import JavisSaas.Lib.FileTree
import JavisSaas.Lib.Transition
import JavisSaas.Agent.Vault.Keys

/-!
# The local object store

`LocalFilesystemWorkspaceStore` in `packages/agent/vault/object_store.py`, on a tree of files
without links, whose names differ by their case. The hash, the length and the JSON of a text are
parameters; whether the quota of the workspace refuses a put is given with it.
-/

namespace JavisSaas.Agent.Vault

open JavisSaas.Lib

structure ObjectRef where
  workspaceId : String
  kind : String
  objectId : String
  versionId : String
  blobName : String := "blob"
  checksumSha256 : Option String := none

/-- `meta.json`; the workspace and the checksum may be missing in a file that is not of the
    store. -/
structure Meta where
  workspaceId : Option String
  kind : String
  objectId : String
  versionId : String
  blobName : String
  checksumSha256 : Option String
  sizeBytes : ℕ
  encrypted : Bool
  status : String := "active"
  deriving DecidableEq

structure StoreRuntime (B : Type) extends KeyRuntime B where
  sha256 : B → String
  size : B → ℕ
  /-- `json.dumps(meta, indent=2)` -/
  dumps : Meta → B
  loads : B → Option Meta
  loads_dumps (info : Meta) : loads (dumps info) = some info

/-- The files of the host and the key manager. -/
structure ObjectStore (B : Type) where
  tree : FileTree B := {}
  keys : KeyManager B := {}

def workspaceRoot (workspaceId : String) : Path := ["workspaces", workspaceId]

namespace ObjectRef

variable (ref : ObjectRef)

def versionsDir : Path := workspaceRoot ref.workspaceId ++ [ref.kind, ref.objectId, "versions"]

def versionDir : Path := ref.versionsDir ++ [ref.versionId]

def blobPath : Path := ref.versionDir ++ [ref.blobName]

def metaPath : Path := ref.versionDir ++ ["meta.json"]

/-- The checks of `_version_dir`. -/
def check : Except VaultError Unit := do
  checkSegment ref.kind "object_kind"
  checkSegment ref.objectId "object_id"
  checkSegment ref.versionId "version_id"
  checkSegment ref.blobName "blob_name"
  checkSegment ref.workspaceId "workspace_id"

end ObjectRef

/-- `name.casefold()`, of a name in ASCII. -/
def casefold (name : String) : String := name.map Char.toLower

def assertNoCasefoldSibling {B : Type} (tree : FileTree B) (parent : Path) (name : String) :
    Except VaultError Unit :=
  (tree.children parent).forM fun existing =>
    require (existing = name ∨ casefold existing ≠ casefold name)
      (.security s!"case-fold collision: '{name}' đụng '{existing}'")

namespace ObjectStore

variable {B : Type} (rt : StoreRuntime B) (encrypts : Bool) (v : ObjectStore B)

def metaOf (ref : ObjectRef) (data : B) : Meta where
  workspaceId := some ref.workspaceId
  kind := ref.kind
  objectId := ref.objectId
  versionId := ref.versionId
  blobName := ref.blobName
  checksumSha256 := some (rt.sha256 data)
  sizeBytes := rt.size data
  encrypted := encrypts

/-- What is checked before anything is written. -/
def checkPut (ref : ObjectRef) (quotaRefuses : Option String) : Except VaultError Unit := do
  ref.check
  assertNoCasefoldSibling v.tree (workspaceRoot ref.workspaceId ++ [ref.kind]) ref.objectId
  assertNoCasefoldSibling v.tree ref.versionsDir ref.versionId
  match quotaRefuses with
  | some message => throw (.quota message)
  | none => return ()

/-- The bytes that are stored for the data. -/
def sealed (ref : ObjectRef) (data nonce : B) : Except VaultError B × ObjectStore B :=
  if encrypts then
    let (stored, keys) := v.keys.encrypt rt.toKeyRuntime ref.workspaceId data nonce
    (stored, { v with keys })
  else (.ok data, v)

def put (ref : ObjectRef) (data nonce : B) (quotaRefuses : Option String) :
    Except VaultError ObjectRef × ObjectStore B :=
  match v.checkPut ref quotaRefuses with
  | .error e => (.error e, v)
  | .ok () =>
    let (stored, v) := v.sealed rt encrypts ref data nonce
    match stored with
    | .error e => (.error e, v)
    | .ok stored =>
      let tree := v.tree.mkdirs ref.versionDir
      match assertNoCasefoldSibling tree ref.versionDir ref.blobName with
      | .error e => (.error e, { v with tree })
      | .ok () =>
        let tree := tree.write ref.blobPath stored
        let tree := tree.write ref.metaPath (rt.dumps (metaOf rt encrypts ref data))
        (.ok { ref with checksumSha256 := some (rt.sha256 data) }, { v with tree })

def loadMeta (ref : ObjectRef) : Except VaultError Meta :=
  match v.tree.read? ref.metaPath with
  | none => .error (.security "object không tồn tại (thiếu meta)")
  | some text =>
    match rt.loads text with
    | none => .error .json
    | some info => .ok info

/-- The metadata and the stored bytes that `get` goes on with. -/
def find (workspaceId : String) (ref : ObjectRef) : Except VaultError (Meta × B) := do
  require (ref.workspaceId = workspaceId) (.security "workspace_id không khớp object ref")
  ref.check
  let info ← v.loadMeta rt ref
  require (info.workspaceId = some workspaceId) (.security "metadata workspace_id không khớp")
  match v.tree.read? ref.blobPath with
  | none => throw (.security "blob không tồn tại")
  | some raw => return (info, raw)

/-- The plain bytes of what is stored. -/
def opened (workspaceId : String) (info : Meta) (raw : B) : Except VaultError B × ObjectStore B :=
  if info.encrypted then
    if encrypts then
      let (data, keys) := v.keys.decrypt rt.toKeyRuntime workspaceId raw
      (data, { v with keys })
    else (.error (.security "blob mã hoá nhưng store không có key manager"), v)
  else (.ok raw, v)

def checkChecksum (info : Meta) (data : B) : Except VaultError B :=
  match info.checksumSha256 with
  | none | some "" => .ok data
  | some checksum => do
    require (rt.sha256 data = checksum) (.security "checksum không khớp — blob có thể đã bị sửa")
    return data

def get (workspaceId : String) (ref : ObjectRef) : Except VaultError B × ObjectStore B :=
  match v.find rt workspaceId ref with
  | .error e => (.error e, v)
  | .ok (info, raw) =>
    let (data, v) := v.opened rt encrypts workspaceId info raw
    (data.bind (checkChecksum rt info), v)

def archive (workspaceId : String) (ref : ObjectRef) : Except VaultError (ObjectStore B) := do
  require (ref.workspaceId = workspaceId) (.security "workspace_id không khớp object ref")
  ref.check
  let info ← v.loadMeta rt ref
  return { v with tree := v.tree.write ref.metaPath (rt.dumps { info with status := "archived" }) }

def deleteAfterRetention (workspaceId : String) (ref : ObjectRef) :
    Except VaultError (ObjectStore B) := do
  require (ref.workspaceId = workspaceId) (.security "workspace_id không khớp object ref")
  ref.check
  if v.tree.has ref.versionDir then
    let _ ← v.loadMeta rt ref
    return { v with tree := v.tree.rmtree ref.versionDir }
  else return v

end ObjectStore

end JavisSaas.Agent.Vault
