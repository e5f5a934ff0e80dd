import Mathlib.Data.List.Infix
import Mathlib.Data.List.Dedup
import JavisSaas.Lib.Dict

/-!
# Trees of files

Files by their paths, and the directories that exist. Names are compared as they are, and there
are no links.

* `FileTree.read?_write`, `FileTree.read?_mkdirs`, `FileTree.read?_rmtree`: what a file holds after
  the operations.
-/

namespace JavisSaas.Lib

universe u

/-- The names on the way to a file or directory. -/
abbrev Path := List String

structure FileTree (B : Type u) where
  files : Dict Path B := ∅
  dirs : List Path := []

namespace FileTree

variable {B : Type u} (t : FileTree B)

def read? (p : Path) : Option B := t.files.get? p

/-- There is a file or a directory at the path. -/
def has (p : Path) : Bool := p ∈ t.dirs || (t.read? p).isSome

/-- Writes the file, which is created if it is not there. -/
def write (p : Path) (b : B) : FileTree B := { t with files := t.files.set p b }

/-- Makes the directory, with those above it. -/
def mkdirs (p : Path) : FileTree B :=
  { t with dirs := t.dirs ++ p.inits.filter fun dir => dir ∉ t.dirs }

/-- Removes the directory, with all that is below it. -/
def rmtree (p : Path) : FileTree B :=
  { files := t.files.filterKeys fun q => ¬ p <+: q
    dirs := t.dirs.filter fun q => ¬ p <+: q }

/-- The name under which a path lies directly in a directory. -/
def childName (dir p : Path) : Option String :=
  match p.drop dir.length with
  | [name] => if dir <+: p then some name else none
  | _ => none

/-- The names of a directory. -/
def children (dir : Path) : List String :=
  ((t.dirs ++ t.files.keys).filterMap (childName dir)).dedup

variable {t}

theorem read?_write (p q : Path) (b : B) :
    (t.write p b).read? q = if p = q then some b else t.read? q :=
  Dict.get?_set t.files p q b

@[simp] theorem read?_mkdirs (p q : Path) : (t.mkdirs p).read? q = t.read? q := rfl

theorem read?_rmtree (p q : Path) :
    (t.rmtree p).read? q = if p <+: q then none else t.read? q := by
  rw [rmtree, read?, Dict.get?_filterKeys]
  by_cases h : p <+: q
  · rw [if_pos h, if_neg (by simpa using h)]
  · rw [if_neg h, if_pos (by simpa using h)]
    rfl

end FileTree

end JavisSaas.Lib
