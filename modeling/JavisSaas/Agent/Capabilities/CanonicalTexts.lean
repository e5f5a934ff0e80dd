import JavisSaas.Agent.Capabilities.Canonicalization
import JavisSaas.Agent.Remote.EncodedTexts

/-!
# What a canonical text tells

The text of a normal form whose keys are in order tells the form. A number, a boolean and `None` are
words without a delimiter, and every other value shows by its first character what it is.

* `Atom.dumps_inj`: the words tell what they stand for.
* `write_readsBack`: so do the texts of whole forms.
* `dumps_inj`: the forms that canonicalization makes.
-/

namespace JavisSaas.Agent.Capabilities

open JavisSaas.Lib
open JavisSaas.Agent.Remote (quote quote_prefixFree)

universe u

variable {F : Type u}

@[elab_as_elim]
theorem Normal.induction {motive : Normal F → Prop} (atom : ∀ a, motive (.atom a))
    (list : ∀ items, (∀ t ∈ items, motive t) → motive (.list items))
    (dict : ∀ items, (∀ kv ∈ items, motive kv.2) → motive (.dict items)) (t : Normal F) :
    motive t :=
  @Normal.rec F motive (fun items => ∀ t ∈ items, motive t) (fun items => ∀ kv ∈ items, motive kv.2)
    (fun kv => motive kv.2) atom list dict (fun _ h => (nomatch h))
    (fun _ _ hhead htail => List.forall_mem_cons.mpr ⟨hhead, htail⟩) (fun _ h => (nomatch h))
    (fun _ _ hhead htail => List.forall_mem_cons.mpr ⟨hhead, htail⟩) (fun _ _ h => h) t

/-! ## Words -/

theorem text_inj {s t : String} (h : text s = text t) : s = t :=
  String.toList_inj.mp (List.map_injective_iff.mpr (fun _ _ => Char.toNat_inj.mp) h)

theorem mem_natText {n c : ℕ} (h : c ∈ text n.repr) : c ∈ text "0123456789" := by
  have hdigits : text "0123456789" = List.range' 48 10 := by decide
  rw [text, Nat.toList_repr, List.mem_map] at h
  obtain ⟨d, hd, rfl⟩ := h
  obtain ⟨hlow, hhigh⟩ := Char.isDigit_iff_toNat.mp
    (Nat.isDigit_of_mem_toDigits (by decide) (by decide) hd)
  rw [hdigits, List.mem_range'_1]
  exact ⟨hlow, Nat.lt_succ_of_le hhigh⟩

theorem natText_inj {m n : ℕ} (h : text m.repr = text n.repr) : m = n := by
  have hdigits : Nat.toDigits 10 m = Nat.toDigits 10 n := by
    rw [← Nat.toList_repr, ← Nat.toList_repr, text_inj h]
  rw [← Nat.ofDigitChars_ten_toDigits (n := m), hdigits, Nat.ofDigitChars_ten_toDigits]

theorem text_negSucc (n : ℕ) : text (toString (Int.negSucc n)) = 45 :: text (n + 1).repr := by
  show text ("-" ++ (n + 1).repr) = _
  rw [text, String.toList_append, List.map_append]
  rfl

theorem mem_intText {n : ℤ} {c : ℕ} (h : c ∈ text (toString n)) : c ∈ text "0123456789-" := by
  have hdigits : ∀ c ∈ text "0123456789", c ∈ text "0123456789-" := by decide
  cases n with
  | ofNat => exact hdigits c (mem_natText h)
  | negSucc =>
    rw [text_negSucc] at h
    rcases List.mem_cons.mp h with rfl | h
    · decide
    · exact hdigits c (mem_natText h)

theorem natText_ne (n : ℕ) (l : Text) : text n.repr ≠ 45 :: l := by
  intro h
  have hminus := mem_natText (h ▸ List.mem_cons_self : 45 ∈ text n.repr)
  exact absurd hminus (by decide)

theorem intText_inj {m n : ℤ} (h : text (toString m) = text (toString n)) : m = n := by
  cases m with
  | ofNat m =>
    cases n with
    | ofNat => exact congrArg Int.ofNat (natText_inj h)
    | negSucc n => exact absurd (h.trans (text_negSucc n)) (natText_ne m _)
  | negSucc m =>
    cases n with
    | ofNat n => exact absurd (h.symm.trans (text_negSucc m)) (natText_ne n _)
    | negSucc =>
      rw [text_negSucc, text_negSucc] at h
      have hsucc := natText_inj (List.cons.inj h).2
      exact congrArg Int.negSucc (Nat.succ.inj hsucc)

theorem intText_ne_nil (n : ℤ) : text (toString n) ≠ [] := by
  cases n with
  | ofNat n =>
    intro h
    have hnil : n.repr.toList = [] := List.map_eq_nil_iff.mp h
    rw [Nat.toList_repr] at hnil
    exact Nat.toDigits_ne_nil hnil
  | negSucc =>
    rw [text_negSucc]
    exact List.cons_ne_nil _ _

inductive TokenKind
  | word
  | int
  | float

/-- What an atom that is no text looks like. -/
def Atom.kind : Atom F → TokenKind
  | int _ => .int
  | float (.finite _) => .float
  | _ => .word

def kindOf (t : Text) : TokenKind :=
  if t.all (· ∈ text "0123456789.-+e") then if t.any (· ∈ text ".e") then .float else .int
  else .word

/-- The atom is no text. -/
def Atom.IsToken (a : Atom F) : Prop := ∀ s, a ≠ .str s

section Words

variable (fmt : FloatFormat F) {a b : Atom F}

theorem kindOf_dumps (ha : a.IsToken) : kindOf (a.dumps fmt) = a.kind := by
  unfold kindOf
  cases a with
  | none => rfl
  | bool b => cases b <;> rfl
  | int n =>
    have hall : (text (toString n)).all (· ∈ text "0123456789.-+e") = true :=
      List.all_eq_true.mpr fun c hc =>
        (by decide : ∀ c ∈ text "0123456789-", decide (c ∈ text "0123456789.-+e") = true) c
          (mem_intText hc)
    have hany : (text (toString n)).any (· ∈ text ".e") = false :=
      List.any_eq_false.mpr fun c hc =>
        (by decide : ∀ c ∈ text "0123456789-", ¬ decide (c ∈ text ".e") = true) c (mem_intText hc)
    rw [Atom.dumps, if_pos hall, hany]
    rfl
  | float x =>
    cases x with
    | finite x =>
      have hall : (fmt.repr x).all (· ∈ text "0123456789.-+e") = true :=
        List.all_eq_true.mpr fun c hc => decide_eq_true (fmt.mem_repr hc)
      have hany : (fmt.repr x).any (· ∈ text ".e") = true := by
        obtain ⟨c, hc, hpoint⟩ := fmt.point x
        exact List.any_eq_true.mpr ⟨c, hc, decide_eq_true hpoint⟩
      rw [Atom.dumps, if_pos hall, if_pos hany]
      rfl
    | nan => rfl
    | inf negative => cases negative <;> rfl
  | str s => exact absurd rfl (ha s)

/-- Words of one kind are the same, or differ where both are numbers or both are written out. -/
theorem Atom.dumps_inj (ha : a.IsToken) (hb : b.IsToken) (h : a.dumps fmt = b.dumps fmt) : a = b := by
  have hkind : a.kind = b.kind := by rw [← kindOf_dumps fmt ha, ← kindOf_dumps fmt hb, h]
  rcases a with _ | (_ | _) | m | (x | _ | (_ | _)) | s <;>
    rcases b with _ | (_ | _) | n | (y | _ | (_ | _)) | t <;>
    first
      | rfl
      | (cases hkind; done)
      | (dsimp only [Atom.dumps] at h; exact absurd h (by decide))
      | exact absurd rfl (ha _)
      | exact absurd rfl (hb _)
      | exact congrArg Atom.int (intText_inj h)
      | exact congrArg (fun x => Atom.float (.finite x)) (fmt.repr_injective h)

/-- The characters of words. -/
def wordChars : Text := text "0123456789.-+enulltruefalseNaNInfinity"

theorem Atom.mem_dumps (ha : a.IsToken) {c : ℕ} (hc : c ∈ a.dumps fmt) : c ∈ wordChars := by
  rcases a with _ | (_ | _) | n | (x | _ | (_ | _)) | s
  · exact (by decide : ∀ c ∈ text "null", c ∈ wordChars) c hc
  · exact (by decide : ∀ c ∈ text "false", c ∈ wordChars) c hc
  · exact (by decide : ∀ c ∈ text "true", c ∈ wordChars) c hc
  · exact (by decide : ∀ c ∈ text "0123456789-", c ∈ wordChars) c (mem_intText hc)
  · exact (by decide : ∀ c ∈ text "0123456789.-+e", c ∈ wordChars) c (fmt.mem_repr hc)
  · exact (by decide : ∀ c ∈ text "NaN", c ∈ wordChars) c hc
  · exact (by decide : ∀ c ∈ text "Infinity", c ∈ wordChars) c hc
  · exact (by decide : ∀ c ∈ text "-Infinity", c ∈ wordChars) c hc
  · exact absurd rfl (ha s)

theorem Atom.dumps_ne_nil (ha : a.IsToken) : a.dumps fmt ≠ [] := by
  rcases a with _ | (_ | _) | n | (x | _ | (_ | _)) | s
  · exact List.cons_ne_nil _ _
  · exact List.cons_ne_nil _ _
  · exact List.cons_ne_nil _ _
  · exact intText_ne_nil n
  · obtain ⟨c, hc, -⟩ := fmt.point x
    exact List.ne_nil_of_mem hc
  · exact List.cons_ne_nil _ _
  · exact List.cons_ne_nil _ _
  · exact List.cons_ne_nil _ _
  · exact absurd rfl (ha s)

end Words

/-! ## Texts of forms -/

/-- What may follow a value: a comma, and the end of a list or of an object. -/
def IsDelimiter (c : ℕ) : Prop := c ∈ [44, 93, 125]

/-- What starts a text, a list or an object. -/
def opener (c : ℕ) : Option ℕ := if c ∈ [34, 91, 123] then some c else none

/-- How the text of a form starts, of one that is no word. -/
def Normal.opens : Normal F → Option ℕ
  | .atom (.str _) => some 34
  | .atom _ => none
  | .list _ => some 91
  | .dict _ => some 123

theorem wordChars_spec : ∀ c ∈ wordChars, c ∉ [44, 93, 125] ∧ opener c = none := by decide

section Writing

variable (fmt : FloatFormat F)

mutual

/-- `dumps` without an order of the keys. -/
def write : Normal F → Text
  | .atom a => a.dumps fmt
  | .list items => text "[" ++ (text ",").intercalate (writeList items) ++ text "]"
  | .dict items =>
    text "\x7b" ++ (text ",").intercalate ((writeItems items).map entryText) ++ text "\x7d"

def writeList : List (Normal F) → List Text
  | [] => []
  | item :: items => write item :: writeList items

def writeItems : List (Text × Normal F) → List (Text × Text)
  | [] => []
  | (key, item) :: items => (key, write item) :: writeItems items

end

theorem writeList_eq_map (items : List (Normal F)) :
    writeList fmt items = items.map (write fmt) := by
  induction items with
  | nil => rfl
  | cons _ _ ih => rw [writeList, ih, List.map_cons]

theorem writeItems_eq_map (items : List (Text × Normal F)) :
    writeItems fmt items = items.map fun kv => (kv.1, write fmt kv.2) := by
  induction items with
  | nil => rfl
  | cons _ _ ih => rw [writeItems, ih, List.map_cons]

/-- An item of an object, as it is written. -/
def writeEntry (kv : Text × Normal F) : Text := entryText (kv.1, write fmt kv.2)

theorem write_list (items : List (Normal F)) :
    write fmt (.list items) = 91 :: ([44].intercalate (items.map (write fmt)) ++ [93]) := by
  rw [write, writeList_eq_map]
  rfl

theorem write_dict (items : List (Text × Normal F)) :
    write fmt (.dict items) = 123 :: ([44].intercalate (items.map (writeEntry fmt)) ++ [125]) := by
  rw [write, writeItems_eq_map, List.map_map]
  rfl

theorem Normal.opens_eq_none {a : Atom F} : (Normal.atom a).opens = none ↔ a.IsToken := by
  cases a with
  | str s => exact iff_of_false (Option.some_ne_none _) fun h => h s rfl
  | _ => exact iff_of_true rfl fun s h => (nomatch h)

theorem write_start (t : Normal F) :
    ∃ c l, write fmt t = c :: l ∧ ¬ IsDelimiter c ∧ opener c = t.opens := by
  cases t with
  | atom a =>
    by_cases ha : a.IsToken
    · obtain ⟨c, l, hcl⟩ := List.exists_cons_of_ne_nil (a.dumps_ne_nil fmt ha)
      have hspec := wordChars_spec c (a.mem_dumps fmt ha (hcl ▸ List.mem_cons_self))
      exact ⟨c, l, hcl, hspec.1, hspec.2.trans (Normal.opens_eq_none.mpr ha).symm⟩
    · obtain ⟨s, hs⟩ := not_forall.mp ha
      obtain rfl := not_not.mp hs
      exact ⟨34, _, rfl, by unfold IsDelimiter; decide, rfl⟩
  | list items => exact ⟨91, _, write_list fmt items, by unfold IsDelimiter; decide, rfl⟩
  | dict items => exact ⟨123, _, write_dict fmt items, by unfold IsDelimiter; decide, rfl⟩

theorem opens_eq {t u : Normal F} {r s : Text} (h : write fmt t ++ r = write fmt u ++ s) :
    t.opens = u.opens := by
  obtain ⟨c, l, ht, -, hc⟩ := write_start fmt t
  obtain ⟨d, m, hu, -, hd⟩ := write_start fmt u
  rw [ht, hu] at h
  obtain rfl := (List.cons.inj h).1
  exact hc.symm.trans hd

theorem Atom.readsBack {a b : Atom F} {r s : Text} (hr : Delimited IsDelimiter r)
    (hs : Delimited IsDelimiter s) (hopens : (Normal.atom a).opens = (Normal.atom b).opens)
    (h : a.dumps fmt ++ r = b.dumps fmt ++ s) : a = b ∧ r = s := by
  by_cases ha : a.IsToken
  · have hb : b.IsToken :=
      Normal.opens_eq_none.mp (hopens.symm.trans (Normal.opens_eq_none.mpr ha))
    obtain ⟨heq, hrs⟩ := append_inj_of_delimited
      (fun c hc => (wordChars_spec c (a.mem_dumps fmt ha hc)).1)
      (fun c hc => (wordChars_spec c (b.mem_dumps fmt hb hc)).1) hr hs h
    exact ⟨a.dumps_inj fmt ha hb heq, hrs⟩
  · obtain ⟨x, hx⟩ := not_forall.mp ha
    obtain rfl := not_not.mp hx
    cases b with
    | str =>
      obtain ⟨rfl, hrs⟩ := quote_prefixFree h
      exact ⟨rfl, hrs⟩
    | _ => nomatch hopens

theorem writeEntry_readsBack {kv : Text × Normal F}
    (h : ReadsBack IsDelimiter (write fmt) kv.2) : ReadsBack IsDelimiter (writeEntry fmt) kv := by
  intro kv' r s hr hs heq
  have hquoted : quote kv.1 ++ (58 :: (write fmt kv.2 ++ r)) =
      quote kv'.1 ++ (58 :: (write fmt kv'.2 ++ s)) := by
    have heq' : (quote kv.1 ++ [58] ++ write fmt kv.2) ++ r =
        (quote kv'.1 ++ [58] ++ write fmt kv'.2) ++ s := heq
    simpa only [List.append_assoc, List.cons_append, List.nil_append] using heq'
  obtain ⟨hkey, hrest⟩ := quote_prefixFree hquoted
  obtain ⟨hvalue, hrs⟩ := h hr hs (List.cons.inj hrest).2
  exact ⟨Prod.ext hkey hvalue, hrs⟩

theorem writeEntry_start (kv : Text × Normal F) : ∃ c l, writeEntry fmt kv = c :: l ∧ c ≠ 125 :=
  ⟨34, _, rfl, by decide⟩

theorem write_readsBack (t : Normal F) : ReadsBack IsDelimiter (write fmt) t := by
  induction t using Normal.induction with
  | atom a =>
    intro u r s hr hs h
    have hopens := opens_eq fmt h
    cases u with
    | atom =>
      obtain ⟨rfl, hrs⟩ := Atom.readsBack fmt hr hs hopens h
      exact ⟨rfl, hrs⟩
    | list | dict => cases a <;> nomatch hopens
  | list _ ih =>
    intro u r s hr hs h
    have hopens := opens_eq fmt h
    cases u with
    | atom b => cases b <;> nomatch hopens
    | list =>
      rw [write_list, write_list, List.cons_append, List.cons_append, List.append_assoc,
        List.append_assoc] at h
      have hstart : ∀ t, ∃ c l, write fmt t = c :: l ∧ c ≠ 93 := by
        intro t
        obtain ⟨c, l, hcl, hc, -⟩ := write_start fmt t
        exact ⟨c, l, hcl, fun hbracket => hc (by rw [hbracket]; unfold IsDelimiter; decide)⟩
      obtain ⟨rfl, hrs⟩ := separated_inj (D := IsDelimiter) (by unfold IsDelimiter; decide)
        (by unfold IsDelimiter; decide) (by decide) hstart ih (List.cons.inj h).2
      exact ⟨rfl, hrs⟩
    | dict => nomatch hopens
  | dict _ ih =>
    intro u r s hr hs h
    have hopens := opens_eq fmt h
    cases u with
    | atom b => cases b <;> nomatch hopens
    | list => nomatch hopens
    | dict =>
      rw [write_dict, write_dict, List.cons_append, List.cons_append, List.append_assoc,
        List.append_assoc] at h
      obtain ⟨rfl, hrs⟩ := separated_inj (D := IsDelimiter) (by unfold IsDelimiter; decide)
        (by unfold IsDelimiter; decide) (by decide) (writeEntry_start fmt)
        (fun kv hkv => writeEntry_readsBack fmt (ih kv hkv)) (List.cons.inj h).2
      exact ⟨rfl, hrs⟩

theorem write_inj {t u : Normal F} (h : write fmt t = write fmt u) : t = u := by
  have hnone : Delimited IsDelimiter ([] : Text) := nofun
  have happend : write fmt t ++ [] = write fmt u ++ [] := by rw [h]
  exact (write_readsBack fmt t hnone hnone happend).1

end Writing

/-! ## Forms with their keys in order -/

inductive Normal.Sorted : Normal F → Prop
  | atom (a : Atom F) : Sorted (.atom a)
  | list {items : List (Normal F)} (h : ∀ t ∈ items, Sorted t) : Sorted (.list items)
  | dict {items : List (Text × Normal F)} (hkeys : items.Pairwise fun a b => a.1 < b.1)
      (h : ∀ kv ∈ items, Sorted kv.2) : Sorted (.dict items)

section Dumps

variable (fmt : FloatFormat F)

theorem dumpsList_eq_map (items : List (Normal F)) :
    dumpsList fmt items = items.map (dumps fmt) := by
  induction items with
  | nil => rfl
  | cons _ _ ih => rw [dumpsList, ih, List.map_cons]

theorem dumpsItems_eq_map (items : List (Text × Normal F)) :
    dumpsItems fmt items = items.map fun kv => (kv.1, dumps fmt kv.2) := by
  induction items with
  | nil => rfl
  | cons _ _ ih => rw [dumpsItems, ih, List.map_cons]

theorem dumps_eq_write {t : Normal F} (ht : t.Sorted) : dumps fmt t = write fmt t := by
  induction ht with
  | atom => rfl
  | list _ ih =>
    rw [dumps, write, dumpsList_eq_map, writeList_eq_map, List.map_congr_left ih]
  | @dict items hkeys h ih =>
    have hitems : dumpsItems fmt items = writeItems fmt items := by
      rw [dumpsItems_eq_map, writeItems_eq_map]
      exact List.map_congr_left fun kv hkv => by rw [ih kv hkv]
    have hsorted : (writeItems fmt items).Pairwise fun a b => a.1 ≤ b.1 := by
      rw [writeItems_eq_map, List.pairwise_map]
      exact hkeys.imp le_of_lt
    rw [dumps, write, hitems, hsorted.insertionSort_eq]

theorem dumps_inj {t u : Normal F} (ht : t.Sorted) (hu : u.Sorted)
    (h : dumps fmt t = dumps fmt u) : t = u := by
  rw [dumps_eq_write fmt ht, dumps_eq_write fmt hu] at h
  exact write_inj fmt h

end Dumps

end JavisSaas.Agent.Capabilities
