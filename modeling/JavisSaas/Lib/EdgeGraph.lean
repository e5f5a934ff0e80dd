import JavisSaas.Lib.CycleSearch

/-!
# Graphs that are lists of edges

A dependency graph as the table of its edges, each from a node to one that it depends on.

* `cycleSearch_edges_iff`: the search over the nodes finds no cycle if and only if there is none.
* `acyclic_append_of_fresh`: edges from new nodes only close no cycle through the old ones.
* `exists_ready`: without cycles, some node that is not done depends on done ones only.
-/

namespace JavisSaas.Lib

universe u v

variable {α : Type u} {E : Type v} [DecidableEq α] (src dst : E → α)

/-- The nodes that `x` depends on. -/
def depsOf (edges : List E) (x : α) : List α := (edges.filter (src · = x)).map dst

/-- The ends of the edges, the sources before the others. -/
def nodesOf (edges : List E) : List α := (edges.map src ++ edges.map dst).eraseDups

/-- No node depends on itself, through other nodes or directly. -/
def Acyclic (edges : List E) : Prop := ∀ x, ¬Relation.TransGen (DepOf (depsOf src dst edges)) x x

variable {src dst} {edges new : List E} {x y : α}

theorem mem_depsOf : y ∈ depsOf src dst edges x ↔ ∃ e ∈ edges, src e = x ∧ dst e = y := by
  simp only [depsOf, List.mem_map, List.mem_filter, decide_eq_true_eq, and_assoc]

theorem depOf_iff : DepOf (depsOf src dst edges) y x ↔ ∃ e ∈ edges, src e = x ∧ dst e = y :=
  mem_depsOf

theorem mem_nodesOf : x ∈ nodesOf src dst edges ↔ ∃ e ∈ edges, src e = x ∨ dst e = x := by
  simp only [nodesOf, List.mem_eraseDups, List.mem_append, List.mem_map]
  constructor
  · rintro (⟨e, he, h⟩ | ⟨e, he, h⟩)
    · exact ⟨e, he, .inl h⟩
    · exact ⟨e, he, .inr h⟩
  · rintro ⟨e, he, h | h⟩
    · exact .inl ⟨e, he, h⟩
    · exact .inr ⟨e, he, h⟩

theorem mem_nodesOf_of_depOf (h : DepOf (depsOf src dst edges) y x) :
    x ∈ nodesOf src dst edges ∧ y ∈ nodesOf src dst edges := by
  obtain ⟨e, he, hx, hy⟩ := depOf_iff.mp h
  exact ⟨mem_nodesOf.mpr ⟨e, he, .inl hx⟩, mem_nodesOf.mpr ⟨e, he, .inr hy⟩⟩

theorem depOf_append : DepOf (depsOf src dst (edges ++ new)) y x ↔
    DepOf (depsOf src dst edges) y x ∨ DepOf (depsOf src dst new) y x := by
  simp only [depOf_iff, List.mem_append]
  constructor
  · rintro ⟨e, he | he, h⟩
    · exact .inl ⟨e, he, h⟩
    · exact .inr ⟨e, he, h⟩
  · rintro (⟨e, he, h⟩ | ⟨e, he, h⟩)
    · exact ⟨e, .inl he, h⟩
    · exact ⟨e, .inr he, h⟩

/-! ## Well-founded dependencies -/

/-- A node without edges depends on nothing. -/
theorem acc_iff_acyclic_edges :
    (∀ x, Acc (DepOf (depsOf src dst edges)) x) ↔ Acyclic src dst edges := by
  have hclosed : ∀ x ∈ nodesOf src dst edges, ∀ d ∈ depsOf src dst edges x,
      d ∈ nodesOf src dst edges := fun x _ d hd => (mem_nodesOf_of_depOf hd).2
  constructor
  · intro h x
    exact not_transGen_of_acc (h x)
  · intro h x
    have hnodes := (acc_iff_acyclic hclosed).mpr fun x _ => h x
    refine Acc.intro x fun y hy => ?_
    exact hnodes y (mem_nodesOf_of_depOf hy).2

theorem cycleSearch_edges_iff :
    (∃ m, cycleSearch (depsOf src dst edges) (nodesOf src dst edges) = .ok m) ↔
      Acyclic src dst edges := by
  have hclosed : ∀ x ∈ nodesOf src dst edges, ∀ d ∈ depsOf src dst edges x,
      d ∈ nodesOf src dst edges := fun x _ d hd => (mem_nodesOf_of_depOf hd).2
  rw [cycleSearch_isOk_iff hclosed, acc_iff_acyclic hclosed]
  constructor
  · intro h x hx
    -- a node on a cycle is the end of an edge
    obtain ⟨z, hz, -⟩ := Relation.TransGen.head'_iff.mp hx
    exact h x (mem_nodesOf_of_depOf hz).2 hx
  · exact fun h x _ => h x

theorem acyclic_nil : Acyclic src dst [] := by
  intro x hx
  obtain ⟨z, hz, -⟩ := Relation.TransGen.head'_iff.mp hx
  obtain ⟨e, he, -⟩ := depOf_iff.mp hz
  exact absurd he List.not_mem_nil

theorem Acyclic.of_subset (h : Acyclic src dst edges) (hsub : new ⊆ edges) :
    Acyclic src dst new := by
  intro x hx
  refine h x (Relation.TransGen.mono (fun a b hab => ?_) x x hx)
  obtain ⟨e, he, hends⟩ := depOf_iff.mp hab
  exact depOf_iff.mpr ⟨e, hsub he, hends⟩

/-! ## More edges -/

/-- New edges that start at new nodes only close no cycle with the old ones. -/
theorem acyclic_append_of_fresh (hold : Acyclic src dst edges) (hnew : Acyclic src dst new)
    (hfresh : ∀ e ∈ new, src e ∉ nodesOf src dst edges) : Acyclic src dst (edges ++ new) := by
  have hacc := acc_iff_acyclic_edges.mpr hold
  have hkept : ∀ x, Acc (DepOf (depsOf src dst edges)) x → x ∈ nodesOf src dst edges →
      Acc (DepOf (depsOf src dst (edges ++ new))) x := by
    intro x hx
    induction hx with
    | intro x _ ih =>
      refine fun hmem => Acc.intro x fun y hy => ?_
      rcases depOf_append.mp hy with hy | hy
      · exact ih y hy (mem_nodesOf_of_depOf hy).2
      · obtain ⟨e, he, rfl, -⟩ := depOf_iff.mp hy
        exact absurd hmem (hfresh e he)
  refine acc_iff_acyclic_edges.mp fun x => ?_
  have hx := acc_iff_acyclic_edges.mpr hnew x
  induction hx with
  | intro x _ ih =>
    refine Acc.intro x fun y hy => ?_
    rcases depOf_append.mp hy with hy | hy
    · exact hkept y (hacc y) (mem_nodesOf_of_depOf hy).2
    · exact ih y hy

/-- Without cycles, as long as some node is not done, there is one that depends on done ones
    only. -/
theorem exists_ready (h : Acyclic src dst edges) {done : α → Prop}
    (hopen : ∃ x ∈ nodesOf src dst edges, ¬done x) :
    ∃ x ∈ nodesOf src dst edges, ¬done x ∧ ∀ e ∈ edges, src e = x → done (dst e) := by
  have hwf : WellFounded (DepOf (depsOf src dst edges)) := ⟨acc_iff_acyclic_edges.mpr h⟩
  obtain ⟨x, ⟨hx, hnot⟩, hmin⟩ := hwf.has_min {x | x ∈ nodesOf src dst edges ∧ ¬done x} hopen
  refine ⟨x, hx, hnot, fun e he hsrc => ?_⟩
  by_contra hdst
  have hdep : DepOf (depsOf src dst edges) (dst e) x := depOf_iff.mpr ⟨e, he, hsrc, rfl⟩
  exact hmin (dst e) ⟨(mem_nodesOf_of_depOf hdep).2, hdst⟩ hdep

end JavisSaas.Lib
