import Mathlib.Order.WellFounded
import Mathlib.Data.Fintype.EquivFin
import JavisSaas.Lib.Fallible

/-!
# Depth-first search for a cycle

The search with a set of visited nodes and a set of nodes on the recursion stack. It ends at a path
from a node where it began to one that the path meets again.

* `acc_of_cycleSearch`: if it finds no cycle, the dependencies of every node are well founded.
* `cycleSearch_isOk_iff`: over a graph closed under its dependencies the converse holds as well, so
  the fuel never runs out and the order of the nodes does not matter.
* `acc_iff_acyclic`: over such a graph, well-founded dependencies are the acyclic ones.
-/

namespace JavisSaas.Lib

universe u

variable {α : Type u} [DecidableEq α]

/-- `visited` and `in_stack`. -/
structure Marks (α : Type u) where
  visited : List α
  inStack : List α

/-- The loop over the dependencies of a node; the error is the path to one that is on the stack. -/
def scanDeps (visit : α → Marks α → Except (List α) (Marks α)) :
    List α → Marks α → Except (List α) (Marks α)
  | [], m => .ok m
  | dep :: deps, m =>
    if dep ∉ m.visited then (visit dep m).bind (scanDeps visit deps)
    else if dep ∈ m.inStack then .error (dep :: m.inStack).reverse
    else scanDeps visit deps m

/-- The recursive search from `node`, with recursion depth at most the fuel. -/
def visitNode (deps : α → List α) : ℕ → α → Marks α → Except (List α) (Marks α)
  | 0, node, m => .error (node :: m.inStack).reverse
  | fuel + 1, node, m =>
    (scanDeps (visitNode deps fuel) (deps node) ⟨node :: m.visited, node :: m.inStack⟩).map
      fun m' => { m' with inStack := m'.inStack.erase node }

/-- The search from every node of a list that is not visited yet. -/
def searchFrom (visit : α → Marks α → Except (List α) (Marks α)) :
    List α → Marks α → Except (List α) (Marks α)
  | [], m => .ok m
  | node :: nodes, m =>
    if node ∉ m.visited then (visit node m).bind (searchFrom visit nodes)
    else searchFrom visit nodes m

/-- The search over the whole graph, from no marks. -/
def cycleSearch (deps : α → List α) (nodes : List α) : Except (List α) (Marks α) :=
  searchFrom (visitNode deps nodes.length) nodes ⟨[], []⟩

/-! ## A search without a cycle -/

/-- `y` is one of the dependencies of `x`. -/
def DepOf (deps : α → List α) (y x : α) : Prop := y ∈ deps x

/-- What is visited and no longer on the stack has well-founded dependencies. -/
def Settled (deps : α → List α) (m : Marks α) : Prop :=
  ∀ x ∈ m.visited, x ∉ m.inStack → Acc (DepOf deps) x

/-- What a search step from settled marks `m` to `m'` guarantees. -/
structure Advance (deps : α → List α) (m m' : Marks α) : Prop where
  settled : Settled deps m'
  visited : m.visited ⊆ m'.visited
  inStack : m'.inStack = m.inStack

omit [DecidableEq α] in
theorem Advance.trans {deps : α → List α} {a b c : Marks α} (h : Advance deps a b)
    (h' : Advance deps b c) : Advance deps a c where
  settled := h'.settled
  visited := fun _ hx => h'.visited (h.visited hx)
  inStack := h'.inStack.trans h.inStack

/-- A visit that finds no cycle settles its node. -/
def Visits (deps : α → List α) (visit : α → Marks α → Except (List α) (Marks α)) : Prop :=
  ∀ node m m', Settled deps m → node ∉ m.visited → visit node m = .ok m' →
    Advance deps m m' ∧ node ∈ m'.visited ∧ Acc (DepOf deps) node

variable {deps : α → List α} {visit : α → Marks α → Except (List α) (Marks α)} {m : Marks α}
  {nodes : List α}

theorem advance_of_scanDeps (hv : Visits deps visit) {ds : List α} {m' : Marks α}
    (hm : Settled deps m) (h : scanDeps visit ds m = .ok m') :
    Advance deps m m' ∧ ∀ d ∈ ds, Acc (DepOf deps) d := by
  induction ds generalizing m with
  | nil =>
    obtain rfl : m = m' := by simpa [scanDeps] using h
    exact ⟨⟨hm, fun _ => id, rfl⟩, by simp⟩
  | cons d _ ih =>
    rw [scanDeps] at h
    by_cases hd : d ∉ m.visited
    · rw [if_pos hd] at h
      obtain ⟨a, ha, h⟩ := bind_eq_ok.mp h
      obtain ⟨hadv, -, hacc⟩ := hv d m a hm hd ha
      obtain ⟨hadv', hall⟩ := ih hadv.settled h
      exact ⟨hadv.trans hadv', List.forall_mem_cons.mpr ⟨hacc, hall⟩⟩
    · rw [if_neg hd] at h
      by_cases hs : d ∈ m.inStack
      · rw [if_pos hs] at h
        cases h
      · rw [if_neg hs] at h
        obtain ⟨hadv, hall⟩ := ih hm h
        -- a visited node that has left the stack is settled already
        have hacc : Acc (DepOf deps) d := hm d (not_not.mp hd) hs
        exact ⟨hadv, List.forall_mem_cons.mpr ⟨hacc, hall⟩⟩

theorem visits_visitNode (deps : α → List α) (fuel : ℕ) : Visits deps (visitNode deps fuel) := by
  induction fuel with
  | zero =>
    intro node m m' _ _ h
    simp [visitNode] at h
  | succ _ ih =>
    intro node m m' hm hnode h
    rw [visitNode] at h
    obtain ⟨a, ha, rfl⟩ := map_eq_ok.mp h
    have hm1 : Settled deps ⟨node :: m.visited, node :: m.inStack⟩ := by
      intro x hx hxs
      rcases List.mem_cons.mp hx with rfl | hx
      · exact absurd List.mem_cons_self hxs
      · exact hm x hx (fun hin => hxs (List.mem_cons_of_mem _ hin))
    obtain ⟨hadv, hdeps⟩ := advance_of_scanDeps ih hm1 ha
    have hacc : Acc (DepOf deps) node := Acc.intro node hdeps
    have hstack : a.inStack.erase node = m.inStack := by
      rw [hadv.inStack]
      exact List.erase_cons_head node m.inStack
    have hsub : node :: m.visited ⊆ a.visited := hadv.visited
    refine ⟨⟨?_, fun x hx => hsub (List.mem_cons_of_mem _ hx), hstack⟩,
      hsub List.mem_cons_self, hacc⟩
    intro x hx hxs
    by_cases hxn : x = node
    · exact hxn ▸ hacc
    · refine hadv.settled x hx ?_
      rw [hadv.inStack]
      intro hmem
      rcases List.mem_cons.mp hmem with rfl | hmem
      · exact hxn rfl
      · exact hxs (hstack ▸ hmem)

theorem acc_of_searchFrom (hv : Visits deps visit) {m' : Marks α} (hm : Settled deps m)
    (hs : m.inStack = []) (h : searchFrom visit nodes m = .ok m') :
    ∀ x ∈ nodes, Acc (DepOf deps) x := by
  induction nodes generalizing m with
  | nil => simp
  | cons node _ ih =>
    rw [searchFrom] at h
    by_cases hn : node ∉ m.visited
    · rw [if_pos hn] at h
      obtain ⟨a, hvis, h⟩ := bind_eq_ok.mp h
      obtain ⟨hadv, -, hacc⟩ := hv node m a hm hn hvis
      have hrest := ih hadv.settled (hadv.inStack.trans hs) h
      exact List.forall_mem_cons.mpr ⟨hacc, hrest⟩
    · rw [if_neg hn] at h
      have hacc : Acc (DepOf deps) node := hm node (not_not.mp hn) (by simp [hs])
      exact List.forall_mem_cons.mpr ⟨hacc, ih hm hs h⟩

/-- A search that finds no cycle has met only well-founded dependencies. -/
theorem acc_of_cycleSearch {deps : α → List α} {nodes : List α} {m : Marks α}
    (h : cycleSearch deps nodes = .ok m) : ∀ x ∈ nodes, Acc (DepOf deps) x := by
  have hm : Settled deps ⟨[], []⟩ := fun x hx => absurd hx List.not_mem_nil
  exact acc_of_searchFrom (visits_visitNode deps nodes.length) hm rfl h

/-! ## Well-founded dependencies are searched without a cycle -/

omit [DecidableEq α] in
theorem not_transGen_of_acc {r : α → α → Prop} {a : α} (h : Acc r a) : ¬Relation.TransGen r a a := by
  have h' : Acc (Relation.TransGen r) a := h.transGen
  induction h' with
  | intro a _ ih => exact fun hr => ih a hr h hr

/-- How many of the nodes have not been seen yet. -/
def missing (nodes seen : List α) : ℕ := (nodes.filter (· ∉ seen)).length

theorem missing_mono (nodes : List α) {seen seen' : List α} (h : seen ⊆ seen') :
    missing nodes seen' ≤ missing nodes seen := by
  refine (List.monotone_filter_right nodes fun x hx => ?_).length_le
  have hx' : x ∉ seen' := of_decide_eq_true hx
  exact decide_eq_true fun hin => hx' (h hin)

theorem missing_lt {seen seen' : List α} (h : seen ⊆ seen') {x : α} (hx : x ∈ nodes)
    (hnew : x ∉ seen) (hold : x ∈ seen') : missing nodes seen' < missing nodes seen := by
  have hsub : (nodes.filter (· ∉ seen')).Sublist (nodes.filter (· ∉ seen)) := by
    refine List.monotone_filter_right nodes fun y hy => ?_
    have hy' : y ∉ seen' := of_decide_eq_true hy
    exact decide_eq_true fun hin => hy' (h hin)
  refine lt_of_le_of_ne hsub.length_le fun heq => ?_
  have hmem : x ∈ nodes.filter (· ∉ seen) := List.mem_filter.mpr ⟨hx, decide_eq_true hnew⟩
  rw [← hsub.eq_of_length heq] at hmem
  exact of_decide_eq_true (List.mem_filter.mp hmem).2 hold

/-- The dependencies are well founded, the stack depends on the node, and the fuel is enough. -/
def Succeeds (deps : α → List α) (nodes : List α) (fuel : ℕ)
    (visit : α → Marks α → Except (List α) (Marks α)) : Prop :=
  ∀ node m, Settled deps m → node ∈ nodes → node ∉ m.visited → missing nodes m.visited ≤ fuel →
    Acc (DepOf deps) node → (∀ s ∈ m.inStack, Relation.TransGen (DepOf deps) node s) →
    ∃ m', visit node m = .ok m'

theorem exists_scanDeps {fuel : ℕ} (hv : Visits deps visit) (hs : Succeeds deps nodes fuel visit)
    {node : α} (hacc : Acc (DepOf deps) node) {ds : List α}
    (hds : ∀ d ∈ ds, DepOf deps d node ∧ d ∈ nodes) (hm : Settled deps m)
    (hfuel : missing nodes m.visited ≤ fuel)
    (hstack : ∀ s ∈ m.inStack, Relation.ReflTransGen (DepOf deps) node s) :
    ∃ m', scanDeps visit ds m = .ok m' := by
  induction ds generalizing m with
  | nil => exact ⟨m, rfl⟩
  | cons d _ ih =>
    obtain ⟨⟨hdep, hd⟩, hds⟩ := List.forall_mem_cons.mp hds
    have hbelow : ∀ s ∈ m.inStack, Relation.TransGen (DepOf deps) d s := fun s hsin =>
      Relation.TransGen.head' hdep (hstack s hsin)
    have haccd : Acc (DepOf deps) d := hacc.inv hdep
    rw [scanDeps]
    by_cases hnew : d ∉ m.visited
    · rw [if_pos hnew]
      obtain ⟨a, ha⟩ := hs d m hm hd hnew hfuel haccd hbelow
      obtain ⟨hadv, -, -⟩ := hv d m a hm hnew ha
      rw [ha, Except.bind]
      refine ih hds hadv.settled ((missing_mono nodes hadv.visited).trans hfuel) ?_
      rw [hadv.inStack]
      exact hstack
    · rw [if_neg hnew, if_neg]
      · exact ih hds hm hfuel hstack
      · -- a dependency on the stack would close a cycle
        exact fun hin => not_transGen_of_acc haccd (hbelow d hin)

theorem succeeds_visitNode (hclosed : ∀ x ∈ nodes, ∀ d ∈ deps x, d ∈ nodes) (fuel : ℕ) :
    Succeeds deps nodes fuel (visitNode deps fuel) := by
  induction fuel with
  | zero =>
    intro node m hm hnode hnew hfuel hacc _
    have hlt : missing nodes (node :: m.visited) < missing nodes m.visited :=
      missing_lt (fun x hx => List.mem_cons_of_mem _ hx) hnode hnew List.mem_cons_self
    omega
  | succ fuel ih =>
    intro node m hm hnode hnew hfuel hacc hbelow
    rw [visitNode]
    have hlt : missing nodes (node :: m.visited) < missing nodes m.visited :=
      missing_lt (fun x hx => List.mem_cons_of_mem _ hx) hnode hnew List.mem_cons_self
    have hle : missing nodes (node :: m.visited) ≤ fuel := by omega
    refine (exists_scanDeps (visits_visitNode deps fuel) ih hacc
      (fun d hd => ⟨hd, hclosed node hnode d hd⟩) ?_ hle ?_).imp' _ fun _ h =>
        map_eq_ok.mpr ⟨_, h, rfl⟩
    · intro x hx hxs
      rcases List.mem_cons.mp hx with rfl | hx
      · exact absurd List.mem_cons_self hxs
      · exact hm x hx (fun hin => hxs (List.mem_cons_of_mem _ hin))
    · intro s hsin
      rcases List.mem_cons.mp hsin with rfl | hsin
      · exact Relation.ReflTransGen.refl
      · exact (hbelow s hsin).to_reflTransGen

/-- Over a closed graph it finds no cycle exactly if dependencies are well founded. -/
theorem cycleSearch_isOk_iff (hclosed : ∀ x ∈ nodes, ∀ d ∈ deps x, d ∈ nodes) :
    (∃ m, cycleSearch deps nodes = .ok m) ↔ ∀ x ∈ nodes, Acc (DepOf deps) x := by
  constructor
  · rintro ⟨m, hm⟩
    exact acc_of_cycleSearch hm
  · intro hacc
    have hrun : ∀ ns ⊆ nodes, ∀ m : Marks α, Settled deps m → m.inStack = [] →
        ∃ m', searchFrom (visitNode deps nodes.length) ns m = .ok m' := by
      intro ns
      induction ns with
      | nil => exact fun _ m _ _ => ⟨m, rfl⟩
      | cons node ns ih =>
        intro hns m hm hs
        have hnode : node ∈ nodes := hns List.mem_cons_self
        have hrest : ns ⊆ nodes := fun x hx => hns (List.mem_cons_of_mem _ hx)
        rw [searchFrom]
        by_cases hnew : node ∉ m.visited
        · rw [if_pos hnew]
          obtain ⟨a, ha⟩ := succeeds_visitNode hclosed nodes.length node m hm hnode hnew
            (List.length_filter_le _ _) (hacc node hnode) (by simp [hs])
          obtain ⟨hadv, -, -⟩ := visits_visitNode deps _ node m a hm hnew ha
          rw [ha]
          exact ih hrest a hadv.settled (hadv.inStack.trans hs)
        · rw [if_neg hnew]
          exact ih hrest m hm hs
    exact hrun nodes (fun _ hx => hx) ⟨[], []⟩ (fun x hx => absurd hx List.not_mem_nil) rfl

/-- Over finitely many nodes, dependencies are well founded if none leads back to itself. -/
theorem acc_iff_acyclic (hclosed : ∀ x ∈ nodes, ∀ d ∈ deps x, d ∈ nodes) :
    (∀ x ∈ nodes, Acc (DepOf deps) x) ↔ ∀ x ∈ nodes, ¬Relation.TransGen (DepOf deps) x x := by
  refine ⟨fun h x hx => not_transGen_of_acc (h x hx), fun h => ?_⟩
  let r (y x : { x // x ∈ nodes }) : Prop := Relation.TransGen (DepOf deps) y.1 x.1
  have htrans : IsTrans _ r := ⟨fun _ _ _ => Relation.TransGen.trans⟩
  have hirrefl : Std.Irrefl r := ⟨fun x => h x.1 x.2⟩
  have hfinite : Finite { x // x ∈ nodes } :=
    (Fintype.subtype nodes.toFinset fun _ => List.mem_toFinset).finite
  have hwf : WellFounded r := Finite.wellFounded_of_trans_of_irrefl r
  have hacc : ∀ x : { x // x ∈ nodes }, Acc (DepOf deps) x.1 := by
    intro x
    induction x using hwf.induction with
    | _ x ih =>
      refine Acc.intro x.1 fun y hy => ?_
      exact ih ⟨y, hclosed x.1 x.2 y hy⟩ (Relation.TransGen.single hy)
  exact fun x hx => hacc ⟨x, hx⟩

end JavisSaas.Lib
