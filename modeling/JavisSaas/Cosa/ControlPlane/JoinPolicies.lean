import JavisSaas.Cosa.ControlPlane.ChildScheduler

/-!
# When the children of a supervisor are joined

The join is decided twice: by `resolveJoin` of `child-scheduler.service.ts` on the rows of the
children, and by `is_join_satisfied` of `durable_supervisor.py` on a handle. `quorum or total` also
replaces a quorum of zero, which `??` keeps.

* `isJoinSatisfied_mono`, `resolveJoin_mono`: a satisfied join stays satisfied.
* `joinLaw_iff`: the handles on which both sides agree.
-/

namespace JavisSaas.Cosa.ControlPlane.Joins

open JavisSaas.Lib

/-! ## `resolveJoin` (lines 188–201) -/

/-- The members of a `ChildRow` that the join reads. -/
structure ChildRow where
  childId : String
  status : TaskStatus
  joinPolicy : Option JoinPolicy
  joinQuorum : Option ℤ

structure JoinResult where
  satisfied : Bool
  completed : List String
  pending : List String

/-- `resolveJoin`, of the children that are listed. -/
def resolveJoin (children : List ChildRow) : JoinResult :=
  let completed := (children.filter (·.status = .completed)).map (·.childId)
  let pending := (children.filter (·.status ≠ .completed)).map (·.childId)
  let policy := (children.head?.bind (·.joinPolicy)).getD .all
  let quorum := (children.head?.bind (·.joinQuorum)).getD children.length
  { satisfied :=
      match policy with
      | .any => 1 ≤ completed.length
      | .quorum => quorum ≤ completed.length
      | .all => 0 < children.length && pending.length = 0
    completed
    pending }

/-! ## `DurableSupervisor` (lines 128–168) -/

/-- The members of a `ChildState` that the join reads. -/
structure ChildState where
  childId : String
  status : TaskStatus

/-- `join` is `None` where the first row has no policy. -/
structure SupervisionHandle where
  join : Option JoinPolicy
  quorum : Option ℤ
  children : Dict String ChildState

/-- `value or default` of a number that may be missing. -/
def quorumOr (quorum : Option ℤ) (total : ℤ) : ℤ :=
  match quorum with
  | none => total
  | some q => if q = 0 then total else q

namespace SupervisionHandle

def done (h : SupervisionHandle) : ℕ := h.children.values.countP (·.status = .completed)

def total (h : SupervisionHandle) : ℕ := h.children.values.length

def isJoinSatisfied (h : SupervisionHandle) : Bool :=
  match h.join with
  | some .any => 1 ≤ h.done
  | some .quorum => quorumOr h.quorum h.total ≤ h.done
  | _ => h.done = h.total && 0 < h.total

/-- The rows that a handle stands for. -/
def rows (h : SupervisionHandle) : List ChildRow :=
  h.children.values.map fun c => ⟨c.childId, c.status, h.join, h.quorum⟩

/-- Every child is completed. -/
def AllCompleted (h : SupervisionHandle) : Prop := h.done = h.total

/-- Further children have completed. -/
structure Completes (h h' : SupervisionHandle) : Prop where
  join : h'.join = h.join
  quorum : h'.quorum = h.quorum
  children : h'.children.keys = h.children.keys
  stays : ∀ id c, h.children.get? id = some c → c.status = .completed →
    ∃ c', h'.children.get? id = some c' ∧ c'.status = .completed

end SupervisionHandle

/-! ## Counting the children -/

theorem countP_values {K V : Type} [DecidableEq K] (d : Dict K V) (p : V → Bool) :
    d.values.countP p = d.keys.countP fun k => (d.get? k).any p := by
  rw [Dict.values, Dict.keys, List.countP_map, List.countP_map]
  refine List.countP_congr fun kv hkv => ?_
  have hget : d.get? kv.1 = some kv.2 := Dict.get?_eq_some.mpr hkv
  rw [Function.comp_apply, Function.comp_apply, hget, Option.any_some]

theorem length_keys {K V : Type} (d : Dict K V) : d.keys.length = d.values.length := by
  rw [Dict.keys, Dict.values, List.length_map, List.length_map]

namespace SupervisionHandle

variable {h h' : SupervisionHandle}

theorem done_le_total (h : SupervisionHandle) : h.done ≤ h.total := List.countP_le_length

theorem Completes.total_eq (hc : Completes h h') : h'.total = h.total := by
  rw [total, total, ← length_keys, ← length_keys, hc.children]

theorem Completes.done_le (hc : Completes h h') : h.done ≤ h'.done := by
  rw [done, done, countP_values, countP_values, hc.children]
  refine List.countP_mono_left fun id _ hid => ?_
  obtain ⟨c, hget, hdone⟩ := (Option.any_eq_true _ _).mp hid
  obtain ⟨c', hget', hdone'⟩ := hc.stays id c hget (of_decide_eq_true hdone)
  rw [hget', Option.any_some]
  exact decide_eq_true hdone'

end SupervisionHandle

/-! ## Both sides, of the numbers of children -/

/-- `is_join_satisfied`, of the number of the completed children and of all. -/
def HandleSatisfied (join : Option JoinPolicy) (quorum : Option ℤ) (done total : ℕ) : Prop :=
  match join with
  | some .any => 1 ≤ done
  | some .quorum => quorumOr quorum total ≤ done
  | _ => done = total ∧ 0 < total

/-- `resolveJoin`, of the number of the completed children and of all. -/
def RowsSatisfied (join : Option JoinPolicy) (quorum : Option ℤ) (done total : ℕ) : Prop :=
  match join.getD .all with
  | .any => 1 ≤ done
  | .quorum => quorum.getD total ≤ done
  | .all => 0 < total ∧ done = total

theorem isJoinSatisfied_iff (h : SupervisionHandle) :
    h.isJoinSatisfied = true ↔ HandleSatisfied h.join h.quorum h.done h.total := by
  unfold SupervisionHandle.isJoinSatisfied HandleSatisfied
  split
  · exact decide_eq_true_iff
  · exact decide_eq_true_iff
  · rw [Bool.and_eq_true, decide_eq_true_iff, decide_eq_true_iff]

theorem length_pending (children : List ChildRow) :
    (resolveJoin children).pending.length +
      children.countP (·.status = .completed) = children.length := by
  have hsplit := List.length_eq_countP_add_countP (fun r : ChildRow => r.status = .completed)
    (l := children)
  have hpending : (resolveJoin children).pending.length =
      children.countP (fun r => ¬ (r.status = .completed)) := by
    rw [resolveJoin, List.length_map, List.countP_eq_length_filter]
  simp only [decide_eq_true_eq] at hsplit
  omega

theorem resolveJoin_iff (children : List ChildRow) :
    (resolveJoin children).satisfied = true ↔
      RowsSatisfied (children.head?.bind (·.joinPolicy)) (children.head?.bind (·.joinQuorum))
        (children.countP (·.status = .completed)) children.length := by
  have hdone : (resolveJoin children).completed.length =
      children.countP (·.status = .completed) := by
    rw [resolveJoin, List.length_map, List.countP_eq_length_filter]
  have hpending := length_pending children
  have hsat : (resolveJoin children).satisfied =
      match (children.head?.bind (·.joinPolicy)).getD .all with
      | .any => decide (1 ≤ (resolveJoin children).completed.length)
      | .quorum => decide ((children.head?.bind (·.joinQuorum)).getD children.length ≤
          (resolveJoin children).completed.length)
      | .all => decide (0 < children.length) &&
          decide ((resolveJoin children).pending.length = 0) := rfl
  rw [hsat, RowsSatisfied, hdone]
  cases (children.head?.bind (·.joinPolicy)).getD .all with
  | all =>
    simp only [Bool.and_eq_true, decide_eq_true_eq]
    omega
  | any | quorum => exact decide_eq_true_iff

variable {join : Option JoinPolicy} {quorum : Option ℤ} {done total : ℕ}

theorem HandleSatisfied.mono {done' : ℕ} (hle : done ≤ done') (htotal : done' ≤ total)
    (h : HandleSatisfied join quorum done total) : HandleSatisfied join quorum done' total := by
  unfold HandleSatisfied at *
  split at h <;> omega

theorem RowsSatisfied.mono {done' : ℕ} (hle : done ≤ done') (htotal : done' ≤ total)
    (h : RowsSatisfied join quorum done total) : RowsSatisfied join quorum done' total := by
  unfold RowsSatisfied at *
  split at h <;> omega

theorem satisfied_iff_satisfied (hle : done ≤ total) :
    (HandleSatisfied join quorum done total ↔ RowsSatisfied join quorum done total) ↔
      (join = some .quorum → quorum = some 0 → done = total) := by
  unfold HandleSatisfied RowsSatisfied quorumOr
  rcases join with - | policy
  · simp [and_comm]
  cases policy with
  | all => simp [and_comm]
  | any => simp
  | quorum =>
    rcases quorum with - | q
    · simp
    · by_cases hzero : q = 0
      · subst hzero
        simp
        omega
      · simp [hzero]

/-! ## Agreement -/

namespace SupervisionHandle

variable {h h' : SupervisionHandle}

theorem length_rows (h : SupervisionHandle) : h.rows.length = h.total := List.length_map _

theorem countP_rows (h : SupervisionHandle) :
    h.rows.countP (·.status = .completed) = h.done := by
  rw [rows, List.countP_map, done]
  rfl

theorem resolveJoin_rows_iff (hpos : 0 < h.total) :
    (resolveJoin h.rows).satisfied = true ↔ RowsSatisfied h.join h.quorum h.done h.total := by
  rw [resolveJoin_iff, countP_rows, length_rows]
  cases hvalues : h.children.values with
  | nil =>
    rw [total, hvalues] at hpos
    exact absurd hpos (Nat.lt_irrefl 0)
  | cons =>
    rw [rows, hvalues, List.map_cons, List.head?_cons, Option.bind_some, Option.bind_some]

/-- Without children there is no row that would say what the policy is. -/
theorem resolveJoin_rows_empty (hempty : h.total = 0) :
    (resolveJoin h.rows).satisfied = false := by
  have hnil : h.rows = [] := List.eq_nil_of_length_eq_zero (h.length_rows.trans hempty)
  rw [hnil]
  rfl

theorem isJoinSatisfied_mono (hc : Completes h h') (hsat : h.isJoinSatisfied = true) :
    h'.isJoinSatisfied = true := by
  rw [isJoinSatisfied_iff] at *
  rw [hc.join, hc.quorum, hc.total_eq]
  exact hsat.mono hc.done_le (hc.total_eq ▸ h'.done_le_total)

theorem resolveJoin_mono (hc : Completes h h') (hsat : (resolveJoin h.rows).satisfied = true) :
    (resolveJoin h'.rows).satisfied = true := by
  rcases Nat.eq_zero_or_pos h.total with hempty | hpos
  · rw [resolveJoin_rows_empty hempty] at hsat
    nomatch hsat
  · rw [resolveJoin_rows_iff hpos] at hsat
    rw [resolveJoin_rows_iff (hc.total_eq ▸ hpos), hc.join, hc.quorum, hc.total_eq]
    exact hsat.mono hc.done_le (hc.total_eq ▸ h'.done_le_total)

/-- What the two implementations are to have in common. -/
structure JoinLaw (h : SupervisionHandle) : Prop where
  agree : h.isJoinSatisfied = (resolveJoin h.rows).satisfied
  handle_mono : ∀ h', Completes h h' → h.isJoinSatisfied = true → h'.isJoinSatisfied = true
  rows_mono : ∀ h', Completes h h' → (resolveJoin h.rows).satisfied = true →
    (resolveJoin h'.rows).satisfied = true

/-- Zero is met by completing all children; without children the quorum is positive. -/
structure QuorumMeant (h : SupervisionHandle) : Prop where
  zero : h.join = some .quorum → h.quorum = some 0 → h.AllCompleted
  empty : h.join = some .quorum → h.total = 0 → ∃ q ∈ h.quorum, 0 < q

theorem agree_iff_of_pos (hpos : 0 < h.total) :
    h.isJoinSatisfied = (resolveJoin h.rows).satisfied ↔
      (h.join = some .quorum → h.quorum = some 0 → h.AllCompleted) := by
  rw [Bool.eq_iff_iff, isJoinSatisfied_iff, resolveJoin_rows_iff hpos]
  exact satisfied_iff_satisfied h.done_le_total

theorem agree_iff_of_empty (hempty : h.total = 0) :
    h.isJoinSatisfied = (resolveJoin h.rows).satisfied ↔
      (h.join = some .quorum → ∃ q ∈ h.quorum, 0 < q) := by
  have hdone : h.done = 0 := Nat.le_zero.mp (hempty ▸ h.done_le_total)
  rw [resolveJoin_rows_empty hempty, ← Bool.not_eq_true, isJoinSatisfied_iff, hdone, hempty]
  unfold HandleSatisfied quorumOr
  rcases h.join with - | policy
  · simp
  cases policy with
  | all | any => simp
  | quorum =>
    rcases h.quorum with - | q
    · simp
    · by_cases hzero : q = 0
      · simp [hzero]
      · simp [hzero]

/-- The two implementations agree, and stay satisfied, exactly where the quorum is meant so. -/
theorem joinLaw_iff (h : SupervisionHandle) : JoinLaw h ↔ QuorumMeant h := by
  have hlaw : JoinLaw h ↔ h.isJoinSatisfied = (resolveJoin h.rows).satisfied :=
    ⟨fun hlaw => hlaw.agree,
      fun hagree => ⟨hagree, fun _ hc => isJoinSatisfied_mono hc, fun _ hc => resolveJoin_mono hc⟩⟩
  rw [hlaw]
  rcases Nat.eq_zero_or_pos h.total with hempty | hpos
  · rw [agree_iff_of_empty hempty]
    constructor
    · intro hmeant
      refine ⟨fun hjoin hzero => ?_, fun hjoin _ => hmeant hjoin⟩
      obtain ⟨q, hq, hqpos⟩ := hmeant hjoin
      rw [hzero] at hq
      cases hq
      exact absurd hqpos (lt_irrefl 0)
    · exact fun hmeant hjoin => hmeant.empty hjoin hempty
  · rw [agree_iff_of_pos hpos]
    exact ⟨fun hmeant => ⟨hmeant, fun _ hempty => absurd hempty hpos.ne'⟩,
      fun hmeant => hmeant.zero⟩

end SupervisionHandle

/-- One child has still to complete, and a quorum of zero was asked for. -/
def zeroQuorum : SupervisionHandle where
  join := some .quorum
  quorum := some 0
  children := Dict.ofRows (·.childId) [⟨"a", .scheduled⟩]

theorem not_joinLaw_zeroQuorum : ¬ SupervisionHandle.JoinLaw zeroQuorum := by
  intro hlaw
  exact absurd hlaw.agree (by decide +kernel)

end JavisSaas.Cosa.ControlPlane.Joins
