import Mathlib.Data.Finset.Disjoint
import Mathlib.Data.Finset.SDiff

/-!
# The authority of a delegated agent

`compute_effective_child_authority` of `packages/agent/coordination/delegation_envelope.py` and the
chains of delegations that it makes. The spec of a child bounds its authority at every link, a
ceiling where there is one.

* `attenuationLaw`: the authority along any chain.
* `not_attenuation`: an empty ceiling, and children that declare different things.
-/

namespace JavisSaas.Agent.Coordination

/-! ## One delegation -/

/-- A capability is its name; the arguments are the sets that `set(…)` makes of them. -/
def computeEffectiveChildAuthority (parentSet childSpecSet delegatedCeiling : Finset String)
    (revokedCapabilities : Option (Finset String)) : Finset String :=
  let ceilingSet := if delegatedCeiling.Nonempty then delegatedCeiling else childSpecSet
  let revoked := revokedCapabilities.getD ∅
  ((parentSet ∩ ceilingSet) ∩ childSpecSet) \ revoked

/-- What a delegation is made with. -/
structure Delegation where
  childSpec : Finset String
  ceiling : Finset String := ∅
  revoked : Option (Finset String) := none

namespace Delegation

def attenuate (d : Delegation) (parent : Finset String) : Finset String :=
  computeEffectiveChildAuthority parent d.childSpec d.ceiling d.revoked

/-- The child declares the capability, and it is not revoked. -/
def Keeps (d : Delegation) (c : String) : Prop := c ∈ d.childSpec ∧ c ∉ d.revoked.getD ∅

/-- The ceiling, where there is one, has the capability. -/
def UnderCeiling (d : Delegation) (c : String) : Prop := d.ceiling.Nonempty → c ∈ d.ceiling

theorem mem_attenuate_iff (d : Delegation) (parent : Finset String) (c : String) :
    c ∈ d.attenuate parent ↔ c ∈ parent ∧ d.Keeps c ∧ d.UnderCeiling c := by
  unfold attenuate computeEffectiveChildAuthority Keeps UnderCeiling
  by_cases hceiling : d.ceiling.Nonempty
  · simp only [hceiling, if_true, Finset.mem_sdiff, Finset.mem_inter, forall_const]
    tauto
  · simp only [hceiling, if_false, Finset.mem_sdiff, Finset.mem_inter, false_implies, and_true]
    tauto

end Delegation

/-! ## A chain of delegations -/

/-- The authority at the end of a chain that starts with the authority `root`. -/
def authority (root : Finset String) (chain : List Delegation) : Finset String :=
  chain.foldl (fun parent d => d.attenuate parent) root

theorem authority_append (root : Finset String) (prior rest : List Delegation) :
    authority root (prior ++ rest) = authority (authority root prior) rest :=
  List.foldl_append

theorem mem_authority_iff (root : Finset String) (chain : List Delegation) (c : String) :
    c ∈ authority root chain ↔ c ∈ root ∧ ∀ d ∈ chain, d.Keeps c ∧ d.UnderCeiling c := by
  induction chain generalizing root with
  | nil => simp [authority]
  | cons d chain ih =>
    have hstep : authority root (d :: chain) = authority (d.attenuate root) chain := rfl
    rw [hstep, ih, d.mem_attenuate_iff, List.forall_mem_cons, and_assoc]

/-- What a child has is what its parent has, less what its own bounds take away. -/
structure Attenuated (parent : Finset String) (d : Delegation) (child : Finset String) :
    Prop where
  parent : child ⊆ parent
  spec : child ⊆ d.childSpec
  revoked : Disjoint child (d.revoked.getD ∅)
  ceiling : d.ceiling.Nonempty → child ⊆ d.ceiling

theorem attenuated (parent : Finset String) (d : Delegation) :
    Attenuated parent d (d.attenuate parent) where
  parent c hc := ((d.mem_attenuate_iff parent c).mp hc).1
  spec c hc := ((d.mem_attenuate_iff parent c).mp hc).2.1.1
  revoked := by
    rw [Finset.disjoint_left]
    exact fun c hc => ((d.mem_attenuate_iff parent c).mp hc).2.1.2
  ceiling hceiling c hc := ((d.mem_attenuate_iff parent c).mp hc).2.2 hceiling

/-- The capabilities along a chain of delegations. -/
structure AttenuationLaw (root : Finset String) (chain : List Delegation) : Prop where
  link : ∀ prior d rest, chain = prior ++ d :: rest →
    Attenuated (authority root prior) d (authority root (prior ++ [d]))
  shrinks : ∀ prior rest, chain = prior ++ rest → authority root chain ⊆ authority root prior
  ceilings : ∀ d ∈ chain, d.ceiling.Nonempty → authority root chain ⊆ d.ceiling
  same : ∀ chain', (∀ ceiling, ceiling ∈ chain'.map (·.ceiling) ↔ ceiling ∈ chain.map (·.ceiling)) →
    ∀ c, (∀ d ∈ chain, d.Keeps c) → (∀ d ∈ chain', d.Keeps c) →
      (c ∈ authority root chain' ↔ c ∈ authority root chain)

theorem underCeiling_iff (chain : List Delegation) (c : String) :
    (∀ d ∈ chain, d.UnderCeiling c) ↔
      ∀ ceiling ∈ chain.map (·.ceiling), ceiling.Nonempty → c ∈ ceiling := by
  rw [List.forall_mem_map]
  rfl

theorem attenuationLaw (root : Finset String) (chain : List Delegation) :
    AttenuationLaw root chain where
  link prior d rest _ := by
    rw [authority_append]
    exact attenuated (authority root prior) d
  shrinks prior rest hchain c hc := by
    rw [hchain, authority_append] at hc
    exact ((mem_authority_iff _ rest c).mp hc).1
  ceilings d hd hceiling c hc := (((mem_authority_iff root chain c).mp hc).2 d hd).2 hceiling
  same chain' hceilings c hkeeps hkeeps' := by
    have hunder : (∀ d ∈ chain', d.UnderCeiling c) ↔ ∀ d ∈ chain, d.UnderCeiling c := by
      rw [underCeiling_iff, underCeiling_iff]
      simp only [hceilings]
    rw [mem_authority_iff, mem_authority_iff]
    refine and_congr_right fun _ => ?_
    constructor
    · exact fun hall d hd => ⟨hkeeps d hd, hunder.mp (fun d' hd' => (hall d' hd').2) d hd⟩
    · exact fun hall d hd => ⟨hkeeps' d hd, hunder.mpr (fun d' hd' => (hall d' hd').2) d hd⟩

/-- Under an empty ceiling a child has what it declares; and two chains with the same ceilings end
differently. -/
theorem not_attenuation :
    ¬ authority {"task.read"} [⟨{"task.read"}, ∅, none⟩] ⊆ ∅ ∧
    authority {"task.read"} [⟨{"task.read"}, {"task.read"}, none⟩] ≠
      authority {"task.read"} [⟨{"task.create"}, {"task.read"}, none⟩] := by
  decide +kernel

end JavisSaas.Agent.Coordination
