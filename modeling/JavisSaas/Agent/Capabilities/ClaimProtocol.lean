import JavisSaas.Agent.Capabilities.ClaimPhases

/-!
# The claim protocol

What a claim is for: the claims and the executions that want, hold or have given up one of them.
`ClaimView.Sound` says that claims and index agree, that a held claim is running and held once, and
that a claim whose handler has returned is completed with the result or still held by the one who
got it. There is one lemma for every step of the protocol.
-/

namespace JavisSaas.Agent.Capabilities

open JavisSaas.Lib JavisSaas.Agent.Governance JavisSaas.Agent.Runs

variable {P : Type}

/-- The key and the phase of each unfinished execution, and the results returned for a key. -/
structure ClaimView (P : Type) where
  claim : String → Option (IdempotencyClaimRecord P)
  index : ClaimKey → Option String
  exec : ℕ → Option (ClaimKey × ClaimPhase P)
  returned : ClaimKey → P → Prop

namespace ClaimView

def setExec (v : ClaimView P) (i : ℕ) (κ : ClaimKey) (φ : ClaimPhase P) : ClaimView P :=
  { v with exec := Function.update v.exec i (some (κ, φ)) }

def setClaim (v : ClaimView P) (claimId : String) (c : IdempotencyClaimRecord P) : ClaimView P :=
  { v with claim := Function.update v.claim claimId (some c) }

def setIndex (v : ClaimView P) (κ : ClaimKey) (claimId : String) : ClaimView P :=
  { v with index := Function.update v.index κ (some claimId) }

def addReturned (v : ClaimView P) (κ : ClaimKey) (R : P → Prop) : ClaimView P :=
  { v with returned := fun κ' output => v.returned κ' output ∨ κ' = κ ∧ R output }

/-- The claim of a key whose handler has returned `output`. -/
def Settled (v : ClaimView P) (κ : ClaimKey) (claimId : String) (c : IdempotencyClaimRecord P)
    (output : P) : Prop :=
  c.status = .completed ∧ c.resultPayload = some output ∨
    c.status = .running ∧ ∀ i φ, v.exec i = some (κ, φ) → φ.owns → φ = .succeeded claimId output

structure Sound (v : ClaimView P) : Prop where
  keyed : ∀ claimId c, v.claim claimId = some c →
    c.claimId = claimId ∧ v.index c.key = some claimId
  indexed : ∀ κ claimId, v.index κ = some claimId → ∃ c, v.claim claimId = some c ∧ c.key = κ
  held : ∀ i κ φ claimId, v.exec i = some (κ, φ) → φ.claimId? = some claimId →
    v.index κ = some claimId
  running : ∀ i κ φ claimId c, v.exec i = some (κ, φ) → φ.owns → v.index κ = some claimId →
    v.claim claimId = some c → c.status = .running
  unique : ∀ i j κ φ ψ, v.exec i = some (κ, φ) → v.exec j = some (κ, ψ) → φ.owns → ψ.owns → i = j
  returned : ∀ κ output, v.returned κ output → ∃ claimId c,
    v.index κ = some claimId ∧ v.claim claimId = some c ∧ v.Settled κ claimId c output

variable {v v' : ClaimView P} {i j : ℕ} {κ κ' : ClaimKey} {φ ψ : ClaimPhase P} {claimId : String}
variable {c : IdempotencyClaimRecord P} {output output' : P}

theorem exec_setExec_eq_some {x : ClaimKey × ClaimPhase P}
    (h : (v.setExec i κ φ).exec j = some x) :
    i = j ∧ x = (κ, φ) ∨ i ≠ j ∧ v.exec j = some x := by
  change Function.update v.exec i (some (κ, φ)) j = some x at h
  rw [Function.update_apply] at h
  split_ifs at h with hij
  · exact Or.inl ⟨hij.symm, (Option.some.inj h).symm⟩
  · exact Or.inr ⟨fun e => hij e.symm, h⟩

theorem claim_setClaim_self : (v.setClaim claimId c).claim claimId = some c :=
  Function.update_self _ _ _

theorem claim_setClaim_of_ne {claimId' : String} (h : claimId' ≠ claimId) :
    (v.setClaim claimId c).claim claimId' = v.claim claimId' :=
  Function.update_of_ne h _ _

theorem ClaimPhase.claimId?_of_owns (h : φ.owns) : ∃ claimId, φ.claimId? = some claimId := by
  cases φ <;> first | exact ⟨_, rfl⟩ | nomatch h

namespace Sound

theorem mono (h : v.Sound) (hclaim : ∀ claimId, v'.claim claimId = v.claim claimId)
    (hindex : ∀ κ, v'.index κ = v.index κ)
    (hexec : ∀ i x, v'.exec i = some x → v.exec i = some x)
    (hreturned : ∀ κ output, v'.returned κ output → v.returned κ output) : v'.Sound where
  keyed claimId c hc := by
    rw [hindex]
    exact h.keyed claimId c (hclaim claimId ▸ hc)
  indexed κ claimId hκ := by
    rw [hclaim]
    exact h.indexed κ claimId (hindex κ ▸ hκ)
  held i κ φ claimId hi hφ := by
    rw [hindex]
    exact h.held i κ φ claimId (hexec i _ hi) hφ
  running i κ φ claimId c hi hφ hκ hc :=
    h.running i κ φ claimId c (hexec i _ hi) hφ (hindex κ ▸ hκ) (hclaim claimId ▸ hc)
  unique i j κ φ ψ hi hj := h.unique i j κ φ ψ (hexec i _ hi) (hexec j _ hj)
  returned κ output hr := by
    obtain ⟨claimId, c, hκ, hc, hset⟩ := h.returned κ output (hreturned κ output hr)
    refine ⟨claimId, c, (hindex κ).trans hκ, (hclaim claimId).trans hc, hset.imp id ?_⟩
    exact fun ⟨hrun, hown⟩ => ⟨hrun, fun i φ hi => hown i φ (hexec i _ hi)⟩

/-- The record is rewritten for the one execution that may hold it, after handler calls returned
`R`. -/
theorem rewrite (h : v.Sound) {R : P → Prop} {c' : IdempotencyClaimRecord P}
    (hκ : v.index κ = some claimId) (hkey : c'.key = κ) (hid : c'.claimId = claimId)
    (hothers : ∀ j ψ, i ≠ j → v.exec j = some (κ, ψ) → ψ.owns = false)
    (hφ : φ.owns → c'.status = .running) (hφid : ∀ id, φ.claimId? = some id → id = claimId)
    (hset : ∀ output, v.returned κ output ∨ R output →
      c'.status = .completed ∧ c'.resultPayload = some output ∨
        c'.status = .running ∧ (φ.owns → φ = .succeeded claimId output)) :
    (((v.setClaim claimId c').setExec i κ φ).addReturned κ R).Sound where
  keyed id c hc := by
    by_cases heq : id = claimId
    · subst heq
      rw [show c = c' from Option.some.inj (hc.symm.trans claim_setClaim_self)]
      exact ⟨hid, hkey ▸ hκ⟩
    · exact h.keyed id c ((claim_setClaim_of_ne heq).symm.trans hc)
  indexed κ' id hκ' := by
    obtain ⟨c, hc, hk⟩ := h.indexed κ' id hκ'
    by_cases heq : id = claimId
    · subst heq
      obtain ⟨c₀, hc₀, hk₀⟩ := h.indexed κ id hκ
      have hcc : c₀ = c := Option.some.inj (hc₀.symm.trans hc)
      exact ⟨c', claim_setClaim_self, hkey.trans (hk₀.symm.trans (hcc ▸ hk))⟩
    · exact ⟨c, (claim_setClaim_of_ne heq).trans hc, hk⟩
  held j κ' ψ id hj hψ := by
    rcases exec_setExec_eq_some hj with ⟨-, heq⟩ | ⟨-, hj⟩
    · cases heq
      exact hφid id hψ ▸ hκ
    · exact h.held j κ' ψ id hj hψ
  running j κ' ψ id c hj hψ hκ' hc := by
    change v.index κ' = some id at hκ'
    rcases exec_setExec_eq_some hj with ⟨-, heq⟩ | ⟨hij, hj'⟩
    · cases heq
      rw [hκ] at hκ'; cases hκ'
      rw [show c = c' from Option.some.inj (hc.symm.trans claim_setClaim_self)]
      exact hφ hψ
    · by_cases heq : id = claimId
      · subst heq
        obtain ⟨c₀, hc₀, hk₀⟩ := h.indexed κ id hκ
        obtain ⟨c₁, hc₁, hk₁⟩ := h.indexed κ' id hκ'
        have hκκ : κ' = κ := by
          rw [← hk₀, ← hk₁, Option.some.inj (hc₀.symm.trans hc₁)]
        subst hκκ
        rw [hothers j ψ hij hj'] at hψ; nomatch hψ
      · exact h.running j κ' ψ id c hj' hψ hκ' ((claim_setClaim_of_ne heq).symm.trans hc)
  unique j k κ' ψ χ hj hk hψ hχ := by
    rcases exec_setExec_eq_some hj with ⟨rfl, hej⟩ | ⟨hij, hj⟩ <;>
      rcases exec_setExec_eq_some hk with ⟨rfl, hek⟩ | ⟨hik, hk⟩
    · rfl
    · cases hej
      rw [hothers k χ hik hk] at hχ; nomatch hχ
    · cases hek
      rw [hothers j ψ hij hj] at hψ; nomatch hψ
    · exact h.unique j k κ' ψ χ hj hk hψ hχ
  returned κ' output hr := by
    by_cases heq : κ' = κ
    · subst heq
      refine ⟨claimId, c', hκ, claim_setClaim_self, ?_⟩
      refine (hset output (hr.imp id And.right)).imp id fun ⟨hrun, hown⟩ => ⟨hrun, ?_⟩
      intro j ψ hj hψ
      rcases exec_setExec_eq_some hj with ⟨-, he⟩ | ⟨hij, hj'⟩
      · cases he
        exact hown hψ
      · rw [hothers j ψ hij hj'] at hψ; nomatch hψ
    · have hr : v.returned κ' output := hr.elim id fun h => absurd h.1 heq
      obtain ⟨id, c, hκ', hc, hset'⟩ := h.returned κ' output hr
      have hne : id ≠ claimId := by
        rintro rfl
        obtain ⟨c₀, hc₀, hk₀⟩ := h.indexed κ id hκ
        obtain ⟨c₁, hc₁, hk₁⟩ := h.indexed κ' id hκ'
        exact heq (by rw [← hk₀, ← hk₁, Option.some.inj (hc₀.symm.trans hc₁)])
      refine ⟨id, c, hκ', (claim_setClaim_of_ne hne).trans hc, ?_⟩
      refine hset'.imp (fun hdone => hdone) fun ⟨hrun, hown⟩ => ⟨hrun, fun j ψ hj hψ => ?_⟩
      rcases exec_setExec_eq_some hj with ⟨-, he⟩ | ⟨-, hj⟩
      · cases he; exact absurd rfl heq
      · exact hown j ψ hj hψ

theorem addNone (h : v.Sound) : (v.addReturned κ fun _ => False).Sound :=
  h.mono (fun _ => rfl) (fun _ => rfl) (fun _ _ => id) fun _ _ hr => hr.resolve_right And.right

/-- While an execution holds the claim and has no result, no handler call of the key has returned. -/
theorem not_returned (h : v.Sound) (hi : v.exec i = some (κ, φ)) (hφ : φ.owns)
    (hne : ∀ claimId output, φ ≠ .succeeded claimId output) : ¬v.returned κ output := by
  intro hr
  obtain ⟨claimId, c, hκ, hc, ⟨hdone, _⟩ | ⟨_, hown⟩⟩ := h.returned κ output hr
  · have := h.running i κ φ claimId c hi hφ hκ hc
    rw [hdone] at this
    nomatch this
  · exact hne claimId output (hown i φ hi hφ)

/-- A claim that has failed is held by nobody, and no handler call of its key has returned. -/
theorem free_of_failed (h : v.Sound) (hκ : v.index κ = some claimId)
    (hc : v.claim claimId = some c) (hfailed : c.status = .failed) :
    (∀ j ψ, v.exec j = some (κ, ψ) → ψ.owns = false) ∧ ∀ output, ¬v.returned κ output := by
  constructor
  · intro j ψ hj
    rw [← Bool.not_eq_true]
    intro hψ
    have := h.running j κ ψ claimId c hj hψ hκ hc
    rw [hfailed] at this
    nomatch this
  · intro output hr
    obtain ⟨claimId', c', hκ', hc', hset⟩ := h.returned κ output hr
    rw [hκ] at hκ'; cases hκ'
    rw [hc] at hc'; cases hc'
    rcases hset with ⟨hdone, _⟩ | ⟨hrun, _⟩
    · rw [hfailed] at hdone; nomatch hdone
    · rw [hfailed] at hrun; nomatch hrun

/-- An execution moves to a phase in which it does not hold the claim. -/
theorem idle (h : v.Sound) (hφ : φ.owns = false)
    (hid : ∀ claimId, φ.claimId? = some claimId → v.index κ = some claimId) :
    (v.setExec i κ φ).Sound where
  keyed := h.keyed
  indexed := h.indexed
  held j κ' ψ claimId hj hψ := by
    rcases exec_setExec_eq_some hj with ⟨rfl, heq⟩ | ⟨_, hj⟩
    · cases heq; exact hid claimId hψ
    · exact h.held j κ' ψ claimId hj hψ
  running j κ' ψ claimId c hj hψ hκ hc := by
    rcases exec_setExec_eq_some hj with ⟨rfl, heq⟩ | ⟨_, hj⟩
    · cases heq; rw [hφ] at hψ; nomatch hψ
    · exact h.running j κ' ψ claimId c hj hψ hκ hc
  unique j k κ' ψ χ hj hk hψ hχ := by
    rcases exec_setExec_eq_some hj with ⟨rfl, heq⟩ | ⟨_, hj⟩
    · cases heq; rw [hφ] at hψ; nomatch hψ
    rcases exec_setExec_eq_some hk with ⟨rfl, heq⟩ | ⟨_, hk⟩
    · cases heq; rw [hφ] at hχ; nomatch hχ
    exact h.unique j k κ' ψ χ hj hk hψ hχ
  returned κ' output hr := by
    obtain ⟨claimId, c, hκ, hc, hset⟩ := h.returned κ' output hr
    refine ⟨claimId, c, hκ, hc, hset.imp id fun ⟨hrun, hown⟩ => ⟨hrun, fun j ψ hj hψ => ?_⟩⟩
    rcases exec_setExec_eq_some hj with ⟨rfl, heq⟩ | ⟨_, hj⟩
    · cases heq; rw [hφ] at hψ; nomatch hψ
    · exact hown j ψ hj hψ

theorem create (h : v.Sound) (hκ : v.index κ = none) (hfresh : v.claim c.claimId = none)
    (hkey : c.key = κ) (hrun : c.status = .running) :
    (((v.setClaim c.claimId c).setIndex κ c.claimId).setExec i κ (.granted c.claimId)).Sound := by
  have hnone : ∀ j ψ, v.exec j = some (κ, ψ) → ψ.claimId? = none := by
    intro j ψ hj
    cases hψ : ψ.claimId? with
    | none => rfl
    | some claimId => rw [h.held j κ ψ claimId hj hψ] at hκ; nomatch hκ
  have hnotOwner : ∀ j ψ, v.exec j = some (κ, ψ) → ψ.owns = false := by
    intro j ψ hj
    rw [← Bool.not_eq_true]
    intro hψ
    obtain ⟨claimId, hid⟩ := ClaimPhase.claimId?_of_owns hψ
    rw [hnone j ψ hj] at hid
    nomatch hid
  have hindex_ne : ∀ κ' claimId, v.index κ' = some claimId →
      κ' ≠ κ ∧ claimId ≠ c.claimId := by
    intro κ' claimId hκ'
    obtain ⟨c', hc', -⟩ := h.indexed κ' claimId hκ'
    refine ⟨fun e => ?_, fun e => ?_⟩
    · rw [e, hκ] at hκ'; nomatch hκ'
    · rw [e, hfresh] at hc'; nomatch hc'
  constructor
  · intro claimId c' hc'
    show c'.claimId = claimId ∧ Function.update v.index κ (some c.claimId) c'.key = some claimId
    by_cases hid : claimId = c.claimId
    · subst hid
      rw [show c' = c from Option.some.inj (hc'.symm.trans claim_setClaim_self)]
      exact ⟨rfl, by rw [hkey, Function.update_self]⟩
    · have hold := h.keyed claimId c' ((claim_setClaim_of_ne hid).symm.trans hc')
      refine ⟨hold.1, ?_⟩
      rw [Function.update_of_ne (hindex_ne _ _ hold.2).1]
      exact hold.2
  · intro κ' claimId hκ'
    show ∃ c', Function.update v.claim c.claimId (some c) claimId = some c' ∧ c'.key = κ'
    change Function.update v.index κ (some c.claimId) κ' = some claimId at hκ'
    rw [Function.update_apply] at hκ'
    split_ifs at hκ' with heq
    · cases hκ'
      exact ⟨c, Function.update_self _ _ _, hkey.trans heq.symm⟩
    · obtain ⟨c', hc', hk⟩ := h.indexed κ' claimId hκ'
      exact ⟨c', by rw [Function.update_of_ne (hindex_ne _ _ hκ').2]; exact hc', hk⟩
  · intro j κ' ψ claimId hj hψ
    show Function.update v.index κ (some c.claimId) κ' = some claimId
    rcases exec_setExec_eq_some hj with ⟨-, heq⟩ | ⟨-, hj⟩
    · cases heq
      rw [Function.update_self]
      exact hψ
    · have hold := h.held j κ' ψ claimId hj hψ
      rw [Function.update_of_ne (hindex_ne _ _ hold).1]
      exact hold
  · intro j κ' ψ claimId c' hj hψ hκ' hc'
    change Function.update v.index κ (some c.claimId) κ' = some claimId at hκ'
    change Function.update v.claim c.claimId (some c) claimId = some c' at hc'
    rw [Function.update_apply] at hκ'
    split_ifs at hκ' with heq
    · cases hκ'
      rw [Function.update_self] at hc'
      cases hc'
      exact hrun
    · rw [Function.update_of_ne (hindex_ne _ _ hκ').2] at hc'
      rcases exec_setExec_eq_some hj with ⟨-, he⟩ | ⟨-, hj⟩
      · cases he; exact absurd rfl heq
      · exact h.running j κ' ψ claimId c' hj hψ hκ' hc'
  · intro j k κ' ψ χ hj hk hψ hχ
    rcases exec_setExec_eq_some hj with ⟨rfl, hej⟩ | ⟨-, hj⟩ <;>
      rcases exec_setExec_eq_some hk with ⟨rfl, hek⟩ | ⟨-, hk⟩
    · rfl
    · cases hej
      change v.exec k = some (κ, χ) at hk
      rw [hnotOwner k χ hk] at hχ; nomatch hχ
    · cases hek
      change v.exec j = some (κ, ψ) at hj
      rw [hnotOwner j ψ hj] at hψ; nomatch hψ
    · exact h.unique j k κ' ψ χ hj hk hψ hχ
  · intro κ' output hr
    obtain ⟨claimId, c', hκ', hc', hset⟩ := h.returned κ' output hr
    obtain ⟨hne, hid⟩ := hindex_ne _ _ hκ'
    refine ⟨claimId, c', ?_, ?_, hset.imp id fun ⟨hrun', hown⟩ => ⟨hrun', fun j ψ hj hψ => ?_⟩⟩
    · show Function.update v.index κ (some c.claimId) κ' = some claimId
      rw [Function.update_of_ne hne]; exact hκ'
    · show Function.update v.claim c.claimId (some c) claimId = some c'
      rw [Function.update_of_ne hid]; exact hc'
    · rcases exec_setExec_eq_some hj with ⟨-, he⟩ | ⟨-, hj⟩
      · cases he; exact absurd rfl hne
      · exact hown j ψ hj hψ

/-! ## The steps of the protocol -/

theorem others_idle (h : v.Sound) (hi : v.exec i = some (κ, φ)) (hφ : φ.owns) :
    ∀ j ψ, i ≠ j → v.exec j = some (κ, ψ) → ψ.owns = false := by
  intro j ψ hij hj
  rw [← Bool.not_eq_true]
  exact fun hψ => hij (h.unique i j κ φ ψ hi hj hφ hψ)

/-- A claim that nobody holds, and whose handler has not returned, is granted again. -/
theorem grant (h : v.Sound) {c' : IdempotencyClaimRecord P} (hκ : v.index κ = some claimId)
    (hkey : c'.key = κ) (hid : c'.claimId = claimId) (hrun : c'.status = .running)
    (hfree : ∀ j ψ, v.exec j = some (κ, ψ) → ψ.owns = false)
    (hret : ∀ output, ¬v.returned κ output) :
    (((v.setClaim claimId c').setExec i κ (.granted claimId)).addReturned κ fun _ => False).Sound :=
  h.rewrite hκ hkey hid (fun j ψ _ => hfree j ψ) (fun _ => hrun)
    (fun _ h => (Option.some.inj h).symm) fun output hr => absurd (hr.resolve_right id) (hret output)

theorem handlerRaised (h : v.Sound) (hi : v.exec i = some (κ, .granted claimId))
    (hκ : v.index κ = some claimId) (hc : v.claim claimId = some c) :
    (((v.setClaim claimId c).setExec i κ (.failing claimId)).addReturned κ
      fun _ => False).Sound := by
  obtain ⟨c₀, hc₀, hkey⟩ := h.indexed κ claimId hκ
  cases Option.some.inj (hc₀.symm.trans hc)
  refine h.rewrite hκ hkey (h.keyed claimId c hc).1 (h.others_idle hi rfl)
    (fun _ => h.running i κ _ claimId c hi rfl hκ hc) (fun _ h => (Option.some.inj h).symm) ?_
  intro output hr
  exact absurd (hr.resolve_right id) (h.not_returned hi rfl fun _ _ h => nomatch h)

theorem handlerReturned (h : v.Sound) (hi : v.exec i = some (κ, .granted claimId))
    (hκ : v.index κ = some claimId) (hc : v.claim claimId = some c) :
    (((v.setClaim claimId c).setExec i κ (.succeeded claimId output)).addReturned κ
      fun output' => output' = output).Sound := by
  obtain ⟨c₀, hc₀, hkey⟩ := h.indexed κ claimId hκ
  cases Option.some.inj (hc₀.symm.trans hc)
  have hrun := h.running i κ _ claimId c hi rfl hκ hc
  refine h.rewrite hκ hkey (h.keyed claimId c hc).1 (h.others_idle hi rfl) (fun _ => hrun)
    (fun _ h => (Option.some.inj h).symm) ?_
  rintro output' (hr | rfl)
  · exact absurd hr (h.not_returned hi rfl fun _ _ h => nomatch h)
  · exact Or.inr ⟨hrun, fun _ => rfl⟩

theorem complete (h : v.Sound) (resultHash : String)
    (hi : v.exec i = some (κ, .succeeded claimId output))
    (hκ : v.index κ = some claimId) (hc : v.claim claimId = some c) :
    (((v.setClaim claimId { c with
        status := .completed, resultPayload := some output
        resultHash := some resultHash }).setExec i κ (.recorded claimId output)).addReturned κ
      fun _ => False).Sound := by
  obtain ⟨c₀, hc₀, hkey⟩ := h.indexed κ claimId hκ
  cases Option.some.inj (hc₀.symm.trans hc)
  refine h.rewrite hκ hkey (h.keyed claimId c hc).1 (h.others_idle hi rfl)
    (fun h => nomatch h) (fun _ h => nomatch h) ?_
  intro output' hr
  obtain ⟨id, c', hκ', hc', hset⟩ := h.returned κ output' (hr.resolve_right fun h => h)
  have hrun := h.running i κ _ id c' hi rfl hκ' hc'
  rcases hset with ⟨hdone, -⟩ | ⟨-, hown⟩
  · rw [hrun] at hdone; nomatch hdone
  · cases hown i _ hi rfl
    exact Or.inl ⟨rfl, rfl⟩

theorem release (h : v.Sound) (errorMessage : Option String)
    (hφ : φ = .granted claimId ∨ φ = .failing claimId) (hi : v.exec i = some (κ, φ))
    (hκ : v.index κ = some claimId) (hc : v.claim claimId = some c) :
    (((v.setClaim claimId { c with status := .failed, errorMessage := errorMessage }).setExec i κ
      .released).addReturned κ fun _ => False).Sound := by
  obtain ⟨c₀, hc₀, hkey⟩ := h.indexed κ claimId hκ
  cases Option.some.inj (hc₀.symm.trans hc)
  have howns : φ.owns := by rcases hφ with rfl | rfl <;> rfl
  refine h.rewrite hκ hkey (h.keyed claimId c hc).1 (h.others_idle hi howns)
    (fun h => nomatch h) (fun _ h => nomatch h) ?_
  intro output hr
  refine absurd (hr.resolve_right fun h => h) (h.not_returned hi howns ?_)
  rcases hφ with rfl | rfl <;> exact fun _ _ h => nomatch h

end Sound

end ClaimView

end JavisSaas.Agent.Capabilities
