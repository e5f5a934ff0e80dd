import JavisSaas.Agent.Skills.ImprovementRepository
import JavisSaas.Lib.Custody

/-!
# Claims of skill improvements

What holds of requests, aggregates and the outbox in every interleaving, and who holds a claim.

* `moved_of_step`: what one step writes, and what its call holds after it.
* `kept_of_step`: what a step keeps, whether or not its claims are kept.
-/

namespace JavisSaas.Agent.Skills

open JavisSaas.Lib ImprovementStore

variable {F : Type} {ops : ScoreOps F} {s s' : ImprovementStore F} {call : ImprovementCall F}
  {call' : Option (ImprovementCall F)} {a : ImprovementAnswers} {id : String}

/-! ## The laws -/

structure ImprovementLaw (s : ImprovementStore F) : Prop where
  /-- One request for a skill is pending or running. -/
  oneLive : ∀ id r id' r', s.requests.get? id = some r → s.requests.get? id' = some r' →
    r.pin = r'.pin → r.status.Live → r'.status.Live → id = id'
  revisions : ∀ pin, (s.aggregatesOf pin).map (·.revision) =
    List.range' 1 (s.aggregatesOf pin).length
  /-- Every feedback that is stored was counted once. -/
  counted : ∀ pin, (s.aggregatesOf pin).length = s.feedback.values.countP (·.pin = pin)
  keys : ∀ id r id' r', s.feedback.get? id = some r → s.feedback.get? id' = some r' →
    r.pin.workspaceId = r'.pin.workspaceId → r.idempotencyKey = r'.idempotencyKey →
      r.idempotencyKey ≠ none → id = id'

/-- A request or an outbox row that a call may hold. -/
inductive Held
  | request (id : String)
  | outbox (id : String)
  deriving DecidableEq

/-- What the call has claimed and not finished. -/
def ImprovementCall.held : ImprovementCall F → List Held
  | .checking claim | .executing claim | .finishing claim _ => [.request claim.id]
  | .working claims => claims.map (.request ·.id)
  | .sending items => items.map (.outbox ·.id)
  | .delivering item items | .failing item items => (item :: items).map (.outbox ·.id)
  | _ => []

def ImprovementCall.Holds (call : ImprovementCall F) (h : Held) : Prop := h ∈ call.held

/-- The request is running, or the outbox row is claimed. -/
def Owed (s : ImprovementStore F) : Held → Prop
  | .request id => ∃ r ∈ s.requests.get? id, r.status = .running
  | .outbox id => ∃ r ∈ s.outbox.get? id, r.state = .claimed

instance (s : ImprovementStore F) : (h : Held) → Decidable (Owed s h)
  | .request id => inferInstanceAs (Decidable (∃ r ∈ s.requests.get? id, _))
  | .outbox id => inferInstanceAs (Decidable (∃ r ∈ s.outbox.get? id, _))

/-- The outbox row was delivered. -/
def Delivered (s : ImprovementStore F) (id : String) : Prop :=
  ∃ r, s.outbox.get? id = some r ∧ r.state = .delivered

/-- The request runs under the claim. -/
def RunsUnder (s : ImprovementStore F) (claim : ImprovementClaim) : Prop :=
  ∃ r, s.requests.get? claim.id = some r ∧ r.status = .running ∧ r.claimToken = some claim.token

/-- The outbox row is claimed under the claim. -/
def ClaimedUnder (s : ImprovementStore F) (item : ImprovementClaim) : Prop :=
  ∃ r, s.outbox.get? item.id = some r ∧ r.state = .claimed ∧ r.claimToken = some item.token

/-- The claim that a step is about to finish. -/
def ImprovementCall.finishes : ImprovementCall F → Option ImprovementClaim
  | .finishing claim _ => some claim
  | .working (claim :: _) => some claim
  | _ => none

/-- The outbox row that a step is about to send. -/
def ImprovementCall.sends : ImprovementCall F → Option ImprovementClaim
  | .sending (item :: _) => some item
  | _ => none

/-- A row is sent under its claim, a delivered one stays so, and a foreign claim finishes nothing. -/
structure ImprovementStepLaw (ops : ScoreOps F) (s : ImprovementStore F) (call : ImprovementCall F)
    (a : ImprovementAnswers) : Prop where
  sends : ∀ item ∈ call.sends, ClaimedUnder s item
  delivered : ∀ r, (improvements ops).step s call a = some r → ∀ id, Delivered s id →
    Delivered r.1 id
  superseded : ∀ claim ∈ call.finishes, ¬ RunsUnder s claim →
    ∀ r, (improvements ops).step s call a = some r → ∀ id, r.1.requests.get? id = s.requests.get? id

/-- What is claimed can come to its end, and no request is in the way of a later one for ever. -/
structure LiveLaw (ops : ScoreOps F) (f : InFlight (ImprovementStore F) (ImprovementCall F)) :
    Prop where
  ends : ∀ held, Owed f.store held → ∃ ls f',
    (improvements ops).system.run f ls = some f' ∧ ¬ Owed f'.store held
  queues : ∀ pin, ∃ ls f', (improvements ops).system.run f ls = some f' ∧
    ∀ id r, f'.store.requests.get? id = some r → r.pin = pin → ¬ r.status.Live

/-- `mark_outbox_failed` does not raise while the row is claimed. -/
def ImprovementCall.Lives (s : ImprovementStore F) (call : ImprovementCall F)
    (a : ImprovementAnswers) : Prop :=
  match call with
  | .failing item _ => a.ended = .raised → ¬ Owed s (.outbox item.id)
  | _ => True

instance (s : ImprovementStore F) (call : ImprovementCall F) (a : ImprovementAnswers) :
    Decidable (call.Lives s a) := by
  unfold ImprovementCall.Lives
  split <;> infer_instance

/-- Nothing that the call holds is claimed. -/
def ImprovementCall.Free (s : ImprovementStore F) (call : ImprovementCall F) : Prop :=
  ∀ held ∈ call.held, ¬ Owed s held
deriving Decidable

/-! ## Rows -/

structure ImprovementInv (s : ImprovementStore F) : Prop extends ImprovementLaw s where
  settled : ∀ id r, s.outbox.get? id = some r → r.state = .delivered → r.claimToken = none
  /-- A request has a claim while it is running. -/
  tokens : ∀ id r, s.requests.get? id = some r → r.claimToken ≠ none → r.status = .running

section

variable {V : Type} (f : ImprovementClaim → V → V)

/-- The rows of some claims are updated, one after the other. -/
def updateEach (d : Dict String V) (picked : List ImprovementClaim) : Dict String V :=
  picked.foldl (fun t c => t.modify c.id (f c)) d

variable {picked : List ImprovementClaim}

theorem get?_updateEach_of_ne (d : Dict String V)
    (h : ∀ c ∈ picked, c.id ≠ id) : (updateEach f d picked).get? id = d.get? id := by
  induction picked generalizing d with
  | nil => rfl
  | cons c _ ih =>
    have hne : c.id ≠ id := h c List.mem_cons_self
    refine (ih (d.modify c.id (f c)) fun c' hc' => h c' (List.mem_cons_of_mem _ hc')).trans ?_
    rw [Dict.get?_modify]
    simp [hne]

theorem get?_updateEach_of_mem (d : Dict String V)
    (h : (picked.map (·.id)).Nodup) {c : ImprovementClaim} (hc : c ∈ picked) :
    (updateEach f d picked).get? c.id = (d.get? c.id).map (f c) := by
  induction picked generalizing d with
  | nil => nomatch hc
  | cons c' picked ih =>
    rw [List.map_cons, List.nodup_cons] at h
    have hne : ∀ c ∈ picked, c.id ≠ c'.id := fun c hc hsame => h.1 (hsame ▸ List.mem_map_of_mem hc)
    rcases List.mem_cons.mp hc with rfl | hc
    · refine (get?_updateEach_of_ne f (d.modify c.id (f c)) hne).trans ?_
      rw [Dict.get?_modify]
      simp
    · refine (ih (d.modify c'.id (f c')) h.2 hc).trans ?_
      rw [Dict.get?_modify]
      simp [(hne c hc).symm]

theorem updateEach_cases {d : Dict String V}
    (h : (picked.map (·.id)).Nodup) {v' : V} (hv' : (updateEach f d picked).get? id = some v') :
    (∃ c ∈ picked, c.id = id ∧ ∃ v, d.get? id = some v ∧ v' = f c v) ∨
      d.get? id = some v' ∧ ∀ c ∈ picked, c.id ≠ id := by
  by_cases hmem : ∃ c ∈ picked, c.id = id
  · obtain ⟨c, hc, rfl⟩ := hmem
    rw [get?_updateEach_of_mem f d h hc] at hv'
    obtain ⟨v, hv, rfl⟩ := Option.map_eq_some_iff.mp hv'
    exact .inl ⟨c, hc, rfl, v, hv, rfl⟩
  · have hne : ∀ c ∈ picked, c.id ≠ id := fun c hc hid => hmem ⟨c, hc, hid⟩
    exact .inr ⟨(get?_updateEach_of_ne f d hne).symm.trans hv', hne⟩

end

/-! ## What a call knows -/

/-- The ids are different, and every row is claimed under its claim. -/
def AllClaimed (s : ImprovementStore F) (items : List ImprovementClaim) : Prop :=
  (items.map (·.id)).Nodup ∧ ∀ item ∈ items, ClaimedUnder s item

/-- The next revision that a call has found, or one that is in use by now. -/
def FeedbackWrite.Counts (s : ImprovementStore F) (w : FeedbackWrite F) : Prop :=
  w.aggregate.pin = w.row.pin ∧ 1 ≤ w.aggregate.revision ∧
    w.aggregate.revision ≤ (s.aggregatesOf w.row.pin).length + 1

def ImprovementCall.Knows (s : ImprovementStore F) : ImprovementCall F → Prop
  | .matching w | .committing w => w.Counts s
  | .checking claim | .executing claim | .finishing claim _ => RunsUnder s claim
  | .working claims => (claims.map (·.id)).Nodup ∧ ∀ claim ∈ claims, RunsUnder s claim
  | .sending items => AllClaimed s items
  | .delivering item items => AllClaimed s (item :: items)
  | .failing item items => ((item :: items).map (·.id)).Nodup ∧
    (ClaimedUnder s item ∨ Delivered s item.id) ∧ ∀ item ∈ items, ClaimedUnder s item
  | _ => True

/-- A call that holds it knows of it. -/
def Taken (s : ImprovementStore F) : Held → Prop
  | .request id => ∃ r, s.requests.get? id = some r ∧ r.status = .running
  | .outbox id => ∃ r, s.outbox.get? id = some r ∧ (r.state = .claimed ∨ r.state = .delivered)

/-- The row is as it was. -/
def SameRow (s s' : ImprovementStore F) : Held → Prop
  | .request id => s'.requests.get? id = s.requests.get? id
  | .outbox id => s'.outbox.get? id = s.outbox.get? id

variable {claim : ImprovementClaim} {held : Held} {w : FeedbackWrite F} {c : ImprovementClaim}
  {picked : List ImprovementClaim} {limit : ℕ}

theorem RunsUnder.taken (h : RunsUnder s claim) : Taken s (.request claim.id) := by
  obtain ⟨r, hr, hstatus, -⟩ := h
  exact ⟨r, hr, hstatus⟩

variable {item : ImprovementClaim}

theorem ClaimedUnder.taken (h : ClaimedUnder s item) :
    Taken s (.outbox item.id) := by
  obtain ⟨r, hr, hstate, -⟩ := h
  exact ⟨r, hr, .inl hstate⟩

theorem Delivered.taken (h : Delivered s id) : Taken s (.outbox id) := by
  obtain ⟨r, hr, hstate⟩ := h
  exact ⟨r, hr, .inr hstate⟩

theorem RunsUnder.same {claim : ImprovementClaim} (h : RunsUnder s claim)
    (hsame : SameRow s s' (.request claim.id)) : RunsUnder s' claim := by
  obtain ⟨r, hr, hrest⟩ := h
  exact ⟨r, Eq.trans hsame hr, hrest⟩

theorem ClaimedUnder.same (h : ClaimedUnder s item)
    (hsame : SameRow s s' (.outbox item.id)) : ClaimedUnder s' item := by
  obtain ⟨r, hr, hrest⟩ := h
  exact ⟨r, Eq.trans hsame hr, hrest⟩

theorem Delivered.same (h : Delivered s id) (hsame : SameRow s s' (.outbox id)) :
    Delivered s' id := by
  obtain ⟨r, hr, hrest⟩ := h
  exact ⟨r, Eq.trans hsame hr, hrest⟩

theorem ImprovementCall.Knows.taken (h : call.Knows s) (hh : call.Holds held) : Taken s held := by
  unfold ImprovementCall.Holds at hh
  cases call with
  | observing | recording | measuring | matching | committing | fetching | claiming | claimingMany
  | relaying => nomatch hh
  | checking | executing | finishing =>
    obtain rfl := List.mem_singleton.mp hh
    exact RunsUnder.taken h
  | working =>
    obtain ⟨claim, hclaim, rfl⟩ := List.mem_map.mp hh
    exact (h.2 claim hclaim).taken
  | sending items | delivering item items =>
    obtain ⟨item, hitem, rfl⟩ := List.mem_map.mp hh
    exact (h.2 item hitem).taken
  | failing =>
    obtain ⟨item', hitem, rfl⟩ := List.mem_map.mp hh
    rcases List.mem_cons.mp hitem with rfl | hitem
    · exact h.2.1.elim ClaimedUnder.taken Delivered.taken
    · exact (h.2.2 item' hitem).taken

theorem ImprovementCall.Knows.kept (h : call.Knows s)
    (hrows : ∀ held, call.Holds held → SameRow s s' held)
    (haggregates : ∀ pin, (s.aggregatesOf pin).length ≤ (s'.aggregatesOf pin).length) :
    call.Knows s' := by
  unfold ImprovementCall.Holds at hrows
  cases call with
  | observing | recording | measuring | fetching | claiming | claimingMany | relaying => trivial
  | matching w | committing w =>
    exact ⟨h.1, h.2.1, h.2.2.trans (Nat.succ_le_succ (haggregates w.row.pin))⟩
  | checking | executing | finishing =>
    exact RunsUnder.same h (hrows _ List.mem_cons_self)
  | working =>
    exact ⟨h.1, fun claim hclaim => (h.2 claim hclaim).same (hrows _ (List.mem_map_of_mem hclaim))⟩
  | sending items | delivering item items =>
    exact ⟨h.1, fun item hitem => (h.2 item hitem).same (hrows _ (List.mem_map_of_mem hitem))⟩
  | failing item =>
    have hitem := hrows (.outbox item.id) List.mem_cons_self
    refine ⟨h.1, h.2.1.imp (·.same hitem) (·.same hitem), fun item' hitem' => ?_⟩
    exact (h.2.2 item' hitem').same (hrows _ (List.mem_cons_of_mem _ (List.mem_map_of_mem hitem')))

/-- What every step keeps: the laws, the rows that others hold, and deliveries. -/
structure Kept (s : ImprovementStore F) (call : ImprovementCall F) (s' : ImprovementStore F)
    (call' : Option (ImprovementCall F)) : Prop where
  inv : ImprovementInv s'
  rows : ∀ held, ¬ call.Holds held → Taken s held → SameRow s s' held
  aggregates : ∀ pin, (s.aggregatesOf pin).length ≤ (s'.aggregatesOf pin).length
  delivered : ∀ id, Delivered s id → Delivered s' id
  own : ∀ d ∈ call', d.Knows s'
  taken : ∀ d ∈ call', ∀ held, d.Holds held → call.Holds held ∨ ¬ Taken s held

/-- A step after which what is claimed is in the hands of the call, or of another. -/
structure Moved (s : ImprovementStore F) (call : ImprovementCall F) (s' : ImprovementStore F)
    (call' : Option (ImprovementCall F)) : Prop extends Kept s call s' call' where
  debts : ∀ held, Owed s' held → Owed s held ∧ ¬ call.Holds held ∨ ∃ d ∈ call', d.Holds held

theorem Owed.taken (h : Owed s held) : Taken s held := by
  cases held with
  | request => exact h
  | outbox =>
    obtain ⟨r, hr, hstate⟩ := h
    exact ⟨r, hr, .inl hstate⟩

theorem Moved.of_next {d : ImprovementCall F} (hI : ImprovementInv s) (hd : d.Knows s)
    (hheld : d.held = call.held) : Moved s call s (some d) := by
  have hholds : ∀ held, d.Holds held ↔ call.Holds held := fun held => by
    unfold ImprovementCall.Holds
    rw [hheld]
  refine ⟨⟨hI, fun held _ _ => by cases held <;> rfl, fun _ => Nat.le_refl _, fun _ h => h,
    fun e he => ?_, fun e he held hh => ?_⟩, fun held howed => ?_⟩
  · cases he
    exact hd
  · cases he
    exact .inl ((hholds held).mp hh)
  · by_cases hh : call.Holds held
    · exact .inr ⟨d, rfl, (hholds held).mpr hh⟩
    · exact .inl ⟨howed, hh⟩

theorem Moved.of_end (hI : ImprovementInv s) (hheld : call.held = []) : Moved s call s none := by
  refine ⟨⟨hI, fun held _ _ => by cases held <;> rfl, fun _ => Nat.le_refl _, fun _ h => h,
    (fun _ h => nomatch h), (fun _ h => nomatch h)⟩, fun held howed => .inl ⟨howed, fun hh => ?_⟩⟩
  unfold ImprovementCall.Holds at hh
  rw [hheld] at hh
  nomatch hh

/-! ## Feedback -/

theorem request_of_commit {r : ImprovementRequest} (h : (s.commit w a).requests.get? id = some r) :
    s.requests.get? id = some r ∨ (w.disposition = .queued ∧ w.live = none) ∧
      id = a.newRequestId ∧ r.pin = w.row.pin ∧ r.status = .pending ∧ r.claimToken = none := by
  by_cases hqueues : w.disposition = .queued ∧ w.live = none
  · replace h : (if _ then s.requests.set _ _ else s.requests).get? id = some r := h
    rw [if_pos hqueues, Dict.get?_set] at h
    split_ifs at h with hid
    · cases h
      exact .inr ⟨hqueues, hid.symm, rfl, rfl, rfl⟩
    · exact .inl h
  · replace h : (if _ then s.requests.set _ _ else s.requests).get? id = some r := h
    rw [if_neg hqueues] at h
    exact .inl h

theorem outbox_of_commit {r : ImprovementOutbox} (h : (s.commit w a).outbox.get? id = some r) :
    s.outbox.get? id = some r ∨ r.state = .pending := by
  by_cases hqueues : w.disposition = .queued ∧ w.live = none
  · replace h : (if _ then s.outbox.set _ _ else s.outbox).get? id = some r := h
    rw [if_pos hqueues, Dict.get?_set] at h
    split_ifs at h with hid
    · cases h
      exact .inr rfl
    · exact .inl h
  · replace h : (if _ then s.outbox.set _ _ else s.outbox).get? id = some r := h
    rw [if_neg hqueues] at h
    exact .inl h

variable {w : FeedbackWrite F}

theorem sameRow_commit (h : s.Admits w a) {held : Held}
    (hheld : Taken s held) : SameRow s (s.commit w a) held := by
  by_cases hqueues : w.disposition = .queued ∧ w.live = none
  · obtain ⟨hrequest, houtbox, -⟩ := h.2.2.2 hqueues
    rw [Option.isNone_iff_eq_none] at hrequest houtbox
    cases held with
    | request id =>
      obtain ⟨r, hr, -⟩ := hheld
      show (if _ then s.requests.set _ _ else s.requests).get? id = _
      rw [if_pos hqueues, Dict.get?_set_of_ne _ fun hid => ?_]
      nomatch (hid ▸ hrequest).symm.trans hr
    | outbox id =>
      obtain ⟨r, hr, -⟩ := hheld
      show (if _ then s.outbox.set _ _ else s.outbox).get? id = _
      rw [if_pos hqueues, Dict.get?_set_of_ne _ fun hid => ?_]
      nomatch (hid ▸ houtbox).symm.trans hr
  · cases held with
    | request id =>
      show (if _ then s.requests.set _ _ else s.requests).get? id = _
      rw [if_neg hqueues]
    | outbox id =>
      show (if _ then s.outbox.set _ _ else s.outbox).get? id = _
      rw [if_neg hqueues]

theorem aggregatesOf_commit (s : ImprovementStore F) (w : FeedbackWrite F) (a : ImprovementAnswers)
    (pin : SkillPin) : (s.commit w a).aggregatesOf pin =
      s.aggregatesOf pin ++ if w.aggregate.pin = pin then [w.aggregate] else [] := by
  show (s.aggregates ++ [w.aggregate]).filter _ = _
  rw [List.filter_append]
  by_cases hpin : w.aggregate.pin = pin
  · rw [if_pos hpin, List.filter_singleton, decide_eq_true hpin]
    rfl
  · rw [if_neg hpin, List.filter_singleton, decide_eq_false hpin]
    rfl

theorem revision_of_admits (hI : ImprovementInv s) (hJ : w.Counts s)
    (h : s.Admits w a) : w.aggregate.revision = (s.aggregatesOf w.row.pin).length + 1 := by
  obtain ⟨hpin, hpos, hle⟩ := hJ
  by_contra hne
  have hmem : w.aggregate.revision ∈ (s.aggregatesOf w.row.pin).map (·.revision) := by
    rw [hI.revisions, List.mem_range'_1]
    omega
  obtain ⟨r, hr, hrevision⟩ := List.mem_map.mp hmem
  exact h.2.2.1 r (hpin ▸ hr) hrevision

theorem inv_commit (hI : ImprovementInv s) (hJ : w.Counts s)
    (h : s.Admits w a) : ImprovementInv (s.commit w a) where
  oneLive id r id' r' hr hr' hpin hlive hlive' := by
    rcases request_of_commit hr with hold | ⟨hqueues, rfl, hnew, -⟩
    · rcases request_of_commit hr' with hold' | ⟨hqueues, rfl, hnew, -⟩
      · exact hI.oneLive id r id' r' hold hold' hpin hlive hlive'
      · have hvalues := Dict.mem_values.mpr ⟨id, hold⟩
        exact absurd hlive ((h.2.2.2 hqueues).2.2 r hvalues (hpin.trans hnew))
    · rcases request_of_commit hr' with hold' | ⟨-, rfl, -⟩
      · have hvalues := Dict.mem_values.mpr ⟨id', hold'⟩
        exact absurd hlive' ((h.2.2.2 hqueues).2.2 r' hvalues (hpin.symm.trans hnew))
      · rfl
  revisions pin := by
    rw [aggregatesOf_commit]
    by_cases hpin : w.aggregate.pin = pin
    · subst hpin
      rw [if_pos rfl, List.map_append, List.length_append, hI.revisions]
      have hrevision := revision_of_admits hI hJ h
      rw [← hJ.1] at hrevision
      show _ ++ [w.aggregate.revision] = List.range' 1 (_ + 1)
      rw [hrevision, List.range'_1_concat, Nat.add_comm 1]
    · rw [if_neg hpin, List.append_nil]
      exact hI.revisions pin
  counted pin := by
    rw [aggregatesOf_commit, List.length_append, hI.counted]
    have hnone : s.feedback.get? w.feedbackId = none := Option.isNone_iff_eq_none.mp h.1
    have hvalues : (s.commit w a).feedback.values = s.feedback.values ++ [w.row] := by
      show List.map _ (s.feedback.set _ _).items = _
      rw [Dict.items_set_of_get?_eq_none hnone, List.map_append]
      rfl
    rw [hvalues, List.countP_append, List.countP_singleton, hJ.1]
    by_cases hpin : w.row.pin = pin <;> simp [hpin]
  keys id r id' r' hr hr' hworkspace hkey hsome := by
    replace hr : (s.feedback.set w.feedbackId w.row).get? id = some r := hr
    replace hr' : (s.feedback.set w.feedbackId w.row).get? id' = some r' := hr'
    rw [Dict.get?_set] at hr hr'
    obtain ⟨key, hsome'⟩ := Option.ne_none_iff_exists'.mp hsome
    split_ifs at hr with hid
    · cases hr
      split_ifs at hr' with hid'
      · exact hid.symm.trans hid'
      · have hvalues := Dict.mem_values.mpr ⟨id', hr'⟩
        exact absurd (hkey.symm.trans hsome') (h.2.1 key hsome' r' hvalues hworkspace.symm)
    · split_ifs at hr' with hid'
      · cases hr'
        have hvalues := Dict.mem_values.mpr ⟨id, hr⟩
        exact absurd hsome' (h.2.1 key (hkey.symm.trans hsome') r hvalues hworkspace)
      · exact hI.keys id r id' r' hr hr' hworkspace hkey hsome
  settled id r hr hstate := by
    rcases outbox_of_commit hr with hold | hnew
    · exact hI.settled id r hold hstate
    · nomatch hnew.symm.trans hstate
  tokens id r hr htoken := by
    rcases request_of_commit hr with hold | ⟨-, -, -, -, hnone⟩
    · exact hI.tokens id r hold htoken
    · exact absurd hnone htoken

theorem moved_committing (hI : ImprovementInv s) (hJ : w.Counts s)
    (h : s.Admits w a) : Moved s (.committing w) (s.commit w a) none := by
  refine ⟨⟨inv_commit hI hJ h, fun held _ htaken => sameRow_commit h htaken, fun pin => ?_,
    fun id hd => hd.same (sameRow_commit h hd.taken), (fun _ h => nomatch h),
    (fun _ h => nomatch h)⟩, fun held howed => .inl ⟨?_, fun hh => nomatch hh⟩⟩
  · rw [aggregatesOf_commit, List.length_append]
    exact Nat.le_add_right _ _
  · cases held with
    | request =>
      obtain ⟨r, hr, hstatus⟩ := howed
      rcases request_of_commit hr with hold | ⟨-, -, -, hpending, -⟩
      · exact ⟨r, hold, hstatus⟩
      · nomatch hpending.symm.trans hstatus
    | outbox =>
      obtain ⟨r, hr, hstate⟩ := howed
      rcases outbox_of_commit hr with hold | hpending
      · exact ⟨r, hold, hstate⟩
      · nomatch hpending.symm.trans hstate

theorem Moved.of_logged (hI : ImprovementInv s) (hheld : call.held = [])
    (observations : List SkillUsageObservation) (results : List (FeedbackWriteResult F)) :
    Moved s call { s with observations, results } none := by
  have h : Moved s call s none := .of_end hI hheld
  obtain ⟨⟨⟨⟨hlive, hrevisions, hcounted, hkeys⟩, hsettled, htokens⟩, -⟩, hdebts⟩ := h
  exact ⟨⟨⟨⟨hlive, hrevisions, hcounted, hkeys⟩, hsettled, htokens⟩,
    fun held _ _ => by cases held <;> rfl, fun _ => Nat.le_refl _, fun _ h => h,
    (fun _ h => nomatch h), (fun _ h => nomatch h)⟩,
    fun held howed => hdebts held (by cases held <;> exact howed)⟩

theorem moved_observing (o : SkillUsageObservation) (hI : ImprovementInv s) :
    Moved s (.observing o) (s.observe o) none := by
  unfold observe
  split_ifs
  · exact .of_end hI rfl
  · exact .of_logged hI rfl _ s.results

theorem moved_recording {f : SkillFeedbackRecord} {policy : ImprovementPolicy F}
    (hI : ImprovementInv s)
    (h : (ImprovementCall.recording f policy).step ops s a = some (s', call')) :
    Moved s (.recording f policy) s' call' := by
  rw [ImprovementCall.step] at h
  split at h
  · cases h
    exact .of_end hI rfl
  · split at h
    · cases h
      exact .of_logged hI rfl s.observations _
    · cases h
      exact .of_next hI trivial rfl

theorem counts_nextAggregate (ops : ScoreOps F) (hI : ImprovementInv s)
    (policy : ImprovementPolicy F) (feedbackId : String) (row : StoredFeedback) :
    FeedbackWrite.Counts s
      { feedbackId, row
        aggregate := s.nextAggregate ops policy row
        disposition := policy.disposition (s.nextAggregate ops policy row)
        policyHash := policy.policyHash } := by
  refine ⟨rfl, ?_⟩
  show 1 ≤ (s.latestAggregate row.pin).elim 1 _ ∧ (s.latestAggregate row.pin).elim 1 _ ≤ _
  cases hlatest : s.latestAggregate row.pin with
  | none => exact ⟨Nat.le_refl 1, Nat.le_add_left 1 _⟩
  | some latest =>
    have hmem : latest.revision ∈ (s.aggregatesOf row.pin).map (·.revision) :=
      List.mem_map_of_mem (List.argmax_mem hlatest)
    rw [hI.revisions, List.mem_range'_1] at hmem
    show 1 ≤ latest.revision + 1 ∧ latest.revision + 1 ≤ (s.aggregatesOf row.pin).length + 1
    omega

/-! ## Requests -/

/-- An update of requests that ends some, or runs some that are pending. -/
theorem ImprovementInv.of_requests (hI : ImprovementInv s) (haggregates : s'.aggregates = s.aggregates)
    (hfeedback : s'.feedback = s.feedback) (houtbox : s'.outbox = s.outbox)
    (hrequests : ∀ id r', s'.requests.get? id = some r' → ∃ r, s.requests.get? id = some r ∧
      r'.pin = r.pin ∧ (r'.status.Live → r.status.Live))
    (htokens : ∀ id r, s'.requests.get? id = some r → r.claimToken ≠ none → r.status = .running) :
    ImprovementInv s' where
  oneLive id r id' r' hr hr' hpin hlive hlive' := by
    obtain ⟨r₀, hr₀, hpin₀, hlive₀⟩ := hrequests id r hr
    obtain ⟨r₁, hr₁, hpin₁, hlive₁⟩ := hrequests id' r' hr'
    exact hI.oneLive id r₀ id' r₁ hr₀ hr₁ (hpin₀.symm.trans (hpin.trans hpin₁)) (hlive₀ hlive)
      (hlive₁ hlive')
  revisions := by
    unfold aggregatesOf
    rw [haggregates]
    exact hI.revisions
  counted := by
    unfold aggregatesOf
    rw [haggregates, hfeedback]
    exact hI.counted
  keys := hfeedback ▸ hI.keys
  settled := houtbox ▸ hI.settled
  tokens := htokens

theorem get?_finish (s : ImprovementStore F) (claim : ImprovementClaim)
    (outcome : ImprovementOutcome) (id : String) :
    (s.finish claim outcome).requests.get? id = (s.requests.get? id).map fun r =>
      if claim.id = id then
        if r.claimToken = some claim.token then
          { r with
            status := .ended outcome.status
            safeReasonCode := outcome.safeReasonCode
            claimToken := none }
        else r
      else r :=
  Dict.get?_modify _ _ _ _

theorem inv_finish (hI : ImprovementInv s) (claim : ImprovementClaim)
    (outcome : ImprovementOutcome) : ImprovementInv (s.finish claim outcome) := by
  refine hI.of_requests rfl rfl rfl (fun id r' hr' => ?_) (fun id r' hr' htoken => ?_)
  · rw [get?_finish] at hr'
    obtain ⟨r, hr, rfl⟩ := Option.map_eq_some_iff.mp hr'
    refine ⟨r, hr, ?_⟩
    split_ifs
    · exact ⟨rfl, fun h => h.elim⟩
    · exact ⟨rfl, fun h => h⟩
    · exact ⟨rfl, fun h => h⟩
  · rw [get?_finish] at hr'
    obtain ⟨r, hr, rfl⟩ := Option.map_eq_some_iff.mp hr'
    split_ifs at htoken ⊢
    · exact absurd rfl htoken
    · exact hI.tokens id r hr htoken
    · exact hI.tokens id r hr htoken

/-- A finish leaves every request as it is, but the one that runs under its claim. -/
theorem sameRow_finish (claim : ImprovementClaim) (outcome : ImprovementOutcome)
    (hheld : held ≠ .request claim.id) : SameRow s (s.finish claim outcome) held := by
  cases held with
  | outbox => rfl
  | request id =>
    show (s.finish claim outcome).requests.get? id = _
    rw [get?_finish]
    have hne : claim.id ≠ id := fun h => hheld (h ▸ rfl)
    simp [hne]

theorem finish_of_not_runsUnder (hI : ImprovementInv s) (outcome : ImprovementOutcome)
    (hnot : ¬ RunsUnder s claim) (id : String) :
    (s.finish claim outcome).requests.get? id = s.requests.get? id := by
  rw [get?_finish]
  by_cases hid : claim.id = id
  · subst hid
    cases hr : s.requests.get? claim.id with
    | none => rfl
    | some r =>
      have htoken : r.claimToken ≠ some claim.token := fun htoken =>
        hnot ⟨r, hr, hI.tokens _ r hr (htoken ▸ Option.some_ne_none _), htoken⟩
      simp [htoken]
  · simp [hid]

theorem not_owed_finish {claim : ImprovementClaim} (outcome : ImprovementOutcome)
    (h : RunsUnder s claim) : ¬ Owed (s.finish claim outcome) (.request claim.id) := by
  rintro ⟨r', hr', hstatus⟩
  obtain ⟨r, hr, -, htoken⟩ := h
  replace hr' : (s.finish claim outcome).requests.get? claim.id = some r' := hr'
  rw [get?_finish, hr, Option.map_some, if_pos rfl, if_pos htoken] at hr'
  cases hr'
  nomatch hstatus

theorem Moved.of_release {h₀ : Held} (hI : ImprovementInv s') (hsame : ∀ held ≠ h₀, SameRow s s' held)
    (hend : ¬ Owed s' h₀) (haggregates : s'.aggregates = s.aggregates)
    (hdelivered : ∀ id, h₀ = .outbox id → Delivered s id → Delivered s' id)
    (hcall : call.Holds h₀) (hkept : ∀ held, call.Holds held → held = h₀ ∨ ∃ d ∈ call', d.Holds held)
    (hheld : ∀ d ∈ call', ∀ held, d.Holds held → call.Holds held)
    (hown : ∀ d ∈ call', d.Knows s') : Moved s call s' call' := by
  refine ⟨⟨hI, fun held hnot _ => hsame held fun heq => hnot (heq ▸ hcall), fun pin => ?_,
    fun id hd => ?_, hown, fun d hd held hh => .inl (hheld d hd held hh)⟩, fun held howed => ?_⟩
  · unfold aggregatesOf
    rw [haggregates]
  · by_cases heq : h₀ = .outbox id
    · exact hdelivered id heq hd
    · exact hd.same (hsame _ fun h => heq h.symm)
  · by_cases heq : held = h₀
    · exact absurd (heq ▸ howed) hend
    · by_cases hh : call.Holds held
      · exact .inr ((hkept held hh).resolve_left heq)
      · refine .inl ⟨?_, hh⟩
        have hrow := hsame held heq
        cases held with
        | request id | outbox id =>
          obtain ⟨r, hr, hrest⟩ := howed
          exact ⟨r, Eq.trans (Eq.symm hrow) hr, hrest⟩

theorem moved_finishing {outcome : ImprovementOutcome} (hI : ImprovementInv s)
    (hJ : RunsUnder s claim) :
    Moved s (.finishing claim outcome) (s.finish claim outcome) none :=
  .of_release (inv_finish hI claim outcome) (fun _ hne => sameRow_finish claim outcome hne)
    (not_owed_finish outcome hJ) rfl (fun _ h => nomatch h) List.mem_cons_self
    (fun _ hh => .inl (List.mem_singleton.mp hh)) (fun _ h => nomatch h) fun _ h => nomatch h

theorem request_ne {claims : List ImprovementClaim} (h : ((claim :: claims).map (·.id)).Nodup)
    (hc : c ∈ claims) :
    c.id ≠ claim.id := by
  rw [List.map_cons, List.nodup_cons] at h
  exact fun hsame => h.1 (hsame ▸ List.mem_map_of_mem hc)

theorem moved_working {claims : List ImprovementClaim} (outcome : ImprovementOutcome)
    (hI : ImprovementInv s) (hJ : (ImprovementCall.working (F := F) (claim :: claims)).Knows s) :
    Moved s (.working (claim :: claims)) (s.finish claim outcome) (some (.working claims)) := by
  obtain ⟨hnodup, hruns⟩ := hJ
  refine .of_release (inv_finish hI claim outcome) (fun _ hne => sameRow_finish claim outcome hne)
    (not_owed_finish outcome (hruns claim List.mem_cons_self)) rfl (fun _ h => nomatch h)
    List.mem_cons_self (fun held hh => ?_) (fun d hd held hh => ?_) fun d hd => ?_
  · exact (List.mem_cons.mp hh).imp_right fun hh => ⟨.working claims, rfl, hh⟩
  · cases hd
    exact List.mem_cons_of_mem _ hh
  · cases hd
    refine ⟨(List.nodup_cons.mp hnodup).2, fun c hc => ?_⟩
    refine (hruns c (List.mem_cons_of_mem _ hc)).same (sameRow_finish claim outcome fun heq => ?_)
    exact request_ne hnodup hc (Held.request.inj heq)

/-- A request that is claimed. -/
def ImprovementRequest.claimed (c : ImprovementClaim) (r : ImprovementRequest) : ImprovementRequest :=
  { r with
    status := .running
    claimToken := some c.token
    attemptCount := r.attemptCount + 1 }

theorem requests_claimRequests (s : ImprovementStore F) (picked : List ImprovementClaim) :
    (s.claimRequests picked).requests = updateEach ImprovementRequest.claimed s.requests picked := rfl

theorem runsUnder_claimRequests (h : Picks s.PendingRequest limit picked) (hc : c ∈ picked) :
    RunsUnder (s.claimRequests picked) c := by
  obtain ⟨r, hr, -⟩ := h.2.2 c hc
  replace hr : s.requests.get? c.id = some r := hr
  refine ⟨r.claimed c, ?_, rfl, rfl⟩
  rw [requests_claimRequests, get?_updateEach_of_mem _ _ h.1 hc, hr, Option.map_some]

theorem moved_claimRequests (hI : ImprovementInv s) (h : Picks s.PendingRequest limit picked)
    (hnone : call.held = [])
    (hheld : ∀ held, (∃ d ∈ call', d.Holds held) ↔ held ∈ picked.map (.request ·.id))
    (hown : ∀ d ∈ call', d.Knows (s.claimRequests picked)) :
    Moved s call (s.claimRequests picked) call' := by
  have hpending : ∀ c ∈ picked, ¬ Taken s (.request c.id) := by
    rintro c hc ⟨r, hr, hrunning⟩
    obtain ⟨r', hr', hstatus⟩ := h.2.2 c hc
    cases hr.symm.trans hr'
    nomatch hstatus.symm.trans hrunning
  have hnot : ∀ held, ¬ call.Holds held := fun held hh => by
    rw [ImprovementCall.Holds, hnone] at hh
    nomatch hh
  refine ⟨⟨hI.of_requests rfl rfl rfl (fun id r' hr' => ?_) (fun id r' hr' htoken => ?_),
    fun held _ htaken => ?_, fun _ => Nat.le_refl _, fun _ hd => hd, hown, fun d hd held hh => ?_⟩,
    fun held howed => ?_⟩
  · rcases updateEach_cases _ h.1 hr' with ⟨c, hc, rfl, r, hr, rfl⟩ | ⟨hr, -⟩
    · refine ⟨r, hr, rfl, fun _ => ?_⟩
      obtain ⟨r₁, hr₁, hstatus⟩ := h.2.2 c hc
      cases hr.symm.trans hr₁
      rw [hstatus]
      trivial
    · exact ⟨r', hr, rfl, fun h => h⟩
  · rcases updateEach_cases _ h.1 hr' with ⟨c, -, rfl, r, -, rfl⟩ | ⟨hr, -⟩
    · rfl
    · exact hI.tokens id r' hr htoken
  · cases held with
    | outbox => rfl
    | request =>
      exact get?_updateEach_of_ne _ _ fun c hc hid => hpending c hc (hid ▸ htaken)
  · obtain ⟨c, hc, rfl⟩ := List.mem_map.mp ((hheld held).mp ⟨d, hd, hh⟩)
    exact .inr (hpending c hc)
  · cases held with
    | outbox => exact .inl ⟨howed, hnot _⟩
    | request =>
      obtain ⟨r', hr', hstatus⟩ := howed
      rcases updateEach_cases _ h.1 hr' with ⟨c, hc, rfl, -⟩ | ⟨hr, -⟩
      · exact .inr ((hheld _).mpr (List.mem_map_of_mem hc))
      · exact .inl ⟨⟨r', hr, hstatus⟩, hnot _⟩

/-! ## The outbox -/

/-- An update of outbox rows after which a row that is delivered has no claim. -/
theorem ImprovementInv.of_outbox (hI : ImprovementInv s) (haggregates : s'.aggregates = s.aggregates)
    (hfeedback : s'.feedback = s.feedback) (hrequests : s'.requests = s.requests)
    (hsettled : ∀ id r, s'.outbox.get? id = some r → r.state = .delivered → r.claimToken = none) :
    ImprovementInv s' where
  oneLive := hrequests ▸ hI.oneLive
  revisions := by
    unfold aggregatesOf
    rw [haggregates]
    exact hI.revisions
  counted := by
    unfold aggregatesOf
    rw [haggregates, hfeedback]
    exact hI.counted
  keys := hfeedback ▸ hI.keys
  settled := hsettled
  tokens := hrequests ▸ hI.tokens

/-- An outbox row that is claimed. -/
def ImprovementOutbox.claimed (c : ImprovementClaim) (r : ImprovementOutbox) : ImprovementOutbox :=
  { r with
    state := .claimed
    claimToken := some c.token
    attemptCount := r.attemptCount + 1 }

theorem outbox_claimOutbox (s : ImprovementStore F) (picked : List ImprovementClaim) :
    (s.claimOutbox picked).outbox = updateEach ImprovementOutbox.claimed s.outbox picked := rfl

theorem claimedUnder_claimOutbox {now : ℤ} (h : Picks (s.DueOutbox now) limit picked)
    (hc : c ∈ picked) :
    ClaimedUnder (s.claimOutbox picked) c := by
  obtain ⟨r, hr, -⟩ := h.2.2 c hc
  replace hr : s.outbox.get? c.id = some r := hr
  refine ⟨r.claimed c, ?_, rfl, rfl⟩
  rw [outbox_claimOutbox, get?_updateEach_of_mem _ _ h.1 hc, hr, Option.map_some]

theorem moved_relaying {now : ℤ} (hI : ImprovementInv s) (h : Picks (s.DueOutbox now) limit picked) :
    Moved s (.relaying limit) (s.claimOutbox picked) (some (.sending picked)) := by
  have hdue : ∀ c ∈ picked, ¬ Taken s (.outbox c.id) := by
    rintro c hc ⟨r, hr, hclaimed⟩
    obtain ⟨r', hr', hstate, -⟩ := h.2.2 c hc
    cases hr.symm.trans hr'
    rcases hstate with hstate | hstate <;> rw [hstate] at hclaimed <;> simp at hclaimed
  have hrows : ∀ held, Taken s held → SameRow s (s.claimOutbox picked) held := by
    intro held htaken
    cases held with
    | request => rfl
    | outbox => exact get?_updateEach_of_ne _ _ fun c hc hid => hdue c hc (hid ▸ htaken)
  refine ⟨⟨hI.of_outbox rfl rfl rfl fun id r' hr' hstate => ?_, fun held _ => hrows held,
    fun _ => Nat.le_refl _, fun id hd => hd.same (hrows _ hd.taken), fun d hd => ?_,
    fun d hd held hh => ?_⟩, fun held howed => ?_⟩
  · rcases updateEach_cases _ h.1 hr' with ⟨c, -, rfl, r, -, rfl⟩ | ⟨hr, -⟩
    · nomatch hstate
    · exact hI.settled id r' hr hstate
  · cases hd
    exact ⟨h.1, fun c hc => claimedUnder_claimOutbox h hc⟩
  · cases hd
    obtain ⟨c, hc, rfl⟩ := List.mem_map.mp hh
    exact .inr (hdue c hc)
  · cases held with
    | request => exact .inl ⟨howed, fun hh => nomatch hh⟩
    | outbox =>
      obtain ⟨r', hr', hstate⟩ := howed
      rcases updateEach_cases _ h.1 hr' with ⟨c, hc, rfl, -⟩ | ⟨hr, -⟩
      · exact .inr ⟨.sending picked, rfl, List.mem_map_of_mem hc⟩
      · exact .inl ⟨⟨r', hr, hstate⟩, fun hh => nomatch hh⟩

/-- The row of a claim is changed, where it has the claim. -/
def settle (s : ImprovementStore F) (item : ImprovementClaim)
    (g : ImprovementOutbox → ImprovementOutbox) : ImprovementStore F :=
  { s with outbox := s.outbox.modify item.id fun r =>
      if r.claimToken = some item.token then g r else r }

/-- The change ends a claim. -/
def Settles (g : ImprovementOutbox → ImprovementOutbox) : Prop :=
  ∀ r, (g r).state ≠ .claimed ∧ (g r).claimToken = none

theorem settles_delivered : Settles fun r => { r with state := .delivered, claimToken := none } :=
  fun _ => ⟨nofun, rfl⟩

theorem settles_failed (now : ℤ) : Settles fun r =>
    { r with
      state := if 5 ≤ r.attemptCount then .failedRequiresAttention else .retry
      claimToken := none
      nextAttemptAt := now + 60 } := by
  refine fun r => ⟨?_, rfl⟩
  show (if 5 ≤ r.attemptCount then OutboxState.failedRequiresAttention else .retry) ≠ .claimed
  split_ifs <;> exact nofun

section

variable {g : ImprovementOutbox → ImprovementOutbox} {item : ImprovementClaim}

theorem get?_settle (s : ImprovementStore F) (item : ImprovementClaim)
    (g : ImprovementOutbox → ImprovementOutbox) (id : String) :
    (settle s item g).outbox.get? id = (s.outbox.get? id).map fun r =>
      if item.id = id then if r.claimToken = some item.token then g r else r else r :=
  Dict.get?_modify _ _ _ _

theorem sameRow_settle {held : Held} (hheld : held ≠ .outbox item.id) :
    SameRow s (settle s item g) held := by
  cases held with
  | request => rfl
  | outbox id =>
    show (settle s item g).outbox.get? id = _
    rw [get?_settle]
    have hne : item.id ≠ id := fun h => hheld (h ▸ rfl)
    simp [hne]

theorem inv_settle (hI : ImprovementInv s) (hg : Settles g) : ImprovementInv (settle s item g) := by
  refine hI.of_outbox rfl rfl rfl fun id r' hr' hstate => ?_
  rw [get?_settle] at hr'
  obtain ⟨r, hr, rfl⟩ := Option.map_eq_some_iff.mp hr'
  split_ifs at hstate ⊢
  · exact (hg r).2
  · exact hI.settled id r hr hstate
  · exact hI.settled id r hr hstate

theorem Delivered.settle (hI : ImprovementInv s) (h : Delivered s id) :
    Delivered (settle s item g) id := by
  obtain ⟨r, hr, hstate⟩ := h
  have htoken : r.claimToken ≠ some item.token := fun h =>
    nomatch (hI.settled id r hr hstate).symm.trans h
  refine ⟨r, ?_, hstate⟩
  rw [get?_settle, hr]
  simp [htoken]

theorem Delivered.not_owed (h : Delivered s id) : ¬ Owed s (.outbox id) := by
  rintro ⟨r', hr', hclaimed⟩
  obtain ⟨r, hr, hstate⟩ := h
  cases hr.symm.trans hr'
  nomatch hstate.symm.trans hclaimed

theorem not_owed_settle (hg : Settles g) (h : ClaimedUnder s item) :
    ¬ Owed (settle s item g) (.outbox item.id) := by
  rintro ⟨r', hr', hstate⟩
  obtain ⟨r, hr, -, htoken⟩ := h
  replace hr' : (settle s item g).outbox.get? item.id = some r' := hr'
  rw [get?_settle, hr, Option.map_some, if_pos rfl, if_pos htoken] at hr'
  cases hr'
  exact (hg r).1 hstate

theorem moved_settle {items : List ImprovementClaim} (hI : ImprovementInv s) (hg : Settles g)
    (hitem : ClaimedUnder s item ∨ Delivered s item.id)
    (hitems : ((item :: items).map (·.id)).Nodup ∧ ∀ c ∈ items, ClaimedUnder s c)
    (hheld : call.held = (item :: items).map (.outbox ·.id)) :
    Moved s call (settle s item g) (some (.sending items)) := by
  have hholds : ∀ held, call.Holds held ↔ held ∈ (item :: items).map (Held.outbox ·.id) :=
    fun held => by rw [ImprovementCall.Holds, hheld]
  refine .of_release (inv_settle hI hg) (fun _ hne => sameRow_settle hne) ?_ rfl
    (fun _ _ hd => hd.settle hI) ((hholds _).mpr List.mem_cons_self) (fun held hh => ?_)
    (fun d hd held hh => ?_) fun d hd => ?_
  · rcases hitem with hclaimed | hdelivered
    · exact not_owed_settle hg hclaimed
    · exact (hdelivered.settle hI).not_owed
  · exact (List.mem_cons.mp ((hholds held).mp hh)).imp_right fun hh => ⟨.sending items, rfl, hh⟩
  · cases hd
    exact (hholds held).mpr (List.mem_cons_of_mem _ hh)
  · cases hd
    refine ⟨(List.nodup_cons.mp hitems.1).2, fun c hc => ?_⟩
    refine (hitems.2 c hc).same (sameRow_settle fun heq => ?_)
    exact request_ne hitems.1 hc (Held.outbox.inj heq)

theorem moved_delivered_lost {items : List ImprovementClaim} (hI : ImprovementInv s)
    (hJ : AllClaimed s (item :: items)) :
    Moved s (.delivering item items) (s.markDelivered item) (some (.failing item items)) := by
  obtain ⟨hnodup, hclaimed⟩ := hJ
  have hitem := hclaimed item List.mem_cons_self
  have hsame : ∀ held ≠ Held.outbox item.id, SameRow s (s.markDelivered item) held :=
    fun held hne => sameRow_settle hne
  have hdone : Delivered (s.markDelivered item) item.id := by
    obtain ⟨r, hr, -, htoken⟩ := hitem
    refine ⟨{ r with state := .delivered, claimToken := none }, ?_, rfl⟩
    refine (get?_settle s item _ _).trans ?_
    rw [hr, Option.map_some, if_pos rfl, if_pos htoken]
  refine .of_release (inv_settle hI settles_delivered) hsame hdone.not_owed rfl
    (fun _ _ hd => hd.settle hI) List.mem_cons_self (fun held hh => .inr ⟨_, rfl, hh⟩)
    (fun d hd held hh => ?_) fun d hd => ?_
  · cases hd
    exact hh
  · cases hd
    refine ⟨hnodup, .inr hdone, fun c hc => ?_⟩
    refine (hclaimed c (List.mem_cons_of_mem _ hc)).same (hsame _ fun heq => ?_)
    exact request_ne hnodup hc (Held.outbox.inj heq)

end

theorem moved_sending {items : List ImprovementClaim}
    (next : ImprovementCall F) (sent : List String) (hI : ImprovementInv s)
    (hknows : next.Knows s) (hheld : next.held = (item :: items).map (.outbox ·.id)) :
    Moved s (.sending (item :: items)) { s with sent } (some next) := by
  have h : Moved s (.sending (item :: items)) s (some next) := .of_next hI hknows hheld
  obtain ⟨⟨hinv, hrows, haggregates, hdelivered, hown, htaken⟩, hdebts⟩ := h
  have hsame : ∀ held, SameRow s { s with sent } held := fun held => by cases held <;> rfl
  refine ⟨⟨hinv.of_outbox rfl rfl rfl hinv.settled, fun held _ _ => hsame held, haggregates,
    hdelivered, fun d hd => (hown d hd).kept (fun held _ => hsame held) haggregates, htaken⟩,
    fun held howed => hdebts held ?_⟩
  cases held with
  | request | outbox => exact howed

theorem moved_of_step (hI : ImprovementInv s) (hJ : call.Knows s) (hG : call.Lives s a)
    (h : call.step ops s a = some (s', call')) : Moved s call s' call' := by
  cases call with
  | observing o =>
    cases h
    exact moved_observing o hI
  | recording => exact moved_recording hI h
  | measuring feedbackId row policy =>
    cases h
    have hcounts := counts_nextAggregate ops hI policy feedbackId row
    split_ifs <;> exact .of_next hI hcounts rfl
  | matching | executing =>
    cases h
    exact .of_next hI hJ rfl
  | committing =>
    rw [ImprovementCall.step] at h
    split_ifs at h with hadmits
    · cases h
      exact moved_committing hI hJ hadmits
    · cases h
      exact .of_end hI rfl
  | fetching =>
    rw [ImprovementCall.step] at h
    split at h
    · cases h
      exact .of_end hI rfl
    · cases h
      split_ifs
      · exact .of_next hI trivial rfl
      · exact .of_end hI rfl
  | claiming =>
    rw [ImprovementCall.step] at h
    split_ifs at h with hpicks
    cases h
    refine moved_claimRequests hI hpicks.1 rfl (fun held => ?_) fun d hd => ?_
    · -- at most one row is picked
      match hp : a.picked, hpicks.1.2.1 with
      | [], _ => simp
      | [c], _ => simp [ImprovementCall.Holds, ImprovementCall.held]
    · obtain ⟨c, hc, rfl⟩ := Option.map_eq_some_iff.mp hd
      exact runsUnder_claimRequests hpicks.1 (List.mem_of_mem_head? hc)
  | checking =>
    cases h
    cases a.refusal with
    | none | some => exact .of_next hI hJ rfl
  | finishing =>
    cases h
    exact moved_finishing hI hJ
  | claimingMany =>
    rw [ImprovementCall.step] at h
    split_ifs at h with hpicks
    cases h
    refine moved_claimRequests hI hpicks rfl (fun held => ?_) fun d hd => ?_
    · simp [ImprovementCall.Holds, ImprovementCall.held]
    · cases hd
      exact ⟨hpicks.1, fun c hc => runsUnder_claimRequests hpicks hc⟩
  | working claims =>
    cases claims with
    | nil =>
      cases h
      exact .of_end hI rfl
    | cons =>
      cases h
      exact moved_working a.outcome hI hJ
  | relaying =>
    rw [ImprovementCall.step] at h
    split_ifs at h with hpicks
    cases h
    exact moved_relaying hI hpicks
  | sending items =>
    cases items with
    | nil =>
      cases h
      exact .of_end hI rfl
    | cons item items =>
      rw [ImprovementCall.step] at h
      cases h
      have hclaimed : ClaimedUnder s item := hJ.2 item List.mem_cons_self
      have hrest : ∀ c ∈ items, ClaimedUnder s c := fun c hc => hJ.2 c (List.mem_cons_of_mem _ hc)
      cases a.ended with
      | ok => exact moved_sending (.delivering item items) _ hI hJ rfl
      | raised => exact .of_next hI ⟨hJ.1, .inl hclaimed, hrest⟩ rfl
      | lost =>
        exact moved_sending (.failing item items) _ hI ⟨hJ.1, .inl hclaimed, hrest⟩ rfl
  | delivering item items =>
    rw [ImprovementCall.step] at h
    cases h
    have hclaimed : ClaimedUnder s item := hJ.2 item List.mem_cons_self
    have hrest : ∀ c ∈ items, ClaimedUnder s c := fun c hc => hJ.2 c (List.mem_cons_of_mem _ hc)
    cases a.ended with
    | ok => exact moved_settle hI settles_delivered (.inl hclaimed) ⟨hJ.1, hrest⟩ rfl
    | raised => exact .of_next hI ⟨hJ.1, .inl hclaimed, hrest⟩ rfl
    | lost => exact moved_delivered_lost hI hJ
  | failing _ items =>
    rw [ImprovementCall.step] at h
    cases h
    by_cases hraised : a.ended = .raised
    · rw [if_pos hraised]
      refine .of_release hI (fun held _ => by cases held <;> rfl) (hG hraised) rfl
        (fun _ _ hd => hd) List.mem_cons_self
        (fun held hh => (List.mem_cons.mp hh).imp_right fun hh => ⟨.sending items, rfl, hh⟩)
        (fun d hd held hh => ?_) fun d hd => ?_
      · cases hd
        exact List.mem_cons_of_mem _ hh
      · cases hd
        exact ⟨(List.nodup_cons.mp hJ.1).2, hJ.2.2⟩
    · rw [if_neg hraised]
      exact moved_settle hI (settles_failed a.now) hJ.2.1 ⟨hJ.1, hJ.2.2⟩ rfl

theorem kept_of_step (hI : ImprovementInv s) (hJ : call.Knows s)
    (h : call.step ops s a = some (s', call')) : Kept s call s' call' := by
  by_cases hG : call.Lives s a
  · exact (moved_of_step hI hJ hG h).toKept
  · cases call with
    | failing =>
      have hraised : a.ended = .raised := by
        by_contra hne
        exact hG fun h => absurd h hne
      rw [ImprovementCall.step, if_pos hraised] at h
      cases h
      refine ⟨hI, fun held _ _ => by cases held <;> rfl, fun _ => Nat.le_refl _, fun _ hd => hd,
        fun d hd => ?_, fun d hd held hh => ?_⟩
      · cases hd
        exact ⟨(List.nodup_cons.mp hJ.1).2, hJ.2.2⟩
      · cases hd
        exact .inl (List.mem_cons_of_mem _ hh)
    | _ => exact absurd trivial hG

end JavisSaas.Agent.Skills
