import Mathlib.Algebra.Ring.Rat
import JavisSaas.Agent.Skills.ImprovementClaims

/-!
# Recovery of skill improvements

A claim has no expiry: nothing but its holder ends it.

* `improvementLaw_along`: the laws of every run, and exactly in which runs everything that is
  claimed can still come to its end, the ones in which no holder of a claim dies.
* `not_improvementLaw_died`: a worker that dies leaves its request running for ever.
-/

namespace JavisSaas.Agent.Skills

open JavisSaas.Lib ImprovementStore
open ImprovementCall (step working)
open Held (outbox request)

variable {F : Type} {ops : ScoreOps F} {s s' : ImprovementStore F} {call : ImprovementCall F}
  {call' : Option (ImprovementCall F)} {id : String}
  {f f' : InFlight (ImprovementStore F) (ImprovementCall F)}

/-! ## What every run keeps -/

theorem Kept.untaken {d : ImprovementCall F} (h : Kept s call s' (some d)) {held : Held}
    (hd : d.Holds held) : call.Holds held ∨ ∀ e : ImprovementCall F, e.Knows s → ¬ e.Holds held :=
  (h.taken d rfl held hd).imp_right fun hnot _ he hh => hnot (he.taken hh)

variable {d : ImprovementCall F} {a : ImprovementAnswers} {claim : ImprovementClaim}

theorem Kept.others (h : Kept s call s' call') (hd : d.Knows s)
    (hapart : Service.Apart ImprovementCall.Holds call d) : d.Knows s' :=
  hd.kept (fun held hh => h.rows held (fun hc => hapart held hc hh) (hd.taken hh)) h.aggregates

theorem start_holds (req : ImprovementReq F) (held : Held) :
    ¬ ((improvements ops).start req).Holds held := by
  cases req <;> exact fun hh => nomatch hh

theorem start_knows (req : ImprovementReq F) : ((improvements ops).start req).Knows s := by
  cases req <;> trivial

/-- Calls that are given up anywhere: what is claimed may be held by none. -/
theorem claimRule (ops : ScoreOps F) :
    (improvements ops).CustodyRule ImprovementCall.Holds (fun _ _ => False) (fun _ _ _ => True)
      (fun _ _ => True) ImprovementInv (fun s c => c.Knows s) where
  start _ req _ := ⟨start_knows req, start_holds req⟩
  step _ _ _ _ _ hI hJ _ hs :=
    have h := kept_of_step hI hJ hs
    ⟨h.inv, fun _ => h.others, h.own⟩
  taken _ _ _ _ _ hI hJ _ hs _ hd := (kept_of_step hI hJ hs).untaken hd
  debts _ _ _ _ _ _ _ _ _ _ h := h.elim
  abort _ _ hI _ _ := ⟨hI, fun _ hd _ => hd⟩
  abandoned _ _ _ _ _ _ h := h.elim

theorem custodyRule (ops : ScoreOps F) :
    (improvements ops).CustodyRule ImprovementCall.Holds Owed (fun s c a => c.Lives s a)
      (fun s c => c.Free s) ImprovementInv (fun s c => c.Knows s) where
  start _ req _ := ⟨start_knows req, start_holds req⟩
  step _ _ _ _ _ hI hJ _ hs :=
    have h := kept_of_step hI hJ hs
    ⟨h.inv, fun _ => h.others, h.own⟩
  taken _ _ _ _ _ hI hJ _ hs _ hd := (kept_of_step hI hJ hs).untaken hd
  debts _ _ _ _ _ hI hJ hG hs := (moved_of_step hI hJ hG hs).debts
  abort _ _ hI _ _ := ⟨hI, fun _ hd _ => hd⟩
  abandoned _ _ _ _ hA held howed := ⟨howed, fun hh => hA held hh howed⟩

theorem Owed.same {held : Held} (h : Owed s held) (hsame : SameRow s s' held) : Owed s' held := by
  cases held with
  | request id | outbox id =>
    obtain ⟨r, hr, hrest⟩ := h
    exact ⟨r, Eq.trans hsame hr, hrest⟩

theorem orphanRule (ops : ScoreOps F) (orphan : Held) :
    (improvements ops).CustodyRule ImprovementCall.Holds (fun _ _ => False) (fun _ _ _ => True)
      (fun _ _ => True) (fun s => ImprovementInv s ∧ Owed s orphan)
      (fun s c => c.Knows s ∧ ¬ c.Holds orphan) where
  start _ req _ := ⟨⟨start_knows req, start_holds req orphan⟩, start_holds req⟩
  step _ _ _ _ _ hI hJ _ hs := by
    have h := kept_of_step hI.1 hJ.1 hs
    refine ⟨⟨h.inv, hI.2.same (h.rows orphan hJ.2 hI.2.taken)⟩,
      fun d hd hapart => ⟨h.others hd.1 hapart, hd.2⟩, fun d hd => ⟨h.own d hd, fun hh => ?_⟩⟩
    rcases h.taken d hd orphan hh with hc | hnot
    · exact hJ.2 hc
    · exact hnot hI.2.taken
  taken _ _ _ _ _ hI hJ _ hs _ hd :=
    ((kept_of_step hI.1 hJ.1 hs).untaken hd).imp_right fun h e he => h e he.1
  debts _ _ _ _ _ _ _ _ _ _ h := h.elim
  abort _ _ hI _ _ := ⟨hI, fun _ hd _ => hd⟩
  abandoned _ _ _ _ _ _ h := h.elim

/-- The calls, whether or not what is claimed is held. -/
def Tenure (f : InFlight (ImprovementStore F) (ImprovementCall F)) : Prop :=
  Service.CustodyInv ImprovementCall.Holds (fun _ _ => False) ImprovementInv
    (fun s c => c.Knows s) f

/-- The calls, and who holds what is claimed. -/
def Custody (f : InFlight (ImprovementStore F) (ImprovementCall F)) : Prop :=
  Service.CustodyInv ImprovementCall.Holds Owed ImprovementInv (fun s c => c.Knows s) f

/-! ## The holder of a claim -/

/-- Requests are ended or claimed, and none is added. -/
def EndsOnly (s s' : ImprovementStore F) : Prop :=
  ∀ id r', s'.requests.get? id = some r' → r'.status.Live →
    ∃ r, s.requests.get? id = some r ∧ r.pin = r'.pin ∧ r.status.Live

/-- The request is pending or running. -/
def LiveRequest (s : ImprovementStore F) (id : String) : Prop :=
  ∃ r, s.requests.get? id = some r ∧ r.status.Live

/-- The call, which moves alone, brings the request to its end. -/
def EndsRequest (ops : ScoreOps F) (s : ImprovementStore F) (call : ImprovementCall F)
    (id : String) : Prop :=
  ∃ as s' call', (improvements ops).solo s call as = some (s', call') ∧ EndsOnly s s' ∧
    ¬ LiveRequest s' id

theorem EndsOnly.trans {s'' : ImprovementStore F} (h : EndsOnly s s') (h' : EndsOnly s' s'') :
    EndsOnly s s'' := by
  intro id r'' hr'' hlive
  obtain ⟨r', hr', hpin', hlive'⟩ := h' id r'' hr'' hlive
  obtain ⟨r, hr, hpin, hlive⟩ := h id r' hr' hlive'
  exact ⟨r, hr, hpin.trans hpin', hlive⟩

theorem EndsRequest.of_step (hs : (improvements ops).step s call a = some (s', some d))
    (hends : EndsOnly s s') (h : EndsRequest ops s' d id) : EndsRequest ops s call id := by
  obtain ⟨as, s'', call', hsolo, hends', hnot⟩ := h
  exact ⟨a :: as, s'', call', (Service.solo_cons hs as).trans hsolo, hends.trans hends', hnot⟩

theorem endsOnly_refl (s : ImprovementStore F) : EndsOnly s s := fun _ r hr hlive =>
  ⟨r, hr, rfl, hlive⟩

theorem endsOnly_finish (claim : ImprovementClaim) (outcome : ImprovementOutcome) :
    EndsOnly s (s.finish claim outcome) := by
  intro id r' hr' hlive
  rw [get?_finish] at hr'
  obtain ⟨r, hr, rfl⟩ := Option.map_eq_some_iff.mp hr'
  split_ifs at hlive ⊢
  · exact hlive.elim
  · exact ⟨r, hr, rfl, hlive⟩
  · exact ⟨r, hr, rfl, hlive⟩

theorem not_live_finish {claim : ImprovementClaim} (outcome : ImprovementOutcome)
    (h : RunsUnder s claim) : ¬ LiveRequest (s.finish claim outcome) claim.id := by
  rintro ⟨r', hr', hlive⟩
  obtain ⟨r, hr, -, htoken⟩ := h
  rw [get?_finish, hr, Option.map_some, if_pos rfl, if_pos htoken] at hr'
  cases hr'
  exact hlive

theorem endsRequest_finishing {claim : ImprovementClaim} (outcome : ImprovementOutcome)
    (h : RunsUnder s claim) : EndsRequest ops s (.finishing claim outcome) claim.id :=
  ⟨[{}], _, _, rfl, endsOnly_finish claim outcome, not_live_finish outcome h⟩

theorem endsRequest_checking (h : RunsUnder s claim) :
    EndsRequest ops s (.checking claim) claim.id :=
  .of_step (a := {}) rfl (endsOnly_refl s)
    (.of_step (a := {}) rfl (endsOnly_refl s) (endsRequest_finishing _ h))

/-- By induction on the claims before the one that is meant. -/
theorem endsRequest_working {claims : List ImprovementClaim}
    (h : (working (F := F) claims).Knows s) {claim : ImprovementClaim}
    (hclaim : claim ∈ claims) : EndsRequest ops s (.working claims) claim.id := by
  induction claims generalizing s with
  | nil => nomatch hclaim
  | cons c _ ih =>
    have hruns := h.2 c List.mem_cons_self
    rcases List.mem_cons.mp hclaim with rfl | hmem
    · exact ⟨[{}], _, _, rfl, endsOnly_finish _ _, not_live_finish _ hruns⟩
    · refine .of_step (a := {}) rfl (endsOnly_finish c _) (ih ⟨(List.nodup_cons.mp h.1).2, ?_⟩ hmem)
      intro c' hc'
      refine (h.2 c' (List.mem_cons_of_mem _ hc')).same (sameRow_finish c _ fun heq => ?_)
      exact request_ne h.1 hc' (request.inj heq)

theorem endsRequest_of_holds (ops : ScoreOps F) (hJ : call.Knows s) (hh : call.Holds (.request id)) :
    EndsRequest ops s call id := by
  unfold ImprovementCall.Holds at hh
  cases call with
  | observing | recording | measuring | matching | committing | fetching | claiming | claimingMany
  | relaying => nomatch hh
  | checking =>
    obtain rfl := request.inj (List.mem_singleton.mp hh)
    exact endsRequest_checking hJ
  | executing =>
    obtain rfl := request.inj (List.mem_singleton.mp hh)
    exact .of_step (a := {}) rfl (endsOnly_refl s) (endsRequest_finishing _ hJ)
  | finishing _ outcome =>
    obtain rfl := request.inj (List.mem_singleton.mp hh)
    exact endsRequest_finishing outcome hJ
  | working =>
    obtain ⟨claim, hclaim, heq⟩ := List.mem_map.mp hh
    cases heq
    exact endsRequest_working hJ hclaim
  | sending items | delivering item items | failing item items =>
    obtain ⟨item', -, heq⟩ := List.mem_map.mp hh
    nomatch heq

theorem endsOnly_claimRequests {picked : List ImprovementClaim} {limit : ℕ}
    (h : Picks s.PendingRequest limit picked) : EndsOnly s (s.claimRequests picked) := by
  intro id r' hr' hlive
  rcases updateEach_cases _ h.1 hr' with ⟨c, hc, rfl, r, hr, rfl⟩ | ⟨hr, -⟩
  · refine ⟨r, hr, rfl, ?_⟩
    obtain ⟨r₁, hr₁, hstatus⟩ := h.2.2 c hc
    cases hr.symm.trans hr₁
    rw [hstatus]
    trivial
  · exact ⟨r', hr, rfl, hlive⟩

/-- A request that is pending is executed by a worker that is asked to. -/
theorem endsRequest_fetching (ops : ScoreOps F) {r : ImprovementRequest} (hr : s.requests.get? id = some r)
    (hstatus : r.status = .pending) : EndsRequest ops s (.fetching id) id := by
  have hpicks : Picks s.PendingRequest 1 [⟨id, ""⟩] := by
    refine ⟨List.nodup_singleton _, Nat.le_refl 1, fun c hc => ?_⟩
    obtain rfl := List.mem_singleton.mp hc
    exact ⟨r, hr, hstatus⟩
  have hlive : r.status.Live := by
    rw [hstatus]
    trivial
  have hfetch : (improvements ops).step s (.fetching id) {} = some (s, some (.claiming id)) := by
    show step ops s {} (.fetching id) = _
    rw [step, hr]
    dsimp only
    rw [if_pos hlive]
  have hclaim : (improvements ops).step s (.claiming id) { picked := [⟨id, ""⟩] } =
      some (s.claimRequests [⟨id, ""⟩], some (.checking ⟨id, ""⟩)) := by
    show step ops s _ (.claiming id) = _
    have hid : ∀ c ∈ [(⟨id, ""⟩ : ImprovementClaim)], c.id = id := fun c hc => by
      rw [List.mem_singleton.mp hc]
    rw [step, if_pos ⟨hpicks, hid⟩]
    rfl
  refine .of_step hfetch (endsOnly_refl s) (.of_step hclaim (endsOnly_claimRequests hpicks) ?_)
  exact endsRequest_checking (runsUnder_claimRequests hpicks List.mem_cons_self)

/-! ## The holder of an outbox row -/

/-- The call, which moves alone, lets go of the outbox row. -/
def EndsOutbox (ops : ScoreOps F) (s : ImprovementStore F) (call : ImprovementCall F)
    (id : String) : Prop :=
  ∃ as s' call', (improvements ops).solo s call as = some (s', call') ∧ ¬ Owed s' (.outbox id)

theorem EndsOutbox.of_step (hs : (improvements ops).step s call a = some (s', some d))
    (h : EndsOutbox ops s' d id) :
    EndsOutbox ops s call id := by
  obtain ⟨as, s'', call', hsolo, hnot⟩ := h
  exact ⟨a :: as, s'', call', (Service.solo_cons hs as).trans hsolo, hnot⟩

theorem allClaimed_settle {item : ImprovementClaim} {items : List ImprovementClaim}
    (g : ImprovementOutbox → ImprovementOutbox) (h : AllClaimed s (item :: items)) :
    AllClaimed (settle s item g) items := by
  refine ⟨(List.nodup_cons.mp h.1).2, fun c hc => ?_⟩
  refine (h.2 c (List.mem_cons_of_mem _ hc)).same (sameRow_settle fun heq => ?_)
  exact request_ne h.1 hc (outbox.inj heq)

/-- By induction on the rows before the one that is meant: each is sent and delivered. -/
theorem endsOutbox_sending {items : List ImprovementClaim} (h : AllClaimed s items)
    {item : ImprovementClaim} (hitem : item ∈ items) : EndsOutbox ops s (.sending items) item.id := by
  induction items generalizing s with
  | nil => nomatch hitem
  | cons c items ih =>
    have hsent : AllClaimed { s with sent := s.sent ++ [c.id] } (c :: items) := h
    refine .of_step (a := {}) rfl ?_
    rcases List.mem_cons.mp hitem with rfl | hmem
    · exact ⟨[{}], _, _, rfl, not_owed_settle settles_delivered (hsent.2 _ List.mem_cons_self)⟩
    · exact .of_step (a := {}) rfl (ih (allClaimed_settle _ hsent) hmem)

theorem endsOutbox_of_holds (ops : ScoreOps F) (hJ : call.Knows s) (hh : call.Holds (.outbox id))
    (howed : Owed s (.outbox id)) : EndsOutbox ops s call id := by
  unfold ImprovementCall.Holds at hh
  cases call with
  | observing | recording | measuring | matching | committing | fetching | claiming | claimingMany
  | relaying => nomatch hh
  | checking | executing | finishing => nomatch List.mem_singleton.mp hh
  | working =>
    obtain ⟨claim, -, heq⟩ := List.mem_map.mp hh
    nomatch heq
  | sending =>
    obtain ⟨item, hitem, heq⟩ := List.mem_map.mp hh
    cases heq
    exact endsOutbox_sending hJ hitem
  | delivering =>
    obtain ⟨item', hitem, heq⟩ := List.mem_map.mp hh
    cases heq
    rcases List.mem_cons.mp hitem with rfl | hmem
    · exact ⟨[{}], _, _, rfl, not_owed_settle settles_delivered (hJ.2 _ List.mem_cons_self)⟩
    · exact .of_step (a := {}) rfl (endsOutbox_sending (allClaimed_settle _ hJ) hmem)
  | failing =>
    obtain ⟨item', hitem, heq⟩ := List.mem_map.mp hh
    cases heq
    rcases List.mem_cons.mp hitem with rfl | hmem
    · -- a row that was delivered is not claimed
      have hclaimed := hJ.2.1.resolve_right fun hd => hd.not_owed howed
      exact ⟨[{}], _, _, rfl, not_owed_settle (settles_failed 0) hclaimed⟩
    · refine .of_step (a := {}) rfl (endsOutbox_sending ⟨(List.nodup_cons.mp hJ.1).2, ?_⟩ hmem)
      intro c hc
      refine (hJ.2.2 c hc).same (sameRow_settle fun heq => ?_)
      exact request_ne hJ.1 hc (outbox.inj heq)

/-! ## What can come to its end -/

theorem Owed.liveRequest (h : Owed s (.request id)) : LiveRequest s id := by
  obtain ⟨r, hr, hstatus⟩ := h
  refine ⟨r, hr, ?_⟩
  rw [hstatus]
  trivial

theorem not_owed_of_not_live (h : ¬ LiveRequest s id) : ¬ Owed s (.request id) :=
  fun howed => h howed.liveRequest

theorem Custody.ends_request (ops : ScoreOps F) (h : Custody f) {r : ImprovementRequest}
    (hr : f.store.requests.get? id = some r) (hlive : r.status.Live) : ∃ ls f',
      (improvements ops).system.run f ls = some f' ∧ EndsOnly f.store f'.store ∧
        ¬ LiveRequest f'.store id := by
  by_cases hstatus : r.status = .running
  · obtain ⟨i, call, hcall, hh⟩ := h.held (.request id) ⟨r, hr, hstatus⟩
    obtain ⟨as, s', call', hsolo, hends⟩ :=
      endsRequest_of_holds ops (h.inv.calls i call hcall) hh
    obtain ⟨f', hrun, rfl⟩ := Service.run_solo hcall hsolo
    exact ⟨_, f', hrun, hends⟩
  · -- a pending request is executed by a new call
    have hpending : r.status = .pending := by
      cases hs : r.status with
      | pending => rfl
      | running => exact absurd hs hstatus
      | ended status => exact (hs ▸ hlive : RequestStatus.Live (.ended status)).elim
    obtain ⟨as, s', call', hsolo, hends⟩ := endsRequest_fetching ops hr hpending
    let started : InFlight (ImprovementStore F) (ImprovementCall F) :=
      { f with calls := f.calls ++ [some (.fetching id)] }
    have hcall : started.call? f.calls.length = some (.fetching id) :=
      InFlight.call?_eq_some.mpr List.getElem?_concat_length
    obtain ⟨f', hrun, rfl⟩ := Service.run_solo (s := started) hcall hsolo
    refine ⟨.start (.execute id) :: as.map (.step f.calls.length), f', ?_, hends⟩
    exact (improvements ops).system.run_cons_eq_some.mpr ⟨started, rfl, hrun⟩

theorem Custody.liveLaw (h : Custody f) : LiveLaw ops f where
  ends held howed := by
    cases held with
    | request =>
      obtain ⟨r, hr, hlive⟩ := howed.liveRequest
      obtain ⟨ls, f', hrun, -, hnot⟩ := h.ends_request ops hr hlive
      exact ⟨ls, f', hrun, not_owed_of_not_live hnot⟩
    | outbox =>
      obtain ⟨i, call, hcall, hh⟩ := h.held _ howed
      obtain ⟨as, s', call', hsolo, hnot⟩ :=
        endsOutbox_of_holds ops (h.inv.calls i call hcall) hh howed
      obtain ⟨f', hrun, rfl⟩ := Service.run_solo hcall hsolo
      exact ⟨_, f', hrun, hnot⟩
  queues pin := by
    by_cases hlive : ∃ id r, f.store.requests.get? id = some r ∧ r.pin = pin ∧ r.status.Live
    · obtain ⟨id, r, hr, hpin, hlive⟩ := hlive
      obtain ⟨ls, f', hrun, hends, hnot⟩ := h.ends_request ops hr hlive
      refine ⟨ls, f', hrun, fun id' r' hr' hpin' hlive' => ?_⟩
      -- the one that would be live was live before, so it is the one that was ended
      obtain ⟨r₀, hr₀, hpin₀, hlive₀⟩ := hends id' r' hr' hlive'
      have hid := h.inv.store.oneLive id' r₀ id r hr₀ hr (hpin₀.trans (hpin'.trans hpin.symm))
        hlive₀ hlive
      exact hnot ⟨r', hid ▸ hr', hlive'⟩
    · exact ⟨[], f, rfl, fun id r hr hpin h => hlive ⟨id, r, hr, hpin, h⟩⟩

/-! ## Claims that no call holds -/

theorem Tenure.owed_of_orphan (h : Tenure f) {orphan : Held} (howed : Owed f.store orphan)
    (hnone : ∀ i c, f.call? i = some c → ¬ c.Holds orphan)
    {ls : List (CallLabel (ImprovementReq F) ImprovementAnswers)}
    (hs : (improvements ops).system.run f ls = some f') : Owed f'.store orphan := by
  have hinv : Service.CustodyInv ImprovementCall.Holds (fun _ _ => False)
      (fun s => ImprovementInv s ∧ Owed s orphan)
      (fun s c => c.Knows s ∧ ¬ c.Holds orphan) f :=
    ⟨⟨⟨h.inv.store, howed⟩, fun i c hc => ⟨h.inv.calls i c hc, hnone i c hc⟩⟩, h.exclusive,
      fun _ h => h.elim⟩
  exact ((orphanRule ops orphan).inv_of_along hinv Service.along_always hs).inv.store.2

/-! ## The law -/

theorem stepLaw_of_knows (hI : ImprovementInv s) (hJ : call.Knows s) :
    ImprovementStepLaw ops s call a where
  sends item hitem := by
    cases call with
    | sending items =>
      cases items with
      | nil => nomatch hitem
      | cons c =>
        obtain rfl := Option.some.inj hitem
        exact hJ.2 c List.mem_cons_self
    | _ => nomatch hitem
  delivered r hr id := (kept_of_step hI hJ hr).delivered id
  superseded claim hclaim hnot r hr id := by
    cases call with
    | finishing _ outcome =>
      cases hclaim
      cases hr
      exact finish_of_not_runsUnder hI outcome hnot id
    | working claims =>
      cases claims with
      | nil => nomatch hclaim
      | cons =>
        cases hclaim
        cases hr
        exact finish_of_not_runsUnder hI a.outcome hnot id
    | _ => nomatch hclaim

/-- No holder of a claim dies in the step. -/
def HolderLives (f : InFlight (ImprovementStore F) (ImprovementCall F))
    (l : CallLabel (ImprovementReq F) ImprovementAnswers) : Prop :=
  Service.Meets (fun s c a => c.Lives s a) f l ∧ Service.Spares (fun s c => c.Free s) f l
deriving Decidable

/-- Whatever is claimed after the step can come to its end. -/
def Recovers (ops : ScoreOps F) (f : InFlight (ImprovementStore F) (ImprovementCall F))
    (l : CallLabel (ImprovementReq F) ImprovementAnswers) : Prop :=
  ∀ f', (improvements ops).next f l = some f' → LiveLaw ops f'

theorem orphan_of_died (ops : ScoreOps F) (h : Custody f)
    {l : CallLabel (ImprovementReq F) ImprovementAnswers}
    (hl : ¬ HolderLives f l) : ∃ f' held, (improvements ops).next f l = some f' ∧
      Owed f'.store held ∧ ∀ i c, f'.call? i = some c → ¬ c.Holds held := by
  cases l with
  | start => exact absurd ⟨trivial, trivial⟩ hl
  | step i a =>
    have hdies : ∃ call, f.call? i = some call ∧ ¬ call.Lives f.store a := by
      by_contra hnone
      exact hl ⟨fun c hc => by_contra fun hc' => hnone ⟨c, hc, hc'⟩, trivial⟩
    obtain ⟨call, hcall, hdies⟩ := hdies
    cases call with
    | failing item items =>
      obtain ⟨hraised, howed⟩ := Classical.not_imp.mp hdies
      rw [Decidable.not_not] at howed
      have hstep : (improvements ops).step f.store (.failing item items) a =
          some (f.store, some (.sending items)) := by
        show step ops f.store a (.failing item items) = _
        rw [step, if_pos hraised]
      refine ⟨_, .outbox item.id, (improvements ops).next_step_eq_some.mpr
        ⟨_, hcall, _, _, hstep, rfl⟩, howed, fun j c hc hh => ?_⟩
      rcases Service.call?_set hc with ⟨-, hc⟩ | ⟨hj, hc⟩
      · -- the call goes on with the other rows
        cases hc
        obtain ⟨c, hc, heq⟩ := List.mem_map.mp hh
        exact request_ne (h.inv.calls i _ hcall).1 hc (outbox.inj heq)
      · exact hj (h.exclusive j i c _ _ hc hcall hh List.mem_cons_self)
    | _ => exact absurd trivial hdies
  | giveUp i =>
    have hdies : ∃ call, f.call? i = some call ∧ ¬ call.Free f.store := by
      by_contra hnone
      exact hl ⟨trivial, fun c hc => by_contra fun hc' => hnone ⟨c, hc, hc'⟩⟩
    obtain ⟨call, hcall, hdies⟩ := hdies
    have howed : ∃ held ∈ call.held, Owed f.store held := by
      by_contra hnone
      exact hdies fun held hh howed => hnone ⟨held, hh, howed⟩
    obtain ⟨held, hh, howed⟩ := howed
    refine ⟨_, held, rfl, ?_, fun j c hc hc' => ?_⟩
    · rw [hcall]
      exact howed
    · rcases Service.call?_set hc with ⟨-, hc⟩ | ⟨hj, hc⟩
      · cases hc
      · exact hj (h.exclusive j i c call held hc hcall hc' hh)

theorem recovers_iff (h : Custody f) {l : CallLabel (ImprovementReq F) ImprovementAnswers} :
    HolderLives f l ↔ Recovers ops f l := by
  constructor
  · intro hl f' hf'
    have h' : Custody f' := (custodyRule ops).inv_next h hl.1 hl.2 hf'
    exact h'.liveLaw
  · intro hrecovers
    by_contra hl
    obtain ⟨f', held, hf', howed, hnone⟩ := orphan_of_died ops h hl
    have htenure : Tenure f := ⟨h.inv, h.exclusive, fun _ h => h.elim⟩
    have htenure' : Tenure f' :=
      (claimRule ops).inv_next htenure (Service.meets_true f l) (Service.spares_true f l) hf'
    obtain ⟨ls, f'', hrun, hnot⟩ := (hrecovers f' hf').ends held howed
    exact hnot (htenure'.owed_of_orphan howed hnone hrun)

theorem improvementInv_empty (observations : List SkillUsageObservation) :
    ImprovementInv ({ observations } : ImprovementStore F) where
  oneLive _ _ _ _ h := nomatch h
  revisions _ := rfl
  counted _ := rfl
  keys _ _ _ _ h := nomatch h
  settled _ _ h := nomatch h
  tokens _ _ h := nomatch h

theorem custody_empty (observations : List SkillUsageObservation) :
    Custody ({ store := { observations } } : InFlight (ImprovementStore F) (ImprovementCall F)) := by
  refine .of_empty (improvementInv_empty observations) fun held howed => ?_
  cases held with
  | request id | outbox id =>
    obtain ⟨r, hr, -⟩ := howed
    nomatch hr

theorem along_recovers_iff (ops : ScoreOps F) (observations : List SkillUsageObservation)
    (ls : List (CallLabel (ImprovementReq F) ImprovementAnswers)) :
    (improvements ops).system.Along HolderLives { store := { observations } } ls ↔
      (improvements ops).system.Along (Recovers ops) { store := { observations } } ls :=
  System.along_iff_of_inv _ (fun _ _ _ hI hl hn => (custodyRule ops).inv_next hI hl.1 hl.2 hn)
    (fun _ _ hI => recovers_iff hI) (custody_empty observations)

/-- The laws hold in every run; and what is claimed can end, and every skill be queued again, in
exactly the runs in which no holder dies. -/
theorem improvementLaw_along (ops : ScoreOps F) (observations : List SkillUsageObservation)
    {ls : List (CallLabel (ImprovementReq F) ImprovementAnswers)}
    (hs : (improvements ops).system.run { store := { observations } } ls = some f') :
    ImprovementLaw f'.store ∧
      (improvements ops).system.Along (Service.Meets (ImprovementStepLaw ops))
        { store := { observations } } ls ∧
      ((improvements ops).system.Along HolderLives { store := { observations } } ls ↔
        (improvements ops).system.Along (Recovers ops) { store := { observations } } ls) := by
  have h := custody_empty (F := F) observations
  have htenure : Tenure _ := ⟨h.inv, h.exclusive, fun _ h => h.elim⟩
  refine ⟨((claimRule ops).inv_of_along htenure Service.along_always hs).inv.store.toImprovementLaw, ?_,
    along_recovers_iff ops observations ls⟩
  exact (claimRule ops).along htenure (fun _ _ _ hI hJ _ => stepLaw_of_knows hI hJ)
    Service.along_always

namespace RecoverySample

def scores : ScoreOps ℚ where
  zero := 0
  one := 1
  ratio r := r / 5
  lt a b := decide (a < b)
  le a b := decide (a ≤ b)
  sum := List.sum
  div a n := a / n
  sub a b := a - b

def policy : ImprovementPolicy ℚ where
  mode := "CANDIDATE"
  allowedIdentities := some [("skill-1", "1.0.0", "hash-1")]
  minFeedbackSamples := 1
  lowScoreThreshold := 7 / 10
  minimumDegradationDelta := 1 / 10

def feedback (feedbackId : String) (rating createdAt : ℤ) : SkillFeedbackRecord where
  feedbackId
  workspaceId := "ws-1"
  skillId := "skill-1"
  version := some "1.0.0"
  definitionHash := some "hash-1"
  rating := some rating
  createdAt

/-- A good feedback, a bad one, and the relay of the request that it leads to. -/
def degraded : List (CallLabel (ImprovementReq ℚ) ImprovementAnswers) :=
  [.start (.recordFeedback (feedback "f-1" 5 1) policy), .step 0 {}, .step 0 {}, .step 0 {},
    .start (.recordFeedback (feedback "f-2" 1 2) policy), .step 1 {}, .step 1 {}, .step 1 {},
    .step 1 { newRequestId := "req-1", newOutboxId := "out-1" },
    .start (.relay 10), .step 2 { picked := [⟨"out-1", "t-1"⟩] }, .step 2 {}, .step 2 {}, .step 2 {}]

/-- The request is executed. -/
def executed : List (CallLabel (ImprovementReq ℚ) ImprovementAnswers) :=
  degraded ++
    ([.start (.execute "req-1"), .step 3 {}, .step 3 { picked := [⟨"req-1", "t-2"⟩] },
      .step 3 {}, .step 3 {}, .step 3 {}] : List (CallLabel (ImprovementReq ℚ) ImprovementAnswers))

/-- The worker dies while it executes the request, and the task is delivered again. -/
def died : List (CallLabel (ImprovementReq ℚ) ImprovementAnswers) :=
  degraded ++
    ([.start (.execute "req-1"), .step 3 {}, .step 3 { picked := [⟨"req-1", "t-2"⟩] }, .step 3 {},
      .giveUp 3, .start (.execute "req-1"), .step 4 {}, .step 4 {}] :
        List (CallLabel (ImprovementReq ℚ) ImprovementAnswers))

def reached : InFlight (ImprovementStore ℚ) (ImprovementCall ℚ) :=
  ((improvements scores).system.run { store := {} } executed).get (by decide +kernel)

def stuck : InFlight (ImprovementStore ℚ) (ImprovementCall ℚ) :=
  ((improvements scores).system.run { store := {} } died).get (by decide +kernel)

end RecoverySample

open RecoverySample in
theorem improvementLaw_along_executed : ImprovementLaw reached.store ∧
    (improvements scores).system.Along (Recovers scores) { store := {} } executed := by
  have hs : (improvements scores).system.run { store := {} } executed = some reached :=
    (Option.some_get _).symm
  have h := improvementLaw_along scores [] hs
  exact ⟨h.1, h.2.2.mp (by decide +kernel)⟩

open RecoverySample in
/-- The request stays running, and is in the way of every later one. -/
theorem not_improvementLaw_died :
    ¬ ∀ ls f', (improvements scores).system.run { store := {} } ls = some f' →
      ImprovementLaw f'.store ∧
        (improvements scores).system.Along (Service.Meets (ImprovementStepLaw scores)) { store := {} } ls ∧
        (improvements scores).system.Along (Recovers scores) { store := {} } ls := by
  intro h
  have hrecovers := (h died stuck (Option.some_get _).symm).2.2
  have hlives := (along_recovers_iff scores [] died).mpr hrecovers
  exact absurd hlives (by decide +kernel)

end JavisSaas.Agent.Skills
