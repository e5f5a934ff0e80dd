import JavisSaas.Agent.Coordination.WaitResolver

/-!
# Which events resolve a wait

The event's name has to begin with the trigger of the wait, less the wildcards at its end. A
reference and a responder are compared where both sides name one, and an administrator may respond
for anybody.

* `ResolverInv.next`: what every call keeps.
* `resolverLaw`: what resolves a wait, at most once, and that an event resolves every open wait
  that it matches.
-/

namespace JavisSaas.Agent.Coordination

open JavisSaas.Lib

variable {J : Type}

/-! ## The law -/

/-- What an event has in common with every wait that it resolves. -/
structure MayResolve (desc : WaitDescriptor) (ev : WaitEvent J) : Prop where
  name : startsWith ev.eventName (stem desc.resumeTrigger) = true
  ref : truthy desc.relatedRef = true → truthy ev.relatedRef = true →
    desc.relatedRef = ev.relatedRef
  responder : truthy desc.ownerResponder = true → truthy ev.responder = true →
    desc.ownerResponder = ev.responder ∨ ∃ r ∈ ev.responder, isAdmin r = true

/-- The event is the wait's trigger, or extends a trigger that ends in a wildcard. -/
structure Matches (desc : WaitDescriptor) (ev : WaitEvent J) : Prop where
  name : ev.eventName = desc.resumeTrigger ∨
    (endsWith desc.resumeTrigger "*" = true ∧
      startsWith ev.eventName (stem desc.resumeTrigger) = true)
  ref : truthy desc.relatedRef = true → truthy ev.relatedRef = true →
    desc.relatedRef = ev.relatedRef
  responder : truthy desc.ownerResponder = true → truthy ev.responder = true →
    desc.ownerResponder = ev.responder ∨ ∃ r ∈ ev.responder, isAdmin r = true

/-- The wait is active, and not past its time. -/
def Open (now : ℤ) (e : WaitEntry) : Prop :=
  e.status = .active ∧ ¬ isExpired e.descriptor now = true

/-- An event that names a run is for the waits of that run. -/
def Addressed (ev : WaitEvent J) (e : WaitEntry) : Prop :=
  truthy ev.runId = true → ev.runId = some e.runId

/-- The waits and the events of one resolver. -/
structure ResolverLaw (s : ResolverState J) : Prop where
  sound : ∀ r ∈ s.log, ∃ runId desc, s.registered[r.serial]? = some (runId, desc) ∧
    MayResolve desc r.event ∧ ¬ isExpired desc r.now = true
  once : (s.log.map (·.serial)).Nodup
  complete : ∀ (ev : WaitEvent J) (now : ℤ) (id : String) (e : WaitEntry),
    s.resolver.entries.get? id = some e → Open now e → Addressed ev e →
    Matches e.descriptor ev →
      (resolveWaitByEvent s.resolver ev now).1.entries.get? id =
          some { e with status := .resolved } ∧
        resultOf ev now e ∈ (resolveWaitByEvent s.resolver ev now).2

/-! ## Matching -/

theorem startsWith_stem (trigger : String) : startsWith trigger (stem trigger) = true := by
  unfold startsWith stem
  rw [String.toList_ofList, List.isPrefixOf_iff_prefix]
  have hsuffix := List.dropWhile_suffix (· = '*') (l := trigger.toList.reverse)
  have hprefix := List.reverse_prefix.mpr hsuffix
  rwa [List.reverse_reverse] at hprefix

theorem triggerMatch_iff (desc : WaitDescriptor) (eventName : String) :
    triggerMatch desc eventName = true ↔
      startsWith eventName (stem desc.resumeTrigger) = true := by
  unfold triggerMatch
  rw [Bool.or_eq_true, decide_eq_true_iff]
  refine ⟨fun h => h.elim (fun heq => ?_) id, .inr⟩
  rw [← heq]
  exact startsWith_stem desc.resumeTrigger

theorem refDiffers_iff (desc : WaitDescriptor) (ev : WaitEvent J) :
    refDiffers desc ev = false ↔ (truthy desc.relatedRef = true → truthy ev.relatedRef = true →
      desc.relatedRef = ev.relatedRef) := by
  unfold refDiffers
  rw [← Bool.not_eq_true, Bool.and_eq_true, Bool.and_eq_true, decide_eq_true_iff]
  tauto

theorem responderDiffers_iff (desc : WaitDescriptor) (ev : WaitEvent J) :
    responderDiffers desc ev = false ↔
      (truthy desc.ownerResponder = true → truthy ev.responder = true →
        desc.ownerResponder = ev.responder ∨ ∃ r ∈ ev.responder, isAdmin r = true) := by
  have hadmin : ev.responder.any isAdmin = true ↔ ∃ r ∈ ev.responder, isAdmin r = true := by
    rw [Option.any_eq_true]
    rfl
  rw [← hadmin]
  unfold responderDiffers
  rw [← Bool.not_eq_true, Bool.and_eq_true, Bool.and_eq_true, Bool.and_eq_true,
    decide_eq_true_iff, Bool.not_eq_true']
  cases ev.responder.any isAdmin <;> tauto

theorem accepts_iff (desc : WaitDescriptor) (ev : WaitEvent J) :
    accepts desc ev = true ↔ MayResolve desc ev := by
  unfold accepts
  rw [Bool.and_eq_true, Bool.and_eq_true, Bool.not_eq_true', Bool.not_eq_true', triggerMatch_iff,
    refDiffers_iff, responderDiffers_iff]
  exact ⟨fun h => ⟨h.1.1, h.1.2, h.2⟩, fun h => ⟨⟨h.name, h.ref⟩, h.responder⟩⟩

theorem Matches.mayResolve {desc : WaitDescriptor} {ev : WaitEvent J} (h : Matches desc ev) :
    MayResolve desc ev where
  name := by
    rcases h.name with heq | hwild
    · rw [heq]
      exact startsWith_stem desc.resumeTrigger
    · exact hwild.2
  ref := h.ref
  responder := h.responder

/-! ## The invariant -/

structure ResolverInv (s : ResolverState J) : Prop where
  serials : FreshSerials s.resolver.entries (s.log.map (·.serial))
  entries : ∀ id e, s.resolver.entries.get? id = some e →
    s.registered[e.serial]? = some (e.runId, e.descriptor)
  logged : ∀ r ∈ s.log, ∃ runId desc, s.registered[r.serial]? = some (runId, desc) ∧
    accepts desc r.event = true ∧ ¬ isExpired desc r.now = true
  runs : ∀ id e, s.resolver.entries.get? id = some e →
    id ∈ (s.resolver.runToWaits.get? e.runId).getD []

theorem resolverInv_init : ResolverInv ({} : ResolverState J) where
  serials := ⟨fun _ _ _ _ h => (nomatch h), List.nodup_nil, fun _ _ h => (nomatch h)⟩
  entries _ _ h := nomatch h
  logged _ h := nomatch h
  runs _ _ h := nomatch h

theorem getElem?_concat_of_some {α : Type} {l : List α} {i : ℕ} {a b : α} (h : l[i]? = some a) :
    (l ++ [b])[i]? = some a := by
  rw [List.getElem?_append_left (List.getElem?_eq_some_iff.mp h).1]
  exact h

variable {s : ResolverState J}

theorem ResolverInv.register (hI : ResolverInv s) (runId : String)
    (desc : WaitDescriptor) : ResolverInv { s with
      resolver := s.resolver.registerWait runId desc s.registered.length
      registered := s.registered ++ [(runId, desc)] } := by
  have hlt : ∀ id e, s.resolver.entries.get? id = some e → e.serial < s.registered.length :=
    fun id e hget => (List.getElem?_eq_some_iff.mp (hI.entries id e hget)).1
  have hlog : s.registered.length ∉ s.log.map (·.serial) := by
    intro hmem
    obtain ⟨r, hr, hserial⟩ := List.mem_map.mp hmem
    obtain ⟨_, _, hreg, -⟩ := hI.logged r hr
    have hr := (List.getElem?_eq_some_iff.mp hreg).1
    omega
  -- an entry afterwards is the new one, or an old one under another identifier
  have hcases : ∀ id e,
      (s.resolver.registerWait runId desc s.registered.length).entries.get? id = some e →
        (id = desc.id ∧ e = ⟨runId, desc, .active, s.registered.length⟩) ∨
          s.resolver.entries.get? id = some e := by
    intro id e hget
    rw [WaitResolver.registerWait, Dict.get?_set] at hget
    split_ifs at hget with hid
    · exact .inl ⟨hid.symm, (Option.some.inj hget).symm⟩
    · exact .inr hget
  refine ⟨⟨fun id id' e e' hget hget' hserial => ?_, hI.serials.nodup, fun id e hget hactive => ?_⟩,
    fun id e hget => ?_, fun r hr => ?_, fun id e hget => ?_⟩
  · rcases hcases id e hget with ⟨rfl, rfl⟩ | hold <;>
      rcases hcases id' e' hget' with ⟨rfl, rfl⟩ | hold'
    · rfl
    · exact absurd hserial (Nat.ne_of_gt (hlt id' e' hold'))
    · exact absurd hserial (Nat.ne_of_lt (hlt id e hold))
    · exact hI.serials.unique id id' e e' hold hold' hserial
  · rcases hcases id e hget with ⟨rfl, rfl⟩ | hold
    · exact hlog
    · exact hI.serials.fresh id e hold hactive
  · rcases hcases id e hget with ⟨rfl, rfl⟩ | hold
    · exact List.getElem?_concat_length
    · exact getElem?_concat_of_some (hI.entries id e hold)
  · obtain ⟨runId', desc', hreg, hrest⟩ := hI.logged r hr
    exact ⟨runId', desc', getElem?_concat_of_some hreg, hrest⟩
  · rw [WaitResolver.registerWait, Dict.get?_set]
    rcases hcases id e hget with ⟨rfl, rfl⟩ | hold
    · rw [if_pos rfl, Option.getD_some]
      exact List.mem_concat_self
    · have hin := hI.runs id e hold
      split_ifs with hrun
      · rw [Option.getD_some, hrun]
        exact List.mem_append_left _ hin
      · exact hin

theorem ResolverInv.look (hI : ResolverInv s) (runId : Option String)
    (now : ℤ) :
    ResolverInv { s with resolver := (getActiveWaits s.resolver runId now).1 } := by
  have hback : ∀ id e', (getActiveWaits s.resolver runId now).1.entries.get? id = some e' →
      ∃ e, s.resolver.entries.get? id = some e ∧
        (e' = e ∨ e' = { e with status := .expired }) := by
    intro id e' hget
    obtain ⟨f, hf, hmap⟩ := get?_expireAll now (s.resolver.targetIds runId) s.resolver.entries id
    obtain ⟨e, hold, rfl⟩ := Option.map_eq_some_iff.mp (hmap.symm.trans hget)
    exact ⟨e, hold, hf e⟩
  refine ⟨hI.serials.of_map fun id e' hget => ?_, fun id e' hget => ?_, hI.logged,
    fun id e' hget => ?_⟩
  · obtain ⟨e, hold, rfl | rfl⟩ := hback id e' hget
    · exact ⟨e', hold, rfl, fun hactive => hactive⟩
    · exact ⟨e, hold, rfl, fun hactive => nomatch hactive⟩
  · obtain ⟨e, hold, rfl | rfl⟩ := hback id e' hget
    · exact hI.entries id e' hold
    · exact hI.entries id e hold
  · obtain ⟨e, hold, rfl | rfl⟩ := hback id e' hget
    · exact hI.runs id e' hold
    · exact hI.runs id e hold

theorem ResolverInv.resolve (hI : ResolverInv s) (ev : WaitEvent J)
    (now : ℤ) : ResolverInv { s with
      resolver := (resolveWaitByEvent s.resolver ev now).1
      log := s.log ++ (resolveLoop s.resolver ev now).2.map fun e => ⟨e.serial, ev, now⟩ } := by
  have hback : ∀ id e', (resolveWaitByEvent s.resolver ev now).1.entries.get? id = some e' →
      ∃ e, s.resolver.entries.get? id = some e ∧ e'.runId = e.runId ∧
        e'.descriptor = e.descriptor ∧ e'.serial = e.serial := by
    intro id e' hget
    have hall := get?_visitAll ev now (s.resolver.targetIds ev.runId) (s.resolver.entries, []) id
    obtain ⟨e, hold, rfl⟩ := Option.map_eq_some_iff.mp (hall.symm.trans hget)
    refine ⟨e, hold, ?_⟩
    split_ifs
    · exact ⟨settle_runId ev now e, settle_descriptor ev now e, settle_serial ev now e⟩
    · exact ⟨rfl, rfl, rfl⟩
  have hserials : FreshSerials (resolveLoop s.resolver ev now).1
      (s.log.map (·.serial) ++ (resolveLoop s.resolver ev now).2.map (·.serial)) := by
    refine FreshSerials.visitAll (s.resolver.targetIds ev.runId) ?_
    rw [List.map_nil, List.append_nil]
    exact hI.serials
  refine ⟨?_, fun id e' hget => ?_, fun r hr => ?_, fun id e' hget => ?_⟩
  · rw [List.map_append, List.map_map]
    exact hserials
  · obtain ⟨e, hold, hrun, hdesc, hserial⟩ := hback id e' hget
    rw [hrun, hdesc, hserial]
    exact hI.entries id e hold
  · rcases List.mem_append.mp hr with hr | hr
    · exact hI.logged r hr
    · obtain ⟨e, he, rfl⟩ := List.mem_map.mp hr
      obtain hnil | ⟨hresolves, id, -, hget⟩ := (visitAll_resolved ev now _ _ e).mp he
      · nomatch hnil
      · exact ⟨e.runId, e.descriptor, hI.entries id e hget, hresolves.2.2, hresolves.2.1⟩
  · obtain ⟨e, hold, hrun, -, -⟩ := hback id e' hget
    rw [hrun]
    exact hI.runs id e hold

theorem ResolverInv.next {s s' : ResolverState J} {l : ResolverCall J} (hI : ResolverInv s)
    (h : (waitResolver J).next s l = some s') : ResolverInv s' := by
  cases l with
  | registerWait runId desc =>
    cases h
    exact hI.register runId desc
  | getActiveWaits runId now =>
    cases h
    exact hI.look runId now
  | resolveWaitByEvent ev now =>
    cases h
    exact hI.resolve ev now

/-! ## The law of every run -/

theorem ResolverInv.mem_targetIds (hI : ResolverInv s) {ev : WaitEvent J}
    {id : String} {e : WaitEntry} (hget : s.resolver.entries.get? id = some e)
    (haddressed : Addressed ev e) : id ∈ s.resolver.targetIds ev.runId := by
  unfold WaitResolver.targetIds
  split_ifs with hrun
  · rw [haddressed hrun, Option.getD_some]
    exact hI.runs id e hget
  · exact Dict.mem_keys_of_get? hget

theorem ResolverInv.law (hI : ResolverInv s) : ResolverLaw s where
  sound r hr := by
    obtain ⟨runId, desc, hreg, haccepts, hexpired⟩ := hI.logged r hr
    exact ⟨runId, desc, hreg, (accepts_iff desc r.event).mp haccepts, hexpired⟩
  once := hI.serials.nodup
  complete ev now id e hget hopen haddressed hmatches := by
    have hresolves : Resolves ev now e :=
      ⟨hopen.1, hopen.2, (accepts_iff e.descriptor ev).mpr hmatches.mayResolve⟩
    have hin := hI.mem_targetIds hget haddressed
    constructor
    · refine (get?_visitAll ev now _ (s.resolver.entries, []) id).trans ?_
      rw [hget, Option.map_some, if_pos hin, settle_of_resolves hresolves]
    · refine List.mem_map_of_mem ?_
      exact (visitAll_resolved ev now _ _ e).mpr (.inr ⟨hresolves, id, hin, hget⟩)

/-- What resolves a wait, in every run of registrations, looks and events. -/
theorem resolverLaw {calls : List (ResolverCall J)} {s : ResolverState J}
    (h : (waitResolver J).run {} calls = some s) : ResolverLaw s :=
  ((waitResolver J).inv_of_run (fun _ _ _ hI hn => hI.next hn) resolverInv_init h).law

/-! ## A payout -/

namespace Sample

def payout : WaitDescriptor where
  id := "wait_001"
  reason := "payout"
  ownerResponder := some "role:finance_admin"
  checkpointRef := "ckpt"
  relatedRef := some "appr_001"

/-- The wait is registered, and an administrator decides on no approval in particular. -/
def decided : List (ResolverCall Unit) :=
  [.registerWait "run_1" payout,
    .resolveWaitByEvent { eventName := "approval.decided", responder := some "admin" } 0]

end Sample

theorem resolverLaw_decided :
    ResolverLaw (((waitResolver Unit).run {} Sample.decided).get (by decide +kernel)) :=
  resolverLaw (Option.some_get _).symm

/-- An event resolves a wait that names another responder, and a reference that it does not. -/
theorem not_equal_fields :
    ¬ ∀ (calls : List (ResolverCall Unit)) (s : ResolverState Unit),
      (waitResolver Unit).run {} calls = some s → ∀ r ∈ s.log, ∀ runId desc,
        s.registered[r.serial]? = some (runId, desc) →
          desc.relatedRef = r.event.relatedRef ∧ desc.ownerResponder = r.event.responder := by
  intro hall
  have hfields := hall Sample.decided
    (((waitResolver Unit).run {} Sample.decided).get (by decide +kernel)) (Option.some_get _).symm
    ⟨0, { eventName := "approval.decided", responder := some "admin" }, 0⟩
    (by decide +kernel) "run_1" Sample.payout (by decide +kernel)
  exact absurd hfields.1 (by decide +kernel)

end JavisSaas.Agent.Coordination
