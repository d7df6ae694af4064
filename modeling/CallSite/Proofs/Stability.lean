import CallSite.Proofs.BuildLog

/-!
# When a site becomes unstable

A site becomes unstable when more different sequences of fragments have been compiled than its limit
allows. It gives advice at that moment, and is never stable again.
-/
namespace CallSite.Building

open Pattern SiteCache LawfulCacheKey

def Event.isAsked : Event → Bool
  | .asked _ => true
  | _ => false

def Event.view? : Event → Option View
  | .answered _ _ view => some view
  | .seen view => some view
  | _ => none

/-- A log, and what the site tells about itself after it. -/
structure Moment where
  log : List Event
  view : View

/-- The moments at which a site has told about itself, last first. -/
def moments : List Event → List Moment
  | [] => []
  | e :: log =>
    match e.view? with
    | some view => ⟨e :: log, view⟩ :: moments log
    | none => moments log

/-- These moments, and the present. -/
def State.moments {μ : Type} (s : State μ) : List Moment :=
  ⟨s.log, s.view⟩ :: Building.moments s.log

/-- What a site tells about itself, accounted for by what has happened. -/
structure Accounted (limit : Limit) (warn : Bool) (m : Moment) : Prop where
  unstable_iff : m.view.unstable = true ↔ ∃ keys : List (List Fragment),
    limit.size < keys.length ∧ keys.Pairwise (fun a b => ¬ List.Forall₂ Fragment.Alike a b) ∧
      ∀ key ∈ keys, Event.compiled key ∈ m.log
  empty : m.view.unstable = true → m.view.length = 0
  total : m.view.stats.total = m.log.countP Event.isAsked
  advice : m.view.advice = if m.view.unstable && warn then [unstableAdvice] else []

/-- What becomes of a site that is unstable. -/
structure GivenUp (later earlier : Moment) : Prop where
  unstable : later.view.unstable = true
  empty : later.view.length = 0
  hits : later.view.stats.hits = earlier.view.stats.hits
  misses : later.view.stats.misses = earlier.view.stats.misses
  uncached : ∃ since, later.log = since ++ earlier.log ∧
    later.view.stats.uncached = earlier.view.stats.uncached + since.countP Event.isAsked

/-- What has been compiled is returned at once. -/
def ReturnsAtOnce (log : List Event) : Prop :=
  ∀ later fragments earlier, log = later ++ .compiled fragments :: earlier →
    ∃ later' p view, later = later' ++ [.answered fragments (.ok p) view]

section Moments

variable {limit : Limit} {warn : Bool} {log : List Event} {fragments : List Fragment}

namespace ReturnsAtOnce

theorem nil : ReturnsAtOnce [] := fun later fragments earlier h => by simp at h

theorem cons (h : ReturnsAtOnce log) {e : Event} (he : ∀ fragments, e ≠ .compiled fragments) :
    ReturnsAtOnce (e :: log) := by
  intro later fragments earlier hlog
  cases later with
  | nil => exact absurd (List.cons.inj hlog).1 (he fragments)
  | cons e' later =>
    obtain ⟨later', p, view, rfl⟩ := h later fragments earlier (List.cons.inj hlog).2
    exact ⟨e' :: later', p, view, rfl⟩

theorem compiled (h : ReturnsAtOnce log) {p : Pattern} {view : View} :
    ReturnsAtOnce (.answered fragments (.ok p) view :: .compiled fragments :: log) := by
  intro later fragments' earlier hlog
  match later with
  | [] => cases hlog
  | [e] =>
    simp only [List.cons_append, List.nil_append, List.cons.injEq, Event.compiled.injEq] at hlog
    obtain ⟨rfl, rfl, -⟩ := hlog
    exact ⟨[], p, view, rfl⟩
  | e :: e' :: later =>
    simp only [List.cons_append, List.cons.injEq] at hlog
    obtain ⟨later', p, view, rfl⟩ := h later fragments' earlier hlog.2.2
    exact ⟨e :: e' :: later', p, view, rfl⟩

end ReturnsAtOnce

theorem countP_requests (log : List Event) :
    (requests log).countP CacheRequest.isProbe = log.countP Event.isAsked := by
  rw [requests, List.countP_reverse, List.countP_filterMap]
  congr 1
  funext e
  cases e with
  | asked fragments => rfl
  | compiled fragments => rfl
  | answered fragments ending view => cases ending <;> rfl
  | seen view => rfl

namespace Lawful

/-- The key of a first offer has been compiled. -/
theorem compiled_of_firstOffers (h : Lawful limit warn log) {key : List Fragment}
    {t : Shared Template} (hmem : (key, t) ∈ firstOffers (requests log)) :
    Event.compiled key ∈ log := by
  induction h with
  | nil => cases hmem
  | asked fragments _ ih =>
    rw [requests_asked, firstOffers_probe] at hmem
    exact List.mem_cons_of_mem _ (ih hmem)
  | seen _ ih => exact List.mem_cons_of_mem _ (ih hmem)
  | failed fragments e _ ih => exact List.mem_cons_of_mem _ (ih hmem)
  | found _ hfound _ ih =>
    obtain ⟨k, hk, hkey⟩ := firstOffers_of_find? hfound
    rw [requests_returned, firstOffers_of_among ⟨_, hk, hkey⟩] at hmem
    exact List.mem_cons_of_mem _ (ih hmem)
  | compiled _ hreturns _ ih =>
    apply List.mem_cons_of_mem
    rw [requests_returned, requests_compiled] at hmem
    rcases hreturns.firstOffers_eq with hsame | ⟨-, hlonger⟩
    · rw [hsame] at hmem
      exact List.mem_cons_of_mem _ (ih hmem)
    · rw [hlonger, List.mem_append, List.mem_singleton] at hmem
      rcases hmem with hold | hnew
      · exact List.mem_cons_of_mem _ (ih hold)
      · cases hnew
        exact List.mem_cons_self

theorem offered_of_compiled (h : Lawful limit warn log) {key : List Fragment}
    (hmem : Event.compiled key ∈ log) : Offered key (requests log) := by
  induction h with
  | nil => cases hmem
  | asked fragments _ ih =>
    rw [requests_asked]
    exact (ih (by simpa using hmem)).append _
  | seen _ ih => exact ih (by simpa using hmem)
  | failed fragments e _ ih => exact ih (by simpa using hmem)
  | found _ _ _ ih =>
    rw [requests_returned]
    exact (ih (by simpa using hmem)).append _
  | @compiled log fragments p view _ _ _ ih =>
    rw [requests_returned, requests_compiled]
    by_cases hthis : key = fragments
    · subst hthis
      exact ⟨(key, p.template), by simp [offers_append], LawfulCacheKey.refl key⟩
    · exact (ih (by simpa [hthis] using hmem)).append _

theorem returnsAtOnce (h : Lawful limit warn log) : ReturnsAtOnce log := by
  induction h with
  | nil => exact .nil
  | asked fragments _ ih => exact ih.cons fun _ => by simp
  | seen _ ih => exact ih.cons fun _ => by simp
  | failed fragments e _ ih => exact ih.cons fun _ => by simp
  | found _ _ _ ih => exact ih.cons fun _ => by simp
  | compiled _ _ _ ih => exact ih.compiled

theorem unstable_iff (h : Lawful limit warn log) :
    (cacheOf limit log).unstable = true ↔ ∃ keys : List (List Fragment),
      limit.size < keys.length ∧ keys.Pairwise (fun a b => ¬ List.Forall₂ Fragment.Alike a b) ∧
        ∀ key ∈ keys, Event.compiled key ∈ log := by
  have hdifferent (a b : List Fragment) :
      ¬ List.Forall₂ Fragment.Alike a b ↔ CacheKey.contentEq a b = false := by
    rw [← Fragment.contentEq_iff_alike, Bool.not_eq_true]
  simp only [hdifferent]
  rw [cacheOf, unstable_replay_iff]
  constructor
  · intro hfull
    refine ⟨(firstOffers (requests log)).map Prod.fst, by rwa [List.length_map],
      pairwise_firstOffers (requests log), ?_⟩
    intro key hkey
    obtain ⟨⟨k, t⟩, hmem, rfl⟩ := List.mem_map.1 hkey
    exact h.compiled_of_firstOffers hmem
  · rintro ⟨keys, hlength, hpairwise, hcompiled⟩
    exact lt_length_firstOffers_iff.2
      ⟨keys, hlength, hpairwise, fun key hkey => h.offered_of_compiled (hcompiled key hkey)⟩

theorem accounted (h : Lawful limit warn log) :
    Accounted limit warn ⟨log, viewOf limit warn log⟩ where
  unstable_iff := h.unstable_iff
  empty hunstable := by
    change (cacheOf limit log).entries.length = 0
    rw [(holds_cacheOf limit log).entries_of_unstable hunstable]
    rfl
  total := by
    change (cacheOf limit log).stats.total = _
    rw [cacheOf, total_replay, countP_requests]
    exact Nat.zero_add _
  advice := rfl

end Lawful

theorem givenUp {since : List Event} (h : (cacheOf limit log).unstable = true) :
    GivenUp ⟨since ++ log, viewOf limit warn (since ++ log)⟩ ⟨log, viewOf limit warn log⟩ := by
  have hcache : cacheOf limit (since ++ log) = (cacheOf limit log).replay (requests since) :=
    cacheOf_of_requests (requests_append since log)
  rw [replay_of_unstable h, countP_requests] at hcache
  have hempty : (cacheOf limit log).length = 0 := by
    rw [SiteCache.length, (holds_cacheOf limit log).entries_of_unstable h]
    rfl
  simp only [viewOf, hcache]
  exact ⟨h, hempty, rfl, rfl, since, rfl, rfl⟩

/-- The moments of a lawful log are as lawful as its end. -/
theorem lawful_of_mem_moments (h : Lawful limit warn log) :
    ∀ m ∈ moments log, Lawful limit warn m.log ∧ m.view = viewOf limit warn m.log := by
  have hnow {e : Event} {log : List Event} {view : View} (h : Lawful limit warn (e :: log))
      (hview : view = viewOf limit warn (e :: log))
      (ih : ∀ m ∈ moments log, Lawful limit warn m.log ∧ m.view = viewOf limit warn m.log) :
      ∀ m ∈ Moment.mk (e :: log) view :: moments log,
        Lawful limit warn m.log ∧ m.view = viewOf limit warn m.log := by
    intro m hm
    rcases List.mem_cons.1 hm with rfl | hm
    · exact ⟨h, hview⟩
    · exact ih m hm
  induction h with
  | nil => exact fun m hm => nomatch hm
  | asked fragments _ ih => exact ih
  | seen hlawful ih => exact hnow hlawful.seen rfl ih
  | failed fragments e hlawful ih => exact hnow (hlawful.failed fragments e) rfl ih
  | found hlawful hfound hview ih => exact hnow (hlawful.found hfound hview) hview ih
  | compiled hlawful hreturns hview ih => exact hnow (hlawful.compiled hreturns hview) hview ih

theorem suffix_of_mem_moments {m : Moment} (h : m ∈ moments log) : m.log <:+ log := by
  induction log with
  | nil => cases h
  | cons e log ih =>
    rw [moments] at h
    cases hview : e.view? with
    | none =>
      rw [hview] at h
      exact (ih h).trans (List.suffix_cons e log)
    | some view =>
      rw [hview] at h
      rcases List.mem_cons.1 h with rfl | h
      · exact List.suffix_refl _
      · exact (ih h).trans (List.suffix_cons e log)

theorem pairwise_moments (log : List Event) :
    (moments log).Pairwise fun later earlier => earlier.log <:+ later.log := by
  induction log with
  | nil => exact .nil
  | cons e log ih =>
    rw [moments]
    cases e.view? with
    | none => exact ih
    | some view =>
      exact .cons (fun m hm => (suffix_of_mem_moments hm).trans (List.suffix_cons e log)) ih

end Moments

/-- What the builds of a run make of the stability of their site: `Accounted` at every moment, and
`GivenUp` from the first one on at which it is unstable. Only builds that return a pattern count. -/
structure AdvisedOnce {μ : Type} (limit : Limit) (warn : Bool) (s : State μ) : Prop where
  accounted : ∀ m ∈ s.moments, Accounted limit warn m
  givenUp : s.moments.Pairwise fun later earlier =>
    earlier.view.unstable = true → GivenUp later earlier
  returnsAtOnce : ReturnsAtOnce s.log

theorem Kept.advisedOnce {μ : Type} {limit : Limit} {warn : Bool} {s : State μ}
    (h : Kept limit warn s) : AdvisedOnce limit warn s := by
  have hmoments : ∀ m ∈ s.moments, Lawful limit warn m.log ∧ m.view = viewOf limit warn m.log := by
    intro m hm
    rcases List.mem_cons.1 hm with rfl | hm
    · exact ⟨h.lawful, h.view_eq⟩
    · exact lawful_of_mem_moments h.lawful m hm
  have hordered : s.moments.Pairwise fun later earlier => earlier.log <:+ later.log :=
    .cons (fun m hm => suffix_of_mem_moments hm) (pairwise_moments s.log)
  refine ⟨?_, ?_, h.lawful.returnsAtOnce⟩
  · rintro ⟨log, view⟩ hm
    obtain ⟨hlawful, rfl⟩ : Lawful limit warn log ∧ view = viewOf limit warn log := hmoments _ hm
    exact hlawful.accounted
  · refine hordered.imp_of_mem ?_
    rintro ⟨_, view⟩ ⟨log, view'⟩ hlater hearlier ⟨since, rfl⟩ hunstable
    obtain rfl : view = viewOf limit warn (since ++ log) := (hmoments _ hlater).2
    obtain rfl : view' = viewOf limit warn log := (hmoments _ hearlier).2
    exact Building.givenUp hunstable

/-- However builds are nested and wherever they fail or panic, a site is unstable from the moment on
at which more different sequences of fragments have been compiled than its limit allows. It gives
advice at that moment and never again. -/
theorem unstable_and_advised_once {ς μ α : Type} (P : Program ς μ) (limit : Limit) (nextTag : Nat)
    (memory : μ) (fuel : Nat) (code : BuildingCode ς μ α) :
    AdvisedOnce limit P.warnUnstable
      ((P.exec fuel code).after (State.start limit nextTag memory)) := by
  have hgoes := P.goesOn_exec limit fuel code (State.start limit nextTag memory)
  exact (hgoes (kept_start limit P.warnUnstable nextTag memory)).1.advisedOnce

end CallSite.Building
