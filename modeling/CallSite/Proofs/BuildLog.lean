import CallSite.Proofs.Building
import CallSite.Proofs.FirstKeys
import CallSite.Proofs.Transparency

/-!
# Logs of builds

Builds at one site may be nested in each other's compilers and fragment sources, and may fail
anywhere. What they leave in the cache depends on nothing but the order in which they asked and
returned: a build that returns is as good as an offer of the template that it returns.
-/
namespace CallSite

namespace Pattern.Fragment

theorem contentEq_iff_alike {as bs : List Fragment} :
    CacheKey.contentEq as bs = true ↔ List.Forall₂ Alike as bs := by
  have halike (a b : Fragment) : a.text = b.text ↔ a.Alike b := by simp [text, Alike]
  rw [contentEq_iff, ← List.forall₂_eq_eq_eq, List.forall₂_map_left_iff,
    List.forall₂_map_right_iff]
  simp only [halike]

end Pattern.Fragment

namespace Building

open Pattern SiteCache LawfulCacheKey

/-! ### What a log tells -/

def Event.request? : Event → Option (CacheRequest (List Fragment) (Shared Template))
  | .asked fragments => some (.probe fragments)
  | .answered fragments (.ok p) _ => some (.offer fragments p.template)
  | _ => none

/-- The requests that the builds of a log come to, earliest first. -/
def requests (log : List Event) : List (CacheRequest (List Fragment) (Shared Template)) :=
  (log.filterMap Event.request?).reverse

/-- The cache that these requests leave. -/
def cacheOf (limit : Limit) (log : List Event) : SiteCache (List Fragment) (Shared Template) :=
  ({ limit } : SiteCache _ _).replay (requests log)

def adviceOf (warn unstable : Bool) : List String :=
  if unstable && warn then [unstableAdvice] else []

/-- What a site tells about itself after a log. -/
def viewOf (limit : Limit) (warn : Bool) (log : List Event) : View :=
  let c := cacheOf limit log
  ⟨c.unstable, c.length, c.stats, adviceOf warn c.unstable⟩

section Log

variable {limit : Limit} {log : List Event} {fragments : List Fragment} {p : Pattern} {view : View}

@[simp] theorem requests_asked :
    requests (.asked fragments :: log) = requests log ++ [.probe fragments] := by
  simp [requests, Event.request?]

@[simp] theorem requests_compiled : requests (.compiled fragments :: log) = requests log := rfl

@[simp] theorem requests_seen : requests (.seen view :: log) = requests log := rfl

@[simp] theorem requests_failed {e : Stop PatternError} :
    requests (.answered fragments (.error e) view :: log) = requests log := rfl

@[simp] theorem requests_returned :
    requests (.answered fragments (.ok p) view :: log) =
      requests log ++ [.offer fragments p.template] := by
  simp [requests, Event.request?]

theorem requests_append (later log : List Event) :
    requests (later ++ log) = requests log ++ requests later := by
  rw [requests, List.filterMap_append, List.reverse_append, requests, requests]

theorem cacheOf_of_requests {log' : List Event}
    {later : List (CacheRequest (List Fragment) (Shared Template))}
    (h : requests log' = requests log ++ later) :
    cacheOf limit log' = (cacheOf limit log).replay later := by
  rw [cacheOf, h, replay_append]
  rfl

theorem cacheOf_asked :
    cacheOf limit (.asked fragments :: log) = ((cacheOf limit log).probe fragments).2 := by
  rw [cacheOf, requests_asked, replay_append_singleton]
  rfl

theorem cacheOf_returned :
    cacheOf limit (.answered fragments (.ok p) view :: log) =
      ((cacheOf limit log).offer fragments p.template).2 := by
  rw [cacheOf, requests_returned, replay_append_singleton]
  rfl

theorem holds_cacheOf (limit : Limit) (log : List Event) :
    Holds limit (firstOffers (requests log)) (cacheOf limit log) :=
  holds_replay limit (requests log)

end Log

/-- After a log a build from these fragments may return `p`: it has the template that the cache has
for them or, if it has none, a new one. -/
def Returns (limit : Limit) (log : List Event) (fragments : List Fragment) (p : Pattern) : Prop :=
  (cacheOf limit log).find? fragments = some p.template ∨
    (cacheOf limit log).find? fragments = none ∧
      ∀ e ∈ offers (requests log), e.2.tag < p.template.tag

/-- The logs that builds can leave, each view telling what it should. A build that returns what it
has found need not have compiled. One that has compiled returns at once. -/
inductive Lawful (limit : Limit) (warn : Bool) : List Event → Prop
  | nil : Lawful limit warn []
  | asked {log : List Event} (fragments : List Fragment) :
    Lawful limit warn log → Lawful limit warn (.asked fragments :: log)
  | seen {log : List Event} :
    Lawful limit warn log → Lawful limit warn (.seen (viewOf limit warn log) :: log)
  | failed {log : List Event} (fragments : List Fragment) (e : Stop PatternError) :
    Lawful limit warn log →
      Lawful limit warn (.answered fragments (.error e) (viewOf limit warn log) :: log)
  | found {log : List Event} {fragments : List Fragment} {p : Pattern} {view : View} :
    Lawful limit warn log → (cacheOf limit log).find? fragments = some p.template →
      view = viewOf limit warn (.answered fragments (.ok p) view :: log) →
        Lawful limit warn (.answered fragments (.ok p) view :: log)
  | compiled {log : List Event} {fragments : List Fragment} {p : Pattern} {view : View} :
    Lawful limit warn log → Returns limit log fragments p →
      view = viewOf limit warn (.answered fragments (.ok p) view :: log) →
        Lawful limit warn (.answered fragments (.ok p) view :: .compiled fragments :: log)

/-! ### All code leaves lawful logs -/

/-- The parts of a state are what its log, which is lawful, says they are. -/
structure Kept {μ : Type} (limit : Limit) (warn : Bool) (s : State μ) : Prop where
  cache_eq : s.cache = cacheOf limit s.log
  advice_eq : s.advice = adviceOf warn s.cache.unstable
  tag_lt : ∀ e ∈ offers (requests s.log), e.2.tag < s.nextTag
  lawful : Lawful limit warn s.log

/-- What becomes of a site: its log stays lawful, and it does not become stable again. -/
def GoesOn {μ : Type} (limit : Limit) (warn : Bool) (s s' : State μ) : Prop :=
  Kept limit warn s → Kept limit warn s' ∧ (s.cache.unstable = true → s'.cache.unstable = true)

section Kept

variable {μ : Type} {limit : Limit} {warn : Bool} {s s₁ : State μ} {fragments : List Fragment}
  {p : Pattern}

theorem view_eq_viewOf {log : List Event} (hcache : s.cache = cacheOf limit log)
    (hadvice : s.advice = adviceOf warn s.cache.unstable) : s.view = viewOf limit warn log := by
  rw [State.view, hadvice, hcache]
  rfl

theorem advise_eq (warn : Bool) (h : s.advice = []) :
    (if warn then s.advise unstableAdvice else s) = { s with advice := adviceOf warn true } := by
  obtain ⟨cache, nextTag, memory, advice, log⟩ := s
  change advice = [] at h
  subst h
  cases warn with
  | true => rfl
  | false => rfl

theorem kept_start (limit : Limit) (warn : Bool) (nextTag : Nat) (memory : μ) :
    Kept limit warn (State.start limit nextTag memory) where
  cache_eq := rfl
  advice_eq := rfl
  tag_lt e he := by cases he
  lawful := .nil

namespace GoesOn

theorem refl (limit : Limit) (warn : Bool) (s : State μ) : GoesOn limit warn s s :=
  fun h => ⟨h, id⟩

theorem trans (s₁ s₂ s₃ : State μ) (h : GoesOn limit warn s₁ s₂) (h' : GoesOn limit warn s₂ s₃) :
    GoesOn limit warn s₁ s₃ := by
  intro hkept
  obtain ⟨hkept₂, hunstable₂⟩ := h hkept
  obtain ⟨hkept₃, hunstable₃⟩ := h' hkept₂
  exact ⟨hkept₃, fun hunstable => hunstable₃ (hunstable₂ hunstable)⟩

end GoesOn

namespace Kept

theorem view_eq (h : Kept limit warn s) : s.view = viewOf limit warn s.log :=
  view_eq_viewOf h.cache_eq h.advice_eq

theorem holds (h : Kept limit warn s) : Holds limit (firstOffers (requests s.log)) s.cache :=
  h.cache_eq ▸ holds_cacheOf limit s.log

theorem tag_lt_of_found (h : Kept limit warn s) {t : Shared Template}
    (hfound : s.cache.find? fragments = some t) : t.tag < s.nextTag := by
  obtain ⟨k, hmem, -⟩ := find?_eq_some hfound
  exact h.tag_lt (k, t) (firstOffers_subset _ (h.holds.entries_subset hmem))

theorem find?_eq_none (h : Kept limit warn s) (hunstable : s.cache.unstable = true) :
    s.cache.find? fragments = none := by
  rw [SiteCache.find?, h.holds.entries_of_unstable hunstable]
  rfl

theorem asked (h : Kept limit warn s) (fragments : List Fragment) :
    Kept limit warn
      { s with cache := (s.cache.probe fragments).2, log := .asked fragments :: s.log } where
  cache_eq := by rw [cacheOf_asked, ← h.cache_eq]
  advice_eq := by
    rw [probe_unstable]
    exact h.advice_eq
  tag_lt := by
    rw [requests_asked, offers_append, offers_probe, List.append_nil]
    exact h.tag_lt
  lawful := h.lawful.asked fragments

theorem seen (h : Kept limit warn s) : Kept limit warn (s.record (.seen s.view)) where
  cache_eq := h.cache_eq
  advice_eq := h.advice_eq
  tag_lt := h.tag_lt
  lawful := h.view_eq ▸ h.lawful.seen

theorem failed (h : Kept limit warn s) (e : Stop PatternError) :
    Kept limit warn (s.recordAnswer fragments (.error e)) where
  cache_eq := h.cache_eq
  advice_eq := h.advice_eq
  tag_lt := h.tag_lt
  lawful := by
    have hlog : (s.recordAnswer fragments (.error e)).log =
        .answered fragments (.error e) s.view :: s.log := rfl
    rw [hlog, h.view_eq]
    exact h.lawful.failed fragments e

/-- A build returns in `s₁`, after its last code has left `s`. -/
theorem returned (h : Kept limit warn s) (hrequests : requests s₁.log = requests s.log)
    (hcache : s₁.cache = (s.cache.offer fragments p.template).2)
    (hadvice : s₁.advice = adviceOf warn s₁.cache.unstable) (hnext : s.nextTag ≤ s₁.nextTag)
    (htag : p.template.tag < s₁.nextTag)
    (hlawful : ∀ view, view = viewOf limit warn (.answered fragments (.ok p) view :: s₁.log) →
      Lawful limit warn (.answered fragments (.ok p) view :: s₁.log)) :
    Kept limit warn (s₁.recordAnswer fragments (.ok p)) := by
  have hcacheOf (view : View) :
      s₁.cache = cacheOf limit (.answered fragments (.ok p) view :: s₁.log) := by
    rw [cacheOf_returned, cacheOf, hrequests, hcache, h.cache_eq]
    rfl
  refine ⟨hcacheOf _, hadvice, ?_, hlawful _ (view_eq_viewOf (hcacheOf _) hadvice)⟩
  change ∀ e ∈ offers (requests (.answered fragments (.ok p) s₁.view :: s₁.log)), _
  intro e he
  rw [requests_returned, offers_append, hrequests] at he
  rcases List.mem_append.1 he with hold | hnew
  · exact Nat.lt_of_lt_of_le (h.tag_lt e hold) hnext
  · obtain rfl : e = (fragments, p.template) := by simpa using hnew
    exact htag

/-- A build returns what it has found. -/
theorem found (h : Kept limit warn s) (hstable : s.cache.unstable = false)
    (hfound : s.cache.find? fragments = some p.template) :
    Kept limit warn (s.recordAnswer fragments (.ok p)) := by
  have hcache : s.cache = (s.cache.offer fragments p.template).2 := by
    rw [offer_of_found hstable hfound]
  refine h.returned rfl hcache h.advice_eq (Nat.le_refl _) (h.tag_lt_of_found hfound) ?_
  intro view hview
  exact .found h.lawful (h.cache_eq ▸ hfound) hview

/-- A build that has compiled returns the template that came first, or a new one. -/
theorem compiled (h : Kept limit warn s) (hlog : s₁.log = .compiled fragments :: s.log)
    (hcache : s₁.cache = (s.cache.offer fragments p.template).2)
    (hadvice : s₁.advice = adviceOf warn s₁.cache.unstable) (hnext : s₁.nextTag = s.nextTag + 1)
    (htemplate : s.cache.find? fragments = some p.template ∨
      s.cache.find? fragments = none ∧ p.template.tag = s.nextTag) :
    Kept limit warn (s₁.recordAnswer fragments (.ok p)) := by
  have htag : p.template.tag < s₁.nextTag := by
    rcases htemplate with hfound | ⟨-, hnew⟩
    · have := h.tag_lt_of_found hfound
      omega
    · omega
  refine h.returned (by rw [hlog, requests_compiled]) hcache hadvice (by omega) htag ?_
  rw [hlog]
  intro view hview
  refine .compiled h.lawful ?_ hview
  rw [Returns, ← h.cache_eq]
  rcases htemplate with hfound | ⟨hnone, hnew⟩
  · exact .inl hfound
  · exact .inr ⟨hnone, hnew ▸ h.tag_lt⟩

end Kept

variable {ς : Type} {P : Program ς μ} {run : Program.Runner ς μ}

/-- Whatever the cache makes of a new template, the build returns. -/
theorem Kept.offered (h : Kept limit P.warnUnstable s) (fragments : List Fragment) (t : Template) :
    ∃ p s₁, (P.site run fragments).offer fragments ⟨t, s.nextTag⟩ (s.recordCompiled fragments) =
        .ok p s₁ ∧
      Kept limit P.warnUnstable (s₁.recordAnswer fragments (.ok p)) ∧
      (s.cache.unstable = true → s₁.cache.unstable = true) := by
  let new : Shared Template := ⟨t, s.nextTag⟩
  cases hunstable : s.cache.unstable with
  | true =>
    -- A build inside the compiler was one too many.
    have hoffer : s.cache.offer fragments new = (.rejected, s.cache) := offer_of_unstable hunstable
    refine ⟨_, _, Site.offer_of_rejected hoffer, ?_, fun _ => hunstable⟩
    exact h.compiled rfl (congrArg Prod.snd hoffer).symm h.advice_eq rfl
      (.inr ⟨h.find?_eq_none hunstable, rfl⟩)
  | false =>
    cases hfound : s.cache.find? fragments with
    | some earlier =>
      -- A build inside the compiler got there first.
      have hoffer (value : Shared Template) :
          s.cache.offer fragments value = (.existing earlier, s.cache) :=
        offer_of_found hunstable hfound
      refine ⟨_, _, Site.offer_of_existing (hoffer new), ?_,
        fun hthen => absurd hthen Bool.false_ne_true⟩
      exact h.compiled rfl (congrArg Prod.snd (hoffer earlier)).symm h.advice_eq rfl (.inl hfound)
    | none =>
      by_cases hroom : s.cache.length < s.cache.limit.size
      · have hoffer : s.cache.offer fragments new = _ := offer_of_room hunstable hfound hroom
        refine ⟨_, _, Site.offer_of_stored hoffer, ?_, fun hthen => absurd hthen Bool.false_ne_true⟩
        exact h.compiled rfl (congrArg Prod.snd hoffer).symm h.advice_eq rfl (.inr ⟨hfound, rfl⟩)
      · have hoffer : s.cache.offer fragments new = _ := offer_of_full hunstable hfound hroom
        have hadvice : s.advice = [] := by
          rw [h.advice_eq, hunstable]
          rfl
        let left : State μ := { s.recordCompiled fragments with
          cache := { s.cache with unstable := true, entries := [] } }
        have hleft := advise_eq P.warnUnstable (show left.advice = [] from hadvice)
        refine ⟨_, _, (Site.offer_of_becameUnstable hoffer).trans (congrArg _ hleft), ?_,
          fun hthen => absurd hthen Bool.false_ne_true⟩
        exact h.compiled rfl (congrArg Prod.snd hoffer).symm rfl rfl (.inr ⟨hfound, rfl⟩)

theorem Kept.recompiled (h : Kept limit P.warnUnstable s) (hunstable : s.cache.unstable = true)
    (fragments : List Fragment) (t : Template) :
    Kept limit P.warnUnstable ((s.recordCompiled fragments).recordAnswer fragments
      (.ok (.ofTemplate ⟨t, s.nextTag⟩))) := by
  refine h.compiled rfl ?_ h.advice_eq rfl (.inr ⟨h.find?_eq_none hunstable, rfl⟩)
  rw [offer_of_unstable hunstable]
  rfl

namespace Program

/-- One build, whatever happens while it compiles. -/
theorem goesOn_build
    (hrun : ∀ {α : Type} (code : BuildingCode ς μ α),
      Act.Within (GoesOn limit P.warnUnstable) (run code))
    (fragments : List Fragment) :
    Act.Within (GoesOn limit P.warnUnstable) (P.build run fragments) := by
  intro s h
  let probed : State μ :=
    { s with cache := (s.cache.probe fragments).2, log := .asked fragments :: s.log }
  have hprobed : Kept limit P.warnUnstable probed := h.asked fragments
  have hcompile := P.compileNew_cases (GoesOn.refl limit P.warnUnstable) hrun fragments probed
  have hstays : s.cache.unstable = true → probed.cache.unstable = true :=
    (probe_unstable s.cache fragments).trans
  cases hunstable : s.cache.unstable with
  | true =>
    -- The site is still unstable when the compiler is done, so an offer would have changed nothing.
    have hprobe : (s.cache.probe fragments).1 = .unstable := by rw [probe_of_unstable hunstable]
    have hbuild : (P.site run fragments).build fragments (s.record (.asked fragments)) =
        ((P.site run fragments).compileNew fragments >>=
          fun template => pure (.ofTemplate template)) probed := Site.build_of_unstable hprobe
    rcases hcompile with ⟨e, s', hend, hgoes⟩ | ⟨t, s', hend, hgoes⟩
    · obtain ⟨hkept, hthen⟩ := hgoes hprobed
      rw [after_build_of_error (hbuild.trans (Act.bind_of_error hend))]
      exact ⟨hkept.failed e, fun _ => hthen (hstays hunstable)⟩
    · obtain ⟨hkept, hthen⟩ := hgoes hprobed
      rw [after_build_of_ok (hbuild.trans (Act.bind_of_ok hend))]
      exact ⟨hkept.recompiled (hthen (hstays hunstable)) fragments t,
        fun _ => hthen (hstays hunstable)⟩
  | false =>
    cases hfound : s.cache.find? fragments with
    | some found =>
      have hprobe : (s.cache.probe fragments).1 = .hit found := by
        rw [probe_of_found hunstable hfound]
      rw [after_build_of_ok (Site.build_of_hit hprobe)]
      have hstable : probed.cache.unstable = false :=
        (probe_unstable s.cache fragments).trans hunstable
      have hstill : probed.cache.find? fragments = some found := by
        rw [← hfound, SiteCache.find?, SiteCache.find?, probe_entries]
      exact ⟨hprobed.found hstable hstill, fun hthen => absurd hthen Bool.false_ne_true⟩
    | none =>
      have hprobe : (s.cache.probe fragments).1 = .miss := by
        rw [probe_of_not_found hunstable hfound]
      have hbuild : (P.site run fragments).build fragments (s.record (.asked fragments)) =
          ((P.site run fragments).compileNew fragments >>=
            (P.site run fragments).offer fragments) probed := Site.build_of_miss hprobe
      rcases hcompile with ⟨e, s', hend, hgoes⟩ | ⟨t, s', hend, hgoes⟩
      · rw [after_build_of_error (hbuild.trans (Act.bind_of_error hend))]
        exact ⟨(hgoes hprobed).1.failed e, fun hthen => absurd hthen Bool.false_ne_true⟩
      · obtain ⟨p, s₁, hoffer, hkept, -⟩ := (hgoes hprobed).1.offered fragments t
        rw [after_build_of_ok (hbuild.trans ((Act.bind_of_ok hend).trans hoffer))]
        exact ⟨hkept, fun hthen => absurd hthen Bool.false_ne_true⟩

theorem goesOn_perform
    (hrun : ∀ {α : Type} (code : BuildingCode ς μ α),
      Act.Within (GoesOn limit P.warnUnstable) (run code))
    (c : Call ς μ) : Act.Within (GoesOn limit P.warnUnstable) (P.perform run c) := by
  cases c with
  | look => exact fun s h => ⟨h.seen, id⟩
  | keep memory => exact fun s h => ⟨⟨h.cache_eq, h.advice_eq, h.tag_lt, h.lawful⟩, id⟩
  | tag =>
    exact fun s h => ⟨⟨h.cache_eq, h.advice_eq,
      fun e he => Nat.lt_succ_of_lt (h.tag_lt e he), h.lawful⟩, id⟩
  | build fragments => exact goesOn_build hrun fragments
  | buildFrom sources =>
    have hsources : Act.Within (GoesOn limit P.warnUnstable)
        (sources.mapM fun source => run (P.evaluate source)) :=
      .mapM (GoesOn.refl limit P.warnUnstable) GoesOn.trans (fun _ => hrun _) sources
    exact hsources.bind GoesOn.trans (goesOn_build hrun)

theorem goesOn_exec (P : Program ς μ) (limit : Limit) (fuel : Nat) {α : Type}
    (code : BuildingCode ς μ α) :
    Act.Within (GoesOn limit P.warnUnstable) (P.exec fuel code) :=
  Code.within_exec (GoesOn.refl limit P.warnUnstable) GoesOn.trans
    (fun _ _ hrun => goesOn_perform hrun) fuel code

end Program

end Kept

/-! ### What lawful logs say -/

section Lawful

variable {limit : Limit} {warn : Bool} {log : List Event} {fragments : List Fragment} {p : Pattern}

theorem stable_of_find? {t : Shared Template}
    (hfound : (cacheOf limit log).find? fragments = some t) :
    (cacheOf limit log).unstable = false := by
  cases hunstable : (cacheOf limit log).unstable with
  | false => rfl
  | true =>
    rw [SiteCache.find?, (holds_cacheOf limit log).entries_of_unstable hunstable] at hfound
    cases hfound

/-- What a cache finds, it was offered first. -/
theorem firstOffers_of_find? {t : Shared Template}
    (hfound : (cacheOf limit log).find? fragments = some t) :
    ∃ k, (k, t) ∈ firstOffers (requests log) ∧ CacheKey.contentEq k fragments = true := by
  obtain ⟨k, hmem, hkey⟩ := among_of_find?_eq_some hfound
  exact ⟨k, (holds_cacheOf limit log).entries_subset hmem, hkey⟩

/-- What a stable cache does not find, it was not offered. -/
theorem not_among_of_find? (hstable : (cacheOf limit log).unstable = false)
    (hnone : (cacheOf limit log).find? fragments = none) :
    ¬ Among fragments (firstOffers (requests log)) := by
  rw [← (holds_cacheOf limit log).entries_of_stable hstable]
  exact find?_eq_none_iff_not_among.1 hnone

namespace Returns

/-- The first offers after a build has returned. -/
theorem firstOffers_eq (h : Returns limit log fragments p) :
    firstOffers (requests log ++ [.offer fragments p.template]) = firstOffers (requests log) ∨
      (∀ e ∈ offers (requests log), e.2.tag < p.template.tag) ∧
        firstOffers (requests log ++ [.offer fragments p.template]) =
          firstOffers (requests log) ++ [(fragments, p.template)] := by
  by_cases hknown : Among fragments (firstOffers (requests log))
  · exact .inl (firstOffers_of_among hknown)
  · rcases h with hfound | ⟨-, hnew⟩
    · obtain ⟨k, hmem, hkey⟩ := firstOffers_of_find? hfound
      exact absurd ⟨_, hmem, hkey⟩ hknown
    · exact .inr ⟨hnew, firstOffers_of_not_among hknown⟩

end Returns

end Lawful

end Building
end CallSite
