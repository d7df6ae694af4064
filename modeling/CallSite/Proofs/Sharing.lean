import CallSite.Proofs.BuildLog

/-!
# Templates that builds share

Equal sequences of fragments share a template as long as their site is stable. The template of a
build that returns later than that is its own.
-/
namespace CallSite.Building

open Pattern SiteCache LawfulCacheKey

section Tags

variable {limit : Limit} {warn : Bool} {log : List Event} {fragments : List Fragment} {p : Pattern}

namespace Lawful

/-- No two entries share a tag: a new template is younger than all before it. -/
theorem nodup_tags (h : Lawful limit warn log) :
    ((firstOffers (requests log)).map fun e => e.2.tag).Nodup := by
  have hreturns {log : List Event} {fragments : List Fragment} {p : Pattern} {view : View}
      (ih : ((firstOffers (requests log)).map fun e => e.2.tag).Nodup)
      (hreturns : Returns limit log fragments p) :
      ((firstOffers (requests (.answered fragments (.ok p) view :: log))).map
        fun e => e.2.tag).Nodup := by
    rw [requests_returned]
    rcases hreturns.firstOffers_eq with hsame | ⟨hnew, hlonger⟩
    · rwa [hsame]
    · rw [hlonger, ← List.concat_eq_append, List.map_concat]
      refine ih.concat fun hmem => ?_
      obtain ⟨e, he, htag⟩ := List.mem_map.1 hmem
      exact Nat.ne_of_lt (hnew e (firstOffers_subset _ he)) htag
  induction h with
  | nil => exact List.nodup_nil
  | asked fragments _ ih => rwa [requests_asked, firstOffers_probe]
  | seen _ ih => exact ih
  | failed fragments e _ ih => exact ih
  | found _ hfound _ ih => exact hreturns ih (.inl hfound)
  | compiled _ hright _ ih => exact hreturns ih hright

/-- The first offers are told apart by their tags as they are by their fragments. -/
theorem tag_eq_iff (h : Lawful limit warn log) {k k' : List Fragment} {t t' : Shared Template}
    (hmem : (k, t) ∈ firstOffers (requests log)) (hmem' : (k', t') ∈ firstOffers (requests log)) :
    t.tag = t'.tag ↔ CacheKey.contentEq k k' = true := by
  constructor
  · intro htag
    have heq : (k, t) = (k', t') := List.inj_on_of_nodup_map h.nodup_tags hmem hmem' htag
    cases heq
    exact LawfulCacheKey.refl k
  · intro hkey
    have heq : (k, t) = (k', t') := List.inj_on_of_nodup_map (nodup_firstOffers (requests log))
      hmem hmem' (LawfulCacheKey.content_eq_iff.2 hkey)
    cases heq
    rfl

end Lawful

end Tags

/-- A build that has returned a pattern, and what its site told about itself then. -/
structure Built where
  fragments : List Fragment
  pattern : Pattern
  view : View

def Event.built? : Event → Option Built
  | .answered fragments (.ok p) view => some ⟨fragments, p, view⟩
  | _ => none

/-- The builds that returned a pattern, last first. -/
def builds (log : List Event) : List Built := log.filterMap Event.built?

/-- Two builds that returned from a stable site share a template if their fragments are equal one by
one, and only then. A build that returned from an unstable site shares its template with none. -/
structure SharesRight (a b : Built) : Prop where
  stable : a.view.unstable = false → b.view.unstable = false →
    (a.pattern.sharesTemplate b.pattern = true ↔
      List.Forall₂ Fragment.Alike a.fragments b.fragments)
  unstable : a.view.unstable = true ∨ b.view.unstable = true →
    a.pattern.sharesTemplate b.pattern = false

/-- What a log says about a build that it has. -/
structure Placed (limit : Limit) (log : List Event) (b : Built) : Prop where
  offered : (b.fragments, b.pattern.template) ∈ offers (requests log)
  stable : b.view.unstable = false →
    ∃ k, (k, b.pattern.template) ∈ firstOffers (requests log) ∧
      CacheKey.contentEq k b.fragments = true
  unstable : b.view.unstable = true → (cacheOf limit log).unstable = true

section Built

variable {limit : Limit} {warn : Bool} {log log' : List Event} {a b : Built}

theorem Placed.mono {later : List (CacheRequest (List Fragment) (Shared Template))}
    (h : Placed limit log b) (hlater : requests log' = requests log ++ later) :
    Placed limit log' b := by
  refine ⟨?_, fun hstable => ?_, fun hunstable => ?_⟩
  · rw [hlater, offers_append]
    exact List.mem_append_left _ h.offered
  · obtain ⟨k, hmem, hkey⟩ := h.stable hstable
    exact ⟨k, hlater ▸ (firstOffers_grow _ _).subset hmem, hkey⟩
  · rw [cacheOf_of_requests hlater, replay_of_unstable (h.unstable hunstable)]
    exact h.unstable hunstable

theorem Placed.congr (h : Placed limit log b) (hsame : requests log' = requests log) :
    Placed limit log' b := by
  have hlater : requests log' = requests log ++ [] := by rw [hsame, List.append_nil]
  exact h.mono hlater

/-- A build returns, and its site tells that it is stable. -/
theorem Returns.stable_before {fragments : List Fragment} {p : Pattern} {view : View}
    (hview : view = viewOf limit warn (.answered fragments (.ok p) view :: log))
    (hstable : view.unstable = false) : (cacheOf limit log).unstable = false := by
  cases hunstable : (cacheOf limit log).unstable with
  | false => rfl
  | true =>
    rw [hview, viewOf, cacheOf_returned, offer_of_unstable hunstable] at hstable
    exact absurd (hunstable.symm.trans hstable) (by decide)

theorem Returns.placed {fragments : List Fragment} {p : Pattern} {view : View}
    (h : Returns limit log fragments p)
    (hview : view = viewOf limit warn (.answered fragments (.ok p) view :: log)) :
    Placed limit (.answered fragments (.ok p) view :: log) ⟨fragments, p, view⟩ := by
  refine ⟨?_, fun hstable => ?_, fun hunstable => ?_⟩
  · rw [requests_returned, offers_append, offers_offer]
    exact List.mem_append_right _ (List.mem_singleton_self _)
  · rw [requests_returned]
    rcases h with hfound | ⟨hnone, -⟩
    · obtain ⟨k, hmem, hkey⟩ := firstOffers_of_find? hfound
      exact ⟨k, (firstOffers_grow _ _).subset hmem, hkey⟩
    · refine ⟨fragments, ?_, LawfulCacheKey.refl fragments⟩
      rw [firstOffers_of_not_among (not_among_of_find? (stable_before hview hstable) hnone)]
      exact List.mem_append_right _ (List.mem_singleton_self _)
  · change view.unstable = true at hunstable
    rw [hview] at hunstable
    exact hunstable

theorem sharesTemplate_iff {p q : Pattern} :
    p.sharesTemplate q = true ↔ p.template.tag = q.template.tag := by
  simp [Pattern.sharesTemplate]

/-- A build that returns shares its template rightly with all builds that returned before it. -/
theorem Returns.sharesRight {fragments : List Fragment} {p : Pattern} {view : View}
    (hlawful : Lawful limit warn log) (h : Returns limit log fragments p)
    (hview : view = viewOf limit warn (.answered fragments (.ok p) view :: log))
    (ha : Placed limit log a) : SharesRight ⟨fragments, p, view⟩ a := by
  rcases h with hfound | ⟨hnone, hnew⟩
  · have hstable := stable_of_find? hfound
    obtain ⟨k, hmem, hkey⟩ := firstOffers_of_find? hfound
    refine ⟨fun _ hstable' => ?_, fun hunstable => ?_⟩
    · obtain ⟨k', hmem', hkey'⟩ := ha.stable hstable'
      rw [← content_eq_iff] at hkey hkey'
      rw [sharesTemplate_iff, hlawful.tag_eq_iff hmem hmem', ← Fragment.contentEq_iff_alike,
        ← content_eq_iff, ← content_eq_iff, hkey, hkey']
    · -- The site has not become unstable before or through this build.
      exfalso
      rcases hunstable with hnow | hbefore
      · change view.unstable = true at hnow
        rw [hview, viewOf, cacheOf_returned, offer_of_found hstable hfound] at hnow
        exact Bool.false_ne_true (hstable.symm.trans hnow)
      · exact Bool.false_ne_true (hstable.symm.trans (ha.unstable hbefore))
  · have hother : p.sharesTemplate a.pattern = false := by
      rw [← Bool.not_eq_true, sharesTemplate_iff]
      exact Nat.ne_of_gt (hnew _ ha.offered)
    refine ⟨fun hstable hstable' => ?_, fun _ => hother⟩
    obtain ⟨k, hmem, hkey⟩ := ha.stable hstable'
    have hnever := not_among_of_find? (stable_before hview hstable) hnone
    rw [← Fragment.contentEq_iff_alike]
    constructor
    · intro hshares
      exact absurd (hshares.symm.trans hother) (by decide)
    · intro hequal
      exact absurd ⟨_, hmem, LawfulCacheKey.trans hkey (LawfulCacheKey.symm hequal)⟩ hnever

namespace Lawful

theorem placed (h : Lawful limit warn log) : ∀ b ∈ builds log, Placed limit log b := by
  induction h with
  | nil => exact fun b hb => nomatch hb
  | asked fragments _ ih => exact fun b hb => (ih b hb).mono requests_asked
  | seen _ ih => exact fun b hb => (ih b hb).congr requests_seen
  | failed fragments e _ ih => exact fun b hb => (ih b hb).congr requests_failed
  | found _ hfound hview ih =>
    intro b hb
    rcases List.mem_cons.1 hb with rfl | hb
    · exact Returns.placed (.inl hfound) hview
    · exact (ih b hb).mono requests_returned
  | compiled _ hreturns hview ih =>
    intro b hb
    rcases List.mem_cons.1 hb with rfl | hb
    · exact (hreturns.placed hview).congr rfl
    · exact (ih b hb).mono requests_returned

theorem pairwise_sharesRight (h : Lawful limit warn log) : (builds log).Pairwise SharesRight := by
  induction h with
  | nil => exact .nil
  | asked fragments _ ih => exact ih
  | seen _ ih => exact ih
  | failed fragments e _ ih => exact ih
  | found hlawful hfound hview ih =>
    have hreturns : Returns _ _ _ _ := .inl hfound
    exact .cons (fun a ha => hreturns.sharesRight hlawful hview (hlawful.placed a ha)) ih
  | compiled hlawful hreturns hview ih =>
    exact .cons (fun a ha => hreturns.sharesRight hlawful hview (hlawful.placed a ha)) ih

end Lawful

end Built

/-- However builds are nested and wherever they fail, a site shares templates between equal
sequences of fragments only, and between all of them as long as it is stable. -/
theorem templates_shared_rightly {ς μ α : Type} (P : Program ς μ) (limit : Limit) (nextTag : Nat)
    (memory : μ) (fuel : Nat) (code : BuildingCode ς μ α) :
    (builds ((P.exec fuel code).after (State.start limit nextTag memory)).log).Pairwise
      SharesRight := by
  have hgoes := P.goesOn_exec limit fuel code (State.start limit nextTag memory)
  exact (hgoes (kept_start limit P.warnUnstable nextTag memory)).1.lawful.pairwise_sharesRight

/-- A site whose compiler builds from the same fragments before it compiles them, the first time
that it is asked to. -/
def nesting (fragments : List Fragment) : Program Unit Bool where
  options := {}
  warnUnstable := true
  compile source _ :=
    let compiled : Compiled := ⟨⟨fun _ _ => none, ""⟩, source⟩
    .call .look fun
      | .ok (_, true) =>
        .call (.keep false) fun _ => .call (.build fragments) fun _ => .done compiled
      | _ => .done compiled
  evaluate _ := .done ⟨⟨[], 0⟩, .utf8⟩

/-- The inner build is stored, and the outer one returns its template. -/
example :
    let fragments : List Fragment := [⟨⟨[0x61], 0⟩, .utf8⟩]
    let s := ((nesting fragments).exec 3 (.call (.build fragments) fun _ => .done ())).after
      (State.start ⟨1, by decide⟩ 1 true)
    s.nextTag = 3 ∧ (builds s.log).map (fun b => b.pattern.template.tag) = [1, 1] := by
  decide +kernel

end CallSite.Building
