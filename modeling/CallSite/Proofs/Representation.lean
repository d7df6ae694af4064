import CallSite.Proofs.FirstKeys

/-!
# What a cache holds, however keys compare

Nothing is asked here of the two ways to compare keys. A key may match another without being matched
by it, keys that are the same may differ in content, and two keys that a third one matches need not
match each other. So the entries are no map. They are the offers that were stored, in order, no
earlier one of which matches a later one, until one offer is too many.
-/
namespace CallSite

/-! ### Entries -/

section Entries

variable {κ α : Type} [CacheKey κ]

def Unmatched (key : κ) (entries : List (κ × α)) : Prop :=
  ∀ e ∈ entries, CacheKey.matching e.1 key = false

/-- The value belongs to the earliest of the entries whose keys match. -/
def EarliestMatch (key : κ) (value : α) (entries : List (κ × α)) : Prop :=
  ∃ before k after, entries = before ++ (k, value) :: after ∧
    CacheKey.matching k key = true ∧ Unmatched key before

theorem SiteCache.find?_eq_some_iff {c : SiteCache κ α} {key : κ} {value : α} :
    c.find? key = some value ↔ EarliestMatch key value c.entries := by
  rw [find?, Option.map_eq_some_iff]
  constructor
  · rintro ⟨⟨k, value⟩, hfound, rfl⟩
    obtain ⟨hmatching, before, after, hentries, hbefore⟩ := List.find?_eq_some_iff_append.1 hfound
    exact ⟨before, k, after, hentries, hmatching, fun e he => by simpa using hbefore e he⟩
  · rintro ⟨before, k, after, hentries, hmatching, hbefore⟩
    refine ⟨(k, value), ?_, rfl⟩
    rw [List.find?_eq_some_iff_append]
    exact ⟨hmatching, before, after, hentries, fun e he => by simpa using hbefore e he⟩

end Entries

namespace SiteCache

variable {κ α : Type} [CacheKey κ]

/-! ### One request -/

/-- All that a request can do to a cache. -/
inductive Turn (c : SiteCache κ α) : CacheRequest κ α → CacheReply α → SiteCache κ α → Prop
  | hit {key : κ} {value : α} : c.unstable = false → EarliestMatch key value c.entries →
    Turn c (.probe key) (.probed (.hit value))
      { c with stats := { c.stats with hits := c.stats.hits + 1 } }
  | miss {key : κ} : c.unstable = false → Unmatched key c.entries →
    Turn c (.probe key) (.probed .miss)
      { c with stats := { c.stats with misses := c.stats.misses + 1 } }
  | unstable {key : κ} : c.unstable = true →
    Turn c (.probe key) (.probed .unstable)
      { c with stats := { c.stats with uncached := c.stats.uncached + 1 } }
  | stored {key : κ} {value : α} : c.unstable = false → Unmatched key c.entries →
    c.length < c.limit.size →
    Turn c (.offer key value) (.admitted .stored) { c with entries := c.entries ++ [(key, value)] }
  | existing {key : κ} {value earlier : α} : c.unstable = false →
    EarliestMatch key earlier c.entries →
    Turn c (.offer key value) (.admitted (.existing earlier)) c
  | becameUnstable {key : κ} {value : α} : c.unstable = false → Unmatched key c.entries →
    c.length = c.limit.size →
    Turn c (.offer key value) (.admitted .becameUnstable)
      { c with unstable := true, entries := [] }
  | rejected {key : κ} {value : α} : c.unstable = true →
    Turn c (.offer key value) (.admitted .rejected) c

/-- What holds of a cache at all times. -/
structure Sound (c : SiteCache κ α) : Prop where
  fits : c.length ≤ c.limit.size
  apart : c.entries.Pairwise fun e later => CacheKey.matching e.1 later.1 = false
  dropped : c.unstable = true → c.entries = []

variable {c after : SiteCache κ α} {r : CacheRequest κ α} {reply : CacheReply α}

theorem turn_serve (h : Sound c) (r : CacheRequest κ α) : Turn c r (c.serve r).1 (c.serve r).2 := by
  cases r with
  | probe key =>
    rw [serve_probe]
    cases hunstable : c.unstable with
    | true =>
      rw [probe_of_unstable hunstable]
      exact .unstable hunstable
    | false =>
      cases hfound : c.find? key with
      | some found =>
        rw [probe_of_found hunstable hfound]
        exact .hit hunstable (find?_eq_some_iff.1 hfound)
      | none =>
        rw [probe_of_not_found hunstable hfound]
        exact .miss hunstable (find?_eq_none_iff.1 hfound)
  | offer key value =>
    rw [serve_offer]
    cases hunstable : c.unstable with
    | true =>
      rw [offer_of_unstable hunstable]
      exact .rejected hunstable
    | false =>
      cases hfound : c.find? key with
      | some found =>
        rw [offer_of_found hunstable hfound]
        exact .existing hunstable (find?_eq_some_iff.1 hfound)
      | none =>
        by_cases hroom : c.length < c.limit.size
        · rw [offer_of_room hunstable hfound hroom]
          exact .stored hunstable (find?_eq_none_iff.1 hfound) hroom
        · rw [offer_of_full hunstable hfound hroom]
          -- No cache is ever beyond its limit, so this one is at it.
          have hfull := Nat.le_antisymm h.fits (Nat.le_of_not_lt hroom)
          exact .becameUnstable hunstable (find?_eq_none_iff.1 hfound) hfull

theorem Turn.sound (h : Turn c r reply after) (hc : Sound c) : Sound after := by
  cases h with
  | hit => exact ⟨hc.fits, hc.apart, hc.dropped⟩
  | miss => exact ⟨hc.fits, hc.apart, hc.dropped⟩
  | unstable => exact ⟨hc.fits, hc.apart, hc.dropped⟩
  | existing => exact hc
  | rejected => exact hc
  | becameUnstable => exact ⟨Nat.zero_le _, List.Pairwise.nil, fun _ => rfl⟩
  | @stored key value hstable hnew hroom =>
    refine ⟨?_, ?_, fun hunstable => absurd (hstable.symm.trans hunstable) Bool.false_ne_true⟩
    · rw [length, List.length_append, List.length_singleton]
      exact hroom
    · rw [List.pairwise_append]
      refine ⟨hc.apart, List.pairwise_singleton _ _, fun e he later hlater => ?_⟩
      rw [List.mem_singleton.1 hlater]
      exact hnew e he

theorem Turn.limit_eq (h : Turn c r reply after) : after.limit = c.limit := by
  cases h <;> rfl

end SiteCache

/-! ### Sequences of requests -/

/-- What a request adds to the entries, by the reply. -/
def CacheReply.stored? {κ α : Type} (r : CacheRequest κ α) : CacheReply α → Option (κ × α)
  | .admitted .stored => r.offered?
  | _ => none

namespace SiteCache

section Runs

variable {κ α : Type} [CacheKey κ] {c : SiteCache κ α}

/-- The offers that are answered by storing them, in order. -/
def storedOffers (c : SiteCache κ α) (requests : List (CacheRequest κ α)) : List (κ × α) :=
  (requests.zip (c.history requests)).filterMap fun e => e.2.1.stored? e.1

theorem storedOffers_append (requests requests' : List (CacheRequest κ α)) :
    c.storedOffers (requests ++ requests') =
      c.storedOffers requests ++ (c.replay requests).storedOffers requests' := by
  rw [storedOffers, history_append, List.zip_append (length_history requests).symm,
    List.filterMap_append]
  rfl

theorem storedOffers_append_singleton (requests : List (CacheRequest κ α))
    (r : CacheRequest κ α) :
    c.storedOffers (requests ++ [r]) =
      c.storedOffers requests ++ (((c.replay requests).serve r).1.stored? r).toList := by
  have hone (d : SiteCache κ α) : d.storedOffers [r] = ((d.serve r).1.stored? r).toList := by
    change List.filterMap _ [(r, d.serve r)] = _
    rw [List.filterMap_cons, List.filterMap_nil]
    rfl
  rw [storedOffers_append, hone]

theorem sound_new (limit : Limit) : Sound ({ limit } : SiteCache κ α) :=
  ⟨Nat.zero_le _, List.Pairwise.nil, fun _ => rfl⟩

theorem sound_replay (h : Sound c) (requests : List (CacheRequest κ α)) :
    Sound (c.replay requests) := by
  induction requests using List.reverseRecOn with
  | nil => exact h
  | append_singleton requests r ih =>
    rw [replay_append_singleton]
    exact (turn_serve ih r).sound ih

theorem turn_replay (h : Sound c) (requests : List (CacheRequest κ α)) (r : CacheRequest κ α) :
    Turn (c.replay requests) r ((c.replay requests).serve r).1 (c.replay (requests ++ [r])) := by
  rw [replay_append_singleton]
  exact turn_serve (sound_replay h requests) r

theorem limit_replay (h : Sound c) (requests : List (CacheRequest κ α)) :
    (c.replay requests).limit = c.limit := by
  induction requests using List.reverseRecOn with
  | nil => rfl
  | append_singleton requests r ih => rw [(turn_replay h requests r).limit_eq, ih]

theorem Turn.entries_eq {after : SiteCache κ α} {r : CacheRequest κ α} {reply : CacheReply α}
    {stored : List (κ × α)} (h : Turn c r reply after)
    (hc : c.entries = if c.unstable then [] else stored) :
    after.entries = if after.unstable then [] else stored ++ (reply.stored? r).toList := by
  cases h with
  | stored hstable =>
    rw [hstable, if_neg Bool.false_ne_true] at hc
    simp [CacheReply.stored?, CacheRequest.offered?, hc, hstable]
  | becameUnstable => rfl
  -- The others change no entry.
  | hit => simp [CacheReply.stored?, hc]
  | miss => simp [CacheReply.stored?, hc]
  | unstable => simp [CacheReply.stored?, hc]
  | existing => simp [CacheReply.stored?, hc]
  | rejected => simp [CacheReply.stored?, hc]

theorem entries_replay (limit : Limit) (requests : List (CacheRequest κ α)) :
    let c := ({ limit } : SiteCache κ α)
    (c.replay requests).entries =
      if (c.replay requests).unstable then [] else c.storedOffers requests := by
  intro c
  induction requests using List.reverseRecOn with
  | nil => rfl
  | append_singleton requests r ih =>
    rw [storedOffers_append_singleton]
    exact (turn_replay (sound_new limit) requests r).entries_eq ih

theorem unstable_of_earlier {earlier later : List (CacheRequest κ α)}
    (h : (c.replay earlier).unstable = true) : (c.replay (earlier ++ later)).unstable = true := by
  rw [replay_append, replay_of_unstable h]
  exact h

theorem entries_grow {limit : Limit} {earlier later : List (CacheRequest κ α)} :
    let c := ({ limit } : SiteCache κ α)
    (c.replay (earlier ++ later)).unstable = false →
      (c.replay earlier).entries <+: (c.replay (earlier ++ later)).entries := by
  intro c hlater
  have hearlier : (c.replay earlier).unstable = false := by
    rw [← Bool.not_eq_true]
    intro hunstable
    exact Bool.false_ne_true (hlater.symm.trans (unstable_of_earlier hunstable))
  rw [entries_replay, entries_replay, hlater, hearlier, if_neg Bool.false_ne_true,
    if_neg Bool.false_ne_true, storedOffers_append]
  exact List.prefix_append _ _

/-- What a cache is like after a sequence of requests, and how it came to be so. -/
structure KeepsRepresentation (c : SiteCache κ α) (requests : List (CacheRequest κ α)) :
    Prop where
  limit_eq : (c.replay requests).limit = c.limit
  sound : Sound (c.replay requests)
  entries_eq : (c.replay requests).entries =
    if (c.replay requests).unstable then [] else c.storedOffers requests
  /-- What was held at an earlier time is still held in its place, as long as nothing is dropped. -/
  grows : ∀ earlier later, requests = earlier ++ later → (c.replay requests).unstable = false →
    (c.replay earlier).entries <+: (c.replay requests).entries
  stays_unstable : ∀ earlier later, requests = earlier ++ later →
    (c.replay earlier).unstable = true → (c.replay requests).unstable = true
  overflows : (c.history requests).countP (fun e => e.1.overflows) =
    if (c.replay requests).unstable then 1 else 0
  turns : ∀ earlier r later, requests = earlier ++ r :: later → ∃ reply after,
    (c.history requests)[earlier.length]? = some (reply, after) ∧
      Turn (c.replay earlier) r reply after

/-- However keys compare, the entries fit, none matches a later one, and they are the offers that
were stored, in order, until all are dropped at the only overflow. A value that is found belongs to
the earliest entry whose key matches, and only an offer that is stored or overflows changes the
entries. -/
theorem representation_kept (limit : Limit) (requests : List (CacheRequest κ α)) :
    KeepsRepresentation ({ limit } : SiteCache κ α) requests where
  limit_eq := limit_replay (sound_new limit) requests
  sound := sound_replay (sound_new limit) requests
  entries_eq := entries_replay limit requests
  grows := by
    rintro earlier later rfl
    exact entries_grow
  stays_unstable := by
    rintro earlier later rfl
    exact unstable_of_earlier
  overflows := countP_overflows_history rfl requests
  turns := by
    rintro earlier r later rfl
    exact ⟨_, _, getElem?_history earlier later r,
      turn_serve (sound_replay (sound_new limit) earlier) r⟩

end Runs

/-- The keys `a` and `b` are the same and differ in content, and `c` has the content of `b`. So `a`
is found for `b`, and `c` is stored beside it. -/
example :
    let a : LooseKey := ⟨0, "A"⟩
    let b : LooseKey := ⟨0, "B"⟩
    let c : LooseKey := ⟨1, "B"⟩
    let d : LooseKey := ⟨2, "D"⟩
    (({ limit := ⟨2, by decide⟩ } : SiteCache LooseKey Nat).history
        [.offer a 1, .offer b 2, .offer c 3, .probe b, .offer d 4, .probe c]).map Prod.fst =
      [.admitted .stored, .admitted (.existing 1), .admitted .stored, .probed (.hit 1),
        .admitted .becameUnstable, .probed .unstable] := by
  decide

end SiteCache
end CallSite
