import CallSite.Proofs.FirstKeys
import CallSite.Resolve.Resolver
import Mathlib.Data.Finset.Card

/-!
# What a memo counts

A memo is asked for a name and, if it has none of that text, offered its symbol at once. So what it
has counted after any names, and whether it has been given up, can be read off the names.
-/
namespace CallSite

theorem SiteCache.find?_probe {κ α : Type} [CacheKey κ] (c : SiteCache κ α) (key key' : κ) :
    (c.probe key).2.find? key' = c.find? key' := by
  rw [find?, probe_entries, find?]

namespace Tally

open SiteCache

/-- How many different texts the names have. -/
def distinct (names : List Name) : Nat := (names.map Name.text).toFinset.card

/-- What a memo makes of names, one after another. -/
def tally (memo : SiteCache Name Symbol) (names : List Name) : SiteCache Name Symbol :=
  names.foldl (fun memo name => (memoSymbol memo name).2) memo

/-- The answer to the offer of a name, if it comes to one. -/
def admission? (memo : SiteCache Name Symbol) (name : Name) : Option (Admission Symbol) :=
  match memo.probe name with
  | (.miss, memo) => some (memo.offer name name.symbol).1
  | _ => none

/-- What a memo with the given room has counted after the names. -/
structure Tallied (limit : Limit) (names : List Name) (memo : SiteCache Name Symbol) : Prop where
  disabled : memo.unstable = true ↔ limit.size < distinct names
  misses : memo.stats.misses = min (distinct names) (limit.size + 1)
  total : memo.stats.hits + memo.stats.misses + memo.stats.uncached = names.length
  stable : distinct names ≤ limit.size → memo.stats.uncached = 0
  /-- `name` is the one that is too many. -/
  uncached : ∀ earlier name later, names = earlier ++ name :: later →
    distinct earlier ≤ limit.size → limit.size < distinct (earlier ++ [name]) →
      memo.stats.uncached = later.length
  overflow : limit.size < distinct names → ∃ earlier name later,
    names = earlier ++ name :: later ∧ distinct earlier ≤ limit.size ∧
      limit.size < distinct (earlier ++ [name])

/-! ### Names as requests -/

section Requests

variable {names : List Name} {name : Name}

/-- The requests that a memo gets for names. -/
def requests (names : List Name) : List (CacheRequest Name Symbol) :=
  names.flatMap fun name => [.probe name, .offer name name.symbol]

theorem requests_append_singleton (names : List Name) (name : Name) :
    requests (names ++ [name]) =
      (requests names ++ [.probe name]) ++ [.offer name name.symbol] := by
  simp [requests]

theorem countP_requests (names : List Name) :
    (requests names).countP CacheRequest.isProbe = names.length := by
  induction names with
  | nil => rfl
  | cons name names ih =>
    rw [requests, List.flatMap_cons, List.countP_append, List.length_cons, Nat.add_comm]
    exact congrArg (· + 1) ih

theorem offers_requests (names : List Name) :
    offers (requests names) = names.map fun name => (name, name.symbol) := by
  induction names with
  | nil => rfl
  | cons name names ih => exact congrArg ((name, name.symbol) :: ·) ih

/-- Offering a name after a hit, or to a memo that has been given up, would change nothing. -/
theorem memoSymbol_eq_replay (memo : SiteCache Name Symbol) (name : Name) :
    (memoSymbol memo name).2 = memo.replay [.probe name, .offer name name.symbol] := by
  change _ = ((memo.probe name).2.offer name name.symbol).2
  have hprobed := probe_unstable memo name
  have hfind := find?_probe memo name name
  cases hunstable : memo.unstable with
  | true =>
    rw [offer_of_unstable (hprobed.trans hunstable), memoSymbol, probe_of_unstable hunstable]
  | false =>
    cases hfound : memo.find? name with
    | some found =>
      rw [offer_of_found (hprobed.trans hunstable) (hfind.trans hfound), memoSymbol,
        probe_of_found hunstable hfound]
    | none =>
      rw [memoSymbol, probe_of_not_found hunstable hfound]
      dsimp only
      split
      · next heq => rw [heq]
      · next heq => rw [heq]

theorem tally_eq_replay (memo : SiteCache Name Symbol) (names : List Name) :
    tally memo names = memo.replay (requests names) := by
  induction names generalizing memo with
  | nil => rfl
  | cons name names ih =>
    rw [tally, List.foldl_cons, memoSymbol_eq_replay]
    exact ih _

theorem tally_append (memo : SiteCache Name Symbol) (names names' : List Name) :
    tally memo (names ++ names') = tally (tally memo names) names' := List.foldl_append

/-- Only a name that has not been kept is offered, and only as long as names are kept. -/
theorem admission?_eq_some {memo : SiteCache Name Symbol} {a : Admission Symbol}
    (h : admission? memo name = some a) : a = .stored ∨ a = .becameUnstable := by
  have hprobed := probe_unstable memo name
  have hfind := find?_probe memo name name
  cases hunstable : memo.unstable with
  | true => simp [admission?, probe_of_unstable hunstable] at h
  | false =>
    cases hfound : memo.find? name with
    | some found => simp [admission?, probe_of_found hunstable hfound] at h
    | none =>
      have hoffered : ((memo.probe name).2.offer name name.symbol).1 = a := by
        rw [probe_of_not_found hunstable hfound]
        rw [admission?, probe_of_not_found hunstable hfound] at h
        exact Option.some.inj h
      rw [← hoffered]
      by_cases hroom : (memo.probe name).2.length < (memo.probe name).2.limit.size
      · rw [offer_of_room (hprobed.trans hunstable) (hfind.trans hfound) hroom]
        exact .inl rfl
      · rw [offer_of_full (hprobed.trans hunstable) (hfind.trans hfound) hroom]
        exact .inr rfl

end Requests
/-! ### Different texts -/

section Distinct

variable {names : List Name} {name : Name}

theorem distinct_of_mem (h : name.text ∈ names.map Name.text) :
    distinct (names ++ [name]) = distinct names := by
  have hmem : name.text ∈ (names.map Name.text).toFinset := List.mem_toFinset.2 h
  rw [distinct, List.map_append, List.toFinset_append, Finset.union_comm]
  exact congrArg Finset.card (Finset.insert_eq_of_mem hmem)

theorem distinct_of_notMem (h : name.text ∉ names.map Name.text) :
    distinct (names ++ [name]) = distinct names + 1 := by
  have hnotMem : name.text ∉ (names.map Name.text).toFinset := mt List.mem_toFinset.1 h
  rw [distinct, List.map_append, List.toFinset_append, Finset.union_comm]
  exact Finset.card_insert_of_notMem hnotMem

theorem distinct_le_append_singleton (names : List Name) (name : Name) :
    distinct names ≤ distinct (names ++ [name]) := by
  by_cases h : name.text ∈ names.map Name.text
  · rw [distinct_of_mem h]
  · rw [distinct_of_notMem h]
    omega

theorem among_requests_iff :
    Among name (firstOffers (requests names)) ↔ name.text ∈ names.map Name.text := by
  rw [among_firstOffers_iff, Offered, offers_requests]
  simp [Among, CacheKey.contentEq]

theorem length_firstOffers_requests (names : List Name) :
    (firstOffers (requests names)).length = distinct names := by
  induction names using List.reverseRecOn with
  | nil => rfl
  | append_singleton names name ih =>
    rw [requests_append_singleton]
    by_cases h : name.text ∈ names.map Name.text
    · rw [firstOffers_of_among, firstOffers_probe, ih, distinct_of_mem h]
      rw [firstOffers_probe]
      exact among_requests_iff.2 h
    · rw [firstOffers_of_not_among, firstOffers_probe, List.length_append, ih, distinct_of_notMem h,
        List.length_singleton]
      rw [firstOffers_probe]
      exact mt among_requests_iff.1 h

end Distinct

/-! ### One more name -/

section Names

variable {limit : Limit} {names : List Name}

theorem holds_tally (limit : Limit) (names : List Name) :
    Holds limit (firstOffers (requests names)) (tally { limit } names) := by
  rw [tally_eq_replay]
  exact holds_replay limit (requests names)

theorem unstable_tally_iff :
    (tally { limit } names).unstable = true ↔ limit.size < distinct names := by
  rw [(holds_tally limit names).unstable_iff, length_firstOffers_requests]

/-- A name is counted as a hit if there is room and its text is known, as a miss if there is room
and it is not, and as uncached from then on. -/
theorem stats_tally_append_singleton (limit : Limit) (names : List Name) (name : Name) :
    let before := (tally { limit } names).stats
    let after := (tally { limit } (names ++ [name])).stats
    (distinct names ≤ limit.size ∧ name.text ∈ names.map Name.text ∧
        after = { before with hits := before.hits + 1 }) ∨
      (distinct names ≤ limit.size ∧ name.text ∉ names.map Name.text ∧
        after = { before with misses := before.misses + 1 }) ∨
      (limit.size < distinct names ∧ after = { before with uncached := before.uncached + 1 }) := by
  intro before after
  let memo : SiteCache Name Symbol := tally { limit } names
  obtain ⟨hdue, -, hstats⟩ := probe_of_holds (holds_tally limit names) name
  have hafter : after = before.count (.probed (memo.probe name).1) := by
    rw [← hstats]
    change (tally { limit } (names ++ [name])).stats = _
    rw [tally_append]
    change (memoSymbol memo name).2.stats = _
    rw [memoSymbol_eq_replay]
    exact offer_stats _ _ _
  rw [hafter]
  generalize (memo.probe name).1 = answer at hdue
  cases hdue with
  | hit hroom hmem hkey =>
    rw [length_firstOffers_requests] at hroom
    exact .inl ⟨hroom, among_requests_iff.1 ⟨_, hmem, hkey⟩, rfl⟩
  | miss hroom hnew =>
    rw [length_firstOffers_requests] at hroom
    exact .inr (.inl ⟨hroom, mt among_requests_iff.2 hnew, rfl⟩)
  | unstable hfull =>
    rw [length_firstOffers_requests] at hfull
    exact .inr (.inr ⟨hfull, rfl⟩)

/-! ### All names -/

theorem misses_tally (limit : Limit) (names : List Name) :
    (tally { limit } names).stats.misses = min (distinct names) (limit.size + 1) := by
  induction names using List.reverseRecOn with
  | nil => rfl
  | append_singleton names name ih =>
    rcases stats_tally_append_singleton limit names name with
      ⟨hroom, hknown, hstats⟩ | ⟨hroom, hnew, hstats⟩ | ⟨hfull, hstats⟩
    · rw [hstats, distinct_of_mem hknown]
      exact ih
    · rw [hstats, distinct_of_notMem hnew]
      dsimp only
      omega
    · have hle := distinct_le_append_singleton names name
      rw [hstats]
      dsimp only
      omega

theorem total_tally (limit : Limit) (names : List Name) :
    (tally { limit } names).stats.total = names.length := by
  rw [tally_eq_replay, total_replay, countP_requests]
  exact Nat.zero_add _

/-- A memo counts nothing as uncached before it is given up, nor when that happens. -/
theorem uncached_tally_append_singleton {name : Name} (h : distinct names ≤ limit.size) :
    (tally { limit } (names ++ [name])).stats.uncached =
      (tally { limit } names).stats.uncached := by
  rcases stats_tally_append_singleton limit names name with
    ⟨-, -, hstats⟩ | ⟨-, -, hstats⟩ | ⟨hfull, -⟩
  · rw [hstats]
  · rw [hstats]
  · omega

theorem uncached_tally_of_room (h : distinct names ≤ limit.size) :
    (tally { limit } names).stats.uncached = 0 := by
  induction names using List.reverseRecOn with
  | nil => rfl
  | append_singleton names name ih =>
    have hroom := (distinct_le_append_singleton names name).trans h
    rw [uncached_tally_append_singleton hroom, ih hroom]

/-- Behind the name that is too many, every name is counted as uncached. -/
theorem uncached_tally_of_overflow {earlier later : List Name} {name : Name}
    (hroom : distinct earlier ≤ limit.size) (hfull : limit.size < distinct (earlier ++ [name])) :
    (tally { limit } (earlier ++ name :: later)).stats.uncached = later.length := by
  have hzero : (tally { limit } (earlier ++ [name])).stats.uncached = 0 := by
    rw [uncached_tally_append_singleton hroom, uncached_tally_of_room hroom]
  have hunstable := unstable_tally_iff.2 hfull
  rw [List.append_cons, tally_append, tally_eq_replay _ later, replay_of_unstable hunstable,
    countP_requests, hzero, Nat.zero_add]

theorem exists_overflow (h : limit.size < distinct names) : ∃ earlier name later,
    names = earlier ++ name :: later ∧ distinct earlier ≤ limit.size ∧
      limit.size < distinct (earlier ++ [name]) := by
  induction names using List.reverseRecOn with
  | nil => exact absurd h (Nat.not_lt_zero _)
  | append_singleton names name ih =>
    by_cases hroom : distinct names ≤ limit.size
    · exact ⟨names, name, [], rfl, hroom, h⟩
    · obtain ⟨earlier, surplus, later, rfl, hearlier, hsurplus⟩ := ih (Nat.lt_of_not_le hroom)
      exact ⟨earlier, surplus, later ++ [name], by simp, hearlier, hsurplus⟩

theorem tallied_tally (limit : Limit) (names : List Name) :
    Tallied limit names (tally { limit } names) where
  disabled := unstable_tally_iff
  misses := misses_tally limit names
  total := total_tally limit names
  stable := uncached_tally_of_room
  uncached := by
    rintro earlier name later rfl hroom hfull
    exact uncached_tally_of_overflow hroom hfull
  overflow := exists_overflow

end Names

end Tally
end CallSite
