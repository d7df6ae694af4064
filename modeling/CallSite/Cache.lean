/-!
# Call-site caches

A call site keeps the results for at most `limit` different keys. A key beyond the limit
makes the site unstable: it drops its entries and computes every later request anew. A
site never becomes stable again.
-/
namespace CallSite

/-- Two ways to compare keys: `sameIdentity` is cheap and may miss equal keys, `contentEq`
compares what they hold. Either one makes keys match. -/
class CacheKey (κ : Type) where
  sameIdentity : κ → κ → Bool
  contentEq : κ → κ → Bool

def CacheKey.matching {κ : Type} [CacheKey κ] (a b : κ) : Bool :=
  sameIdentity a b || contentEq a b

/-- A number of entries; there is always room for one. -/
structure Limit where
  size : Nat
  pos : 0 < size := by decide
  deriving Repr, DecidableEq

def Limit.ofNat? (n : Nat) : Option Limit :=
  if h : 0 < n then some ⟨n, h⟩ else none

theorem Limit.ofNat?_eq_some_iff {n : Nat} {limit : Limit} :
    Limit.ofNat? n = some limit ↔ limit.size = n := by
  obtain ⟨size, hsize⟩ := limit
  by_cases hn : 0 < n
  · simp [ofNat?, hn, @eq_comm _ n]
  · have hne : size ≠ n := by omega
    simp [ofNat?, hn, hne]

/-- Requests answered from an entry, requests that found none while the site was stable,
and requests made after that. -/
structure SiteStats where
  hits : Nat := 0
  misses : Nat := 0
  uncached : Nat := 0
  deriving Repr, DecidableEq

def SiteStats.total (stats : SiteStats) : Nat := stats.hits + stats.misses + stats.uncached

inductive Probe (α : Type) where
  | hit (value : α)
  | miss
  | unstable
  deriving Repr, DecidableEq

/-- The answer to an offered result. `existing` carries the value that a matching key
already has; with `becameUnstable` the offered key was one too many. -/
inductive Admission (α : Type) where
  | stored
  | existing (value : α)
  | becameUnstable
  | rejected
  deriving Repr, DecidableEq

structure SiteCache (κ α : Type) where
  limit : Limit
  entries : List (κ × α) := []
  unstable : Bool := false
  stats : SiteStats := {}
  deriving Repr, DecidableEq

namespace SiteCache

variable {κ α : Type} [CacheKey κ]

def length (c : SiteCache κ α) : Nat := c.entries.length

/-- The value of the earliest entry whose key matches. -/
def find? (c : SiteCache κ α) (key : κ) : Option α :=
  (c.entries.find? fun e => CacheKey.matching e.1 key).map Prod.snd

/-- Looks a key up and counts the outcome. -/
def probe (c : SiteCache κ α) (key : κ) : Probe α × SiteCache κ α :=
  if c.unstable then
    (.unstable, { c with stats := { c.stats with uncached := c.stats.uncached + 1 } })
  else
    match c.find? key with
    | some value => (.hit value, { c with stats := { c.stats with hits := c.stats.hits + 1 } })
    | none => (.miss, { c with stats := { c.stats with misses := c.stats.misses + 1 } })

/-- Offers the result computed for a key after a miss. -/
def offer (c : SiteCache κ α) (key : κ) (value : α) : Admission α × SiteCache κ α :=
  if c.unstable then (.rejected, c)
  else
    match c.find? key with
    | some existing => (.existing existing, c)
    | none =>
      if c.length < c.limit.size then
        (.stored, { c with entries := c.entries ++ [(key, value)] })
      else (.becameUnstable, { c with unstable := true, entries := [] })

theorem find?_eq_some {c : SiteCache κ α} {key : κ} {value : α} (h : c.find? key = some value) :
    ∃ k, (k, value) ∈ c.entries ∧ CacheKey.matching k key = true := by
  obtain ⟨⟨k, v⟩, hfound, rfl⟩ := Option.map_eq_some_iff.1 h
  have hmatching := List.find?_some hfound
  exact ⟨k, List.mem_of_find?_eq_some hfound, hmatching⟩

theorem find?_eq_none_iff {c : SiteCache κ α} {key : κ} :
    c.find? key = none ↔ ∀ e ∈ c.entries, CacheKey.matching e.1 key = false := by
  simp [find?, List.find?_eq_none]

section Cases

variable {c : SiteCache κ α} {key : κ} {value found : α}

theorem probe_of_unstable (h : c.unstable = true) :
    c.probe key =
      (.unstable, { c with stats := { c.stats with uncached := c.stats.uncached + 1 } }) := by
  rw [probe, if_pos h]

theorem probe_of_found (h : c.unstable = false) (hfound : c.find? key = some found) :
    c.probe key = (.hit found, { c with stats := { c.stats with hits := c.stats.hits + 1 } }) := by
  simp [probe, h, hfound]

theorem probe_of_not_found (h : c.unstable = false) (hfound : c.find? key = none) :
    c.probe key = (.miss, { c with stats := { c.stats with misses := c.stats.misses + 1 } }) := by
  simp [probe, h, hfound]

theorem offer_of_unstable (h : c.unstable = true) : c.offer key value = (.rejected, c) := by
  rw [offer, if_pos h]

theorem offer_of_found (h : c.unstable = false) (hfound : c.find? key = some found) :
    c.offer key value = (.existing found, c) := by
  simp [offer, h, hfound]

theorem offer_of_room (h : c.unstable = false) (hfound : c.find? key = none)
    (hroom : c.length < c.limit.size) :
    c.offer key value = (.stored, { c with entries := c.entries ++ [(key, value)] }) := by
  simp [offer, h, hfound, hroom]

theorem offer_of_full (h : c.unstable = false) (hfound : c.find? key = none)
    (hfull : ¬ c.length < c.limit.size) :
    c.offer key value = (.becameUnstable, { c with unstable := true, entries := [] }) := by
  simp [offer, h, hfound, hfull]

end Cases

theorem probe_eq_hit {c : SiteCache κ α} {key : κ} {value : α}
    (h : (c.probe key).1 = .hit value) :
    ∃ k, (k, value) ∈ c.entries ∧ CacheKey.matching k key = true := by
  apply find?_eq_some
  unfold probe at h
  split at h
  · cases h
  · split at h
    · next hfound =>
      cases h
      exact hfound
    · cases h

theorem offer_eq_existing {c : SiteCache κ α} {key : κ} {value existing : α}
    (h : (c.offer key value).1 = .existing existing) :
    ∃ k, (k, existing) ∈ c.entries ∧ CacheKey.matching k key = true := by
  apply find?_eq_some
  unfold offer at h
  split at h
  · cases h
  · split at h
    · next hfound =>
      cases h
      exact hfound
    · split at h <;> cases h

/-- What a cache holds after an offer, it held before, or it was offered. -/
theorem mem_entries_offer {c : SiteCache κ α} {key : κ} {value : α} {e : κ × α}
    (h : e ∈ (c.offer key value).2.entries) : e ∈ c.entries ∨ e = (key, value) := by
  unfold offer at h
  split at h
  · exact .inl h
  · split at h
    · exact .inl h
    · split at h
      · simpa using h
      · simp at h

@[simp] theorem probe_entries (c : SiteCache κ α) (key : κ) :
    (c.probe key).2.entries = c.entries := by
  unfold probe
  split
  · rfl
  · split <;> rfl

@[simp] theorem probe_unstable (c : SiteCache κ α) (key : κ) :
    (c.probe key).2.unstable = c.unstable := by
  unfold probe
  split
  · rfl
  · split <;> rfl

theorem total_probe (c : SiteCache κ α) (key : κ) :
    (c.probe key).2.stats.total = c.stats.total + 1 := by
  cases hunstable : c.unstable with
  | true =>
    simp only [probe_of_unstable hunstable, SiteStats.total]
    omega
  | false =>
    cases hfound : c.find? key with
    | some found =>
      simp only [probe_of_found hunstable hfound, SiteStats.total]
      omega
    | none =>
      simp only [probe_of_not_found hunstable hfound, SiteStats.total]
      omega

@[simp] theorem offer_stats (c : SiteCache κ α) (key : κ) (value : α) :
    (c.offer key value).2.stats = c.stats := by
  unfold offer
  split
  · rfl
  · split
    · rfl
    · split <;> rfl

end SiteCache
end CallSite
