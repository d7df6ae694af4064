import CallSite.Cache.History
import CallSite.Pattern.Fragment
import CallSite.Symbol
import Mathlib.Data.List.Induction
import Mathlib.Data.List.Nodup
import Mathlib.Data.List.Perm.Subperm
import Mathlib.Data.Quot

/-!
# Caches keep the first keys or nothing

As long as the different keys that were offered fit into a cache, it holds each of them with the
value it was first offered with. Once they do not, it holds nothing. When a key is asked for, and
when or how often one is offered again, makes no difference to that.
-/
namespace CallSite

/-! ### Keys -/

/-- Equality of content is an equivalence, and keys that are the same have equal content. -/
class LawfulCacheKey (κ : Type) [CacheKey κ] : Prop where
  contentEq_of_same : ∀ {a b : κ}, CacheKey.sameIdentity a b = true → CacheKey.contentEq a b = true
  refl : ∀ a : κ, CacheKey.contentEq a a = true
  symm : ∀ {a b : κ}, CacheKey.contentEq a b = true → CacheKey.contentEq b a = true
  trans : ∀ {a b c : κ}, CacheKey.contentEq a b = true → CacheKey.contentEq b c = true →
    CacheKey.contentEq a c = true

instance : LawfulCacheKey Name where
  contentEq_of_same h := by
    simp only [CacheKey.contentEq, Name.text, Shared.content_eq_of_same h, beq_self_eq_true]
  refl a := by simp [CacheKey.contentEq]
  symm h := beq_iff_eq.2 (beq_iff_eq.1 h).symm
  trans h h' := beq_iff_eq.2 ((beq_iff_eq.1 h).trans (beq_iff_eq.1 h'))

namespace Pattern.Fragment

/-- What fragments are equal by. -/
def text (f : Fragment) : Bytes × Encoding := (f.bytes, f.encoding)

theorem equal_iff {a b : Fragment} : a.equal b = true ↔ a.text = b.text := by
  simp [equal, text]

theorem equal_of_same {a b : Fragment} (h : a.same b = true) : a.equal b = true := by
  simp only [same, equal, Bool.and_eq_true, beq_iff_eq] at h ⊢
  exact ⟨Shared.content_eq_of_same h.1, h.2⟩

theorem pairwise_mono {test test' : Fragment → Fragment → Bool}
    (htest : ∀ {a b}, test a b = true → test' a b = true) {as bs : List Fragment}
    (h : pairwise test as bs = true) : pairwise test' as bs = true := by
  induction as generalizing bs with
  | nil =>
    cases bs with
    | nil => rfl
    | cons b bs => simp [pairwise] at h
  | cons a as ih =>
    cases bs with
    | nil => simp [pairwise] at h
    | cons b bs =>
      simp only [pairwise, Bool.and_eq_true] at h ⊢
      exact ⟨htest h.1, ih h.2⟩

theorem contentEq_iff {as bs : List Fragment} :
    CacheKey.contentEq as bs = true ↔ as.map text = bs.map text := by
  change pairwise equal as bs = true ↔ _
  induction as generalizing bs with
  | nil =>
    cases bs with
    | nil => simp [pairwise]
    | cons b bs => simp [pairwise]
  | cons a as ih =>
    cases bs with
    | nil => simp [pairwise]
    | cons b bs => simp [pairwise, equal_iff, ih]

instance : LawfulCacheKey (List Fragment) where
  contentEq_of_same h := pairwise_mono equal_of_same h
  refl _ := contentEq_iff.2 rfl
  symm h := contentEq_iff.2 (contentEq_iff.1 h).symm
  trans h h' := contentEq_iff.2 ((contentEq_iff.1 h).trans (contentEq_iff.1 h'))

end Pattern.Fragment

namespace LawfulCacheKey

variable {κ : Type} [CacheKey κ] [LawfulCacheKey κ] {a b : κ}

/-- Comparing identities first changes no answer. -/
theorem matching_eq (a b : κ) : CacheKey.matching a b = CacheKey.contentEq a b := by
  rw [CacheKey.matching]
  cases hsame : CacheKey.sameIdentity a b with
  | false => rfl
  | true => rw [contentEq_of_same hsame, Bool.true_or]

theorem equivalence : Equivalence fun a b : κ => CacheKey.contentEq a b = true :=
  ⟨refl, symm, trans⟩

/-- What a key holds, up to equality of content. -/
def content (a : κ) : Quot fun a b : κ => CacheKey.contentEq a b = true := Quot.mk _ a

theorem content_eq_iff : content a = content b ↔ CacheKey.contentEq a b = true :=
  equivalence.quot_mk_eq_iff a b

end LawfulCacheKey

/-! ### What has been offered -/

namespace CacheRequest

variable {κ α : Type}

def offered? : CacheRequest κ α → Option (κ × α)
  | probe _ => none
  | offer key value => some (key, value)

end CacheRequest

def offers {κ α : Type} (requests : List (CacheRequest κ α)) : List (κ × α) :=
  requests.filterMap CacheRequest.offered?

theorem offers_append {κ α : Type} (requests requests' : List (CacheRequest κ α)) :
    offers (requests ++ requests') = offers requests ++ offers requests' := List.filterMap_append

@[simp] theorem offers_probe {κ α : Type} (key : κ) :
    offers ([.probe key] : List (CacheRequest κ α)) = [] := rfl

@[simp] theorem offers_offer {κ α : Type} (key : κ) (value : α) :
    offers [.offer key value] = [(key, value)] := rfl

section Offers

variable {κ α : Type} [CacheKey κ]

/-- The offers without those whose keys had been offered before. -/
def firstOffers (requests : List (CacheRequest κ α)) : List (κ × α) :=
  (offers requests).eraseDupsBy fun e earlier => CacheKey.contentEq earlier.1 e.1

/-- One of the entries has the key. -/
def Among (key : κ) (entries : List (κ × α)) : Prop :=
  ∃ e ∈ entries, CacheKey.contentEq e.1 key = true

/-- The key is among those that are offered. -/
def Offered (key : κ) (requests : List (CacheRequest κ α)) : Prop := Among key (offers requests)

theorem Offered.append {key : κ} {requests : List (CacheRequest κ α)} (h : Offered key requests)
    (requests' : List (CacheRequest κ α)) : Offered key (requests ++ requests') := by
  obtain ⟨e, he, hkey⟩ := h
  refine ⟨e, ?_, hkey⟩
  rw [offers_append]
  exact List.mem_append_left _ he

theorem eraseDupsBy_append_singleton {β : Type} (r : β → β → Bool) (bs : List β) (b : β) :
    (bs ++ [b]).eraseDupsBy r =
      if (bs.eraseDupsBy r).any (r b) then bs.eraseDupsBy r else bs.eraseDupsBy r ++ [b] := by
  have hloop (seen : List β) : List.eraseDupsBy.loop r (bs ++ [b]) seen =
      if (List.eraseDupsBy.loop r bs seen).any (r b) then List.eraseDupsBy.loop r bs seen
      else List.eraseDupsBy.loop r bs seen ++ [b] := by
    induction bs generalizing seen with
    | nil =>
      cases hb : seen.any (r b) with
      | true => simp [List.eraseDupsBy.loop, hb]
      | false => simp [List.eraseDupsBy.loop, hb]
    | cons c bs ih =>
      cases hc : seen.any (r c) with
      | true => simp [List.eraseDupsBy.loop, hc, ih]
      | false => simp [List.eraseDupsBy.loop, hc, ih]
  exact hloop []

variable {requests : List (CacheRequest κ α)} {key : κ} {value : α}

@[simp] theorem firstOffers_nil : firstOffers ([] : List (CacheRequest κ α)) = [] := rfl

theorem firstOffers_probe :
    firstOffers (requests ++ [.probe key]) = firstOffers requests := by
  rw [firstOffers, offers_append, offers_probe, List.append_nil, firstOffers]

theorem firstOffers_offer :
    firstOffers (requests ++ [.offer key value]) =
      if (firstOffers requests).any fun e => CacheKey.contentEq e.1 key then firstOffers requests
      else firstOffers requests ++ [(key, value)] := by
  rw [firstOffers, offers_append, offers_offer, eraseDupsBy_append_singleton]
  rfl

theorem any_iff_among {entries : List (κ × α)} :
    entries.any (fun e => CacheKey.contentEq e.1 key) = true ↔ Among key entries := by
  simp [Among]

theorem firstOffers_of_among (h : Among key (firstOffers requests)) :
    firstOffers (requests ++ [.offer key value]) = firstOffers requests := by
  rw [firstOffers_offer, if_pos (any_iff_among.2 h)]

theorem firstOffers_of_not_among (h : ¬ Among key (firstOffers requests)) :
    firstOffers (requests ++ [.offer key value]) = firstOffers requests ++ [(key, value)] := by
  rw [firstOffers_offer, if_neg (mt any_iff_among.1 h)]

/-- One more request adds nothing, unless it offers a new key. -/
theorem firstOffers_append_singleton (requests : List (CacheRequest κ α)) (r : CacheRequest κ α) :
    firstOffers (requests ++ [r]) = firstOffers requests ∨
      ∃ key value, r = .offer key value ∧ ¬ Among key (firstOffers requests) ∧
        firstOffers (requests ++ [r]) = firstOffers requests ++ [(key, value)] := by
  cases r with
  | probe key => exact .inl firstOffers_probe
  | offer key value =>
    by_cases hknown : Among key (firstOffers requests)
    · exact .inl (firstOffers_of_among hknown)
    · exact .inr ⟨key, value, rfl, hknown, firstOffers_of_not_among hknown⟩

theorem firstOffers_grow (requests requests' : List (CacheRequest κ α)) :
    firstOffers requests <+: firstOffers (requests ++ requests') := by
  induction requests' using List.reverseRecOn with
  | nil => simp
  | append_singleton requests' r ih =>
    rw [← List.append_assoc]
    rcases firstOffers_append_singleton (requests ++ requests') r with
      hsame | ⟨key, value, -, -, hnew⟩
    · rwa [hsame]
    · rw [hnew]
      exact ih.trans (List.prefix_append _ _)

theorem firstOffers_subset (requests : List (CacheRequest κ α)) :
    firstOffers requests ⊆ offers requests := by
  induction requests using List.reverseRecOn with
  | nil => simp
  | append_singleton requests r ih =>
    have hold := List.subset_append_of_subset_left (offers [r]) ih
    rw [offers_append]
    rcases firstOffers_append_singleton requests r with hsame | ⟨key, value, rfl, -, hnew⟩
    · rwa [hsame]
    · rw [hnew]
      exact List.append_subset.2 ⟨hold, List.subset_append_right _ _⟩

end Offers

section Distinct

variable {κ α : Type} [CacheKey κ] [LawfulCacheKey κ] {requests : List (CacheRequest κ α)}

open LawfulCacheKey

theorem among_iff_mem {key : κ} {entries : List (κ × α)} :
    Among key entries ↔ content key ∈ entries.map fun e => content e.1 := by
  simp only [Among, List.mem_map, content_eq_iff]

/-- No key is kept twice. -/
theorem nodup_firstOffers (requests : List (CacheRequest κ α)) :
    ((firstOffers requests).map fun e => content e.1).Nodup := by
  induction requests using List.reverseRecOn with
  | nil => exact List.nodup_nil
  | append_singleton requests r ih =>
    rcases firstOffers_append_singleton requests r with hsame | ⟨key, value, -, hunknown, hnew⟩
    · rwa [hsame]
    · rw [hnew, ← List.concat_eq_append, List.map_concat]
      exact ih.concat (mt among_iff_mem.2 hunknown)

/-- No key is missed. -/
theorem among_firstOffers_iff {key : κ} :
    Among key (firstOffers requests) ↔ Offered key requests := by
  constructor
  · rintro ⟨e, he, hkey⟩
    exact ⟨e, firstOffers_subset requests he, hkey⟩
  · intro h
    induction requests using List.reverseRecOn with
    | nil => exact h
    | append_singleton requests r ih =>
      obtain ⟨e, he, hkey⟩ := h
      rw [offers_append, List.mem_append] at he
      rcases he with hold | hnew
      · obtain ⟨e', he', hkey'⟩ := ih ⟨e, hold, hkey⟩
        exact ⟨e', (firstOffers_grow requests [r]).subset he', hkey'⟩
      · cases r with
        | probe k => cases hnew
        | offer k value =>
          obtain rfl : e = (k, value) := by simpa using hnew
          by_cases hknown : Among k (firstOffers requests)
          · rw [firstOffers_of_among hknown]
            obtain ⟨e', he', hkey'⟩ := hknown
            exact ⟨e', he', LawfulCacheKey.trans hkey' hkey⟩
          · rw [firstOffers_of_not_among hknown]
            exact ⟨(k, value), List.mem_append_right _ (List.mem_singleton_self _), hkey⟩

theorem pairwise_firstOffers (requests : List (CacheRequest κ α)) :
    ((firstOffers requests).map Prod.fst).Pairwise fun a b => CacheKey.contentEq a b = false := by
  have hnodup := nodup_firstOffers requests
  rw [List.Nodup, List.pairwise_map] at hnodup
  rw [List.pairwise_map]
  exact hnodup.imp fun hne => Bool.eq_false_iff.2 (mt content_eq_iff.2 hne)

theorem lt_length_firstOffers_iff {n : Nat} :
    n < (firstOffers requests).length ↔
      ∃ keys : List κ, n < keys.length ∧
        keys.Pairwise (fun a b => CacheKey.contentEq a b = false) ∧
          ∀ key ∈ keys, Offered key requests := by
  constructor
  · intro h
    refine ⟨(firstOffers requests).map Prod.fst, by rwa [List.length_map],
      pairwise_firstOffers requests, ?_⟩
    intro key hkey
    obtain ⟨e, he, rfl⟩ := List.mem_map.1 hkey
    exact among_firstOffers_iff.1 ⟨e, he, LawfulCacheKey.refl e.1⟩
  · rintro ⟨keys, hlength, hdistinct, hoffered⟩
    have hnodup : (keys.map content).Nodup := by
      rw [List.Nodup, List.pairwise_map]
      exact hdistinct.imp fun hne => mt content_eq_iff.1 (Bool.eq_false_iff.1 hne)
    have hsubset : keys.map content ⊆ (firstOffers requests).map fun e => content e.1 := by
      intro c hc
      obtain ⟨key, hkey, rfl⟩ := List.mem_map.1 hc
      exact among_iff_mem.1 (among_firstOffers_iff.2 (hoffered key hkey))
    have hle := (hnodup.subperm hsubset).length_le
    rw [List.length_map, List.length_map] at hle
    exact Nat.lt_of_lt_of_le hlength hle

theorem length_firstOffers_congr {requests' : List (CacheRequest κ α)}
    (h : ∀ key, Offered key requests ↔ Offered key requests') :
    (firstOffers requests).length = (firstOffers requests').length := by
  have hiff (n : Nat) :
      n < (firstOffers requests).length ↔ n < (firstOffers requests').length := by
    simp only [lt_length_firstOffers_iff, h]
  have hthis := hiff (firstOffers requests).length
  have hother := hiff (firstOffers requests').length
  omega

end Distinct

/-! ### What a cache makes of requests -/

/-- The statistics after one more reply. -/
def SiteStats.count {α : Type} (stats : SiteStats) : CacheReply α → SiteStats
  | .probed (.hit _) => { stats with hits := stats.hits + 1 }
  | .probed .miss => { stats with misses := stats.misses + 1 }
  | .probed .unstable => { stats with uncached := stats.uncached + 1 }
  | .admitted _ => stats

/-- The offer was one too many. -/
def CacheReply.overflows {α : Type} : CacheReply α → Bool
  | .admitted .becameUnstable => true
  | _ => false

section Replies

variable {κ α : Type}

/-- The cache holds the first offers if there is room for them, and nothing if there is not. -/
structure Holds (limit : Limit) (firsts : List (κ × α)) (c : SiteCache κ α) : Prop where
  limit_eq : c.limit = limit
  stable : firsts.length ≤ limit.size → c.unstable = false ∧ c.entries = firsts
  unstable : limit.size < firsts.length → c.unstable = true ∧ c.entries = []

theorem Holds.unstable_iff {limit : Limit} {firsts : List (κ × α)} {c : SiteCache κ α}
    (h : Holds limit firsts c) : c.unstable = true ↔ limit.size < firsts.length := by
  constructor
  · intro hunstable
    by_contra hroom
    have hstable := (h.stable (Nat.le_of_not_lt hroom)).1
    exact Bool.false_ne_true (hstable.symm.trans hunstable)
  · intro hfull
    exact (h.unstable hfull).1

theorem Holds.entries_of_unstable {limit : Limit} {firsts : List (κ × α)} {c : SiteCache κ α}
    (h : Holds limit firsts c) (hunstable : c.unstable = true) : c.entries = [] :=
  (h.unstable (h.unstable_iff.1 hunstable)).2

theorem Holds.entries_of_stable {limit : Limit} {firsts : List (κ × α)} {c : SiteCache κ α}
    (h : Holds limit firsts c) (hstable : c.unstable = false) : c.entries = firsts := by
  by_cases hroom : firsts.length ≤ limit.size
  · exact (h.stable hroom).2
  · have hunstable := (h.unstable (Nat.lt_of_not_le hroom)).1
    exact absurd (hstable.symm.trans hunstable) Bool.false_ne_true

theorem Holds.entries_subset {limit : Limit} {firsts : List (κ × α)} {c : SiteCache κ α}
    (h : Holds limit firsts c) : c.entries ⊆ firsts := by
  by_cases hroom : firsts.length ≤ limit.size
  · rw [(h.stable hroom).2]
    exact List.Subset.refl firsts
  · rw [(h.unstable (Nat.lt_of_not_le hroom)).2]
    exact List.nil_subset firsts

variable [CacheKey κ]

/-- The reply to a request when `firsts` are the first offers so far. -/
inductive Due (limit : Limit) (firsts : List (κ × α)) : CacheRequest κ α → CacheReply α → Prop
  | hit {k key : κ} {value : α} : firsts.length ≤ limit.size → (k, value) ∈ firsts →
    CacheKey.contentEq k key = true → Due limit firsts (.probe key) (.probed (.hit value))
  | miss {key : κ} : firsts.length ≤ limit.size → ¬ Among key firsts →
    Due limit firsts (.probe key) (.probed .miss)
  | unstable {key : κ} : limit.size < firsts.length →
    Due limit firsts (.probe key) (.probed .unstable)
  | stored {key : κ} {value : α} : firsts.length < limit.size → ¬ Among key firsts →
    Due limit firsts (.offer key value) (.admitted .stored)
  | existing {k key : κ} {value earlier : α} : firsts.length ≤ limit.size →
    (k, earlier) ∈ firsts → CacheKey.contentEq k key = true →
    Due limit firsts (.offer key value) (.admitted (.existing earlier))
  | becameUnstable {key : κ} {value : α} : firsts.length = limit.size → ¬ Among key firsts →
    Due limit firsts (.offer key value) (.admitted .becameUnstable)
  | rejected {key : κ} {value : α} : limit.size < firsts.length →
    Due limit firsts (.offer key value) (.admitted .rejected)

end Replies

namespace SiteCache

/-- The reply that reports the overflow is the one to the request that makes the cache unstable. -/
theorem overflows_serve_iff {κ α : Type} [CacheKey κ] (c : SiteCache κ α) (r : CacheRequest κ α) :
    (c.serve r).1.overflows = true ↔ c.unstable = false ∧ (c.serve r).2.unstable = true := by
  cases r with
  | probe key => simp [CacheReply.overflows]
  | offer key value =>
    rw [serve_offer]
    cases hunstable : c.unstable with
    | true => simp [offer_of_unstable hunstable, CacheReply.overflows]
    | false =>
      cases hfound : c.find? key with
      | some found => simp [offer_of_found hunstable hfound, CacheReply.overflows, hunstable]
      | none =>
        by_cases hroom : c.length < c.limit.size
        · simp [offer_of_room hunstable hfound hroom, CacheReply.overflows, hunstable]
        · simp [offer_of_full hunstable hfound hroom, CacheReply.overflows]

/-- A cache is given up once, whatever is asked of it. -/
theorem countP_overflows_history {κ α : Type} [CacheKey κ] {c : SiteCache κ α}
    (h : c.unstable = false) (requests : List (CacheRequest κ α)) :
    (c.history requests).countP (fun e => e.1.overflows) =
      if (c.replay requests).unstable then 1 else 0 := by
  induction requests using List.reverseRecOn with
  | nil => simp [history, replay, h]
  | append_singleton requests r ih =>
    let before := c.replay requests
    have hstep := overflows_serve_iff before r
    rw [history_append_singleton, replay_append_singleton, List.countP_append, ih,
      List.countP_singleton]
    change (if before.unstable then 1 else 0) + (if (before.serve r).1.overflows then 1 else 0) =
      if (before.serve r).2.unstable then 1 else 0
    cases hunstable : before.unstable with
    | true =>
      have hafter : (before.serve r).2.unstable = true := serve_unstable hunstable r
      have hnone : ¬ (before.serve r).1.overflows = true := by simp [hstep, hunstable]
      rw [if_pos rfl, if_neg hnone, if_pos hafter]
    | false =>
      rw [hunstable] at hstep
      simp [hstep]

section Serve

variable {κ α : Type} [CacheKey κ] [LawfulCacheKey κ] {limit : Limit}
  {requests : List (CacheRequest κ α)} {c : SiteCache κ α} {key : κ}

theorem find?_eq_none_iff_not_among : c.find? key = none ↔ ¬ Among key c.entries := by
  simp [find?_eq_none_iff, Among, LawfulCacheKey.matching_eq]

theorem among_of_find?_eq_some {found : α} (h : c.find? key = some found) :
    ∃ k, (k, found) ∈ c.entries ∧ CacheKey.contentEq k key = true := by
  obtain ⟨k, hmem, hmatching⟩ := find?_eq_some h
  exact ⟨k, hmem, by rwa [← LawfulCacheKey.matching_eq]⟩

theorem probe_of_holds (h : Holds limit (firstOffers requests) c) (key : κ) :
    Due limit (firstOffers requests) (.probe key) (.probed (c.probe key).1) ∧
      Holds limit (firstOffers requests) (c.probe key).2 ∧
      (c.probe key).2.stats = c.stats.count (.probed (c.probe key).1) := by
  by_cases hroom : (firstOffers requests).length ≤ limit.size
  · obtain ⟨hstable, hentries⟩ := h.stable hroom
    cases hfound : c.find? key with
    | none =>
      rw [probe_of_not_found hstable hfound]
      rw [find?_eq_none_iff_not_among, hentries] at hfound
      exact ⟨.miss hroom hfound, ⟨h.limit_eq, h.stable, h.unstable⟩, rfl⟩
    | some found =>
      rw [probe_of_found hstable hfound]
      obtain ⟨k, hmem, hkey⟩ := among_of_find?_eq_some hfound
      rw [hentries] at hmem
      exact ⟨.hit hroom hmem hkey, ⟨h.limit_eq, h.stable, h.unstable⟩, rfl⟩
  · have hfull := Nat.lt_of_not_le hroom
    rw [probe_of_unstable (h.unstable hfull).1]
    exact ⟨.unstable hfull, ⟨h.limit_eq, h.stable, h.unstable⟩, rfl⟩

theorem offer_of_holds (h : Holds limit (firstOffers requests) c) (key : κ) (value : α) :
    Due limit (firstOffers requests) (.offer key value) (.admitted (c.offer key value).1) ∧
      Holds limit (firstOffers (requests ++ [.offer key value])) (c.offer key value).2 := by
  by_cases hroom : (firstOffers requests).length ≤ limit.size
  · obtain ⟨hstable, hentries⟩ := h.stable hroom
    cases hfound : c.find? key with
    | some found =>
      rw [offer_of_found hstable hfound]
      obtain ⟨k, hmem, hkey⟩ := among_of_find?_eq_some hfound
      rw [hentries] at hmem
      rw [firstOffers_of_among ⟨_, hmem, hkey⟩]
      exact ⟨.existing hroom hmem hkey, h⟩
    | none =>
      have hnew := hfound
      rw [find?_eq_none_iff_not_among, hentries] at hnew
      have hlength : c.length = (firstOffers requests).length := congrArg List.length hentries
      have hlonger : (firstOffers (requests ++ [.offer key value])).length =
          (firstOffers requests).length + 1 := by
        rw [firstOffers_of_not_among hnew, List.length_append, List.length_singleton]
      by_cases hfits : (firstOffers requests).length < limit.size
      · rw [offer_of_room hstable hfound (by rwa [hlength, h.limit_eq])]
        refine ⟨.stored hfits hnew, h.limit_eq, fun _ => ⟨hstable, ?_⟩, fun hfull => by omega⟩
        rw [hentries, firstOffers_of_not_among hnew]
      · rw [offer_of_full hstable hfound (by rwa [hlength, h.limit_eq])]
        exact ⟨.becameUnstable (by omega) hnew, h.limit_eq, fun _ => by omega, fun _ => ⟨rfl, rfl⟩⟩
  · have hfull := Nat.lt_of_not_le hroom
    have hlonger : limit.size < (firstOffers (requests ++ [.offer key value])).length :=
      Nat.lt_of_lt_of_le hfull (firstOffers_grow requests _).length_le
    rw [offer_of_unstable (h.unstable hfull).1]
    exact ⟨.rejected hfull, h.limit_eq, fun _ => by omega, fun _ => h.unstable hfull⟩

/-- One request: the reply is the one that is due, it is what is counted, and the cache still holds
the first offers. -/
theorem serve_of_holds (h : Holds limit (firstOffers requests) c) (r : CacheRequest κ α) :
    Due limit (firstOffers requests) r (c.serve r).1 ∧
      Holds limit (firstOffers (requests ++ [r])) (c.serve r).2 ∧
      (c.serve r).2.stats = c.stats.count (c.serve r).1 := by
  cases r with
  | probe key =>
    rw [serve_probe, firstOffers_probe]
    exact probe_of_holds h key
  | offer key value =>
    rw [serve_offer]
    exact ⟨(offer_of_holds h key value).1, (offer_of_holds h key value).2, offer_stats c key value⟩

theorem holds_replay (limit : Limit) (requests : List (CacheRequest κ α)) :
    Holds limit (firstOffers requests) (({ limit } : SiteCache κ α).replay requests) := by
  induction requests using List.reverseRecOn with
  | nil => exact ⟨rfl, fun _ => ⟨rfl, rfl⟩, fun h => absurd h (Nat.not_lt_zero _)⟩
  | append_singleton requests r ih =>
    rw [replay_append]
    exact (serve_of_holds ih r).2.1

theorem unstable_replay_iff (limit : Limit) (requests : List (CacheRequest κ α)) :
    (({ limit } : SiteCache κ α).replay requests).unstable = true ↔
      limit.size < (firstOffers requests).length :=
  (holds_replay limit requests).unstable_iff

/-- Exactly one offer is one too many, unless there is room for all keys. -/
theorem countP_overflows (limit : Limit) (requests : List (CacheRequest κ α)) :
    (({ limit } : SiteCache κ α).history requests).countP (fun e => e.1.overflows) =
      if limit.size < (firstOffers requests).length then 1 else 0 := by
  rw [countP_overflows_history rfl]
  simp only [unstable_replay_iff]

end Serve

/-- What a cache has made of a sequence of requests, told by the different keys among the offers
alone. -/
structure KeepsFirst {κ α : Type} [CacheKey κ] (limit : Limit)
    (requests : List (CacheRequest κ α)) : Prop where
  holds : Holds limit (firstOffers requests) (({ limit } : SiteCache κ α).replay requests)
  /-- Each reply is the one due at its time, and each probe is counted once. -/
  replies : ∀ earlier r later, requests = earlier ++ r :: later → ∃ reply after,
    (({ limit } : SiteCache κ α).history requests)[earlier.length]? = some (reply, after) ∧
      Due limit (firstOffers earlier) r reply ∧
      Holds limit (firstOffers (earlier ++ [r])) after ∧
      after.stats = (({ limit } : SiteCache κ α).replay earlier).stats.count reply
  overflows : (({ limit } : SiteCache κ α).history requests).countP (fun e => e.1.overflows) =
    if limit.size < (firstOffers requests).length then 1 else 0

section KeepsFirst

variable {κ α : Type} [CacheKey κ] [LawfulCacheKey κ]

/-- A cache keeps the first offers of different keys as long as there is room for all of them, and
is given up by the first one that is too many. Whether it is given up, and how many keys it holds,
depends on nothing but the set of keys that were offered. -/
theorem first_keys_or_nothing (limit : Limit) (requests : List (CacheRequest κ α)) :
    KeepsFirst limit requests ∧
      ∀ others : List (CacheRequest κ α), (∀ key, Offered key others ↔ Offered key requests) →
        let c := ({ limit } : SiteCache κ α).replay requests
        let d := ({ limit } : SiteCache κ α).replay others
        d.unstable = c.unstable ∧ d.length = c.length := by
  refine ⟨⟨holds_replay limit requests, ?_, countP_overflows limit requests⟩, ?_⟩
  · rintro earlier r later rfl
    obtain ⟨hdue, hholds, hstats⟩ := serve_of_holds (holds_replay limit earlier) r
    exact ⟨_, _, getElem?_history earlier later r, hdue, hholds, hstats⟩
  · intro others hsame c d
    have hlength := length_firstOffers_congr hsame
    have hc := holds_replay limit requests
    have hd := holds_replay limit others
    by_cases hroom : (firstOffers requests).length ≤ limit.size
    · obtain ⟨hcstable, hcentries⟩ := hc.stable hroom
      obtain ⟨hdstable, hdentries⟩ := hd.stable (hlength ▸ hroom)
      refine ⟨hdstable.trans hcstable.symm, ?_⟩
      rw [SiteCache.length, SiteCache.length, hcentries, hdentries, hlength]
    · have hfull := Nat.lt_of_not_le hroom
      obtain ⟨hcunstable, hcentries⟩ := hc.unstable hfull
      obtain ⟨hdunstable, hdentries⟩ := hd.unstable (hlength ▸ hfull)
      refine ⟨hdunstable.trans hcunstable.symm, ?_⟩
      rw [SiteCache.length, SiteCache.length, hcentries, hdentries]

/-- Room for one name: a copy of it is answered from the first offer, another one is too many. -/
theorem first_keys_or_nothing_names :
    let limit : Limit := ⟨1, by decide⟩
    let a : Name := ⟨"A", 0⟩
    let copy : Name := ⟨"A", 1⟩
    let b : Name := ⟨"B", 2⟩
    let requests : List (CacheRequest Name Nat) :=
      [.probe a, .offer a 1, .offer copy 2, .probe copy, .offer b 3, .probe a, .offer a 4]
    LawfulCacheKey Name ∧ firstOffers requests = [(a, 1), (b, 3)] ∧
      (({ limit } : SiteCache Name Nat).history requests).map Prod.fst =
        [.probed .miss, .admitted .stored, .admitted (.existing 1), .probed (.hit 1),
          .admitted .becameUnstable, .probed .unstable, .admitted .rejected] ∧
      KeepsFirst limit requests :=
  ⟨inferInstance, by decide, by decide, (first_keys_or_nothing _ _).1⟩

end KeepsFirst

end SiteCache
end CallSite
