import CallSite.Cache

/-!
# Histories of a cache

What a cache answers to a sequence of requests, and the state each one leaves it in.
-/
namespace CallSite

/-- A key whose identity need not go with its content. -/
structure LooseKey where
  identity : Int
  content : String
  deriving Repr, DecidableEq

instance : CacheKey LooseKey where
  sameIdentity a b := a.identity == b.identity
  contentEq a b := a.content == b.content

inductive CacheRequest (κ α : Type) where
  | probe (key : κ)
  | offer (key : κ) (value : α)
  deriving Repr, DecidableEq

def CacheRequest.isProbe {κ α : Type} : CacheRequest κ α → Bool
  | probe _ => true
  | offer .. => false

inductive CacheReply (α : Type) where
  | probed (p : Probe α)
  | admitted (a : Admission α)
  deriving Repr, DecidableEq

namespace SiteCache

variable {κ α : Type} [CacheKey κ]

def serve (c : SiteCache κ α) : CacheRequest κ α → CacheReply α × SiteCache κ α
  | .probe key => let (p, c) := c.probe key; (.probed p, c)
  | .offer key value => let (a, c) := c.offer key value; (.admitted a, c)

/-- The replies to a sequence of requests, each with the cache after it. -/
def history (c : SiteCache κ α) : List (CacheRequest κ α) → List (CacheReply α × SiteCache κ α)
  | [] => []
  | r :: rest => let (reply, c) := c.serve r; (reply, c) :: c.history rest

/-- The cache after a sequence of requests. -/
def replay (c : SiteCache κ α) (requests : List (CacheRequest κ α)) : SiteCache κ α :=
  requests.foldl (fun c r => (c.serve r).2) c

section Replay

variable {c : SiteCache κ α} {key : κ} {value : α}

@[simp] theorem serve_probe :
    c.serve (.probe key) = (.probed (c.probe key).1, (c.probe key).2) := rfl

@[simp] theorem serve_offer :
    c.serve (.offer key value) = (.admitted (c.offer key value).1, (c.offer key value).2) := rfl

@[simp] theorem replay_cons (r : CacheRequest κ α) (requests : List (CacheRequest κ α)) :
    c.replay (r :: requests) = (c.serve r).2.replay requests := rfl

theorem replay_append (requests requests' : List (CacheRequest κ α)) :
    c.replay (requests ++ requests') = (c.replay requests).replay requests' := List.foldl_append

theorem replay_append_singleton (requests : List (CacheRequest κ α)) (r : CacheRequest κ α) :
    c.replay (requests ++ [r]) = ((c.replay requests).serve r).2 := replay_append requests [r]

theorem length_history (requests : List (CacheRequest κ α)) :
    (c.history requests).length = requests.length := by
  induction requests generalizing c with
  | nil => rfl
  | cons r requests ih => exact congrArg (· + 1) ih

theorem history_append (requests requests' : List (CacheRequest κ α)) :
    c.history (requests ++ requests') =
      c.history requests ++ (c.replay requests).history requests' := by
  induction requests generalizing c with
  | nil => rfl
  | cons r requests ih => exact congrArg (c.serve r :: ·) ih

theorem history_append_singleton (requests : List (CacheRequest κ α)) (r : CacheRequest κ α) :
    c.history (requests ++ [r]) = c.history requests ++ [(c.replay requests).serve r] :=
  history_append requests [r]

/-- The answer to a request, with its requests before and after. -/
theorem getElem?_history (earlier later : List (CacheRequest κ α)) (r : CacheRequest κ α) :
    (c.history (earlier ++ r :: later))[earlier.length]? = some ((c.replay earlier).serve r) := by
  rw [history_append, List.getElem?_append_right (Nat.le_of_eq (length_history earlier)),
    length_history, Nat.sub_self]
  rfl

/-- Every probe is counted once. -/
theorem total_replay (requests : List (CacheRequest κ α)) :
    (c.replay requests).stats.total =
      c.stats.total + requests.countP CacheRequest.isProbe := by
  induction requests generalizing c with
  | nil => rfl
  | cons r requests ih =>
    rw [replay_cons, ih, List.countP_cons]
    cases r with
    | probe key =>
      rw [serve_probe, total_probe]
      simp only [CacheRequest.isProbe, if_true]
      omega
    | offer key value =>
      rw [serve_offer, offer_stats]
      rfl

/-- A cache that is unstable stays so. -/
theorem serve_unstable (h : c.unstable = true) (r : CacheRequest κ α) :
    (c.serve r).2.unstable = true := by
  cases r with
  | probe key => exact (probe_unstable c key).trans h
  | offer key value =>
    rw [serve_offer, offer_of_unstable h]
    exact h

/-- An unstable cache does nothing but count. -/
theorem replay_of_unstable (h : c.unstable = true) (requests : List (CacheRequest κ α)) :
    c.replay requests =
      { c with stats := { c.stats with
          uncached := c.stats.uncached + requests.countP CacheRequest.isProbe } } := by
  induction requests generalizing c with
  | nil => rfl
  | cons r requests ih =>
    cases r with
    | probe key =>
      have hnext : (c.probe key).2.unstable = true := (probe_unstable c key).trans h
      rw [replay_cons, serve_probe, ih hnext, probe_of_unstable h]
      simp only [List.countP_cons, CacheRequest.isProbe, if_true, Nat.add_assoc, Nat.add_comm 1]
    | offer key value =>
      rw [replay_cons, serve_offer, offer_of_unstable h]
      exact ih h

end Replay

end SiteCache
end CallSite
