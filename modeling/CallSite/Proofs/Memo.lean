import CallSite.Proofs.Reading

/-!
# Memos that cannot be seen

A memo keeps with each name the symbol of its text, so what it answers does not depend on how
much it has room for. Two runs of one program that differ in the limits of the resolvers alone
are therefore the same in all that the program can see.
-/
namespace CallSite

/-! ### Memos -/

/-- Each name is kept with the symbol of its own text. -/
def Faithful (memo : SiteCache Name Symbol) : Prop :=
  ∀ name symbol, (name, symbol) ∈ memo.entries → symbol = name.symbol

/-- Names match by identity only if they are the same, and by content if their texts are. -/
theorem symbol_eq_of_matching {a b : Name} (h : CacheKey.matching a b = true) :
    a.symbol = b.symbol := by
  simp only [CacheKey.matching, Bool.or_eq_true] at h
  rcases h with hsame | hcontent
  · exact congrArg Symbol.mk (Shared.content_eq_of_same hsame)
  · exact congrArg Symbol.mk (eq_of_beq hcontent)

theorem Faithful.symbol_of_found {memo : SiteCache Name Symbol} (h : Faithful memo)
    {name : Name} {symbol : Symbol}
    (hfound : ∃ k, (k, symbol) ∈ memo.entries ∧ CacheKey.matching k name = true) :
    symbol = name.symbol := by
  obtain ⟨k, hmem, hmatching⟩ := hfound
  rw [h k symbol hmem, symbol_eq_of_matching hmatching]

theorem Faithful.probe {memo : SiteCache Name Symbol} (h : Faithful memo) (name : Name) :
    Faithful (memo.probe name).2 := by
  intro k symbol hmem
  rw [SiteCache.probe_entries] at hmem
  exact h k symbol hmem

theorem Faithful.offer {memo : SiteCache Name Symbol} (h : Faithful memo) (name : Name) :
    Faithful (memo.offer name name.symbol).2 := by
  intro k symbol hmem
  rcases SiteCache.mem_entries_offer hmem with hold | hnew
  · exact h k symbol hold
  · cases hnew
    rfl

/-- The symbol that a read is given is that of the name, whether the memo has it, takes it,
overflows or has been given up. -/
theorem memoSymbol_of_faithful {memo : SiteCache Name Symbol} (h : Faithful memo) (name : Name) :
    (memoSymbol memo name).1 = name.symbol ∧ Faithful (memoSymbol memo name).2 := by
  have hprobed := h.probe name
  have hfound := @SiteCache.probe_eq_hit _ _ _ memo name
  unfold memoSymbol
  generalize memo.probe name = answer at hprobed hfound
  obtain ⟨probe, probed⟩ := answer
  cases probe with
  | hit symbol => exact ⟨h.symbol_of_found (hfound rfl), hprobed⟩
  | unstable => exact ⟨rfl, hprobed⟩
  | miss =>
    have hoffered := hprobed.offer name
    have hexisting := @SiteCache.offer_eq_existing _ _ _ probed name name.symbol
    dsimp only at hprobed hoffered ⊢
    generalize probed.offer name name.symbol = answer at hoffered hexisting
    obtain ⟨admission, offered⟩ := answer
    cases admission with
    | existing symbol => exact ⟨hprobed.symbol_of_found (hexisting rfl), hoffered⟩
    | stored => exact ⟨rfl, hoffered⟩
    | becameUnstable => exact ⟨rfl, hoffered⟩
    | rejected => exact ⟨rfl, hoffered⟩

/-- One of several memos remembers a name. -/
theorem faithful_update {ι : Type} [DecidableEq ι] {memos : ι → SiteCache Name Symbol} (i : ι)
    (name : Name) {j : ι} (h : Faithful (memos j)) :
    Faithful (Function.update memos i (memoSymbol (memos i) name).2 j) := by
  by_cases hj : j = i
  · subst hj
    rw [Function.update_self]
    exact (memoSymbol_of_faithful h name).2
  · rw [Function.update_of_ne hj]
    exact h

/-! ### Resolvers in two states -/

namespace Resolver

variable {σ η : Type} {R : σ → σ → Prop}

/-- Related states have the same tables and give `name` its symbol, and whatever the resolver
calls or changes keeps them related. -/
structure Indifferent (R : σ → σ → Prop) (r : Resolver σ η) (lookup : Lookup σ) (ns : Namespace)
    (name : Name) : Prop where
  tables : ∀ s s', R s s' → r.store.get s = r.store.get s'
  adjust : ∀ f s s', R s s' → R (r.store.adjust f s) (r.store.adjust f s')
  symbol : ∀ s s', R s s' → (memoSymbol (r.memo.get s) name).1 = name.symbol ∧
    (memoSymbol (r.memo.get s') name).1 = name.symbol
  memo : ∀ s s', R s s' → R (r.memo.adjust (fun memo => (memoSymbol memo name).2) s)
    (r.memo.adjust (fun memo => (memoSymbol memo name).2) s')
  load : ∀ path, Act.Respects R (r.load path)
  lookup : Act.Respects R (lookup ns name)
  hook : ∀ hook, Act.Respects R (r.runHook hook ns name.symbol)

theorem respects_missing {store : Slot σ (Store η)}
    {runHook : η → Namespace → Symbol → Act σ ResolveError Value} {ns : Namespace}
    {symbol : Symbol} (htables : ∀ s s', R s s' → store.get s = store.get s')
    (hhook : ∀ hook, Act.Respects R (runHook hook ns symbol)) :
    Act.Respects R (missing store runHook ns symbol) := by
  intro s s' h
  have htable := htables s s' h
  cases hinstalled : (store.get s').hook? ns with
  | some hook =>
    rw [missing_of_hook hinstalled, missing_of_hook (by rw [htable, hinstalled])]
    exact hhook hook s s' h
  | none =>
    rw [missing_of_no_hook hinstalled, missing_of_no_hook (by rw [htable, hinstalled])]
    exact .error h

theorem resolve_none (r : Resolver σ η) (lookup : Lookup σ) (ns : Namespace) (name : Name)
    (fuel : Nat) (s : σ) :
    r.resolve lookup ns name fuel none s =
      missing r.store r.runHook ns (memoSymbol (r.memo.get s) name).1
        (r.memo.adjust (fun memo => (memoSymbol memo name).2) s) := by
  cases fuel with
  | zero => rfl
  | succ fuel => rfl

variable {r : Resolver σ η} {lookup : Lookup σ} {ns : Namespace} {name : Name}

theorem Indifferent.respects_resolve (h : r.Indifferent R lookup ns name) (fuel : Nat)
    (found : Option Constant) : Act.Respects R (r.resolve lookup ns name fuel found) := by
  have hnone (fuel : Nat) : Act.Respects R (r.resolve lookup ns name fuel none) := by
    intro s s' hs
    rw [resolve_none, resolve_none, (h.symbol s s' hs).1, (h.symbol s s' hs).2]
    exact respects_missing h.tables h.hook _ _ (h.memo s s' hs)
  induction fuel generalizing found with
  | zero =>
    match found with
    | none => exact hnone 0
    | some ⟨_, _, .value v⟩ => exact Act.respects_pure v
    | some ⟨_, _, .autoload _⟩ => exact Act.respects_throw .outOfFuel
  | succ fuel ih =>
    match found with
    | none => exact hnone (fuel + 1)
    | some ⟨_, _, .value v⟩ => exact Act.respects_pure v
    | some ⟨declaring, declared, .autoload path⟩ =>
      have htake : Act.Respects R
          (r.store.modify (ε := ResolveError) (·.remove declaring declared.text)) :=
        fun s s' hs => .ok (h.adjust _ s s' hs)
      have hchain : Act.Respects R
          (r.load path >>= fun _ => lookup ns name >>= r.resolve lookup ns name fuel) :=
        (h.load path).bind fun _ => h.lookup.bind ih
      exact htake.bind fun _ => hchain.onStop (h.adjust _)

theorem Indifferent.respects_read (h : r.Indifferent R lookup ns name) (fuel : Nat) :
    Act.Respects R (r.read lookup fuel ns name) :=
  h.lookup.bind (h.respects_resolve fuel)

end Resolver

/-! ### Two runs -/

namespace Reading

variable {ι ℓ η μ : Type}

/-- A hook that stands in for a name is given the symbol of its text. -/
def Event.Faithful : Event ι ℓ η → Prop
  | hook _ _ symbol (some asked) => symbol = asked.symbol
  | _ => True

/-- The same in all that code can see and in all that has been logged, with memos that may
differ but are faithful on both sides. -/
structure Same (s s' : State ι ℓ η μ) : Prop where
  store : s.store = s'.store
  memory : s.memory = s'.memory
  log : s.log = s'.log
  memos : ∀ i, Faithful (s.memos i) ∧ Faithful (s'.memos i)
  hooks : ∀ entry ∈ s.log, entry.1.Faithful

namespace Same

variable {s s' : State ι ℓ η μ}

theorem record (h : Same s s') {e : Event ι ℓ η} (he : e.Faithful) :
    Same (s.record e) (s'.record e) where
  store := h.store
  memory := h.memory
  log := by
    simp only [State.record]
    rw [h.store, h.log]
  memos := h.memos
  hooks := by
    intro entry hmem
    rcases List.mem_cons.1 hmem with rfl | hold
    · exact he
    · exact h.hooks entry hold

theorem leave (h : Same s s') (store : Store η) (memory : μ) :
    Same { s with store, memory } { s' with store, memory } where
  store := rfl
  memory := rfl
  log := h.log
  memos := h.memos
  hooks := h.hooks

theorem adjust_store (h : Same s s') (f : Store η → Store η) :
    Same (State.base.store.adjust f s) (State.base.store.adjust f s') where
  store := congrArg f h.store
  memory := h.memory
  log := h.log
  memos := h.memos
  hooks := h.hooks

variable [DecidableEq ι]

theorem adjust_memo (h : Same s s') (i : ι) (name : Name) :
    Same ((State.base.memo i).adjust (fun memo => (memoSymbol memo name).2) s)
      ((State.base.memo i).adjust (fun memo => (memoSymbol memo name).2) s') where
  store := h.store
  memory := h.memory
  log := h.log
  memos j := ⟨faithful_update i name (h.memos j).1, faithful_update i name (h.memos j).2⟩
  hooks := h.hooks

end Same

namespace Program

variable [DecidableEq ι] (P : Program ι ℓ η μ) {run : Runner ι ℓ η μ}

omit [DecidableEq ι] in
theorem respects_enter
    (hrun : ∀ {α : Type} (code : ReadingCode ι ℓ η μ α), Act.Respects Same (run code)) {α : Type}
    (e : Event ι ℓ η) (he : e.Faithful) (code : ReadingCode ι ℓ η μ α) :
    Act.Respects Same (enter run e code) :=
  (hrun code).modify_bind fun _ _ h => h.record he

theorem indifferent
    (hrun : ∀ {α : Type} (code : ReadingCode ι ℓ η μ α), Act.Respects Same (run code)) (i : ι)
    (l : ℓ) (ns : Namespace) (name : Name) :
    (P.resolver run i (some name)).Indifferent Same (P.strategy run l) ns name where
  tables _ _ h := h.store
  adjust f _ _ h := h.adjust_store f
  symbol _ _ h := ⟨(memoSymbol_of_faithful (h.memos i).1 name).1,
    (memoSymbol_of_faithful (h.memos i).2 name).1⟩
  memo _ _ h := h.adjust_memo i name
  load path := respects_enter hrun (.load i path) trivial _
  lookup := respects_enter hrun (.lookup l ns name) trivial _
  hook hook := respects_enter hrun (.hook hook ns name.symbol (some name)) rfl _

/-- What a call answers and what it leaves does not depend on the memos. -/
theorem respects_perform (run : Runner ι ℓ η μ) (fuel : Nat)
    (hrun : ∀ {α : Type} (code : ReadingCode ι ℓ η μ α), Act.Respects Same (run code))
    (c : Call ι ℓ η μ) : Act.Respects Same (P.perform run fuel c) := by
  cases c with
  | look =>
    intro s s' h
    simp only [perform]
    rw [h.store, h.memory]
    exact .ok h
  | leave store memory =>
    exact Act.respects_modify fun _ _ h => (h.leave store memory).record (e := .left) trivial
  | load i path =>
    have hload := respects_enter hrun (.load i path) trivial (P.load i path)
    exact hload.noting fun ending _ _ h => h.record (e := .loaded ending) trivial
  | read i l ns name =>
    have hread := (P.indifferent hrun i l ns name).respects_read fuel
    exact hread.noting fun ending _ _ h => h.record (e := .answered ending) trivial
  | resolve i l ns name found =>
    have hresolve := (P.indifferent hrun i l ns name).respects_resolve fuel found
    exact hresolve.noting fun ending _ _ h => h.record (e := .answered ending) trivial
  | missing ns symbol =>
    have hhook (hook : η) : Act.Respects Same (P.dispatch run none hook ns symbol) :=
      respects_enter hrun (.hook hook ns symbol none) trivial _
    have hmissing : Act.Respects Same
        (CallSite.missing State.base.store (P.dispatch run none) ns symbol) :=
      Resolver.respects_missing (fun _ _ h => h.store) hhook
    exact hmissing.noting fun ending _ _ h => h.record (e := .answered ending) trivial

theorem respects_exec (fuel : Nat) {α : Type} (code : ReadingCode ι ℓ η μ α) :
    Act.Respects Same (P.exec fuel code) :=
  Code.respects_exec P.respects_perform fuel code

end Program

/-- Before a run: nothing is logged, and no memo holds a name yet. -/
def State.fresh (store : Store η) (memory : μ) (limits : ι → Limit) : State ι ℓ η μ where
  store
  memory
  memos i := { limit := limits i }

theorem same_fresh (store : Store η) (memory : μ) (limits limits' : ι → Limit) :
    Same (State.fresh store memory limits : State ι ℓ η μ) (State.fresh store memory limits') where
  store := rfl
  memory := rfl
  log := rfl
  memos _ := ⟨fun _ _ h => (List.not_mem_nil h).elim, fun _ _ h => (List.not_mem_nil h).elim⟩
  hooks _ h := (List.not_mem_nil h).elim

/-- How much room the memos have makes no difference to how a run ends, to what it leaves, or to
any call on the way to its end, and the hooks that stand in for names are given the symbols of
their texts. -/
theorem limits_unobservable [DecidableEq ι] (P : Program ι ℓ η μ) (fuel : Nat) {α : Type}
    (code : ReadingCode ι ℓ η μ α) (store : Store η) (memory : μ) (limits limits' : ι → Limit) :
    let run := P.exec fuel code
    let start := State.fresh store memory limits
    let start' := State.fresh store memory limits'
    run.outcome start = run.outcome start' ∧
      (run.after start).store = (run.after start').store ∧
      (run.after start).memory = (run.after start').memory ∧
      (run.after start).log = (run.after start').log ∧
      ∀ entry ∈ (run.after start).log, entry.1.Faithful := by
  intro run start start'
  have hstart : Same start start' := same_fresh store memory limits limits'
  have hrun : Act.Respects Same run := P.respects_exec fuel code
  have hend : Same (run.after start) (run.after start') := hrun.after hstart
  exact ⟨hrun.outcome_eq hstart, hend.store, hend.memory, hend.log, hend.hooks⟩

end Reading
end CallSite
