import CallSite.Proofs.Invariance
import CallSite.Proofs.Tally

/-!
# Statistics of missing names

Code of loaders, lookups and hooks may read through any resolver while a name is being resolved, and
may fail or panic. Unlike in `Reading` it may also look at the memos. A run keeps a log of how the
loads and lookups of the resolvers have ended. What a memo has counted depends on nothing but the
names in it for which nothing was found.
-/
namespace CallSite.Dispatching

open Reading (Call)

variable {ι ℓ η μ : Type}

/-- `look` answers with all tables, all memos and the memory. -/
def Reply : Call ι ℓ η μ → Type
  | .look => Store η × (ι → SiteCache Name Symbol) × μ
  | .leave .. | .load .. => Unit
  | .read .. | .resolve .. | .missing .. => Value

abbrev DispatchingCode (ι ℓ η μ α : Type) := Code (Call ι ℓ η μ) Reply ResolveError α

/-- What the loader of each resolver, each lookup and each hook does. -/
structure Program (ι ℓ η μ : Type) where
  load : ι → String → DispatchingCode ι ℓ η μ Unit
  lookup : ℓ → Namespace → Name → DispatchingCode ι ℓ η μ (Option Constant)
  hook : η → Namespace → Symbol → DispatchingCode ι ℓ η μ Value

/-- How a load or a lookup for a resolver has ended, or what it was given to resolve. -/
inductive Event (ι : Type) where
  | loaded (resolver : ι) (path : String) (ending : Except (Stop ResolveError) Unit)
  | looked (resolver : ι) (name : Name) (ending : Except (Stop ResolveError) (Option Constant))
  | given (resolver : ι) (name : Name) (found : Option Constant)

namespace Event

/-- The resolver and the name for which nothing was found. -/
def dispatched? : Event ι → Option (ι × Name)
  | looked resolver name (.ok none) | given resolver name none => some (resolver, name)
  | _ => none

variable [DecidableEq ι]

/-- What becomes of the memos: the name is remembered if nothing was found for it. -/
def remember (e : Event ι) (memos : ι → SiteCache Name Symbol) : ι → SiteCache Name Symbol :=
  match e.dispatched? with
  | some (resolver, name) =>
    Function.update memos resolver (memoSymbol (memos resolver) name).2
  | none => memos

end Event

/-- The names for which a resolver has found nothing, first one first. -/
def dispatched [DecidableEq ι] (resolver : ι) (events : List (Event ι)) : List Name :=
  events.filterMap fun e =>
    match e.dispatched? with
    | some (r, name) => if r = resolver then some name else none
    | none => none

/-- The log is first one first; each entry has the memos at its time. -/
structure State (ι η μ : Type) extends Base ι η where
  memory : μ
  log : List (Event ι × (ι → SiteCache Name Symbol)) := []

namespace State

def record (e : Event ι) (s : State ι η μ) : State ι η μ :=
  { s with log := s.log ++ [(e, s.memos)] }

def events (s : State ι η μ) : List (Event ι) := s.log.map Prod.fst

def base : Slot (State ι η μ) (Base ι η) where
  get := State.toBase
  set s toBase := { s with toBase }

/-- Before a run: nothing is logged, and no memo holds a name yet. -/
def fresh (store : Store η) (memory : μ) (limits : ι → Limit) : State ι η μ where
  store
  memory
  memos i := { limit := limits i }

end State

namespace Program

variable [DecidableEq ι]

/-- A way to run the code of loaders, lookups and hooks. -/
abbrev Runner (ι ℓ η μ : Type) := Code.Runner (Call ι ℓ η μ) Reply (State ι η μ) ResolveError

def resolver (P : Program ι ℓ η μ) (run : Runner ι ℓ η μ) (i : ι) :
    Resolver (State ι η μ) η :=
  let load path := (run (P.load i path)).noting fun ending => State.record (.loaded i path ending)
  State.base.resolver i load fun hook ns symbol => run (P.hook hook ns symbol)

/-- The lookup that a resolver uses. -/
def strategy (P : Program ι ℓ η μ) (run : Runner ι ℓ η μ) (i : ι) (l : ℓ) :
    Lookup (State ι η μ) := fun ns name =>
  (run (P.lookup l ns name)).noting fun ending => State.record (.looked i name ending)

/-- What a call does, given a way to run code and fuel for chains of load units. -/
def perform (P : Program ι ℓ η μ) (run : Runner ι ℓ η μ) (fuel : Nat) :
    (c : Call ι ℓ η μ) → Act (State ι η μ) ResolveError (Reply c)
  | .look => fun s => .ok (s.store, s.memos, s.memory) s
  | .leave store memory => modify fun s => { s with store, memory }
  | .load i path => (P.resolver run i).load path
  | .read i l ns name => (P.resolver run i).read (P.strategy run i l) fuel ns name
  | .resolve i l ns name found => do
    modify (State.record (.given i name found))
    (P.resolver run i).resolve (P.strategy run i l) ns name fuel found
  | .missing ns symbol =>
    CallSite.missing State.base.store (fun hook ns symbol => run (P.hook hook ns symbol)) ns symbol

/-- Runs code of the program. -/
def exec (P : Program ι ℓ η μ) : Nat → Runner ι ℓ η μ := Code.exec P.perform

end Program

/-! ### Logs and memos -/

section Accounts

variable [DecidableEq ι]

/-- Each entry of a log has the memos that the entries before it have made, and the last memos are
what all of them have made. -/
inductive Accounts : (ι → SiteCache Name Symbol) → List (Event ι × (ι → SiteCache Name Symbol)) →
    (ι → SiteCache Name Symbol) → Prop
  | nil (memos : ι → SiteCache Name Symbol) : Accounts memos [] memos
  | cons {memos memos' : ι → SiteCache Name Symbol} {e : Event ι}
    {log : List (Event ι × (ι → SiteCache Name Symbol))} :
    Accounts (e.remember memos) log memos' → Accounts memos ((e, memos) :: log) memos'

variable {memos memos' memos'' : ι → SiteCache Name Symbol} {e : Event ι}
  {log log' : List (Event ι × (ι → SiteCache Name Symbol))} {i : ι}

theorem Accounts.append (h : Accounts memos log memos') (h' : Accounts memos' log' memos'') :
    Accounts memos (log ++ log') memos'' := by
  induction h with
  | nil memos => exact h'
  | cons _ ih => exact .cons (ih h')

/-- A log can be taken apart anywhere. -/
theorem Accounts.of_append (h : Accounts memos (log ++ log') memos'') :
    ∃ memos', Accounts memos log memos' ∧ Accounts memos' log' memos'' := by
  induction log generalizing memos with
  | nil => exact ⟨memos, .nil memos, h⟩
  | cons entry log ih =>
    cases h with
    | cons h =>
      obtain ⟨memos', hlog, hrest⟩ := ih h
      exact ⟨memos', .cons hlog, hrest⟩

theorem remember_apply (e : Event ι) (memos : ι → SiteCache Name Symbol) (i : ι) :
    e.remember memos i = Tally.tally (memos i) (dispatched i [e]) := by
  rw [Event.remember, dispatched, List.filterMap_cons]
  cases e.dispatched? with
  | none => rfl
  | some entry =>
    obtain ⟨j, name⟩ := entry
    by_cases hj : j = i
    · subst hj
      simp [Tally.tally]
    · simp [Tally.tally, hj, Ne.symm hj]

/-- Each memo has been made by the names dispatched through its own resolver. -/
theorem Accounts.memo_eq (h : Accounts memos log memos') (i : ι) :
    memos' i = Tally.tally (memos i) (dispatched i (log.map Prod.fst)) := by
  induction h with
  | nil memos => rfl
  | @cons memos _ e log _ ih =>
    rw [ih, remember_apply, ← Tally.tally_append, dispatched, dispatched, ← List.filterMap_append]
    rfl

end Accounts

/-! ### Runs -/

section Follows

variable [DecidableEq ι]

/-- The memos have changed as the log that was written meanwhile says. -/
def Follows (s s' : State ι η μ) : Prop :=
  ∃ log, s'.log = s.log ++ log ∧ Accounts s.memos log s'.memos

namespace Follows

variable {s s' : State ι η μ}

theorem of_eq (hlog : s'.log = s.log) (hmemos : s'.memos = s.memos) : Follows s s' :=
  ⟨[], by rw [hlog, List.append_nil], hmemos ▸ .nil s.memos⟩

theorem refl (s : State ι η μ) : Follows s s := of_eq rfl rfl

theorem trans (s₁ s₂ s₃ : State ι η μ) (h : Follows s₁ s₂) (h' : Follows s₂ s₃) :
    Follows s₁ s₃ := by
  obtain ⟨log, hlog, haccounts⟩ := h
  obtain ⟨log', hlog', haccounts'⟩ := h'
  refine ⟨log ++ log', ?_, haccounts.append haccounts'⟩
  rw [hlog', hlog, List.append_assoc]

/-- An event, and what it makes of the memos. -/
theorem event (e : Event ι) (hlog : s'.log = s.log ++ [(e, s.memos)])
    (hmemos : s'.memos = e.remember s.memos) : Follows s s' :=
  ⟨[(e, s.memos)], hlog, .cons (hmemos ▸ .nil _)⟩

theorem record {e : Event ι} (he : e.dispatched? = none) (s : State ι η μ) :
    Follows s (s.record e) := by
  refine event e rfl ?_
  rw [Event.remember, he]
  rfl

end Follows

namespace Program

variable {P : Program ι ℓ η μ} {run : Runner ι ℓ η μ}

/-- The state after a lookup: a name for which nothing was found is going to be remembered. -/
def settled (P : Program ι ℓ η μ) (run : Runner ι ℓ η μ) (i : ι) (name : Name)
    (found : Option Constant) (s : State ι η μ) : State ι η μ :=
  match found with
  | none => (P.resolver run i).remember name s
  | some _ => s

theorem follows_looked (i : ι) (name : Name) (found : Option Constant) (s : State ι η μ) :
    Follows s (P.settled run i name found (s.record (.looked i name (.ok found)))) := by
  cases found with
  | none => exact .event (.looked i name (.ok none)) rfl rfl
  | some c => exact .record rfl s

theorem follows_given (i : ι) (name : Name) (found : Option Constant) (s : State ι η μ) :
    Follows s (P.settled run i name found (s.record (.given i name found))) := by
  cases found with
  | none => exact .event (.given i name none) rfl rfl
  | some c => exact .record rfl s

variable (hrun : ∀ {α : Type} (code : DispatchingCode ι ℓ η μ α), (run code).Within Follows)
include hrun

theorem within_load (i : ι) (path : String) : ((P.resolver run i).load path).Within Follows :=
  (hrun _).noting Follows.trans fun _ => Follows.record rfl

/-- A lookup is logged before what it has found is dealt with. -/
theorem within_strategy_bind {i : ι} {l : ℓ} {ns : Namespace} {name : Name}
    {rest : Option Constant → Act (State ι η μ) ResolveError Value}
    (hrest : ∀ found s, Follows (P.settled run i name found s) ((rest found).after s)) :
    (P.strategy run i l ns name >>= rest).Within Follows := by
  intro s
  have hlookup := hrun (P.lookup l ns name) s
  cases hend : run (P.lookup l ns name) s with
  | ok found s₁ =>
    have hlooked : P.strategy run i l ns name s =
        .ok found (s₁.record (.looked i name (.ok found))) := by
      simp only [strategy, Act.noting, hend]
    rw [Act.after_of_ok hend] at hlookup
    rw [Act.after_congr (Act.bind_of_ok hlooked)]
    exact .trans _ _ _ hlookup (.trans _ _ _ (follows_looked i name found s₁) (hrest found _))
  | error e s₁ =>
    have hlooked : P.strategy run i l ns name s =
        .error e (s₁.record (.looked i name (.error e))) := by
      simp only [strategy, Act.noting, hend]
    rw [Act.after_of_error hend] at hlookup
    rw [Act.after_of_error (Act.bind_of_error hlooked)]
    exact .trans _ _ _ hlookup (.record rfl s₁)

/-- A name for which nothing was found is remembered before its hook is run, so what the hook does
and how it ends is no matter. Besides that, only loads and lookups touch more than the tables. -/
theorem resolvesWithin (i : ι) (l : ℓ) (ns : Namespace) (name : Name) :
    (P.resolver run i).ResolvesWithin Follows
      (fun found s => Follows (P.settled run i name found s)) (P.strategy run i l) ns name where
  refl _ := Follows.refl
  dispatch _ := Resolver.within_missing Follows.refl (fun _ => hrun _) _
  lookup _ hrest := within_strategy_bind hrun hrest
  autoload _ _ path _ hrest :=
    Resolver.within_withoutMarker Follows.trans (fun _ => .of_eq rfl rfl) (fun _ => .of_eq rfl rfl)
      ((within_load hrun i path).bind Follows.trans fun _ => hrest)

end Program

end Follows

namespace Program

variable [DecidableEq ι]

theorem within_perform (P : Program ι ℓ η μ) (run : Runner ι ℓ η μ) (fuel : Nat)
    (hrun : ∀ {α : Type} (code : DispatchingCode ι ℓ η μ α), (run code).Within Follows)
    (c : Call ι ℓ η μ) : (P.perform run fuel c).Within Follows := by
  cases c with
  | look => exact Follows.refl
  | leave store memory => exact fun s => .of_eq rfl rfl
  | load i path => exact within_load hrun i path
  | read i l ns name => exact (resolvesWithin hrun i l ns name).read fuel
  | resolve i l ns name found =>
    exact fun s => .trans _ _ _ (follows_given i name found s)
      ((resolvesWithin hrun i l ns name).resolve fuel found _)
  | missing ns symbol =>
    have hmissing : (CallSite.missing State.base.store
        (fun hook ns symbol => run (P.hook hook ns symbol)) ns symbol).Within Follows :=
      Resolver.within_missing Follows.refl fun hook => hrun (P.hook hook ns symbol)
    exact hmissing

theorem within_exec (P : Program ι ℓ η μ) (fuel : Nat) {α : Type}
    (code : DispatchingCode ι ℓ η μ α) : (P.exec fuel code).Within Follows :=
  Code.within_exec Follows.refl Follows.trans P.within_perform fuel code

end Program

theorem dispatched_eq_nil [DecidableEq ι] {i : ι} {events : List (Event ι)}
    (h : ∀ e ∈ events, ∀ name, e.dispatched? ≠ some (i, name)) : dispatched i events = [] := by
  refine List.filterMap_eq_nil_iff.2 fun e he => ?_
  have hnone := h e he
  cases hentry : e.dispatched? with
  | none => rfl
  | some entry =>
    obtain ⟨j, name⟩ := entry
    refine if_neg ?_
    rintro rfl
    exact hnone name hentry

/-- What a resolver has counted, and whether its memo has been given up, depends on nothing but the
names for which it has found nothing, at the end of a run and whenever a load or a lookup ends. When
such a name is offered to the memo it is stored, or it is the one too many. All else that a run does
leaves the memo as it was. -/
theorem names_determine_statistics [DecidableEq ι] (P : Program ι ℓ η μ) (fuel : Nat) {α : Type}
    (code : DispatchingCode ι ℓ η μ α) (store : Store η) (memory : μ) (limits : ι → Limit)
    (i : ι) :
    let run := P.exec fuel code
    let s := run.after (State.fresh store memory limits)
    (s.memos i = Tally.tally { limit := limits i } (dispatched i s.events) ∧
      Tally.Tallied (limits i) (dispatched i s.events) (s.memos i)) ∧
    (∀ earlier e memos later, s.log = earlier ++ (e, memos) :: later →
      Tally.Tallied (limits i) (dispatched i (earlier.map Prod.fst)) (memos i) ∧
        ∀ name a, e.dispatched? = some (i, name) → Tally.admission? (memos i) name = some a →
          a = .stored ∨ a = .becameUnstable) ∧
    ∀ t : State ι η μ, ∃ log, (run.after t).log = t.log ++ log ∧
      ((∀ entry ∈ log, ∀ name, entry.1.dispatched? ≠ some (i, name)) →
        (run.after t).memos i = t.memos i) := by
  intro run s
  have hwithin : run.Within Follows := P.within_exec fuel code
  obtain ⟨log, hlog, haccounts⟩ := hwithin (State.fresh store memory limits)
  obtain rfl : s.log = log := hlog
  have hmemo : s.memos i = Tally.tally { limit := limits i } (dispatched i s.events) :=
    haccounts.memo_eq i
  refine ⟨⟨hmemo, ?_⟩, ?_, ?_⟩
  · rw [hmemo]
    exact Tally.tallied_tally (limits i) _
  · intro earlier e memos later hsplit
    rw [hsplit] at haccounts
    obtain ⟨memos', hearlier, hlater⟩ := haccounts.of_append
    obtain rfl : memos' = memos := by
      cases hlater
      rfl
    rw [hearlier.memo_eq i]
    exact ⟨Tally.tallied_tally (limits i) _, fun name a _ => Tally.admission?_eq_some⟩
  · intro t
    obtain ⟨log, hlog, haccounts⟩ := hwithin t
    refine ⟨log, hlog, fun hnone => ?_⟩
    have hnames : dispatched i (log.map Prod.fst) = [] := by
      refine dispatched_eq_nil fun e he => ?_
      obtain ⟨entry, hentry, rfl⟩ := List.mem_map.1 he
      exact hnone entry hentry
    have hmemo := haccounts.memo_eq i
    rwa [hnames] at hmemo

/-- A hook that reads a second name while the first is being resolved, and one that panics: with
room for one name, the second one is one too many, and all that follow are uncached. -/
theorem names_determine_statistics_nested :
    let ns : Namespace := .root 0 "M"
    let a : Name := ⟨"A", 0⟩
    let copy : Name := ⟨"A", 1⟩
    let b : Name := ⟨"B", 0⟩
    let P : Program Unit Unit Unit Unit :=
      { load := fun _ _ => .done ()
        lookup := fun _ _ _ => .done none
        hook := fun _ ns symbol =>
          if symbol.text = "A" then .call (.read () () ns b) fun _ => .done .nil
          else .stop (.panic "no hook for it") }
    let code : DispatchingCode Unit Unit Unit Unit Unit :=
      .call (.read () () ns a) fun _ => .call (.read () () ns copy) fun _ => .done ()
    let store : Store Unit := ({} : Store Unit).setHook ns (some ())
    let s := (P.exec 4 code).after (State.fresh store () fun _ => ⟨1, by decide⟩)
    dispatched () s.events = [a, b, copy, b] ∧ (s.memos ()).unstable = true ∧
      (s.memos ()).stats.misses = 2 ∧ (s.memos ()).stats.uncached = 2 ∧
      (s.memos ()).stats.hits = 0 := by
  intro ns a copy b P code store s
  have hnames : dispatched () s.events = [a, b, copy, b] := by decide +kernel
  obtain ⟨⟨-, hcounts⟩, -⟩ :=
    names_determine_statistics P 4 code store () (fun _ => ⟨1, by decide⟩) ()
  rw [hnames] at hcounts
  have hmisses : (s.memos ()).stats.misses = 2 := hcounts.misses
  have huncached : (s.memos ()).stats.uncached = 2 :=
    hcounts.uncached [a] b [copy, b] rfl (by decide) (by decide)
  have htotal : (s.memos ()).stats.hits + (s.memos ()).stats.misses +
      (s.memos ()).stats.uncached = 4 := hcounts.total
  exact ⟨hnames, hcounts.disabled.2 (by decide), hmisses, huncached, by omega⟩

end CallSite.Dispatching
