import CallSite.Proofs.Memo
import CallSite.Resolve.Feature

/-!
# What resolvers keep

A relation between states that is kept by the loader, the lookup and the hooks of a resolver, and
by what the resolver itself does to the tables and its memo, is kept by every read. In a program
this need be checked only for what its machine does by itself.
-/
namespace CallSite

namespace Resolver

variable {σ η : Type}

/-- The memo remembers a name. -/
def remember (r : Resolver σ η) (name : Name) : σ → σ :=
  r.memo.adjust fun memo => (memoSymbol memo name).2

/-- What resolving stays within when it begins with what a lookup of `name` has found, and what
reads stay within: the rules for each step of it. -/
structure ResolvesWithin (T : σ → σ → Prop) (U : Option Constant → σ → σ → Prop)
    (r : Resolver σ η) (lookup : Lookup σ) (ns : Namespace) (name : Name) : Prop where
  refl : ∀ c s, U (some c) s s
  dispatch : ∀ s, U none s ((missing r.store r.runHook ns
    (memoSymbol (r.memo.get s) name).1).after (r.remember name s))
  lookup : ∀ rest : Option Constant → Act σ ResolveError Value,
    (∀ found, (rest found).Within (U found)) → (lookup ns name >>= rest).Within T
  autoload : ∀ declaring declared path (rest : Act σ ResolveError Value), rest.Within T →
    (r.withoutMarker declaring declared.text path (r.load path >>= fun _ => rest)).Within
      (U (some ⟨declaring, declared, .autoload path⟩))

section ResolvesWithin

variable {T : σ → σ → Prop} {U : Option Constant → σ → σ → Prop} {r : Resolver σ η}
  {lookup : Lookup σ} {ns : Namespace} {name : Name}

/-- The fuel goes down by one with each chain of a load and the read behind it. -/
theorem ResolvesWithin.resolve (h : ResolvesWithin T U r lookup ns name) (fuel : Nat)
    (found : Option Constant) : (r.resolve lookup ns name fuel found).Within (U found) := by
  have hnone (fuel : Nat) : (r.resolve lookup ns name fuel none).Within (U none) := by
    intro s
    rw [Act.after_congr (resolve_none r lookup ns name fuel s)]
    exact h.dispatch s
  induction fuel generalizing found with
  | zero =>
    match found with
    | none => exact hnone 0
    | some ⟨_, _, .value v⟩ => exact h.refl _
    | some ⟨_, _, .autoload _⟩ => exact h.refl _
  | succ fuel ih =>
    match found with
    | none => exact hnone (fuel + 1)
    | some ⟨_, _, .value v⟩ => exact h.refl _
    | some ⟨declaring, declared, .autoload path⟩ =>
      exact h.autoload declaring declared path _ (h.lookup _ ih)

theorem ResolvesWithin.read (h : ResolvesWithin T U r lookup ns name) (fuel : Nat) :
    (r.read lookup fuel ns name).Within T :=
  h.lookup _ (h.resolve fuel)

/-- A marker is taken away, and put back if `x` stops. -/
theorem within_withoutMarker {declaring : Namespace} {declared path : String}
    {x : Act σ ResolveError Value} (htrans : ∀ s₁ s₂ s₃, T s₁ s₂ → T s₂ s₃ → T s₁ s₃)
    (htake : ∀ s, T s (r.store.adjust (·.remove declaring declared) s))
    (hback : ∀ s, T s (r.store.adjust (·.mark declaring declared path) s)) (hx : x.Within T) :
    (r.withoutMarker declaring declared path x).Within T := by
  have htaken : (r.store.modify (ε := ResolveError) (·.remove declaring declared)).Within T := htake
  exact htaken.bind htrans fun _ => hx.onStop htrans hback

end ResolvesWithin

theorem within_missing {T : σ → σ → Prop} {store : Slot σ (Store η)}
    {runHook : η → Namespace → Symbol → Act σ ResolveError Value} {ns : Namespace}
    {symbol : Symbol} (hrefl : ∀ s, T s s) (hhook : ∀ hook, (runHook hook ns symbol).Within T) :
    (missing store runHook ns symbol).Within T := by
  intro s
  cases hinstalled : (store.get s).hook? ns with
  | some hook =>
    rw [Act.after_congr (missing_of_hook hinstalled)]
    exact hhook hook s
  | none =>
    rw [Act.after_of_error (missing_of_no_hook hinstalled)]
    exact hrefl s

end Resolver

namespace Base

variable {σ ι η : Type} [DecidableEq ι]

/-- A relation that holds across all that can be done to the tables, and across what a memo does for
a name. -/
structure Closed (base : Slot σ (Base ι η)) (T : σ → σ → Prop) : Prop where
  refl : ∀ s, T s s
  trans : ∀ s₁ s₂ s₃, T s₁ s₂ → T s₂ s₃ → T s₁ s₃
  tables : ∀ f s, T s (base.store.adjust f s)
  memo : ∀ i name s, T s ((base.memo i).adjust (fun memo => (memoSymbol memo name).2) s)

namespace Closed

variable {base : Slot σ (Base ι η)} {T : σ → σ → Prop} {ns : Namespace} {name : Name}

theorem within_change (hT : Closed base T) (c : Change η) :
    (base.store.update c.run : Act σ ResolveError c.Reply).Within T :=
  hT.tables fun store => (c.run store).2

theorem within_lookup (hT : Closed base T) (l : Strategy) :
    (l.lookup base.store ns name).Within T := by
  intro s
  rw [Act.after_of_ok (l.lookup_eq base.store ns name s)]
  exact hT.refl s

/-- A resolver adds nothing to what it runs. -/
theorem resolvesWithin (hT : Closed base T) {i : ι} {load : String → Act σ ResolveError Unit}
    {runHook : η → Namespace → Symbol → Act σ ResolveError Value} {lookup : Lookup σ}
    (hload : ∀ path, (load path).Within T) (hlookup : (lookup ns name).Within T)
    (hhook : ∀ hook symbol, (runHook hook ns symbol).Within T) :
    (base.resolver i load runHook).ResolvesWithin T (fun _ => T) lookup ns name where
  refl _ := hT.refl
  dispatch s := hT.trans _ _ _ (hT.memo i name s)
    (Resolver.within_missing hT.refl (hhook · _) _)
  lookup _ hrest := hlookup.bind hT.trans hrest
  autoload _ _ path _ hrest := Resolver.within_withoutMarker hT.trans (hT.tables _) (hT.tables _)
    ((hload path).bind hT.trans fun _ => hrest)

end Closed
end Base

/-- A relation that holds across each load, whatever the unit does, is kept by `require`. -/
theorem Features.within_require {σ υ : Type} {T : σ → σ → Prop} {features : Slot σ (Features υ)}
    {run : υ → String → Act σ ResolveError Unit} {path : String} (hrefl : ∀ s, T s s)
    (hno_unit : ∀ s, ((features.get s).isLoaded path || (features.get s).isLoading path) = false →
      T s (features.adjust (fun f => (f.enter path).leave path) s))
    (hunit : ∀ s unit ending,
      ((features.get s).isLoaded path || (features.get s).isLoading path) = false →
        T s (features.adjust (conclude path ending)
          ((run unit path).after (features.adjust (fun f => (f.enter path).count path) s)))) :
    (require features run path).Within T := by
  intro s
  cases hbusy : (features.get s).isLoaded path || (features.get s).isLoading path with
  | true =>
    rw [Act.after_of_ok (require_of_busy features run hbusy)]
    exact hrefl s
  | false =>
    cases hregistered : (features.get s).units.get? path with
    | none =>
      rw [Act.after_of_error (require_of_no_unit features run hbusy hregistered)]
      exact hno_unit s hbusy
    | some unit =>
      rw [(require_of_unit features run hbusy hregistered).2]
      exact hunit s unit _ hbusy

namespace Reading

variable {ι ℓ η μ : Type} [DecidableEq ι] {T : State ι ℓ η μ → State ι ℓ η μ → Prop}

/-- A relation that code cannot leave by what it does to tables and memory, nor by what is logged
and memoised for it. -/
structure Closed (T : State ι ℓ η μ → State ι ℓ η μ → Prop) : Prop extends
    Base.Closed State.base T where
  record : ∀ e s, T s (State.record e s)
  memory : ∀ memory s, T s { s with memory }

theorem Closed.leave (hT : Closed T) (store : Store η) (memory : μ) (s : State ι ℓ η μ) :
    T s { s with store, memory } :=
  hT.trans _ _ _ (hT.tables (fun _ => store) s) (hT.memory memory _)

namespace Program

variable (P : Program ι ℓ η μ) {run : Runner ι ℓ η μ}

theorem within_enter (hT : Closed T)
    (hrun : ∀ {α : Type} (code : ReadingCode ι ℓ η μ α), (run code).Within T) {α : Type}
    (e : Event ι ℓ η) (code : ReadingCode ι ℓ η μ α) : (enter run e code).Within T :=
  (hrun code).modify_bind hT.trans (hT.record e)

theorem resolvesWithin (hT : Closed T)
    (hrun : ∀ {α : Type} (code : ReadingCode ι ℓ η μ α), (run code).Within T) (i : ι)
    (asked : Option Name) (l : ℓ) (ns : Namespace) (name : Name) :
    (P.resolver run i asked).ResolvesWithin T (fun _ => T) (P.strategy run l) ns name :=
  hT.resolvesWithin (fun _ => within_enter hT hrun _ _) (within_enter hT hrun _ _)
    fun _ _ => within_enter hT hrun _ _

theorem within_perform (hT : Closed T) (run : Runner ι ℓ η μ) (fuel : Nat)
    (hrun : ∀ {α : Type} (code : ReadingCode ι ℓ η μ α), (run code).Within T)
    (c : Call ι ℓ η μ) : (P.perform run fuel c).Within T := by
  cases c with
  | look => exact hT.refl
  | leave store memory =>
    exact fun s => hT.trans _ _ _ (hT.leave store memory s) (hT.record _ _)
  | load i path =>
    have hload := within_enter (α := Unit) hT hrun (.load i path) (P.load i path)
    exact hload.noting hT.trans fun _ => hT.record _
  | read i l ns name =>
    have hread := (P.resolvesWithin hT hrun i (some name) l ns name).read fuel
    exact hread.noting hT.trans fun _ => hT.record _
  | resolve i l ns name found =>
    have hresolve := (P.resolvesWithin hT hrun i (some name) l ns name).resolve fuel found
    exact hresolve.noting hT.trans fun _ => hT.record _
  | missing ns symbol =>
    have hmissing : (CallSite.missing State.base.store (P.dispatch run none) ns symbol).Within T :=
      Resolver.within_missing hT.refl fun hook =>
        within_enter hT hrun (.hook hook ns symbol none) _
    exact hmissing.noting hT.trans fun _ => hT.record _

/-- All code of a program stays within a closed relation. -/
theorem within_exec (P : Program ι ℓ η μ) (hT : Closed T) (fuel : Nat) {α : Type}
    (code : ReadingCode ι ℓ η μ α) : (P.exec fuel code).Within T :=
  Code.within_exec hT.refl hT.trans (P.within_perform hT) fuel code

end Program

end Reading
end CallSite
