import CallSite.Proofs.Invariance
import CallSite.Proofs.Restoration
import CallSite.Resolve.Feature

/-!
# Programs that autoload constants

A program gives the code of load units and hooks. That code, and the code that a run starts with,
defines constants, puts them off to load units, registers and requires units, and reads constants
through any resolver. All resolvers load through one loader that runs each unit once.
-/
namespace CallSite.Autoloading

/-- `ι` are the resolvers, `η` the hooks and `υ` the load units. -/
inductive Call (ι η υ : Type) where
  | change (c : Change η)
  | register (path : String) (unit : υ)
  | require (path : String)
  | read (resolver : ι) (lookup : Strategy) (ns : Namespace) (name : Name)
  | resolve (resolver : ι) (lookup : Strategy) (ns : Namespace) (name : Name)
      (found : Option Constant)

variable {ι η υ : Type}

def Call.Reply : Call ι η υ → Type
  | change c => c.Reply
  | register .. => Unit
  | require _ => Bool
  | read .. | resolve .. => Value

abbrev AutoloadingCode (ι η υ α : Type) := Code (Call ι η υ) Call.Reply ResolveError α

/-- What each unit does when it is run for a path, and what each hook does. -/
structure Program (ι η υ : Type) where
  unit : υ → String → AutoloadingCode ι η υ Unit
  hook : η → Namespace → Symbol → AutoloadingCode ι η υ Value

/-- `started` are the paths for which a unit has been started, the last one first. -/
structure State (ι η υ : Type) extends Base ι η where
  features : Features υ := {}
  started : List String := []

namespace State

def base : Slot (State ι η υ) (Base ι η) where
  get := State.toBase
  set s toBase := { s with toBase }

def featuresSlot : Slot (State ι η υ) (Features υ) where
  get := State.features
  set s features := { s with features }

/-- Takes away what a name is bound to. -/
def takeAway (ns : Namespace) (name : String) (s : State ι η υ) : State ι η υ :=
  { s with store := s.store.remove ns name }

/-- Puts a marker back. -/
def putBack (ns : Namespace) (name path : String) (s : State ι η υ) : State ι η υ :=
  { s with store := s.store.mark ns name path }

/-- The state in which the unit of a path begins. -/
def begin (path : String) (s : State ι η υ) : State ι η υ :=
  { s with features := (s.features.enter path).count path, started := path :: s.started }

/-- The state after a unit has left `s`. -/
def finish (path : String) (ending : Except (Stop ResolveError) Unit) (s : State ι η υ) :
    State ι η υ :=
  { s with features := s.features.conclude path ending }

end State

namespace Program

/-- A way to run the code of units and hooks. -/
abbrev Runner (ι η υ : Type) := Code.Runner (Call ι η υ) Call.Reply (State ι η υ) ResolveError

def runUnit (P : Program ι η υ) (run : Runner ι η υ) (unit : υ) (path : String) :
    Act (State ι η υ) ResolveError Unit := do
  modify fun s => { s with started := path :: s.started }
  run (P.unit unit path)

section Require

variable {P : Program ι η υ} {run : Runner ι η υ} {path : String} {s t : State ι η υ} {unit : υ}

theorem require_of_unit_ok
    (hidle : (s.features.isLoaded path || s.features.isLoading path) = false)
    (hunit : s.features.units.get? path = some unit)
    (hruns : run (P.unit unit path) (s.begin path) = .ok () t) :
    Features.require State.featuresSlot (P.runUnit run) path s =
      .ok true (t.finish path (.ok ())) := by
  obtain ⟨houtcome, hafter⟩ :=
    Features.require_of_unit State.featuresSlot (P.runUnit run) (s := s) hidle hunit
  have hunder : P.runUnit run unit path
      (State.featuresSlot.adjust (fun f => (f.enter path).count path) s) = .ok () t := hruns
  rw [Act.eq_ok_iff, houtcome, hafter, Act.outcome_of_ok hunder, Act.after_of_ok hunder]
  exact ⟨rfl, rfl⟩

theorem require_of_unit_error {e : Stop ResolveError}
    (hidle : (s.features.isLoaded path || s.features.isLoading path) = false)
    (hunit : s.features.units.get? path = some unit)
    (hruns : run (P.unit unit path) (s.begin path) = .error e t) :
    Features.require State.featuresSlot (P.runUnit run) path s =
      .error e (t.finish path (.error e)) := by
  obtain ⟨houtcome, hafter⟩ :=
    Features.require_of_unit State.featuresSlot (P.runUnit run) (s := s) hidle hunit
  have hunder : P.runUnit run unit path
      (State.featuresSlot.adjust (fun f => (f.enter path).count path) s) = .error e t := hruns
  rw [Act.eq_error_iff, houtcome, hafter, Act.outcome_of_error hunder, Act.after_of_error hunder]
  exact ⟨rfl, rfl⟩

end Require

variable [DecidableEq ι]

def resolver (P : Program ι η υ) (run : Runner ι η υ) (i : ι) : Resolver (State ι η υ) η :=
  State.base.resolver i
    (fun path => discard (Features.require State.featuresSlot (P.runUnit run) path))
    fun hook ns symbol => run (P.hook hook ns symbol)

/-- What a call does, given a way to run code and fuel for chains of load units. -/
def perform (P : Program ι η υ) (run : Runner ι η υ) (fuel : Nat) :
    (c : Call ι η υ) → Act (State ι η υ) ResolveError c.Reply
  | .change c => State.base.store.update c.run
  | .register path unit => State.featuresSlot.modify (·.register path unit)
  | .require path => Features.require State.featuresSlot (P.runUnit run) path
  | .read i l ns name => (P.resolver run i).read (l.lookup State.base.store) fuel ns name
  | .resolve i l ns name found =>
    (P.resolver run i).resolve (l.lookup State.base.store) ns name fuel found

/-- Runs code of the program. -/
def exec (P : Program ι η υ) : Nat → Runner ι η υ := Code.exec P.perform

/-- A call that is made from outside all code of the program. -/
def call (P : Program ι η υ) (fuel : Nat) (c : Call ι η υ) :
    Act (State ι η υ) ResolveError c.Reply := P.perform (P.exec fuel) fuel c

/-! ### What one load does -/

section Load

variable {P : Program ι η υ} {run : Runner ι η υ} {i : ι} {path : String} {s t : State ι η υ}
  {unit : υ}

theorem load_of_busy
    (hbusy : (s.features.isLoaded path || s.features.isLoading path) = true) :
    (P.resolver run i).load path s = .ok () s :=
  Act.discard_of_ok (Features.require_of_busy State.featuresSlot (P.runUnit run) hbusy)

theorem load_of_no_unit
    (hidle : (s.features.isLoaded path || s.features.isLoading path) = false)
    (hunit : s.features.units.get? path = none) :
    (P.resolver run i).load path s = .error (.failure (.noSuchUnit path))
      (State.featuresSlot.adjust (fun f => (f.enter path).leave path) s) :=
  Act.discard_of_error
    (Features.require_of_no_unit State.featuresSlot (P.runUnit run) hidle hunit)

theorem load_of_unit_ok
    (hidle : (s.features.isLoaded path || s.features.isLoading path) = false)
    (hunit : s.features.units.get? path = some unit)
    (hruns : run (P.unit unit path) (s.begin path) = .ok () t) :
    (P.resolver run i).load path s = .ok () (t.finish path (.ok ())) :=
  Act.discard_of_ok (require_of_unit_ok hidle hunit hruns)

theorem load_of_unit_error {e : Stop ResolveError}
    (hidle : (s.features.isLoaded path || s.features.isLoading path) = false)
    (hunit : s.features.units.get? path = some unit)
    (hruns : run (P.unit unit path) (s.begin path) = .error e t) :
    (P.resolver run i).load path s = .error e (t.finish path (.error e)) :=
  Act.discard_of_error (require_of_unit_error hidle hunit hruns)

end Load

/-! ### What becomes of a marker -/

section Marker

variable {P : Program ι η υ} {run : Runner ι η υ} {i : ι} {fuel : Nat} {ns : Namespace}
  {name : Name} {path : String} {s t : State ι η υ}

/-- What resolver `i` makes of a constant that the name was found to be bound to in `ns` itself. -/
def resolveOwn (P : Program ι η υ) (run : Runner ι η υ) (i : ι) (ns : Namespace) (name : Name)
    (fuel : Nat) (found : Option Constant) : Act (State ι η υ) ResolveError Value :=
  (P.resolver run i).resolve (Strategy.own.lookup State.base.store) ns name fuel found

@[simp] theorem resolveOwn_value (v : Value) :
    P.resolveOwn run i ns name fuel (some ⟨ns, name, .value v⟩) s = .ok v s := by
  cases fuel with
  | zero => rfl
  | succ fuel => rfl

theorem read_of_bound {b : Binding} (h : s.store.binding? ns name.text = some b) :
    P.perform run fuel (.read i .own ns name) s =
      P.resolveOwn run i ns name fuel (some ⟨ns, name, b⟩) s := by
  have hfound : s.store.lookupOwn ns name = some ⟨ns, name, b⟩ := by
    simp [Store.lookupOwn, h]
  rw [← hfound]
  rfl

theorem read_of_value {v : Value} (h : s.store.binding? ns name.text = some (.value v)) :
    P.perform run fuel (.read i .own ns name) s = .ok v s :=
  (read_of_bound h).trans (resolveOwn_value v)

theorem resolveOwn_of_load (fuel : Nat)
    (hload : (P.resolver run i).load path (s.takeAway ns name.text) = .ok () t) :
    P.resolveOwn run i ns name (fuel + 1) (some ⟨ns, name, .autoload path⟩) s =
      (P.resolveOwn run i ns name fuel (t.store.lookupOwn ns name)).onStop
        (State.putBack ns name.text path) t := by
  have htaken : (P.resolver run i).store.modify (·.remove ns name.text) s =
      (.ok () (s.takeAway ns name.text) : EStateM.Result (Stop ResolveError) _ _) := rfl
  have hrest : ((P.resolver run i).load path >>= fun _ =>
      Strategy.own.lookup State.base.store ns name >>= P.resolveOwn run i ns name fuel)
        (s.takeAway ns name.text) =
      P.resolveOwn run i ns name fuel (t.store.lookupOwn ns name) t := Act.bind_of_ok hload
  rw [resolveOwn, Resolver.resolve, Resolver.withoutMarker, Act.bind_of_ok htaken]
  exact Act.onStop_congr hrest

theorem resolveOwn_of_failed_load (fuel : Nat) {e : Stop ResolveError}
    (hload : (P.resolver run i).load path (s.takeAway ns name.text) = .error e t) :
    P.resolveOwn run i ns name (fuel + 1) (some ⟨ns, name, .autoload path⟩) s =
      .error e (t.putBack ns name.text path) := by
  have hrest : ((P.resolver run i).load path >>= fun _ =>
      Strategy.own.lookup State.base.store ns name >>= P.resolveOwn run i ns name fuel)
        (s.takeAway ns name.text) = .error e t := Act.bind_of_error hload
  exact Resolver.resolve_autoload_eq_error.2 ⟨t, hrest, rfl⟩

theorem resolveOwn_of_unit (fuel : Nat) {unit : υ}
    (hidle : (s.features.isLoaded path || s.features.isLoading path) = false)
    (hunit : s.features.units.get? path = some unit)
    (hruns : run (P.unit unit path) ((s.takeAway ns name.text).begin path) = .ok () t) :
    P.resolveOwn run i ns name (fuel + 1) (some ⟨ns, name, .autoload path⟩) s =
      (P.resolveOwn run i ns name fuel (t.store.lookupOwn ns name)).onStop
        (State.putBack ns name.text path) (t.finish path (.ok ())) :=
  resolveOwn_of_load fuel (load_of_unit_ok hidle hunit hruns)

theorem resolveOwn_of_defining_unit (fuel : Nat) {unit : υ} {v : Value}
    (hidle : (s.features.isLoaded path || s.features.isLoading path) = false)
    (hunit : s.features.units.get? path = some unit)
    (hruns : run (P.unit unit path) ((s.takeAway ns name.text).begin path) = .ok () t)
    (hdefines : t.store.binding? ns name.text = some (.value v)) :
    P.resolveOwn run i ns name (fuel + 1) (some ⟨ns, name, .autoload path⟩) s =
      .ok v (t.finish path (.ok ())) := by
  have hfound : t.store.lookupOwn ns name = some ⟨ns, name, .value v⟩ := by
    simp [Store.lookupOwn, hdefines]
  rw [resolveOwn_of_unit fuel hidle hunit hruns, hfound]
  exact Act.onStop_of_ok (resolveOwn_value v)

theorem resolveOwn_of_failing_unit (fuel : Nat) {unit : υ} {e : Stop ResolveError}
    (hidle : (s.features.isLoaded path || s.features.isLoading path) = false)
    (hunit : s.features.units.get? path = some unit)
    (hruns : run (P.unit unit path) ((s.takeAway ns name.text).begin path) = .error e t) :
    P.resolveOwn run i ns name (fuel + 1) (some ⟨ns, name, .autoload path⟩) s =
      .error e ((t.finish path (.error e)).putBack ns name.text path) :=
  resolveOwn_of_failed_load fuel (load_of_unit_error hidle hunit hruns)

end Marker

/-! ### What no code can leave -/

section Within

variable {T : State ι η υ → State ι η υ → Prop}

/-- A relation that code cannot leave by what it does to tables and units, nor by what is memoised
for it, and that holds across a unit if it holds inside. -/
structure Closed (T : State ι η υ → State ι η υ → Prop) : Prop extends
    Base.Closed State.base T where
  register : ∀ path unit s, T s (State.featuresSlot.adjust (·.register path unit) s)
  no_unit : ∀ path s, (s.features.isLoaded path || s.features.isLoading path) = false →
    T s (State.featuresSlot.adjust (fun f => (f.enter path).leave path) s)
  unit : ∀ path ending s t, (s.features.isLoaded path || s.features.isLoading path) = false →
    T (s.begin path) t → T s (t.finish path ending)

variable (P : Program ι η υ) {run : Runner ι η υ}

theorem within_require (hT : Closed T)
    (hrun : ∀ {α : Type} (code : AutoloadingCode ι η υ α), (run code).Within T) (path : String) :
    (Features.require State.featuresSlot (P.runUnit run) path).Within T :=
  Features.within_require hT.refl (hT.no_unit path) fun s unit ending hidle =>
    hT.unit path ending s _ hidle (hrun (P.unit unit path) (s.begin path))

theorem resolvesWithin (hT : Closed T)
    (hrun : ∀ {α : Type} (code : AutoloadingCode ι η υ α), (run code).Within T) (i : ι)
    (l : Strategy) (ns : Namespace) (name : Name) :
    (P.resolver run i).ResolvesWithin T (fun _ => T) (l.lookup State.base.store) ns name := by
  refine hT.resolvesWithin (fun path s => ?_) (hT.within_lookup l) fun _ _ => hrun _
  rw [Act.after_discard]
  exact P.within_require hT hrun path s

theorem within_perform (hT : Closed T) (run : Runner ι η υ) (fuel : Nat)
    (hrun : ∀ {α : Type} (code : AutoloadingCode ι η υ α), (run code).Within T)
    (c : Call ι η υ) : (P.perform run fuel c).Within T := by
  cases c with
  | change c => exact hT.within_change c
  | register path unit => exact hT.register path unit
  | require path => exact P.within_require hT hrun path
  | read i l ns name => exact (P.resolvesWithin hT hrun i l ns name).read fuel
  | resolve i l ns name found =>
    exact (P.resolvesWithin hT hrun i l ns name).resolve fuel found

/-- All code of a program stays within a closed relation. -/
theorem within_exec (hT : Closed T) (fuel : Nat) {α : Type} (code : AutoloadingCode ι η υ α) :
    (P.exec fuel code).Within T :=
  Code.within_exec hT.refl hT.trans (P.within_perform hT) fuel code

end Within

/-- All memos keep names with their own symbols. -/
def FaithfulMemos (s : State ι η υ) : Prop := ∀ i, Faithful (s.memos i)

theorem closed_faithfulMemos :
    Closed fun s t : State ι η υ => FaithfulMemos s → FaithfulMemos t where
  refl _ h := h
  trans _ _ _ h h' hs := h' (h hs)
  tables _ _ h := h
  memo i name _ h j := faithful_update i name (h j)
  register _ _ _ h := h
  no_unit _ _ _ h := h
  unit _ _ _ _ _ h hs := h hs

end Program
end CallSite.Autoloading
