import CallSite.Resolve.Error

/-!
# Load units that run once

A unit that ran to its end is not run again. A unit that is running is not entered a
second time, and one that failed leaves no trace but its count, so it can be tried again.
-/
namespace CallSite

/-- `υ` is what a unit is. `runs` counts how often each path was started. -/
structure Features (υ : Type) where
  units : Dict String υ := .empty
  loaded : List String := []
  loading : List String := []
  runs : Dict String Nat := .empty

namespace Features

variable {υ σ : Type}

def register (f : Features υ) (path : String) (unit : υ) : Features υ :=
  { f with units := f.units.insert path unit }

def isLoaded (f : Features υ) (path : String) : Bool := f.loaded.contains path

def isLoading (f : Features υ) (path : String) : Bool := f.loading.contains path

def loadCount (f : Features υ) (path : String) : Nat := (f.runs.get? path).getD 0

def unitCount (f : Features υ) : Nat := f.units.size

def enter (f : Features υ) (path : String) : Features υ :=
  { f with loading := path :: f.loading }

def leave (f : Features υ) (path : String) : Features υ :=
  { f with loading := f.loading.filter (· != path) }

def count (f : Features υ) (path : String) : Features υ :=
  { f with runs := f.runs.insert path (f.loadCount path + 1) }

def complete (f : Features υ) (path : String) : Features υ :=
  { f with loaded := path :: f.loaded }

section Bookkeeping

variable (f : Features υ) (path q : String)

@[simp] theorem isLoaded_enter : (f.enter path).isLoaded q = f.isLoaded q := rfl

@[simp] theorem isLoaded_count : (f.count path).isLoaded q = f.isLoaded q := rfl

@[simp] theorem isLoaded_complete :
    (f.complete path).isLoaded q = (q == path || f.isLoaded q) := List.contains_cons

@[simp] theorem isLoading_enter :
    (f.enter path).isLoading q = (q == path || f.isLoading q) := List.contains_cons

@[simp] theorem isLoading_leave :
    (f.leave path).isLoading q = (q != path && f.isLoading q) := by
  rw [Bool.eq_iff_iff]
  simp [isLoading, leave, and_comm]

@[simp] theorem isLoading_count : (f.count path).isLoading q = f.isLoading q := rfl

@[simp] theorem isLoading_complete : (f.complete path).isLoading q = f.isLoading q := rfl

@[simp] theorem loadCount_enter : (f.enter path).loadCount q = f.loadCount q := rfl

@[simp] theorem loadCount_count :
    (f.count path).loadCount q = if q = path then f.loadCount path + 1 else f.loadCount q := by
  simp only [loadCount, count, Dict.get?_insert]
  by_cases h : q = path
  · simp [h]
  · simp [h]

end Bookkeeping

/-- Runs the unit of a path unless it is loaded or loading; answers whether it ran. -/
def require (features : Slot σ (Features υ)) (run : υ → String → Act σ ResolveError Unit)
    (path : String) : Act σ ResolveError Bool := do
  let f ← features.read
  if f.isLoaded path || f.isLoading path then return false
  features.modify (·.enter path)
  let body : Act σ ResolveError Bool := do
    match f.units.get? path with
    | none => Act.fail (.noSuchUnit path)
    | some unit =>
      features.modify (·.count path)
      run unit path
      features.modify (·.complete path)
      return true
  body.afterwards (features.adjust (·.leave path))

/-- What becomes of a loading path when its unit has ended. -/
def conclude (path : String) (ending : Except (Stop ResolveError) Unit) (f : Features υ) :
    Features υ :=
  match ending with
  | .ok _ => (f.complete path).leave path
  | .error _ => f.leave path

section Conclude

variable (f : Features υ) (path q : String) (ending : Except (Stop ResolveError) Unit)

@[simp] theorem isLoaded_conclude_ok (u : Unit) :
    (f.conclude path (.ok u)).isLoaded q = (q == path || f.isLoaded q) :=
  isLoaded_complete f path q

@[simp] theorem isLoaded_conclude_error (e : Stop ResolveError) :
    (f.conclude path (.error e)).isLoaded q = f.isLoaded q := rfl

@[simp] theorem isLoading_conclude :
    (f.conclude path ending).isLoading q = (q != path && f.isLoading q) := by
  cases ending with
  | ok _ => simp [conclude]
  | error _ => simp [conclude]

@[simp] theorem loadCount_conclude : (f.conclude path ending).loadCount q = f.loadCount q := by
  cases ending with
  | ok _ => rfl
  | error _ => rfl

/-- What is entered and left again is not loading, as before. -/
theorem isLoading_outside {f : Features υ} {path : String} (hidle : f.isLoading path = false) :
    (q != path && (q == path || f.isLoading q)) = f.isLoading q := by
  by_cases hq : q = path
  · simp [hq, hidle]
  · have hne : (q == path) = false := by simpa using hq
    simp [bne, hne]

/-- The entries for units that are running are as they were before this one. -/
theorem isLoading_conclude_enter {f : Features υ} {path : String}
    (hidle : f.isLoading path = false) :
    (((f.enter path).count path).conclude path ending).isLoading q = f.isLoading q := by
  rw [isLoading_conclude, isLoading_count, isLoading_enter, isLoading_outside q hidle]

end Conclude

section Require

variable (features : Slot σ (Features υ)) (run : υ → String → Act σ ResolveError Unit)
  {path : String} {s : σ}

theorem require_of_busy
    (hbusy : ((features.get s).isLoaded path || (features.get s).isLoading path) = true) :
    require features run path s = .ok false s := by
  simp only [require, Bind.bind, EStateM.bind, Slot.read, hbusy, if_true]
  rfl

theorem require_of_no_unit
    (hidle : ((features.get s).isLoaded path || (features.get s).isLoading path) = false)
    (hunit : (features.get s).units.get? path = none) :
    require features run path s = .error (.failure (.noSuchUnit path))
      (features.adjust (fun f => (f.enter path).leave path) s) := by
  have hleave := Slot.adjust_adjust features (·.enter path) (·.leave path) s
  simp only [require, Bind.bind, EStateM.bind, Slot.read, hidle, hunit]
  exact congrArg (EStateM.Result.error (Stop.failure (ResolveError.noSuchUnit path))) hleave

theorem require_of_unit {unit : υ}
    (hidle : ((features.get s).isLoaded path || (features.get s).isLoading path) = false)
    (hunit : (features.get s).units.get? path = some unit) :
    let start := features.adjust (fun f => (f.enter path).count path) s
    let ending := (run unit path).outcome start
    (require features run path).outcome s = ending.map (fun _ => true) ∧
      (require features run path).after s =
        features.adjust (conclude path ending) ((run unit path).after start) := by
  intro start ending
  have hstart : features.adjust (·.count path) (features.adjust (·.enter path) s) = start :=
    Slot.adjust_adjust features _ _ s
  simp only [ending, require, Bind.bind, EStateM.bind, Slot.read, hidle, hunit, hstart,
    Bool.false_eq_true, if_false, Slot.modify, Act.afterwards, Act.outcome, Act.after]
  cases run unit path start with
  | ok _ s₁ => exact ⟨rfl, Slot.adjust_adjust features _ _ s₁⟩
  | error _ _ => exact ⟨rfl, rfl⟩

end Require

end Features
end CallSite
