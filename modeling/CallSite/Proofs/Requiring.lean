import CallSite.Proofs.Code
import CallSite.Resolve.Feature

/-!
# Programs that load features

A program gives the body of each load unit. Bodies, and the code that a run starts with, may
require any path, their own included, and register units; they look at the loader, keep a
memory of their own, fail and panic. A run keeps a log of what becomes of these calls.
-/
namespace CallSite.Requiring

/-- `υ` are the units and `μ` is what code remembers. -/
inductive Call (υ μ : Type) where
  | look
  | keep (memory : μ)
  | require (path : String)
  | register (path : String) (unit : υ)

variable {υ μ : Type}

/-- `look` answers with all of the loader and the memory. -/
def Call.Reply : Call υ μ → Type
  | look => Features υ × μ
  | require _ => Bool
  | keep _ | register .. => Unit

abbrev RequiringCode (υ μ α : Type) := Code (Call υ μ) Call.Reply ResolveError α

/-- What each unit does when it is run for a path. -/
abbrev Bodies (υ μ : Type) := υ → String → RequiringCode υ μ Unit

/-- `called` and `answered` are the two ends of a `require`, `started` and `ended` those of the
body that it runs. -/
inductive Event (υ : Type) where
  | called (path : String)
  | started (path : String) (unit : υ)
  | ended (path : String) (ending : Except (Stop ResolveError) Unit)
  | answered (path : String) (ending : Except (Stop ResolveError) Bool)
  | registered (path : String) (unit : υ)
  | seen (features : Features υ)

/-- The log is last first. -/
structure State (υ μ : Type) where
  features : Features υ := {}
  memory : μ
  log : List (Event υ) := []

namespace State

def record (e : Event υ) (s : State υ μ) : State υ μ := { s with log := e :: s.log }

def featuresSlot : Slot (State υ μ) (Features υ) where
  get := State.features
  set s features := { s with features }

end State

/-- A way to run the bodies of units. -/
abbrev Runner (υ μ : Type) := Code.Runner (Call υ μ) Call.Reply (State υ μ) ResolveError

def runUnit (bodies : Bodies υ μ) (run : Runner υ μ) (unit : υ) (path : String) :
    Act (State υ μ) ResolveError Unit := do
  modify (State.record (.started path unit))
  (run (bodies unit path)).noting fun ending => State.record (.ended path ending)

/-- What a call does, given a way to run the bodies of units. -/
def perform (bodies : Bodies υ μ) (run : Runner υ μ) :
    (c : Call υ μ) → Act (State υ μ) ResolveError c.Reply
  | .look => fun s => .ok (s.features, s.memory) (s.record (.seen s.features))
  | .keep memory => modify fun s => { s with memory }
  | .require path => do
    modify (State.record (.called path))
    (Features.require State.featuresSlot (runUnit bodies run) path).noting fun ending =>
      State.record (.answered path ending)
  | .register path unit => modify fun s =>
    State.record (.registered path unit) { s with features := s.features.register path unit }

/-- Runs code in which units have the given bodies. -/
def exec (bodies : Bodies υ μ) : Nat → Runner υ μ := Code.exec fun run _ => perform bodies run

/-! ### What one `require` leaves -/

variable {bodies : Bodies υ μ} {run : Runner υ μ} {s : State υ μ} {path : String}

theorem after_require :
    (perform bodies run (.require path)).after s =
      State.record
        (.answered path ((Features.require State.featuresSlot (runUnit bodies run) path).outcome
          (s.record (.called path))))
        ((Features.require State.featuresSlot (runUnit bodies run) path).after
          (s.record (.called path))) :=
  Act.after_noting (Features.require State.featuresSlot (runUnit bodies run) path)
    (fun ending => State.record (.answered path ending)) (s.record (.called path))

theorem after_require_of_busy
    (hbusy : (s.features.isLoaded path || s.features.isLoading path) = true) :
    (perform bodies run (.require path)).after s =
      State.record (.answered path (.ok false)) (s.record (.called path)) := by
  have hskip := Features.require_of_busy State.featuresSlot (runUnit bodies run)
    (s := s.record (.called path)) hbusy
  rw [after_require]
  simp only [Act.after, Act.outcome, hskip]

theorem after_require_of_no_unit
    (hidle : (s.features.isLoaded path || s.features.isLoading path) = false)
    (hunit : s.features.units.get? path = none) :
    (perform bodies run (.require path)).after s =
      State.record (.answered path (.error (.failure (.noSuchUnit path))))
        (State.record (.called path)
          { s with features := (s.features.enter path).leave path }) := by
  have hfails := Features.require_of_no_unit State.featuresSlot (runUnit bodies run)
    (s := s.record (.called path)) hidle hunit
  rw [after_require]
  simp only [Act.after, Act.outcome, hfails]
  rfl

/-- The state in which the body of a unit begins. -/
def State.begin (path : String) (unit : υ) (s : State υ μ) : State υ μ :=
  State.record (.started path unit) (State.record (.called path)
    { s with features := (s.features.enter path).count path })

/-- The state after a `require` whose body has left `s`. -/
def State.finish (path : String) (ending : Except (Stop ResolveError) Unit) (s : State υ μ) :
    State υ μ :=
  State.record (.answered path (ending.map fun _ => true)) (State.record (.ended path ending)
    { s with features := s.features.conclude path ending })

theorem after_require_of_unit {unit : υ}
    (hidle : (s.features.isLoaded path || s.features.isLoading path) = false)
    (hunit : s.features.units.get? path = some unit) :
    (perform bodies run (.require path)).after s =
      State.finish path ((run (bodies unit path)).outcome (s.begin path unit))
        ((run (bodies unit path)).after (s.begin path unit)) := by
  have hruns := Features.require_of_unit State.featuresSlot (runUnit bodies run)
    (s := s.record (.called path)) hidle hunit
  have houtcome (t : State υ μ) : (runUnit bodies run unit path).outcome t =
      (run (bodies unit path)).outcome (t.record (.started path unit)) := by
    rw [runUnit, Act.outcome_modify_bind, Act.outcome_noting]
  have hafter (t : State υ μ) : (runUnit bodies run unit path).after t =
      State.record (.ended path ((runUnit bodies run unit path).outcome t))
        ((run (bodies unit path)).after (t.record (.started path unit))) := by
    rw [houtcome, runUnit, Act.after_modify_bind, Act.after_noting]
  rw [after_require, hruns.1, hruns.2, hafter, houtcome]
  rfl

end CallSite.Requiring
