/-!
# Code that changes state and may stop

Load units, hooks, fragment sources and pattern compilers are code of the embedding
program: they may change any state, fail, or panic. What they changed before they stopped
stays changed. Code that may go on for ever is given fuel, and running out of it is told
apart from every outcome of the code itself.
-/
namespace CallSite

inductive Stop (ε : Type) where
  | failure (e : ε)
  | panic (message : String)
  | outOfFuel
  deriving Repr, DecidableEq

namespace Stop

def map {ε ε' : Type} (f : ε → ε') : Stop ε → Stop ε'
  | failure e => failure (f e)
  | panic message => panic message
  | outOfFuel => outOfFuel

end Stop

abbrev Act (σ ε α : Type) := EStateM (Stop ε) σ α

namespace Act

variable {σ ε ε' α : Type}

def fail (e : ε) : Act σ ε α := throw (.failure e)

def panic (message : String) : Act σ ε α := throw (.panic message)

def outOfFuel : Act σ ε α := throw .outOfFuel

def ofExcept : Except ε α → Act σ ε α
  | .ok a => pure a
  | .error e => fail e

/-- Code that changes nothing and ends in a given way. -/
def ofOutcome : Except (Stop ε) α → Act σ ε α
  | .ok a => pure a
  | .error e => throw e

/-- Runs `x` and, if it stops without a value for whatever reason, cleans up. -/
def onStop (x : Act σ ε α) (cleanUp : σ → σ) : Act σ ε α := fun s =>
  match x s with
  | .ok a s => .ok a s
  | .error e s => .error e (cleanUp s)

/-- Runs `x` and cleans up, however it ends. -/
def afterwards (x : Act σ ε α) (cleanUp : σ → σ) : Act σ ε α := fun s =>
  match x s with
  | .ok a s => .ok a (cleanUp s)
  | .error e s => .error e (cleanUp s)

/-- The outcome of `x` as a value, for a failure that does not go further. -/
def caught (x : Act σ ε α) : Act σ ε' (Except ε α) := fun s =>
  match x s with
  | .ok a s => .ok (.ok a) s
  | .error (.failure e) s => .ok (.error e) s
  | .error (.panic message) s => .error (.panic message) s
  | .error .outOfFuel s => .error .outOfFuel s

def mapFailure (x : Act σ ε α) (f : ε → ε') : Act σ ε' α := fun s =>
  match x s with
  | .ok a s => .ok a s
  | .error e s => .error (e.map f) s

/-- How `x` ends when it is run in a state. -/
def outcome (x : Act σ ε α) (s : σ) : Except (Stop ε) α :=
  match x s with
  | .ok a _ => .ok a
  | .error e _ => .error e

/-- The state that `x` leaves, however it ends. -/
def after (x : Act σ ε α) (s : σ) : σ :=
  match x s with
  | .ok _ s => s
  | .error _ s => s

theorem bind_eq_error {β : Type} {x : Act σ ε α} {f : α → Act σ ε β} {s s' : σ} {e : Stop ε} :
    (x >>= f) s = .error e s' ↔
      x s = .error e s' ∨ ∃ a s₁, x s = .ok a s₁ ∧ f a s₁ = .error e s' := by
  simp only [bind, EStateM.bind]
  cases x s with
  | ok a s₁ =>
    constructor
    · intro h
      exact .inr ⟨a, s₁, rfl, h⟩
    · rintro (⟨⟨⟩⟩ | ⟨_, _, ⟨⟩, h⟩)
      exact h
  | error e s₁ => simp

theorem bind_eq_ok {β : Type} {x : Act σ ε α} {f : α → Act σ ε β} {b : β} {s s' : σ} :
    (x >>= f) s = .ok b s' ↔ ∃ a s₁, x s = .ok a s₁ ∧ f a s₁ = .ok b s' := by
  simp only [bind, EStateM.bind]
  cases x s with
  | ok a s₁ =>
    constructor
    · intro h
      exact ⟨a, s₁, rfl, h⟩
    · rintro ⟨_, _, ⟨⟩, h⟩
      exact h
  | error e s₁ => simp

theorem ofExcept_eq_ok_iff {x : Except ε α} {a : α} {s s' : σ} :
    ofExcept x s = .ok a s' ↔ x = .ok a ∧ s = s' := by
  cases x with
  | ok a' => simp [ofExcept, pure, EStateM.pure]
  | error e => exact iff_of_false nofun (by simp)

theorem ofExcept_eq_failure_iff {x : Except ε α} {e : ε} {s s' : σ} :
    ofExcept x s = .error (.failure e) s' ↔ x = .error e ∧ s = s' := by
  cases x with
  | ok a => exact iff_of_false nofun (by simp)
  | error e' =>
    change EStateM.Result.error (Stop.failure e') s = _ ↔ _
    simp

theorem onStop_eq_error {x : Act σ ε α} {cleanUp : σ → σ} {s s' : σ} {e : Stop ε} :
    x.onStop cleanUp s = .error e s' ↔ ∃ s₁, x s = .error e s₁ ∧ cleanUp s₁ = s' := by
  simp only [onStop]
  cases x s with
  | ok a s₁ => simp
  | error e s₁ =>
    constructor
    · rintro ⟨⟩
      exact ⟨s₁, rfl, rfl⟩
    · rintro ⟨_, ⟨⟩, rfl⟩
      rfl

end Act

/-- A part of a state. Reading gives what was last written, and only the last write counts. -/
structure Slot (σ τ : Type) where
  get : σ → τ
  set : σ → τ → σ
  get_set : ∀ s t, get (set s t) = t := by intros; rfl
  set_set : ∀ s t t', set (set s t) t' = set s t' := by intros; rfl

namespace Slot

variable {σ τ ε α β : Type}

/-- The whole state as a part of itself. -/
def whole : Slot τ τ where
  get s := s
  set _ t := t

def first : Slot (α × β) α where
  get := Prod.fst
  set s a := (a, s.2)

def second : Slot (α × β) β where
  get := Prod.snd
  set s b := (s.1, b)

/-- Writing one part leaves the other as it is, both ways. -/
structure Apart {τ' : Type} (slot : Slot σ τ) (other : Slot σ τ') : Prop where
  get_left : ∀ s t, slot.get (other.set s t) = slot.get s := by intros; rfl
  get_right : ∀ s t, other.get (slot.set s t) = other.get s := by intros; rfl

def adjust (slot : Slot σ τ) (f : τ → τ) (s : σ) : σ := slot.set s (f (slot.get s))

@[simp] theorem get_adjust (slot : Slot σ τ) (f : τ → τ) (s : σ) :
    slot.get (slot.adjust f s) = f (slot.get s) := slot.get_set s _

theorem adjust_adjust (slot : Slot σ τ) (f g : τ → τ) (s : σ) :
    slot.adjust g (slot.adjust f s) = slot.adjust (fun t => g (f t)) s := by
  simp only [adjust, slot.get_set, slot.set_set]

def read (slot : Slot σ τ) : Act σ ε τ := fun s => .ok (slot.get s) s

def modify (slot : Slot σ τ) (f : τ → τ) : Act σ ε Unit := fun s => .ok () (slot.adjust f s)

/-- Changes the part and answers something about the change. -/
def update (slot : Slot σ τ) (f : τ → α × τ) : Act σ ε α := fun s =>
  let (a, t) := f (slot.get s)
  .ok a (slot.set s t)

theorem update_bind (slot : Slot σ τ) (f : τ → α × τ) (k : α → Act σ ε β) (s : σ) :
    (slot.update f >>= k) s = k (f (slot.get s)).1 (slot.set s (f (slot.get s)).2) := rfl

end Slot
end CallSite
