import CallSite.Pattern.Site
import CallSite.Proofs.Code

/-!
# Programs that build patterns

A program gives the code of the compiler behind one pattern site, and of the sources of its
fragments. That code, and the code that a run starts with, may build at the same site, look at it,
take tags, keep a memory of its own, fail and panic. A run keeps a log of the builds.
-/
namespace CallSite.Building

open Pattern

/-- `ς` are the sources of fragments and `μ` is what code remembers. -/
inductive Call (ς μ : Type) where
  | look
  | keep (memory : μ)
  | tag
  | build (fragments : List Fragment)
  | buildFrom (sources : List ς)

/-- What a site tells about itself, and the advice it has given so far. -/
structure View where
  unstable : Bool
  length : Nat
  stats : SiteStats
  advice : List String
  deriving Repr, DecidableEq

variable {ς μ : Type}

def Call.Reply : Call ς μ → Type
  | look => View × μ
  | keep _ => Unit
  | tag => Nat
  | build _ | buildFrom _ => Pattern

abbrev BuildingCode (ς μ α : Type) := Code (Call ς μ) Call.Reply PatternError α

/-- What the compiler and the sources of fragments do at a site with the given fixed parts. -/
structure Program (ς μ : Type) where
  options : Options
  warnUnstable : Bool
  compile : Source → Options → BuildingCode ς μ Compiled
  evaluate : ς → BuildingCode ς μ Fragment

/-- `asked` and `answered` are the two ends of a build from fragments that have been evaluated. In
between the fragments may have been `compiled`. -/
inductive Event where
  | asked (fragments : List Fragment)
  | compiled (fragments : List Fragment)
  | answered (fragments : List Fragment) (ending : Except (Stop PatternError) Pattern) (view : View)
  | seen (view : View)

/-- The log is last first. -/
structure State (μ : Type) where
  cache : SiteCache (List Fragment) (Shared Template)
  nextTag : Nat
  memory : μ
  advice : List String := []
  log : List Event := []

namespace State

/-- A new site. -/
def start (limit : Limit) (nextTag : Nat) (memory : μ) : State μ :=
  { cache := { limit }, nextTag, memory }

def view (s : State μ) : View := ⟨s.cache.unstable, s.cache.length, s.cache.stats, s.advice⟩

def record (e : Event) (s : State μ) : State μ := { s with log := e :: s.log }

def recordAnswer (fragments : List Fragment) (ending : Except (Stop PatternError) Pattern)
    (s : State μ) : State μ := s.record (.answered fragments ending s.view)

/-- A compiler has given its template the next tag. -/
def recordCompiled (fragments : List Fragment) (s : State μ) : State μ :=
  { s.record (.compiled fragments) with nextTag := s.nextTag + 1 }

def advise (message : String) (s : State μ) : State μ :=
  { s with advice := s.advice ++ [message] }

def cacheSlot : Slot (State μ) (SiteCache (List Fragment) (Shared Template)) where
  get := State.cache
  set s cache := { s with cache }

def tagSlot : Slot (State μ) Nat where
  get := State.nextTag
  set s nextTag := { s with nextTag }

end State

namespace Program

/-- A way to run the code of compilers and of sources of fragments. -/
abbrev Runner (ς μ : Type) := Code.Runner (Call ς μ) Call.Reply (State μ) PatternError

/-- The site as it works for a build from the given fragments. -/
def site (P : Program ς μ) (run : Runner ς μ) (fragments : List Fragment) : Site (State μ) where
  options := P.options
  warnUnstable := P.warnUnstable
  compile source options := do
    let compiled ← run (P.compile source options)
    modify (State.record (.compiled fragments))
    return compiled
  cache := State.cacheSlot
  nextTag := State.tagSlot
  advise := State.advise

/-- A build at the site, with its two ends noted. -/
def build (P : Program ς μ) (run : Runner ς μ) (fragments : List Fragment) :
    Act (State μ) PatternError Pattern := do
  modify (State.record (.asked fragments))
  ((P.site run fragments).build fragments).noting (State.recordAnswer fragments)

/-- What a call does, given a way to run code. As in `Site.buildFrom`, all sources are evaluated
before the build begins. -/
def perform (P : Program ς μ) (run : Runner ς μ) :
    (c : Call ς μ) → Act (State μ) PatternError c.Reply
  | .look => fun s => .ok (s.view, s.memory) (s.record (.seen s.view))
  | .keep memory => modify fun s => { s with memory }
  | .tag => State.tagSlot.update fun n => (n, n + 1)
  | .build fragments => P.build run fragments
  | .buildFrom sources => do P.build run (← sources.mapM fun source => run (P.evaluate source))

/-- Runs code of the program. -/
def exec (P : Program ς μ) : Nat → Runner ς μ := Code.exec fun run _ => P.perform run

section Site

variable {P : Program ς μ} {run : Runner ς μ} {fragments : List Fragment} {s : State μ}

/-- Either something stops the compiler, or there is a new template. -/
theorem compileNew_cases (P : Program ς μ) {T : State μ → State μ → Prop} (hrefl : ∀ s, T s s)
    (hrun : ∀ {α : Type} (code : BuildingCode ς μ α), Act.Within T (run code))
    (fragments : List Fragment) (s : State μ) :
    (∃ e s', (P.site run fragments).compileNew fragments s = .error e s' ∧ T s s') ∨
      ∃ template s', (P.site run fragments).compileNew fragments s =
        .ok ⟨template, s'.nextTag⟩ (s'.recordCompiled fragments) ∧ T s s' := by
  cases hsource : Source.ofFragments P.options fragments with
  | error e =>
    refine .inl ⟨.failure e, s, ?_, hrefl s⟩
    simp only [Site.compileNew, compileFragments, site, hsource]
    rfl
  | ok source =>
    have hjoined : (Act.ofExcept (Source.ofFragments P.options fragments) :
        Act (State μ) PatternError Source) s = .ok source s := by
      rw [hsource]
      rfl
    have hcode := hrun (P.compile source P.options) s
    cases hend : run (P.compile source P.options) s with
    | error e s' =>
      rw [Act.after_of_error hend] at hcode
      have hcompile : (P.site run fragments).compile source P.options s = .error e s' :=
        Act.bind_of_error hend
      have hfragments : compileFragments (P.site run fragments).compile P.options fragments s =
          .error e s' := (Act.bind_of_ok hjoined).trans (Act.bind_of_error hcompile)
      exact .inl ⟨e, s', Act.bind_of_error hfragments, hcode⟩
    | ok compiled s' =>
      rw [Act.after_of_ok hend] at hcode
      have hcompile : (P.site run fragments).compile source P.options s =
          .ok compiled (s'.record (.compiled fragments)) := Act.bind_of_ok hend
      have hfragments : compileFragments (P.site run fragments).compile P.options fragments s =
          .ok _ (s'.record (.compiled fragments)) :=
        (Act.bind_of_ok hjoined).trans (Act.bind_of_ok hcompile)
      exact .inr ⟨_, s', Act.bind_of_ok hfragments, hcode⟩

theorem build_of_ok {p : Pattern} {s' : State μ}
    (h : (P.site run fragments).build fragments (s.record (.asked fragments)) = .ok p s') :
    P.build run fragments s = .ok p (s'.recordAnswer fragments (.ok p)) := by
  change Act.noting _ _ (s.record (.asked fragments)) = _
  simp only [Act.noting, h]

theorem build_of_error {e : Stop PatternError} {s' : State μ}
    (h : (P.site run fragments).build fragments (s.record (.asked fragments)) = .error e s') :
    P.build run fragments s = .error e (s'.recordAnswer fragments (.error e)) := by
  change Act.noting _ _ (s.record (.asked fragments)) = _
  simp only [Act.noting, h]

theorem after_build_of_ok {p : Pattern} {s' : State μ}
    (h : (P.site run fragments).build fragments (s.record (.asked fragments)) = .ok p s') :
    (P.build run fragments).after s = s'.recordAnswer fragments (.ok p) :=
  Act.after_of_ok (build_of_ok h)

theorem after_build_of_error {e : Stop PatternError} {s' : State μ}
    (h : (P.site run fragments).build fragments (s.record (.asked fragments)) = .error e s') :
    (P.build run fragments).after s = s'.recordAnswer fragments (.error e) :=
  Act.after_of_error (build_of_error h)

end Site

end Program
end CallSite.Building
