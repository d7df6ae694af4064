import CallSite.Proofs.Requiring

/-!
# Features are loaded once

All that a loader knows can be read off the log: the paths it is loading are those whose bodies
are running, those it has loaded are those of which a body has run to its end, and it has
counted the bodies that were started. So the log also tells what each call must do.
-/
namespace CallSite.Requiring

variable {υ μ : Type}

/-! ### What a log says -/

/-- The paths whose bodies have started and not ended, the innermost first. -/
def active : List (Event υ) → List String
  | [] => []
  | .started path _ :: log => path :: active log
  | .ended path _ :: log => (active log).erase path
  | _ :: log => active log

namespace Event

def starts (path : String) : Event υ → Bool
  | started p _ => p == path
  | _ => false

def completes (path : String) : Event υ → Bool
  | ended p (.ok _) => p == path
  | _ => false

def unit? (path : String) : Event υ → Option υ
  | registered p unit => if p = path then some unit else none
  | _ => none

end Event

/-- How often a body has been started for a path. -/
def starts (path : String) (log : List (Event υ)) : Nat := log.countP (Event.starts path)

/-- Some body has run to its end for a path. -/
def completed (path : String) (log : List (Event υ)) : Bool := log.any (Event.completes path)

/-- The unit that was last registered for a path. -/
def unit? (path : String) (log : List (Event υ)) : Option υ := log.findSome? (Event.unit? path)

/-- What a `require` does first if the log is `log` when it is called. -/
def reaction (path : String) (log : List (Event υ)) : Event υ :=
  if completed path log || (active log).contains path then .answered path (.ok false)
  else
    match unit? path log with
    | some unit => .started path unit
    | none => .answered path (.error (.failure (.noSuchUnit path)))

/-- The loader knows what the log says. -/
structure Agrees (f : Features υ) (log : List (Event υ)) : Prop where
  loading : f.loading = active log
  isLoaded : ∀ path, f.isLoaded path = completed path log
  loadCount : ∀ path, f.loadCount path = starts path log
  unit : ∀ path, f.units.get? path = unit? path log

/-- Code goes on only when its last call has been answered. -/
def AtRest : List (Event υ) → Prop
  | .called _ :: _ | .ended .. :: _ => False
  | _ => True

/-- The events that may come next. -/
inductive Allowed : Event υ → List (Event υ) → Prop
  | called {path : String} {log : List (Event υ)} : AtRest log → Allowed (.called path) log
  | reacted {e : Event υ} {path : String} {log : List (Event υ)} :
    reaction path log = e → Allowed e (.called path :: log)
  | ended {path : String} {ending : Except (Stop ResolveError) Unit} {log : List (Event υ)} :
    AtRest log → path ∈ active log → Allowed (.ended path ending) log
  | answered {path : String} {ending : Except (Stop ResolveError) Unit} {log : List (Event υ)} :
    Allowed (.answered path (ending.map fun _ => true)) (.ended path ending :: log)
  | registered {path : String} {unit : υ} {log : List (Event υ)} :
    AtRest log → Allowed (.registered path unit) log
  | seen {f : Features υ} {log : List (Event υ)} :
    AtRest log → Agrees f log → Allowed (.seen f) log

inductive Lawful : List (Event υ) → Prop
  | nil : Lawful []
  | cons {e : Event υ} {log : List (Event υ)} : Allowed e log → Lawful log → Lawful (e :: log)

/-! ### Lawful logs -/

/-- A path is started only if it is neither loaded nor loading, and nothing but the end of a
body is answered with `true`. -/
theorem reaction_cases (path : String) (log : List (Event υ)) :
    (∃ ending, ending ≠ .ok true ∧ reaction path log = .answered path ending) ∨
      ∃ unit, reaction path log = .started path unit ∧ completed path log = false ∧
        path ∉ active log := by
  unfold reaction
  split
  · exact .inl ⟨.ok false, by simp, rfl⟩
  · next hidle =>
    rw [Bool.or_eq_true, not_or] at hidle
    have hinactive : path ∉ active log := by simpa using hidle.2
    split
    · next unit _ => exact .inr ⟨unit, rfl, Bool.eq_false_iff.2 hidle.1, hinactive⟩
    · exact .inl ⟨.error (.failure (.noSuchUnit path)), by simp, rfl⟩

namespace Lawful

variable {log later earlier : List (Event υ)} {e : Event υ} {path : String}

theorem of_append (h : Lawful (later ++ log)) : Lawful log := by
  induction later with
  | nil => exact h
  | cons e later ih =>
    cases h with
    | cons _ hrest => exact ih hrest

theorem allowed (h : Lawful (later ++ e :: earlier)) : Allowed e earlier := by
  cases h.of_append with
  | cons hallowed _ => exact hallowed

theorem active_nodup (h : Lawful log) : (active log).Nodup := by
  induction h with
  | nil => exact List.nodup_nil
  | @cons e log hallowed _ ih =>
    cases hallowed with
    | called _ => exact ih
    | @reacted _ path log hreacts =>
      subst hreacts
      obtain ⟨ending, -, hreacts⟩ | ⟨unit, hreacts, -, hinactive⟩ := reaction_cases path log
      · rw [hreacts]
        exact ih
      · rw [hreacts]
        exact List.nodup_cons.2 ⟨hinactive, ih⟩
    | @ended path _ _ _ _ => exact ih.erase path
    | answered => exact ih
    | registered _ => exact ih
    | seen _ _ => exact ih

end Lawful

/-! ### After the end of a body -/

/-- The path is loaded and no body runs for it any more. -/
structure Settled (path : String) (log : List (Event υ)) : Prop where
  completed : completed path log = true
  inactive : path ∉ active log

/-- The event begins or ends a body for a path. -/
def Event.Runs (path : String) : Event υ → Prop
  | started p _ | ended p _ => p = path
  | _ => False

namespace Settled

variable {path : String} {e : Event υ} {log later : List (Event υ)}

theorem cons (h : Settled path log) (hallowed : Allowed e log) :
    Settled path (e :: log) ∧ ¬ e.Runs path := by
  have hcompleted (e : Event υ) : Requiring.completed path (e :: log) = true := by
    rw [Requiring.completed, List.any_cons, Bool.or_eq_true]
    exact .inr h.completed
  cases hallowed with
  | called _ => exact ⟨⟨hcompleted _, h.inactive⟩, id⟩
  | @reacted _ p log hreacts =>
    subst hreacts
    obtain ⟨ending, -, hreacts⟩ | ⟨unit, hreacts, hincomplete, -⟩ := reaction_cases p log
    · rw [hreacts]
      exact ⟨⟨hcompleted _, h.inactive⟩, id⟩
    · rw [hreacts]
      have hne : p ≠ path := by
        rintro rfl
        exact Bool.false_ne_true (hincomplete.symm.trans h.completed)
      refine ⟨⟨hcompleted _, ?_⟩, hne⟩
      intro hmem
      rcases List.mem_cons.1 hmem with heq | hold
      · exact hne heq.symm
      · exact h.inactive hold
  | @ended p _ _ _ hactive =>
    have hne : p ≠ path := by
      rintro rfl
      exact h.inactive hactive
    exact ⟨⟨hcompleted _, fun hmem => h.inactive (List.mem_of_mem_erase hmem)⟩, hne⟩
  | answered => exact ⟨⟨hcompleted _, h.inactive⟩, id⟩
  | registered _ => exact ⟨⟨hcompleted _, h.inactive⟩, id⟩
  | seen _ _ => exact ⟨⟨hcompleted _, h.inactive⟩, id⟩

/-- A settled path stays settled, and no body runs for it again. -/
theorem append (h : Settled path log) (hlawful : Lawful (later ++ log)) :
    Settled path (later ++ log) ∧ ∀ e ∈ later, ¬ e.Runs path := by
  induction later with
  | nil => exact ⟨h, fun e he => (List.not_mem_nil he).elim⟩
  | cons e later ih =>
    cases hlawful with
    | cons hallowed hrest =>
      obtain ⟨hsettled, hquiet⟩ := ih hrest
      obtain ⟨hnext, he⟩ := hsettled.cons hallowed
      refine ⟨hnext, ?_⟩
      intro e' hmem
      rcases List.mem_cons.1 hmem with rfl | hold
      · exact he
      · exact hquiet e' hold

theorem starts_append (h : Settled path log) (hlawful : Lawful (later ++ log)) :
    starts path (later ++ log) = starts path log := by
  have hnone : later.countP (Event.starts path) = 0 := by
    rw [List.countP_eq_zero]
    intro e he hstarts
    have hquiet := (h.append hlawful).2 e he
    cases e with
    | started p unit => exact hquiet (eq_of_beq hstarts)
    | called | ended | answered | registered | seen => cases hstarts
  rw [starts, List.countP_append, hnone, Nat.zero_add, starts]

end Settled

/-- A `require` is answered with `true` only when its body has just run to its end. -/
theorem Lawful.settled_of_answered {path : String} {log : List (Event υ)}
    (h : Lawful (.answered path (.ok true) :: log)) :
    ∃ earlier, log = .ended path (.ok ()) :: earlier ∧ Settled path log := by
  cases h with
  | cons hallowed hrest =>
    generalize hevent : Event.answered path (.ok true) = e at hallowed
    cases hallowed with
    | @reacted _ p log hreacts =>
      subst hreacts
      obtain ⟨ending, hne, hreacts⟩ | ⟨unit, hreacts, -⟩ := reaction_cases p log
      · rw [hreacts] at hevent
        cases hevent
        exact absurd rfl hne
      · rw [hreacts] at hevent
        cases hevent
    | @answered p ending log =>
      cases ending with
      | error e => cases hevent
      | ok a =>
        cases hevent
        refine ⟨log, rfl, ?_, ?_⟩
        · simp [completed, Event.completes]
        · cases hrest with
          | cons _ hlog => exact hlog.active_nodup.not_mem_erase
    | called | ended | registered | seen => cases hevent

/-! ### What the loader knows -/

theorem filter_ne_cons {path : String} {paths : List String} (h : path ∉ paths) :
    (path :: paths).filter (· != path) = paths := by
  rw [List.filter_cons_of_neg (by simp), List.filter_eq_self]
  intro p hp
  have hne : p ≠ path := by
    rintro rfl
    exact h hp
  simpa using hne

namespace Agrees

variable {f : Features υ} {log : List (Event υ)}

theorem isLoading (h : Agrees f log) (path : String) :
    f.isLoading path = (active log).contains path := by
  rw [Features.isLoading, h.loading]

theorem reaction_of_busy (h : Agrees f log) {path : String}
    (hbusy : (f.isLoaded path || f.isLoading path) = true) :
    reaction path log = .answered path (.ok false) := by
  rw [h.isLoaded, h.isLoading] at hbusy
  rw [reaction, if_pos hbusy]

theorem reaction_of_idle (h : Agrees f log) {path : String}
    (hidle : (f.isLoaded path || f.isLoading path) = false) :
    reaction path log =
      match f.units.get? path with
      | some unit => .started path unit
      | none => .answered path (.error (.failure (.noSuchUnit path))) := by
  rw [h.isLoaded, h.isLoading] at hidle
  rw [reaction, if_neg (Bool.eq_false_iff.1 hidle), h.unit]

/-- Most events tell the loader nothing. -/
theorem pass (h : Agrees f log) {e : Event υ} (hactive : active (e :: log) = active log)
    (hstarts : ∀ path, e.starts path = false) (hcompletes : ∀ path, e.completes path = false)
    (hunit : ∀ path, e.unit? path = none) : Agrees f (e :: log) where
  loading := h.loading.trans hactive.symm
  isLoaded path := by
    rw [completed, List.any_cons, hcompletes, Bool.false_or]
    exact h.isLoaded path
  loadCount path := by
    rw [starts, List.countP_cons_of_neg (by simp [hstarts])]
    exact h.loadCount path
  unit path := by
    rw [unit?, List.findSome?_cons, hunit]
    exact h.unit path

theorem called (h : Agrees f log) (path : String) : Agrees f (.called path :: log) :=
  h.pass rfl (fun _ => rfl) (fun _ => rfl) (fun _ => rfl)

theorem answered (h : Agrees f log) (path : String) (ending : Except (Stop ResolveError) Bool) :
    Agrees f (.answered path ending :: log) :=
  h.pass rfl (fun _ => rfl) (fun _ => rfl) (fun _ => rfl)

theorem seen (h : Agrees f log) (g : Features υ) : Agrees f (.seen g :: log) :=
  h.pass rfl (fun _ => rfl) (fun _ => rfl) (fun _ => rfl)

theorem registered (h : Agrees f log) (path : String) (unit : υ) :
    Agrees (f.register path unit) (.registered path unit :: log) where
  loading := h.loading
  isLoaded := h.isLoaded
  loadCount := h.loadCount
  unit p := by
    rw [Features.register, Dict.get?_insert, unit?, List.findSome?_cons, Event.unit?]
    by_cases hp : path = p
    · rw [if_pos hp, if_pos hp.symm]
    · rw [if_neg hp, if_neg (Ne.symm hp)]
      exact h.unit p

theorem started (h : Agrees f log) (path : String) (unit : υ) :
    Agrees ((f.enter path).count path) (.started path unit :: log) where
  loading := congrArg (path :: ·) h.loading
  isLoaded := h.isLoaded
  loadCount p := by
    have hold := h.loadCount p
    simp only [Features.loadCount, Features.count, Features.enter, Dict.get?_insert] at hold ⊢
    by_cases hp : p = path
    · subst hp
      rw [if_pos rfl, starts, List.countP_cons_of_pos (by simp [Event.starts])]
      exact congrArg (· + 1) hold
    · rw [if_neg hp, starts, List.countP_cons_of_neg (by simp [Event.starts, Ne.symm hp])]
      exact hold
  unit := h.unit

theorem ended (h : Agrees f log) {path : String} {rest : List String}
    (hactive : active log = path :: rest) (hrest : path ∉ rest)
    (ending : Except (Stop ResolveError) Unit) :
    Agrees (f.conclude path ending) (.ended path ending :: log) := by
  have hleave : f.loading.filter (· != path) = active (.ended path ending :: log) := by
    rw [h.loading, active, hactive, List.erase_cons_head, filter_ne_cons hrest]
  cases ending with
  | ok a =>
    refine ⟨hleave, ?_, h.loadCount, h.unit⟩
    intro p
    have hold := h.isLoaded p
    rw [completed, List.any_cons, Event.completes, ← completed, ← hold, Bool.beq_comm]
    rfl
  | error e => exact ⟨hleave, h.isLoaded, h.loadCount, h.unit⟩

end Agrees

/-! ### Runs -/

/-- What holds of a run whenever its code goes on. -/
structure Kept (s : State υ μ) : Prop where
  lawful : Lawful s.log
  agrees : Agrees s.features s.log
  rest : AtRest s.log

/-- From a state of a run to a later one in which the same bodies are running. -/
def Balanced (s s' : State υ μ) : Prop := Kept s → Kept s' ∧ active s'.log = active s.log

theorem Balanced.refl (s : State υ μ) : Balanced s s := fun h => ⟨h, rfl⟩

theorem Balanced.trans {s₁ s₂ s₃ : State υ μ} (h₁ : Balanced s₁ s₂) (h₂ : Balanced s₂ s₃) :
    Balanced s₁ s₃ := by
  intro h
  obtain ⟨hmid, hactive₁⟩ := h₁ h
  obtain ⟨hend, hactive₂⟩ := h₂ hmid
  exact ⟨hend, hactive₂.trans hactive₁⟩

namespace Kept

variable {s : State υ μ} {path : String}

theorem fresh (memory : μ) : Kept ({ memory } : State υ μ) where
  lawful := .nil
  agrees := ⟨rfl, fun _ => rfl, fun _ => rfl, fun _ => rfl⟩
  rest := trivial

theorem lawful_called (h : Kept s) (path : String) : Lawful (.called path :: s.log) :=
  .cons (.called h.rest) h.lawful

theorem busy (h : Kept s)
    (hbusy : (s.features.isLoaded path || s.features.isLoading path) = true) :
    Kept (State.record (.answered path (.ok false)) (s.record (.called path))) where
  lawful := .cons (.reacted (h.agrees.reaction_of_busy hbusy)) (h.lawful_called path)
  agrees := (h.agrees.called path).answered path (.ok false)
  rest := trivial

theorem no_unit (h : Kept s)
    (hidle : (s.features.isLoaded path || s.features.isLoading path) = false)
    (hunit : s.features.units.get? path = none) :
    Kept (State.record (.answered path (.error (.failure (.noSuchUnit path))))
      (s.record (.called path))) where
  lawful := by
    have hreacts := h.agrees.reaction_of_idle hidle
    rw [hunit] at hreacts
    exact .cons (.reacted hreacts) (h.lawful_called path)
  agrees := (h.agrees.called path).answered path _
  rest := trivial

theorem begin (h : Kept s) {unit : υ}
    (hidle : (s.features.isLoaded path || s.features.isLoading path) = false)
    (hunit : s.features.units.get? path = some unit) : Kept (s.begin path unit) where
  lawful := by
    have hreacts := h.agrees.reaction_of_idle hidle
    rw [hunit] at hreacts
    exact .cons (.reacted hreacts) (h.lawful_called path)
  agrees := (h.agrees.called path).started path unit
  rest := trivial

theorem finish (h : Kept s) {rest : List String} (hactive : active s.log = path :: rest)
    (ending : Except (Stop ResolveError) Unit) : Kept (s.finish path ending) where
  lawful := by
    have hmem : path ∈ active s.log := by
      rw [hactive]
      exact List.mem_cons_self
    exact .cons .answered (.cons (.ended h.rest hmem) h.lawful)
  agrees := by
    have hnodup := h.lawful.active_nodup
    rw [hactive, List.nodup_cons] at hnodup
    exact (h.agrees.ended hactive hnodup.1 ending).answered path _
  rest := trivial

end Kept

variable {bodies : Bodies υ μ} {run : Runner υ μ}

theorem active_begin (s : State υ μ) (path : String) (unit : υ) :
    active (s.begin path unit).log = path :: active s.log := rfl

/-- A loader that is not loading a path is as before once the path has come and gone. -/
theorem leave_enter {f : Features υ} {path : String} (h : f.isLoading path = false) :
    (f.enter path).leave path = f := by
  have hloading : path ∉ f.loading := by simpa [Features.isLoading] using h
  rw [Features.leave, Features.enter, filter_ne_cons hloading]

theorem balanced_require
    (hrun : ∀ {α : Type} (code : RequiringCode υ μ α), (run code).Within Balanced)
    (path : String) : (perform bodies run (.require path)).Within Balanced := by
  intro s h
  cases hbusy : s.features.isLoaded path || s.features.isLoading path with
  | true =>
    rw [after_require_of_busy hbusy]
    exact ⟨h.busy hbusy, rfl⟩
  | false =>
    have hidle : s.features.isLoading path = false := (Bool.or_eq_false_iff.1 hbusy).2
    cases hunit : s.features.units.get? path with
    | none =>
      rw [after_require_of_no_unit hbusy hunit, leave_enter hidle]
      exact ⟨h.no_unit hbusy hunit, rfl⟩
    | some unit =>
      rw [after_require_of_unit hbusy hunit]
      obtain ⟨hend, hactive⟩ := hrun (bodies unit path) _ (h.begin hbusy hunit)
      refine ⟨hend.finish hactive _, ?_⟩
      change (active ((run (bodies unit path)).after (s.begin path unit)).log).erase path = _
      rw [hactive, active_begin, List.erase_cons_head]

theorem balanced_perform (run : Runner υ μ)
    (hrun : ∀ {α : Type} (code : RequiringCode υ μ α), (run code).Within Balanced)
    (c : Call υ μ) : (perform bodies run c).Within Balanced := by
  cases c with
  | look =>
    intro s h
    exact ⟨⟨.cons (.seen h.rest h.agrees) h.lawful, h.agrees.seen s.features, trivial⟩, rfl⟩
  | keep memory => exact fun s h => ⟨⟨h.lawful, h.agrees, h.rest⟩, rfl⟩
  | require path => exact balanced_require hrun path
  | register path unit =>
    intro s h
    exact ⟨⟨.cons (.registered h.rest) h.lawful, h.agrees.registered path unit, trivial⟩, rfl⟩

theorem balanced_exec (bodies : Bodies υ μ) (fuel : Nat) {α : Type}
    (code : RequiringCode υ μ α) : (exec bodies fuel code).Within Balanced :=
  Code.within_exec Balanced.refl (fun _ _ _ => Balanced.trans)
    (fun run _ hrun => balanced_perform run hrun) fuel code

/-! ### The set of loading paths -/

/-- The loader is loading the same paths. -/
def SameLoading (s s' : State υ μ) : Prop := s'.features.loading = s.features.loading

theorem loading_finish (s : State υ μ) (path : String)
    (ending : Except (Stop ResolveError) Unit) :
    (s.finish path ending).features.loading = s.features.loading.filter (· != path) := by
  cases ending with
  | ok _ => rfl
  | error _ => rfl

theorem sameLoading_require
    (hrun : ∀ {α : Type} (code : RequiringCode υ μ α), (run code).Within SameLoading)
    (path : String) : (perform bodies run (.require path)).Within SameLoading := by
  intro s
  cases hbusy : s.features.isLoaded path || s.features.isLoading path with
  | true =>
    rw [after_require_of_busy hbusy]
    rfl
  | false =>
    have hidle : s.features.isLoading path = false := (Bool.or_eq_false_iff.1 hbusy).2
    cases hunit : s.features.units.get? path with
    | none =>
      rw [after_require_of_no_unit hbusy hunit]
      exact congrArg Features.loading (leave_enter hidle)
    | some unit =>
      have hbody := hrun (bodies unit path) (s.begin path unit)
      have hloading : path ∉ s.features.loading := by simpa [Features.isLoading] using hidle
      rw [after_require_of_unit hbusy hunit, SameLoading, loading_finish, hbody]
      exact filter_ne_cons hloading

theorem sameLoading_perform (run : Runner υ μ)
    (hrun : ∀ {α : Type} (code : RequiringCode υ μ α), (run code).Within SameLoading)
    (c : Call υ μ) : (perform bodies run c).Within SameLoading := by
  cases c with
  | require path => exact sameLoading_require hrun path
  | look | keep | register => exact fun _ => rfl

theorem sameLoading_exec (bodies : Bodies υ μ) (fuel : Nat) {α : Type}
    (code : RequiringCode υ μ α) : (exec bodies fuel code).Within SameLoading := by
  have hrefl (s : State υ μ) : SameLoading s s := rfl
  have htrans (s₁ s₂ s₃ : State υ μ) (h₁ : SameLoading s₁ s₂) (h₂ : SameLoading s₂ s₃) :
      SameLoading s₁ s₃ := Eq.trans h₂ h₁
  exact Code.within_exec hrefl htrans (fun run _ hrun => sameLoading_perform run hrun) fuel code

/-! ### Units are required once -/

/-- What a log that ends with the loader `features` says about how paths were required. -/
structure RequiredOnce (log : List (Event υ)) (features : Features υ) : Prop where
  /-- At no time do two bodies run for one path. -/
  distinct : ∀ later earlier, log = later ++ earlier → (active earlier).Nodup
  /-- After an answer `true` there is no other one for its path, and no body and no count. -/
  once : ∀ later path earlier, log = later ++ .answered path (.ok true) :: earlier →
    .answered path (.ok true) ∉ later ∧ (∀ unit, .started path unit ∉ later) ∧
      (∀ f, .seen f ∈ later → f.loadCount path = starts path earlier) ∧
      features.loadCount path = starts path earlier
  /-- Whenever the loader is looked at, and at the end, it knows what the log says. -/
  known : Agrees features log ∧
    ∀ later f earlier, log = later ++ .seen f :: earlier → Agrees f earlier
  /-- Every call is followed at once by what the log asks for. -/
  reacts : ∀ later path earlier, log = later ++ .called path :: earlier →
    ∃ latest, later = latest ++ [reaction path earlier]

namespace Lawful

variable {later earlier : List (Event υ)} {path : String}

theorem agrees_of_seen {f : Features υ} (h : Lawful (later ++ .seen f :: earlier)) :
    Agrees f earlier := by
  have hallowed := h.allowed
  generalize hevent : Event.seen f = e at hallowed
  cases hallowed with
  | @reacted _ p log hreacts =>
    subst hreacts
    obtain ⟨ending, -, hreacts⟩ | ⟨unit, hreacts, -⟩ := reaction_cases p log
    · rw [hreacts] at hevent
      cases hevent
    · rw [hreacts] at hevent
      cases hevent
  | seen _ hagrees =>
    cases hevent
    exact hagrees
  | called | ended | answered | registered => cases hevent

/-- Once a `require` has been answered with `true`, no other one is, no body is started and
nothing more is counted for its path. -/
theorem last_of_answered (h : Lawful (later ++ .answered path (.ok true) :: earlier)) :
    .answered path (.ok true) ∉ later ∧ (∀ unit, .started path unit ∉ later) ∧
      starts path (later ++ .answered path (.ok true) :: earlier) = starts path earlier := by
  have hlawful := h.of_append
  obtain ⟨-, -, hsettled⟩ := hlawful.settled_of_answered
  have hanswered : Settled path (.answered path (.ok true) :: earlier) := by
    cases hlawful with
    | cons hallowed _ => exact (hsettled.cons hallowed).1
  have hquiet := (hanswered.append h).2
  refine ⟨?_, fun unit hmem => hquiet _ hmem rfl, ?_⟩
  · intro hmem
    obtain ⟨latest, between, rfl⟩ := List.append_of_mem hmem
    rw [List.append_assoc, List.cons_append] at h
    obtain ⟨before, hended, -⟩ := h.of_append.settled_of_answered
    -- between the two answers a body for the path would have to end
    cases between with
    | nil => cases hended
    | cons e between =>
      obtain ⟨rfl, -⟩ := List.cons.inj hended
      exact hquiet (.ended path (.ok ())) (by simp) rfl
  · rw [hanswered.starts_append h]
    exact List.countP_cons_of_neg Bool.false_ne_true

theorem reacts (h : Lawful (later ++ .called path :: earlier))
    (hrest : AtRest (later ++ .called path :: earlier)) :
    ∃ latest, later = latest ++ [reaction path earlier] := by
  rcases List.eq_nil_or_concat later with rfl | ⟨latest, e, rfl⟩
  · exact hrest.elim
  · rw [List.concat_eq_append, List.append_assoc] at h
    cases h.allowed with
    | reacted hreacts => exact ⟨latest, by rw [hreacts, List.concat_eq_append]⟩
    | called hrest | ended hrest _ | registered hrest | seen hrest _ => exact hrest.elim

end Lawful

theorem Kept.requiredOnce {s : State υ μ} (h : Kept s) : RequiredOnce s.log s.features where
  distinct later earlier hsplit := by
    have hlawful := h.lawful
    rw [hsplit] at hlawful
    exact hlawful.of_append.active_nodup
  once later path earlier hsplit := by
    have hlawful := h.lawful
    rw [hsplit] at hlawful
    obtain ⟨hanswers, hstarts, hcount⟩ := hlawful.last_of_answered
    refine ⟨hanswers, hstarts, ?_, ?_⟩
    · intro f hmem
      obtain ⟨latest, between, rfl⟩ := List.append_of_mem hmem
      rw [List.append_assoc, List.cons_append] at hlawful
      have hbefore : Lawful (between ++ .answered path (.ok true) :: earlier) := by
        cases hlawful.of_append with
        | cons _ hbefore => exact hbefore
      rw [hlawful.agrees_of_seen.loadCount]
      exact hbefore.last_of_answered.2.2
    · rw [h.agrees.loadCount, hsplit]
      exact hcount
  known := by
    refine ⟨h.agrees, ?_⟩
    intro later f earlier hsplit
    have hlawful := h.lawful
    rw [hsplit] at hlawful
    exact hlawful.agrees_of_seen
  reacts later path earlier hsplit := by
    have hlawful := h.lawful
    have hrest := h.rest
    rw [hsplit] at hlawful hrest
    exact hlawful.reacts hrest

/-- No `require`, however it ends, leaves a path loading or stops one that was loading before,
and a whole run requires every path once. -/
theorem require_once (bodies : Bodies υ μ) (fuel : Nat) :
    (∀ path (s : State υ μ),
      ((perform bodies (exec bodies fuel) (.require path)).after s).features.loading =
        s.features.loading) ∧
      ∀ {α : Type} (code : RequiringCode υ μ α) (memory : μ),
        let s := (exec bodies fuel code).after { memory }
        s.features.loading = [] ∧ RequiredOnce s.log s.features := by
  refine ⟨fun path => sameLoading_require (sameLoading_exec bodies fuel) path, ?_⟩
  intro α code memory s
  have hkept : Kept s := (balanced_exec bodies fuel code { memory } (.fresh memory)).1
  exact ⟨sameLoading_exec bodies fuel code { memory }, hkept.requiredOnce⟩

/-- A unit that requires its own path is skipped the second time. -/
example :
    let bodies : Bodies Unit Unit := fun _ path => .call (.require path) fun _ => .done ()
    let code : RequiringCode Unit Unit Unit := .call (.register "a.rb" ()) fun _ =>
      .call (.require "a.rb") fun _ => .done ()
    ((exec bodies 3 code).after { memory := () }).log =
      [.answered "a.rb" (.ok true), .ended "a.rb" (.ok ()), .answered "a.rb" (.ok false),
        .called "a.rb", .started "a.rb" (), .called "a.rb", .registered "a.rb" ()] := by
  cbv

end CallSite.Requiring
