import CallSite.Proofs.Invariance
import CallSite.Proofs.Ledger

/-!
# Where bindings come from

Whenever code runs, each marker in a table has been put there by an `autoload` that answered so, and
each value by the program itself: in that namespace, under that name. A read takes markers away and
may put them back over anything else, but it has found them in a table first. While it holds them
the log only grows, so what accounted for them then still does when they are put back.
-/
namespace CallSite

namespace Store

variable {η : Type} {s : Store η} {ns ns' : Namespace} {name name' : String} {b b' : Binding}

theorem binding?_of_bind (h : (s.bind ns name b).binding? ns' name' = some b') :
    s.binding? ns' name' = some b' ∨ ns'.id = ns.id ∧ name' = name ∧ b' = b := by
  rw [binding?_bind] at h
  by_cases hplace : ns'.id = ns.id ∧ name' = name
  · rw [if_pos hplace] at h
    exact .inr ⟨hplace.1, hplace.2, (Option.some.inj h).symm⟩
  · rw [if_neg hplace] at h
    exact .inl h

theorem binding?_of_remove (h : (s.remove ns name).binding? ns' name' = some b') :
    s.binding? ns' name' = some b' := by
  rw [binding?_remove] at h
  by_cases hplace : ns'.id = ns.id ∧ name' = name
  · rw [if_pos hplace] at h
    cases h
  · rwa [if_neg hplace] at h

end Store

namespace Change

variable {η : Type}

/-- A change that is answered like this has bound a name in the namespace with a number. -/
inductive Binds : (c : Change η) → c.Reply → Nat → String → Binding → Prop
  | autoload (ns : Namespace) (name path : String) :
    Binds (.autoload ns name path) true ns.id name (.autoload path)
  | set (ns : Namespace) (name : String) (v : Value) (previous : Option Binding) :
    Binds (.set ns name v) previous ns.id name (.value v)
  | defineNested (outer : Namespace) (name : String) (inner : Namespace) :
    Binds (.defineNested outer name) inner outer.id name (.value (.scope inner))

/-- Nothing is bound after a change but what was bound before it and what it is answered to have
bound. -/
theorem binding?_of_run {c : Change η} {store : Store η} {ns' : Namespace} {name' : String}
    {b : Binding} (h : (c.run store).2.binding? ns' name' = some b) :
    store.binding? ns' name' = some b ∨ c.Binds (c.run store).1 ns'.id name' b := by
  cases c with
  | create name parent =>
    cases parent with
    | none => exact .inl h
    | some parent => exact .inl h
  | set ns name v =>
    rcases Store.binding?_of_bind h with h | ⟨hid, rfl, rfl⟩
    · exact .inl h
    · rw [hid]
      exact .inr (.set ns name' v _)
  | autoload ns name path =>
    change (store.autoload ns name path).2.binding? ns' name' = some b at h
    change _ ∨ Binds (.autoload ns name path) (store.autoload ns name path).1 ns'.id name' b
    by_cases hdefined : store.isDefined ns name = true
    · rw [Store.autoload, if_pos hdefined] at h
      exact .inl h
    · rw [Store.autoload, if_neg hdefined] at h ⊢
      rcases Store.binding?_of_bind h with h | ⟨hid, rfl, rfl⟩
      · exact .inl h
      · rw [hid]
        exact .inr (.autoload ns name' path)
  | remove ns name => exact .inl (Store.binding?_of_remove h)
  | defineNested outer name =>
    rcases Store.binding?_of_bind h with h | ⟨hid, rfl, rfl⟩
    · exact .inl h
    · rw [hid]
      exact .inr (.defineNested outer name' _)
  | setHook ns hook =>
    cases hook with
    | none => exact .inl h
    | some hook => exact .inl h

end Change

namespace Ledger

variable {ι ℓ η υ μ : Type}

/-- The event is the end of a change that bound a name in the namespace with a number. -/
inductive Event.Binds : Event ι ℓ η υ μ → Nat → String → Binding → Prop
  | change {c : Change η} {reply : c.Reply} {id : Nat} {name : String} {b : Binding} :
    c.Binds reply id name b → Binds (.ended (.change c) (.ok reply)) id name b

/-- Some call has bound the name like this. -/
def Accounts (log : List (Event ι ℓ η υ μ × Store η)) (ns : Namespace) (name : String)
    (b : Binding) : Prop :=
  ∃ moment ∈ log, moment.1.Binds ns.id name b

/-- All bindings in the tables have been made by calls. -/
def Explains (log : List (Event ι ℓ η υ μ × Store η)) (store : Store η) : Prop :=
  ∀ ns name b, store.binding? ns name = some b → Accounts log ns name b

theorem Accounts.mono {log log' : List (Event ι ℓ η υ μ × Store η)} {ns : Namespace}
    {name : String} {b : Binding} (h : Accounts log ns name b) (hlog : log <:+ log') :
    Accounts log' ns name b := by
  obtain ⟨moment, hmoment, hbinds⟩ := h
  exact ⟨moment, hlog.mem hmoment, hbinds⟩

namespace State

/-- The log explains the tables; and for each of its moments, the log up to there explains the
tables of that time. -/
structure Sound (s : State ι ℓ η υ μ) : Prop where
  now : Explains s.log s.store
  always : ∀ moment before, moment :: before <:+ s.log → Explains (moment :: before) moment.2

variable {s t : State ι ℓ η υ μ}

theorem Sound.leave (h : s.Sound) {store : Store η} (hstore : Explains s.log store) :
    Sound { s with store } := ⟨hstore, h.always⟩

theorem Sound.of_eq (h : s.Sound) (hstore : t.store = s.store) (hlog : t.log = s.log) :
    t.Sound := by
  refine ⟨?_, ?_⟩
  · rw [hstore, hlog]
    exact h.now
  · rw [hlog]
    exact h.always

/-- What a call adds to the tables is explained by its end. -/
theorem Sound.answered (h : s.Sound) {e : Event ι ℓ η υ μ} {store : Store η}
    (hstore : ∀ ns name b, store.binding? ns name = some b →
      s.store.binding? ns name = some b ∨ e.Binds ns.id name b) :
    (State.record e { s with store }).Sound := by
  have hnow : Explains ((e, store) :: s.log) store := by
    intro ns name b hb
    rcases hstore ns name b hb with hb | hbinds
    · exact (h.now ns name b hb).mono (List.suffix_cons _ _)
    · exact ⟨(e, store), List.mem_cons_self, hbinds⟩
  refine ⟨hnow, fun moment before hsuffix => ?_⟩
  rcases List.suffix_cons_iff.1 hsuffix with heq | hsuffix
  · cases heq
    exact hnow
  · exact h.always moment before hsuffix

theorem Sound.record (h : s.Sound) (e : Event ι ℓ η υ μ) : (s.record e).Sound :=
  h.answered fun _ _ _ hb => .inl hb

/-- From `s` to `t` the log only grows, and stays sound, if what is held in between was accounted
for in `s`. -/
def Keeps (held : Option Constant) (s t : State ι ℓ η υ μ) : Prop :=
  s.Sound → (∀ c ∈ held, Accounts s.log c.declaring c.name.text c.binding) →
    t.Sound ∧ s.log <:+ t.log

namespace Keeps

variable {held : Option Constant}

theorem refl (s : State ι ℓ η υ μ) : Keeps held s s := fun h _ => ⟨h, List.suffix_rfl⟩

theorem trans (s t u : State ι ℓ η υ μ) (h : Keeps held s t) (h' : Keeps held t u) :
    Keeps held s u := by
  intro hs hheld
  obtain ⟨ht, hlog⟩ := h hs hheld
  obtain ⟨hu, hlog'⟩ := h' ht fun c hc => (hheld c hc).mono hlog
  exact ⟨hu, hlog.trans hlog'⟩

theorem of_none (h : Keeps none s t) : Keeps held s t := fun hs _ => h hs nofun

theorem record (e : Event ι ℓ η υ μ) (s : State ι ℓ η υ μ) : Keeps held s (s.record e) :=
  fun h _ => ⟨h.record e, List.suffix_cons _ _⟩

theorem of_eq (hstore : t.store = s.store) (hlog : t.log = s.log) : Keeps held s t :=
  fun h _ => ⟨h.of_eq hstore hlog, hlog ▸ List.suffix_rfl⟩

/-- Tables may lose bindings. -/
theorem leave {store : Store η}
    (hstore : ∀ ns name b, store.binding? ns name = some b → s.store.binding? ns name = some b) :
    Keeps held s { s with store } :=
  fun h _ => ⟨h.leave fun ns name b hb => h.now ns name b (hstore ns name b hb), List.suffix_rfl⟩

end Keeps

end State

open State

namespace Program

/-! ### Calls that run code -/

section Run

variable {P : Program ι ℓ η υ μ} {run : Runner ι ℓ η υ μ}
  (hrun : ∀ {α : Type} (code : LedgerCode ι ℓ η υ μ α), (run code).Within (Keeps none))
include hrun

theorem within_enter {α : Type} (e : Event ι ℓ η υ μ) (code : LedgerCode ι ℓ η υ μ α) :
    (enter run e code).Within (Keeps none) :=
  (hrun code).modify_bind Keeps.trans (Keeps.record e)

theorem within_require [DecidableEq ℓ] (loader : ℓ) (path : String) :
    (Features.require (featuresSlot loader) (P.runUnit run loader) path).Within
      (Keeps none) := by
  have hadjust (f : Features υ → Features υ) (s : State ι ℓ η υ μ) :
      Keeps none s ((featuresSlot loader).adjust f s) := .of_eq rfl rfl
  have hruns (unit : υ) : (P.runUnit run loader unit path).Within (Keeps none) :=
    within_enter hrun _ _
  exact Features.within_require Keeps.refl (fun s _ => hadjust _ s) fun s unit _ _ =>
    .trans _ _ _ (hadjust _ s) (.trans _ _ _ (hruns unit _) (hadjust _ _))

variable [DecidableEq ι]

/-- What a lookup finds in the tables the log accounts for, and while the load and the rest of a
read run, the log only grows. So a marker is put back only where the log says that it was put. -/
theorem resolvesWithin (i : ι) (l : Strategy) (ns : Namespace) (name : Name) :
    (P.resolver run i).ResolvesWithin (Keeps none) Keeps (l.lookup State.base.store) ns name where
  refl _ := Keeps.refl
  dispatch s := by
    have hremember : Keeps none s ((P.resolver run i).remember name s) := .of_eq rfl rfl
    exact .trans _ _ _ hremember
      (Resolver.within_missing Keeps.refl (fun _ => within_enter hrun _ _) _)
  lookup rest hrest s hs _ := by
    rw [Act.after_congr (Act.bind_of_ok (l.lookup_eq State.base.store ns name s))]
    exact hrest _ s hs fun c hc => hs.now _ _ _ (Strategy.binding?_of_found hc)
  autoload declaring declared path rest hrest := by
    have hchain : ((P.resolver run i).load path >>= fun _ => rest).Within
        (Keeps (some ⟨declaring, declared, .autoload path⟩)) := fun s =>
      .of_none ((within_enter hrun (.load i path) _).bind Keeps.trans (fun _ => hrest) s)
    refine Resolver.within_withoutMarker Keeps.trans
      (fun s => .leave fun _ _ _ => Store.binding?_of_remove) (fun s hs hheld => ?_) hchain
    refine ⟨hs.leave fun ns' name' b hb => ?_, List.suffix_rfl⟩
    rcases Store.binding?_of_bind hb with hb | ⟨hid, rfl, rfl⟩
    · exact hs.now ns' name' b hb
    · rw [Accounts, hid]
      exact hheld _ rfl

end Run

/-! ### All calls -/

variable [DecidableEq ι] [DecidableEq ℓ] {P : Program ι ℓ η υ μ} {run : Runner ι ℓ η υ μ}
  {fuel : Nat} {c : Call ι ℓ η υ μ}

theorem within_perform_of_act (h : (P.act run fuel c).Within (Keeps none)) :
    (P.perform run fuel c).Within (Keeps none) := by
  have hbegan : (modify (State.record (.began c)) :
      Act (State ι ℓ η υ μ) ResolveError Unit).Within (Keeps none) := Keeps.record _
  exact hbegan.bind Keeps.trans fun _ => h.noting Keeps.trans fun _ => Keeps.record _

/-- What a change binds, its end is evidence of. -/
theorem within_change (c : Change η) : (P.perform run fuel (.change c)).Within (Keeps none) := by
  intro s hs _
  have hends : P.perform run fuel (.change c) s =
      .ok (c.run s.store).1 (State.record (.ended (.change c) (.ok (c.run s.store).1))
        { s.record (.began (.change c)) with store := (c.run s.store).2 }) := rfl
  rw [Act.after_of_ok hends]
  refine ⟨(hs.record _).answered fun ns name b hb => ?_,
    (List.suffix_cons _ _).trans (List.suffix_cons _ _)⟩
  exact (Change.binding?_of_run hb).imp_right .change

theorem within_perform (P : Program ι ℓ η υ μ) (run : Runner ι ℓ η υ μ) (fuel : Nat)
    (hrun : ∀ {α : Type} (code : LedgerCode ι ℓ η υ μ α), (run code).Within (Keeps none))
    (c : Call ι ℓ η υ μ) : (P.perform run fuel c).Within (Keeps none) := by
  cases c with
  | look => exact within_perform_of_act Keeps.refl
  | keep memory => exact within_perform_of_act fun s => .of_eq rfl rfl
  | change c => exact within_change c
  | register loader path unit => exact within_perform_of_act fun s => .of_eq rfl rfl
  | require loader path => exact within_perform_of_act (within_require hrun loader path)
  | read i l ns name => exact within_perform_of_act ((resolvesWithin hrun i l ns name).read fuel)

theorem within_exec (P : Program ι ℓ η υ μ) (fuel : Nat) {α : Type}
    (code : LedgerCode ι ℓ η υ μ α) : (P.exec fuel code).Within (Keeps none) :=
  Code.within_exec Keeps.refl Keeps.trans P.within_perform fuel code

/-- In a run that starts with empty tables, whenever a call begins or ends or the code of a loader,
a unit or a hook begins, and when all is over: each marker that is found in a namespace under a name
is from an `autoload` of that path, for that name of that namespace, that answered that it did
something, and each value is from a `set` or `defineNested` of that name of that namespace. -/
theorem bindings_come_from_calls (P : Program ι ℓ η υ μ) (features : ℓ → Features υ)
    (memos : ι → SiteCache Name Symbol) (memory : μ) (fuel : Nat) {α : Type}
    (code : LedgerCode ι ℓ η υ μ α) :
    ((P.exec fuel code).after { store := {}, features, memos, memory }).Sound := by
  have hempty : Sound ({ store := {}, features, memos, memory } : State ι ℓ η υ μ) :=
    ⟨fun _ _ _ => nofun, fun _ _ hsuffix => by simp at hsuffix⟩
  exact (within_exec P fuel code _ hempty nofun).1

end Program
end Ledger
end CallSite
