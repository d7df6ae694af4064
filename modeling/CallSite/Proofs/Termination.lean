import CallSite.Proofs.Autoloading
import Mathlib.Order.WellFounded

/-!
# Autoloads in circles come to an end

Units may require each other and read each other's constants in circles, fail and be tried again,
and put constants off to units that have run, themselves included. As long as no unit registers
others and no hook reads constants, every call ends: a unit that is running is not entered again,
so there are no more loads inside each other than units; and with each step that one read takes
from marker to marker, either one more unit is loaded or one marker fewer is left.
-/
namespace CallSite

namespace Act

variable {σ ε α β : Type}

/-- An end that was not forced by want of fuel, in a state that `T` relates the first one to. -/
inductive Reached (T : σ → σ → Prop) (s : σ) : EStateM.Result (Stop ε) σ α → Prop
  | ok {a : α} {t : σ} : T s t → Reached T s (.ok a t)
  | error {e : Stop ε} {t : σ} : e ≠ .outOfFuel → T s t → Reached T s (.error e t)

/-- With enough fuel, for the links of a read and for code inside code, `x` reaches an end, which
is the same with all such fuel. -/
def Halts (T : σ → σ → Prop) (x : (links fuel : Nat) → Act σ ε α) (s : σ) : Prop :=
  ∃ r, Reached T s r ∧ ∃ n, ∀ links ≥ n, ∀ fuel ≥ n, x links fuel s = r

namespace Halts

variable {T : σ → σ → Prop} {x : (links fuel : Nat) → Act σ ε α} {s : σ}

theorem of_eq {r : EStateM.Result (Stop ε) σ α} (h : ∀ links fuel, x links fuel s = r)
    (hr : Reached T s r) : Halts T x s :=
  ⟨r, hr, 0, fun links _ fuel _ => h links fuel⟩

/-- What has come to a state that something else halts in, and goes on as that does, halts. -/
theorem go_on {y : (links fuel : Nat) → Act σ ε α} {t : σ} (hx : Halts T x t)
    (htrans : ∀ s₁ s₂ s₃, T s₁ s₂ → T s₂ s₃ → T s₁ s₃) (hT : T s t) (n : Nat)
    (h : ∀ links ≥ n, ∀ fuel ≥ n, y links fuel s = x links fuel t) : Halts T y s := by
  obtain ⟨r, hr, m, hm⟩ := hx
  refine ⟨r, ?_, n + m, fun links hlinks fuel hfuel => ?_⟩
  · cases hr with
    | ok hT' => exact .ok (htrans _ _ _ hT hT')
    | error he hT' => exact .error he (htrans _ _ _ hT hT')
  · rw [h links (by omega) fuel (by omega)]
    exact hm links (by omega) fuel (by omega)

/-- What comes second only has to halt where the first can end. -/
theorem bind {f : α → (links fuel : Nat) → Act σ ε β} (hx : Halts T x s)
    (htrans : ∀ s₁ s₂ s₃, T s₁ s₂ → T s₂ s₃ → T s₁ s₃)
    (hf : ∀ a t links fuel, x links fuel s = .ok a t → T s t → Halts T (f a) t) :
    Halts T (fun links fuel => x links fuel >>= fun a => f a links fuel) s := by
  obtain ⟨r, hr, n, hn⟩ := hx
  cases hr with
  | @ok a t hT =>
    have hrest := hf a t n n (hn n le_rfl n le_rfl) hT
    exact hrest.go_on htrans hT n fun links hlinks fuel hfuel =>
      bind_of_ok (hn links hlinks fuel hfuel)
  | @error e t he hT =>
    exact ⟨.error e t, .error he hT, n, fun links hlinks fuel hfuel =>
      bind_of_error (hn links hlinks fuel hfuel)⟩

theorem onStop {cleanUp : σ → σ} (hx : Halts T x s)
    (htrans : ∀ s₁ s₂ s₃, T s₁ s₂ → T s₂ s₃ → T s₁ s₃) (hclean : ∀ t, T t (cleanUp t)) :
    Halts T (fun links fuel => (x links fuel).onStop cleanUp) s := by
  obtain ⟨r, hr, n, hn⟩ := hx
  cases hr with
  | @ok a t hT =>
    exact ⟨.ok a t, .ok hT, n, fun links hlinks fuel hfuel =>
      onStop_of_ok (hn links hlinks fuel hfuel)⟩
  | @error e t he hT =>
    exact ⟨.error e (cleanUp t), .error he (htrans _ _ _ hT (hclean t)), n,
      fun links hlinks fuel hfuel => onStop_of_error (hn links hlinks fuel hfuel)⟩

theorem discard (hx : Halts T x s) :
    Halts T (fun links fuel => Functor.discard (x links fuel)) s := by
  obtain ⟨r, hr, n, hn⟩ := hx
  cases hr with
  | @ok a t hT =>
    exact ⟨.ok () t, .ok hT, n, fun links hlinks fuel hfuel =>
      discard_of_ok (hn links hlinks fuel hfuel)⟩
  | @error e t he hT =>
    exact ⟨.error e t, .error he hT, n, fun links hlinks fuel hfuel =>
      discard_of_error (hn links hlinks fuel hfuel)⟩

/-- A link takes one unit of fuel. -/
theorem of_succ (h : Halts T (fun links fuel => x (links + 1) fuel) s) : Halts T x s := by
  obtain ⟨r, hr, n, hn⟩ := h
  refine ⟨r, hr, n + 1, fun links hlinks fuel hfuel => ?_⟩
  cases links with
  | zero => omega
  | succ links => exact hn links (by omega) fuel (by omega)

end Halts
end Act

namespace Code

variable {κ : Type} {Reply : κ → Type} {σ ε α : Type}

/-- The code makes allowed calls only, and does not pretend to be out of fuel. -/
def Keeps (allowed : κ → Prop) : Code κ Reply ε α → Prop
  | done _ => True
  | stop e => e ≠ .outOfFuel
  | call c next =>
    allowed c ∧ ∀ ending, ending ≠ .error .outOfFuel → (next ending).Keeps allowed

/-- Makes calls one after another, up to the first that fails. -/
def inSequence : List κ → Code κ Reply ε Unit
  | [] => done ()
  | c :: rest => call c fun
    | .ok _ => inSequence rest
    | .error e => stop e

theorem keeps_inSequence {allowed : κ → Prop} {calls : List κ} (h : ∀ c ∈ calls, allowed c) :
    (inSequence calls : Code κ Reply ε Unit).Keeps allowed := by
  induction calls with
  | nil => trivial
  | cons c rest ih =>
    refine ⟨h c List.mem_cons_self, fun ending hending => ?_⟩
    cases ending with
    | ok _ => exact ih fun c' hc' => h c' (List.mem_cons_of_mem _ hc')
    | error e => exact fun he => hending (congrArg Except.error he)

section Halts

variable {T : σ → σ → Prop} {s : σ} {code : Code κ Reply ε α}

/-- Code halts if its calls halt wherever it can get. -/
theorem halts_run (hrefl : ∀ s, T s s) (htrans : ∀ s₁ s₂ s₃, T s₁ s₂ → T s₂ s₃ → T s₁ s₃)
    {allowed : κ → Prop} {perform : (links fuel : Nat) → (c : κ) → Act σ ε (Reply c)}
    (hcode : code.Keeps allowed)
    (hperform : ∀ c, allowed c → ∀ t, T s t →
      Act.Halts T (fun links fuel => perform links fuel c) t) :
    Act.Halts T (fun links fuel => code.run (perform links fuel)) s := by
  induction code generalizing s with
  | done a => exact .of_eq (fun _ _ => rfl) (.ok (hrefl s))
  | stop e => exact .of_eq (fun _ _ => rfl) (.error hcode (hrefl s))
  | call c next ih =>
    obtain ⟨r, hr, n, hn⟩ := hperform c hcode.1 s (hrefl s)
    have hnext (ending : Except (Stop ε) (Reply c)) (hending : ending ≠ .error .outOfFuel) {t : σ}
        (hT : T s t) : Act.Halts T (fun links fuel => (next ending).run (perform links fuel)) t :=
      ih ending (hcode.2 ending hending) fun c hc u hu => hperform c hc u (htrans _ _ _ hT hu)
    cases hr with
    | @ok reply t hT =>
      exact (hnext (.ok reply) nofun hT).go_on htrans hT n fun links hlinks fuel hfuel =>
        run_call_of_ok (hn links hlinks fuel hfuel)
    | @error e t he hT =>
      have hne : (.error e : Except (Stop ε) (Reply c)) ≠ .error .outOfFuel :=
        fun h => he (Except.error.inj h)
      refine (hnext (.error e) hne hT).go_on htrans hT n fun links hlinks fuel hfuel => ?_
      have hcall := hn links hlinks fuel hfuel
      cases e with
      | failure e => simp only [run, hcall]
      | panic message => simp only [run, hcall]
      | outOfFuel => exact absurd rfl he

/-- A level of code inside code takes one unit of fuel. -/
theorem halts_exec {perform : Runner κ Reply σ ε → Nat → (c : κ) → Act σ ε (Reply c)}
    (h : Act.Halts T (fun links fuel => code.run (perform (exec perform fuel) links)) s) :
    Act.Halts T (fun _ fuel => exec perform fuel code) s := by
  obtain ⟨r, hr, n, hn⟩ := h
  refine ⟨r, hr, n + 1, fun _ _ fuel hfuel => ?_⟩
  cases fuel with
  | zero => omega
  | succ fuel => exact hn fuel (by omega) fuel (by omega)

end Halts

end Code

/-! ### What gets less -/

theorem countP_lt_countP {α : Type} {l : List α} {p q : α → Bool}
    (hle : ∀ a, q a = true → p a = true) {a : α} (ha : a ∈ l) (hp : p a = true)
    (hq : q a = false) : l.countP q < l.countP p := by
  obtain ⟨before, behind, rfl⟩ := List.append_of_mem ha
  have hbefore := List.countP_mono_left (l := before) fun b _ => hle b
  have hbehind := List.countP_mono_left (l := behind) fun b _ => hle b
  rw [List.countP_append, List.countP_append, List.countP_cons_of_pos hp,
    List.countP_cons_of_neg (by simp [hq])]
  omega

namespace Dict

variable {κ α : Type} [DecidableEq κ] {d : Dict κ α} {k : κ} {a : α}

theorem mem_entries_of_get? (h : d.get? k = some a) : (k, a) ∈ d.entries := by
  rw [get?, Option.map_eq_some_iff] at h
  obtain ⟨e, he, rfl⟩ := h
  have hkey : e.1 = k := by simpa using List.find?_some he
  subst hkey
  exact List.mem_of_find?_eq_some he

theorem countKeys_lt (h : d.get? k = some a) {p q : κ → Bool}
    (hle : ∀ j, q j = true → p j = true) (hp : p k = true) (hq : q k = false) :
    d.countKeys q < d.countKeys p :=
  countP_lt_countP (fun e => hle e.1) (mem_entries_of_get? h) hp hq

end Dict

namespace Autoloading

variable {ι η υ : Type}

namespace State

/-- How many units are not running. -/
def idle (s : State ι η υ) : Nat :=
  s.features.units.countKeys fun path => !s.features.isLoading path

/-- How many units are not loaded. -/
def unloaded (s : State ι η υ) : Nat :=
  s.features.units.countKeys fun path => !s.features.isLoaded path

/-- How many names are bound to markers. -/
def markers (s : State ι η υ) : Nat := s.store.bindings.entries.countP fun e => e.2.isAutoload

/-- What code leaves alone: the units and which of them are running. What is loaded stays so. -/
structure Advances (s t : State ι η υ) : Prop where
  units : t.features.units = s.features.units
  loading : ∀ path, t.features.isLoading path = s.features.isLoading path
  loaded : ∀ path, s.features.isLoaded path = true → t.features.isLoaded path = true

variable {s t u : State ι η υ} {path : String} {unit : υ}

namespace Advances

theorem refl (s : State ι η υ) : Advances s s := ⟨rfl, fun _ => rfl, fun _ h => h⟩

theorem trans (s t u : State ι η υ) (h : Advances s t) (h' : Advances t u) : Advances s u where
  units := h'.units.trans h.units
  loading path := (h'.loading path).trans (h.loading path)
  loaded path hpath := h'.loaded path (h.loaded path hpath)

theorem of_features (h : t.features = s.features) : Advances s t := by
  refine ⟨?_, ?_, ?_⟩ <;> simp [h]

theorem idle_eq (h : Advances s t) : t.idle = s.idle := by
  simp only [idle, h.units, h.loading]

theorem unloaded_lt (h : Advances s t) (hunit : s.features.units.get? path = some unit)
    (hbefore : s.features.isLoaded path = false) (hafter : t.features.isLoaded path = true) :
    t.unloaded < s.unloaded := by
  rw [unloaded, h.units]
  refine Dict.countKeys_lt hunit (fun path hpath => ?_) (by simp [hbefore]) (by simp [hafter])
  by_contra hloaded
  simp [h.loaded path (by simpa using hloaded)] at hpath

end Advances

theorem idle_begin_lt (hunit : s.features.units.get? path = some unit)
    (hidle : s.features.isLoading path = false) : (s.begin path).idle < s.idle := by
  refine Dict.countKeys_lt hunit (fun q hq => ?_) (by simp [hidle]) (by simp [begin])
  simp only [begin, Features.isLoading_count, Features.isLoading_enter, Bool.not_or,
    Bool.and_eq_true] at hq
  exact hq.2

/-- A unit that is left is not running, as before it began. -/
theorem advances_finish {ending : Except (Stop ResolveError) Unit}
    (hidle : s.features.isLoading path = false) (h : Advances (s.begin path) t) :
    Advances s (t.finish path ending) where
  units := by
    cases ending with
    | ok _ => exact h.units
    | error _ => exact h.units
  loading q := by
    have hinside : t.features.isLoading q = (q == path || s.features.isLoading q) := by
      simpa [begin] using h.loading q
    rw [finish, Features.isLoading_conclude, hinside, Features.isLoading_outside q hidle]
  loaded q hq := by
    have hinside := h.loaded q hq
    cases ending with
    | ok _ => simp [finish, hinside]
    | error _ => exact hinside

theorem advances_enter_leave (hidle : s.features.isLoading path = false) :
    Advances s (State.featuresSlot.adjust (fun f => (f.enter path).leave path) s) where
  units := rfl
  loading q := by
    change ((s.features.enter path).leave path).isLoading q = _
    rw [Features.isLoading_leave, Features.isLoading_enter, Features.isLoading_outside q hidle]
  loaded _ h := h

theorem markers_takeAway_lt {ns : Namespace} {name : String}
    (h : s.store.binding? ns name = some (.autoload path)) :
    (s.takeAway ns name).markers < s.markers := by
  rw [markers, markers, takeAway, Store.remove, Dict.erase, List.countP_filter]
  refine countP_lt_countP (fun e he => ?_) (Dict.mem_entries_of_get? h) rfl (by simp)
  simp at he
  exact he.1

/-- More units are loaded, or as many and a marker is gone. -/
def Nearer (t s : State ι η υ) : Prop :=
  Prod.Lex (· < ·) (· < ·) (t.unloaded, t.markers) (s.unloaded, s.markers)

theorem wellFounded_nearer : WellFounded fun t s : State ι η υ => Nearer t s :=
  InvImage.wf _ (WellFounded.prod_lex wellFounded_lt wellFounded_lt)

end State

open State

/-- Registers a unit. -/
def Call.Registers : Call ι η υ → Prop
  | register .. => True
  | _ => False

def Call.Reads : Call ι η υ → Prop
  | read .. | resolve .. => True
  | _ => False

namespace Program

/-- Neither units nor hooks register units, and hooks do not read constants by themselves. They may
require units that do. -/
structure Tame (P : Program ι η υ) : Prop where
  units : ∀ unit path, (P.unit unit path).Keeps fun c => ¬ c.Registers
  hooks : ∀ hook ns symbol, (P.hook hook ns symbol).Keeps fun c => ¬ c.Registers ∧ ¬ c.Reads

variable {P : Program ι η υ} {s : State ι η υ}

/-- A load that does not fail either does nothing or gets a unit loaded. -/
theorem load_eq_ok [DecidableEq ι] {run : Runner ι η υ} {i : ι} {path : String} {t : State ι η υ}
    (h : (P.resolver run i).load path s = .ok () t) :
    t = s ∨ ∃ unit, s.features.units.get? path = some unit ∧
      s.features.isLoaded path = false ∧ t.features.isLoaded path = true := by
  cases hbusy : s.features.isLoaded path || s.features.isLoading path with
  | true =>
    rw [load_of_busy hbusy] at h
    cases h
    exact .inl rfl
  | false =>
    cases hunit : s.features.units.get? path with
    | none =>
      rw [load_of_no_unit hbusy hunit] at h
      cases h
    | some unit =>
      refine .inr ⟨unit, rfl, (Bool.or_eq_false_iff.1 hbusy).1, ?_⟩
      cases hruns : run (P.unit unit path) (s.begin path) with
      | ok _ u =>
        rw [load_of_unit_ok hbusy hunit hruns] at h
        cases h
        simp [finish]
      | error e u =>
        rw [load_of_unit_error hbusy hunit hruns] at h
        cases h

/-! ### One level of loads -/

variable [DecidableEq ι] {i : ι} {ns : Namespace} {name : Name} {l : Strategy}

/-- All units halt where fewer than `n` of them are idle. -/
def HaltsBelow (P : Program ι η υ) (n : Nat) : Prop :=
  ∀ s : State ι η υ, s.idle < n → ∀ unit path,
    Act.Halts Advances (fun _ fuel => P.exec fuel (P.unit unit path)) s

theorem halts_require (hbelow : P.HaltsBelow s.idle) (path : String) :
    Act.Halts Advances
      (fun _ fuel => Features.require State.featuresSlot (P.runUnit (P.exec fuel)) path) s := by
  cases hbusy : s.features.isLoaded path || s.features.isLoading path with
  | true =>
    exact .of_eq (fun _ fuel => Features.require_of_busy State.featuresSlot _ hbusy)
      (.ok (Advances.refl s))
  | false =>
    obtain ⟨-, hidle⟩ := Bool.or_eq_false_iff.1 hbusy
    cases hunit : s.features.units.get? path with
    | none =>
      exact .of_eq (fun _ fuel => Features.require_of_no_unit State.featuresSlot _ hbusy hunit)
        (.error nofun (advances_enter_leave hidle))
    | some unit =>
      obtain ⟨r, hr, n, hn⟩ := hbelow (s.begin path) (idle_begin_lt hunit hidle) unit path
      cases hr with
      | ok hT =>
        exact ⟨_, .ok (advances_finish hidle hT), n, fun links hlinks fuel hfuel =>
          require_of_unit_ok hbusy hunit (hn links hlinks fuel hfuel)⟩
      | error he hT =>
        exact ⟨_, .error he (advances_finish hidle hT), n, fun links hlinks fuel hfuel =>
          require_of_unit_error hbusy hunit (hn links hlinks fuel hfuel)⟩

theorem halts_load (hbelow : P.HaltsBelow s.idle) (path : String) :
    Act.Halts Advances (fun _ fuel => (P.resolver (P.exec fuel) i).load path) s :=
  (halts_require hbelow path).discard

variable (hP : P.Tame)
include hP

theorem halts_hook (hbelow : P.HaltsBelow s.idle) (hook : η) (symbol : Symbol) :
    Act.Halts Advances (fun _ fuel => P.exec fuel (P.hook hook ns symbol)) s := by
  refine Code.halts_exec (Code.halts_run Advances.refl Advances.trans (hP.hooks hook ns symbol) ?_)
  intro c hc t hT
  have hbelow' : P.HaltsBelow t.idle := by rwa [hT.idle_eq]
  cases c with
  | require path => exact halts_require hbelow' path
  | register path unit => exact absurd trivial hc.1
  | read j l ns name => exact absurd trivial hc.2
  | resolve j l ns name found => exact absurd trivial hc.2
  | _ => exact .of_eq (fun _ _ => rfl) (.ok (.of_features rfl))

theorem halts_missing (hbelow : P.HaltsBelow s.idle) (symbol : Symbol) :
    Act.Halts Advances
      (fun _ fuel => missing State.base.store (P.resolver (P.exec fuel) i).runHook ns symbol)
      s := by
  cases hinstalled : s.store.hook? ns with
  | none => exact .of_eq (fun _ fuel => missing_of_no_hook hinstalled) (.error nofun (.refl s))
  | some hook =>
    exact (halts_hook hP hbelow hook symbol).go_on Advances.trans (.refl s) 0
      fun _ _ fuel _ => missing_of_hook hinstalled

/-- A found constant is resolved if all reads that can follow the load of its unit end. -/
theorem halts_resolve_of_reads (hbelow : P.HaltsBelow s.idle) (found : Option Constant)
    (hreads : ∀ declaring declared path, found = some ⟨declaring, declared, .autoload path⟩ →
      ∀ t, Advances s t → t = s.takeAway declaring declared.text ∨ t.unloaded < s.unloaded →
        Act.Halts Advances (fun links fuel =>
          (P.resolver (P.exec fuel) i).read (l.lookup State.base.store) links ns name) t) :
    Act.Halts Advances
      (fun links fuel => (P.resolver (P.exec fuel) i).resolve (l.lookup State.base.store) ns
        name links found) s := by
  match found with
  | none =>
    let remembered := (State.base.memo i).adjust (fun memo => (memoSymbol memo name).2) s
    have hbelow' : P.HaltsBelow remembered.idle := hbelow
    have hmissing : Act.Halts Advances (fun _ fuel => missing State.base.store
        (P.resolver (P.exec fuel) i).runHook ns (memoSymbol (s.memos i) name).1) remembered :=
      halts_missing hP hbelow' _
    exact hmissing.go_on Advances.trans (.of_features rfl) 0
      fun links _ fuel _ => Resolver.resolve_none _ _ _ _ _ _
  | some ⟨_, _, .value v⟩ =>
    refine .of_eq (r := .ok v s) (fun links _ => ?_) (.ok (.refl s))
    cases links with
    | zero => rfl
    | succ links => rfl
  | some ⟨declaring, declared, .autoload path⟩ =>
    let taken := s.takeAway declaring declared.text
    have htaken : Advances s taken := .of_features rfl
    have hload : Act.Halts Advances (fun _ fuel => (P.resolver (P.exec fuel) i).load path) taken :=
      halts_load (s := taken) hbelow path
    have hchain : Act.Halts Advances (fun links fuel =>
        (P.resolver (P.exec fuel) i).load path >>= fun _ =>
          (P.resolver (P.exec fuel) i).read (l.lookup State.base.store) links ns name) taken := by
      refine hload.bind Advances.trans fun _ t _ fuel hends hT => ?_
      refine hreads declaring declared path rfl t (.trans _ _ _ htaken hT) ?_
      obtain rfl | ⟨unit, hunit, hbefore, hafter⟩ := load_eq_ok hends
      · exact .inl rfl
      · exact .inr (hT.unloaded_lt hunit hbefore hafter)
    have hback (t : State ι η υ) : Advances t (t.putBack declaring declared.text path) :=
      .of_features rfl
    exact .of_succ ((hchain.onStop Advances.trans hback).go_on Advances.trans htaken 0
      fun _ _ _ _ => rfl)

theorem halts_read (hbelow : P.HaltsBelow s.idle) :
    Act.Halts Advances (fun links fuel =>
      (P.resolver (P.exec fuel) i).read (l.lookup State.base.store) links ns name) s := by
  induction s using wellFounded_nearer.induction with
  | h s ih =>
    have hresolve : Act.Halts Advances (fun links fuel => (P.resolver (P.exec fuel) i).resolve
        (l.lookup State.base.store) ns name links (l.found s.store ns name)) s := by
      refine halts_resolve_of_reads hP hbelow _ fun declaring declared path hfound t hT hless => ?_
      refine ih t ?_ (by rwa [hT.idle_eq])
      -- Where no unit has run, the marker that was taken away is gone for good.
      rcases hless with rfl | hless
      · exact .right _ (markers_takeAway_lt (Strategy.binding?_of_found hfound))
      · exact .left _ _ hless
    exact hresolve.go_on Advances.trans (.refl s) 0 fun links _ fuel _ => Strategy.read_eq

theorem halts_perform (hbelow : P.HaltsBelow s.idle) {c : Call ι η υ} (hc : ¬ c.Registers) :
    Act.Halts Advances (fun links fuel => P.perform (P.exec fuel) links c) s := by
  cases c with
  | register path unit => exact absurd trivial hc
  | require path => exact halts_require hbelow path
  | read i l ns name => exact halts_read hP hbelow
  | resolve i l ns name found =>
    refine halts_resolve_of_reads hP hbelow found fun _ _ _ _ t hT _ => halts_read hP ?_
    rwa [hT.idle_eq]
  | _ => exact .of_eq (fun _ _ => rfl) (.ok (.of_features rfl))

/-- A unit finds one fewer idle than the code that loads it. -/
theorem haltsBelow (n : Nat) : P.HaltsBelow n := by
  induction n with
  | zero => exact fun s hs => absurd hs (Nat.not_lt_zero _)
  | succ n ih =>
    intro s hs unit path
    have hbelow : P.HaltsBelow s.idle := fun t ht => ih t (by omega)
    refine Code.halts_exec (Code.halts_run Advances.refl Advances.trans (hP.units unit path) ?_)
    intro c hc t hT
    exact halts_perform hP (by rwa [hT.idle_eq]) hc

/-- Every call ends: with enough fuel it has one outcome and leaves one state, whatever the fuel. -/
theorem calls_end (c : Call ι η υ) (s : State ι η υ) :
    ∃ r : EStateM.Result (Stop ResolveError) (State ι η υ) c.Reply,
      (∀ t, r ≠ .error .outOfFuel t) ∧ ∃ n, ∀ fuel ≥ n, P.call fuel c s = r := by
  by_cases hc : c.Registers
  · cases c with
    | register path unit =>
      have hregisters (fuel : Nat) : P.call fuel (.register path unit) s =
          .ok () (State.featuresSlot.adjust (·.register path unit) s) := rfl
      refine ⟨_, fun t ht => ?_, 0, fun fuel _ => hregisters fuel⟩
      cases ht
    | _ => exact hc.elim
  · obtain ⟨r, hr, n, hn⟩ := halts_perform hP (haltsBelow hP s.idle) hc
    refine ⟨r, fun t ht => ?_, n, fun fuel hfuel => hn fuel hfuel fuel hfuel⟩
    subst ht
    cases hr with
    | error he _ => exact he rfl

omit hP in
/-- Two units that put `X` off to themselves and `Y` to each other, and then read both. -/
theorem calls_end_in_circle :
    let ns : Namespace := .root 0 "M"
    let other (path : String) : String := if path = "a.rb" then "b.rb" else "a.rb"
    let P : Program Unit Empty Unit :=
      { unit := fun _ path => .inSequence [.change (.autoload ns "X" path),
          .change (.autoload ns "Y" (other path)),
          .read () .own ns ⟨"X", 0⟩, .read () .nearest ns ⟨"Y", 1⟩, .require (other path)]
        hook := nofun }
    let s : State Unit Empty Unit :=
      { store := ({} : Store Empty).mark ns "X" "a.rb"
        features := (({} : Features Unit).register "a.rb" ()).register "b.rb" ()
        memos := fun _ => { limit := { size := 8 } } }
    P.Tame ∧ ∃ r : EStateM.Result (Stop ResolveError) (State Unit Empty Unit) Value,
      (∀ t, r ≠ .error .outOfFuel t) ∧
        ∃ n, ∀ fuel ≥ n, P.call fuel (.read () .own ns ⟨"X", 0⟩) s = r := by
  intro ns other P s
  have hP : P.Tame :=
    ⟨fun _ path => Code.keeps_inSequence (by simp [Call.Registers]), nofun⟩
  exact ⟨hP, calls_end hP (.read () .own ns ⟨"X", 0⟩) s⟩

end Program

end Autoloading
end CallSite
