import CallSite.Proofs.Invariance
import CallSite.Proofs.Restoration
import Mathlib.Data.List.Chain

/-!
# The calls that a read makes

An observer writes down every request that a read makes, to the lookup, the loader and the hook,
with the reply and the states on both sides of it. What is written down is settled by the
replies: each request follows from the reply before it, the tables change between two requests
by the removal of a marker only, and the last reply is the answer.
-/
namespace CallSite

inductive Request (η : Type) where
  | lookup (ns : Namespace) (name : Name)
  | load (path : String)
  | dispatch (hook : η) (ns : Namespace) (symbol : Symbol)

def Request.Reply {η : Type} : Request η → Type
  | lookup .. => Option Constant
  | load _ => Unit
  | dispatch .. => Value

/-- A request with the state in which it was made, the reply to it, and the state that the reply
left. -/
structure Exchange (σ η : Type) where
  request : Request η
  before : σ
  reply : Except (Stop ResolveError) request.Reply
  after : σ

abbrev Watched (σ η : Type) := σ × List (Exchange σ η)

variable {σ η : Type}

/-- Makes a request and writes it down. -/
def watch (request : Request η) (x : Act σ ResolveError request.Reply) :
    Act (Watched σ η) ResolveError request.Reply := fun w =>
  match x w.1 with
  | .ok a s => .ok a (s, w.2 ++ [⟨request, w.1, .ok a, s⟩])
  | .error e s => .error e (s, w.2 ++ [⟨request, w.1, .error e, s⟩])

def Slot.watched {τ : Type} (slot : Slot σ τ) : Slot (Watched σ η) τ where
  get w := slot.get w.1
  set w t := (slot.set w.1 t, w.2)
  get_set w t := slot.get_set w.1 t
  set_set w t t' := congrArg (·, w.2) (slot.set_set w.1 t t')

def Lookup.watched (lookup : Lookup σ) : Lookup (Watched σ η) := fun ns name =>
  watch (.lookup ns name) (lookup ns name)

def Resolver.watched (r : Resolver σ η) : Resolver (Watched σ η) η where
  store := r.store.watched
  memo := r.memo.watched
  load path := watch (.load path) (r.load path)
  runHook hook ns symbol := watch (.dispatch hook ns symbol) (r.runHook hook ns symbol)

/-- What the code around a resolver does when it is asked. -/
def Request.ask (r : Resolver σ η) (lookup : Lookup σ) :
    (request : Request η) → Act σ ResolveError request.Reply
  | .lookup ns name => lookup ns name
  | .load path => r.load path
  | .dispatch hook ns symbol => r.runHook hook ns symbol

/-- The exchange that takes place when a request is made in the state `s`. -/
def Request.exchange (request : Request η) (r : Resolver σ η) (lookup : Lookup σ) (s : σ) :
    Exchange σ η :=
  ⟨request, s, (request.ask r lookup).outcome s, (request.ask r lookup).after s⟩

namespace Request

variable (request : Request η) {r : Resolver σ η} {lookup : Lookup σ} {s s' : σ}

theorem exchange_of_ok {a : request.Reply} (h : request.ask r lookup s = .ok a s') :
    request.exchange r lookup s = ⟨request, s, .ok a, s'⟩ := by
  rw [exchange, Act.outcome_of_ok h, Act.after_of_ok h]

theorem exchange_of_error {e : Stop ResolveError} (h : request.ask r lookup s = .error e s') :
    request.exchange r lookup s = ⟨request, s, .error e, s'⟩ := by
  rw [exchange, Act.outcome_of_error h, Act.after_of_error h]

end Request

namespace Exchange

/-- The reply and what it left are those of the code around the resolver. -/
def Real (r : Resolver σ η) (lookup : Lookup σ) (x : Exchange σ η) : Prop :=
  x = x.request.exchange r lookup x.before

/-- The marker that a lookup has found. -/
def link? : Exchange σ η → Option Marker
  | ⟨.lookup .., _, .ok (some ⟨declaring, declared, .autoload path⟩), _⟩ =>
    some ⟨declaring, declared.text, path⟩
  | _ => none

end Exchange

namespace Resolver

/-- The request that follows a reply, in a read of `name` from `ns`. -/
inductive Next (r : Resolver σ η) (ns : Namespace) (name : Name) :
    Exchange σ η → Exchange σ η → Prop
  /-- A marker was found: it is taken away and its unit loaded. -/
  | load {declaring : Namespace} {declared : Name} {path : String} {s s₁ s₂ : σ}
      {reply : Except (Stop ResolveError) Unit} :
    Next r ns name ⟨.lookup ns name, s, .ok (some ⟨declaring, declared, .autoload path⟩), s₁⟩
      ⟨.load path, r.takeAway ⟨declaring, declared.text, path⟩ s₁, reply, s₂⟩
  /-- The unit has ended: the same name is looked up from the same namespace. -/
  | again {path : String} {s s₁ s₂ : σ} {reply : Except (Stop ResolveError) (Option Constant)} :
    Next r ns name ⟨.load path, s, .ok (), s₁⟩ ⟨.lookup ns name, s₁, reply, s₂⟩
  /-- Nothing was found, and a hook is installed where the read began. -/
  | dispatch {hook : η} {s s₁ s₂ : σ} {reply : Except (Stop ResolveError) Value} :
    (r.store.get s₁).hook? ns = some hook →
    Next r ns name ⟨.lookup ns name, s, .ok none, s₁⟩
      ⟨.dispatch hook ns name.symbol, r.remember name s₁, reply, s₂⟩

/-- The reply that ends a read of `name` from `ns`, how the read ends, and the state before any
marker is put back. -/
inductive Last (r : Resolver σ η) (ns : Namespace) (name : Name) :
    Exchange σ η → Except (Stop ResolveError) Value → σ → Prop
  | stopped {request : Request η} {s s₁ : σ} {e : Stop ResolveError} :
    Last r ns name ⟨request, s, .error e, s₁⟩ (.error e) s₁
  | value {declaring : Namespace} {declared : Name} {v : Value} {s s₁ : σ} :
    Last r ns name ⟨.lookup ns name, s, .ok (some ⟨declaring, declared, .value v⟩), s₁⟩ (.ok v) s₁
  | answered {hook : η} {symbol : Symbol} {v : Value} {s s₁ : σ} :
    Last r ns name ⟨.dispatch hook ns symbol, s, .ok v, s₁⟩ (.ok v) s₁
  /-- Nothing was found, and no hook is installed where the read began. -/
  | unanswered {s s₁ : σ} :
    (r.store.get s₁).hook? ns = none →
    Last r ns name ⟨.lookup ns name, s, .ok none, s₁⟩
      (.error (.failure (.nameNotFound ns.name name.symbol))) (r.remember name s₁)

/-- Markers are put back only behind a failure. -/
def settle (r : Resolver σ η) (markers : List Marker) (ending : Except (Stop ResolveError) Value)
    (s : σ) : σ :=
  match ending with
  | .ok _ => s
  | .error _ => r.restore markers s

/-- The exchanges behind `x` lead on from it to the end of the read. -/
structure LeadsTo (r : Resolver σ η) (ns : Namespace) (name : Name) (x : Exchange σ η)
    (later : List (Exchange σ η)) (ending : Except (Stop ResolveError) Value) (s' : σ) : Prop where
  follows : (x :: later).IsChain (Next r ns name)
  ends : ∃ last s, (x :: later).getLast? = some last ∧ Last r ns name last ending s ∧
    s' = r.settle ((x :: later).filterMap Exchange.link?) ending s

section Behaviour

variable {r : Resolver σ η} {lookup : Lookup σ} {ns : Namespace} {name : Name}
  {x y : Exchange σ η} {later : List (Exchange σ η)} {ending : Except (Stop ResolveError) Value}
  {s : σ}

theorem LeadsTo.last (h : Last r ns name x ending s) (hlink : x.link? = none) :
    LeadsTo r ns name x [] ending s where
  follows := .singleton x
  ends := by
    refine ⟨x, s, rfl, h, ?_⟩
    rw [List.filterMap_cons_none hlink]
    cases ending with
    | ok v => rfl
    | error e => rfl

theorem LeadsTo.next (hnext : Next r ns name x y) (hlink : x.link? = none)
    (h : LeadsTo r ns name y later ending s) : LeadsTo r ns name x (y :: later) ending s where
  follows := .cons_cons hnext h.follows
  ends := by
    obtain ⟨last, s₀, hlast, hends, hs⟩ := h.ends
    refine ⟨last, s₀, by simpa using hlast, hends, ?_⟩
    rw [List.filterMap_cons_none hlink, hs]

/-- The marker of an earlier exchange is put back after those of the later ones. -/
theorem LeadsTo.link {m : Marker} (hnext : Next r ns name x y) (hlink : x.link? = some m)
    (h : LeadsTo r ns name y later ending s) :
    LeadsTo r ns name x (y :: later) ending (r.settle [m] ending s) where
  follows := .cons_cons hnext h.follows
  ends := by
    obtain ⟨last, s₀, hlast, hends, rfl⟩ := h.ends
    refine ⟨last, s₀, by simpa using hlast, hends, ?_⟩
    rw [List.filterMap_cons_some hlink]
    cases ending with
    | ok v => rfl
    | error e => rfl

/-- A result with what was written down on the way to it. -/
def written {α : Type} (log : List (Exchange σ η)) :
    EStateM.Result (Stop ResolveError) σ α → EStateM.Result (Stop ResolveError) (Watched σ η) α
  | .ok a s => .ok a (s, log)
  | .error e s => .error e (s, log)

/-- The memo is the resolver's own: it is kept apart from the tables, and the code around the
resolver leaves every name in it with its own symbol. -/
structure OwnsMemo (r : Resolver σ η) (lookup : Lookup σ) : Prop where
  apart : r.store.Apart r.memo
  load : ∀ path, (r.load path).Within fun s s' =>
    Faithful (r.memo.get s) → Faithful (r.memo.get s')
  lookup : ∀ ns name, (lookup ns name).Within fun s s' =>
    Faithful (r.memo.get s) → Faithful (r.memo.get s')
  hook : ∀ hook ns symbol, (r.runHook hook ns symbol).Within fun s s' =>
    Faithful (r.memo.get s) → Faithful (r.memo.get s')

theorem OwnsMemo.store_remember (h : r.OwnsMemo lookup) (name : Name) (s : σ) :
    r.store.get (r.remember name s) = r.store.get s :=
  h.apart.get_left s _

theorem OwnsMemo.memo_takeAway (h : r.OwnsMemo lookup) (m : Marker) (s : σ) :
    r.memo.get (r.takeAway m s) = r.memo.get s :=
  h.apart.get_right s _

theorem watch_ask (request : Request η) (r : Resolver σ η) (lookup : Lookup σ) (s : σ)
    (log : List (Exchange σ η)) :
    watch request (request.ask r lookup) (s, log) =
      written (log ++ [request.exchange r lookup s]) (request.ask r lookup s) := by
  simp only [watch, Request.exchange, Act.outcome, Act.after]
  cases request.ask r lookup s with
  | ok a s' => rfl
  | error e s' => rfl

theorem outcome_onStop_putBack {x : Act σ ResolveError Value} {m : Marker} :
    (x.onStop (r.store.adjust (·.putBack m))).outcome s = x.outcome s ∧
      (x.onStop (r.store.adjust (·.putBack m))).after s =
        r.settle [m] (x.outcome s) (x.after s) := by
  simp only [Act.onStop, Act.outcome, Act.after]
  cases x s with
  | ok v s' => exact ⟨rfl, rfl⟩
  | error e s' => exact ⟨rfl, rfl⟩

theorem Last.dispatch {hook : η} {symbol : Symbol} {reply : Except (Stop ResolveError) Value}
    {s s' : σ} : Last r ns name ⟨.dispatch hook ns symbol, s, reply, s'⟩ reply s' := by
  cases reply with
  | ok v => exact .answered
  | error e => exact .stopped

/-- What a run writes down behind `log` when `found` has just been looked up in the state `s`. -/
structure Writes (r : Resolver σ η) (lookup : Lookup σ) (ns : Namespace) (name : Name)
    (found : Option Constant) (s : σ) (log new : List (Exchange σ η))
    (plain : Act σ ResolveError Value) (watched : Act (Watched σ η) ResolveError Value) :
    Prop where
  same : watched (s, log) = written (log ++ new) (plain s)
  real : ∀ x ∈ new, x.Real r lookup
  leads : plain.outcome s ≠ .error .outOfFuel → ∀ before,
    LeadsTo r ns name ⟨.lookup ns name, before, .ok found, s⟩ new (plain.outcome s) (plain.after s)

/-- A name that nothing is bound to goes to the hook of the namespace where the read began. -/
theorem writes_dispatch (h : r.OwnsMemo lookup) (fuel : Nat) (s : σ)
    (log : List (Exchange σ η)) (hs : Faithful (r.memo.get s)) :
    ∃ new, Writes r lookup ns name none s log new (r.resolve lookup ns name fuel none)
      (r.watched.resolve lookup.watched ns name fuel none) := by
  have hsymbol : (memoSymbol (r.memo.get s) name).1 = name.symbol :=
    (memoSymbol_of_faithful hs name).1
  have hplain : r.resolve lookup ns name fuel none s =
      missing r.store r.runHook ns name.symbol (r.remember name s) := by
    rw [resolve_none, hsymbol]
    rfl
  have hwatched : r.watched.resolve lookup.watched ns name fuel none (s, log) =
      missing r.watched.store r.watched.runHook ns name.symbol (r.remember name s, log) := by
    rw [resolve_none]
    exact congrArg (missing r.watched.store r.watched.runHook ns · (r.remember name s, log)) hsymbol
  have hstore : r.store.get (r.remember name s) = r.store.get s := h.store_remember name s
  cases hinstalled : (r.store.get s).hook? ns with
  | none =>
    rw [← hstore] at hinstalled
    have hends := hplain.trans (missing_of_no_hook hinstalled)
    refine ⟨[], ⟨?_, by simp, ?_⟩⟩
    · have hstop : missing r.watched.store r.watched.runHook ns name.symbol
          (r.remember name s, log) = .error (.failure (.nameNotFound ns.name name.symbol))
            (r.remember name s, log) := missing_of_no_hook hinstalled
      rw [hwatched, hends, hstop, List.append_nil]
      rfl
    · intro _ before
      rw [Act.outcome_congr hends, Act.after_congr hends]
      exact .last (.unanswered (by rw [← hstore, hinstalled])) rfl
  | some hook =>
    rw [← hstore] at hinstalled
    have hends := hplain.trans (missing_of_hook hinstalled)
    let x := (Request.dispatch hook ns name.symbol).exchange r lookup (r.remember name s)
    refine ⟨[x], ⟨?_, ?_, ?_⟩⟩
    · have hdispatch : missing r.watched.store r.watched.runHook ns name.symbol
          (r.remember name s, log) = r.watched.runHook hook ns name.symbol
            (r.remember name s, log) := missing_of_hook hinstalled
      rw [hwatched, hends, hdispatch]
      exact watch_ask (.dispatch hook ns name.symbol) r lookup _ log
    · exact List.forall_mem_singleton.2 rfl
    · intro _ before
      rw [Act.outcome_congr hends, Act.after_congr hends]
      exact .next (.dispatch (by rw [← hstore, hinstalled])) rfl (.last .dispatch rfl)

/-- A marker is away while its unit is loaded and what is then found is resolved. -/
theorem writes_autoload (h : r.OwnsMemo lookup) {fuel : Nat}
    (hrest : ∀ found s log, Faithful (r.memo.get s) →
      ∃ new, Writes r lookup ns name found s log new (r.resolve lookup ns name fuel found)
        (r.watched.resolve lookup.watched ns name fuel found))
    (declaring : Namespace) (declared : Name) (path : String) (s : σ) (log : List (Exchange σ η))
    (hs : Faithful (r.memo.get s)) :
    let found : Option Constant := some ⟨declaring, declared, .autoload path⟩
    ∃ new, Writes r lookup ns name found s log new
      (r.resolve lookup ns name (fuel + 1) found)
      (r.watched.resolve lookup.watched ns name (fuel + 1) found) := by
  intro found
  let m : Marker := ⟨declaring, declared.text, path⟩
  let s₁ := r.takeAway m s
  let rest := r.load path >>= fun _ => lookup ns name >>= r.resolve lookup ns name fuel
  have hplain : r.resolve lookup ns name (fuel + 1) found s =
      rest.onStop (r.store.adjust (·.putBack m)) s₁ := rfl
  let rest' := r.watched.load path >>= fun _ =>
    lookup.watched ns name >>= r.watched.resolve lookup.watched ns name fuel
  have hwatched : r.watched.resolve lookup.watched ns name (fuel + 1) found (s, log) =
      rest'.onStop (r.watched.store.adjust (·.putBack m)) (s₁, log) := rfl
  have hs₁ : Faithful (r.memo.get s₁) := by rwa [h.memo_takeAway]
  let load := (Request.load path).exchange r lookup s₁
  have hload : r.watched.load path (s₁, log) = written (log ++ [load]) (r.load path s₁) :=
    watch_ask (.load path) r lookup s₁ log
  suffices hrun : ∃ new, rest' (s₁, log) = written (log ++ load :: new) (rest s₁) ∧
      (∀ x ∈ new, x.Real r lookup) ∧
      (rest.outcome s₁ ≠ .error .outOfFuel →
        LeadsTo r ns name load new (rest.outcome s₁) (rest.after s₁)) by
    obtain ⟨new, hsame, hreal, hleads⟩ := hrun
    refine ⟨load :: new, ⟨?_, ?_, ?_⟩⟩
    · rw [hwatched, hplain]
      simp only [Act.onStop, hsame]
      cases rest s₁ with
      | ok v s' => rfl
      | error e s' => rfl
    · exact List.forall_mem_cons.2 ⟨rfl, hreal⟩
    · intro hfuel before
      have hends := @outcome_onStop_putBack _ _ r s₁ rest m
      rw [Act.outcome_congr hplain, hends.1] at hfuel ⊢
      rw [Act.after_congr hplain, hends.2]
      exact .link .load rfl (hleads hfuel)
  cases hend : r.load path s₁ with
  | error e s₂ =>
    have hstop : rest s₁ = .error e s₂ := Act.bind_of_error hend
    rw [hend] at hload
    refine ⟨[], ?_, by simp, ?_⟩
    · rw [hstop]
      exact Act.bind_of_error hload
    · intro _
      have hreply : load = ⟨.load path, s₁, .error e, s₂⟩ :=
        Request.exchange_of_error (.load path) hend
      rw [Act.outcome_of_error hstop, Act.after_of_error hstop, hreply]
      exact .last .stopped rfl
  | ok u s₂ =>
    have hs₂ : Faithful (r.memo.get s₂) := by
      have hkept := h.load path s₁ hs₁
      rwa [Act.after_of_ok hend] at hkept
    have hreply : load = ⟨.load path, s₁, .ok (), s₂⟩ :=
      Request.exchange_of_ok (.load path) hend
    let again := (Request.lookup ns name).exchange r lookup s₂
    have hagain : lookup.watched ns name (s₂, log ++ [load]) =
        written (log ++ [load] ++ [again]) (lookup ns name s₂) :=
      watch_ask (.lookup ns name) r lookup s₂ (log ++ [load])
    rw [hend] at hload
    cases hfound : lookup ns name s₂ with
    | error e s₃ =>
      have hstop : rest s₁ = .error e s₃ :=
        (Act.bind_of_ok hend).trans (Act.bind_of_error hfound)
      rw [hfound] at hagain
      refine ⟨[again], ?_, List.forall_mem_singleton.2 rfl, ?_⟩
      · rw [hstop]
        refine (Act.bind_of_ok hload).trans ((Act.bind_of_error hagain).trans ?_)
        rw [List.append_assoc]
        rfl
      · intro _
        have hask : again = ⟨.lookup ns name, s₂, .error e, s₃⟩ :=
          Request.exchange_of_error (.lookup ns name) hfound
        rw [Act.outcome_of_error hstop, Act.after_of_error hstop, hreply, hask]
        exact .next .again rfl (.last .stopped rfl)
    | ok found s₃ =>
      have hs₃ : Faithful (r.memo.get s₃) := by
        have hkept := h.lookup ns name s₂ hs₂
        rwa [Act.after_of_ok hfound] at hkept
      have hgoes : rest s₁ = r.resolve lookup ns name fuel found s₃ :=
        (Act.bind_of_ok hend).trans (Act.bind_of_ok hfound)
      have hask : again = ⟨.lookup ns name, s₂, .ok found, s₃⟩ :=
        Request.exchange_of_ok (.lookup ns name) hfound
      rw [hfound] at hagain
      obtain ⟨new, hnew⟩ := hrest found s₃ (log ++ [load] ++ [again]) hs₃
      refine ⟨again :: new, ?_, List.forall_mem_cons.2 ⟨rfl, hnew.real⟩, ?_⟩
      · rw [hgoes]
        refine (Act.bind_of_ok hload).trans ((Act.bind_of_ok hagain).trans ?_)
        rw [hnew.same]
        simp
      · intro hfuel
        rw [Act.outcome_congr hgoes] at hfuel ⊢
        rw [Act.after_congr hgoes, hreply, hask]
        exact .next .again rfl (hnew.leads hfuel s₂)

theorem writes_resolve (h : r.OwnsMemo lookup) (ns : Namespace) (name : Name) (fuel : Nat)
    (found : Option Constant) (s : σ) (log : List (Exchange σ η)) (hs : Faithful (r.memo.get s)) :
    ∃ new, Writes r lookup ns name found s log new (r.resolve lookup ns name fuel found)
      (r.watched.resolve lookup.watched ns name fuel found) := by
  induction fuel generalizing found s log with
  | zero =>
    match found with
    | none => exact writes_dispatch h 0 s log hs
    | some ⟨declaring, declared, .value v⟩ =>
      exact ⟨[], ⟨by rw [List.append_nil]; rfl, by simp, fun _ _ => .last .value rfl⟩⟩
    | some ⟨declaring, declared, .autoload path⟩ =>
      exact ⟨[], ⟨by rw [List.append_nil]; rfl, by simp, fun hfuel => absurd rfl hfuel⟩⟩
  | succ fuel ih =>
    match found with
    | none => exact writes_dispatch h (fuel + 1) s log hs
    | some ⟨declaring, declared, .value v⟩ =>
      exact ⟨[], ⟨by rw [List.append_nil]; rfl, by simp, fun _ _ => .last .value rfl⟩⟩
    | some ⟨declaring, declared, .autoload path⟩ =>
      exact writes_autoload h ih declaring declared path s log hs

/-- How a read talks to the code around it, from the state `s` to its end in `s'`. -/
structure Protocol (r : Resolver σ η) (lookup : Lookup σ) (ns : Namespace) (name : Name) (s : σ)
    (log : List (Exchange σ η)) (ending : Except (Stop ResolveError) Value) (s' : σ) : Prop where
  real : ∀ x ∈ log, x.Real r lookup
  /-- It begins with a lookup, and each later request follows from the reply before it. -/
  begins : ∃ first later, log = first :: later ∧ first.request = .lookup ns name ∧
    first.before = s ∧ LeadsTo r ns name first later ending s'
  /-- Behind a lookup that has found a marker its unit is loaded, with nothing in its place. -/
  unbound : ∀ earlier x y later m, log = earlier ++ x :: y :: later → x.link? = some m →
    y.request = .load m.path ∧ (r.store.get y.before).binding? m.declaring m.name = none
  /-- Between two requests the tables lose that marker, and are otherwise untouched. -/
  tables : ∀ earlier x y later, log = earlier ++ x :: y :: later →
    r.store.get y.before =
      x.link?.elim (r.store.get x.after) fun m => (r.store.get x.after).remove m.declaring m.name
  /-- Behind the last reply of a read that ends with a value, nothing is changed. -/
  kept : ∀ v last, ending = .ok v → log.getLast? = some last → s' = last.after

theorem Next.unbound {m : Marker} (h : Next r ns name x y) (hlink : x.link? = some m) :
    y.request = .load m.path ∧ (r.store.get y.before).binding? m.declaring m.name = none := by
  cases h with
  | load =>
    cases hlink
    refine ⟨rfl, ?_⟩
    rw [takeAway, Slot.get_adjust, Store.binding?_remove, if_pos ⟨rfl, rfl⟩]
  | again => cases hlink
  | dispatch _ => cases hlink

theorem Next.tables (h : r.OwnsMemo lookup) (hnext : Next r ns name x y) :
    r.store.get y.before =
      x.link?.elim (r.store.get x.after) fun m =>
        (r.store.get x.after).remove m.declaring m.name := by
  cases hnext with
  | @load declaring declared path _ s₁ _ _ =>
    exact r.store.get_adjust (·.remove declaring declared.text) s₁
  | again => rfl
  | dispatch _ => exact h.store_remember name _

theorem Last.kept {v : Value} (h : Last r ns name x (.ok v) s) : s = x.after := by
  cases h with
  | value => rfl
  | answered => rfl

theorem LeadsTo.protocol (h : r.OwnsMemo lookup) (hrequest : x.request = .lookup ns name)
    (hreal : ∀ y ∈ x :: later, y.Real r lookup) {s' : σ}
    (hleads : LeadsTo r ns name x later ending s') :
    Protocol r lookup ns name x.before (x :: later) ending s' where
  real := hreal
  begins := ⟨x, later, rfl, hrequest, rfl, hleads⟩
  unbound earlier y z rest m hlog hlink :=
    (List.isChain_iff_forall_rel_of_append_cons_cons.1 hleads.follows hlog).unbound hlink
  tables earlier y z rest hlog :=
    (List.isChain_iff_forall_rel_of_append_cons_cons.1 hleads.follows hlog).tables h
  kept v last hok hlast := by
    obtain ⟨last', s₀, hlast', hends, hs'⟩ := hleads.ends
    rw [hlast] at hlast'
    cases hlast'
    subst hok
    rw [hs', ← hends.kept]
    rfl

/-- Every read that ends tells its observer of a dialogue that keeps to the protocol, and ends as
it does when nobody watches. -/
theorem read_protocol (h : r.OwnsMemo lookup) (fuel : Nat) (hs : Faithful (r.memo.get s))
    (hends : (r.read lookup fuel ns name).outcome s ≠ .error .outOfFuel) :
    ∃ log, r.watched.read lookup.watched fuel ns name (s, []) =
        written log (r.read lookup fuel ns name s) ∧
      Protocol r lookup ns name s log ((r.read lookup fuel ns name).outcome s)
        ((r.read lookup fuel ns name).after s) := by
  let first := (Request.lookup ns name).exchange r lookup s
  have hfirst : lookup.watched ns name (s, []) = written [first] (lookup ns name s) :=
    watch_ask (.lookup ns name) r lookup s []
  cases hfound : lookup ns name s with
  | error e s₁ =>
    have hstop : r.read lookup fuel ns name s = .error e s₁ := Act.bind_of_error hfound
    have hreply : first = ⟨.lookup ns name, s, .error e, s₁⟩ :=
      Request.exchange_of_error (.lookup ns name) hfound
    rw [hfound] at hfirst
    refine ⟨[first], ?_, ?_⟩
    · rw [hstop]
      exact Act.bind_of_error hfirst
    · refine LeadsTo.protocol (x := first) h rfl (List.forall_mem_singleton.2 rfl) ?_
      rw [Act.outcome_of_error hstop, Act.after_of_error hstop, hreply]
      exact .last .stopped rfl
  | ok found s₁ =>
    have hgoes : r.read lookup fuel ns name s = r.resolve lookup ns name fuel found s₁ :=
      Act.bind_of_ok hfound
    have hreply : first = ⟨.lookup ns name, s, .ok found, s₁⟩ :=
      Request.exchange_of_ok (.lookup ns name) hfound
    have hs₁ : Faithful (r.memo.get s₁) := by
      have hkept := h.lookup ns name s hs
      rwa [Act.after_of_ok hfound] at hkept
    obtain ⟨new, hnew⟩ := writes_resolve h ns name fuel found s₁ [first] hs₁
    rw [hfound] at hfirst
    refine ⟨first :: new, ?_, ?_⟩
    · rw [hgoes]
      exact (Act.bind_of_ok hfirst).trans hnew.same
    · refine LeadsTo.protocol (x := first) h rfl (List.forall_mem_cons.2 ⟨rfl, hnew.real⟩) ?_
      rw [Act.outcome_congr hgoes] at hends ⊢
      rw [Act.after_congr hgoes, hreply]
      exact hnew.leads hends s

end Behaviour

end Resolver

namespace Reading

variable {ι ℓ η μ : Type} [DecidableEq ι]

/-- No code takes a name out of a memo that has a symbol not its own. -/
theorem closed_faithful (i : ι) :
    Closed fun s s' : State ι ℓ η μ => Faithful (s.memos i) → Faithful (s'.memos i) where
  refl _ := id
  trans _ _ _ h₁ h₂ := h₂ ∘ h₁
  tables _ _ := id
  memo j name _ h := faithful_update j name h
  record _ _ := id
  memory _ _ := id

/-- Loaders, lookups and hooks of a program, whatever they do, leave every memo to its resolver. -/
theorem Program.ownsMemo (P : Program ι ℓ η μ) (fuel : Nat) (i : ι) (asked : Option Name) (l : ℓ) :
    (P.resolver (P.exec fuel) i asked).OwnsMemo (P.strategy (P.exec fuel) l) where
  apart := {}
  load path := within_enter (closed_faithful i) (P.within_exec (closed_faithful i) fuel) _ _
  lookup ns name := within_enter (closed_faithful i) (P.within_exec (closed_faithful i) fuel) _ _
  hook hook ns symbol :=
    within_enter (closed_faithful i) (P.within_exec (closed_faithful i) fuel) _ _

/-- Units that define nothing, a lookup in the namespace alone, and a hook that answers with the
symbol it is given. -/
def idle : Program Unit Unit Unit Unit where
  load _ _ := .done ()
  lookup _ ns name := .call .look fun
    | .ok (store, _) => .done (store.lookupOwn ns name)
    | .error e => .stop e
  hook _ _ symbol := .done (.symbol symbol)

/-- A marker is taken away for good by a unit that defines nothing, and the hook is asked. -/
theorem read_protocol_idle :
    let ns : Namespace := .root 0 "M"
    let name : Name := ⟨"X", 0⟩
    let r := idle.resolver (idle.exec 2) () (some name)
    let lookup := idle.strategy (idle.exec 2) ()
    let store := (({} : Store Unit).mark ns "X" "a.rb").setHook ns (some ())
    let s : State Unit Unit Unit Unit := .fresh store () fun _ => { size := 8 }
    r.OwnsMemo lookup ∧ Faithful (r.memo.get s) ∧
      (r.read lookup 1 ns name).outcome s = .ok (.symbol ⟨"X"⟩) ∧
      ∃ log, r.watched.read lookup.watched 1 ns name (s, []) =
          Resolver.written log (r.read lookup 1 ns name s) ∧
        r.Protocol lookup ns name s log ((r.read lookup 1 ns name).outcome s)
          ((r.read lookup 1 ns name).after s) := by
  intro ns name r lookup store s
  have howns : r.OwnsMemo lookup := idle.ownsMemo 2 () (some name) ()
  have hmemo : Faithful (r.memo.get s) := fun _ _ h => (List.not_mem_nil h).elim
  have hends : (r.read lookup 1 ns name).outcome s = .ok (.symbol ⟨"X"⟩) := by rfl
  have hfuel : (r.read lookup 1 ns name).outcome s ≠ .error .outOfFuel := by
    rw [hends]
    nofun
  exact ⟨howns, hmemo, hends, Resolver.read_protocol howns 1 hmemo hfuel⟩

end Reading
end CallSite
