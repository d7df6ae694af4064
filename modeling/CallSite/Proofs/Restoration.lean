import CallSite.Resolve.Resolver

/-!
# Markers after a read that fails

A read that goes from marker to marker takes each one away before it runs the load unit.
When a load unit, a lookup or a hook stops it, all of these markers are written again, the
last one first. The tables are otherwise what the failing call has left.
-/
namespace CallSite

/-- An autoload marker with its place: the namespace, the name and the load unit. -/
structure Marker where
  declaring : Namespace
  name : String
  path : String
  deriving Repr, DecidableEq

namespace Marker

/-- The marker stands for this name of this namespace. -/
def standsAt (m : Marker) (ns : Namespace) (name : String) : Bool :=
  m.declaring.id == ns.id && m.name == name

theorem standsAt_iff (m : Marker) (ns : Namespace) (name : String) :
    m.standsAt ns name = true ↔ ns.id = m.declaring.id ∧ name = m.name := by
  simp only [standsAt, Bool.and_eq_true, beq_iff_eq]
  constructor
  · rintro ⟨hid, hname⟩
    exact ⟨hid.symm, hname.symm⟩
  · rintro ⟨hid, hname⟩
    exact ⟨hid.symm, hname.symm⟩

end Marker

namespace Store

variable {η : Type}

def putBack (s : Store η) (m : Marker) : Store η := s.mark m.declaring m.name m.path

/-- Writes markers again, the last one first, so that an earlier one wins its place. -/
def putBackAll (s : Store η) : List Marker → Store η
  | [] => s
  | m :: rest => (s.putBackAll rest).putBack m

theorem binding?_putBack (s : Store η) (m : Marker) (ns : Namespace) (name : String) :
    (s.putBack m).binding? ns name =
      if m.standsAt ns name then some (.autoload m.path) else s.binding? ns name := by
  rw [putBack, mark, binding?_bind]
  simp only [← m.standsAt_iff]

/-- A place is bound to the earliest marker that stands there, or as it was. -/
theorem binding?_putBackAll (s : Store η) (markers : List Marker) (ns : Namespace)
    (name : String) :
    (s.putBackAll markers).binding? ns name =
      match markers.find? (·.standsAt ns name) with
      | some m => some (.autoload m.path)
      | none => s.binding? ns name := by
  induction markers with
  | nil => rfl
  | cons m rest ih =>
    rw [putBackAll, binding?_putBack]
    by_cases hm : m.standsAt ns name = true
    · simp [hm]
    · rw [Bool.not_eq_true] at hm
      simp [hm, ih]

@[simp] theorem hooks_putBackAll (s : Store η) (markers : List Marker) :
    (s.putBackAll markers).hooks = s.hooks := by
  induction markers with
  | nil => rfl
  | cons m rest ih => exact ih

@[simp] theorem created_putBackAll (s : Store η) (markers : List Marker) :
    (s.putBackAll markers).created = s.created := by
  induction markers with
  | nil => rfl
  | cons m rest ih => exact ih

/-- The tables in `left` are those in `failed` with markers written again: each place is bound
to the earliest marker that stands there, and nothing else differs. -/
structure Restored (markers : List Marker) (failed left : Store η) : Prop where
  overwritten : left = failed.putBackAll markers
  first : ∀ m rest, markers = m :: rest →
    left.binding? m.declaring m.name = some (.autoload m.path)
  earliest : ∀ ns name m, markers.find? (·.standsAt ns name) = some m →
    left.binding? ns name = some (.autoload m.path)
  elsewhere : ∀ ns name, (∀ m ∈ markers, ¬ m.standsAt ns name) →
    left.binding? ns name = failed.binding? ns name
  hooks : left.hooks = failed.hooks
  created : left.created = failed.created

theorem restored_putBackAll (s : Store η) (markers : List Marker) :
    Restored markers s (s.putBackAll markers) where
  overwritten := rfl
  first := by
    rintro m rest rfl
    have hm : m.standsAt m.declaring m.name = true := m.standsAt_iff _ _ |>.2 ⟨rfl, rfl⟩
    rw [putBackAll, binding?_putBack, if_pos hm]
  earliest := by
    intro ns name m hm
    rw [binding?_putBackAll, hm]
  elsewhere := by
    intro ns name h
    rw [binding?_putBackAll, List.find?_eq_none.2 h]
  hooks := hooks_putBackAll s markers
  created := created_putBackAll s markers

end Store

namespace Resolver

variable {σ η : Type}

def takeAway (r : Resolver σ η) (m : Marker) : σ → σ :=
  r.store.adjust (·.remove m.declaring m.name)

def restore (r : Resolver σ η) : List Marker → σ → σ
  | [], s => s
  | m :: rest, s => r.store.adjust (·.putBack m) (r.restore rest s)

theorem store_restore (r : Resolver σ η) (markers : List Marker) (s : σ) :
    r.store.get (r.restore markers s) = (r.store.get s).putBackAll markers := by
  induction markers with
  | nil => rfl
  | cons m rest ih => rw [restore, Slot.get_adjust, ih, Store.putBackAll]

/-! ### How a read fails -/

/-- A failing run on what a lookup of `name` has found: the markers it takes away, first to
last, and then the call that stops it, with the state in which that call stops. -/
inductive Fails (r : Resolver σ η) (lookup : Lookup σ) (ns : Namespace) (name : Name) :
    Option Constant → σ → List Marker → Stop ResolveError → σ → Prop
  /-- Nothing is bound, and there is no hook or it stops. -/
  | dispatch {s : σ} {e : Stop ResolveError} {s' : σ} :
    missing r.store r.runHook ns (memoSymbol (r.memo.get s) name).1
      (r.memo.adjust (fun memo => (memoSymbol memo name).2) s) = .error e s' →
    Fails r lookup ns name none s [] e s'
  | load {declaring : Namespace} {declared : Name} {path : String} {s : σ}
      {e : Stop ResolveError} {s' : σ} :
    r.load path (r.takeAway ⟨declaring, declared.text, path⟩ s) = .error e s' →
    Fails r lookup ns name (some ⟨declaring, declared, .autoload path⟩) s
      [⟨declaring, declared.text, path⟩] e s'
  | lookup {declaring : Namespace} {declared : Name} {path : String} {s s₁ : σ}
      {e : Stop ResolveError} {s' : σ} :
    r.load path (r.takeAway ⟨declaring, declared.text, path⟩ s) = .ok () s₁ →
    lookup ns name s₁ = .error e s' →
    Fails r lookup ns name (some ⟨declaring, declared, .autoload path⟩) s
      [⟨declaring, declared.text, path⟩] e s'
  /-- The unit ends, the name is looked up again, and the run on what is then found fails. -/
  | again {declaring : Namespace} {declared : Name} {path : String} {s s₁ s₂ : σ}
      {found : Option Constant} {markers : List Marker} {e : Stop ResolveError} {s' : σ} :
    r.load path (r.takeAway ⟨declaring, declared.text, path⟩ s) = .ok () s₁ →
    lookup ns name s₁ = .ok found s₂ →
    Fails r lookup ns name found s₂ markers e s' →
    Fails r lookup ns name (some ⟨declaring, declared, .autoload path⟩) s
      (⟨declaring, declared.text, path⟩ :: markers) e s'

/-- A failing read: the first lookup stops, or the run on what it has found fails. -/
inductive ReadFails (r : Resolver σ η) (lookup : Lookup σ) (ns : Namespace) (name : Name) :
    σ → List Marker → Stop ResolveError → σ → Prop
  | lookup {s : σ} {e : Stop ResolveError} {s' : σ} :
    lookup ns name s = .error e s' → ReadFails r lookup ns name s [] e s'
  | found {s s₁ : σ} {found : Option Constant} {markers : List Marker}
      {e : Stop ResolveError} {s' : σ} :
    lookup ns name s = .ok found s₁ → r.Fails lookup ns name found s₁ markers e s' →
    ReadFails r lookup ns name s markers e s'

variable {r : Resolver σ η} {lookup : Lookup σ} {ns : Namespace} {name : Name}

/-- One link of the chain: the marker is away while the unit runs and the rest is resolved. -/
theorem resolve_autoload_eq_error {fuel : Nat} {declaring : Namespace} {declared : Name}
    {path : String} {s s' : σ} {e : Stop ResolveError} :
    r.resolve lookup ns name (fuel + 1) (some ⟨declaring, declared, .autoload path⟩) s =
        .error e s' ↔
      ∃ left, (r.load path >>= fun _ => lookup ns name >>= r.resolve lookup ns name fuel)
          (r.takeAway ⟨declaring, declared.text, path⟩ s) = .error e left ∧
        r.store.adjust (·.putBack ⟨declaring, declared.text, path⟩) left = s' := by
  rw [resolve, withoutMarker, Act.bind_eq_error]
  constructor
  · rintro (h | ⟨_, s₁, h₁, h⟩)
    · cases h
    · cases h₁
      exact Act.onStop_eq_error.1 h
  · intro h
    exact .inr ⟨(), _, rfl, Act.onStop_eq_error.2 h⟩

theorem fails_of_resolve {fuel : Nat} {found : Option Constant} {s s' : σ}
    {e : Stop ResolveError} (he : e ≠ .outOfFuel)
    (h : r.resolve lookup ns name fuel found s = .error e s') :
    ∃ markers failed, r.Fails lookup ns name found s markers e failed ∧
      s' = r.restore markers failed := by
  induction fuel generalizing found s s' with
  | zero =>
    match found with
    | none => exact ⟨[], s', .dispatch h, rfl⟩
    | some ⟨_, _, .value _⟩ => cases h
    | some ⟨_, _, .autoload _⟩ =>
      cases h
      exact absurd rfl he
  | succ fuel ih =>
    match found with
    | none => exact ⟨[], s', .dispatch h, rfl⟩
    | some ⟨_, _, .value _⟩ => cases h
    | some ⟨declaring, declared, .autoload path⟩ =>
      obtain ⟨left, hrun, rfl⟩ := resolve_autoload_eq_error.1 h
      rcases Act.bind_eq_error.1 hrun with hload | ⟨_, s₁, hload, hrest⟩
      · exact ⟨_, left, .load hload, rfl⟩
      rcases Act.bind_eq_error.1 hrest with hlookup | ⟨found, s₂, hlookup, hagain⟩
      · exact ⟨_, left, .lookup hload hlookup, rfl⟩
      obtain ⟨markers, failed, hfails, rfl⟩ := ih hagain
      exact ⟨_, failed, .again hload hlookup hfails, rfl⟩

theorem resolve_of_fails {found : Option Constant} {s failed : σ} {markers : List Marker}
    {e : Stop ResolveError} (h : r.Fails lookup ns name found s markers e failed) {fuel : Nat}
    (hfuel : markers.length ≤ fuel) :
    r.resolve lookup ns name fuel found s = .error e (r.restore markers failed) := by
  induction h generalizing fuel with
  | dispatch h =>
    cases fuel with
    | zero => exact h
    | succ fuel => exact h
  | load hload =>
    obtain ⟨fuel, rfl⟩ : ∃ k, fuel = k + 1 := ⟨fuel - 1, by simp at hfuel; omega⟩
    exact resolve_autoload_eq_error.2 ⟨_, Act.bind_eq_error.2 (.inl hload), rfl⟩
  | lookup hload hlookup =>
    obtain ⟨fuel, rfl⟩ : ∃ k, fuel = k + 1 := ⟨fuel - 1, by simp at hfuel; omega⟩
    have hrest := Act.bind_eq_error (f := r.resolve lookup ns name fuel) |>.2 (.inl hlookup)
    exact resolve_autoload_eq_error.2 ⟨_, Act.bind_eq_error.2 (.inr ⟨(), _, hload, hrest⟩), rfl⟩
  | again hload hlookup _ ih =>
    obtain ⟨fuel, rfl⟩ : ∃ k, fuel = k + 1 := ⟨fuel - 1, by simp at hfuel; omega⟩
    have hagain := @ih fuel (by simpa using hfuel)
    have hrest := Act.bind_eq_error.2 (.inr ⟨_, _, hlookup, hagain⟩)
    exact resolve_autoload_eq_error.2 ⟨_, Act.bind_eq_error.2 (.inr ⟨(), _, hload, hrest⟩), rfl⟩

theorem resolve_eq_error_iff {found : Option Constant} {s s' : σ} {e : Stop ResolveError}
    (he : e ≠ .outOfFuel) :
    (∃ fuel, r.resolve lookup ns name fuel found s = .error e s') ↔
      ∃ markers failed, r.Fails lookup ns name found s markers e failed ∧
        s' = r.restore markers failed := by
  constructor
  · rintro ⟨fuel, h⟩
    exact fails_of_resolve he h
  · rintro ⟨markers, failed, h, rfl⟩
    exact ⟨markers.length, resolve_of_fails h (Nat.le_refl _)⟩

theorem read_eq_error_iff {s s' : σ} {e : Stop ResolveError} (he : e ≠ .outOfFuel) :
    (∃ fuel, r.read lookup fuel ns name s = .error e s') ↔
      ∃ markers failed, r.ReadFails lookup ns name s markers e failed ∧
        s' = r.restore markers failed := by
  constructor
  · rintro ⟨fuel, h⟩
    rcases Act.bind_eq_error.1 h with hlookup | ⟨found, s₁, hlookup, hresolve⟩
    · exact ⟨[], s', .lookup hlookup, rfl⟩
    obtain ⟨markers, failed, hfails, rfl⟩ := fails_of_resolve he hresolve
    exact ⟨markers, failed, .found hlookup hfails, rfl⟩
  · rintro ⟨markers, failed, h, rfl⟩
    cases h with
    | lookup hlookup => exact ⟨0, Act.bind_eq_error.2 (.inl hlookup)⟩
    | found hlookup hfails =>
      have hresolve := resolve_of_fails hfails (Nat.le_refl _)
      exact ⟨markers.length, Act.bind_eq_error.2 (.inr ⟨_, _, hlookup, hresolve⟩)⟩

/-- A read or a resolution that ends in a failure or a panic ends in the one that stopped its
chain of markers, and leaves the tables as the failing call has, with all markers of the chain
written again. -/
theorem failure_restores_markers (r : Resolver σ η) (lookup : Lookup σ) (ns : Namespace)
    (name : Name) (s s' : σ) (e : Stop ResolveError) (he : e ≠ .outOfFuel) :
    (∀ found, (∃ fuel, r.resolve lookup ns name fuel found s = .error e s') ↔
      ∃ markers failed, r.Fails lookup ns name found s markers e failed ∧
        s' = r.restore markers failed) ∧
    ((∃ fuel, r.read lookup fuel ns name s = .error e s') ↔
      ∃ markers failed, r.ReadFails lookup ns name s markers e failed ∧
        s' = r.restore markers failed) ∧
    ∀ markers failed, s' = r.restore markers failed →
      Store.Restored markers (r.store.get failed) (r.store.get s') := by
  refine ⟨fun found => resolve_eq_error_iff he, read_eq_error_iff he, ?_⟩
  rintro markers failed rfl
  rw [store_restore]
  exact Store.restored_putBackAll _ _

/-- A resolver in a state that is its tables and its memo, where no hook can be installed. -/
def alone (load : String → Act (Store Empty × SiteCache Name Symbol) ResolveError Unit) :
    Resolver (Store Empty × SiteCache Name Symbol) Empty where
  store := .first
  memo := .second
  load := load
  runHook hook := nomatch hook

/-- The unit `a` puts off a constant to the unit `b`, which fails. -/
def deferred : Resolver (Store Empty × SiteCache Name Symbol) Empty :=
  alone fun path =>
    if path = "a" then Slot.first.modify (·.mark (.root 0 "M") "X" "b")
    else Act.fail (.loadFailed path "boom")

/-- A failure two units down the chain ends up with the marker of the first unit. -/
theorem failure_restores_markers_deferred :
    let memo : SiteCache Name Symbol := { limit := { size := 8 } }
    let s := (({} : Store Empty).mark (.root 0 "M") "X" "a", memo)
    let e : Stop ResolveError := .failure (.loadFailed "b" "boom")
    e ≠ .outOfFuel ∧
      (∃ fuel, deferred.read (.own .first) fuel (.root 0 "M") ⟨"X", 0⟩ s = .error e s) ∧
      ∃ markers failed,
        deferred.ReadFails (.own .first) (.root 0 "M") ⟨"X", 0⟩ s markers e failed ∧
        Store.Restored markers failed.1 s.1 := by
  intro memo s e
  have he : e ≠ .outOfFuel := by simp [e]
  have hread : ∃ fuel, deferred.read (.own .first) fuel (.root 0 "M") ⟨"X", 0⟩ s = .error e s :=
    ⟨2, by rfl⟩
  obtain ⟨-, hfails, hrestored⟩ :=
    failure_restores_markers deferred (.own .first) (.root 0 "M") ⟨"X", 0⟩ s s e he
  obtain ⟨markers, failed, hchain, hs⟩ := hfails.1 hread
  exact ⟨he, hread, markers, failed, hchain, hrestored markers failed hs⟩

end Resolver
end CallSite
