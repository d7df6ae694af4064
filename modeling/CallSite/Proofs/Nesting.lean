import CallSite.Proofs.Autoloading
import Mathlib.Data.List.Chain

/-!
# Loads within loads

The unit of each level reads the constant of the next one before it defines its own. A failure of
the last unit goes through all levels, and leaves every one of them as it was before the first read,
so that a later read tries all of them again.
-/
namespace CallSite.Autoloading

variable {ι η υ : Type}

/-- A constant that waits for the unit of a path. The unit reads another constant through `reader`
and computes its own from it. -/
structure Level (ι : Type) where
  ns : Namespace
  name : Name
  path : String
  reader : ι
  compute : Value → Value

namespace Level

/-- What a unit does that reads the constant of the next level and then defines its own. A failure
of the read is its failure. -/
def code (l next : Level ι) : AutoloadingCode ι η υ Unit :=
  .call (.read l.reader .own next.ns next.name) fun
    | .ok v => .call (.change (.set l.ns l.name.text (l.compute v))) fun
      | .ok _ => .done ()
      | .error e => .stop e
    | .error e => .stop e

/-- Different constants with different units. -/
structure Apart (l m : Level ι) : Prop where
  place : ¬ (l.ns.id = m.ns.id ∧ l.name.text = m.name.text)
  path : l.path ≠ m.path

/-- The constant waits for its unit, which is neither loaded nor running. -/
structure Waits (l : Level ι) (s : State ι η υ) : Prop where
  marked : s.store.binding? l.ns l.name.text = some (.autoload l.path)
  loaded : s.features.isLoaded l.path = false
  loading : s.features.isLoading l.path = false

/-- Between two states the unit has run once. -/
structure RunOnce (l : Level ι) (s t : State ι η υ) : Prop where
  counted : t.features.loadCount l.path = s.features.loadCount l.path + 1
  started : t.started.count l.path = s.started.count l.path + 1

/-- The constant has been defined by its unit. -/
structure Defined (l : Level ι) (v : Value) (s : State ι η υ) : Prop where
  bound : s.store.binding? l.ns l.name.text = some (.value v)
  loaded : s.features.isLoaded l.path = true
  loading : s.features.isLoading l.path = false

end Level

namespace State

/-- What no code can do to the units that are running. -/
def Untouched (s t : State ι η υ) : Prop :=
  ∀ path, s.features.isLoading path = true →
    t.features.isLoading path = true ∧
      t.features.isLoaded path = s.features.isLoaded path ∧
        t.features.loadCount path = s.features.loadCount path ∧
          t.started.count path = s.started.count path

/-- Code of the unit of `l` begins. -/
def enter (l : Level ι) (s : State ι η υ) : State ι η υ :=
  (s.takeAway l.ns l.name.text).begin l.path

def define (l : Level ι) (v : Value) (s : State ι η υ) : State ι η υ :=
  { s with store := s.store.bind l.ns l.name.text (.value v) }

/-- The state in which the unit of the last level begins when those of all levels before it run. -/
def descend (levels : List (Level ι)) (s : State ι η υ) : State ι η υ :=
  levels.foldl (fun s l => s.enter l) s

end State

/-- The unit of each level but the last is registered, and reads the constant of the next one. -/
def Nested (P : Program ι η υ) (units : Dict String υ) (levels : List (Level ι)) : Prop :=
  levels.IsChain fun l next => ∃ unit, units.get? l.path = some unit ∧
    P.unit unit l.path = l.code next

/-- What the first of some levels is when the last one is `v`. -/
def valueOf (v : Value) (levels : List (Level ι)) : Value :=
  levels.dropLast.foldr Level.compute v

/-! ### One level -/

namespace State

theorem isLoading_enter (l : Level ι) (s : State ι η υ) :
    (s.enter l).features.isLoading l.path = true := by
  simp [enter, begin]

end State

namespace Level

variable {l m : Level ι} {v w : Value} {s t : State ι η υ}

theorem Apart.symm (h : l.Apart m) : m.Apart l where
  place hsame := h.place ⟨hsame.1.symm, hsame.2.symm⟩
  path := h.path.symm

theorem Waits.idle (h : l.Waits s) :
    (s.features.isLoaded l.path || s.features.isLoading l.path) = false :=
  Bool.or_eq_false_iff.2 ⟨h.loaded, h.loading⟩

/-- What the unit of `l` has run counts once, however it ends. -/
theorem runOnce_of_untouched (hrun : (s.enter l).Untouched t)
    (ending : Except (Stop ResolveError) Unit) : l.RunOnce s (t.finish l.path ending) := by
  obtain ⟨-, -, hcounted, hstarted⟩ := hrun l.path (State.isLoading_enter l s)
  constructor
  · simp only [State.finish, Features.loadCount_conclude, hcounted]
    simp [State.enter, State.begin, State.takeAway]
  · refine hstarted.trans ?_
    simp [State.enter, State.begin, State.takeAway]

theorem RunOnce.define (h : l.RunOnce s t) (m : Level ι) (v : Value) : l.RunOnce s (t.define m v) :=
  ⟨h.counted, h.started⟩

theorem RunOnce.putBack (h : l.RunOnce s t) (ns : Namespace) (name path : String) :
    l.RunOnce s (t.putBack ns name path) := ⟨h.counted, h.started⟩

theorem Waits.failed (h : l.Waits s) (hrun : (s.enter l).Untouched t) (e : Stop ResolveError) :
    l.Waits ((t.finish l.path (.error e)).putBack l.ns l.name.text l.path) := by
  obtain ⟨-, hloaded, -⟩ := hrun l.path (State.isLoading_enter l s)
  refine ⟨?_, hloaded.trans h.loaded, ?_⟩
  · simp [State.putBack, Store.mark, Store.binding?_bind]
  · simp [State.putBack, State.finish]

theorem defined_of_bound (hbound : t.store.binding? l.ns l.name.text = some (.value v)) :
    l.Defined v (t.finish l.path (.ok ())) :=
  ⟨hbound, by simp [State.finish], by simp [State.finish]⟩

namespace Apart

/-- Other levels wait while the unit of `l` runs. -/
theorem enter (h : l.Apart m) (hm : m.Waits s) : m.Waits (s.enter l) := by
  refine ⟨?_, hm.loaded, ?_⟩
  · have hplace := h.symm.place
    simp only [State.enter, State.begin, State.takeAway, Store.binding?_remove, hplace, if_false]
    exact hm.marked
  · simp [State.enter, State.begin, State.takeAway, hm.loading, h.path.symm]

theorem waits_inside {rest : List (Level ι)} (hothers : ∀ m ∈ rest, l.Apart m)
    (hwaits : ∀ m ∈ l :: rest, m.Waits s) : ∀ m ∈ rest, m.Waits (s.enter l) :=
  fun m hm => (hothers m hm).enter (hwaits m (List.mem_cons_of_mem l hm))

theorem runOnce (h : l.Apart m) (hm : m.RunOnce (s.enter l) t)
    (ending : Except (Stop ResolveError) Unit) : m.RunOnce s (t.finish l.path ending) := by
  constructor
  · simp only [State.finish, Features.loadCount_conclude, hm.counted]
    simp [State.enter, State.begin, State.takeAway, h.path.symm]
  · refine hm.started.trans ?_
    simp [State.enter, State.begin, State.takeAway, h.path]

theorem failed (h : l.Apart m) (hm : m.Waits t) (e : Stop ResolveError) :
    m.Waits ((t.finish l.path (.error e)).putBack l.ns l.name.text l.path) := by
  refine ⟨?_, hm.loaded, ?_⟩
  · simp only [State.putBack, Store.mark, Store.binding?_bind, h.symm.place, if_false]
    exact hm.marked
  · simp [State.putBack, State.finish, hm.loading]

theorem defined (h : l.Apart m) (hm : m.Defined w t) (v : Value) :
    m.Defined w ((t.define l v).finish l.path (.ok ())) := by
  refine ⟨?_, ?_, ?_⟩
  · simp only [State.finish, State.define, Store.binding?_bind, h.symm.place, if_false]
    exact hm.bound
  · simp [State.finish, State.define, hm.loaded]
  · simp [State.finish, State.define, hm.loading]

end Apart

end Level

/-! ### All levels -/

/-- Only the unit of the last level is replaced. -/
theorem Nested.register (mended : υ) {P : Program ι η υ} {units : Dict String υ}
    {levels : List (Level ι)} {last : Level ι} (hlast : levels.getLast? = some last)
    (hapart : levels.Pairwise Level.Apart) (hnested : Nested P units levels) :
    Nested P (units.insert last.path mended) levels := by
  induction levels with
  | nil => exact .nil
  | cons l rest ih =>
    cases rest with
    | nil => exact .singleton l
    | cons next rest =>
      obtain ⟨hothers, hapart⟩ := List.pairwise_cons.1 hapart
      obtain ⟨⟨unit, hunit, hcode⟩, hnested⟩ := List.isChain_cons_cons.1 hnested
      have hlast : (next :: rest).getLast? = some last := by simpa using hlast
      have hne := (hothers last (List.mem_of_getLast? hlast)).path
      refine List.isChain_cons_cons.2 ⟨⟨unit, ?_, hcode⟩, ih hlast hapart hnested⟩
      rw [Dict.get?_insert, if_neg hne, hunit]

namespace Program

theorem ne_of_idle {path q : String} {s : State ι η υ}
    (hidle : (s.features.isLoaded path || s.features.isLoading path) = false)
    (hloading : s.features.isLoading q = true) : q ≠ path := by
  rintro rfl
  exact Bool.false_ne_true ((Bool.or_eq_false_iff.1 hidle).2.symm.trans hloading)

variable [DecidableEq ι]

theorem closed_untouched : Closed fun s t : State ι η υ => s.Untouched t where
  refl _ _ h := ⟨h, rfl, rfl, rfl⟩
  trans s₁ s₂ s₃ h h' path hloading := by
    obtain ⟨hloading₂, hloaded₂, hcounted₂, hstarted₂⟩ := h path hloading
    obtain ⟨hloading₃, hloaded₃, hcounted₃, hstarted₃⟩ := h' path hloading₂
    exact ⟨hloading₃, hloaded₃.trans hloaded₂, hcounted₃.trans hcounted₂,
      hstarted₃.trans hstarted₂⟩
  tables _ _ _ h := ⟨h, rfl, rfl, rfl⟩
  memo _ _ _ _ h := ⟨h, rfl, rfl, rfl⟩
  register _ _ _ _ h := ⟨h, rfl, rfl, rfl⟩
  no_unit path s hidle q hloading := by
    have hne := ne_of_idle hidle hloading
    refine ⟨?_, rfl, rfl, rfl⟩
    simp [Slot.adjust, State.featuresSlot, hloading, hne]
  unit path ending s t hidle h q hloading := by
    have hne := ne_of_idle hidle hloading
    obtain ⟨hstill, hloaded, hcounted, hstarted⟩ := h q (by simp [State.begin, hloading])
    refine ⟨by simp [State.finish, hstill, hne], ?_, ?_, ?_⟩
    · cases ending with
      | ok _ => simp [State.finish, hloaded, hne, State.begin]
      | error _ => exact hloaded
    · simp [State.finish, hcounted, hne, State.begin]
    · simpa [State.finish, State.begin, Ne.symm hne] using hstarted

variable {P : Program ι η υ} {fuel : Nat} {levels : List (Level ι)}
  {first last : Level ι} {s left : State ι η υ} {v : Value}

theorem untouched_call (P : Program ι η υ) (fuel : Nat) (c : Call ι η υ) (s : State ι η υ) :
    s.Untouched ((P.call fuel c).after s) :=
  P.within_perform closed_untouched (P.exec fuel) fuel (P.within_exec closed_untouched fuel) c s

section Code

variable {l next : Level ι} {t : State ι η υ}

theorem exec_code_of_ok
    (hread : P.call fuel (.read l.reader .own next.ns next.name) s = .ok v t) :
    P.exec (fuel + 1) (l.code next) s = .ok () (t.define l (l.compute v)) :=
  (Code.run_call_of_ok hread).trans rfl

theorem exec_code_of_error {e : Stop ResolveError}
    (hread : P.call fuel (.read l.reader .own next.ns next.name) s = .error e t) :
    P.exec (fuel + 1) (l.code next) s = .error e t := Code.run_call_of_error hread rfl

end Code

/-- A failure of the last unit is the failure of the read, and all levels wait again. -/
theorem read_of_failing_last {broken : υ} {e : Stop ResolveError}
    (hfirst : levels.head? = some first) (hlast : levels.getLast? = some last)
    (hapart : levels.Pairwise Level.Apart) (hwaits : ∀ l ∈ levels, l.Waits s)
    (hnested : Nested P s.features.units levels)
    (hbroken : s.features.units.get? last.path = some broken)
    (hfails : P.exec (fuel + 1) (P.unit broken last.path) (s.descend levels) = .error e left)
    (i : ι) :
    ∃ t, P.call (fuel + levels.length) (.read i .own first.ns first.name) s = .error e t ∧
      ∀ l ∈ levels, l.Waits t ∧ l.RunOnce s t := by
  -- The inner levels are read in the state in which the unit of the first one has begun. What they
  -- do there leaves that unit alone, and what becomes of it leaves them alone.
  induction levels generalizing first s i with
  | nil => cases hfirst
  | cons l rest ih =>
    obtain rfl : l = first := by simpa using hfirst
    have hthis := hwaits l List.mem_cons_self
    cases rest with
    | nil =>
      obtain rfl : l = last := by simpa using hlast
      change P.exec (fuel + 1) (P.unit broken l.path) (s.enter l) = .error e left at hfails
      have hran := P.within_exec closed_untouched (fuel + 1) (P.unit broken l.path) (s.enter l)
      rw [Act.after_of_error hfails] at hran
      refine ⟨_, (read_of_bound hthis.marked).trans
        (resolveOwn_of_failing_unit fuel hthis.idle hbroken hfails), ?_⟩
      intro m hm
      obtain rfl : m = l := by simpa using hm
      exact ⟨hthis.failed hran e, (Level.runOnce_of_untouched hran (.error e)).putBack _ _ _⟩
    | cons next rest =>
      obtain ⟨hothers, hapart⟩ := List.pairwise_cons.1 hapart
      obtain ⟨⟨unit, hunit, hcode⟩, hnested⟩ := List.isChain_cons_cons.1 hnested
      obtain ⟨t, hread, hafter⟩ := ih rfl (by simpa using hlast) hapart
        (Level.Apart.waits_inside hothers hwaits) hnested hbroken hfails l.reader
      have hran := P.untouched_call (fuel + (next :: rest).length)
        (.read l.reader .own next.ns next.name) (s.enter l)
      rw [Act.after_of_error hread] at hran
      have hruns : P.exec (fuel + (next :: rest).length + 1) (P.unit unit l.path) (s.enter l) =
          .error e t := by
        rw [hcode]
        exact exec_code_of_error hread
      refine ⟨_, (read_of_bound hthis.marked).trans
        (resolveOwn_of_failing_unit _ hthis.idle hunit hruns), ?_⟩
      intro m hm
      rcases List.mem_cons.1 hm with rfl | hm
      · exact ⟨hthis.failed hran e, (Level.runOnce_of_untouched hran (.error e)).putBack _ _ _⟩
      · obtain ⟨hback, honce⟩ := hafter m hm
        have hm := hothers m hm
        exact ⟨hm.failed hback e, (hm.runOnce honce (.error e)).putBack _ _ _⟩

/-- Once the last unit defines its constant, so do all units before it. -/
theorem read_of_mended_last {mended : υ}
    (hfirst : levels.head? = some first) (hlast : levels.getLast? = some last)
    (hapart : levels.Pairwise Level.Apart) (hwaits : ∀ l ∈ levels, l.Waits s)
    (hnested : Nested P s.features.units levels)
    (hmended : s.features.units.get? last.path = some mended)
    (hruns : P.exec (fuel + 1) (P.unit mended last.path) (s.descend levels) = .ok () left)
    (hdefines : left.store.binding? last.ns last.name.text = some (.value v)) (i : ι) :
    ∃ t, P.call (fuel + levels.length) (.read i .own first.ns first.name) s =
        .ok (valueOf v levels) t ∧
      ∀ outer l inner, levels = outer ++ l :: inner →
        l.Defined (valueOf v (l :: inner)) t ∧ l.RunOnce s t := by
  induction levels generalizing first s i with
  | nil => cases hfirst
  | cons l rest ih =>
    obtain rfl : l = first := by simpa using hfirst
    have hthis := hwaits l List.mem_cons_self
    cases rest with
    | nil =>
      obtain rfl : l = last := by simpa using hlast
      change P.exec (fuel + 1) (P.unit mended l.path) (s.enter l) = .ok () left at hruns
      have hran := P.within_exec closed_untouched (fuel + 1) (P.unit mended l.path) (s.enter l)
      rw [Act.after_of_ok hruns] at hran
      refine ⟨_, (read_of_bound hthis.marked).trans
        (resolveOwn_of_defining_unit fuel hthis.idle hmended hruns hdefines), ?_⟩
      intro outer m inner hsplit
      cases outer with
      | nil =>
        obtain ⟨rfl, rfl⟩ := List.cons.inj hsplit
        exact ⟨Level.defined_of_bound hdefines, Level.runOnce_of_untouched hran (.ok ())⟩
      | cons _ outer => simp at hsplit
    | cons next rest =>
      obtain ⟨hothers, hapart⟩ := List.pairwise_cons.1 hapart
      obtain ⟨⟨unit, hunit, hcode⟩, hnested⟩ := List.isChain_cons_cons.1 hnested
      obtain ⟨t, hread, hafter⟩ := ih rfl (by simpa using hlast) hapart
        (Level.Apart.waits_inside hothers hwaits) hnested hmended hruns l.reader
      let w := l.compute (valueOf v (next :: rest))
      have hran : (s.enter l).Untouched (t.define l w) := by
        have hnext := P.untouched_call (fuel + (next :: rest).length)
          (.read l.reader .own next.ns next.name) (s.enter l)
        rw [Act.after_of_ok hread] at hnext
        exact closed_untouched.trans _ _ _ hnext
          (closed_untouched.tables (fun store => store.bind l.ns l.name.text (.value w)) t)
      have hruns : P.exec (fuel + (next :: rest).length + 1) (P.unit unit l.path) (s.enter l) =
          .ok () (t.define l w) := by
        rw [hcode]
        exact exec_code_of_ok hread
      have hbound : (t.define l w).store.binding? l.ns l.name.text = some (.value w) := by
        simp [State.define, Store.binding?_bind]
      refine ⟨_, (read_of_bound hthis.marked).trans
        (resolveOwn_of_defining_unit _ hthis.idle hunit hruns hbound), ?_⟩
      intro outer m inner hsplit
      cases outer with
      | nil =>
        obtain ⟨rfl, rfl⟩ := List.cons.inj hsplit
        exact ⟨Level.defined_of_bound hbound, Level.runOnce_of_untouched hran (.ok ())⟩
      | cons _ outer =>
        obtain ⟨rfl, htail⟩ := List.cons.inj hsplit
        obtain ⟨hdefined, honce⟩ := hafter outer m inner htail
        have hm := hothers m (htail ▸ List.mem_append_right outer List.mem_cons_self)
        exact ⟨hm.defined hdefined w, hm.runOnce (honce.define l w) (.ok ())⟩

/-- The unit of each level reads the constant of the next, and that of the last one fails or panics,
whatever else it does. Then so does a read of the first constant. All markers are back in their
places, no unit is loaded or running, and each has run once. When another unit is put in place of
the last one, and defines its constant, the next read runs all units once more and leaves the value
of every level. -/
theorem failed_read_can_be_retried {broken : υ} {e : Stop ResolveError}
    (hfirst : levels.head? = some first) (hlast : levels.getLast? = some last)
    (hapart : levels.Pairwise Level.Apart) (hwaits : ∀ l ∈ levels, l.Waits s)
    (hnested : Nested P s.features.units levels)
    (hbroken : s.features.units.get? last.path = some broken)
    (hfails : P.exec (fuel + 1) (P.unit broken last.path) (s.descend levels) = .error e left)
    (i : ι) :
    let read (fuel : Nat) (i : ι) : Act (State ι η υ) ResolveError Value :=
      P.call (fuel + levels.length) (.read i .own first.ns first.name)
    let failed := (read fuel i).after s
    (read fuel i).outcome s = .error e ∧ (∀ l ∈ levels, l.Waits failed ∧ l.RunOnce s failed) ∧
      ∀ (mended : υ) (fuel' : Nat) (j : ι) (v : Value) (left' : State ι η υ),
        let repaired := (P.call fuel' (.register last.path mended)).after failed
        let again := (read fuel' j).after repaired
        Nested P failed.features.units levels →
        P.exec (fuel' + 1) (P.unit mended last.path) (repaired.descend levels) = .ok () left' →
        left'.store.binding? last.ns last.name.text = some (.value v) →
        (read fuel' j).outcome repaired = .ok (valueOf v levels) ∧
          ∀ outer l inner, levels = outer ++ l :: inner →
            l.Defined (valueOf v (l :: inner)) again ∧ l.RunOnce repaired again := by
  intro read failed
  obtain ⟨t, hread, hback⟩ :=
    read_of_failing_last hfirst hlast hapart hwaits hnested hbroken hfails i
  have hfailed : failed = t := Act.after_of_error hread
  refine ⟨Act.outcome_of_error hread, hfailed ▸ hback, ?_⟩
  intro mended fuel' j v left' repaired again hstill hruns hdefines
  have hwaits' : ∀ l ∈ levels, l.Waits repaired := by
    intro l hl
    obtain ⟨hwaits, -⟩ := hback l hl
    rw [← hfailed] at hwaits
    exact ⟨hwaits.marked, hwaits.loaded, hwaits.loading⟩
  have hmended : repaired.features.units.get? last.path = some mended := by
    change (failed.features.units.insert last.path mended).get? last.path = some mended
    rw [Dict.get?_insert, if_pos rfl]
  obtain ⟨t', hagain, hdefined⟩ := read_of_mended_last hfirst hlast hapart hwaits'
    (hstill.register mended hlast hapart) hmended hruns hdefines j
  have hagain' : again = t' := Act.after_of_ok hagain
  rw [hagain']
  exact ⟨Act.outcome_of_ok hagain, hdefined⟩

/-- What the units of two levels do. -/
inductive Stage where
  | outer
  | broken
  | mended
  deriving DecidableEq

/-- The inner one of two units panics, and is then mended. -/
theorem failed_read_can_be_retried_pair :
    let a : Level Unit := ⟨.root 0 "M", ⟨"A", 0⟩, "a.rb", (), fun v => .string v.display⟩
    let b : Level Unit := ⟨.root 1 "N", ⟨"B", 1⟩, "b.rb", (), id⟩
    let P : Program Unit Empty Stage :=
      { unit := fun stage _ =>
          match stage with
          | .outer => a.code b
          | .broken => .call (.change (.set b.ns "B" .nil)) fun _ => .stop (.panic "boom")
          | .mended => .call (.change (.set b.ns "B" (.integer 1))) fun _ => .done ()
        hook := nofun }
    let s : State Unit Empty Stage :=
      { store := (({} : Store Empty).mark a.ns "A" "a.rb").mark b.ns "B" "b.rb"
        features := (({} : Features Stage).register "a.rb" .outer).register "b.rb" .broken
        memos := fun _ => { limit := { size := 8 } } }
    let read : Act (State Unit Empty Stage) ResolveError Value :=
      P.call 2 (.read () .own a.ns a.name)
    let failed := read.after s
    let repaired := (P.call 0 (.register "b.rb" .mended)).after failed
    let again := read.after repaired
    read.outcome s = .error (.panic "boom") ∧ a.Waits failed ∧ b.Waits failed ∧
      read.outcome repaired = .ok (.string "1") ∧ a.Defined (.string "1") again ∧
      b.Defined (.integer 1) again ∧ a.RunOnce repaired again ∧ b.RunOnce repaired again := by
  intro a b P s read failed repaired again
  have hab : a.Apart b := ⟨by decide, by decide⟩
  have hapart : [a, b].Pairwise Level.Apart := by simpa using hab
  have hwaits : ∀ l ∈ [a, b], l.Waits s := by
    have ha : a.Waits s := ⟨rfl, rfl, rfl⟩
    have hb : b.Waits s := ⟨rfl, rfl, rfl⟩
    simpa using ⟨ha, hb⟩
  have hnested : Nested P s.features.units [a, b] :=
    List.isChain_cons_cons.2 ⟨⟨.outer, rfl, rfl⟩, .singleton b⟩
  let left := (P.exec 1 (P.unit .broken b.path)).after (s.descend [a, b])
  have hfails : P.exec 1 (P.unit .broken b.path) (s.descend [a, b]) = .error (.panic "boom") left :=
    rfl
  obtain ⟨hpanics, hback, hretry⟩ :=
    failed_read_can_be_retried rfl rfl hapart hwaits hnested rfl hfails ()
  have hunit : failed.features.units.get? a.path = some .outer := by
    decide +kernel
  have hstill : Nested P failed.features.units [a, b] :=
    List.isChain_cons_cons.2 ⟨⟨.outer, hunit, rfl⟩, .singleton b⟩
  obtain ⟨hvalue, hdefined⟩ := hretry .mended 0 () (.integer 1) _ hstill rfl rfl
  obtain ⟨ha, hrunA⟩ := hdefined [] a [b] rfl
  obtain ⟨hb, hrunB⟩ := hdefined [a] b [] rfl
  exact ⟨hpanics, (hback a (by simp)).1, (hback b (by simp)).1, hvalue, ha, hb, hrunA, hrunB⟩

end Program

end CallSite.Autoloading
