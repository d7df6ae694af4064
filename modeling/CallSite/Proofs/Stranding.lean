import CallSite.Proofs.Autoloading

/-!
# Markers that outlive their units

A loaded unit is not run again. A marker for it, found before the unit ran or put back after it
did, still takes away whatever its name is bound to when it is resolved. Nothing takes its place.
-/
namespace CallSite.Autoloading

/-- What a unit of a chain does about a name. It is meant to put the name off to the next unit, or
to define it when it is the last one. -/
inductive Deed where
  | meant (next : Option String)
  | fail (e : ResolveError)

variable {ι η υ : Type}

/-- Units that do their deeds about one name, and any hooks. -/
def chain (hook : η → Namespace → Symbol → AutoloadingCode ι η Deed Value) (ns : Namespace)
    (name : String) (v : Value) : Program ι η Deed where
  unit deed _ :=
    match deed with
    | .meant (some next) => .call (.change (.autoload ns name next)) fun
      | .ok _ => .done ()
      | .error e => .stop e
    | .meant none => .call (.change (.set ns name v)) fun
      | .ok _ => .done ()
      | .error e => .stop e
    | .fail e => .stop (.failure e)
  hook := hook

/-- The unit of a path is loaded, and no hook stands in for names of the namespace. -/
structure Spent (ns : Namespace) (path : String) (s : State ι η υ) : Prop where
  loaded : s.features.isLoaded path = true
  unhooked : s.store.hook? ns = none
  memos : Program.FaithfulMemos s

namespace Program

variable [DecidableEq ι] {P : Program ι η υ} {run : Runner ι η υ} {i : ι} {fuel : Nat}
  {ns : Namespace} {name : Name} {path : String} {s : State ι η υ}

/-- A marker whose unit is loaded gives no value, and stands where it stood or where its unit had
defined the name. -/
theorem resolveOwn_of_spent (h : Spent ns path s) :
    ∃ t, P.resolveOwn run i ns name (fuel + 1) (some ⟨ns, name, .autoload path⟩) s =
        .error (.failure (.nameNotFound ns.name name.symbol)) t ∧
      Spent ns path t ∧ t.store.binding? ns name.text = some (.autoload path) := by
  let taken := s.takeAway ns name.text
  let left := (State.base.memo i).adjust (fun memo => (memoSymbol memo name).2) taken
  have hskip : (P.resolver run i).load path taken = .ok () taken :=
    load_of_busy (by simp [taken, State.takeAway, h.loaded])
  have hgone : taken.store.lookupOwn ns name = none := by
    simp [taken, State.takeAway, Store.lookupOwn, Store.binding?_remove]
  have hsymbol : (memoSymbol (taken.memos i) name).1 = name.symbol :=
    (memoSymbol_of_faithful (h.memos i) name).1
  have hmissing : P.resolveOwn run i ns name fuel none taken =
      .error (.failure (.nameNotFound ns.name name.symbol)) left := by
    rw [resolveOwn, Resolver.resolve_none, ← hsymbol]
    exact missing_of_no_hook h.unhooked
  refine ⟨left.putBack ns name.text path, ?_, ?_, ?_⟩
  · rw [resolveOwn_of_load fuel hskip, hgone]
    exact Act.onStop_of_error hmissing
  · exact ⟨h.loaded, h.unhooked, closed_faithfulMemos.memo i name taken h.memos⟩
  · simp [State.putBack, Store.mark, Store.binding?_bind]

/-! ### Markers found before their unit ran -/

/-- A marker that several readers have found is resolved by one after another. The first one
runs the unit and is given the value. Each later one takes the value away, finds nothing in its
place and leaves the marker, and is told that there is no such name. -/
theorem later_resolutions_lose_value {unit : υ} {t : State ι η υ} {v : Value}
    (hidle : (s.features.isLoaded path || s.features.isLoading path) = false)
    (hunit : s.features.units.get? path = some unit)
    (hruns : P.exec (fuel + 1) (P.unit unit path) ((s.takeAway ns name.text).begin path) = .ok () t)
    (hdefines : t.store.binding? ns name.text = some (.value v))
    (hunhooked : t.store.hook? ns = none) (hmemos : FaithfulMemos s) (first : ι)
    (later : List ι) :
    let resolve (i : ι) : Act (State ι η υ) ResolveError Value :=
      P.call (fuel + 1) (.resolve i .own ns name (some ⟨ns, name, .autoload path⟩))
    let run := Act.inTurn ((first :: later).map resolve) s
    run.1 = .ok v :: later.map (fun _ => .error (.failure (.nameNotFound ns.name name.symbol))) ∧
      run.2.store.binding? ns name.text =
        some (if later = [] then .value v else .autoload path) := by
  intro resolve run
  let loaded := t.finish path (.ok ())
  have hfirst : resolve first s = .ok v loaded :=
    resolveOwn_of_defining_unit fuel hidle hunit hruns hdefines
  have hspent : Spent ns path loaded := by
    have hended := P.within_exec closed_faithfulMemos (fuel + 1) (P.unit unit path)
      ((s.takeAway ns name.text).begin path) hmemos
    rw [Act.after_of_ok hruns] at hended
    exact ⟨by simp [loaded, State.finish], hunhooked, hended⟩
  let Marked (t : State ι η υ) : Prop := t.store.binding? ns name.text = some (.autoload path)
  have hlost (i : ι) (t : State ι η υ) (ht : Spent ns path t) :
      (resolve i).outcome t = .error (.failure (.nameNotFound ns.name name.symbol)) ∧
        Spent ns path ((resolve i).after t) ∧ Marked ((resolve i).after t) := by
    obtain ⟨u, hresolve, hleft⟩ : ∃ u, resolve i t = .error _ u ∧ Spent ns path u ∧ Marked u :=
      resolveOwn_of_spent ht
    rw [Act.outcome_of_error hresolve, Act.after_of_error hresolve]
    exact ⟨rfl, hleft⟩
  obtain ⟨hendings, -, hmarked⟩ :=
    Act.inTurn_of_invariant (Spent ns path) Marked hlost later hspent
  have hrun : run = (.ok v :: (Act.inTurn (later.map resolve) loaded).1,
      (Act.inTurn (later.map resolve) loaded).2) := Act.inTurn_cons_of_ok hfirst _
  rw [hrun, hendings]
  refine ⟨rfl, ?_⟩
  by_cases hlater : later = []
  · subst hlater
    exact hdefines
  · simp only [hlater, if_false]
    exact hmarked hlater

/-- Two readers have found the marker of a unit that defines the name. -/
theorem later_resolutions_lose_value_second :
    let ns : Namespace := .root 0 "M"
    let name : Name := ⟨"X", 0⟩
    let P : Program Unit Empty Deed := chain nofun ns "X" (.integer 1)
    let s : State Unit Empty Deed :=
      { store := ({} : Store Empty).mark ns "X" "a.rb"
        features := ({} : Features Deed).register "a.rb" (.meant none)
        memos := fun _ => { limit := { size := 8 } } }
    let resolve (i : Unit) : Act (State Unit Empty Deed) ResolveError Value :=
      P.call 1 (.resolve i .own ns name (some ⟨ns, name, .autoload "a.rb"⟩))
    let run := Act.inTurn ([(), ()].map resolve) s
    s.store.lookupOwn ns name = some ⟨ns, name, .autoload "a.rb"⟩ ∧
      run.1 = [.ok (.integer 1), .error (.failure (.nameNotFound "M" ⟨"X"⟩))] ∧
      run.2.store.binding? ns "X" = some (.autoload "a.rb") := by
  intro ns name P s resolve run
  have hmemos : FaithfulMemos s := fun _ _ _ h => (List.not_mem_nil h).elim
  let t := (P.exec 1 (P.unit (.meant none) "a.rb")).after ((s.takeAway ns name.text).begin "a.rb")
  have hruns : P.exec 1 (P.unit (.meant none) "a.rb") ((s.takeAway ns name.text).begin "a.rb") =
      .ok () t := rfl
  have hdefines : t.store.binding? ns name.text = some (.value (.integer 1)) := rfl
  have hunhooked : t.store.hook? ns = none := rfl
  exact ⟨rfl, later_resolutions_lose_value rfl rfl hruns hdefines hunhooked hmemos () [()]⟩

end Program

/-! ### Markers put back after their unit ran -/

section Reads

variable [DecidableEq ι] {P : Program ι η υ} {ns : Namespace} {name : Name} {s : State ι η υ}

theorem reads_of_value {v : Value} (h : s.store.binding? ns name.text = some (.value v))
    (fuel : Nat) (readers : List ι) :
    let read (i : ι) : Act (State ι η υ) ResolveError Value := P.call fuel (.read i .own ns name)
    let run := Act.inTurn (readers.map read) s
    run.1 = readers.map (fun _ => .ok v) ∧
      run.2.store.binding? ns name.text = some (.value v) := by
  intro read run
  let Bound (t : State ι η υ) : Prop := t.store.binding? ns name.text = some (.value v)
  have hread (i : ι) (t : State ι η υ) (ht : Bound t) :
      (read i).outcome t = .ok v ∧ Bound ((read i).after t) ∧ Bound ((read i).after t) := by
    have hvalue : read i t = .ok v t := Program.read_of_value ht
    rw [Act.outcome_of_ok hvalue, Act.after_of_ok hvalue]
    exact ⟨rfl, ht, ht⟩
  obtain ⟨hendings, hbound, -⟩ := Act.inTurn_of_invariant Bound Bound hread readers h
  exact ⟨hendings, hbound⟩

/-- A marker that was put back although its unit is loaded stays, and its name is never found. -/
theorem reads_of_spent {path : String} (h : Spent ns path s)
    (hmarked : s.store.binding? ns name.text = some (.autoload path)) (fuel : Nat)
    (readers : List ι) :
    let read (i : ι) : Act (State ι η υ) ResolveError Value :=
      P.call (fuel + 1) (.read i .own ns name)
    let run := Act.inTurn (readers.map read) s
    run.1 = readers.map (fun _ => .error (.failure (.nameNotFound ns.name name.symbol))) ∧
      run.2.store.binding? ns name.text = some (.autoload path) := by
  intro read run
  let Marked (t : State ι η υ) : Prop := t.store.binding? ns name.text = some (.autoload path)
  let Stranded (t : State ι η υ) : Prop := Spent ns path t ∧ Marked t
  have hread (i : ι) (t : State ι η υ) (ht : Stranded t) :
      (read i).outcome t = .error (.failure (.nameNotFound ns.name name.symbol)) ∧
        Stranded ((read i).after t) ∧ Marked ((read i).after t) := by
    obtain ⟨u, hresolve, hspent, hback⟩ :
        ∃ u, read i t = .error _ u ∧ Spent ns path u ∧ Marked u := by
      rw [show read i t = _ from Program.read_of_bound ht.2]
      exact Program.resolveOwn_of_spent ht.1
    rw [Act.outcome_of_error hresolve, Act.after_of_error hresolve]
    exact ⟨rfl, ⟨hspent, hback⟩, hback⟩
  obtain ⟨hendings, hleft, -⟩ := Act.inTurn_of_invariant Stranded Marked hread readers ⟨h, hmarked⟩
  exact ⟨hendings, hleft.2⟩

end Reads

/-- Each path has a unit that is meant to go on to the next one. -/
def Chained (units : Dict String Deed) : List String → Prop
  | [] => True
  | path :: rest => units.get? path = some (.meant rest.head?) ∧ Chained units rest

/-- What the name is bound to by a unit that is meant to go on to `next`. -/
def boundTo (v : Value) : Option String → Binding
  | some next => .autoload next
  | none => .value v

namespace State

/-- The state after the unit of a path has run and bound the name. -/
def bindBy (path : String) (ns : Namespace) (name : String) (b : Binding) (s : State ι η Deed) :
    State ι η Deed :=
  State.finish path (.ok ())
    { (s.takeAway ns name).begin path with store := (s.store.remove ns name).bind ns name b }

/-- Some units have run to their end, and no other unit, hook or memo is touched. -/
structure Ran (ns : Namespace) (paths : List String) (s t : State ι η Deed) : Prop where
  units : t.features.units = s.features.units
  loaded : ∀ q, t.features.isLoaded q = true ↔ q ∈ paths ∨ s.features.isLoaded q = true
  loading : ∀ q, t.features.isLoading q = s.features.isLoading q
  hook : t.store.hook? ns = s.store.hook? ns
  memos : t.memos = s.memos

variable {ns : Namespace} {name path : String} {paths paths' : List String} {s t u : State ι η Deed}

theorem Ran.trans (h : Ran ns paths s t) (h' : Ran ns paths' t u) :
    Ran ns (paths ++ paths') s u where
  units := h'.units.trans h.units
  loaded q := by
    rw [h'.loaded, h.loaded, List.mem_append, or_left_comm, or_assoc]
  loading q := (h'.loading q).trans (h.loading q)
  hook := h'.hook.trans h.hook
  memos := h'.memos.trans h.memos

theorem Ran.idle (h : Ran ns paths s t) (hout : path ∉ paths)
    (hidle : (s.features.isLoaded path || s.features.isLoading path) = false) :
    (t.features.isLoaded path || t.features.isLoading path) = false := by
  rw [Bool.or_eq_false_iff] at hidle ⊢
  obtain ⟨hloaded, hloading⟩ := hidle
  constructor
  · rw [Bool.eq_false_iff, Ne, h.loaded]
    simp [hout, hloaded]
  · rw [h.loading, hloading]

theorem Ran.putBack (h : Ran ns paths s t) : Ran ns paths s (t.putBack ns name path) where
  units := h.units
  loaded := h.loaded
  loading := h.loading
  hook := h.hook
  memos := h.memos

theorem ran_bindBy (hidle : s.features.isLoading path = false) (b : Binding) :
    Ran ns [path] s (s.bindBy path ns name b) where
  units := rfl
  loaded q := by simp [bindBy, State.finish, State.begin, State.takeAway]
  loading q := Features.isLoading_conclude_enter q (.ok ()) hidle
  hook := rfl
  memos := rfl

/-- The units of other paths are as they were. -/
theorem idle_bindBy {rest : List String} (hnodup : (path :: rest).Nodup)
    (hidle : ∀ q ∈ path :: rest, (s.features.isLoaded q || s.features.isLoading q) = false)
    (b : Binding) :
    ∀ q ∈ rest, ((s.bindBy path ns name b).features.isLoaded q ||
      (s.bindBy path ns name b).features.isLoading q) = false := by
  intro q hq
  have hfirst := hidle path List.mem_cons_self
  have hne : q ∉ [path] := by
    intro hmem
    rw [List.mem_singleton.1 hmem] at hq
    exact (List.nodup_cons.1 hnodup).1 hq
  have hran : Ran ns [path] s (s.bindBy path ns name b) :=
    ran_bindBy (Bool.or_eq_false_iff.1 hfirst).2 b
  exact hran.idle hne (hidle q (List.mem_cons_of_mem path hq))

/-- A unit that fails leaves no trace of itself. -/
theorem ran_nil_of_error (hidle : s.features.isLoading path = false) (e : Stop ResolveError) :
    Ran ns [] s (((s.takeAway ns name).begin path).finish path (.error e)) where
  units := rfl
  loaded q := by simp [State.finish, State.begin, State.takeAway]
  loading q := Features.isLoading_conclude_enter q (.error e) hidle
  hook := rfl
  memos := rfl

end State

namespace Program

section Chain

variable [DecidableEq ι] {hook : η → Namespace → Symbol → AutoloadingCode ι η Deed Value}
  {ns : Namespace} {name : Name} {v : Value} {i : ι} {s : State ι η Deed}

/-- One link of the chain. -/
theorem resolveOwn_of_meant {path : String} {next : Option String} {steps fuel : Nat}
    (hidle : (s.features.isLoaded path || s.features.isLoading path) = false)
    (hunit : s.features.units.get? path = some (.meant next)) :
    let P := chain hook ns name.text v
    let bound := s.bindBy path ns name.text (boundTo v next)
    P.resolveOwn (P.exec (steps + 1)) i ns name (fuel + 1) (some ⟨ns, name, .autoload path⟩) s =
      (P.resolveOwn (P.exec (steps + 1)) i ns name fuel
        (some ⟨ns, name, boundTo v next⟩)).onStop (State.putBack ns name.text path) bound := by
  intro P bound
  let begun := (s.takeAway ns name.text).begin path
  let left := { begun with store := begun.store.bind ns name.text (boundTo v next) }
  have hruns : P.exec (steps + 1) (P.unit (.meant next) path) begun = .ok () left := by
    cases next with
    | none => rfl
    | some next =>
      have hfree : begun.store.isDefined ns name.text = false := by
        simp [begun, State.begin, State.takeAway, Store.isDefined, Store.binding?_remove]
      have hputOff : begun.store.autoload ns name.text next =
          (true, begun.store.bind ns name.text (.autoload next)) := by
        simp [Store.autoload, hfree, Store.mark]
      have hcall : P.perform (P.exec steps) steps (.change (.autoload ns name.text next)) begun =
          .ok true left :=
        congrArg (fun r : Bool × Store η =>
          EStateM.Result.ok r.1 (State.base.store.set begun r.2)) hputOff
      exact Code.run_call_of_ok hcall
  have hchain := resolveOwn_of_unit (i := i) fuel hidle hunit hruns
  have hfound : left.store.lookupOwn ns name = some ⟨ns, name, boundTo v next⟩ := by
    simp [left, Store.lookupOwn, Store.binding?_bind]
  rw [hfound] at hchain
  exact hchain

/-- Any chain of units that can all run ends with the value. -/
theorem resolveOwn_of_chained {path : String} {rest : List String} {steps fuel : Nat}
    (hchain : Chained s.features.units (path :: rest)) (hnodup : (path :: rest).Nodup)
    (hidle : ∀ q ∈ path :: rest, (s.features.isLoaded q || s.features.isLoading q) = false)
    (hfuel : rest.length < fuel) :
    let P := chain hook ns name.text v
    ∃ t, P.resolveOwn (P.exec (steps + 1)) i ns name fuel (some ⟨ns, name, .autoload path⟩) s =
      .ok v t ∧ t.store.binding? ns name.text = some (.value v) := by
  intro P
  induction rest generalizing path s fuel with
  | nil =>
    obtain ⟨fuel, rfl⟩ := Nat.exists_eq_add_one.2 (Nat.zero_lt_of_lt hfuel)
    refine ⟨s.bindBy path ns name.text (.value v), ?_, ?_⟩
    · exact (resolveOwn_of_meant (hidle path List.mem_cons_self) hchain.1).trans
        (Act.onStop_of_ok (resolveOwn_value v))
    · simp [State.bindBy, State.finish, Store.binding?_bind]
  | cons next rest ih =>
    obtain ⟨fuel, rfl⟩ := Nat.exists_eq_add_one.2 (Nat.zero_lt_of_lt hfuel)
    have hfirst := hidle path List.mem_cons_self
    have hfuel : rest.length < fuel := by
      simp at hfuel
      omega
    obtain ⟨t, hresolve, hbound⟩ := ih (s := s.bindBy path ns name.text (.autoload next))
      hchain.2 (List.nodup_cons.1 hnodup).2 (State.idle_bindBy hnodup hidle _) hfuel
    exact ⟨t, (resolveOwn_of_meant hfirst hchain.1).trans (Act.onStop_of_ok hresolve), hbound⟩

/-- A chain of units ends where one fails. The units before it stay loaded, and the marker of the
first one is put back. -/
theorem resolveOwn_of_broken {earlier later : List String} {first p : String} {e : ResolveError}
    {steps fuel : Nat} (hfirst : (earlier ++ p :: later).head? = some first)
    (hchain : Chained (s.features.units.insert p (.meant later.head?)) (earlier ++ p :: later))
    (hnodup : (earlier ++ p :: later).Nodup)
    (hbroken : s.features.units.get? p = some (.fail e))
    (hidle : ∀ q ∈ earlier ++ p :: later,
      (s.features.isLoaded q || s.features.isLoading q) = false)
    (hfuel : earlier.length < fuel) :
    let P := chain hook ns name.text v
    ∃ t, P.resolveOwn (P.exec (steps + 1)) i ns name fuel (some ⟨ns, name, .autoload first⟩) s =
        .error (.failure e) t ∧
      State.Ran ns earlier s t ∧ t.store.binding? ns name.text = some (.autoload first) := by
  intro P
  induction earlier generalizing first s fuel with
  | nil =>
    obtain ⟨fuel, rfl⟩ := Nat.exists_eq_add_one.2 (Nat.zero_lt_of_lt hfuel)
    obtain rfl : p = first := by simpa using hfirst
    have hthis := hidle p List.mem_cons_self
    let begun := (s.takeAway ns name.text).begin p
    have hruns : P.exec (steps + 1) (P.unit (.fail e) p) begun = .error (.failure e) begun := rfl
    refine ⟨_, resolveOwn_of_failing_unit fuel hthis hbroken hruns, ?_, ?_⟩
    · exact (State.ran_nil_of_error (Bool.or_eq_false_iff.1 hthis).2 _).putBack
    · simp [State.putBack, Store.mark, Store.binding?_bind]
  | cons q earlier ih =>
    obtain ⟨fuel, rfl⟩ := Nat.exists_eq_add_one.2 (Nat.zero_lt_of_lt hfuel)
    obtain rfl : q = first := by simpa using hfirst
    obtain ⟨next, hnext⟩ : ∃ next, (earlier ++ p :: later).head? = some next := by
      cases earlier with
      | nil => exact ⟨p, rfl⟩
      | cons next _ => exact ⟨next, rfl⟩
    obtain ⟨hout, hrest⟩ := List.nodup_cons.1 hnodup
    have hthis := hidle q List.mem_cons_self
    have hunit : s.features.units.get? q = some (.meant (some next)) := by
      have hqp : q ≠ p := fun h => hout (by simp [h])
      have hmeant := hchain.1
      rw [Dict.get?_insert, if_neg hqp] at hmeant
      rw [hmeant]
      exact congrArg (fun n => some (Deed.meant n)) hnext
    have hran : State.Ran ns [q] s (s.bindBy q ns name.text (.autoload next)) :=
      State.ran_bindBy (Bool.or_eq_false_iff.1 hthis).2 _
    have hfuel : earlier.length < fuel := by
      simp at hfuel
      omega
    obtain ⟨t, hresolve, hlater, -⟩ := ih (s := s.bindBy q ns name.text (.autoload next))
      hnext hchain.2 hrest hbroken (State.idle_bindBy hnodup hidle _) hfuel
    refine ⟨t.putBack ns name.text q, ?_, (hran.trans hlater).putBack, ?_⟩
    · exact (resolveOwn_of_meant hthis hunit).trans (Act.onStop_of_error hresolve)
    · simp [State.putBack, Store.mark, Store.binding?_bind]

/-- Reads of a name whose chain of units can run are all given the value. -/
theorem reads_of_chained {path : String} {rest : List String} {fuel : Nat}
    (hchain : Chained s.features.units (path :: rest)) (hnodup : (path :: rest).Nodup)
    (hidle : ∀ q ∈ path :: rest, (s.features.isLoaded q || s.features.isLoading q) = false)
    (hmarked : s.store.binding? ns name.text = some (.autoload path)) (hfuel : rest.length ≤ fuel)
    (readers : List ι) :
    let read (i : ι) : Act (State ι η Deed) ResolveError Value :=
      (chain hook ns name.text v).call (fuel + 1) (.read i .own ns name)
    let run := Act.inTurn (readers.map read) s
    run.1 = readers.map (fun _ => .ok v) ∧
      run.2.store.binding? ns name.text =
        some (if readers ≠ [] then .value v else .autoload path) := by
  intro read run
  cases readers with
  | nil => exact ⟨rfl, hmarked⟩
  | cons j readers =>
    obtain ⟨t, hvalue, hbound⟩ : ∃ t, read j s = .ok v t ∧
        t.store.binding? ns name.text = some (.value v) := by
      rw [show read j s = _ from read_of_bound hmarked]
      exact resolveOwn_of_chained hchain hnodup hidle (by omega)
    obtain ⟨hendings, hleft⟩ :=
      reads_of_value (P := chain hook ns name.text v) hbound (fuel + 1) readers
    have hrun : run = (.ok v :: (Act.inTurn (readers.map read) t).1,
        (Act.inTurn (readers.map read) t).2) := Act.inTurn_cons_of_ok hvalue _
    rw [hrun, hendings]
    exact ⟨rfl, hleft⟩

/-- One unit of a chain fails. Once it does what it is meant to do, a read is given the value if
that unit is the first of the chain. If it is not, no read ever comes to it: the marker that was
put back is that of the first unit, which is loaded. -/
theorem repair_reaches_first_unit_only (earlier later : List String) {first p : String}
    {e : ResolveError} {fuel : Nat} (hfirst : (earlier ++ p :: later).head? = some first)
    (hchain : Chained (s.features.units.insert p (.meant later.head?)) (earlier ++ p :: later))
    (hnodup : (earlier ++ p :: later).Nodup)
    (hbroken : s.features.units.get? p = some (.fail e))
    (hidle : ∀ q ∈ earlier ++ p :: later,
      (s.features.isLoaded q || s.features.isLoading q) = false)
    (hmarked : s.store.binding? ns name.text = some (.autoload first))
    (hunhooked : s.store.hook? ns = none) (hmemos : FaithfulMemos s)
    (hfuel : (earlier ++ p :: later).length ≤ fuel) (i : ι) (readers : List ι) :
    let P := chain hook ns name.text v
    let read (i : ι) : Act (State ι η Deed) ResolveError Value := P.call fuel (.read i .own ns name)
    let repair : Act (State ι η Deed) ResolveError Unit :=
      P.call fuel (.register p (.meant later.head?))
    let failed := (read i).after s
    let run := Act.inTurn (readers.map read) (repair.after failed)
    (read i).outcome s = .error (.failure e) ∧
      failed.store.binding? ns name.text = some (.autoload first) ∧
      run.1 = readers.map (fun _ =>
        if earlier = [] then .ok v else .error (.failure (.nameNotFound ns.name name.symbol))) ∧
      run.2.store.binding? ns name.text =
        some (if earlier = [] ∧ readers ≠ [] then .value v else .autoload first) := by
  intro P read repair failed run
  have hlength : earlier.length + later.length < fuel := by
    simp at hfuel
    omega
  obtain ⟨steps, rfl⟩ : ∃ k, fuel = k + 1 := ⟨fuel - 1, by omega⟩
  obtain ⟨t, hfails, hran, hback⟩ : ∃ t, read i s = .error (.failure e) t ∧
      State.Ran ns earlier s t ∧ t.store.binding? ns name.text = some (.autoload first) := by
    rw [show read i s = _ from read_of_bound hmarked]
    exact resolveOwn_of_broken hfirst hchain hnodup hbroken hidle (by omega)
  have hfailed : failed = t := Act.after_of_error hfails
  let repaired := repair.after t
  have hmarker : repaired.store.binding? ns name.text = some (.autoload first) := hback
  have hrun : run = Act.inTurn (readers.map read) repaired :=
    congrArg (fun left => Act.inTurn (readers.map read) (repair.after left)) hfailed
  refine ⟨Act.outcome_of_error hfails, hfailed ▸ hback, ?_⟩
  rw [hrun]
  by_cases hearlier : earlier = []
  · subst hearlier
    obtain rfl : p = first := by simpa using hfirst
    have hunits : repaired.features.units = s.features.units.insert p (.meant later.head?) := by
      rw [← hran.units]
      rfl
    have hstill : ∀ q ∈ p :: later, (repaired.features.isLoaded q ||
        repaired.features.isLoading q) = false :=
      fun q hq => hran.idle List.not_mem_nil (hidle q hq)
    simp only [true_and, if_true]
    exact reads_of_chained (hunits ▸ hchain) hnodup hstill hmarker (by omega) readers
  · have hloaded : first ∈ earlier := by
      cases earlier with
      | nil => exact absurd rfl hearlier
      | cons q _ =>
        obtain rfl : q = first := by simpa using hfirst
        exact List.mem_cons_self
    have hspent : Spent ns first repaired := by
      constructor
      · exact (hran.loaded first).2 (.inl hloaded)
      · exact hran.hook.trans hunhooked
      · intro j
        rw [show repaired.memos = s.memos from hran.memos]
        exact hmemos j
    obtain ⟨hendings, hleft⟩ := reads_of_spent (P := P) hspent hmarker steps readers
    simp only [hearlier, if_false, false_and]
    exact ⟨hendings, hleft⟩

/-- The second of two units fails at first. -/
theorem repair_reaches_first_unit_only_second :
    let ns : Namespace := .root 0 "M"
    let name : Name := ⟨"X", 0⟩
    let e : ResolveError := .runtime "boom"
    let P : Program Unit Empty Deed := chain nofun ns "X" (.integer 1)
    let s : State Unit Empty Deed :=
      { store := ({} : Store Empty).mark ns "X" "a.rb"
        features := (({} : Features Deed).register "a.rb" (.meant (some "b.rb"))).register "b.rb"
          (.fail e)
        memos := fun _ => { limit := { size := 8 } } }
    let read (i : Unit) : Act (State Unit Empty Deed) ResolveError Value :=
      P.call 2 (.read i .own ns name)
    let repair : Act (State Unit Empty Deed) ResolveError Unit :=
      P.call 2 (.register "b.rb" (.meant none))
    let failed := (read ()).after s
    let run := Act.inTurn ([()].map read) (repair.after failed)
    (read ()).outcome s = .error (.failure e) ∧
      failed.store.binding? ns "X" = some (.autoload "a.rb") ∧
      run.1 = [.error (.failure (.nameNotFound "M" ⟨"X"⟩))] ∧
      run.2.store.binding? ns "X" = some (.autoload "a.rb") := by
  intro ns name e P s read repair failed run
  have hmemos : FaithfulMemos s := fun _ _ _ h => (List.not_mem_nil h).elim
  have hchain : Chained (s.features.units.insert "b.rb" (.meant none)) (["a.rb"] ++ ["b.rb"]) :=
    ⟨rfl, rfl, trivial⟩
  have hmarked : s.store.binding? ns name.text = some (.autoload "a.rb") := rfl
  exact repair_reaches_first_unit_only ["a.rb"] [] rfl hchain (by decide) rfl (by decide) hmarked
    rfl hmemos (Nat.le_refl 2) () [()]

end Chain

end Program
end CallSite.Autoloading
