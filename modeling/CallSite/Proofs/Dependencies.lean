import CallSite.Proofs.Autoloading
import Mathlib.Data.Set.Card
import Mathlib.Logic.Relation

/-!
# Constants that are defined from each other

The unit of each constant reads other constants and computes its own from their values. If no
constant needs itself, the values do not depend on which constants are read first, and each unit
runs once, when its constant is first needed.
-/
namespace CallSite.Autoloading

open Relation (TransGen ReflTransGen)

variable {ι η κ : Type}

/-- Constants `κ` of one namespace with a load unit for each. The unit of a constant reads those
that it needs through the resolver `reader`. -/
structure Plan (ι κ : Type) where
  ns : Namespace
  name : κ → Name
  path : κ → String
  reader : κ → ι
  needs : κ → List κ
  compute : κ → List Value → Value
  names_apart : ∀ j k, (name j).text = (name k).text → j = k
  paths_apart : ∀ j k, path j = path k → j = k
  acyclic : ∀ k, ¬ TransGen (fun k j => j ∈ needs k) k k

namespace Plan

section Values

variable (G : Plan ι κ) {j k : κ}

@[simp] theorem path_inj : G.path j = G.path k ↔ j = k := by
  constructor
  · exact G.paths_apart j k
  · rintro rfl
    rfl

@[simp] theorem text_inj : (G.name j).text = (G.name k).text ↔ j = k := by
  constructor
  · exact G.names_apart j k
  · rintro rfl
    rfl

def Reads (k j : κ) : Prop := j ∈ G.needs k

/-- The constants that a read of `k` comes to, `k` itself included. -/
def reach (k : κ) : Set κ := {j | ReflTransGen G.Reads k j}

/-- The constants that reads of any of `ks` come to. -/
def reached (ks : List κ) : Set κ := {x | ∃ k ∈ ks, x ∈ G.reach k}

@[simp] theorem reached_nil : G.reached [] = ∅ := by simp [reached]

theorem reached_cons (k : κ) (ks : List κ) : G.reached (k :: ks) = G.reach k ∪ G.reached ks := by
  ext x
  simp [reached]

theorem reach_eq (k : κ) : G.reach k = insert k (G.reached (G.needs k)) := by
  ext x
  constructor
  · intro hx
    rcases ReflTransGen.cases_head hx with rfl | ⟨j, hj, hrest⟩
    · exact Set.mem_insert _ _
    · exact Set.mem_insert_of_mem _ ⟨j, hj, hrest⟩
  · rintro (rfl | ⟨j, hj, hrest⟩)
    · exact ReflTransGen.refl
    · exact ReflTransGen.head hj hrest

variable {G}

theorem reach_subset (h : G.Reads k j) : G.reach j ⊆ G.reach k := by
  intro x hx
  exact ReflTransGen.head h hx

theorem not_mem_reach (h : G.Reads k j) : k ∉ G.reach j :=
  fun hback => G.acyclic k (TransGen.head' h hback)

theorem not_mem_reached (k : κ) : k ∉ G.reached (G.needs k) := by
  rintro ⟨j, hj, hback⟩
  exact not_mem_reach hj hback

variable [Finite κ]

theorem ncard_reach_lt (h : G.Reads k j) : (G.reach j).ncard < (G.reach k).ncard := by
  have hproper : ¬ G.reach k ⊆ G.reach j := fun hback => not_mem_reach h (hback ReflTransGen.refl)
  exact Set.ncard_lt_ncard ⟨reach_subset h, hproper⟩ (Set.toFinite _)

theorem wellFounded_reads (G : Plan ι κ) : WellFounded fun j k => G.Reads k j :=
  Subrelation.wf (fun h => ncard_reach_lt h) (measure fun k => (G.reach k).ncard).wf

/-- What the recursion along the reads gives each constant. -/
noncomputable def value (G : Plan ι κ) : κ → Value :=
  G.wellFounded_reads.fix fun k valueOf =>
    G.compute k ((G.needs k).attach.map fun j => valueOf j.1 j.2)

theorem value_eq (G : Plan ι κ) (k : κ) : G.value k = G.compute k ((G.needs k).map G.value) := by
  rw [value, WellFounded.fix_eq]
  simp

end Values

/-! ### The units -/

/-- Reads constants one after another and goes on with their values, unless a read stops. -/
def readAll (G : Plan ι κ) (i : ι) :
    List κ → (List Value → AutoloadingCode ι η κ Unit) → AutoloadingCode ι η κ Unit
  | [], next => next []
  | j :: js, next => .call (.read i .own G.ns (G.name j)) fun
    | .ok v => G.readAll i js fun vs => next (v :: vs)
    | .error e => .stop e

/-- The unit of each constant, and any hooks. -/
def program (G : Plan ι κ) (hook : η → Namespace → Symbol → AutoloadingCode ι η κ Value) :
    Program ι η κ where
  unit k _ := G.readAll (G.reader k) (G.needs k) fun vs =>
    .call (.change (.set G.ns (G.name k).text (G.compute k vs))) fun
      | .ok _ => .done ()
      | .error e => .stop e
  hook := hook

/-- Every constant waits for its unit, and nothing has been loaded. -/
structure Fresh (G : Plan ι κ) (s : State ι η κ) : Prop where
  deferred : ∀ k, s.store.binding? G.ns (G.name k).text = some (.autoload (G.path k))
  registered : ∀ k, s.features.units.get? (G.path k) = some k
  loaded : ∀ path, s.features.isLoaded path = false
  loading : ∀ path, s.features.isLoading path = false
  counted : ∀ path, s.features.loadCount path = 0
  started : s.started = []

/-- What has become of `start` when the units of `done` have run and those of `busy` are running:
each of them was started once and no other, the constants of `done` have their values, and the
others that are not being loaded still wait. -/
structure Standing [Finite κ] (G : Plan ι κ) (start : State ι η κ) (done busy : Set κ)
    (s : State ι η κ) : Prop where
  defined : ∀ k ∈ done, s.store.binding? G.ns (G.name k).text = some (.value (G.value k))
  deferred : ∀ k ∉ done, k ∉ busy →
    s.store.binding? G.ns (G.name k).text = some (.autoload (G.path k))
  elsewhere : ∀ ns name, (∀ k, ¬ (ns.id = G.ns.id ∧ name = (G.name k).text)) →
    s.store.binding? ns name = start.store.binding? ns name
  registered : ∀ k, s.features.units.get? (G.path k) = some k
  loaded : ∀ k, s.features.isLoaded (G.path k) = true ↔ k ∈ done
  loading : ∀ k, s.features.isLoading (G.path k) = true ↔ k ∈ busy
  once : s.started.Nodup
  ran : ∀ path, path ∈ s.started ↔ ∃ k, (k ∈ done ∨ k ∈ busy) ∧ G.path k = path
  counted : ∀ path, s.features.loadCount path = s.started.count path
  closed : ∀ k ∈ done, G.reach k ⊆ done

section Standing

variable [Finite κ] {G : Plan ι κ} {start s : State ι η κ} {done busy : Set κ} {k : κ}

theorem Fresh.standing (h : G.Fresh s) : G.Standing s ∅ ∅ s where
  defined _ hk := hk.elim
  deferred k _ _ := h.deferred k
  elsewhere _ _ _ := rfl
  registered := h.registered
  loaded k := by simp [h.loaded]
  loading k := by simp [h.loading]
  once := by simp [h.started]
  ran path := by simp [h.started]
  counted path := by simp [h.started, h.counted]
  closed _ hk := hk.elim

/-- The unit of a constant that waits is started. -/
theorem Standing.begin (h : G.Standing start done busy s) (hdone : k ∉ done) (hbusy : k ∉ busy) :
    G.Standing start done (insert k busy)
      ((s.takeAway G.ns (G.name k).text).begin (G.path k)) where
  defined j hj := by
    have hjk : j ≠ k := fun heq => hdone (heq ▸ hj)
    simp [State.begin, State.takeAway, Store.binding?_remove, hjk, h.defined j hj]
  deferred j hj hjbusy := by
    have hjk : j ≠ k := fun heq => hjbusy (heq ▸ Set.mem_insert _ _)
    have hjbusy : j ∉ busy := fun hmem => hjbusy (Set.mem_insert_of_mem _ hmem)
    simp [State.begin, State.takeAway, Store.binding?_remove, hjk, h.deferred j hj hjbusy]
  elsewhere ns name hout := by
    have hthis := hout k
    simp [State.begin, State.takeAway, Store.binding?_remove, hthis, h.elsewhere ns name hout]
  registered := h.registered
  loaded := h.loaded
  loading j := by simp [State.begin, State.takeAway, h.loading]
  once := by
    have hnew : G.path k ∉ s.started := by
      intro hmem
      obtain ⟨j, hj, hpath⟩ := (h.ran _).1 hmem
      rw [G.path_inj] at hpath
      subst hpath
      exact hj.elim hdone hbusy
    exact List.nodup_cons.2 ⟨hnew, h.once⟩
  ran path := by
    simp only [State.begin, State.takeAway, List.mem_cons, h.ran path]
    constructor
    · rintro (rfl | ⟨j, hj, rfl⟩)
      · exact ⟨k, .inr (Set.mem_insert _ _), rfl⟩
      · exact ⟨j, hj.imp_right (Set.mem_insert_of_mem _), rfl⟩
    · rintro ⟨j, hj | rfl | hj, rfl⟩
      · exact .inr ⟨j, .inl hj, rfl⟩
      · exact .inl rfl
      · exact .inr ⟨j, .inr hj, rfl⟩
  counted path := by
    by_cases hpath : path = G.path k
    · subst hpath
      simp [State.begin, State.takeAway, h.counted]
    · have hne : ¬ G.path k = path := fun heq => hpath heq.symm
      simp [State.begin, State.takeAway, h.counted, hpath, hne]
  closed := h.closed

/-- The unit of a constant has read what it needs, sets the constant and ends. -/
theorem Standing.finish (h : G.Standing start done (insert k busy) s) (hdone : k ∉ done)
    (hbusy : k ∉ busy) (hneeds : G.reached (G.needs k) ⊆ done) :
    G.Standing start (insert k done) busy (State.finish (G.path k) (.ok ())
      { s with store := s.store.bind G.ns (G.name k).text (.value (G.value k)) }) where
  defined j hj := by
    rcases hj with rfl | hj
    · simp [State.finish, Store.binding?_bind]
    · have hjk : j ≠ k := fun heq => hdone (heq ▸ hj)
      simp [State.finish, Store.binding?_bind, hjk, h.defined j hj]
  deferred j hj hjbusy := by
    have hjk : j ≠ k := fun heq => hj (heq ▸ Set.mem_insert _ _)
    have hjnew : j ∉ insert k busy := by
      rintro (rfl | hmem)
      · exact hjk rfl
      · exact hjbusy hmem
    have hjdone : j ∉ done := fun hmem => hj (Set.mem_insert_of_mem _ hmem)
    simp [State.finish, Store.binding?_bind, hjk, h.deferred j hjdone hjnew]
  elsewhere ns name hout := by
    have hthis := hout k
    simp [State.finish, Store.binding?_bind, hthis, h.elsewhere ns name hout]
  registered := h.registered
  loaded j := by simp [State.finish, h.loaded]
  loading j := by
    by_cases hj : j = k
    · subst hj
      simp [State.finish, hbusy]
    · simp [State.finish, h.loading, hj]
  once := h.once
  ran path := by
    rw [State.finish, h.ran path]
    constructor
    · rintro ⟨j, hj | rfl | hj, rfl⟩
      · exact ⟨j, .inl (Set.mem_insert_of_mem _ hj), rfl⟩
      · exact ⟨j, .inl (Set.mem_insert _ _), rfl⟩
      · exact ⟨j, .inr hj, rfl⟩
    · rintro ⟨j, (rfl | hj) | hj, rfl⟩
      · exact ⟨j, .inr (Set.mem_insert _ _), rfl⟩
      · exact ⟨j, .inl hj, rfl⟩
      · exact ⟨j, .inr (Set.mem_insert_of_mem _ hj), rfl⟩
  counted := h.counted
  closed j hj := by
    rcases hj with rfl | hj
    · rw [G.reach_eq j]
      exact Set.insert_subset_insert hneeds
    · exact (h.closed j hj).trans (Set.subset_insert _ _)

end Standing

/-! ### Reads -/

section Reads

variable [Finite κ] [DecidableEq ι] {G : Plan ι κ}
  {hook : η → Namespace → Symbol → AutoloadingCode ι η κ Value} {start s : State ι η κ}
  {done busy : Set κ} {k : κ} {fuel : Nat}

/-- A read of `k` gives its value and runs the units it comes to that have not run, if all units
that are running need `k`. -/
def ReadsRight (G : Plan ι κ) (hook : η → Namespace → Symbol → AutoloadingCode ι η κ Value)
    (start : State ι η κ) (fuel : Nat) (k : κ) : Prop :=
  ∀ i done busy s, G.Standing start done busy s → (∀ b ∈ busy, TransGen G.Reads b k) →
    ∃ t, (G.program hook).call fuel (.read i .own G.ns (G.name k)) s = .ok (G.value k) t ∧
      G.Standing start (done ∪ G.reach k) busy t

theorem run_readAll {js : List κ} (hjs : ∀ j ∈ js, ReadsRight G hook start fuel j)
    (h : G.Standing start done busy s) (hbusy : ∀ j ∈ js, ∀ b ∈ busy, TransGen G.Reads b j)
    (i : ι) (next : List Value → AutoloadingCode ι η κ Unit) :
    ∃ t, G.Standing start (done ∪ G.reached js) busy t ∧
      (G.program hook).exec (fuel + 1) (G.readAll i js next) s =
        (G.program hook).exec (fuel + 1) (next (js.map G.value)) t := by
  induction js generalizing done s next with
  | nil => exact ⟨s, by simpa using h, rfl⟩
  | cons j js ih =>
    obtain ⟨t, hread, ht⟩ := hjs j List.mem_cons_self i done busy s h (hbusy j List.mem_cons_self)
    obtain ⟨u, hu, hrest⟩ := ih (fun j hj => hjs j (List.mem_cons_of_mem _ hj)) ht
      (fun j hj => hbusy j (List.mem_cons_of_mem _ hj)) fun vs => next (G.value j :: vs)
    rw [Set.union_assoc, ← G.reached_cons] at hu
    exact ⟨u, hu, (Code.run_call_of_ok hread).trans hrest⟩

/-- The unit of a constant that waits runs to its end and leaves the value. -/
theorem run_unit (hneeds : ∀ j ∈ G.needs k, ReadsRight G hook start fuel j)
    (h : G.Standing start done busy s) (hdone : k ∉ done) (hbusy : k ∉ busy)
    (habove : ∀ b ∈ busy, TransGen G.Reads b k) :
    ∃ t, (G.program hook).exec (fuel + 1) ((G.program hook).unit k (G.path k))
        ((s.takeAway G.ns (G.name k).text).begin (G.path k)) = .ok () t ∧
      t.store.binding? G.ns (G.name k).text = some (.value (G.value k)) ∧
      G.Standing start (done ∪ G.reach k) busy (t.finish (G.path k) (.ok ())) := by
  have hbelow : ∀ j ∈ G.needs k, ∀ b ∈ insert k busy, TransGen G.Reads b j := by
    rintro j hj b (rfl | hb)
    · exact TransGen.single hj
    · exact (habove b hb).tail hj
  obtain ⟨u, hu, hreads⟩ := run_readAll hneeds (h.begin hdone hbusy) hbelow (G.reader k) fun vs =>
    .call (.change (.set G.ns (G.name k).text (G.compute k vs))) fun
      | .ok _ => .done ()
      | .error e => .stop e
  let t : State ι η κ :=
    { u with store := u.store.bind G.ns (G.name k).text (.value (G.value k)) }
  have hnew : k ∉ done ∪ G.reached (G.needs k) := by
    rintro (hmem | hmem)
    · exact hdone hmem
    · exact not_mem_reached k hmem
  refine ⟨t, ?_, ?_, ?_⟩
  · rw [← G.value_eq] at hreads
    exact hreads
  · simp [t, Store.binding?_bind]
  · have hfinish := hu.finish hnew hbusy Set.subset_union_right
    rw [← Set.union_insert, ← G.reach_eq] at hfinish
    exact hfinish

theorem readsRight (hook : η → Namespace → Symbol → AutoloadingCode ι η κ Value)
    (start : State ι η κ) (hfuel : (G.reach k).ncard ≤ fuel) :
    ReadsRight G hook start fuel k := by
  -- All units that are running need `k`, so `k` is not one of them: it has its value, or waits.
  induction k using G.wellFounded_reads.induction generalizing fuel with
  | _ k ih =>
    intro i done busy s h habove
    have hbusy : k ∉ busy := fun hmem => G.acyclic k (habove k hmem)
    by_cases hdone : k ∈ done
    · refine ⟨s, Program.read_of_value (h.defined k hdone), ?_⟩
      rwa [Set.union_eq_self_of_subset_right (h.closed k hdone)]
    · have hpos : 0 < (G.reach k).ncard := (Set.ncard_pos (Set.toFinite _)).2 ⟨k, .refl⟩
      obtain ⟨fuel, rfl⟩ : ∃ f, fuel = f + 1 := ⟨fuel - 1, by omega⟩
      have hneeds : ∀ j ∈ G.needs k, ReadsRight G hook start fuel j := by
        intro j hj
        have hlt := ncard_reach_lt hj
        exact ih j hj (by omega)
      obtain ⟨t, hruns, hdefines, ht⟩ := run_unit hneeds h hdone hbusy habove
      have hidle : (s.features.isLoaded (G.path k) || s.features.isLoading (G.path k)) = false := by
        rw [Bool.or_eq_false_iff, Bool.eq_false_iff, Bool.eq_false_iff, Ne, Ne, h.loaded, h.loading]
        exact ⟨hdone, hbusy⟩
      refine ⟨t.finish (G.path k) (.ok ()), ?_, ht⟩
      exact (Program.read_of_bound (h.deferred k hdone hbusy)).trans
        (Program.resolveOwn_of_defining_unit fuel hidle (h.registered k) hruns hdefines)

theorem inTurn_reads (hook : η → Namespace → Symbol → AutoloadingCode ι η κ Value)
    (hfuel : Nat.card κ ≤ fuel) (h : G.Standing start done ∅ s) (reads : List (ι × κ)) :
    let read (r : ι × κ) : Act (State ι η κ) ResolveError Value :=
      (G.program hook).call fuel (.read r.1 .own G.ns (G.name r.2))
    let run := Act.inTurn (reads.map read) s
    run.1 = reads.map (fun r => .ok (G.value r.2)) ∧
      G.Standing start (done ∪ G.reached (reads.map Prod.snd)) ∅ run.2 := by
  intro read run
  induction reads generalizing done s with
  | nil => exact ⟨rfl, by simpa [run, Act.inTurn] using h⟩
  | cons r reads ih =>
    have hcard : (G.reach r.2).ncard ≤ Nat.card κ := Set.ncard_le_card _
    have hright : ReadsRight G hook start fuel r.2 := readsRight hook start (hcard.trans hfuel)
    obtain ⟨t, hread, ht⟩ := hright r.1 done ∅ s h (fun _ hb => hb.elim)
    have hread : read r s = .ok (G.value r.2) t := hread
    obtain ⟨hendings, hleft⟩ := ih ht
    have hrun : run = (.ok (G.value r.2) :: (Act.inTurn (reads.map read) t).1,
        (Act.inTurn (reads.map read) t).2) := Act.inTurn_cons_of_ok hread _
    rw [Set.union_assoc, ← G.reached_cons] at hleft
    rw [hrun, hendings]
    exact ⟨rfl, hleft⟩

/-- Constants that do not need themselves are read in any order, by any resolvers and as often as
one likes. Each read gives what the recursion along the reads does. The units that have run are
those of the constants that were read and of what they need, each once. When all constants have
been read, all have their values and no marker is left. -/
theorem reads_in_any_order (G : Plan ι κ)
    (hook : η → Namespace → Symbol → AutoloadingCode ι η κ Value) (hfuel : Nat.card κ ≤ fuel)
    (h : G.Fresh s) (reads : List (ι × κ)) :
    let read (r : ι × κ) : Act (State ι η κ) ResolveError Value :=
      (G.program hook).call fuel (.read r.1 .own G.ns (G.name r.2))
    let run := Act.inTurn (reads.map read) s
    run.1 = reads.map (fun r => .ok (G.value r.2)) ∧
      G.Standing s (G.reached (reads.map Prod.snd)) ∅ run.2 ∧
      ((∀ k, k ∈ reads.map Prod.snd) →
        ∀ k, run.2.store.binding? G.ns (G.name k).text = some (.value (G.value k))) := by
  intro read run
  obtain ⟨hendings, hleft⟩ := inTurn_reads hook hfuel h.standing reads
  rw [Set.empty_union] at hleft
  refine ⟨hendings, hleft, ?_⟩
  intro hall k
  exact hleft.defined k ⟨k, hall k, .refl⟩

end Reads

def steps : Fin 3 → List (Fin 3)
  | 0 => [1, 2, 1]
  | 1 => [2]
  | 2 => []

theorem lt_of_steps {k j : Fin 3} (h : TransGen (fun k j => j ∈ steps k) k j) : k < j := by
  have hstep : ∀ k j : Fin 3, j ∈ steps k → k < j := by decide
  induction h with
  | single h => exact hstep _ _ h
  | tail _ h ih => exact ih.trans (hstep _ _ h)

/-- Three constants, each of them one more than the sum of those that it reads. -/
def staircase : Plan Unit (Fin 3) where
  ns := .root 0 "M"
  name
    | 0 => ⟨"A", 0⟩
    | 1 => ⟨"B", 1⟩
    | 2 => ⟨"C", 2⟩
  path
    | 0 => "a.rb"
    | 1 => "b.rb"
    | 2 => "c.rb"
  reader _ := ()
  needs := steps
  compute _ vs := .integer (vs.foldl (fun n v => match v with | .integer m => n + m | _ => n) 1)
  names_apart := by decide
  paths_apart := by decide
  acyclic k h := lt_irrefl k (lt_of_steps h)

/-- The constant in the middle is read first, then the one that needs it, then the last one. -/
theorem reads_in_any_order_staircase :
    let G := staircase
    let s : State Unit Empty (Fin 3) :=
      { store := ((({} : Store Empty).mark G.ns "A" "a.rb").mark G.ns "B" "b.rb").mark G.ns "C"
          "c.rb"
        features := ((({} : Features (Fin 3)).register "a.rb" 0).register "b.rb" 1).register
          "c.rb" 2
        memos := fun _ => { limit := { size := 8 } } }
    let read (r : Unit × Fin 3) : Act (State Unit Empty (Fin 3)) ResolveError Value :=
      (G.program nofun).call 3 (.read r.1 .own G.ns (G.name r.2))
    let run := Act.inTurn ([((), 1), ((), 0), ((), 2)].map read) s
    G.Fresh s ∧ run.1 = [.ok (.integer 2), .ok (.integer 6), .ok (.integer 1)] ∧
      G.Standing s (G.reached [1, 0, 2]) ∅ run.2 ∧
      ∀ k, run.2.store.binding? G.ns (G.name k).text = some (.value (G.value k)) := by
  intro G s read run
  have hfresh : G.Fresh s :=
    { deferred := by decide
      registered := by decide
      loaded := fun _ => rfl
      loading := fun _ => rfl
      counted := fun _ => rfl
      started := rfl }
  have hcard : Nat.card (Fin 3) ≤ 3 := (Nat.card_fin 3).le
  have hC : G.value 2 = .integer 1 := G.value_eq 2
  have hB : G.value 1 = .integer 2 := by
    have hneeds : (G.needs 1).map G.value = [.integer 1] := congrArg (fun v => [v]) hC
    rw [G.value_eq, hneeds]
    rfl
  have hA : G.value 0 = .integer 6 := by
    have hneeds : (G.needs 0).map G.value = [.integer 2, .integer 1, .integer 2] := by
      rw [← hB, ← hC]
      rfl
    rw [G.value_eq, hneeds]
    rfl
  obtain ⟨hendings, hleft, hall⟩ :=
    reads_in_any_order G nofun hcard hfresh [((), 1), ((), 0), ((), 2)]
  have hlist : [((), 1), ((), 0), ((), 2)].map (fun r : Unit × Fin 3 =>
      (.ok (G.value r.2) : Except (Stop ResolveError) Value)) =
        [.ok (.integer 2), .ok (.integer 6), .ok (.integer 1)] := by
    rw [← hA, ← hB, ← hC]
    rfl
  exact ⟨hfresh, hendings.trans hlist, hleft, hall (by decide)⟩

end Plan
end CallSite.Autoloading
