import CallSite.Store
import Mathlib.Data.List.Nodup
import Mathlib.Logic.Function.Iterate
import Mathlib.Logic.Relation

/-!
# The walk of a lookup

Namespaces get their numbers as they are made, and a parent is made before its children. So the
walk from a namespace to its parents goes down in numbers and comes to an end. What a lookup finds
on it is the nearest declaration, and nothing that is done to the tables elsewhere makes a
difference to that.
-/
namespace CallSite

/-- A store with the namespaces that have been made in it. -/
structure Lineage (η : Type) where
  store : Store η := {}
  made : List Namespace := []

namespace Lineage

variable {η : Type}

/-- One operation on a store, told apart by the entry that it may write. -/
inductive Step (w : Lineage η) : Option (Namespace × String) → Lineage η → Prop
  | root (name : String) :
    Step w none ⟨(w.store.createRoot name).2, (w.store.createRoot name).1 :: w.made⟩
  | child (name : String) {parent : Namespace} : parent ∈ w.made →
    Step w none
      ⟨(w.store.createChild name parent).2, (w.store.createChild name parent).1 :: w.made⟩
  | nested {outer : Namespace} (name : String) : outer ∈ w.made →
    Step w (some (outer, name))
      ⟨(w.store.defineNested outer name).2, (w.store.defineNested outer name).1 :: w.made⟩
  | set {ns : Namespace} (name : String) (v : Value) : ns ∈ w.made →
    Step w (some (ns, name)) { w with store := (w.store.setConstant ns name v).2 }
  | autoload {ns : Namespace} (name path : String) : ns ∈ w.made →
    Step w (some (ns, name)) { w with store := (w.store.autoload ns name path).2 }
  | mark {ns : Namespace} (name path : String) : ns ∈ w.made →
    Step w (some (ns, name)) { w with store := w.store.mark ns name path }
  | remove {ns : Namespace} (name : String) : ns ∈ w.made →
    Step w (some (ns, name)) { w with store := (w.store.removeConstant ns name).2 }
  | setHook {ns : Namespace} (hook : Option η) : ns ∈ w.made →
    Step w none { w with store := w.store.setHook ns hook }

/-- From an empty store, by any operations in any order. -/
def Reached (w : Lineage η) : Prop :=
  Relation.ReflTransGen (fun w w' => ∃ written, Step w written w') {} w

/-- By any operations that do not write a name in the namespaces that are spared. -/
def Spares (spared : List Namespace) (name : String) : Lineage η → Lineage η → Prop :=
  Relation.ReflTransGen fun w w' =>
    ∃ written, Step w written w' ∧ ∀ ns ∈ spared, written ≠ some (ns, name)

/-! ### Numbers -/

/-- Parents are made first, and each number is given once. -/
structure Sound (w : Lineage η) : Prop where
  older : ∀ ns ∈ w.made, ∀ parent, ns.parent? = some parent → parent ∈ w.made ∧ parent.id < ns.id
  numbered : ∀ ns ∈ w.made, ns.id < w.store.created
  unique : ∀ ns ∈ w.made, ∀ ns' ∈ w.made, ns.id = ns'.id → ns = ns'

section Step

variable {w w' : Lineage η} {written : Option (Namespace × String)} {ns : Namespace}

/-- A namespace that is made gets the next number, and its parent is there. -/
theorem Sound.make (h : w.Sound) {store : Store η} (hid : ns.id = w.store.created)
    (hparent : ∀ parent, ns.parent? = some parent → parent ∈ w.made)
    (hcreated : store.created = w.store.created + 1) : Sound ⟨store, ns :: w.made⟩ where
  older a ha parent hparent' := by
    rcases List.mem_cons.1 ha with rfl | ha
    · have hmem := hparent parent hparent'
      have hlt := h.numbered parent hmem
      exact ⟨List.mem_cons_of_mem _ hmem, by omega⟩
    · obtain ⟨hmem, hlt⟩ := h.older a ha parent hparent'
      exact ⟨List.mem_cons_of_mem _ hmem, hlt⟩
  numbered a ha := by
    rcases List.mem_cons.1 ha with rfl | ha
    · simp only
      omega
    · have hlt := h.numbered a ha
      simp only
      omega
  unique a ha b hb hsame := by
    rcases List.mem_cons.1 ha with rfl | ha'
    · rcases List.mem_cons.1 hb with rfl | hb'
      · rfl
      · have hlt := h.numbered b hb'
        omega
    · rcases List.mem_cons.1 hb with rfl | hb'
      · have hlt := h.numbered a ha'
        omega
      · exact h.unique a ha' b hb' hsame

theorem Sound.change (h : w.Sound) {store : Store η} (hcreated : store.created = w.store.created) :
    Sound { w with store } where
  older := h.older
  numbered a ha := hcreated ▸ h.numbered a ha
  unique := h.unique

theorem created_autoload (s : Store η) (ns : Namespace) (name path : String) :
    (s.autoload ns name path).2.created = s.created := by
  rw [Store.autoload]
  split <;> rfl

theorem created_setHook (s : Store η) (ns : Namespace) (hook : Option η) :
    (s.setHook ns hook).created = s.created := by
  cases hook <;> rfl

theorem Sound.step (h : w.Sound) (hstep : Step w written w') : w'.Sound := by
  cases hstep with
  | root name => exact h.make rfl nofun rfl
  | child name hparent =>
    refine h.make rfl ?_ rfl
    rintro _ ⟨⟩
    exact hparent
  | nested name houter => exact h.make rfl nofun rfl
  | set name v hns => exact h.change rfl
  | autoload name path hns => exact h.change (created_autoload ..)
  | mark name path hns => exact h.change rfl
  | remove name hns => exact h.change rfl
  | setHook hook hns => exact h.change (created_setHook ..)

theorem Step.made_subset (hstep : Step w written w') : w.made ⊆ w'.made := by
  cases hstep with
  | root | child | nested => exact List.subset_cons_self ..
  | set | autoload | mark | remove | setHook => exact List.Subset.refl _

end Step

theorem sound_empty : Sound ({} : Lineage η) where
  older _ h := (List.not_mem_nil h).elim
  numbered _ h := (List.not_mem_nil h).elim
  unique _ h := (List.not_mem_nil h).elim

theorem Reached.sound {w : Lineage η} (h : w.Reached) : w.Sound := by
  induction h with
  | refl => exact sound_empty
  | tail _ hstep ih =>
    obtain ⟨_, hstep⟩ := hstep
    exact ih.step hstep

/-! ### Walks -/

section Walk

variable {w : Lineage η} {ns : Namespace}

/-- The walk is what going from parent to parent leads through. -/
theorem getElem?_ancestors (ns : Namespace) (n : Nat) :
    ns.ancestors[n]? = (·.bind Namespace.parent?)^[n] (some ns) := by
  induction n generalizing ns with
  | zero =>
    cases ns with
    | root id name => rfl
    | child id name parent => rfl
  | succ n ih =>
    rw [Function.iterate_succ_apply]
    cases ns with
    | root id name =>
      have hnone : (·.bind Namespace.parent?)^[n] none = (none : Option Namespace) :=
        Function.iterate_fixed rfl n
      exact hnone.symm
    | child id name parent => exact ih parent

theorem head?_ancestors (ns : Namespace) : ns.ancestors.head? = some ns := by
  cases ns <;> rfl

theorem Sound.ancestors (h : w.Sound) (hns : ns ∈ w.made) :
    (∀ a ∈ ns.ancestors, a ∈ w.made ∧ a.id ≤ ns.id) ∧
      ns.ancestors.Pairwise (fun a b => b.id < a.id) ∧ ns.ancestors.length ≤ ns.id + 1 := by
  induction ns with
  | root id name =>
    refine ⟨?_, List.pairwise_singleton .., by simp [Namespace.ancestors]⟩
    simp [Namespace.ancestors, hns]
  | child id name parent ih =>
    obtain ⟨hparent, hlt⟩ := h.older _ hns parent rfl
    obtain ⟨hmade, hdescends, hlength⟩ := ih hparent
    have hlt' : parent.id < id := hlt
    rw [Namespace.ancestors]
    refine ⟨?_, List.pairwise_cons.2 ⟨?_, hdescends⟩, ?_⟩
    · intro a ha
      rcases List.mem_cons.1 ha with rfl | ha'
      · exact ⟨hns, Nat.le_refl _⟩
      · obtain ⟨ha, hle⟩ := hmade a ha'
        exact ⟨ha, Nat.le_trans hle (Nat.le_of_lt hlt)⟩
    · intro a ha
      exact Nat.lt_of_le_of_lt (hmade a ha).2 hlt
    · rw [List.length_cons, Namespace.id]
      omega

theorem Sound.nodup_ancestors (h : w.Sound) (hns : ns ∈ w.made) : ns.ancestors.Nodup := by
  refine (h.ancestors hns).2.1.imp ?_
  rintro a b hlt rfl
  exact Nat.lt_irrefl _ hlt

end Walk

/-! ### What a lookup finds -/

section Lookup

variable {store store' : Store η} {ns : Namespace} {name : Name} {c : Constant}

theorem lookupOwn_eq_none_iff :
    store.lookupOwn ns name = none ↔ store.binding? ns name.text = none := Option.map_eq_none_iff

theorem lookupOwn_eq_some_iff :
    store.lookupOwn ns name = some c ↔
      store.binding? ns name.text = some c.binding ∧ c.declaring = ns ∧ c.name = name := by
  rw [Store.lookupOwn, Option.map_eq_some_iff]
  constructor
  · rintro ⟨binding, hbinding, rfl⟩
    exact ⟨hbinding, rfl, rfl⟩
  · rintro ⟨hbinding, rfl, rfl⟩
    exact ⟨c.binding, hbinding, rfl⟩

theorem lookupNearest_eq_none_iff :
    store.lookupNearest ns name = none ↔
      ∀ a ∈ ns.ancestors, store.binding? a name.text = none := by
  simp only [Store.lookupNearest, List.findSome?_eq_none_iff, lookupOwn_eq_none_iff]

theorem lookupNearest_eq_some_iff :
    store.lookupNearest ns name = some c ↔
      (∃ nearer farther, ns.ancestors = nearer ++ c.declaring :: farther ∧
        ∀ a ∈ nearer, store.binding? a name.text = none) ∧
        store.binding? c.declaring name.text = some c.binding ∧ c.name = name := by
  simp only [Store.lookupNearest, List.findSome?_eq_some_iff, lookupOwn_eq_some_iff,
    lookupOwn_eq_none_iff]
  constructor
  · rintro ⟨nearer, a, farther, hwalk, ⟨hbinding, rfl, hname⟩, hnearer⟩
    exact ⟨⟨nearer, farther, hwalk, hnearer⟩, hbinding, hname⟩
  · rintro ⟨⟨nearer, farther, hwalk, hnearer⟩, hbinding, hname⟩
    exact ⟨nearer, c.declaring, farther, hwalk, ⟨hbinding, rfl, hname⟩, hnearer⟩

end Lookup

/-! ### What a lookup does not see -/

section Elsewhere

variable {w w' : Lineage η} {written : Option (Namespace × String)} {ns : Namespace}
  {name : String}

/-- Namespaces that have been made are told apart by their numbers. -/
theorem Sound.not_same_entry (h : w.Sound) {outer : Namespace} {other : String}
    (hns : ns ∈ w.made) (houter : outer ∈ w.made)
    (hne : some (outer, other) ≠ some (ns, name)) : ¬ (ns.id = outer.id ∧ name = other) := by
  rintro ⟨hid, rfl⟩
  exact hne (by rw [h.unique ns hns outer houter hid])

/-- A step changes no entry but the one that it writes. -/
theorem Sound.binding?_of_step (h : w.Sound) (hstep : Step w written w') (hns : ns ∈ w.made)
    (hother : written ≠ some (ns, name)) :
    w'.store.binding? ns name = w.store.binding? ns name := by
  cases hstep with
  | root | child => rfl
  | nested other houter =>
    exact (Store.binding?_bind ..).trans (if_neg (h.not_same_entry hns houter hother))
  | set other v houter =>
    exact (Store.binding?_bind ..).trans (if_neg (h.not_same_entry hns houter hother))
  | mark other path houter =>
    exact (Store.binding?_bind ..).trans (if_neg (h.not_same_entry hns houter hother))
  | remove other houter =>
    exact (Store.binding?_remove ..).trans (if_neg (h.not_same_entry hns houter hother))
  | autoload other path houter =>
    rw [Store.autoload]
    split
    · rfl
    · exact (Store.binding?_bind ..).trans (if_neg (h.not_same_entry hns houter hother))
  | setHook hook _ => cases hook <;> rfl

theorem Sound.binding?_of_spares (h : w.Sound) {spared : List Namespace}
    (hspared : ∀ a ∈ spared, a ∈ w.made) (hrun : Spares spared name w w') (hns : ns ∈ spared) :
    w'.store.binding? ns name = w.store.binding? ns name := by
  suffices hkept : w'.Sound ∧ w.made ⊆ w'.made ∧
      w'.store.binding? ns name = w.store.binding? ns name from hkept.2.2
  induction hrun with
  | refl => exact ⟨h, List.Subset.refl _, rfl⟩
  | tail _ hstep ih =>
    obtain ⟨hsound, hmade, hsame⟩ := ih
    obtain ⟨written, hstep, hother⟩ := hstep
    have hstill := hsound.binding?_of_step hstep (hmade (hspared ns hns)) (hother ns hns)
    exact ⟨hsound.step hstep, List.Subset.trans hmade hstep.made_subset, hstill.trans hsame⟩

/-- The entry that a lookup has found, and those that it has passed, decide what it finds. -/
theorem Sound.lookupNearest_of_found (h : w.Sound) (hns : ns ∈ w.made) {name : Name} {c : Constant}
    {nearer farther : List Namespace} (hfound : w.store.lookupNearest ns name = some c)
    (hwalk : ns.ancestors = nearer ++ c.declaring :: farther)
    (hrun : Spares (nearer ++ [c.declaring]) name.text w w') :
    w'.store.lookupNearest ns name = some c := by
  have hmade := (h.ancestors hns).1
  have hsame (a : Namespace) (ha : a ∈ nearer ++ [c.declaring]) :
      w'.store.binding? a name.text = w.store.binding? a name.text := by
    refine h.binding?_of_spares (fun b hb => (hmade b ?_).1) hrun ha
    rw [hwalk, List.append_cons]
    exact List.mem_append_left _ hb
  obtain ⟨⟨passed, rest, hwalk', hpassed⟩, hbinding, hname⟩ := lookupNearest_eq_some_iff.1 hfound
  -- The walk goes through the declaring namespace once, so it splits there in one way.
  have hnodup := h.nodup_ancestors hns
  rw [hwalk, List.nodup_middle, List.nodup_cons, List.mem_append, not_or] at hnodup
  obtain ⟨rfl, -⟩ := (List.append_cons_inj_of_notMem hnodup.1.1 hnodup.1.2).1
    (hwalk.symm.trans hwalk')
  refine lookupNearest_eq_some_iff.2 ⟨⟨nearer, farther, hwalk, fun a ha => ?_⟩, ?_, hname⟩
  · rw [hsame a (List.mem_append_left _ ha), hpassed a ha]
  · rw [hsame c.declaring (by simp), hbinding]

theorem Sound.lookupNearest_of_spares (h : w.Sound) (hns : ns ∈ w.made) {name : Name}
    (hrun : Spares ns.ancestors name.text w w') :
    w'.store.lookupNearest ns name = w.store.lookupNearest ns name := by
  have hmade := (h.ancestors hns).1
  cases hfound : w.store.lookupNearest ns name with
  | none =>
    rw [lookupNearest_eq_none_iff] at hfound ⊢
    intro a ha
    rw [h.binding?_of_spares (fun b hb => (hmade b hb).1) hrun ha, hfound a ha]
  | some c =>
    obtain ⟨⟨nearer, farther, hwalk, -⟩, -⟩ := lookupNearest_eq_some_iff.1 hfound
    refine h.lookupNearest_of_found hns hfound hwalk ?_
    refine Relation.ReflTransGen.mono ?_ _ _ hrun
    rintro _ _ ⟨written, hstep, hother⟩
    refine ⟨written, hstep, fun a ha => hother a ?_⟩
    rw [hwalk, List.append_cons]
    exact List.mem_append_left _ ha

end Elsewhere

/-- The walk from a namespace is its line of parents, newest first. A lookup finds nothing just when
nothing on the walk binds the name, and else the first binding there. Only what is done to the name
in the namespaces up to that one can make a difference. -/
theorem nearest_declaration_found {w : Lineage η} (h : w.Reached) {ns : Namespace}
    (hns : ns ∈ w.made) :
    (ns.ancestors.head? = some ns ∧
      (∀ n, ns.ancestors[n]? = (·.bind Namespace.parent?)^[n] (some ns)) ∧
      (∀ a ∈ ns.ancestors, a ∈ w.made) ∧ ns.ancestors.Nodup ∧
      ns.ancestors.Pairwise (fun a b => b.id < a.id) ∧ ns.ancestors.length ≤ ns.id + 1) ∧
    ∀ name : Name,
      (w.store.lookupNearest ns name = none ↔
        ∀ a ∈ ns.ancestors, w.store.binding? a name.text = none) ∧
      (∀ c, w.store.lookupNearest ns name = some c ↔
        (∃ nearer farther, ns.ancestors = nearer ++ c.declaring :: farther ∧
          ∀ a ∈ nearer, w.store.binding? a name.text = none) ∧
          w.store.binding? c.declaring name.text = some c.binding ∧ c.name = name) ∧
      (∀ c nearer farther w', w.store.lookupNearest ns name = some c →
        ns.ancestors = nearer ++ c.declaring :: farther →
        Spares (nearer ++ [c.declaring]) name.text w w' →
          w'.store.lookupNearest ns name = some c) ∧
      ∀ w', Spares ns.ancestors name.text w w' →
        w'.store.lookupNearest ns name = w.store.lookupNearest ns name := by
  have hsound := h.sound
  obtain ⟨hmade, hdescends, hlength⟩ := hsound.ancestors hns
  refine ⟨⟨head?_ancestors ns, getElem?_ancestors ns, fun a ha => (hmade a ha).1,
    hsound.nodup_ancestors hns, hdescends, hlength⟩, fun name => ?_⟩
  refine ⟨lookupNearest_eq_none_iff, fun c => lookupNearest_eq_some_iff, ?_, ?_⟩
  · intro c nearer farther w' hfound hwalk hrun
    exact hsound.lookupNearest_of_found hns hfound hwalk hrun
  · intro w' hrun
    exact hsound.lookupNearest_of_spares hns hrun

/-- A marker hides what is farther up, whatever becomes of that, and a name in a nested namespace is
of no concern to the outer one. -/
theorem nearest_declaration_found_marker :
    let base : Namespace := .root 0 "Base"
    let mid : Namespace := .child 1 "Mid" base
    let leaf : Namespace := .child 2 "Leaf" mid
    let nested : Namespace := .root 3 "Leaf::Nested"
    let name : Name := ⟨"X", 0⟩
    ∃ w w' : Lineage Unit, w.Reached ∧ w.made = [nested, leaf, mid, base] ∧
      w.store.lookupNearest leaf name = some ⟨mid, name, .autoload "x.rb"⟩ ∧
      w.store.lookupNearest nested name = none ∧
      w'.store.binding? base "X" = none ∧
      w'.store.lookupNearest leaf name = some ⟨mid, name, .autoload "x.rb"⟩ ∧
      w'.store.lookupNearest nested name = some ⟨nested, name, .value .nil⟩ := by
  intro base mid leaf nested name
  let made : List Namespace := [nested, leaf, mid, base]
  let namespaces : Store Unit :=
    ((({} : Store Unit).createRoot "Base").2.createChild "Mid" base).2.createChild "Leaf" mid
      |>.2.defineNested leaf "Nested" |>.2
  let store := ((namespaces.setConstant base "X" (.integer 1)).2.autoload mid "X" "x.rb").2
  have hreached : Reached ⟨store, made⟩ :=
    Relation.ReflTransGen.refl.tail ⟨_, .root "Base"⟩
      |>.tail ⟨_, .child "Mid" (.head _)⟩ |>.tail ⟨_, .child "Leaf" (.head _)⟩
      |>.tail ⟨_, .nested "Nested" (.head _)⟩
      |>.tail ⟨_, .set "X" (.integer 1) (.tail _ (.tail _ (.tail _ (.head _))))⟩
      |>.tail ⟨_, .autoload "X" "x.rb" (.tail _ (.tail _ (.head _)))⟩
  have hrun : Spares ([leaf] ++ [mid]) "X" ⟨store, made⟩
      ⟨((store.removeConstant base "X").2.setConstant nested "X" .nil).2, made⟩ :=
    Relation.ReflTransGen.refl.tail
      ⟨_, .remove "X" (.tail _ (.tail _ (.tail _ (.head _)))), by decide⟩
      |>.tail ⟨_, .set "X" .nil (.head _), by decide⟩
  have hmade : leaf ∈ made := .tail _ (.head _)
  obtain ⟨-, hleaf⟩ := nearest_declaration_found hreached hmade
  obtain ⟨-, hfound, hstays, -⟩ := hleaf name
  have hmarker : store.lookupNearest leaf name = some ⟨mid, name, .autoload "x.rb"⟩ :=
    (hfound _).2 ⟨⟨[leaf], [base], rfl, by decide⟩, by decide, rfl⟩
  have hstill := hstays _ [leaf] [base] _ hmarker rfl hrun
  exact ⟨_, _, hreached, rfl, hmarker, by decide, by decide, hstill, by decide⟩

end Lineage
end CallSite
