/-!
# Finite maps

A map is a list of its entries in which no key occurs twice. Only `get?` tells maps apart;
the order of the entries has no meaning.
-/
namespace CallSite

structure Dict (κ α : Type) where
  entries : List (κ × α)
  nodup : (entries.map Prod.fst).Nodup
  deriving Repr

namespace Dict

variable {κ α : Type} [DecidableEq κ]

def empty : Dict κ α := ⟨[], List.nodup_nil⟩

instance : Inhabited (Dict κ α) := ⟨empty⟩

def get? (d : Dict κ α) (k : κ) : Option α :=
  (d.entries.find? (·.1 == k)).map Prod.snd

def contains (d : Dict κ α) (k : κ) : Bool := (d.get? k).isSome

def size (d : Dict κ α) : Nat := d.entries.length

def erase (d : Dict κ α) (k : κ) : Dict κ α :=
  ⟨d.entries.filter (·.1 != k), (List.filter_sublist.map _).nodup d.nodup⟩

theorem not_mem_keys_erase (d : Dict κ α) (k : κ) : k ∉ (d.erase k).entries.map Prod.fst := by
  simp [erase]

def insert (d : Dict κ α) (k : κ) (a : α) : Dict κ α :=
  ⟨(k, a) :: (d.erase k).entries,
    List.nodup_cons.2 ⟨not_mem_keys_erase d k, (d.erase k).nodup⟩⟩

/-- Number of keys that satisfy a test. -/
def countKeys (d : Dict κ α) (p : κ → Bool) : Nat := d.entries.countP fun e => p e.1

def ofList (l : List (κ × α)) : Dict κ α := l.foldl (fun d e => d.insert e.1 e.2) empty

@[simp] theorem get?_empty (k : κ) : (empty : Dict κ α).get? k = none := rfl

theorem get?_erase (d : Dict κ α) (k j : κ) :
    (d.erase k).get? j = if j = k then none else d.get? j := by
  simp only [get?, erase, List.find?_filter]
  split
  · next h =>
    have : d.entries.find? (fun e => decide ((e.1 != k) = true ∧ (e.1 == j) = true)) = none := by
      rw [List.find?_eq_none]
      intro e _ he
      simp [h] at he
    rw [this, Option.map_none]
  · next h =>
    congr 2
    funext e
    by_cases he : e.1 = j
    · simp [he, h]
    · simp [he]

@[simp] theorem get?_erase_self (d : Dict κ α) (k : κ) : (d.erase k).get? k = none := by
  simp [get?_erase]

theorem get?_insert (d : Dict κ α) (k : κ) (a : α) (j : κ) :
    (d.insert k a).get? j = if j = k then some a else d.get? j := by
  by_cases h : j = k
  · subst h
    simp [get?, insert]
  · have hk : (k == j) = false := by simpa using Ne.symm h
    have := get?_erase d k j
    simp only [get?, insert, List.find?_cons, hk, h, if_false] at this ⊢
    exact this

@[simp] theorem get?_insert_self (d : Dict κ α) (k : κ) (a : α) :
    (d.insert k a).get? k = some a := by
  simp [get?_insert]

@[simp] theorem insert_insert (d : Dict κ α) (k : κ) (a b : α) :
    (d.insert k a).insert k b = d.insert k b := by
  simp [insert, erase, List.filter_filter]

end Dict
end CallSite
