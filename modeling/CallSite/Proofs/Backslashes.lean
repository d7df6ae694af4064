import CallSite.Proofs.SevenBit
import Mathlib.Algebra.Ring.Parity

/-!
# Where an escape begins

A backslash that another one takes begins no escape: only one at the end of an odd run does. The
scan for `\u` goes by that. The scan for high bytes does not, and takes every `\xHH` at its word.
-/
namespace CallSite.Pattern.Scan

/-- The run of backslashes that ends at `i` is odd, so the last one of them is not taken. -/
def StartsEscape (bs : Bytes) (i : Nat) : Prop := Odd (closingRun (bs.take (i + 1)))

/-- A `u` stands right behind an odd run of backslashes. -/
def NamesCharacter (bs : Bytes) : Prop :=
  ∃ i, bs[i]? = some letterU ∧ Odd (closingRun (bs.take i))

/-- The same in the part of a source that is behind `before`, where a run may have begun. -/
def NamesBehind (before bs : Bytes) : Prop :=
  ∃ i, bs[i]? = some letterU ∧ Odd (closingRun (before ++ bs.take i))

/-! ### Names of characters -/

section Names

variable {before bs rest : Bytes} {a : UInt8}

theorem namesBehind_nil (before : Bytes) : ¬ NamesBehind before [] := by
  rintro ⟨i, hu, -⟩
  cases hu

theorem namesBehind_cons : NamesBehind before (a :: rest) ↔
    (a = letterU ∧ Odd (closingRun before)) ∨ NamesBehind (before ++ [a]) rest := by
  constructor
  · rintro ⟨i, hu, hodd⟩
    cases i with
    | zero =>
      rw [List.take_zero, List.append_nil] at hodd
      exact .inl ⟨Option.some.inj hu, hodd⟩
    | succ i =>
      rw [List.take_succ_cons, List.append_cons] at hodd
      exact .inr ⟨i, hu, hodd⟩
  · rintro (⟨rfl, hodd⟩ | ⟨i, hu, hodd⟩)
    · refine ⟨0, rfl, ?_⟩
      rwa [List.take_zero, List.append_nil]
    · refine ⟨i + 1, hu, ?_⟩
      rwa [List.take_succ_cons, List.append_cons]

theorem namesBehind_cons_of_even (heven : Even (closingRun before)) :
    NamesBehind before (a :: rest) ↔ NamesBehind (before ++ [a]) rest := by
  rw [namesBehind_cons, or_iff_right]
  rintro ⟨-, hodd⟩
  exact Nat.not_even_iff_odd.2 hodd heven

/-- The scan is between two escapes wherever the run before it is even. -/
theorem hasUnicodeEscape_iff_namesBehind (heven : Even (closingRun before)) :
    hasUnicodeEscape bs = true ↔ NamesBehind before bs := by
  induction bs using hasUnicodeEscape.induct generalizing before with
  | case1 => simp [hasUnicodeEscape, namesBehind_nil]
  | case2 a => simp [hasUnicodeEscape, namesBehind_cons_of_even heven, namesBehind_nil]
  | case3 b rest ih =>
    have hodd : Odd (closingRun (before ++ [backslash])) := by
      rw [closingRun_append_backslash]
      exact heven.add_one
    have heven' : Even (closingRun (before ++ [backslash] ++ [b])) := by
      by_cases hb : b = backslash
      · rw [hb, closingRun_append_backslash]
        exact hodd.add_one
      · rw [closingRun_append_of_ne _ hb]
        exact Even.zero
    rw [namesBehind_cons_of_even heven, namesBehind_cons, ← ih heven', hasUnicodeEscape, if_pos rfl]
    simp [hodd]
  | case4 a b rest ha ih =>
    have heven' : Even (closingRun (before ++ [a])) := by
      rw [closingRun_append_of_ne _ ha]
      exact Even.zero
    rw [namesBehind_cons_of_even heven, ← ih heven', hasUnicodeEscape, if_neg ha]

/-- Stepping over pairs finds the names of characters and nothing else. -/
theorem hasUnicodeEscape_iff : hasUnicodeEscape bs = true ↔ NamesCharacter bs :=
  hasUnicodeEscape_iff_namesBehind (show Even (closingRun []) from Even.zero)

/-- A name of a character stands in the first part of a source, or it ends in the second. -/
theorem namesCharacter_append {after : Bytes} :
    NamesCharacter (before ++ after) ↔ NamesCharacter before ∨ NamesBehind before after := by
  constructor
  · rintro ⟨i, hu, hodd⟩
    by_cases hi : i < before.length
    · rw [List.getElem?_append_left hi] at hu
      rw [List.take_append_of_le_length (Nat.le_of_lt hi)] at hodd
      exact .inl ⟨i, hu, hodd⟩
    · rw [Nat.not_lt] at hi
      rw [List.getElem?_append_right hi] at hu
      rw [List.take_append, List.take_of_length_le hi] at hodd
      exact .inr ⟨i - before.length, hu, hodd⟩
  · rintro (⟨i, hu, hodd⟩ | ⟨i, hu, hodd⟩)
    · have hi : i < before.length := (List.getElem?_eq_some_iff.1 hu).1
      refine ⟨i, ?_, ?_⟩
      · rwa [List.getElem?_append_left hi]
      · rwa [List.take_append_of_le_length (Nat.le_of_lt hi)]
    · refine ⟨before.length + i, ?_, ?_⟩
      · rwa [List.getElem?_append_right (Nat.le_add_right _ _), Nat.add_sub_cancel_left]
      · rwa [List.take_length_add_append]

/-- The backslashes end the first part, and the `u` begins the second. -/
theorem namesBehind_of_head {after : Bytes} (hodd : Odd (closingRun before))
    (hu : after.head? = some letterU) : NamesBehind before after := by
  refine ⟨0, ?_, ?_⟩
  · rwa [← List.head?_eq_getElem?]
  · rwa [List.take_zero, List.append_nil]

end Names

/-! ### What the scan for high bytes counts -/

/-- A high byte stands in the source, or is denoted by an escape that begins where it seems to. -/
def DenotesHigh (bs : Bytes) : Prop :=
  (∃ b ∈ bs, 0x80 ≤ b) ∨ ∃ i, HighEscapeAt bs i ∧ StartsEscape bs i

/-- What reads like the escape of a high byte at `i` is text behind an escaped backslash. -/
def TakenAt (bs : Bytes) (i : Nat) : Prop := HighEscapeAt bs i ∧ ¬ StartsEscape bs i

section Counts

variable {bs : Bytes}

theorem isSevenBit_eq_false_iff :
    isSevenBit bs = false ↔ (∃ b ∈ bs, 0x80 ≤ b) ∨ ∃ i, HighEscapeAt bs i := by
  rw [← Bool.not_eq_true, isSevenBit_iff, AllLow, Classical.not_and_iff_not_or_not]
  simp only [not_forall, UInt8.not_lt, not_not, exists_prop]

theorem exists_highEscapeAt_iff : (∃ i, HighEscapeAt bs i) ↔
    (∃ i, HighEscapeAt bs i ∧ StartsEscape bs i) ∨ ∃ i, TakenAt bs i := by
  constructor
  · rintro ⟨i, hi⟩
    by_cases hstarts : StartsEscape bs i
    · exact .inl ⟨i, hi, hstarts⟩
    · exact .inr ⟨i, hi, hstarts⟩
  · rintro (⟨i, hi, -⟩ | ⟨i, hi, -⟩)
    · exact ⟨i, hi⟩
    · exact ⟨i, hi⟩

/-- A `u` that is named stands behind the place where its escape begins. -/
theorem namesCharacter_iff :
    NamesCharacter bs ↔ ∃ i, StartsEscape bs i ∧ bs[i + 1]? = some letterU := by
  constructor
  · rintro ⟨i, hu, hodd⟩
    cases i with
    | zero => exact absurd hodd Nat.not_odd_zero
    | succ i => exact ⟨i, hodd, hu⟩
  · rintro ⟨i, hodd, hu⟩
    exact ⟨i + 1, hu, hodd⟩

end Counts

/-- The scan for high bytes finds what is denoted, and also what only reads like an escape because
the backslash before it is escaped. So it answers as it should except where there is such text and
no high byte is denoted. The scan for names of characters passes over escaped backslashes. -/
theorem taken_escapes_count (bs : Bytes) :
    (isSevenBit bs = false ↔ DenotesHigh bs ∨ ∃ i, TakenAt bs i) ∧
      ((isSevenBit bs = false ↔ DenotesHigh bs) ↔ DenotesHigh bs ∨ ∀ i, ¬ TakenAt bs i) ∧
      (hasUnicodeEscape bs = true ↔ ∃ i, StartsEscape bs i ∧ bs[i + 1]? = some letterU) := by
  have hscan : isSevenBit bs = false ↔ DenotesHigh bs ∨ ∃ i, TakenAt bs i := by
    rw [isSevenBit_eq_false_iff, exists_highEscapeAt_iff, DenotesHigh, or_assoc]
  refine ⟨hscan, ?_, hasUnicodeEscape_iff.trans namesCharacter_iff⟩
  rw [hscan, or_iff_left_iff_imp, ← not_exists, Classical.or_iff_not_imp_right, not_not]

/-- An escaped backslash and the text `x80`: no byte is high, and the scan says that one is. -/
theorem taken_escapes_count_text :
    let bs : Bytes := [0x5C, 0x5C, 0x78, 0x38, 0x30]
    TakenAt bs 1 ∧ ¬ DenotesHigh bs ∧ isSevenBit bs = false := by
  intro bs
  have hstarts : ¬ StartsEscape bs 1 := by
    rw [StartsEscape]
    decide
  have htaken : TakenAt bs 1 :=
    ⟨⟨0x38, 0x30, 8, 0, rfl, .inl ⟨by decide, rfl⟩, le_rfl, .inl ⟨by decide, rfl⟩⟩, hstarts⟩
  refine ⟨htaken, ?_, (taken_escapes_count bs).1.2 (.inr ⟨1, htaken⟩)⟩
  rintro (⟨b, hb, hhigh⟩ | ⟨i, ⟨high, low, h, l, htake, -⟩, hstarts'⟩)
  · have hlow : ∀ b ∈ bs, ¬ 0x80 ≤ b := by simp [bs]
    exact hlow b hb hhigh
  · match i with
    | 0 => cases htake
    | 1 => exact hstarts hstarts'
    | i + 2 =>
      have hlength := congrArg List.length htake
      rw [List.length_take, List.length_drop] at hlength
      change min 4 (5 - (i + 2)) = 4 at hlength
      omega

end CallSite.Pattern.Scan
