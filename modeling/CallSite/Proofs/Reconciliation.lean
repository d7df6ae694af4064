import CallSite.Pattern.Source
import CallSite.Proofs.Spelling
import Mathlib.Data.List.Induction

/-!
# Fragments that can be joined

Whether fragments can be joined, and the encoding of the result, are settled by what fragments
there are, in whatever order. Only which complaint is made depends on the order: it is about the
first fragment that does not fit to those before it.
-/
namespace CallSite.Pattern

namespace Fragment

/-- The bytes of a UTF-8 fragment are what some text is written as. -/
def WellFormed (f : Fragment) : Prop := f.encoding = .utf8 → ∃ text, f.bytes = Utf8.encode text

def HasHighByte (f : Fragment) : Prop := ∃ b ∈ f.bytes, 0x80 ≤ b

theorem isAsciiOnly_iff {f : Fragment} : f.isAsciiOnly = true ↔ ¬ f.HasHighByte := by
  simp [isAsciiOnly, HasHighByte, isAscii]

theorem wellFormed_iff {f : Fragment} :
    f.WellFormed ↔ ¬ (f.encoding = .utf8 ∧ ¬ Utf8.isValid f.bytes = true) := by
  rw [WellFormed, ← Utf8.isValid_iff, not_and, not_not]

end Fragment

namespace Source

/-- Fragments that agree: all of them are well-formed, and those with high bytes have one encoding,
which is binary if the source is to have none. -/
structure Reconcilable (o : Options) (fragments : List Fragment) : Prop where
  wellFormed : ∀ f ∈ fragments, f.WellFormed
  common : ∀ f ∈ fragments, ∀ g ∈ fragments, f.HasHighByte → g.HasHighByte →
    f.encoding = g.encoding
  binary : o.noEncoding = true → ∀ f ∈ fragments, f.HasHighByte → f.encoding = .binary

/-- The encoding of a source that is joined from fragments which agree. -/
inductive Settles (o : Options) (fragments : List Fragment) : Encoding → Prop
  | none : o.noEncoding = true → Settles o fragments .binary
  | common {f : Fragment} : ¬ o.noEncoding = true → f ∈ fragments → f.HasHighByte →
    Settles o fragments f.encoding
  | fixed : ¬ o.noEncoding = true → (∀ f ∈ fragments, ¬ f.HasHighByte) →
    o.fixedEncoding = true → Settles o fragments .utf8
  | ascii : ¬ o.noEncoding = true → (∀ f ∈ fragments, ¬ f.HasHighByte) →
    ¬ o.fixedEncoding = true → Settles o fragments .usAscii

/-- What a fragment is refused for behind those before it: first its own bytes, then an encoding
where there is to be none, and last the encoding of the first fragment with high bytes. -/
inductive Refused (o : Options) (before : List Fragment) (f : Fragment) : PatternError → Prop
  | malformed : ¬ f.WellFormed →
    Refused o before f (.invalidMultibyte f.encoding (Utf8.lossy f.bytes))
  | forbidden : f.WellFormed → f.HasHighByte → o.noEncoding = true → f.encoding ≠ .binary →
    Refused o before f (.nonAsciiWithoutEncoding f.encoding)
  | mismatch {early late : List Fragment} {g : Fragment} : f.WellFormed → f.HasHighByte →
    ¬ (o.noEncoding = true ∧ f.encoding ≠ .binary) → before = early ++ g :: late →
    (∀ h ∈ early, ¬ h.HasHighByte) → g.HasHighByte → g.encoding ≠ f.encoding →
    Refused o before f (.encodingMismatch g.encoding f.encoding)

/-! ### Agreement -/

section Agreement

variable {o : Options} {before fragments : List Fragment} {f : Fragment}

theorem reconcilable_nil (o : Options) : Reconcilable o [] where
  wellFormed := by simp
  common := by simp
  binary := by simp

theorem Reconcilable.mono {more : List Fragment} (h : Reconcilable o more)
    (hsubset : ∀ f ∈ fragments, f ∈ more) : Reconcilable o fragments where
  wellFormed f hf := h.wellFormed f (hsubset f hf)
  common f hf g hg := h.common f (hsubset f hf) g (hsubset g hg)
  binary ho f hf := h.binary ho f (hsubset f hf)

/-- What one more fragment must satisfy. -/
theorem reconcilable_append_singleton (h : Reconcilable o before) (hf : f.WellFormed)
    (hbinary : o.noEncoding = true → f.HasHighByte → f.encoding = .binary)
    (hcommon : ∀ g ∈ before, g.HasHighByte → f.HasHighByte → g.encoding = f.encoding) :
    Reconcilable o (before ++ [f]) where
  wellFormed g hg := by
    rcases List.mem_append.1 hg with hg | hg
    · exact h.wellFormed g hg
    · rwa [List.mem_singleton.1 hg]
  common g hg g' hg' := by
    rcases List.mem_append.1 hg with hg | hg
    · rcases List.mem_append.1 hg' with hg' | hg'
      · exact h.common g hg g' hg'
      · rw [List.mem_singleton.1 hg']
        exact hcommon g hg
    · rw [List.mem_singleton.1 hg]
      rcases List.mem_append.1 hg' with hg' | hg'
      · intro hhigh hhigh'
        exact (hcommon g' hg' hhigh' hhigh).symm
      · rw [List.mem_singleton.1 hg']
        exact fun _ _ => rfl
  binary ho g hg := by
    rcases List.mem_append.1 hg with hg | hg
    · exact h.binary ho g hg
    · rw [List.mem_singleton.1 hg]
      exact hbinary ho

/-- The encoding of the first fragment with high bytes. -/
def firstHigh (fragments : List Fragment) : Option Encoding :=
  (fragments.find? (!·.isAsciiOnly)).map Fragment.encoding

theorem firstHigh_eq_none_iff :
    firstHigh fragments = none ↔ ∀ f ∈ fragments, ¬ f.HasHighByte := by
  simp [firstHigh, List.find?_eq_none, Fragment.isAsciiOnly_iff]

theorem firstHigh_eq_some_iff {e : Encoding} :
    firstHigh fragments = some e ↔ ∃ early g late, fragments = early ++ g :: late ∧
      (∀ h ∈ early, ¬ h.HasHighByte) ∧ g.HasHighByte ∧ g.encoding = e := by
  simp only [firstHigh, Option.map_eq_some_iff, List.find?_eq_some_iff_append, Bool.not_eq_true',
    ← Bool.not_eq_true, Fragment.isAsciiOnly_iff, not_not]
  constructor
  · rintro ⟨g, ⟨hhigh, early, late, hsplit, hearly⟩, he⟩
    exact ⟨early, g, late, hsplit, hearly, hhigh, he⟩
  · rintro ⟨early, g, late, hsplit, hearly, hhigh, he⟩
    exact ⟨g, ⟨hhigh, early, late, hsplit, hearly⟩, he⟩

theorem exists_of_firstHigh {e : Encoding} (h : firstHigh fragments = some e) :
    ∃ g ∈ fragments, g.HasHighByte ∧ g.encoding = e := by
  obtain ⟨early, g, late, rfl, -, hhigh, he⟩ := firstHigh_eq_some_iff.1 h
  exact ⟨g, by simp, hhigh, he⟩

theorem firstHigh_append_singleton (before : List Fragment) (f : Fragment) :
    firstHigh (before ++ [f]) =
      (firstHigh before).or (if f.isAsciiOnly then none else some f.encoding) := by
  rw [firstHigh, firstHigh, List.find?_append, Option.map_or]
  cases hf : f.isAsciiOnly with
  | true => simp [hf]
  | false => simp [hf]

theorem settles_settle (o : Options) (fragments : List Fragment) :
    Settles o fragments (settle o (firstHigh fragments)) := by
  rw [settle]
  by_cases hnone : o.noEncoding = true
  · rw [if_pos hnone]
    exact .none hnone
  rw [if_neg hnone]
  cases hfirst : firstHigh fragments with
  | some e =>
    obtain ⟨g, hg, hhigh, rfl⟩ := exists_of_firstHigh hfirst
    exact .common hnone hg hhigh
  | none =>
    have hlow := firstHigh_eq_none_iff.1 hfirst
    rw [Option.getD_none]
    by_cases hfixed : o.fixedEncoding = true
    · rw [if_pos hfixed]
      exact .fixed hnone hlow hfixed
    · rw [if_neg hfixed]
      exact .ascii hnone hlow hfixed

theorem Settles.congr {those : List Fragment} {e : Encoding} (h : Settles o fragments e)
    (hsame : ∀ f, f ∈ fragments ↔ f ∈ those) : Settles o those e := by
  cases h with
  | none hnone => exact .none hnone
  | common hnone hf hhigh => exact .common hnone ((hsame _).1 hf) hhigh
  | fixed hnone hlow hfixed => exact .fixed hnone (fun f hf => hlow f ((hsame f).2 hf)) hfixed
  | ascii hnone hlow hfixed => exact .ascii hnone (fun f hf => hlow f ((hsame f).2 hf)) hfixed

/-- Fragments that agree settle one encoding only. -/
theorem Reconcilable.settles_unique (h : Reconcilable o fragments) {e e' : Encoding}
    (he : Settles o fragments e) (he' : Settles o fragments e') : e = e' := by
  cases he with
  | none hnone =>
    cases he' with
    | none => rfl
    | common h' => contradiction
    | fixed h' => contradiction
    | ascii h' => contradiction
  | common hnone hf hhigh =>
    cases he' with
    | none h' => contradiction
    | common _ hg hhigh' => exact h.common _ hf _ hg hhigh hhigh'
    | fixed _ hlow _ => exact absurd hhigh (hlow _ hf)
    | ascii _ hlow _ => exact absurd hhigh (hlow _ hf)
  | fixed hnone hlow hfixed =>
    cases he' with
    | none h' => contradiction
    | common _ hg hhigh' => exact absurd hhigh' (hlow _ hg)
    | fixed => rfl
    | ascii _ _ h' => contradiction
  | ascii hnone hlow hfixed =>
    cases he' with
    | none h' => contradiction
    | common _ hg hhigh' => exact absurd hhigh' (hlow _ hg)
    | fixed _ _ h' => contradiction
    | ascii => rfl

end Agreement

/-! ### One fragment more -/

section Step

variable {o : Options} {before : List Fragment} {f : Fragment} {e : PatternError}

theorem agree_of_reconcilable (h : Reconcilable o (before ++ [f])) :
    agree o (firstHigh before) f = .ok (firstHigh (before ++ [f])) := by
  have hf : f ∈ before ++ [f] := by simp
  rw [agree.eq_def, if_neg (Fragment.wellFormed_iff.1 (h.wellFormed f hf)),
    firstHigh_append_singleton]
  by_cases hascii : f.isAsciiOnly = true
  · simp [hascii]
  · have hhigh : f.HasHighByte := by rwa [Fragment.isAsciiOnly_iff, not_not] at hascii
    have hbinary : ¬ (o.noEncoding = true ∧ f.encoding ≠ .binary) :=
      fun hnone => hnone.2 (h.binary hnone.1 f hf hhigh)
    rw [if_neg hascii, if_neg hascii, if_neg hbinary]
    cases hfirst : firstHigh before with
    | none => rfl
    | some seen =>
      obtain ⟨g, hg, hhigh', rfl⟩ := exists_of_firstHigh hfirst
      exact if_pos (h.common g (by simp [hg]) f hf hhigh' hhigh)

theorem agree_of_refused (h : Refused o before f e) : agree o (firstHigh before) f = .error e := by
  rw [agree.eq_def]
  cases h with
  | malformed hbad =>
    rw [Fragment.wellFormed_iff, not_not] at hbad
    rw [if_pos hbad]
  | forbidden hgood hhigh hnone hbinary =>
    rw [← not_not (a := f.HasHighByte), ← Fragment.isAsciiOnly_iff] at hhigh
    rw [if_neg (Fragment.wellFormed_iff.1 hgood), if_neg hhigh, if_pos ⟨hnone, hbinary⟩]
  | mismatch hgood hhigh hallowed hsplit hearly hhigh' hne =>
    have hfirst := firstHigh_eq_some_iff.2 ⟨_, _, _, hsplit, hearly, hhigh', rfl⟩
    rw [← not_not (a := f.HasHighByte), ← Fragment.isAsciiOnly_iff] at hhigh
    rw [if_neg (Fragment.wellFormed_iff.1 hgood), if_neg hhigh, if_neg hallowed, hfirst]
    exact if_neg hne

/-- A fragment that does not fit to those before it is refused for one reason or another. -/
theorem exists_refused (h : Reconcilable o before) (hbad : ¬ Reconcilable o (before ++ [f])) :
    ∃ e, Refused o before f e := by
  by_cases hgood : f.WellFormed
  swap
  · exact ⟨_, .malformed hgood⟩
  by_cases hhigh : f.HasHighByte
  swap
  · exact absurd (reconcilable_append_singleton h hgood (fun _ hf => absurd hf hhigh)
      fun _ _ _ hf => absurd hf hhigh) hbad
  by_cases hforbidden : o.noEncoding = true ∧ f.encoding ≠ .binary
  · exact ⟨_, .forbidden hgood hhigh hforbidden.1 hforbidden.2⟩
  have hbinary : o.noEncoding = true → f.HasHighByte → f.encoding = .binary :=
    fun hnone _ => Decidable.of_not_not fun hne => hforbidden ⟨hnone, hne⟩
  cases hfirst : firstHigh before with
  | none =>
    have hlow := firstHigh_eq_none_iff.1 hfirst
    exact absurd (reconcilable_append_singleton h hgood hbinary
      fun g hg hhigh' _ => absurd hhigh' (hlow g hg)) hbad
  | some seen =>
    obtain ⟨early, g, late, hsplit, hearly, hhigh', -⟩ := firstHigh_eq_some_iff.1 hfirst
    refine ⟨_, .mismatch hgood hhigh hforbidden hsplit hearly hhigh' fun heq => hbad ?_⟩
    have hg : g ∈ before := by simp [hsplit]
    exact reconcilable_append_singleton h hgood hbinary
      fun g' hg' hhigh'' _ => (h.common g' hg' g hg hhigh'' hhigh').trans heq

end Step

/-! ### All fragments -/

section Run

variable {o : Options} {before fragments after : List Fragment} {f : Fragment} {e : PatternError}

theorem join_append (j : Joined) (before after : List Fragment) :
    join o j (before ++ after) = (do join o (← join o j before) after) := by
  induction before generalizing j with
  | nil => rfl
  | cons f before ih =>
    rw [List.cons_append, join, join]
    cases agree o j.agreed f with
    | error e => rfl
    | ok agreed => exact ih _

/-- Fragments that agree are joined in order. -/
theorem join_of_reconcilable (h : Reconcilable o fragments) :
    join o {} fragments = .ok ⟨fragments.flatMap Fragment.bytes, firstHigh fragments⟩ := by
  induction fragments using List.reverseRecOn with
  | nil => rfl
  | append_singleton before f ih =>
    have hbefore := ih (h.mono fun g hg => List.mem_append_left _ hg)
    rw [join_append, hbefore]
    simp only [Bind.bind, Except.bind, join, agree_of_reconcilable h]
    simp [List.flatMap_append]

theorem join_of_refused (h : Reconcilable o before) (hrefused : Refused o before f e)
    (after : List Fragment) : join o {} (before ++ f :: after) = .error e := by
  rw [join_append, join_of_reconcilable h]
  simp only [Bind.bind, Except.bind, join, agree_of_refused hrefused]

/-- There is a first fragment that does not fit to those before it. -/
theorem exists_first_misfit (h : ¬ Reconcilable o fragments) :
    ∃ before f after, fragments = before ++ f :: after ∧ Reconcilable o before ∧
      ¬ Reconcilable o (before ++ [f]) := by
  induction fragments using List.reverseRecOn with
  | nil => exact absurd (reconcilable_nil o) h
  | append_singleton rest f ih =>
    by_cases hrest : Reconcilable o rest
    · exact ⟨rest, f, [], rfl, hrest, h⟩
    · obtain ⟨before, g, after, rfl, hbefore, hg⟩ := ih hrest
      exact ⟨before, g, after ++ [f], by simp, hbefore, hg⟩

theorem ofFragments_of_reconcilable (h : Reconcilable o fragments) :
    ofFragments o fragments =
      .ok ⟨fragments.flatMap Fragment.bytes, settle o (firstHigh fragments)⟩ := by
  rw [ofFragments, join_of_reconcilable h]
  rfl

theorem ofFragments_of_refused (h : Reconcilable o before) (hrefused : Refused o before f e)
    (after : List Fragment) : ofFragments o (before ++ f :: after) = .error e := by
  rw [ofFragments, join_of_refused h hrefused]
  rfl

theorem ofFragments_of_not_reconcilable (h : ¬ Reconcilable o fragments) :
    ∃ e before f after, ofFragments o fragments = .error e ∧ fragments = before ++ f :: after ∧
      Reconcilable o before ∧ ¬ Reconcilable o (before ++ [f]) ∧ Refused o before f e := by
  obtain ⟨before, f, after, rfl, hbefore, hf⟩ := exists_first_misfit h
  obtain ⟨e, hrefused⟩ := exists_refused hbefore hf
  exact ⟨e, before, f, after, ofFragments_of_refused hbefore hrefused after, rfl, hbefore, hf,
    hrefused⟩

theorem exists_ofFragments_iff :
    (∃ s, ofFragments o fragments = .ok s) ↔ Reconcilable o fragments := by
  constructor
  · rintro ⟨s, hs⟩
    by_contra h
    obtain ⟨e, -, -, -, he, -⟩ := ofFragments_of_not_reconcilable h
    rw [hs] at he
    cases he
  · exact fun h => ⟨_, ofFragments_of_reconcilable h⟩

theorem ofFragments_eq_ok {s : Source} (h : ofFragments o fragments = .ok s) :
    Reconcilable o fragments ∧ s.bytes = fragments.flatMap Fragment.bytes ∧
      Settles o fragments s.encoding := by
  have hagree := exists_ofFragments_iff.1 ⟨s, h⟩
  rw [ofFragments_of_reconcilable hagree] at h
  cases h
  exact ⟨hagree, rfl, settles_settle o fragments⟩

/-- Fragments are joined exactly if they agree. Their bytes then stand in order, in the encoding
that they settle. Otherwise the complaint is about the first fragment with which they no longer
agree. The same fragments in another order are joined in the same encoding, or not either. -/
theorem joined_exactly_if_reconcilable (o : Options) (fragments : List Fragment) :
    ((∃ s, ofFragments o fragments = .ok s) ↔ Reconcilable o fragments) ∧
      (∀ s, ofFragments o fragments = .ok s →
        s.bytes = fragments.flatMap Fragment.bytes ∧ Settles o fragments s.encoding) ∧
      (∀ e, ofFragments o fragments = .error e ↔ ∃ before f after,
        fragments = before ++ f :: after ∧ Reconcilable o before ∧
          ¬ Reconcilable o (before ++ [f]) ∧ Refused o before f e) ∧
      ∀ shuffled, fragments.Perm shuffled → ∀ encoding,
        (∃ s, ofFragments o fragments = .ok s ∧ s.encoding = encoding) ↔
          ∃ s, ofFragments o shuffled = .ok s ∧ s.encoding = encoding := by
  refine ⟨exists_ofFragments_iff, fun s hs => (ofFragments_eq_ok hs).2, ?_, ?_⟩
  · intro e
    constructor
    · intro he
      have hbad : ¬ Reconcilable o fragments := by
        intro h
        rw [ofFragments_of_reconcilable h] at he
        cases he
      obtain ⟨e', before, f, after, he', hrest⟩ := ofFragments_of_not_reconcilable hbad
      rw [he] at he'
      cases he'
      exact ⟨before, f, after, hrest⟩
    · rintro ⟨before, f, after, rfl, hbefore, -, hrefused⟩
      exact ofFragments_of_refused hbefore hrefused after
  · have hshuffle {these those : List Fragment} (hperm : these.Perm those) {s : Source}
        (hs : ofFragments o these = .ok s) :
        ∃ s', ofFragments o those = .ok s' ∧ s'.encoding = s.encoding := by
      obtain ⟨hagree, -, hsettles⟩ := ofFragments_eq_ok hs
      have hthose := hagree.mono fun f hf => hperm.mem_iff.2 hf
      obtain ⟨s', hs'⟩ := exists_ofFragments_iff.2 hthose
      have hsettles' := (ofFragments_eq_ok hs').2.2
      exact ⟨s', hs', hthose.settles_unique hsettles' (hsettles.congr fun f => hperm.mem_iff)⟩
    intro shuffled hperm encoding
    constructor
    · rintro ⟨s, hs, rfl⟩
      exact hshuffle hperm hs
    · rintro ⟨s, hs, rfl⟩
      exact hshuffle hperm.symm hs

end Run

end Source
end CallSite.Pattern
