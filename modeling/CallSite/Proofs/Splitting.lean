import CallSite.Proofs.CommandLine
import CallSite.Proofs.FirstKeys
import CallSite.Proofs.LineFilter
import CallSite.Proofs.Malformed

/-!
# Fragments that are cut into parts

Where a text is cut into fragments of one encoding makes no difference to what they are joined to,
as long as they are joined at all. Only a cut through a letter leaves parts that are not. So the
filter does for its arguments what it does for their concatenation, although the cache of a site
tells the two apart.
-/
namespace CallSite.Pattern

namespace Fragment

/-- The parts make up the whole, one after another, and are in its encoding. -/
structure Cut (whole : Fragment) (parts : List Fragment) : Prop where
  bytes : whole.bytes = parts.flatMap Fragment.bytes
  encoding : ∀ f ∈ parts, f.encoding = whole.encoding

section Cut

variable {whole : Fragment} {parts : List Fragment}

theorem Cut.hasHighByte_iff (h : whole.Cut parts) :
    whole.HasHighByte ↔ ∃ f ∈ parts, f.HasHighByte := by
  simp only [HasHighByte, h.bytes, List.mem_flatMap]
  constructor
  · rintro ⟨b, ⟨f, hf, hb⟩, hhigh⟩
    exact ⟨f, hf, b, hb, hhigh⟩
  · rintro ⟨f, hf, b, hb, hhigh⟩
    exact ⟨b, ⟨f, hf, hb⟩, hhigh⟩

/-- What is cut into letters is made of letters. -/
theorem Cut.wellFormed (h : whole.Cut parts) (hparts : ∀ f ∈ parts, f.WellFormed) :
    whole.WellFormed := by
  intro hutf8
  rw [h.bytes]
  exact Encoding.allows_utf8_flatMap fun f hf => hparts f hf ((h.encoding f hf).trans hutf8)

/-- A part with high bytes stands for the whole. -/
theorem Cut.exists_part (h : whole.Cut parts) (hhigh : whole.HasHighByte) :
    ∃ f ∈ parts, f.HasHighByte ∧ f.encoding = whole.encoding := by
  obtain ⟨f, hf, hhigh'⟩ := h.hasHighByte_iff.1 hhigh
  exact ⟨f, hf, hhigh', h.encoding f hf⟩

end Cut

end Fragment

namespace Source

/-! ### Joining the parts and the whole -/

section Cut

variable {o : Options} {whole : Fragment} {before parts after : List Fragment} {source : Source}

theorem firstHigh_append (these those : List Fragment) :
    firstHigh (these ++ those) = (firstHigh these).or (firstHigh those) := by
  rw [firstHigh, firstHigh, firstHigh, List.find?_append, Option.map_or]

theorem firstHigh_of_cut (h : whole.Cut parts) : firstHigh parts = firstHigh [whole] := by
  cases hfirst : firstHigh parts with
  | none =>
    have hlow := firstHigh_eq_none_iff.1 hfirst
    refine (firstHigh_eq_none_iff.2 (List.forall_mem_singleton.2 fun hhigh => ?_)).symm
    obtain ⟨f, hf, hhigh'⟩ := h.hasHighByte_iff.1 hhigh
    exact hlow f hf hhigh'
  | some e =>
    obtain ⟨f, hf, hhigh, rfl⟩ := exists_of_firstHigh hfirst
    have hwhole := h.hasHighByte_iff.2 ⟨f, hf, hhigh⟩
    exact (firstHigh_eq_some_iff.2
      ⟨[], whole, [], rfl, by simp, hwhole, (h.encoding f hf).symm⟩).symm

/-- What has high bytes where the whole stands has them where its parts do, in one encoding. -/
theorem exists_mem_of_cut (h : whole.Cut parts) {f : Fragment} (hf : f ∈ before ++ whole :: after)
    (hhigh : f.HasHighByte) :
    ∃ g ∈ before ++ parts ++ after, g.HasHighByte ∧ g.encoding = f.encoding := by
  simp only [List.mem_append, List.mem_cons] at hf ⊢
  rcases hf with hf | rfl | hf
  · exact ⟨f, .inl (.inl hf), hhigh, rfl⟩
  · obtain ⟨g, hg, hhigh', hencoding⟩ := h.exists_part hhigh
    exact ⟨g, .inl (.inr hg), hhigh', hencoding⟩
  · exact ⟨f, .inr hf, hhigh, rfl⟩

theorem Reconcilable.of_cut (h : whole.Cut parts)
    (hagree : Reconcilable o (before ++ parts ++ after)) :
    Reconcilable o (before ++ whole :: after) where
  wellFormed f hf := by
    rw [List.mem_append, List.mem_cons] at hf
    rcases hf with hf | rfl | hf
    · exact hagree.wellFormed f (by simp [hf])
    · exact h.wellFormed fun g hg => hagree.wellFormed g (by simp [hg])
    · exact hagree.wellFormed f (by simp [hf])
  common f hf g hg hhigh hhigh' := by
    obtain ⟨f', hf', hfhigh, hfencoding⟩ := exists_mem_of_cut h hf hhigh
    obtain ⟨g', hg', hghigh, hgencoding⟩ := exists_mem_of_cut h hg hhigh'
    rw [← hfencoding, ← hgencoding]
    exact hagree.common f' hf' g' hg' hfhigh hghigh
  binary ho f hf hhigh := by
    obtain ⟨g, hg, hhigh', hencoding⟩ := exists_mem_of_cut h hf hhigh
    rw [← hencoding]
    exact hagree.binary ho g hg hhigh'

/-- Parts that can be joined are joined to the same source as the whole. -/
theorem ofFragments_of_cut (h : whole.Cut parts)
    (hjoined : ofFragments o (before ++ parts ++ after) = .ok source) :
    ofFragments o (before ++ whole :: after) = .ok source := by
  have hagree := exists_ofFragments_iff.1 ⟨source, hjoined⟩
  rw [ofFragments_of_reconcilable hagree] at hjoined
  have hfirst : firstHigh (before ++ whole :: after) = firstHigh (before ++ parts ++ after) := by
    rw [List.append_cons, firstHigh_append, firstHigh_append, firstHigh_append, firstHigh_append,
      firstHigh_of_cut h]
  have hbytes : (before ++ whole :: after).flatMap Fragment.bytes =
      (before ++ parts ++ after).flatMap Fragment.bytes := by
    simp [h.bytes]
  rw [ofFragments_of_reconcilable (hagree.of_cut h), hfirst, hbytes, hjoined]

end Cut

/-! ### UTF-8 alone -/

/-- All fragments are in UTF-8 and valid. -/
def Utf8Only (fragments : List Fragment) : Prop :=
  ∀ f ∈ fragments, f.encoding = .utf8 ∧ Utf8.isValid f.bytes = true

instance (fragments : List Fragment) : Decidable (Utf8Only fragments) :=
  inferInstanceAs (Decidable (∀ f ∈ fragments, _))

section Utf8Only

variable {o : Options} {fragments : List Fragment} {whole : Fragment}

theorem Utf8Only.wellFormed (h : Utf8Only fragments) : ∀ f ∈ fragments, f.WellFormed :=
  fun f hf _ => Utf8.isValid_iff.1 (h f hf).2

/-- All that can be wrong is that there is to be no encoding. -/
theorem Utf8Only.reconcilable_iff (h : Utf8Only fragments) :
    Reconcilable o fragments ↔ ¬ (o.noEncoding = true ∧ ∃ f ∈ fragments, f.HasHighByte) := by
  constructor
  · rintro hagree ⟨hnone, f, hf, hhigh⟩
    have hbinary := hagree.binary hnone f hf hhigh
    rw [(h f hf).1] at hbinary
    cases hbinary
  · intro hlow
    refine ⟨h.wellFormed, fun f hf g hg _ _ => (h f hf).1.trans (h g hg).1.symm, ?_⟩
    exact fun hnone f hf hhigh => absurd ⟨hnone, f, hf, hhigh⟩ hlow

theorem Utf8Only.ofFragments_of_not_reconcilable (h : Utf8Only fragments)
    (hbad : ¬ Reconcilable o fragments) :
    ofFragments o fragments = .error (.nonAsciiWithoutEncoding .utf8) := by
  obtain ⟨e, before, f, after, he, rfl, -, -, hrefused⟩ :=
    Source.ofFragments_of_not_reconcilable hbad
  have hf : f ∈ before ++ f :: after := by simp
  rw [he]
  cases hrefused with
  | malformed hmalformed => exact absurd (h.wellFormed f hf) hmalformed
  | forbidden => rw [(h f hf).1]
  | @mismatch early late g _ _ _ hsplit _ _ hne =>
    have hg : g ∈ before ++ f :: after := by simp [hsplit]
    exact absurd ((h g hg).1.trans (h f hf).1.symm) hne

/-- UTF-8 may be cut between any two letters, also if it is then refused. -/
theorem Utf8Only.ofFragments_eq (h : Utf8Only fragments) (hcut : whole.Cut fragments)
    (hutf8 : whole.encoding = .utf8) : ofFragments o fragments = ofFragments o [whole] := by
  have hwhole : Utf8Only [whole] := by
    refine List.forall_mem_singleton.2 ⟨hutf8, Utf8.isValid_iff.2 ?_⟩
    exact hcut.wellFormed h.wellFormed hutf8
  by_cases hagree : Reconcilable o fragments
  · have hjoined := ofFragments_of_reconcilable hagree
    have hsame : ofFragments o ([] ++ fragments ++ []) = ofFragments o fragments := by simp
    exact hjoined.trans (ofFragments_of_cut hcut (hsame.trans hjoined)).symm
  · have hbad : ¬ Reconcilable o [whole] := by
      simp only [hwhole.reconcilable_iff, not_not, List.mem_singleton, exists_eq_left,
        hcut.hasHighByte_iff]
      rwa [h.reconcilable_iff, not_not] at hagree
    rw [h.ofFragments_of_not_reconcilable hagree, hwhole.ofFragments_of_not_reconcilable hbad]

end Utf8Only

end Source

section Compiling

variable {σ : Type} {compile : Compiler σ} {o : Options} {whole : Fragment}
  {before parts after : List Fragment} {template : Template} {s s' : σ}

theorem compileFragments_of_cut (h : whole.Cut parts)
    (hcompiled : compileFragments compile o (before ++ parts ++ after) s = .ok template s') :
    compileFragments compile o (before ++ whole :: after) s = .ok template s' := by
  obtain ⟨source, compiled, hjoined, hcompile, htemplate⟩ :=
    compileFragments_eq_ok_iff.1 hcompiled
  exact compileFragments_eq_ok_iff.2
    ⟨source, compiled, Source.ofFragments_of_cut h hjoined, hcompile, htemplate⟩

theorem compileFragments_of_utf8 (h : Source.Utf8Only parts) (hcut : whole.Cut parts)
    (hutf8 : whole.encoding = .utf8) :
    compileFragments compile o parts = compileFragments compile o [whole] := by
  rw [compileFragments, compileFragments, h.ofFragments_eq hcut hutf8]

/-- To a cache, the parts are the whole only if there is one of them. -/
theorem matching_cut_iff (hcut : whole.Cut parts) :
    CacheKey.matching parts [whole] = true ↔ parts.length = 1 := by
  rw [LawfulCacheKey.matching_eq, Fragment.contentEq_iff]
  constructor
  · intro h
    simpa using congrArg List.length h
  · intro h
    obtain ⟨f, rfl⟩ := List.length_eq_one_iff.1 h
    have hencoding := hcut.encoding f (List.mem_singleton_self f)
    simp [Fragment.text, hcut.bytes, hencoding]

end Compiling

end CallSite.Pattern

namespace CallSite.Filter

open Pattern

/-! ### Arguments -/

section Arguments

theorem bytes_fragments (texts : List String) :
    (fragments texts).map Fragment.bytes = texts.map Utf8.encode :=
  List.ext_getElem (by simp [fragments]) (by simp [fragments, Fragment.bytes])

theorem utf8Only_fragments (texts : List String) : Source.Utf8Only (fragments texts) := by
  intro f hf
  obtain ⟨i, hi, rfl⟩ := List.mem_mapIdx.1 hf
  exact ⟨rfl, Utf8.isValid_iff.2 ⟨texts[i], rfl⟩⟩

theorem encode_join (texts : List String) :
    Utf8.encode (String.join texts) = texts.flatMap Utf8.encode := by
  induction texts with
  | nil => rfl
  | cons text texts ih => rw [String.join_cons, Utf8.encode_append, ih, List.flatMap_cons]

theorem cut_fragments (texts : List String) (tag : Nat) :
    Fragment.Cut ⟨⟨Utf8.encode (String.join texts), tag⟩, .utf8⟩ (fragments texts) where
  bytes := by
    rw [List.flatMap_def, bytes_fragments, ← List.flatMap_def]
    exact encode_join texts
  encoding f hf := (utf8Only_fragments texts f hf).1

/-- Arguments compile to what their concatenation compiles to. -/
theorem compiled_join (engine : Engine) (o : Options) (texts : List String) :
    compiled engine o texts = compiled engine o [String.join texts] := by
  rw [compiled, compiled,
    compileFragments_of_utf8 (utf8Only_fragments texts) (cut_fragments texts 0) rfl]
  rfl

theorem compiled_append_join (engine : Engine) (o : Options) (words texts : List String) :
    compiled engine o (words ++ texts) = compiled engine o (words ++ [String.join texts]) := by
  rw [compiled_join engine o (words ++ texts),
    compiled_join engine o (words ++ [String.join texts])]
  simp [String.join_append]

/-- The filter looks at its fragments only to compile them. -/
theorem filter_of_compiled_eq {lib : Libraries} {i : Invocation} {texts : List String}
    (h : ∀ o, compiled lib.engine o i.fragments = compiled lib.engine o texts)
    (s : Surroundings) : filter lib s i = filter lib s { i with fragments := texts } := by
  have hlimits : limits lib s { i with fragments := texts } = limits lib s i := rfl
  have hinput : inputOf s { i with fragments := texts } = inputOf s i := rfl
  rw [filter, filter, prepare, prepare, hlimits, hinput]
  cases limits lib s i with
  | error e => rfl
  | ok l =>
    cases Options.parse i.flags with
    | error e => rfl
    | ok o =>
      change (((buildPattern lib.engine l o i.fragments).1.mapError _) >>= _) =
        (((buildPattern lib.engine l o texts).1.mapError _) >>= _)
      cases hcompiled : compiled lib.engine o i.fragments with
      | error e =>
        obtain ⟨reason, rfl⟩ := failure_of_compiled lib.engine o i.fragments hcompiled
        rw [buildPattern_of_error hcompiled, buildPattern_of_error ((h o).symm.trans hcompiled)]
      | ok template =>
        rw [buildPattern_of_ok hcompiled, buildPattern_of_ok ((h o).symm.trans hcompiled)]
        cases inputOf s i with
        | error e => rfl
        | ok text =>
          change Except.ok (output _ (matching _ (lines text)).1) =
            Except.ok (output _ (matching _ (lines text)).1)
          rw [matching_eq, matching_eq]
          rfl

/-- Behind a double hyphen, arguments do what their concatenation does. -/
theorem run_join (lib : Libraries) (s : Surroundings) (groups : List Group)
    {texts : List String} (h : texts ≠ []) :
    run lib s (spell groups ++ "--" :: texts) =
      run lib s (spell groups ++ ["--", String.join texts]) := by
  have hread (words : List String) (hwords : words ≠ []) :
      readArguments (spell groups ++ "--" :: words) =
        .ok (.filter ((partsOf groups).addFragments words)) := by
    rw [readArguments_of_stops (.hyphens words)]
    exact Invocation.complete_of_fragments (by simp [Invocation.addFragments, hwords])
  have hsame : filter lib s ((partsOf groups).addFragments texts) =
      filter lib s ((partsOf groups).addFragments [String.join texts]) :=
    filter_of_compiled_eq (fun o => compiled_append_join lib.engine o _ texts) s
  rw [run, run, hread texts h, hread _ (List.cons_ne_nil _ _)]
  simp only [hsame]

end Arguments

/-- Fragments that compile may be put together if they are in one encoding, and compile to the same
template. For fragments in UTF-8 that are cut between letters it is no matter whether they compile:
the complaints are the same too. So the filter ends with the same exit code, output and message for
its arguments as for their concatenation. A cache tells the two apart, unless there is but one
fragment. -/
theorem cuts_unnoticed :
    (∀ {σ : Type} (compile : Compiler σ) (o : Options) (before after : List Fragment)
      (first second whole : Fragment) (template : Template) (s s' : σ),
      first.encoding = second.encoding → whole.encoding = first.encoding →
      whole.bytes = first.bytes ++ second.bytes →
      compileFragments compile o (before ++ first :: second :: after) s = .ok template s' →
        compileFragments compile o (before ++ whole :: after) s = .ok template s') ∧
    (∀ {σ : Type} (compile : Compiler σ) (o : Options) (parts : List Fragment)
      (whole : Fragment), Source.Utf8Only parts → whole.encoding = .utf8 →
      whole.bytes = parts.flatMap Fragment.bytes →
        compileFragments compile o parts = compileFragments compile o [whole] ∧
          (CacheKey.matching parts [whole] = true ↔ parts.length = 1) ∧
          (CacheKey.matching [whole] parts = true ↔ parts.length = 1)) ∧
    ∀ (lib : Libraries) (s : Surroundings) (groups : List Group) (texts : List String),
      texts ≠ [] → run lib s (spell groups ++ "--" :: texts) =
        run lib s (spell groups ++ ["--", String.join texts]) := by
  refine ⟨?_, ?_, fun lib s groups texts h => run_join lib s groups h⟩
  · intro σ compile o before after first second whole template s s' hsame hencoding hbytes hok
    have hcut : whole.Cut [first, second] := by
      refine ⟨by simp [hbytes], ?_⟩
      simp [hencoding, hsame]
    refine compileFragments_of_cut hcut ?_
    rwa [List.append_assoc]
  · intro σ compile o parts whole hparts hutf8 hbytes
    have hcut : whole.Cut parts := ⟨hbytes, fun f hf => (hparts f hf).1.trans hutf8.symm⟩
    refine ⟨compileFragments_of_utf8 hparts hcut hutf8, matching_cut_iff hcut, ?_⟩
    rw [← matching_cut_iff hcut, LawfulCacheKey.matching_eq, LawfulCacheKey.matching_eq]
    exact ⟨LawfulCacheKey.symm, LawfulCacheKey.symm⟩

/-- A class of Latin-1 may be cut into an opening bracket and the rest. A letter that may not stand
in the source is complained about with the same words, alone or behind another letter. -/
theorem cuts_unnoticed_letters :
    let latin (bytes : Bytes) (tag : Nat) : Fragment := ⟨⟨bytes, tag⟩, .latin1⟩
    let first : Fragment := ⟨⟨[0x61], 0⟩, .utf8⟩
    let parts : List Fragment := [first, ⟨⟨[0xC3, 0xA9], 1⟩, .utf8⟩]
    let whole : Fragment := ⟨⟨[0x61, 0xC3, 0xA9], 2⟩, .utf8⟩
    let compile : Compiler Unit := dialectCompiler Regex.engine none
    let compiling (o : Options) := compileFragments compile o
    (∃ template, compiling {} [first, latin [0x5B] 1, latin [0xE9, 0x5D] 2] () = .ok template () ∧
      compiling {} [first, latin [0x5B, 0xE9, 0x5D] 3] () = .ok template ()) ∧
      (Source.Utf8Only parts ∧ compiling { noEncoding := true } parts () =
          compiling { noEncoding := true } [whole] () ∧
        compiling { noEncoding := true } [whole] () =
          .error (.failure (.nonAsciiWithoutEncoding .utf8)) () ∧
        CacheKey.matching parts [whole] = false) ∧
      ∀ lib s, run lib s ["-n", "--", "a", "é"] = run lib s ["-n", "--", "aé"] := by
  intro latin first parts whole compile compiling
  obtain ⟨htogether, hutf8, hruns⟩ := cuts_unnoticed
  refine ⟨?_, ?_, fun lib s =>
    hruns lib s [.flag .noEncoding] ["a", "é"] (List.cons_ne_nil _ _)⟩
  · have hcompiles : ((compiling {} [first, latin [0x5B] 1, latin [0xE9, 0x5D] 2]).outcome
        ()).toOption.isSome := by decide +kernel
    cases hcut : compiling {} [first, latin [0x5B] 1, latin [0xE9, 0x5D] 2] () with
    | error e s => simp [Act.outcome, hcut, Except.toOption] at hcompiles
    | ok template s =>
      have hwhole := htogether compile {} [first] [] (latin [0x5B] 1)
        (latin [0xE9, 0x5D] 2) (latin [0x5B, 0xE9, 0x5D] 3) template () s rfl rfl rfl hcut
      exact ⟨template, rfl, hwhole⟩
  · have hparts : Source.Utf8Only parts := by decide
    obtain ⟨hsame, hkeys, -⟩ :=
      hutf8 compile { noEncoding := true } parts whole hparts rfl rfl
    refine ⟨hparts, congrFun hsame (), rfl, ?_⟩
    rw [← Bool.not_eq_true, hkeys]
    decide

end CallSite.Filter
