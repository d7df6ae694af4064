import CallSite.Proofs.Recording

/-!
# Malformed fragments

Bytes that are no UTF-8 are refused where fragments are joined, one fragment at a time. What is
joined from well-formed fragments is well-formed, whatever encodings the ASCII fragments between
them are in. So the dialect, which looks at the bytes once more, has nothing to refuse.
-/
namespace CallSite

namespace Utf8

theorem encode_append (first second : String) :
    encode (first ++ second) = encode first ++ encode second := by
  rw [encode, String.toList_append, encodeChars, List.flatMap_append]
  rfl

end Utf8

namespace Pattern

section Joined

variable {o : Options} {fragments : List Fragment} {source : Source}

theorem Encoding.allows_utf8_append {first second : Bytes} (h : Encoding.utf8.Allows first)
    (h' : Encoding.utf8.Allows second) : Encoding.utf8.Allows (first ++ second) := by
  obtain ⟨text, rfl⟩ := h
  obtain ⟨text', rfl⟩ := h'
  exact ⟨text ++ text', (Utf8.encode_append text text').symm⟩

theorem Encoding.allows_utf8_flatMap (h : ∀ f ∈ fragments, Encoding.utf8.Allows f.bytes) :
    Encoding.utf8.Allows (fragments.flatMap Fragment.bytes) := by
  induction fragments with
  | nil => exact ⟨"", rfl⟩
  | cons f fragments ih =>
    rw [List.flatMap_cons]
    rw [List.forall_mem_cons] at h
    exact Encoding.allows_utf8_append h.1 (ih h.2)

/-- Where UTF-8 is settled, each fragment is ASCII or says that it is UTF-8. -/
theorem Source.allows_utf8 (h : ofFragments o fragments = .ok source)
    (hutf8 : source.encoding = .utf8) : Encoding.utf8.Allows source.bytes := by
  obtain ⟨hagree, hbytes, hsettles⟩ := ofFragments_eq_ok h
  rw [hutf8] at hsettles
  have hsome : ¬ o.noEncoding = true := by
    intro hnone
    cases hagree.settles_unique hsettles (.none hnone)
  rw [hbytes]
  refine Encoding.allows_utf8_flatMap fun f hf => ?_
  by_cases hhigh : f.HasHighByte
  · have hencoding : f.encoding = .utf8 :=
      hagree.settles_unique (.common hsome hf hhigh) hsettles
    exact hagree.wellFormed f hf hencoding
  · refine allows_utf8_of_ascii fun b hb => UInt8.not_le.1 fun hb' => ?_
    exact hhigh ⟨b, hb, hb'⟩

/-- The dialect reads a source that is UTF-8 as the text that it spells. -/
theorem Source.dialectText_of_allowed (hutf8 : source.encoding = .utf8)
    (h : Encoding.utf8.Allows source.bytes) :
    ∃ text, source.bytes = Utf8.encode text ∧ source.dialectText = .ok text.toList := by
  obtain ⟨text, htext⟩ := h
  refine ⟨text, htext, ?_⟩
  rw [dialectText, if_pos hutf8, if_pos (Utf8.isValid_iff.2 ⟨text, htext⟩), htext,
    Utf8.lossyChars_encode]

end Joined

section Refused

variable {engine : Engine} {sizeLimit : Option Nat} {o : Options} {fragments : List Fragment}
  {source : Source}

/-- Whatever is joined has a text in the dialect. -/
theorem Source.exists_dialectText (h : ofFragments o fragments = .ok source) :
    ∃ text, source.dialectText = .ok text := by
  by_cases hutf8 : source.encoding = .utf8
  · obtain ⟨text, -, htext⟩ := dialectText_of_allowed hutf8 (allows_utf8 h hutf8)
    exact ⟨_, htext⟩
  · exact ⟨_, dialectText_of_single_byte hutf8⟩

/-- With the text of a source, the dialect has only its syntax to complain about. -/
theorem compileDialect_ne_invalidMultibyte {text : List Char}
    (htext : source.dialectText = .ok text) (encoding : Encoding) (lossy : String) :
    compileDialect engine sizeLimit source o ≠ .error (.invalidMultibyte encoding lossy) := by
  intro h
  rcases compileDialect_eq_error_iff.1 h with hnone | ⟨_, _, -, -, ⟨⟩⟩
  rw [htext] at hnone
  cases hnone

/-- Bytes are refused in the first fragment that does not fit to those before it, and only if they
are not what it says that they are. -/
theorem Source.ofFragments_eq_invalidMultibyte_iff {encoding : Encoding} {lossy : String} :
    ofFragments o fragments = .error (.invalidMultibyte encoding lossy) ↔
      ∃ before f after, fragments = before ++ f :: after ∧ Reconcilable o before ∧
        ¬ f.WellFormed ∧ encoding = f.encoding ∧ lossy = Utf8.lossy f.bytes := by
  constructor
  · intro h
    have hbad : ¬ Reconcilable o fragments := by
      intro hagree
      rw [ofFragments_of_reconcilable hagree] at h
      cases h
    obtain ⟨e', before, f, after, he', hsplit, hbefore, -, hrefused⟩ :=
      ofFragments_of_not_reconcilable hbad
    rw [h] at he'
    cases he'
    cases hrefused with
    | malformed hmalformed => exact ⟨before, f, after, hsplit, hbefore, hmalformed, rfl, rfl⟩
  · rintro ⟨before, f, after, rfl, hbefore, hmalformed, rfl, rfl⟩
    exact ofFragments_of_refused hbefore (.malformed hmalformed) after

end Refused

/-- A source that is joined as UTF-8 is UTF-8, and the dialect reads it as the text that it spells.
So malformed bytes are complained about where fragments are joined and nowhere else, and always
about a single fragment: the first one that does not fit, whose own bytes are not UTF-8. Fragments
that are well-formed are never complained about for what they are joined to. -/
theorem malformed_only_as_fragment (engine : Engine) (sizeLimit : Option Nat) (o : Options)
    (fragments : List Fragment) :
    (∀ source, Source.ofFragments o fragments = .ok source → source.encoding = .utf8 →
      ∃ text, source.bytes = Utf8.encode text ∧ source.dialectText = .ok text.toList) ∧
      (∀ {σ : Type} (s s' : σ) (encoding : Encoding) (lossy : String),
        compileFragments (dialectCompiler engine sizeLimit) o fragments s =
            .error (.failure (.invalidMultibyte encoding lossy)) s' ↔
          Source.ofFragments o fragments = .error (.invalidMultibyte encoding lossy) ∧ s = s') ∧
      (∀ encoding lossy,
        Source.ofFragments o fragments = .error (.invalidMultibyte encoding lossy) ↔
          ∃ before f after, fragments = before ++ f :: after ∧ Source.Reconcilable o before ∧
            ¬ f.WellFormed ∧ encoding = f.encoding ∧ lossy = Utf8.lossy f.bytes) ∧
      ((∀ f ∈ fragments, f.WellFormed) → ∀ {σ : Type} (s s' : σ) (encoding : Encoding)
        (lossy : String), compileFragments (dialectCompiler engine sizeLimit) o fragments s ≠
          .error (.failure (.invalidMultibyte encoding lossy)) s') := by
  have hcompiled {σ : Type} (s s' : σ) (encoding : Encoding) (lossy : String) :
      compileFragments (dialectCompiler engine sizeLimit) o fragments s =
          .error (.failure (.invalidMultibyte encoding lossy)) s' ↔
        Source.ofFragments o fragments = .error (.invalidMultibyte encoding lossy) ∧ s = s' := by
    rw [compileFragments_eq_failure_iff, or_iff_left]
    rintro ⟨source, hjoined, hrefused⟩
    obtain ⟨text, htext⟩ := Source.exists_dialectText hjoined
    obtain ⟨hsource, -⟩ := dialectCompiler_eq_failure_iff.1 hrefused
    exact compileDialect_ne_invalidMultibyte htext encoding lossy hsource
  refine ⟨fun source hjoined hutf8 => ?_, hcompiled,
    fun _ _ => Source.ofFragments_eq_invalidMultibyte_iff, ?_⟩
  · exact Source.dialectText_of_allowed hutf8 (Source.allows_utf8 hjoined hutf8)
  · intro hgood σ s s' encoding lossy h
    obtain ⟨before, f, after, hsplit, -, hmalformed, -, -⟩ :=
      Source.ofFragments_eq_invalidMultibyte_iff.1 ((hcompiled s s' encoding lossy).1 h).1
    exact hmalformed (hgood f (by simp [hsplit]))

/-- Whole letters may be joined around an ASCII byte of another encoding. A letter that is cut is
refused at the first half, although both halves together would spell it. -/
theorem malformed_only_as_fragment_cut :
    let whole : List Fragment :=
      [⟨⟨[0xC3, 0xA9], 0⟩, .utf8⟩, ⟨⟨[0x61], 1⟩, .binary⟩, ⟨⟨[0xC3, 0xBC], 2⟩, .utf8⟩]
    let cut : List Fragment := [⟨⟨[0x61], 0⟩, .utf8⟩, ⟨⟨[0xC3], 1⟩, .utf8⟩, ⟨⟨[0xA9], 2⟩, .utf8⟩]
    (∃ text, Source.ofFragments {} whole = .ok ⟨Utf8.encode text, .utf8⟩ ∧
      (⟨Utf8.encode text, .utf8⟩ : Source).dialectText = .ok text.toList) ∧
      compileFragments (dialectCompiler Regex.engine none) {} cut () =
        .error (.failure (.invalidMultibyte .utf8 (Utf8.lossy [0xC3]))) () := by
  intro whole cut
  obtain ⟨source, hjoined, hutf8⟩ : ∃ source, Source.ofFragments {} whole = .ok source ∧
      source.encoding = .utf8 := ⟨_, rfl, rfl⟩
  obtain ⟨hread, -⟩ := malformed_only_as_fragment Regex.engine none {} whole
  obtain ⟨text, htext, hread⟩ := hread source hjoined hutf8
  have hsource : source = ⟨Utf8.encode text, .utf8⟩ := by rw [← htext, ← hutf8]
  refine ⟨⟨text, hsource ▸ hjoined, hsource ▸ hread⟩, ?_⟩
  obtain ⟨-, hcompiled, -, -⟩ := malformed_only_as_fragment Regex.engine none {} cut
  exact (hcompiled () () .utf8 _).2 ⟨rfl, rfl⟩

end Pattern
end CallSite
