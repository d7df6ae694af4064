import CallSite.Proofs.Backslashes
import CallSite.Proofs.Settling

/-!
# Sources that name characters

Compiling never changes the bytes of a source. It changes the encoding of an ASCII source that names
a character by `\u`, and of no other. That is read off the joined bytes, so it does not matter
which fragments the backslashes and the `u` have come from.
-/
namespace CallSite.Pattern

/-- What compiling makes of a given source: its encoding is UTF-8 if it was ASCII and names a
character, and else what it was. -/
structure PromotedIfNamed (o : Options) (given compiled : Source) : Prop where
  bytes_eq : compiled.bytes = given.bytes
  encoding_ne_iff : compiled.encoding ≠ given.encoding ↔
    given.encoding = .usAscii ∧ ¬ o.noEncoding = true ∧ Scan.NamesCharacter given.bytes
  encoding_eq : compiled.encoding ≠ given.encoding → compiled.encoding = .utf8

section Promotion

variable {engine : Engine} {sizeLimit : Option Nat} {o : Options} {source : Source} {c : Compiled}

theorem Source.isPromoted_iff : source.IsPromoted o ↔
    source.encoding = .usAscii ∧ ¬ o.noEncoding = true ∧ Scan.NamesCharacter source.bytes := by
  rw [IsPromoted, Scan.hasUnicodeEscape_iff]

theorem promotedIfNamed_of_compileDialect (h : compileDialect engine sizeLimit source o = .ok c) :
    PromotedIfNamed o source c.source := by
  have hbytes : c.source.bytes = source.bytes := by rw [source_of_compileDialect h]
  by_cases hp : source.IsPromoted o
  · have hencoding : c.source.encoding = .utf8 := by rw [source_of_isPromoted h hp]
    refine ⟨hbytes, iff_of_true ?_ (Source.isPromoted_iff.1 hp), fun _ => hencoding⟩
    rw [hencoding, hp.1]
    decide
  · have hencoding : c.source.encoding = source.encoding := by rw [source_of_not_isPromoted h hp]
    exact ⟨hbytes, iff_of_false (not_not.2 hencoding) (hp ∘ Source.isPromoted_iff.2),
      fun hne => absurd hencoding hne⟩

/-- A source that is to have no encoding is not ASCII, whatever its bytes. -/
theorem Source.not_noEncoding_of_usAscii {fragments : List Fragment}
    (h : ofFragments o fragments = .ok source) (hascii : source.encoding = .usAscii) :
    ¬ o.noEncoding = true := by
  obtain ⟨hagree, -, hsettles⟩ := ofFragments_eq_ok h
  intro hnone
  have hbinary := hagree.settles_unique hsettles (.none hnone)
  rw [hascii] at hbinary
  cases hbinary

end Promotion

/-- Compiling keeps the bytes of a source, and promotes its encoding to UTF-8 exactly if it is
ASCII, may have an encoding, and a `u` in it stands right behind an odd run of backslashes. A
template records that of the joined bytes of its fragments: wherever they are cut, a `u` that begins
what is behind the cut counts with the backslashes that end what is before it. -/
theorem named_characters_promote (engine : Engine) (sizeLimit : Option Nat) (o : Options) :
    (∀ s c, compileDialect engine sizeLimit s o = .ok c → PromotedIfNamed o s c.source) ∧
      ∀ {σ : Type} (fragments : List Fragment) (template : Template) (s s' : σ),
        compileFragments (dialectCompiler engine sizeLimit) o fragments s = .ok template s' →
        ∃ source, Source.ofFragments o fragments = .ok source ∧
          source.bytes = fragments.flatMap Fragment.bytes ∧
          (¬ o.noEncoding = true → PromotedIfNamed o source ⟨template.source, template.encoding⟩) ∧
          (o.noEncoding = true → template.source = source.bytes ∧ template.encoding ≠ .utf8) ∧
          ∀ before after, fragments = before ++ after →
            Odd (Scan.closingRun (before.flatMap Fragment.bytes)) →
            (after.flatMap Fragment.bytes).head? = some Scan.letterU →
            source.encoding = .usAscii → template.encoding = .utf8 := by
  refine ⟨fun s c h => promotedIfNamed_of_compileDialect h, ?_⟩
  intro σ fragments template s s' h
  obtain ⟨source, compiled, hjoined, hrun, rfl⟩ := compileFragments_eq_ok_iff.1 h
  have hpromoted := promotedIfNamed_of_compileDialect (dialectCompiler_eq_ok_iff.1 hrun).1
  obtain ⟨-, hbytes, -⟩ := Source.ofFragments_eq_ok hjoined
  have hrecorded (hsome : ¬ o.noEncoding = true) :
      recordedEncoding o source compiled.source = compiled.source.encoding := if_neg hsome
  refine ⟨source, hjoined, hbytes, fun hsome => ?_, fun hnone => ⟨hpromoted.bytes_eq, ?_⟩, ?_⟩
  · simp only [hrecorded hsome]
    exact hpromoted
  · simp only [recordedEncoding, if_pos hnone]
    split
    · decide
    · decide
  · rintro before after rfl hodd hu hascii
    have hsome := Source.not_noEncoding_of_usAscii hjoined hascii
    have hnamed : Scan.NamesCharacter source.bytes := by
      rw [hbytes, List.flatMap_append, Scan.namesCharacter_append]
      exact .inr (Scan.namesBehind_of_head hodd hu)
    simp only [hrecorded hsome]
    exact hpromoted.encoding_eq (hpromoted.encoding_ne_iff.2 ⟨hascii, hsome, hnamed⟩)

/-- An escaped backslash and a named `A`. The backslashes come from two fragments, and the rest of
the name from a third. -/
theorem named_characters_promote_split :
    let fragments : List Fragment :=
      [⟨⟨[0x5C], 0⟩, .latin1⟩, ⟨⟨[0x5C, 0x5C], 1⟩, .binary⟩,
        ⟨⟨[0x75, 0x30, 0x30, 0x34, 0x31], 2⟩, .utf8⟩]
    ∃ template,
      compileFragments (dialectCompiler Regex.engine none) {} fragments () = .ok template () ∧
      Source.ofFragments {} fragments = .ok ⟨template.source, .usAscii⟩ ∧
      template.encoding = .utf8 := by
  intro fragments
  obtain ⟨template, hcompiled⟩ : ∃ template,
      compileFragments (dialectCompiler Regex.engine none) {} fragments () = .ok template () :=
    ⟨_, rfl⟩
  obtain ⟨source, hjoined, hbytes, hsome, -, hsplit⟩ :=
    (named_characters_promote Regex.engine none {}).2 fragments template () () hcompiled
  have hascii : source.encoding = .usAscii := by
    cases hjoined
    rfl
  have hkept : template.source = source.bytes := (hsome (by simp)).bytes_eq
  have hpromoted : template.encoding = .utf8 :=
    hsplit (fragments.take 2) (fragments.drop 2) rfl (by decide) rfl hascii
  exact ⟨template, hcompiled, by rw [hjoined, hkept, ← hascii], hpromoted⟩

end CallSite.Pattern
