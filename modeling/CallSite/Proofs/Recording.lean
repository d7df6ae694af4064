import CallSite.Proofs.Reconciliation
import CallSite.Proofs.SevenBit
import CallSite.Proofs.Settling

/-!
# The encoding that a template records

The encoding of a template is decided in three places: where fragments are joined, where a
source that names characters is promoted, and where a source with no encoding is scanned. All
of them record an encoding that the bytes keep to, as long as no fragment calls itself ASCII and
is not. That is checked nowhere, and then the template says what the fragment said.
-/
namespace CallSite.Pattern

/-- The bytes of an encoding: all bytes where each is a character, those below `80` in ASCII,
and in UTF-8 what some text is written as. -/
def Encoding.Allows : Encoding → Bytes → Prop
  | utf8, bs => ∃ text, bs = Utf8.encode text
  | usAscii, bs => ∀ b ∈ bs, b < 0x80
  | binary, _ | latin1, _ => True

/-! ### ASCII is UTF-8 -/

theorem encodeChars_of_ascii {bs : Bytes} (h : ∀ b ∈ bs, b < 0x80) :
    Utf8.encodeChars (bs.map fun b => Char.ofNat b.toNat) = bs := by
  induction bs with
  | nil => rfl
  | cons b bs ih =>
    have hb : isAscii b = true := decide_eq_true (h b List.mem_cons_self)
    have hbs := ih fun b' hb' => h b' (List.mem_cons_of_mem _ hb')
    rw [Utf8.encodeChars] at hbs ⊢
    rw [List.map_cons, List.flatMap_cons, Utf8.encodeChar_one hb, hbs]
    rfl

theorem allows_utf8_of_ascii {bs : Bytes} (h : Encoding.usAscii.Allows bs) :
    Encoding.utf8.Allows bs := by
  refine ⟨String.ofList (bs.map fun b => Char.ofNat b.toNat), ?_⟩
  rw [Utf8.encode, String.toList_ofList, encodeChars_of_ascii h]

/-! ### Each of the three places -/

section Places

variable {engine : Engine} {sizeLimit : Option Nat} {o : Options} {fragments : List Fragment}
  {source : Source} {c : Compiled}

/-- A source that compiles as UTF-8 is UTF-8. -/
theorem allows_of_utf8 (h : compileDialect engine sizeLimit source o = .ok c)
    (hutf8 : source.encoding = .utf8) : Encoding.utf8.Allows source.bytes := by
  obtain ⟨text, -, htext, -, -⟩ := compileDialect_eq_ok_iff.1 h
  rw [Source.dialectText, if_pos hutf8] at htext
  split_ifs at htext with hvalid
  exact Utf8.isValid_iff.1 hvalid

/-- Joining: a source is recorded as ASCII only if its bytes are, or a fragment said so. -/
theorem allows_of_joined (h : Source.ofFragments o fragments = .ok source)
    (hascii : ∀ f ∈ fragments, f.encoding = .usAscii → ¬ f.HasHighByte)
    (hencoding : source.encoding = .usAscii) : Encoding.usAscii.Allows source.bytes := by
  obtain ⟨-, hbytes, hsettles⟩ := Source.ofFragments_eq_ok h
  have hlow : ∀ f ∈ fragments, ¬ f.HasHighByte := by
    rw [hencoding] at hsettles
    generalize he : Encoding.usAscii = e at hsettles
    cases hsettles with
    | none => cases he
    | common _ hf hhigh => exact absurd hhigh (hascii _ hf he.symm)
    | fixed => cases he
    | ascii _ hlow _ => exact hlow
  intro b hb
  rw [hbytes, List.mem_flatMap] at hb
  obtain ⟨f, hf, hb⟩ := hb
  have hnot : ¬ 0x80 ≤ b := fun hhigh => hlow f hf ⟨b, hb, hhigh⟩
  exact UInt8.not_le.1 hnot

/-- Promoting: what is promoted was ASCII before. -/
theorem allows_of_compiled (h : compileDialect engine sizeLimit source o = .ok c)
    (hascii : source.encoding = .usAscii → Encoding.usAscii.Allows source.bytes) :
    c.source.encoding.Allows c.source.bytes := by
  by_cases hp : source.IsPromoted o
  · rw [source_of_isPromoted h hp]
    exact allows_utf8_of_ascii (hascii hp.1)
  · rw [source_of_not_isPromoted h hp]
    cases hencoding : source.encoding with
    | utf8 => exact allows_of_utf8 h hencoding
    | usAscii => exact hascii hencoding
    | binary => trivial
    | latin1 => trivial

/-- Scanning: a source that is scanned as ASCII is. -/
theorem allows_of_scanned (bs : Bytes) :
    (if Scan.isSevenBit bs then Encoding.usAscii else .binary).Allows bs := by
  cases hscan : Scan.isSevenBit bs with
  | true => exact (Scan.isSevenBit_iff.1 hscan).1
  | false => trivial

/-- What is recorded is scanned or what compiling settled on. -/
theorem allows_of_recorded (h : compileDialect engine sizeLimit source o = .ok c)
    (hascii : source.encoding = .usAscii → Encoding.usAscii.Allows source.bytes) :
    (recordedEncoding o source c.source).Allows c.source.bytes := by
  rw [recordedEncoding]
  by_cases hnone : o.noEncoding = true
  · rw [if_pos hnone, source_of_compileDialect h]
    exact allows_of_scanned source.bytes
  · rw [if_neg hnone]
    exact allows_of_compiled h hascii

end Places

/-! ### What the template says -/

section Template

variable {σ : Type} {engine : Engine} {sizeLimit : Option Nat} {o : Options}
  {fragments : List Fragment} {template : Template} {s s' : σ}

/-- Some fragment calls itself ASCII and is not. -/
def Miscalled (fragments : List Fragment) : Prop :=
  ∃ f ∈ fragments, f.encoding = .usAscii ∧ f.HasHighByte

theorem Encoding.not_allows_of_miscalled (h : Miscalled fragments) :
    ¬ Encoding.usAscii.Allows (fragments.flatMap Fragment.bytes) := by
  obtain ⟨f, hf, -, b, hb, hhigh⟩ := h
  intro hlow
  exact UInt8.not_le.2 (hlow b (List.mem_flatMap.2 ⟨f, hf, hb⟩)) hhigh

/-- One fragment that calls itself ASCII and is not makes the whole source one. -/
theorem Source.encoding_of_miscalled {source : Source}
    (h : Source.ofFragments o fragments = .ok source) (hmiscalled : Miscalled fragments) :
    source.encoding = .usAscii ∧ ¬ o.noEncoding = true := by
  obtain ⟨hagree, -, hsettles⟩ := Source.ofFragments_eq_ok h
  obtain ⟨f, hf, hencoding, hhigh⟩ := hmiscalled
  have hsome : ¬ o.noEncoding = true := by
    intro hnone
    have hbinary := hagree.binary hnone f hf hhigh
    rw [hencoding] at hbinary
    cases hbinary
  have hf' := hagree.settles_unique hsettles (.common hsome hf hhigh)
  exact ⟨hf'.trans hencoding, hsome⟩

/-- The bytes of a template are allowed by the encoding that it records, unless some fragment calls
itself ASCII and is not. Then the template calls itself ASCII too, or UTF-8 if it names
characters, and only in the second case its bytes may still be allowed, by chance. -/
theorem templates_keep_to_their_encoding
    (h : compileFragments (dialectCompiler engine sizeLimit) o fragments s = .ok template s') :
    (¬ Miscalled fragments → template.encoding.Allows template.source) ∧
      (Miscalled fragments → ¬ Encoding.usAscii.Allows template.source ∧
        template.encoding =
          if Scan.hasUnicodeEscape template.source then .utf8 else .usAscii) := by
  obtain ⟨source, compiled, hjoined, hrun, rfl⟩ := compileFragments_eq_ok_iff.1 h
  obtain ⟨hcompiled, -⟩ := dialectCompiler_eq_ok_iff.1 hrun
  have hsource := source_of_compileDialect hcompiled
  obtain ⟨-, hbytes, -⟩ := Source.ofFragments_eq_ok hjoined
  constructor
  · intro hright
    have hascii : ∀ f ∈ fragments, f.encoding = .usAscii → ¬ f.HasHighByte :=
      fun f hf hencoding hhigh => hright ⟨f, hf, hencoding, hhigh⟩
    exact allows_of_recorded hcompiled (allows_of_joined hjoined hascii)
  · intro hmiscalled
    obtain ⟨hencoding, hsome⟩ := Source.encoding_of_miscalled hjoined hmiscalled
    refine ⟨?_, ?_⟩
    · rw [hsource, hbytes]
      exact Encoding.not_allows_of_miscalled hmiscalled
    · rw [recordedEncoding, if_neg hsome, hsource, Source.promoted, hencoding]
      simp [hsome]

/-- One byte that is called ASCII and is not. -/
theorem templates_keep_to_their_encoding_high_byte :
    let fragments : List Fragment := [⟨⟨[0xFF], 0⟩, .usAscii⟩]
    ∃ template,
      compileFragments (dialectCompiler Regex.engine none) {} fragments () = .ok template () ∧
      Miscalled fragments ∧ template.source = [0xFF] ∧ template.encoding = .usAscii ∧
      ¬ template.encoding.Allows template.source := by
  intro fragments
  obtain ⟨template, hcompiled, hsource⟩ : ∃ template,
      compileFragments (dialectCompiler Regex.engine none) {} fragments () = .ok template () ∧
        template.source = [0xFF] := ⟨_, rfl, rfl⟩
  have hmiscalled : Miscalled fragments := ⟨_, List.mem_cons_self, rfl, 0xFF, by decide, by decide⟩
  obtain ⟨hnot, hencoding⟩ := (templates_keep_to_their_encoding hcompiled).2 hmiscalled
  have hascii : template.encoding = .usAscii := by
    rw [hencoding, hsource]
    rfl
  exact ⟨template, hcompiled, hmiscalled, hsource, hascii, by rwa [hascii]⟩

end Template

end CallSite.Pattern
