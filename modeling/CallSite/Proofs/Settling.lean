import CallSite.Regex.Compile
import Mathlib.Tactic.SplitIfs

/-!
# The encoding that compiling settles on

Compiling keeps the encoding of a source, unless it is ASCII and names characters by `\u`: then
it is recorded as UTF-8. What is kept is kept for good. What is promoted is not: the matcher was
made before, for a source whose characters are its bytes.
-/
namespace CallSite.Pattern

namespace Source

/-- Compiling records the source as UTF-8, though it was not given as that. -/
def IsPromoted (s : Source) (o : Options) : Prop :=
  s.encoding = .usAscii ∧ ¬ o.noEncoding = true ∧ Scan.hasUnicodeEscape s.bytes = true

/-- The engine has made the matcher from the text of the source, with Unicode mode on or off. -/
def MatchedBy (s : Source) (engine : Engine) (unicode : Bool) (sizeLimit : Option Nat)
    (o : Options) (m : Matcher) : Prop :=
  ∃ text made, s.dialectText = .ok text ∧
    engine { s.dialectFlags o with unicode } sizeLimit text = .ok made ∧ m = dialectMatcher made

variable {s : Source} {o : Options}

theorem promoted_of_isPromoted (h : s.IsPromoted o) : s.promoted o = .utf8 := by
  rw [promoted, if_pos]
  exact h

theorem promoted_of_not_isPromoted (h : ¬ s.IsPromoted o) : s.promoted o = s.encoding := by
  rw [promoted, if_neg]
  exact h

theorem not_isPromoted_of_utf8 (bytes : Bytes) (o : Options) :
    ¬ (⟨bytes, .utf8⟩ : Source).IsPromoted o := by
  rintro ⟨hascii, -⟩
  cases hascii

/-- Encodings of single bytes are all read the same way, so they are not told apart in matching. -/
theorem dialectText_of_single_byte (h : s.encoding ≠ .utf8) :
    s.dialectText = .ok (s.bytes.flatMap spellByte) := by
  rw [dialectText, if_neg h]

theorem dialectFlags_of_single_byte {s' : Source} (h : s.encoding ≠ .utf8)
    (h' : s'.encoding ≠ .utf8) : s.dialectFlags o = s'.dialectFlags o := by
  simp only [dialectFlags, h, h']

end Source

section Settling

variable {engine : Engine} {sizeLimit : Option Nat} {s : Source} {o : Options} {c : Compiled}

theorem source_of_compileDialect (h : compileDialect engine sizeLimit s o = .ok c) :
    c.source = ⟨s.bytes, s.promoted o⟩ := by
  obtain ⟨text, made, -, -, rfl⟩ := compileDialect_eq_ok_iff.1 h
  rfl

theorem matchedBy_of_compileDialect (h : compileDialect engine sizeLimit s o = .ok c) :
    s.MatchedBy engine (s.encoding = .utf8) sizeLimit o c.matcher := by
  obtain ⟨text, made, htext, hmade, rfl⟩ := compileDialect_eq_ok_iff.1 h
  exact ⟨text, made, htext, hmade, rfl⟩

theorem source_of_not_isPromoted (h : compileDialect engine sizeLimit s o = .ok c)
    (hkept : ¬ s.IsPromoted o) : c.source = s := by
  rw [source_of_compileDialect h, Source.promoted_of_not_isPromoted hkept]

theorem source_of_isPromoted (h : compileDialect engine sizeLimit s o = .ok c)
    (hp : s.IsPromoted o) : c.source = ⟨s.bytes, .utf8⟩ := by
  rw [source_of_compileDialect h, Source.promoted_of_isPromoted hp]

/-- A pattern that is compiled and run at once, in a form that can be computed. -/
theorem found_of_run {bs : Bytes} {start : Nat} {range : Option (Nat × Nat)}
    (h : (compileDialect engine sizeLimit s o).toOption.map (·.matcher.find? bs start) =
      some range) :
    ∃ c, compileDialect engine sizeLimit s o = .ok c ∧ c.matcher.find? bs start = range := by
  cases hc : compileDialect engine sizeLimit s o with
  | error e =>
    rw [hc] at h
    cases h
  | ok c =>
    rw [hc] at h
    exact ⟨c, rfl, Option.some.inj h⟩

/-- Only the recorded encoding tells the single-byte encodings apart. -/
theorem compileDialect_of_single_byte (h : compileDialect engine sizeLimit s o = .ok c)
    (hs : s.encoding ≠ .utf8) :
    compileDialect engine sizeLimit ⟨s.bytes, .binary⟩ o = .ok ⟨c.matcher, ⟨s.bytes, .binary⟩⟩ := by
  have hbinary : (⟨s.bytes, .binary⟩ : Source).encoding ≠ .utf8 := by simp
  have hpromoted : (⟨s.bytes, .binary⟩ : Source).promoted o = .binary :=
    Source.promoted_of_not_isPromoted (by simp [Source.IsPromoted])
  obtain ⟨text, made, htext, hmade, rfl⟩ := compileDialect_eq_ok_iff.1 h
  refine compileDialect_eq_ok_iff.2 ⟨text, made, ?_, ?_, ?_⟩
  · rw [← htext, Source.dialectText_of_single_byte hs, Source.dialectText_of_single_byte hbinary]
  · rw [← hmade, Source.dialectFlags_of_single_byte hbinary hs]
  · rw [hpromoted]

/-- What compiling settles on is settled for good where the encoding is kept: compiling it again
gives the same again. A promoted source is settled for good too, but its matcher is the one that
the same bytes have in a single-byte encoding, and not the one that compiling it again gives. -/
theorem settled_unless_promoted (h : compileDialect engine sizeLimit s o = .ok c) :
    s.MatchedBy engine (s.encoding = .utf8) sizeLimit o c.matcher ∧
      (¬ s.IsPromoted o → c.source = s ∧ compileDialect engine sizeLimit c.source o = .ok c) ∧
      (s.IsPromoted o → c.source = ⟨s.bytes, .utf8⟩ ∧
        compileDialect engine sizeLimit ⟨s.bytes, .binary⟩ o = .ok ⟨c.matcher, ⟨s.bytes, .binary⟩⟩ ∧
        ∀ c', compileDialect engine sizeLimit c.source o = .ok c' → c'.source = c.source ∧
          c.source.MatchedBy engine true sizeLimit o c'.matcher ∧
          compileDialect engine sizeLimit c'.source o = .ok c') := by
  refine ⟨matchedBy_of_compileDialect h, ?_, ?_⟩
  · intro hkept
    have hsource := source_of_not_isPromoted h hkept
    exact ⟨hsource, by rwa [hsource]⟩
  · intro hp
    have hsource := source_of_isPromoted h hp
    refine ⟨hsource, compileDialect_of_single_byte h (by simp [hp.1]), ?_⟩
    intro c' h'
    rw [hsource] at h' ⊢
    have hsource' := source_of_not_isPromoted h' (Source.not_isPromoted_of_utf8 s.bytes o)
    exact ⟨hsource', matchedBy_of_compileDialect h', by rwa [hsource']⟩

/-- A named `A` and any character behind it. The dot of the promoted pattern takes one byte of a
letter of two. -/
theorem settled_unless_promoted_dot :
    let s : Source := ⟨[0x5C, 0x75, 0x30, 0x30, 0x34, 0x31, 0x2E], .usAscii⟩
    ∃ c c', compileDialect Regex.engine none s {} = .ok c ∧ s.IsPromoted {} ∧
      c.source = ⟨s.bytes, .utf8⟩ ∧ compileDialect Regex.engine none c.source {} = .ok c' ∧
      c'.source = c.source ∧ c.matcher.find? [0x41, 0xC3, 0xA9] 0 = some (0, 2) ∧
      c'.matcher.find? [0x41, 0xC3, 0xA9] 0 = some (0, 3) := by
  intro s
  have hp : s.IsPromoted {} := ⟨rfl, by simp, rfl⟩
  obtain ⟨c, hc, hfound⟩ : ∃ c, compileDialect Regex.engine none s {} = .ok c ∧
      c.matcher.find? [0x41, 0xC3, 0xA9] 0 = some (0, 2) := found_of_run (by decide +kernel)
  obtain ⟨c', hc', hfound'⟩ : ∃ c', compileDialect Regex.engine none ⟨s.bytes, .utf8⟩ {} = .ok c' ∧
      c'.matcher.find? [0x41, 0xC3, 0xA9] 0 = some (0, 3) := found_of_run (by decide +kernel)
  obtain ⟨hsource, -, hagain⟩ := (settled_unless_promoted hc).2.2 hp
  rw [← hsource] at hc'
  exact ⟨c, c', hc, hp, hsource, hc', (hagain c' hc').1, hfound, hfound'⟩

end Settling
end CallSite.Pattern
