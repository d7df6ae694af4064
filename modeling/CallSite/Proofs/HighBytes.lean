import CallSite.Proofs.Escapes
import CallSite.Proofs.Settling
import Mathlib.Algebra.Ring.Parity
import Mathlib.Data.List.Induction

/-!
# High bytes as escapes

In a source of single bytes, each byte from `80` on is written as an escape for the dialect. The
text is read back as the source was meant unless a backslash stands right before such a byte that
no other backslash takes: it takes the backslash of the escape, and what is left of the
escape stands for itself.
-/
namespace CallSite.Pattern

/-! ### Reading escapes -/

/-- What a text is taken apart into. A backslash takes the next character with it. -/
inductive Token where
  | char (c : Char)
  | escaped (c : Char)
  | octet (b : UInt8)
  | backslash
  deriving Repr, DecidableEq

/-- Takes a text apart. Only the last character can be a backslash that has none to take. -/
def tokens : List Char → List Token
  | [] => []
  | ['\\'] => [.backslash]
  | '\\' :: 'x' :: high :: low :: rest =>
    match hexValue? high, hexValue? low with
    | some h, some l => .octet (UInt8.ofNat (h * 16 + l)) :: tokens rest
    | _, _ => .escaped 'x' :: tokens (high :: low :: rest)
  | '\\' :: c :: rest => .escaped c :: tokens rest
  | c :: rest => .char c :: tokens rest

/-- Two hexadecimal digits stand in front. -/
def StartsOctet (cs : List Char) : Prop := 2 ≤ (cs.takeWhile (hexValue? · |>.isSome)).length

section Tokens

variable {c high low : Char} {rest : List Char} {h l : Nat}

theorem startsOctet_of_digits (hh : hexValue? high = some h) (hl : hexValue? low = some l) :
    StartsOctet (high :: low :: rest) := by
  simp [StartsOctet, hh, hl]

theorem exists_of_startsOctet {cs : List Char} (hcs : StartsOctet cs) :
    ∃ high low rest h l, cs = high :: low :: rest ∧
      hexValue? high = some h ∧ hexValue? low = some l := by
  match cs with
  | [] => simp [StartsOctet] at hcs
  | [c] =>
    have hle := (List.takeWhile_sublist (hexValue? · |>.isSome) (l := [c])).length_le
    rw [StartsOctet] at hcs
    rw [List.length_singleton] at hle
    omega
  | high :: low :: rest =>
    cases hh : hexValue? high with
    | none => simp [StartsOctet, hh] at hcs
    | some h =>
      cases hl : hexValue? low with
      | none => simp [StartsOctet, hh, hl] at hcs
      | some l => exact ⟨high, low, rest, h, l, rfl, hh, hl⟩

theorem tokens_char (hc : c ≠ '\\') : tokens (c :: rest) = .char c :: tokens rest := by
  rw [tokens]
  · rintro rfl -
    exact hc rfl
  · rintro high low rest' rfl -
    exact hc rfl
  · rintro c' rest' rfl -
    exact hc rfl

theorem tokens_octet (hh : hexValue? high = some h) (hl : hexValue? low = some l) :
    tokens ('\\' :: 'x' :: high :: low :: rest) =
      .octet (UInt8.ofNat (h * 16 + l)) :: tokens rest := by
  rw [tokens, hh, hl]

theorem tokens_escaped (hc : c = 'x' → ¬ StartsOctet rest) :
    tokens ('\\' :: c :: rest) = .escaped c :: tokens rest := by
  by_cases hx : c = 'x'
  · subst hx
    match rest, hc rfl with
    | [], _ => rfl
    | [_], _ => rfl
    | high :: low :: rest, hno =>
      rw [tokens]
      split
      · next h l hh hl => exact absurd (startsOctet_of_digits hh hl) hno
      · rfl
  · rw [tokens]
    rintro high low rest' rfl -
    exact hx rfl

/-- Texts grow by what `tokens` takes off them. -/
@[elab_as_elim]
theorem tokens_induction {motive : List Char → Prop} (nil : motive []) (last : motive ['\\'])
    (octet : ∀ {high low rest h l}, hexValue? high = some h → hexValue? low = some l →
      motive rest → motive ('\\' :: 'x' :: high :: low :: rest))
    (escaped : ∀ {c rest}, (c = 'x' → ¬ StartsOctet rest) → motive rest →
      motive ('\\' :: c :: rest))
    (char : ∀ {c rest}, c ≠ '\\' → motive rest → motive (c :: rest)) (cs : List Char) :
    motive cs := by
  induction hn : cs.length using Nat.strongRecOn generalizing cs with
  | _ n ih =>
    subst hn
    match cs with
    | [] => exact nil
    | c :: cs =>
      by_cases hc : c = '\\'
      · subst hc
        match cs with
        | [] => exact last
        | c :: rest =>
          by_cases hoctet : c = 'x' ∧ StartsOctet rest
          · obtain ⟨rfl, hstarts⟩ := hoctet
            obtain ⟨high, low, rest, h, l, rfl, hh, hl⟩ := exists_of_startsOctet hstarts
            exact octet hh hl (ih rest.length (by simp only [List.length_cons]; omega) rest rfl)
          · exact escaped (fun hx hstarts => hoctet ⟨hx, hstarts⟩)
              (ih rest.length (by simp only [List.length_cons]; omega) rest rfl)
      · exact char hc (ih cs.length (by simp) cs rfl)

end Tokens

/-! ### Writing escapes -/

section Spelling

variable {b : UInt8}

theorem hexValue?_digit {n : Nat} (hn : n < 16) :
    hexValue? (Char.ofNat (if n < 10 then 0x30 + n else 0x37 + n)) = some n := by
  rw [hexValue?_eq_some_iff]
  split_ifs with h
  · rw [Utf8.toNat_char (.inl (by omega))]
    exact .inl ⟨h, rfl⟩
  · rw [Utf8.toNat_char (.inl (by omega))]
    exact .inr ⟨by omega, hn, .inl (by omega)⟩

theorem low_of_digit {c : Char} {n : Nat} (h : hexValue? c = some n) : c.toNat < 0x80 := by
  rw [hexValue?_eq_some_iff, IsHexDigit] at h
  omega

theorem ne_backslash_of_digit {c : Char} {n : Nat} (h : hexValue? c = some n) : c ≠ '\\' := by
  rintro rfl
  cases h

theorem hexValue?_eq_none_of_high {c : Char} (hc : 0x80 ≤ c.toNat) : hexValue? c = none :=
  Option.eq_none_iff_forall_ne_some.2 fun _ h => Nat.not_lt.2 hc (low_of_digit h)

/-- The digits of a byte are worth what the byte is. -/
theorem exists_byteDigits (b : UInt8) : ∃ high low h l, byteDigits b = [high, low] ∧
    hexValue? high = some h ∧ hexValue? low = some l ∧ h * 16 + l = b.toNat := by
  have hb : b.toNat < 256 := b.toNat_lt
  exact ⟨_, _, b.toNat / 16, b.toNat % 16, rfl, hexValue?_digit (by omega),
    hexValue?_digit (by omega), Nat.div_add_mod' b.toNat 16⟩

theorem spellByte_of_low (hb : ¬ 0x80 ≤ b) : spellByte b = [Char.ofNat b.toNat] := by
  rw [spellByte, if_pos]
  exact decide_eq_true (UInt8.not_le.1 hb)

theorem spellByte_of_high (hb : 0x80 ≤ b) : spellByte b = '\\' :: 'x' :: byteDigits b := by
  rw [spellByte, if_neg]
  rw [isAscii, decide_eq_true_iff]
  exact UInt8.not_lt.2 hb

end Spelling

/-! ### Reading back what was written -/

/-- A source whose bytes are its characters. -/
def latin1 (bs : Bytes) : List Char := bs.map fun b => Char.ofNat b.toNat

namespace Token

/-- What a token of a source becomes when its high bytes are written as escapes. Behind a backslash
an escape falls apart. -/
def spelled : Token → List Token
  | char c => if c.toNat < 0x80 then [char c] else [octet (UInt8.ofNat c.toNat)]
  | escaped c =>
    if c.toNat < 0x80 then [escaped c]
    else escaped '\\' :: char 'x' :: (byteDigits (UInt8.ofNat c.toNat)).map char
  | octet b => [octet b]
  | backslash => [backslash]

/-- What a token of a source is meant to become: a high byte is itself, alone or escaped. -/
def meant : Token → Token
  | char c => if c.toNat < 0x80 then char c else octet (UInt8.ofNat c.toNat)
  | escaped c => if c.toNat < 0x80 then escaped c else octet (UInt8.ofNat c.toNat)
  | octet b => octet b
  | backslash => backslash

end Token

section ReadingBack

variable {b : UInt8} {bs : Bytes} {cs : List Char}

theorem tokens_spellByte_of_high (hb : 0x80 ≤ b) :
    tokens (spellByte b ++ cs) = .octet b :: tokens cs := by
  obtain ⟨high, low, h, l, hdigits, hh, hl, hvalue⟩ := exists_byteDigits b
  rw [spellByte_of_high hb, hdigits]
  change tokens ('\\' :: 'x' :: high :: low :: cs) = _
  rw [tokens_octet hh hl, hvalue, UInt8.ofNat_toNat]

/-- Behind a backslash, an escape falls apart. -/
theorem tokens_backslash_spellByte_of_high (hb : 0x80 ≤ b) : tokens ('\\' :: spellByte b ++ cs) =
    .escaped '\\' :: .char 'x' :: (byteDigits b).map .char ++ tokens cs := by
  obtain ⟨high, low, h, l, hdigits, hh, hl, -⟩ := exists_byteDigits b
  rw [spellByte_of_high hb, hdigits]
  change tokens ('\\' :: '\\' :: 'x' :: high :: low :: cs) =
    .escaped '\\' :: .char 'x' :: .char high :: .char low :: tokens cs
  rw [tokens_escaped fun h => absurd h (by decide), tokens_char (by decide),
    tokens_char (ne_backslash_of_digit hh), tokens_char (ne_backslash_of_digit hl)]

theorem char_eq_backslash_iff : Char.ofNat b.toNat = '\\' ↔ b = Scan.backslash := by
  constructor
  · intro h
    have hcode := congrArg Char.toNat h
    rw [Scan.toNat_ofNat_byte] at hcode
    exact UInt8.toNat_inj.1 hcode
  · rintro rfl
    rfl

theorem le_toNat_iff : 0x80 ≤ b ↔ ¬ (Char.ofNat b.toNat).toNat < 0x80 := by
  rw [Scan.toNat_ofNat_byte, Nat.not_lt, UInt8.le_iff_toNat_le]
  rfl

theorem latin1_eq_cons_iff {c : Char} : latin1 bs = c :: cs ↔
    ∃ b rest, bs = b :: rest ∧ Char.ofNat b.toNat = c ∧ latin1 rest = cs := by
  rw [latin1, List.map_eq_cons_iff]
  rfl

theorem spellByte_of_low_char {c : Char} (hc : c.toNat < 0x80) (h : Char.ofNat b.toNat = c) :
    spellByte b = [c] := by
  subst h
  exact spellByte_of_low fun hb => le_toNat_iff.1 hb hc

theorem startsOctet_spelled (bs : Bytes) :
    StartsOctet (bs.flatMap spellByte) ↔ StartsOctet (latin1 bs) := by
  have hdigits : (bs.flatMap spellByte).takeWhile (hexValue? · |>.isSome) =
      (latin1 bs).takeWhile (hexValue? · |>.isSome) := by
    induction bs with
    | nil => rfl
    | cons b bs ih =>
      rw [latin1] at ih ⊢
      rw [List.flatMap_cons, List.map_cons]
      by_cases hb : 0x80 ≤ b
      · have hnone := hexValue?_eq_none_of_high (Nat.not_lt.1 (le_toNat_iff.1 hb))
        rw [spellByte_of_high hb, List.takeWhile_cons_of_neg (by simp [hnone])]
        rfl
      · rw [spellByte_of_low hb, List.singleton_append, List.takeWhile_cons, List.takeWhile_cons,
          ih]
  rw [StartsOctet, StartsOctet, hdigits]

/-- What is read from a source with its high bytes written as escapes. -/
theorem tokens_spelled (bs : Bytes) :
    tokens (bs.flatMap spellByte) = (tokens (latin1 bs)).flatMap Token.spelled := by
  induction hcs : latin1 bs using tokens_induction generalizing bs with
  | nil =>
    rw [latin1, List.map_eq_nil_iff] at hcs
    subst hcs
    rfl
  | last =>
    obtain ⟨b, bs, rfl, hb, hnil⟩ := latin1_eq_cons_iff.1 hcs
    rw [latin1, List.map_eq_nil_iff] at hnil
    rw [hnil, List.flatMap_singleton, spellByte_of_low_char (by decide) hb]
    rfl
  | @octet high low cs h l hh hl ih =>
    obtain ⟨b, bs, rfl, hslash, hcs⟩ := latin1_eq_cons_iff.1 hcs
    obtain ⟨x, bs, rfl, hx, hcs⟩ := latin1_eq_cons_iff.1 hcs
    obtain ⟨b', bs, rfl, hhigh, hcs⟩ := latin1_eq_cons_iff.1 hcs
    obtain ⟨b'', bs, rfl, hlow, hcs⟩ := latin1_eq_cons_iff.1 hcs
    have htext : (b :: x :: b' :: b'' :: bs).flatMap spellByte =
        '\\' :: 'x' :: high :: low :: bs.flatMap spellByte := by
      rw [List.flatMap_cons, List.flatMap_cons, List.flatMap_cons, List.flatMap_cons,
        spellByte_of_low_char (by decide) hslash, spellByte_of_low_char (by decide) hx,
        spellByte_of_low_char (low_of_digit hh) hhigh, spellByte_of_low_char (low_of_digit hl) hlow]
      rfl
    rw [htext, tokens_octet hh hl, tokens_octet hh hl, List.flatMap_cons, ih bs hcs]
    rfl
  | @escaped c cs hno ih =>
    obtain ⟨b, bs, rfl, hslash, hcs⟩ := latin1_eq_cons_iff.1 hcs
    obtain ⟨b', bs, rfl, rfl, rfl⟩ := latin1_eq_cons_iff.1 hcs
    have htext : (b :: b' :: bs).flatMap spellByte =
        '\\' :: spellByte b' ++ bs.flatMap spellByte := by
      rw [List.flatMap_cons, List.flatMap_cons, spellByte_of_low_char (by decide) hslash]
      rfl
    rw [htext, tokens_escaped hno, List.flatMap_cons, ← ih bs rfl, Token.spelled]
    by_cases hb : 0x80 ≤ b'
    · rw [tokens_backslash_spellByte_of_high hb, if_neg (le_toNat_iff.1 hb),
        Scan.toNat_ofNat_byte, UInt8.ofNat_toNat]
    · rw [spellByte_of_low hb, if_pos (not_not.1 fun h => hb (le_toNat_iff.2 h))]
      exact tokens_escaped fun hx hstarts => hno hx ((startsOctet_spelled bs).1 hstarts)
  | @char c cs hne ih =>
    obtain ⟨b, bs, rfl, rfl, rfl⟩ := latin1_eq_cons_iff.1 hcs
    rw [List.flatMap_cons, tokens_char hne, List.flatMap_cons, ← ih bs rfl, Token.spelled]
    by_cases hb : 0x80 ≤ b
    · rw [tokens_spellByte_of_high hb, if_neg (le_toNat_iff.1 hb), Scan.toNat_ofNat_byte,
        UInt8.ofNat_toNat]
      rfl
    · rw [spellByte_of_low hb, if_pos (not_not.1 fun h => hb (le_toNat_iff.2 h))]
      exact tokens_char hne

end ReadingBack

/-! ### Where an escape falls apart -/

/-- The text ends in a backslash that has no character to take. -/
def hanging (cs : List Char) : Bool := cs.foldl (fun taking c => !taking && c == '\\') false

section Hanging

variable {c : Char} {cs first rest : List Char}

theorem hanging_append_singleton (cs : List Char) (c : Char) :
    hanging (cs ++ [c]) = (!hanging cs && c == '\\') := by
  rw [hanging, List.foldl_append]
  rfl

theorem hanging_pair : hanging ('\\' :: c :: rest) = hanging rest := by
  simp [hanging]

theorem hanging_cons_of_ne (hc : c ≠ '\\') : hanging (c :: rest) = hanging rest := by
  rw [hanging, List.foldl_cons, beq_false_of_ne hc]
  rfl

theorem exists_of_hanging (h : hanging cs = true) :
    ∃ front, cs = front ++ ['\\'] ∧ hanging front = false := by
  rcases List.eq_nil_or_concat cs with rfl | ⟨front, c, rfl⟩
  · cases h
  · rw [List.concat_eq_append, hanging_append_singleton] at h
    simp only [Bool.and_eq_true, Bool.not_eq_true', beq_iff_eq] at h
    obtain ⟨hfront, rfl⟩ := h
    exact ⟨front, List.concat_eq_append, hfront⟩

theorem startsOctet_append (hrest : ∀ c ∈ rest.head?, hexValue? c = none) :
    StartsOctet (first ++ rest) ↔ StartsOctet first := by
  have hnone : rest.takeWhile (hexValue? · |>.isSome) = [] := by
    match rest with
    | [] => rfl
    | c :: rest => exact List.takeWhile_cons_of_neg (by simp [hrest c rfl])
  rw [StartsOctet, StartsOctet, List.takeWhile_append, hnone, List.append_nil]
  split_ifs with hall
  · rw [hall]
  · rfl

/-- Texts are taken apart one after the other, where neither a backslash nor an escape goes from
one into the other. -/
theorem tokens_append (hfirst : hanging first = false)
    (hrest : ∀ c ∈ rest.head?, hexValue? c = none) :
    tokens (first ++ rest) = tokens first ++ tokens rest := by
  induction first using tokens_induction with
  | nil => rfl
  | last => cases hfirst
  | @octet high low front h l hh hl ih =>
    rw [hanging_pair, hanging_cons_of_ne (ne_backslash_of_digit hh),
      hanging_cons_of_ne (ne_backslash_of_digit hl)] at hfirst
    have hstep : tokens ('\\' :: 'x' :: high :: low :: front ++ rest) =
        .octet (UInt8.ofNat (h * 16 + l)) :: tokens (front ++ rest) := tokens_octet hh hl
    rw [hstep, ih hfirst, tokens_octet hh hl, List.cons_append]
  | @escaped c front hno ih =>
    rw [hanging_pair] at hfirst
    have hstep : tokens ('\\' :: c :: front ++ rest) = .escaped c :: tokens (front ++ rest) :=
      tokens_escaped fun hx hstarts => hno hx ((startsOctet_append hrest).1 hstarts)
    rw [hstep, ih hfirst, tokens_escaped hno, List.cons_append]
  | @char c front hc ih =>
    rw [hanging_cons_of_ne hc] at hfirst
    have hstep : tokens (c :: front ++ rest) = .char c :: tokens (front ++ rest) := tokens_char hc
    rw [hstep, ih hfirst, tokens_char hc, List.cons_append]

/-- A character behind a hanging backslash is taken by it. -/
theorem tokens_append_of_hanging (hfirst : hanging first = true) :
    ∃ front, tokens first = front ++ [.backslash] ∧ ∀ c rest, (c = 'x' → ¬ StartsOctet rest) →
      tokens (first ++ c :: rest) = front ++ .escaped c :: tokens rest := by
  obtain ⟨front, rfl, hfront⟩ := exists_of_hanging hfirst
  have hslash {cs : List Char} : ∀ c ∈ ('\\' :: cs).head?, hexValue? c = none := by
    rintro c ⟨⟩
    rfl
  refine ⟨tokens front, tokens_append hfront hslash, fun c rest hno => ?_⟩
  rw [List.append_assoc, List.singleton_append, tokens_append hfront hslash, tokens_escaped hno]

/-- A high character is escaped exactly where a hanging backslash stands before it. -/
theorem escaped_mem_tokens_iff (hc : 0x80 ≤ c.toNat) : .escaped c ∈ tokens cs ↔
    ∃ before after, cs = before ++ c :: after ∧ hanging before = true := by
  have hx : c ≠ 'x' := by
    rintro rfl
    exact absurd hc (by decide)
  constructor
  · intro hmem
    induction cs using tokens_induction with
    | nil => cases hmem
    | last => simp [tokens] at hmem
    | octet hh hl ih =>
      rw [tokens_octet hh hl, List.mem_cons] at hmem
      obtain ⟨before, after, rfl, hhanging⟩ := ih (hmem.resolve_left (by simp))
      refine ⟨'\\' :: 'x' :: _ :: _ :: before, after, rfl, ?_⟩
      rwa [hanging_pair, hanging_cons_of_ne (ne_backslash_of_digit hh),
        hanging_cons_of_ne (ne_backslash_of_digit hl)]
    | escaped hno ih =>
      rw [tokens_escaped hno, List.mem_cons, Token.escaped.injEq] at hmem
      rcases hmem with rfl | hmem
      · exact ⟨['\\'], _, rfl, rfl⟩
      · obtain ⟨before, after, rfl, hhanging⟩ := ih hmem
        exact ⟨'\\' :: _ :: before, after, rfl, by rwa [hanging_pair]⟩
    | char hne ih =>
      rw [tokens_char hne, List.mem_cons] at hmem
      obtain ⟨before, after, rfl, hhanging⟩ := ih (hmem.resolve_left (by simp))
      exact ⟨_ :: before, after, rfl, by rwa [hanging_cons_of_ne hne]⟩
  · rintro ⟨before, after, rfl, hhanging⟩
    obtain ⟨front, -, happend⟩ := tokens_append_of_hanging hhanging
    rw [happend c after fun h => absurd h hx]
    simp

end Hanging

section Positions

variable {b : UInt8} {before after : Bytes}

/-- However bytes are written, if only a backslash ends in one. -/
theorem hanging_flatMap_iff {write : UInt8 → List Char} (hslash : write Scan.backslash = ['\\'])
    (hwrite : ∀ b, b ≠ Scan.backslash → ∃ front c, write b = front ++ [c] ∧ c ≠ '\\')
    (bs : Bytes) : hanging (bs.flatMap write) = false ↔ Even (Scan.closingRun bs) := by
  induction bs using List.reverseRecOn with
  | nil => simp [hanging, Scan.closingRun]
  | append_singleton bs b ih =>
    rw [List.flatMap_append, List.flatMap_singleton]
    by_cases hb : b = Scan.backslash
    · subst hb
      rw [hslash, hanging_append_singleton, Scan.closingRun_append_backslash, Nat.even_add_one,
        ← ih]
      simp
    · obtain ⟨front, c, hfront, hc⟩ := hwrite b hb
      rw [hfront, ← List.append_assoc, hanging_append_singleton, Scan.closingRun_append_of_ne bs hb]
      simp [hc]

theorem hanging_latin1_iff (bs : Bytes) :
    hanging (latin1 bs) = false ↔ Even (Scan.closingRun bs) := by
  rw [latin1, List.map_eq_flatMap]
  exact hanging_flatMap_iff rfl (fun b hb => ⟨[], _, rfl, fun h => hb (char_eq_backslash_iff.1 h)⟩)
    bs

theorem hanging_spelled_iff (bs : Bytes) :
    hanging (bs.flatMap spellByte) = false ↔ Even (Scan.closingRun bs) := by
  refine hanging_flatMap_iff rfl (fun b hb => ?_) bs
  by_cases hhigh : 0x80 ≤ b
  · obtain ⟨high, low, h, l, hdigits, -, hl, -⟩ := exists_byteDigits b
    exact ⟨['\\', 'x', high], low, by rw [spellByte_of_high hhigh, hdigits]; rfl,
      ne_backslash_of_digit hl⟩
  · exact ⟨[], _, spellByte_of_low hhigh, fun h => hb (char_eq_backslash_iff.1 h)⟩

/-- A high byte is read back as itself exactly behind an even number of backslashes. -/
theorem tokens_at_iff (hb : 0x80 ≤ b) : tokens ((before ++ b :: after).flatMap spellByte) =
      tokens (before.flatMap spellByte) ++ .octet b :: tokens (after.flatMap spellByte) ↔
    Even (Scan.closingRun before) := by
  rw [List.flatMap_append, List.flatMap_cons, ← hanging_spelled_iff]
  constructor
  · intro h
    by_contra hodd
    rw [Bool.not_eq_false] at hodd
    obtain ⟨front, hfront, happend⟩ := tokens_append_of_hanging hodd
    have hfallen := happend '\\' ('x' :: byteDigits b ++ after.flatMap spellByte)
      fun hx => absurd hx (by decide)
    rw [spellByte_of_high hb, List.cons_append, hfallen, hfront, List.append_assoc,
      List.append_cancel_left_eq, List.singleton_append] at h
    cases h
  · intro heven
    rw [tokens_append heven, tokens_spellByte_of_high hb]
    rw [spellByte_of_high hb]
    rintro c ⟨⟩
    rfl

end Positions

namespace Token

/-- The token is a high character and the backslash that takes it. -/
def IsEscapedHigh (t : Token) : Prop := ∃ c, 0x80 ≤ c.toNat ∧ t = escaped c

theorem spelled_of_not_isEscapedHigh {t : Token} (h : ¬ t.IsEscapedHigh) :
    t.spelled = [t.meant] := by
  cases t with
  | char c =>
    rw [spelled, meant]
    split_ifs <;> rfl
  | escaped c =>
    have hc : c.toNat < 0x80 := Nat.not_le.1 fun hc => h ⟨c, hc, rfl⟩
    rw [spelled, meant, if_pos hc, if_pos hc]
  | octet b => rfl
  | backslash => rfl

theorem length_spelled_of_isEscapedHigh {t : Token} (h : t.IsEscapedHigh) :
    t.spelled.length = 4 := by
  obtain ⟨c, hc, rfl⟩ := h
  rw [spelled, if_neg (Nat.not_lt.2 hc)]
  rfl

theorem length_le_spelled (ts : List Token) : ts.length ≤ (ts.flatMap spelled).length := by
  induction ts with
  | nil => exact Nat.zero_le 0
  | cons t ts ih =>
    rw [List.flatMap_cons, List.length_append, List.length_cons]
    by_cases ht : t.IsEscapedHigh
    · rw [length_spelled_of_isEscapedHigh ht]
      omega
    · rw [spelled_of_not_isEscapedHigh ht, List.length_singleton]
      omega

/-- Tokens become what they are meant to if there is no escaped high character among them. -/
theorem flatMap_spelled_eq_iff (ts : List Token) :
    ts.flatMap spelled = ts.map meant ↔ ∀ t ∈ ts, ¬ t.IsEscapedHigh := by
  induction ts with
  | nil => simp
  | cons t ts ih =>
    rw [List.flatMap_cons, List.map_cons, List.forall_mem_cons, ← ih]
    by_cases ht : t.IsEscapedHigh
    · refine iff_of_false (fun h => ?_) fun h => h.1 ht
      have hlength := congrArg List.length h
      have hrest := length_le_spelled ts
      rw [List.length_append, length_spelled_of_isEscapedHigh ht, List.length_cons,
        List.length_map] at hlength
      omega
    · rw [spelled_of_not_isEscapedHigh ht, List.singleton_append, List.cons.injEq]
      exact and_congr_left' (iff_of_true rfl ht)

end Token

section Source

variable {s : Source}

/-- A source has an escaped high byte where the run of backslashes before one is odd. -/
theorem exists_isEscapedHigh_iff (bs : Bytes) : (∃ t ∈ tokens (latin1 bs), t.IsEscapedHigh) ↔
    ∃ before b after, bs = before ++ b :: after ∧ 0x80 ≤ b ∧
      ¬ Even (Scan.closingRun before) := by
  constructor
  · rintro ⟨t, hmem, c, hc, rfl⟩
    obtain ⟨before, after, hsplit, hhanging⟩ := (escaped_mem_tokens_iff hc).1 hmem
    rw [latin1, List.map_eq_append_iff] at hsplit
    obtain ⟨before, rest, rfl, rfl, hsplit⟩ := hsplit
    rw [List.map_eq_cons_iff] at hsplit
    obtain ⟨b, after, rfl, rfl, rfl⟩ := hsplit
    refine ⟨before, b, after, rfl, le_toNat_iff.2 (Nat.not_lt.2 hc), ?_⟩
    rw [← hanging_latin1_iff, Bool.not_eq_false]
    exact hhanging
  · rintro ⟨before, b, after, rfl, hb, hodd⟩
    rw [← hanging_latin1_iff, Bool.not_eq_false] at hodd
    have hc := Nat.not_lt.1 (le_toNat_iff.1 hb)
    refine ⟨_, (escaped_mem_tokens_iff hc).2 ⟨latin1 before, latin1 after, ?_, hodd⟩, _, hc, rfl⟩
    rw [latin1, List.map_append]
    rfl

/-- In the text of a source of single bytes, a high byte is read back as itself exactly if an even
number of backslashes stands right before it. The text as a whole is read back as the source was
meant exactly if that is so for each of its high bytes; behind an odd number, the escape is
read as a backslash, a letter and two digits. -/
theorem high_bytes_read_back (hs : s.encoding.isSingleByte = true) :
    ∃ text, s.dialectText = .ok text ∧
      tokens text = (tokens (latin1 s.bytes)).flatMap Token.spelled ∧
      (tokens text = (tokens (latin1 s.bytes)).map Token.meant ↔
        ∀ before b after, s.bytes = before ++ b :: after → 0x80 ≤ b →
          Even (Scan.closingRun before)) ∧
      ∀ before b after, s.bytes = before ++ b :: after → 0x80 ≤ b →
        (tokens text = tokens (before.flatMap spellByte) ++
            .octet b :: tokens (after.flatMap spellByte) ↔
          Even (Scan.closingRun before)) := by
  have hutf8 : s.encoding ≠ .utf8 := by
    intro h
    rw [h] at hs
    cases hs
  refine ⟨_, Source.dialectText_of_single_byte hutf8, tokens_spelled s.bytes, ?_, ?_⟩
  · rw [tokens_spelled, Token.flatMap_spelled_eq_iff]
    have hexists := not_congr (exists_isEscapedHigh_iff s.bytes)
    push Not at hexists
    exact hexists
  · intro before b after hsplit hb
    rw [hsplit]
    exact tokens_at_iff hb

/-- A backslash and a high byte. The pattern finds a text of four characters and not the byte. -/
theorem high_bytes_read_back_escaped :
    let s : Source := ⟨[0x5C, 0xFF], .binary⟩
    ∃ text c, s.dialectText = .ok text ∧
      tokens text = [.escaped '\\', .char 'x', .char 'F', .char 'F'] ∧
      tokens text ≠ (tokens (latin1 s.bytes)).map Token.meant ∧
      compileDialect Regex.engine none s {} = .ok c ∧ c.matcher.find? [0xFF] 0 = none ∧
      c.matcher.find? [0x5C, 0x78, 0x46, 0x46] 0 = some (0, 4) := by
  intro s
  obtain ⟨text, htext, hspelled, hmeant, -⟩ := high_bytes_read_back (s := s) rfl
  obtain ⟨c, hc, hnone⟩ : ∃ c, compileDialect Regex.engine none s {} = .ok c ∧
      c.matcher.find? [0xFF] 0 = none := found_of_run (by decide +kernel)
  obtain ⟨c', hc', hfound⟩ : ∃ c, compileDialect Regex.engine none s {} = .ok c ∧
      c.matcher.find? [0x5C, 0x78, 0x46, 0x46] 0 = some (0, 4) := found_of_run (by decide +kernel)
  obtain rfl : c = c' := Except.ok.inj (hc.symm.trans hc')
  refine ⟨text, c, htext, hspelled, fun h => ?_, hc, hnone, hfound⟩
  have hodd := hmeant.1 h [0x5C] 0xFF [] rfl (by decide)
  exact absurd hodd (by decide)

end Source
end CallSite.Pattern
