import CallSite.Text.Utf8
import Mathlib.Data.List.Basic
import Mathlib.Tactic.SplitIfs

/-!
# Byte strings that spell a text

Reading from the front finds a scalar value exactly where its bytes stand. So a byte string is
valid exactly if it is what some text is written as.
-/
namespace CallSite.Utf8

/-! ### What can stand at the front -/

theorem tails_eq_scalar_iff {value width more : Nat} {bs : Bytes} {c : Char} {w : Nat} :
    tails value width more bs = .scalar c w ↔
      ∃ ts rest, bs = ts ++ rest ∧ ts.length = more ∧ (∀ t ∈ ts, 0x80 ≤ t ∧ t ≤ 0xBF) ∧
        c = Char.ofNat (ts.foldl extend value) ∧ w = width + more := by
  induction more generalizing value width bs with
  | zero =>
    simp only [tails, Front.scalar.injEq, List.length_eq_zero_iff]
    constructor
    · rintro ⟨rfl, rfl⟩
      exact ⟨[], bs, rfl, rfl, by simp, rfl, rfl⟩
    · rintro ⟨_, rest, rfl, rfl, -, rfl, rfl⟩
      exact ⟨rfl, rfl⟩
  | succ more ih =>
    cases bs with
    | nil =>
      simp only [tails, reduceCtorEq, false_iff]
      rintro ⟨ts, rest, hsplit, hlength, -⟩
      simp [(List.append_eq_nil_iff.1 hsplit.symm).1] at hlength
    | cons b bs =>
      by_cases hb : 0x80 ≤ b ∧ b ≤ 0xBF
      · rw [tails, if_pos hb, ih]
        constructor
        · rintro ⟨ts, rest, rfl, rfl, hts, rfl, hw⟩
          refine ⟨b :: ts, rest, rfl, rfl, ?_, by rw [List.foldl_cons], by omega⟩
          simpa [hb] using hts
        · rintro ⟨ts, rest, hsplit, hlength, hts, hc, hw⟩
          cases ts with
          | nil => simp at hlength
          | cons t ts =>
            obtain ⟨rfl, rfl⟩ := List.cons.inj hsplit
            exact ⟨ts, rest, rfl, by simpa using hlength,
              fun t ht => hts t (List.mem_cons_of_mem _ ht), by rw [hc, List.foldl_cons], by omega⟩
      · rw [tails, if_neg hb]
        simp only [reduceCtorEq, false_iff]
        rintro ⟨ts, rest, hsplit, hlength, hts, -⟩
        cases ts with
        | nil => simp at hlength
        | cons t ts =>
          obtain ⟨rfl, -⟩ := List.cons.inj hsplit
          exact hb (hts _ List.mem_cons_self)

theorem tails_ne_done (value width more : Nat) (bs : Bytes) :
    tails value width more bs ≠ .done := by
  induction more generalizing value width bs with
  | zero => simp [tails]
  | succ more ih =>
    cases bs with
    | nil => simp [tails]
    | cons b bs =>
      rw [tails]
      split_ifs
      · exact ih _ _ bs
      · simp

/-- The leads of sequences of two, three and four bytes. -/
theorem lead?_eq_some_iff {a : UInt8} {lead : Lead} : lead? a = some lead ↔
    (0xC2 ≤ a.toNat ∧ a.toNat < 0xE0 ∧ lead = ⟨a.toNat - 0xC0, 0x80, 0xBF, 0⟩) ∨
    (0xE0 ≤ a.toNat ∧ a.toNat < 0xF0 ∧
      lead = ⟨a.toNat - 0xE0, if a = 0xE0 then 0xA0 else 0x80,
        if a = 0xED then 0x9F else 0xBF, 1⟩) ∨
    (0xF0 ≤ a.toNat ∧ a.toNat < 0xF5 ∧
      lead = ⟨a.toNat - 0xF0, if a = 0xF0 then 0x90 else 0x80,
        if a = 0xF4 then 0x8F else 0xBF, 2⟩) := by
  have h₁ : a < 0xC2 ↔ a.toNat < 0xC2 := UInt8.lt_iff_toNat_lt
  have h₂ : a < 0xE0 ↔ a.toNat < 0xE0 := UInt8.lt_iff_toNat_lt
  have h₃ : a < 0xF0 ↔ a.toNat < 0xF0 := UInt8.lt_iff_toNat_lt
  have h₄ : a < 0xF5 ↔ a.toNat < 0xF5 := UInt8.lt_iff_toNat_lt
  simp only [lead?, h₁, h₂, h₃, h₄]
  grind

theorem front_of_ascii {a : UInt8} (h : isAscii a = true) (bs : Bytes) :
    front (a :: bs) = .scalar (Char.ofNat a.toNat) 1 := by
  rw [front.eq_def]
  exact if_pos h

theorem front_of_lead {a b : UInt8} {lead : Lead} (h : lead? a = some lead) (bs : Bytes) :
    front (a :: b :: bs) =
      if lead.low ≤ b ∧ b ≤ lead.high then tails (extend lead.bits b) 2 lead.more bs
      else .broken 1 := by
  have hascii : ¬ isAscii a = true := by
    rw [isAscii, decide_eq_true_iff, UInt8.lt_iff_toNat_lt]
    change ¬ a.toNat < 0x80
    rw [lead?_eq_some_iff] at h
    omega
  rw [front.eq_def]
  simp only [if_neg hascii, h]

theorem front_of_no_sequence {a : UInt8} {bs : Bytes} (hascii : ¬ isAscii a = true)
    (h : lead? a = none ∨ bs = []) : front (a :: bs) = .broken 1 := by
  rw [front.eq_def]
  simp only [if_neg hascii]
  rcases h with h | rfl
  · rw [h]
  · cases lead? a <;> rfl

theorem front_ne_done (a : UInt8) (bs : Bytes) : front (a :: bs) ≠ .done := by
  by_cases ha : isAscii a = true
  · simp [front_of_ascii ha]
  · cases hlead : lead? a with
    | none => simp [front_of_no_sequence ha (.inl hlead)]
    | some lead =>
      cases bs with
      | nil => simp [front_of_no_sequence ha (.inr rfl)]
      | cons b bs =>
        rw [front_of_lead hlead]
        split_ifs
        · exact tails_ne_done _ _ _ bs
        · simp

theorem front_eq_scalar_iff {bs : Bytes} {c : Char} {w : Nat} :
    front bs = .scalar c w ↔
      (∃ a rest, bs = a :: rest ∧ isAscii a = true ∧ c = Char.ofNat a.toNat ∧ w = 1) ∨
      ∃ a lead b ts rest, lead? a = some lead ∧ bs = a :: b :: (ts ++ rest) ∧
        (lead.low ≤ b ∧ b ≤ lead.high) ∧ ts.length = lead.more ∧
        (∀ t ∈ ts, 0x80 ≤ t ∧ t ≤ 0xBF) ∧
        c = Char.ofNat (ts.foldl extend (extend lead.bits b)) ∧ w = 2 + lead.more := by
  constructor
  · intro h
    match bs with
    | [] => cases h
    | a :: bs =>
      by_cases ha : isAscii a = true
      · rw [front_of_ascii ha] at h
        cases h
        exact .inl ⟨a, bs, rfl, ha, rfl, rfl⟩
      · cases hlead : lead? a with
        | none =>
          rw [front_of_no_sequence ha (.inl hlead)] at h
          cases h
        | some lead =>
          cases bs with
          | nil =>
            rw [front_of_no_sequence ha (.inr rfl)] at h
            cases h
          | cons b bs =>
            rw [front_of_lead hlead] at h
            split_ifs at h with hb
            obtain ⟨ts, rest, rfl, hts⟩ := tails_eq_scalar_iff.1 h
            exact .inr ⟨a, lead, b, ts, rest, hlead, rfl, hb, hts⟩
  · rintro (⟨a, rest, rfl, ha, rfl, rfl⟩ | ⟨a, lead, b, ts, rest, hlead, rfl, hb, hts⟩)
    · exact front_of_ascii ha rest
    · rw [front_of_lead hlead, if_pos hb]
      exact tails_eq_scalar_iff.2 ⟨ts, rest, rfl, hts⟩

/-! ### Bytes as numbers -/

theorem extend_eq (value : Nat) (b : UInt8) : extend value b = value * 64 + (b.toNat - 0x80) := rfl

theorem le_iff {a b : UInt8} {m n : Nat} (ha : a.toNat = m) (hb : b.toNat = n) :
    a ≤ b ↔ m ≤ n := by
  rw [UInt8.le_iff_toNat_le, ha, hb]

/-- After two of the leads of each length there is less to choose from for the second byte. -/
theorem second_iff {a b x y l h : UInt8} (hl : 0x80 ≤ l.toNat) (hh : h.toNat ≤ 0xBF) :
    (if a = x then l else 0x80) ≤ b ∧ b ≤ (if a = y then h else 0xBF) ↔
      0x80 ≤ b.toNat ∧ b.toNat ≤ 0xBF ∧ (a.toNat = x.toNat → l.toNat ≤ b.toNat) ∧
        (a.toNat = y.toNat → b.toNat ≤ h.toNat) := by
  simp only [UInt8.toNat_inj, UInt8.le_iff_toNat_le, apply_ite UInt8.toNat, UInt8.reduceToNat]
  grind

theorem exists_byte {n : Nat} (h : n < 256) : ∃ a : UInt8, UInt8.ofNat n = a ∧ a.toNat = n :=
  ⟨_, rfl, by rw [UInt8.toNat_ofNat', Nat.mod_eq_of_lt h]⟩

theorem exists_tail (n : Nat) : ∃ b : UInt8, UInt8.ofNat (0x80 + n % 64) = b ∧
    b.toNat = 0x80 + n % 64 ∧ 0x80 ≤ b ∧ b ≤ 0xBF := by
  obtain ⟨b, hb, hbn⟩ := exists_byte (n := 0x80 + n % 64) (by omega)
  refine ⟨b, hb, hbn, (le_iff rfl hbn).2 ?_, (le_iff hbn rfl).2 ?_⟩
  · exact Nat.le_add_right _ _
  · change 0x80 + n % 64 ≤ 0xBF
    omega

theorem byte_eq {n : Nat} {b : UInt8} (h : n = b.toNat) : UInt8.ofNat n = b := by
  rw [h, UInt8.ofNat_toNat]

theorem toNat_char {n : Nat} (h : n < 0xD800 ∨ 0xDFFF < n ∧ n < 0x110000) :
    (Char.ofNat n).toNat = n := by
  rw [Char.ofNat, dif_pos h]
  rfl

/-! ### Reading back what was written -/

/-- The bytes of a scalar value are read as this value, whatever stands behind them. -/
theorem front_encodeChar (c : Char) (rest : Bytes) :
    front (encodeChar c ++ rest) = .scalar c (encodeChar c).length := by
  have hvalid : c.toNat < 0xD800 ∨ 0xDFFF < c.toNat ∧ c.toNat < 0x110000 := c.valid
  have hc {n : Nat} (h : n = c.toNat) : c = Char.ofNat n := by rw [h, Char.ofNat_toNat]
  rw [front_eq_scalar_iff]
  simp only [encodeChar]
  generalize c.toNat = n at hvalid hc
  obtain ⟨z, hz, hzn, hzt⟩ := exists_tail (n / 1)
  obtain ⟨y, hy, hyn, hyt⟩ := exists_tail (n / 64)
  obtain ⟨x, hx, hxn, hxt⟩ := exists_tail (n / 4096)
  simp only [hz, hy, hx]
  split_ifs with h₁ h₂ h₃
  · obtain ⟨a, ha, han⟩ := exists_byte (n := n) (by omega)
    rw [ha]
    refine .inl ⟨a, rest, rfl, ?_, hc han, rfl⟩
    rw [isAscii, decide_eq_true_iff, UInt8.lt_iff_toNat_lt, han]
    exact h₁
  · obtain ⟨a, ha, han⟩ := exists_byte (n := 0xC0 + n / 64) (by omega)
    have hlead := (lead?_eq_some_iff (a := a)).2 (.inl ⟨by omega, by omega, rfl⟩)
    rw [ha]
    refine .inr ⟨a, _, z, [], rest, hlead, rfl, hzt, rfl, by simp, hc ?_, rfl⟩
    simp only [List.foldl_nil, extend_eq, han, hzn]
    omega
  · obtain ⟨a, ha, han⟩ := exists_byte (n := 0xE0 + n / 4096) (by omega)
    have hlead := (lead?_eq_some_iff (a := a)).2 (.inr (.inl ⟨by omega, by omega, rfl⟩))
    rw [ha]
    refine .inr ⟨a, _, y, [z], rest, hlead, rfl, ?_, rfl, by simpa using hzt, hc ?_, rfl⟩
    · rw [second_iff (by decide) (by decide), hyn, han]
      simp only [UInt8.reduceToNat]
      omega
    · simp only [List.foldl_nil, List.foldl_cons, extend_eq, han, hyn, hzn]
      omega
  · obtain ⟨a, ha, han⟩ := exists_byte (n := 0xF0 + n / 262144) (by omega)
    have hlead := (lead?_eq_some_iff (a := a)).2 (.inr (.inr ⟨by omega, by omega, rfl⟩))
    rw [ha]
    refine .inr ⟨a, _, x, [y, z], rest, hlead, rfl, ?_, rfl, by simpa using ⟨hyt, hzt⟩, hc ?_, rfl⟩
    · rw [second_iff (by decide) (by decide), hxn, han]
      simp only [UInt8.reduceToNat]
      omega
    · simp only [List.foldl_nil, List.foldl_cons, extend_eq, han, hxn, hyn, hzn]
      omega

/-! ### Writing what was read

The bytes of a sequence are the digits, to the base 64, of the value that they give. -/

theorem encodeChar_one {a : UInt8} (ha : isAscii a = true) :
    encodeChar (Char.ofNat a.toNat) = [a] := by
  have han : a.toNat < 0x80 := by
    rwa [isAscii, decide_eq_true_iff, UInt8.lt_iff_toNat_lt] at ha
  simp only [encodeChar, toNat_char (n := a.toNat) (by omega), if_pos han, UInt8.ofNat_toNat]

section Sequences

variable {a b t u : UInt8}

theorem encodeChar_two (ha : 0xC2 ≤ a.toNat ∧ a.toNat < 0xE0)
    (hb : 0x80 ≤ b.toNat ∧ b.toNat ≤ 0xBF) :
    encodeChar (Char.ofNat (extend (a.toNat - 0xC0) b)) = [a, b] := by
  rw [extend_eq]
  generalize hv : (a.toNat - 0xC0) * 64 + (b.toNat - 0x80) = v
  have h₀ : 0xC0 + v / 64 = a.toNat := by omega
  have h₁ : 0x80 + v / 1 % 64 = b.toNat := by omega
  have hone : ¬ v < 0x80 := by omega
  have htwo : v < 0x800 := by omega
  simp only [encodeChar, toNat_char (n := v) (by omega), if_neg hone, if_pos htwo, byte_eq h₀,
    byte_eq h₁]

theorem encodeChar_three (ha : 0xE0 ≤ a.toNat ∧ a.toNat < 0xF0)
    (hb : (if a = 0xE0 then 0xA0 else 0x80) ≤ b ∧ b ≤ (if a = 0xED then 0x9F else 0xBF))
    (ht : 0x80 ≤ t.toNat ∧ t.toNat ≤ 0xBF) :
    encodeChar (Char.ofNat (extend (extend (a.toNat - 0xE0) b) t)) = [a, b, t] := by
  rw [second_iff (by decide) (by decide)] at hb
  simp only [UInt8.reduceToNat] at hb
  rw [extend_eq, extend_eq]
  generalize hv : ((a.toNat - 0xE0) * 64 + (b.toNat - 0x80)) * 64 + (t.toNat - 0x80) = v
  have h₀ : 0xE0 + v / 4096 = a.toNat := by omega
  have h₁ : 0x80 + v / 64 % 64 = b.toNat := by omega
  have h₂ : 0x80 + v / 1 % 64 = t.toNat := by omega
  have hone : ¬ v < 0x80 := by omega
  have htwo : ¬ v < 0x800 := by omega
  have hthree : v < 0x10000 := by omega
  simp only [encodeChar, toNat_char (n := v) (by omega), if_neg hone, if_neg htwo,
    if_pos hthree, byte_eq h₀, byte_eq h₁, byte_eq h₂]

theorem encodeChar_four (ha : 0xF0 ≤ a.toNat ∧ a.toNat < 0xF5)
    (hb : (if a = 0xF0 then 0x90 else 0x80) ≤ b ∧ b ≤ (if a = 0xF4 then 0x8F else 0xBF))
    (ht : 0x80 ≤ t.toNat ∧ t.toNat ≤ 0xBF) (hu : 0x80 ≤ u.toNat ∧ u.toNat ≤ 0xBF) :
    encodeChar (Char.ofNat (extend (extend (extend (a.toNat - 0xF0) b) t) u)) = [a, b, t, u] := by
  rw [second_iff (by decide) (by decide)] at hb
  simp only [UInt8.reduceToNat] at hb
  rw [extend_eq, extend_eq, extend_eq]
  generalize hv : (((a.toNat - 0xF0) * 64 + (b.toNat - 0x80)) * 64 + (t.toNat - 0x80)) * 64 +
    (u.toNat - 0x80) = v
  have h₀ : 0xF0 + v / 262144 = a.toNat := by omega
  have h₁ : 0x80 + v / 4096 % 64 = b.toNat := by omega
  have h₂ : 0x80 + v / 64 % 64 = t.toNat := by omega
  have h₃ : 0x80 + v / 1 % 64 = u.toNat := by omega
  have hone : ¬ v < 0x80 := by omega
  have htwo : ¬ v < 0x800 := by omega
  have hthree : ¬ v < 0x10000 := by omega
  simp only [encodeChar, toNat_char (n := v) (by omega), if_neg hone, if_neg htwo,
    if_neg hthree, byte_eq h₀, byte_eq h₁, byte_eq h₂, byte_eq h₃]

end Sequences

theorem encodeChar_of_lead {a b : UInt8} {lead : Lead} {ts : Bytes} (hlead : lead? a = some lead)
    (hb : lead.low ≤ b ∧ b ≤ lead.high) (hlength : ts.length = lead.more)
    (hts : ∀ t ∈ ts, 0x80 ≤ t ∧ t ≤ 0xBF) :
    encodeChar (Char.ofNat (ts.foldl extend (extend lead.bits b))) = a :: b :: ts := by
  have hbound {t : UInt8} (ht : 0x80 ≤ t ∧ t ≤ 0xBF) : 0x80 ≤ t.toNat ∧ t.toNat ≤ 0xBF :=
    ⟨(le_iff rfl rfl).1 ht.1, (le_iff rfl rfl).1 ht.2⟩
  rcases lead?_eq_some_iff.1 hlead with ⟨ha, ha', rfl⟩ | ⟨ha, ha', rfl⟩ | ⟨ha, ha', rfl⟩
  · obtain rfl := List.length_eq_zero_iff.1 hlength
    exact encodeChar_two ⟨ha, ha'⟩ (hbound hb)
  · obtain ⟨t, rfl⟩ := List.length_eq_one_iff.1 hlength
    exact encodeChar_three ⟨ha, ha'⟩ hb (hbound (hts t List.mem_cons_self))
  · obtain ⟨t, u, rfl⟩ := List.length_eq_two.1 hlength
    exact encodeChar_four ⟨ha, ha'⟩ hb (hbound (hts t List.mem_cons_self))
      (hbound (hts u (List.mem_cons_of_mem _ List.mem_cons_self)))

/-- A scalar value is read only where its own bytes stand. -/
theorem exists_of_front {bs : Bytes} {c : Char} {w : Nat} (h : front bs = .scalar c w) :
    ∃ rest, bs = encodeChar c ++ rest ∧ w = (encodeChar c).length := by
  rcases front_eq_scalar_iff.1 h with
    ⟨a, rest, rfl, ha, rfl, rfl⟩ | ⟨a, lead, b, ts, rest, hlead, rfl, hb, hlength, hts, rfl, rfl⟩
  · refine ⟨rest, ?_⟩
    rw [encodeChar_one ha]
    exact ⟨rfl, rfl⟩
  · refine ⟨rest, ?_⟩
    rw [encodeChar_of_lead hlead hb hlength hts]
    exact ⟨rfl, by rw [List.length_cons, List.length_cons, hlength, Nat.add_comm]⟩

/-! ### Whole byte strings -/

theorem encodeChar_length_pos (c : Char) : 0 < (encodeChar c).length := by
  rw [encodeChar]
  split_ifs <;> simp

theorem piecesFrom_eq (skip : Nat) (bs : Bytes) : piecesFrom skip bs = pieces (bs.drop skip) := by
  induction skip generalizing bs with
  | zero => rfl
  | succ skip ih =>
    cases bs with
    | nil => rfl
    | cons b bs => exact ih bs

theorem pieces_encodeChar_append (c : Char) (bs : Bytes) :
    pieces (encodeChar c ++ bs) = some c :: pieces bs := by
  have hfront := front_encodeChar c bs
  have hpos := encodeChar_length_pos c
  cases hc : encodeChar c with
  | nil => simp [hc] at hpos
  | cons a as =>
    rw [hc] at hfront
    rw [List.cons_append] at hfront ⊢
    rw [pieces, piecesFrom, hfront]
    simp only [List.length_cons, Nat.add_sub_cancel]
    rw [piecesFrom_eq, List.drop_left]

theorem pieces_encodeChars_append (cs : List Char) (bs : Bytes) :
    pieces (encodeChars cs ++ bs) = cs.map some ++ pieces bs := by
  induction cs with
  | nil => rfl
  | cons c cs ih =>
    rw [encodeChars, List.flatMap_cons, List.append_assoc, pieces_encodeChar_append, ← encodeChars,
      ih]
    rfl

theorem lossyChars_encode (text : String) : lossyChars (encode text) = text.toList := by
  have hpieces := pieces_encodeChars_append text.toList []
  rw [List.append_nil] at hpieces
  rw [lossyChars, encode, hpieces, List.map_append, List.map_map]
  exact (List.append_nil _).trans (List.map_id _)

theorem isValid_encodeChars_append (cs : List Char) (bs : Bytes) :
    isValid (encodeChars cs ++ bs) = isValid bs := by
  rw [isValid, pieces_encodeChars_append, List.all_append]
  simp [isValid]

theorem exists_of_isValid {bs : Bytes} (h : isValid bs = true) : ∃ cs, bs = encodeChars cs := by
  induction hn : bs.length using Nat.strongRecOn generalizing bs with
  | ind n ih =>
    match bs with
    | [] => exact ⟨[], rfl⟩
    | b :: bs =>
      cases hfront : front (b :: bs) with
      | done => exact absurd hfront (front_ne_done b bs)
      | broken w => simp [isValid, pieces, piecesFrom, hfront] at h
      | scalar c w =>
        obtain ⟨rest, hsplit, -⟩ := exists_of_front hfront
        have hrest : isValid rest = true := by
          rw [isValid, hsplit, pieces_encodeChar_append] at h
          simpa [isValid] using h
        have hshorter : rest.length < n := by
          have hpos := encodeChar_length_pos c
          rw [← hn, hsplit, List.length_append]
          omega
        obtain ⟨cs, rfl⟩ := ih rest.length hshorter hrest rfl
        exact ⟨c :: cs, by rw [hsplit, encodeChars, encodeChars, List.flatMap_cons]⟩

/-- A byte string is valid exactly if it is what some text is written as. -/
theorem isValid_iff {bs : Bytes} : isValid bs = true ↔ ∃ text, bs = encode text := by
  constructor
  · intro h
    obtain ⟨cs, rfl⟩ := exists_of_isValid h
    exact ⟨String.ofList cs, by rw [encode, String.toList_ofList]⟩
  · rintro ⟨text, rfl⟩
    have h := isValid_encodeChars_append text.toList []
    rwa [List.append_nil] at h

end CallSite.Utf8
