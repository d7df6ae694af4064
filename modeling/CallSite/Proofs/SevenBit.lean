import CallSite.Pattern.Site
import CallSite.Proofs.Escapes
import CallSite.Proofs.Reconciliation

/-!
# Sources of seven bits

The scan for bytes from `80` on jumps behind every escape that it reads. Nothing is missed by
that, for no escape begins inside another one. So its answer is about every position of the
source, whether the scan comes by there or not.
-/
namespace CallSite.Pattern.Scan

/-- At `i` there stand a backslash, an `x` and two digits that together are `80` or more. -/
def HighEscapeAt (bs : Bytes) (i : Nat) : Prop :=
  ∃ high low h l, (bs.drop i).take 4 = [backslash, letterX, high, low] ∧
    IsHexDigit high.toNat h ∧ 8 ≤ h ∧ IsHexDigit low.toNat l

/-- No byte is above `7F`, neither one that stands there nor one that an escape denotes. -/
def AllLow (bs : Bytes) : Prop := (∀ b ∈ bs, b < 0x80) ∧ ∀ i, ¬ HighEscapeAt bs i

/-! ### One byte -/

section Cons

variable {a high low : UInt8} {h l : Nat}

theorem isSevenBit_cons_of_ne (ha : a ≠ backslash) (rest : Bytes) :
    isSevenBit (a :: rest) = (isAscii a && isSevenBit rest) := by
  rw [isSevenBit.eq_def]
  cases hascii : isAscii a with
  | false => simp only [hascii, Bool.not_false, if_true, Bool.false_and]
  | true =>
    simp only [hascii, Bool.not_true, Bool.false_eq_true, if_false, Bool.true_and, ha, false_and]
    split
    · split
      · rfl
      · rfl
    · rfl

theorem isSevenBit_of_digits (hh : IsHexDigit high.toNat h) (hl : IsHexDigit low.toNat l)
    (rest : Bytes) :
    isSevenBit (backslash :: letterX :: high :: low :: rest) =
      (decide (h < 8) && isSevenBit rest) := by
  have hascii : isAscii backslash = true := rfl
  have hlow := hl.lt
  rw [isSevenBit.eq_def]
  simp only [hascii, digitValue?_eq_some_iff.2 hh, digitValue?_eq_some_iff.2 hl, Bool.not_true,
    Bool.false_eq_true, if_false, and_self, if_true]
  by_cases hvalue : h < 8
  · rw [if_neg (by omega), decide_eq_true hvalue, Bool.true_and]
  · rw [if_pos (by omega), decide_eq_false hvalue, Bool.false_and]

/-- A backslash that no escape of two digits begins with is passed over like any other byte. -/
theorem isSevenBit_of_no_digits {rest : Bytes} (hno : ∀ high low behind h l,
    rest = letterX :: high :: low :: behind → IsHexDigit high.toNat h →
      ¬ IsHexDigit low.toNat l) : isSevenBit (backslash :: rest) = isSevenBit rest := by
  have hascii : isAscii backslash = true := rfl
  rw [isSevenBit.eq_def]
  simp only [hascii, Bool.not_true, Bool.false_eq_true, if_false, true_and]
  split
  · next x high low behind =>
    split
    · next h l hh hl =>
      rw [if_neg]
      rintro rfl
      exact hno high low behind h l rfl (digitValue?_eq_some_iff.1 hh)
        (digitValue?_eq_some_iff.1 hl)
    · rfl
  · rfl

theorem isHexDigit_ascii {b : UInt8} {n : Nat} (hb : IsHexDigit b.toNat n) :
    isAscii b = true ∧ b ≠ backslash := by
  constructor
  · rw [isAscii, decide_eq_true_iff, UInt8.lt_iff_toNat_lt]
    change b.toNat < 0x80
    rw [IsHexDigit] at hb
    omega
  · rintro rfl
    change IsHexDigit 0x5C n at hb
    rw [IsHexDigit] at hb
    omega

/-- An escape holds no beginning of another one. -/
theorem isSevenBit_digits (hh : IsHexDigit high.toNat h) (hl : IsHexDigit low.toNat l)
    (rest : Bytes) : isSevenBit (letterX :: high :: low :: rest) = isSevenBit rest := by
  obtain ⟨hhigh, hhigh'⟩ := isHexDigit_ascii hh
  obtain ⟨hlow, hlow'⟩ := isHexDigit_ascii hl
  rw [isSevenBit_cons_of_ne (by decide), isSevenBit_cons_of_ne hhigh', isSevenBit_cons_of_ne hlow',
    hhigh, hlow]
  rfl

/-- A single digit denotes a low byte. -/
theorem isSevenBit_of_one_digit {behind : Bytes} (hh : IsHexDigit high.toNat h)
    (hno : ∀ low rest l, behind = low :: rest → ¬ IsHexDigit low.toNat l) :
    isSevenBit (backslash :: letterX :: high :: behind) = isSevenBit behind := by
  obtain ⟨hhigh, hhigh'⟩ := isHexDigit_ascii hh
  have hpassed : isSevenBit (backslash :: letterX :: high :: behind) =
      isSevenBit (letterX :: high :: behind) := by
    apply isSevenBit_of_no_digits
    intro high low rest h l hsplit _
    exact hno low rest l (List.cons.inj (List.cons.inj hsplit).2).2
  rw [hpassed, isSevenBit_cons_of_ne (by decide), isSevenBit_cons_of_ne hhigh', hhigh]
  rfl

theorem highEscapeAt_zero {bs : Bytes} : HighEscapeAt bs 0 ↔ ∃ high low h l rest,
    bs = backslash :: letterX :: high :: low :: rest ∧ IsHexDigit high.toNat h ∧ 8 ≤ h ∧
      IsHexDigit low.toNat l := by
  constructor
  · rintro ⟨high, low, h, l, htake, hdigits⟩
    refine ⟨high, low, h, l, bs.drop 4, ?_, hdigits⟩
    have hsplit := List.take_append_drop 4 bs
    rw [List.drop_zero] at htake
    rw [htake] at hsplit
    exact hsplit.symm
  · rintro ⟨high, low, h, l, rest, rfl, hdigits⟩
    exact ⟨high, low, h, l, rfl, hdigits⟩

/-- The step: what the scan says of a byte is said of the position where it stands. -/
theorem isSevenBit_cons_iff {rest : Bytes} : isSevenBit (a :: rest) = true ↔
    isAscii a = true ∧ ¬ HighEscapeAt (a :: rest) 0 ∧ isSevenBit rest = true := by
  by_cases ha : a = backslash
  swap
  · have hno : ¬ HighEscapeAt (a :: rest) 0 := by
      rw [highEscapeAt_zero]
      rintro ⟨_, _, _, _, _, hsplit, -⟩
      exact ha (List.cons.inj hsplit).1
    simp [isSevenBit_cons_of_ne ha, hno]
  subst ha
  have hascii : isAscii backslash = true := rfl
  by_cases hescape : ∃ high low behind h l, rest = letterX :: high :: low :: behind ∧
      IsHexDigit high.toNat h ∧ IsHexDigit low.toNat l
  · obtain ⟨high, low, behind, h, l, rfl, hh, hl⟩ := hescape
    have hhigh : HighEscapeAt (backslash :: letterX :: high :: low :: behind) 0 ↔ 8 ≤ h := by
      rw [highEscapeAt_zero]
      constructor
      · rintro ⟨high', low', h', l', rest', hsplit, hh', hle, -⟩
        simp only [List.cons.injEq, true_and] at hsplit
        obtain ⟨rfl, -⟩ := hsplit
        rwa [hh.unique hh']
      · exact fun hle => ⟨high, low, h, l, behind, rfl, hh, hle, hl⟩
    rw [isSevenBit_of_digits hh hl, isSevenBit_digits hh hl, hhigh]
    simp [hascii]
  · have hno : ¬ HighEscapeAt (backslash :: rest) 0 := by
      rw [highEscapeAt_zero]
      rintro ⟨high, low, h, l, behind, hsplit, hh, -, hl⟩
      exact hescape ⟨high, low, behind, h, l, (List.cons.inj hsplit).2, hh, hl⟩
    have hpassed : isSevenBit (backslash :: rest) = isSevenBit rest :=
      isSevenBit_of_no_digits fun high low behind h l hrest hh hl =>
        hescape ⟨high, low, behind, h, l, hrest, hh, hl⟩
    simp [hpassed, hno, hascii]

end Cons

/-! ### Whole sources -/

theorem allLow_cons {a : UInt8} {bs : Bytes} : AllLow (a :: bs) ↔
    isAscii a = true ∧ ¬ HighEscapeAt (a :: bs) 0 ∧ AllLow bs := by
  have hpositions : (∀ i, ¬ HighEscapeAt (a :: bs) i) ↔
      ¬ HighEscapeAt (a :: bs) 0 ∧ ∀ i, ¬ HighEscapeAt bs i := by
    constructor
    · exact fun h => ⟨h 0, fun i => h (i + 1)⟩
    · rintro ⟨hzero, hsucc⟩ i
      cases i with
      | zero => exact hzero
      | succ i => exact hsucc i
  simp only [AllLow, List.forall_mem_cons, hpositions, isAscii, decide_eq_true_iff]
  tauto

theorem isSevenBit_iff {bs : Bytes} : isSevenBit bs = true ↔ AllLow bs := by
  induction bs with
  | nil =>
    have hno (i : Nat) : ¬ HighEscapeAt [] i := by
      rintro ⟨_, _, _, _, htake, -⟩
      simp at htake
    simp [isSevenBit, AllLow, hno]
  | cons a bs ih => rw [isSevenBit_cons_iff, allLow_cons, ih]

theorem HighEscapeAt.of_part {before part after : Bytes} {i : Nat} (h : HighEscapeAt part i) :
    HighEscapeAt (before ++ part ++ after) (before.length + i) := by
  obtain ⟨high, low, m, n, htake, hdigits⟩ := h
  refine ⟨high, low, m, n, ?_, hdigits⟩
  have hlength : 4 ≤ (part.drop i).length := by
    have := congrArg List.length htake
    simp only [List.length_take, List.length_cons, List.length_nil] at this
    omega
  have hi : i ≤ part.length := by
    rw [List.length_drop] at hlength
    omega
  rw [List.append_assoc, ← List.drop_drop, List.drop_left, List.drop_append_of_le_length hi,
    List.take_append_of_le_length hlength, htake]

theorem AllLow.part {bs part : Bytes} (h : AllLow bs) (hpart : part <:+: bs) : AllLow part := by
  obtain ⟨before, after, rfl⟩ := hpart
  constructor
  · exact fun b hb => h.1 b (by simp [hb])
  · exact fun i hi => h.2 _ hi.of_part

/-! ### By offsets

The scan as a loop over offsets, which reads the source wherever an escape may have bytes. -/

/-- Where a turn of the loop leads: to a read past the end, to an answer, or to an offset. -/
inductive Turn where
  | outside
  | answer (low : Bool)
  | on (offset : Nat)
  deriving Repr, DecidableEq

/-- One turn at offset `n`. It goes on behind an escape of one or two digits. -/
def turn (bs : Bytes) (n : Nat) : Turn :=
  if n < bs.length then
    match bs[n]? with
    | none => .outside
    | some a =>
      if !isAscii a then .answer false
      else if a = backslash ∧ bs[n + 1]? = some letterX then
        match bs[n + 2]?.bind digitValue?, bs[n + 3]?.bind digitValue? with
        | some h, some l => if 0x80 ≤ h * 16 + l then .answer false else .on (n + 4)
        | some _, none => .on (n + 3)
        | none, _ => .on (n + 1)
      else .on (n + 1)
  else .answer true

/-- The loop from offset `n`; `none` if it reads past the end or needs more turns. -/
def scanFrom (bs : Bytes) : (turns n : Nat) → Option Bool
  | 0, _ => none
  | turns + 1, n =>
    match turn bs n with
    | .outside => none
    | .answer low => some low
    | .on n => scanFrom bs turns n

/-- What a turn at `n` owes: its answer is that of the scan on what is left of the source, and
where it goes on there is less left, of which the scan says the same. -/
def Turn.Right (bs : Bytes) (n : Nat) : Turn → Prop
  | outside => False
  | answer low => isSevenBit (bs.drop n) = low
  | on m => n < m ∧ m ≤ bs.length ∧ isSevenBit (bs.drop m) = isSevenBit (bs.drop n)

section Turn

variable {bs text rest : Bytes} {a : UInt8} {n : Nat}

/-- A turn reads what is left of the source, and that not far. -/
theorem turn_of_drop (hdrop : bs.drop n = a :: rest) : turn bs n =
    if !isAscii a then .answer false
    else if a = backslash ∧ rest[0]? = some letterX then
      match rest[1]?.bind digitValue?, rest[2]?.bind digitValue? with
      | some h, some l => if 0x80 ≤ h * 16 + l then .answer false else .on (n + 4)
      | some _, none => .on (n + 3)
      | none, _ => .on (n + 1)
    else .on (n + 1) := by
  have hget (k : Nat) : bs[n + k]? = (a :: rest)[k]? := by
    rw [← hdrop, List.getElem?_drop]
  have hn : n < bs.length := by
    have hlength := congrArg List.length hdrop
    rw [List.length_drop, List.length_cons] at hlength
    omega
  have hzero : bs[n]? = some a := hget 0
  rw [turn, if_pos hn, hzero, hget, hget, hget]
  rfl

theorem Turn.right_answer {low : Bool} (hdrop : bs.drop n = text)
    (hlow : isSevenBit text = low) : Turn.Right bs n (.answer low) := by
  rw [Turn.Right, hdrop, hlow]

/-- Going on behind some bytes is right if the scan passes these bytes over. -/
theorem Turn.right_on (passed : Bytes) (hdrop : bs.drop n = passed ++ rest)
    (hpos : 0 < passed.length) (hpassed : isSevenBit (passed ++ rest) = isSevenBit rest) :
    Turn.Right bs n (.on (n + passed.length)) := by
  have hlength := congrArg List.length hdrop
  rw [List.length_drop, List.length_append] at hlength
  have hbehind : bs.drop (n + passed.length) = rest := by
    rw [← List.drop_drop, hdrop, List.drop_left]
  exact ⟨by omega, by omega, by rw [hbehind, hdrop, hpassed]⟩

/-- A byte that no escape begins with. -/
theorem turn_right_of_other (hdrop : bs.drop n = a :: rest) (hascii : isAscii a = true)
    (hno : ¬ (a = backslash ∧ rest[0]? = some letterX)) : (turn bs n).Right bs n := by
  rw [turn_of_drop hdrop, hascii, if_neg hno]
  apply Turn.right_on [a] hdrop Nat.one_pos
  by_cases ha : a = backslash
  · subst ha
    refine isSevenBit_of_no_digits ?_
    rintro high low behind h l rfl
    exact absurd ⟨rfl, rfl⟩ hno
  · rw [List.singleton_append, isSevenBit_cons_of_ne ha, hascii]
    rfl

theorem exists_of_digit {digits : Bytes} {h : Nat} (hdigit : digits[0]?.bind digitValue? = some h) :
    ∃ d behind, digits = d :: behind ∧ IsHexDigit d.toNat h := by
  cases digits with
  | nil => cases hdigit
  | cons d behind => exact ⟨d, behind, rfl, digitValue?_eq_some_iff.1 hdigit⟩

theorem not_isHexDigit_of_no_digit {digits : Bytes} (hnone : digits[0]?.bind digitValue? = none) :
    ∀ d behind h, digits = d :: behind → ¬ IsHexDigit d.toNat h := by
  rintro d behind h rfl hd
  have hsome : (d :: behind)[0]?.bind digitValue? = some h := digitValue?_eq_some_iff.2 hd
  rw [hnone] at hsome
  cases hsome

/-- A backslash and an `x`, by how many digits there are behind them. -/
theorem turn_right_of_escape {digits : Bytes} (hdrop : bs.drop n = backslash :: letterX :: digits) :
    (turn bs n).Right bs n := by
  have hturn : turn bs n = match digits[0]?.bind digitValue?, digits[1]?.bind digitValue? with
      | some h, some l => if 0x80 ≤ h * 16 + l then .answer false else .on (n + 4)
      | some _, none => .on (n + 3)
      | none, _ => .on (n + 1) := turn_of_drop hdrop
  rw [hturn]
  cases hhigh : digits[0]?.bind digitValue? with
  | none =>
    apply Turn.right_on [backslash] hdrop Nat.one_pos
    refine isSevenBit_of_no_digits fun high low behind h l hsplit hh => ?_
    exact absurd hh (not_isHexDigit_of_no_digit hhigh _ _ _ (List.cons.inj hsplit).2)
  | some h =>
    obtain ⟨high, behind, rfl, hh⟩ := exists_of_digit hhigh
    rw [List.getElem?_cons_succ]
    cases hlow : behind[0]?.bind digitValue? with
    | none =>
      apply Turn.right_on [backslash, letterX, high] hdrop (Nat.succ_pos 2)
      exact isSevenBit_of_one_digit hh (not_isHexDigit_of_no_digit hlow)
    | some l =>
      obtain ⟨low, rest, rfl, hl⟩ := exists_of_digit hlow
      have hscan := isSevenBit_of_digits hh hl rest
      have hlt := hl.lt
      by_cases hvalue : 0x80 ≤ h * 16 + l
      · rw [decide_eq_false (by omega), Bool.false_and] at hscan
        simp only [if_pos hvalue]
        exact Turn.right_answer hdrop hscan
      · rw [decide_eq_true (by omega), Bool.true_and] at hscan
        simp only [if_neg hvalue]
        exact Turn.right_on [backslash, letterX, high, low] hdrop (Nat.succ_pos 3) hscan

theorem turn_right (bs : Bytes) (n : Nat) : (turn bs n).Right bs n := by
  cases hdrop : bs.drop n with
  | nil =>
    have hend : ¬ n < bs.length := Nat.not_lt.2 (List.drop_eq_nil_iff.1 hdrop)
    rw [turn, if_neg hend]
    exact Turn.right_answer hdrop rfl
  | cons a rest =>
    cases hascii : isAscii a with
    | false =>
      rw [turn_of_drop hdrop, hascii]
      refine Turn.right_answer hdrop ?_
      rw [← Bool.not_eq_true, isSevenBit_cons_iff]
      simp [hascii]
    | true =>
      by_cases hstart : a = backslash ∧ rest[0]? = some letterX
      · obtain ⟨rfl, hx⟩ := hstart
        rw [← List.head?_eq_getElem?, List.head?_eq_some_iff] at hx
        obtain ⟨digits, rfl⟩ := hx
        exact turn_right_of_escape hdrop
      · exact turn_right_of_other hdrop hascii hstart

end Turn

/-- Every turn uses up at least one byte, so there are never more turns than bytes and one. -/
theorem scanFrom_eq {bs : Bytes} {turns n : Nat} (hn : n ≤ bs.length)
    (hturns : bs.length < turns + n) : scanFrom bs turns n = some (isSevenBit (bs.drop n)) := by
  induction turns generalizing n with
  | zero => omega
  | succ turns ih =>
    have hright := turn_right bs n
    rw [scanFrom]
    cases hturn : turn bs n with
    | outside =>
      rw [hturn] at hright
      exact hright.elim
    | answer low =>
      rw [hturn] at hright
      exact congrArg some hright.symm
    | on m =>
      rw [hturn] at hright
      obtain ⟨hless, hm, hsame⟩ := hright
      rw [← hsame]
      exact ih hm (by omega)

/-! ### What the answer is about -/

/-- The scan says of a source that no byte in it is high, neither one that stands there nor one
that an escape at whatever position denotes. That is what decides how a pattern with no encoding
is recorded, and it is true of every part of a source of which it is true. The loop over offsets
comes to the same answer, and reads nothing past the end. -/
theorem scan_misses_nothing (bs : Bytes) :
    (isSevenBit bs = true ↔ (∀ b ∈ bs, b < 0x80) ∧ ∀ i, ¬ HighEscapeAt bs i) ∧
      (∀ {σ : Type} (compile : Compiler σ) (o : Options) (fragments : List Fragment)
        (template : Template) (s s' : σ), o.noEncoding = true →
        compileFragments compile o fragments s = .ok template s' →
        ∃ source, Source.ofFragments o fragments = .ok source ∧
          (template.encoding = .usAscii ↔ AllLow source.bytes) ∧
          (template.encoding = .binary ↔ ¬ AllLow source.bytes)) ∧
      (∀ part, part <:+: bs → isSevenBit bs = true → isSevenBit part = true) ∧
      scanFrom bs (bs.length + 1) 0 = some (isSevenBit bs) := by
  refine ⟨isSevenBit_iff, ?_, ?_, scanFrom_eq (Nat.zero_le _) (by omega)⟩
  · intro σ compile o fragments template s s' hnone hok
    obtain ⟨source, compiled, hsource, -, rfl⟩ := compileFragments_eq_ok_iff.1 hok
    refine ⟨source, hsource, ?_⟩
    rw [recordedEncoding, if_pos hnone, ← isSevenBit_iff]
    cases isSevenBit source.bytes with
    | true => simp
    | false => simp
  · intro part hpart
    simp only [isSevenBit_iff]
    exact fun h => h.part hpart

end CallSite.Pattern.Scan
