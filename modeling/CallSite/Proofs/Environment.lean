import CallSite.Proofs.Spelling
import CallSite.Settings.Limits
import Mathlib.Data.List.DropRight
import Mathlib.Data.List.Forall2

/-!
# Limits from the environment

A variable sets its limit exactly if its text, with white space taken off both ends, is a number in
decimal of at most 64 bits that is not zero. It sets the advice exactly if what is left is one of a
few words. In every other case it counts for nothing. No variable has a say in what another one
sets, so every setting can be asked for.
-/
namespace CallSite

/-! ### White space -/

namespace CodePoints

theorem memberFrom_nil (n : Nat) : memberFrom false [] n = false := rfl

/-- The first two switches are the ends of a range. -/
theorem memberFrom_range {p q n : Nat} {rest : List Nat} :
    memberFrom false (p :: q :: rest) n = true ↔
      p ≤ n ∧ (n < q ∨ memberFrom false rest n = true) := by
  by_cases hp : n < p
  · simp [memberFrom, hp, Nat.not_le_of_lt hp]
  · by_cases hq : n < q
    · simp [memberFrom, hp, hq, Nat.le_of_not_lt hp]
    · simp [memberFrom, hp, hq, Nat.le_of_not_lt hp]

end CodePoints

namespace CacheLimits

/-- Numbers of the white space characters. -/
def IsWhiteSpace (n : Nat) : Prop :=
  (0x9 ≤ n ∧ n ≤ 0xD) ∨ n = 0x20 ∨ n = 0x85 ∨ n = 0xA0 ∨ n = 0x1680 ∨
    (0x2000 ≤ n ∧ n ≤ 0x200A) ∨ n = 0x2028 ∨ n = 0x2029 ∨ n = 0x202F ∨ n = 0x205F ∨ n = 0x3000

theorem isBlank_iff {c : Char} : isBlank c = true ↔ IsWhiteSpace c.toNat := by
  simp only [isBlank, CodePoints.member, CodePoints.blank, CodePoints.memberFrom_range,
    CodePoints.memberFrom_nil, Bool.false_eq_true, or_false, IsWhiteSpace]
  omega

/-- `core` is what a text is without the white space at both ends. -/
structure Trimmed (text core : List Char) : Prop where
  between : ∃ before after, text = before ++ core ++ after ∧
    ∀ c ∈ before ++ after, IsWhiteSpace c.toNat
  head : ∀ c ∈ core.head?, ¬ IsWhiteSpace c.toNat
  last : ∀ c ∈ core.getLast?, ¬ IsWhiteSpace c.toNat

theorem trim_eq (text : List Char) :
    trim text = (text.dropWhile isBlank).rdropWhile isBlank := rfl

theorem trimmed_trim (text : List Char) : Trimmed text (trim text) := by
  obtain ⟨rest, hrest⟩ : trim text <+: text.dropWhile isBlank := List.rdropWhile_prefix _ _
  refine ⟨⟨text.takeWhile isBlank, (text.dropWhile isBlank).rtakeWhile isBlank, ?_, ?_⟩, ?_, ?_⟩
  · rw [trim_eq, List.append_assoc, List.rdropWhile_append_rtakeWhile,
      List.takeWhile_append_dropWhile]
  · intro c hc
    rw [← isBlank_iff]
    rcases List.mem_append.1 hc with hc | hc
    · exact List.mem_takeWhile_imp hc
    · exact List.mem_rtakeWhile_imp hc
  · intro c hc
    have hhead := List.head?_dropWhile_not isBlank text
    rw [← hrest, List.head?_append, Option.mem_def.1 hc, Option.some_or] at hhead
    rw [← isBlank_iff, hhead]
    exact Bool.false_ne_true
  · intro c hc
    obtain ⟨hne, rfl⟩ := List.mem_getLast?_eq_getLast hc
    rw [← isBlank_iff]
    exact List.rdropWhile_last_not _ _ hne

/-- There is one way to take the white space off. -/
theorem Trimmed.trim_eq {text core : List Char} (h : Trimmed text core) : trim text = core := by
  obtain ⟨⟨before, after, rfl, hwhite⟩, hhead, hlast⟩ := h
  have hbefore : ∀ c ∈ before, isBlank c = true := fun c hc =>
    isBlank_iff.2 (hwhite c (List.mem_append_left _ hc))
  have hafter : ∀ c ∈ after, isBlank c = true := fun c hc =>
    isBlank_iff.2 (hwhite c (List.mem_append_right _ hc))
  rw [CacheLimits.trim_eq, List.append_assoc, List.dropWhile_append_of_pos hbefore]
  cases core with
  | nil =>
    -- The first pass takes all of the text.
    rw [List.nil_append, List.dropWhile_eq_nil_iff.2 hafter]
    rfl
  | cons c cs =>
    have hc : ¬ isBlank c = true := mt isBlank_iff.1 (hhead c rfl)
    rw [List.cons_append, List.dropWhile_cons_of_neg hc, ← List.cons_append, List.rdropWhile,
      List.reverse_append, List.dropWhile_append_of_pos (by simpa using hafter),
      ← List.rdropWhile, List.rdropWhile_eq_self_iff]
    intro hne
    exact mt isBlank_iff.1 (hlast _ (List.getLast_mem_getLast? hne))

theorem trimmed_self {core : List Char} (h : ∀ c ∈ core, ¬ IsWhiteSpace c.toNat) :
    Trimmed core core where
  between := ⟨[], [], by simp, by simp⟩
  head c hc := h c (List.mem_of_mem_head? hc)
  last c hc := h c (List.mem_of_getLast? hc)

/-! ### Numbers -/

/-- A number in decimal: at least one digit, perhaps with a plus sign. The digits may begin with
zeros. -/
inductive Numeral : List Char → Nat → Prop
  | unsigned {digits : List Char} : digits ≠ [] → (∀ c ∈ digits, c.isDigit = true) →
    Numeral digits (Nat.ofDigitChars 10 digits 0)
  | plus {digits : List Char} : digits ≠ [] → (∀ c ∈ digits, c.isDigit = true) →
    Numeral ('+' :: digits) (Nat.ofDigitChars 10 digits 0)

theorem isDigit_iff {c : Char} : c.isDigit = true ↔ '0' ≤ c ∧ c ≤ '9' := by
  rw [Char.isDigit_iff_toNat]
  rfl

/-- The digits read so far stand for `m`. -/
theorem foldlM_digits_iff {cs : List Char} {m n : Nat} :
    cs.foldlM (fun n c =>
        if '0' ≤ c ∧ c ≤ '9' then some (n * 10 + (c.toNat - 0x30)) else none) m = some n ↔
      (∀ c ∈ cs, c.isDigit = true) ∧ n = Nat.ofDigitChars 10 cs m := by
  induction cs generalizing m with
  | nil => simp [Nat.ofDigitChars_nil, @eq_comm _ n m]
  | cons c cs ih =>
    by_cases hc : '0' ≤ c ∧ c ≤ '9'
    · have hdigit := isDigit_iff.2 hc
      rw [List.foldlM_cons, if_pos hc, Option.bind_eq_bind, Option.bind_some, ih,
        Nat.ofDigitChars_cons, Nat.mul_comm m 10, List.forall_mem_cons]
      simp [hdigit]
    · have hdigit := mt isDigit_iff.1 hc
      simp [hc, hdigit]

theorem decimal?_eq_some_iff {cs : List Char} {n : Nat} :
    decimal? cs = some n ↔
      cs ≠ [] ∧ (∀ c ∈ cs, c.isDigit = true) ∧ n = Nat.ofDigitChars 10 cs 0 := by
  rw [decimal?]
  cases cs with
  | nil => simp
  | cons c cs =>
    rw [List.isEmpty_cons, if_neg Bool.false_ne_true, foldlM_digits_iff]
    simp

theorem not_isDigit_plus : ¬ '+'.isDigit = true := by decide

theorem numeral_plus_iff {digits : List Char} {n : Nat} :
    Numeral ('+' :: digits) n ↔ decimal? digits = some n := by
  rw [decimal?_eq_some_iff]
  constructor
  · intro h
    cases h with
    | unsigned _ hdigits => exact absurd (hdigits '+' List.mem_cons_self) not_isDigit_plus
    | plus hne hdigits => exact ⟨hne, hdigits, rfl⟩
  · rintro ⟨hne, hdigits, rfl⟩
    exact .plus hne hdigits

theorem numeral_iff_of_no_plus {core : List Char} {n : Nat} (h : ∀ digits, core ≠ '+' :: digits) :
    Numeral core n ↔ decimal? core = some n := by
  rw [decimal?_eq_some_iff]
  constructor
  · intro hnumeral
    cases hnumeral with
    | unsigned hne hdigits => exact ⟨hne, hdigits, rfl⟩
    | plus => exact absurd rfl (h _)
  · rintro ⟨hne, hdigits, rfl⟩
    exact .unsigned hne hdigits

theorem le_greatest_iff {n : Nat} : n ≤ greatest ↔ n < UInt64.size := Nat.lt_succ_iff.symm

theorem bind_ofNat?_eq_some_iff {n? : Option Nat} {limit : Limit} :
    (n?.bind fun n => if n ≤ greatest then Limit.ofNat? n else none) = some limit ↔
      n? = some limit.size ∧ limit.size < UInt64.size := by
  rw [Option.bind_eq_some_iff, ← le_greatest_iff]
  constructor
  · rintro ⟨n, hn, hlimit⟩
    split_ifs at hlimit with hfits
    obtain rfl := Limit.ofNat?_eq_some_iff.1 hlimit
    exact ⟨hn, hfits⟩
  · rintro ⟨hn, hfits⟩
    exact ⟨_, hn, by rw [if_pos hfits, Limit.ofNat?_eq_some_iff]⟩

theorem limitOf?_eq_some_iff {text : List Char} {limit : Limit} :
    limitOf? text = some limit ↔ Numeral (trim text) limit.size ∧ limit.size < UInt64.size := by
  rw [limitOf?]
  split
  · next digits hplus =>
    rw [hplus, numeral_plus_iff]
    exact bind_ofNat?_eq_some_iff
  · next hplus =>
    rw [numeral_iff_of_no_plus hplus]
    exact bind_ofNat?_eq_some_iff

/-! ### Words -/

/-- The words for yes and for no. -/
def words : Bool → List String
  | true => ["1", "true", "yes", "on"]
  | false => ["0", "false", "no", "off"]

/-- The letter itself, or its capital if it has one in ASCII. -/
def CapitalOrNot (c letter : Char) : Prop :=
  c = letter ∨ (c.isUpper = true ∧ c.toNat + 32 = letter.toNat)

theorem isUpper_iff {c : Char} : c.isUpper = true ↔ c.val ≥ 'A'.val ∧ c.val ≤ 'Z'.val :=
  decide_eq_true_iff

theorem toLower_of_not_isUpper {c : Char} (h : ¬ c.isUpper = true) : c.toLower = c :=
  dif_neg (mt isUpper_iff.2 h)

theorem toNat_toLower {c : Char} (h : c.isUpper = true) : c.toLower.toNat = c.toNat + 32 := by
  have hupper : c.val.toNat ≤ 0x5A := UInt32.le_iff_toNat_le.1 (isUpper_iff.1 h).2
  have hval : c.toLower.val = c.val + 32 := congrArg Char.val (dif_pos (isUpper_iff.1 h))
  change c.toLower.val.toNat = c.val.toNat + 32
  rw [hval, UInt32.toNat_add, Nat.mod_eq_of_lt]
  · rfl
  · change c.val.toNat + 32 < 2 ^ 32
    omega

theorem toLower_eq_iff {c letter : Char} (h : letter.isUpper = false) :
    c.toLower = letter ↔ CapitalOrNot c letter := by
  by_cases hc : c.isUpper = true
  · have hne : c ≠ letter := by
      rintro rfl
      exact Bool.false_ne_true (h.symm.trans hc)
    rw [← Char.toNat_inj, toNat_toLower hc]
    simp [CapitalOrNot, hc, hne]
  · rw [toLower_of_not_isUpper hc]
    simp [CapitalOrNot, hc]

theorem map_toLower_eq_iff {cs letters : List Char}
    (h : ∀ letter ∈ letters, letter.isUpper = false) :
    cs.map Char.toLower = letters ↔ List.Forall₂ CapitalOrNot cs letters := by
  induction letters generalizing cs with
  | nil => simp
  | cons letter letters ih =>
    rw [List.forall_mem_cons] at h
    cases cs with
    | nil => simp
    | cons c cs =>
      rw [List.map_cons, List.cons.injEq, List.forall₂_cons, toLower_eq_iff h.1, ih h.2]

theorem forall_of_mem_words {p : Char → Bool}
    (h : ((words true ++ words false).all fun word => word.toList.all p) = true) {b : Bool}
    {word : String} (hword : word ∈ words b) : ∀ letter ∈ word.toList, p letter = true := by
  have hmem : word ∈ words true ++ words false := by
    cases b with
    | true => exact List.mem_append_left _ hword
    | false => exact List.mem_append_right _ hword
  exact List.all_eq_true.1 (List.all_eq_true.1 h word hmem)

theorem isUpper_of_mem_words {b : Bool} {word : String} (hword : word ∈ words b) {letter : Char}
    (h : letter ∈ word.toList) : letter.isUpper = false := by
  have hsmall := forall_of_mem_words (p := fun letter => !letter.isUpper) (by decide) hword
  simpa using hsmall letter h

theorem switchOf?_eq_some_iff {text : List Char} {b : Bool} :
    switchOf? text = some b ↔
      ∃ word ∈ words b, List.Forall₂ CapitalOrNot (trim text) word.toList := by
  have hmem : switchOf? text = some b ↔
      String.ofList ((trim text).map Char.toLower) ∈ words b := by
    -- One case for each word, and one for all others.
    rw [switchOf?]
    generalize String.ofList ((trim text).map Char.toLower) = word
    split <;> cases b <;> simp_all [words]
  rw [hmem]
  constructor
  · intro h
    refine ⟨_, h, ?_⟩
    rw [← map_toLower_eq_iff fun _ => isUpper_of_mem_words h, String.toList_ofList]
  · rintro ⟨word, hword, h⟩
    rw [← map_toLower_eq_iff fun _ => isUpper_of_mem_words hword] at h
    rwa [h, String.ofList_toList]

/-! ### Variables -/

/-- What is left of a text sets a limit to `n`. -/
def SetsLimit (core : List Char) (n : Nat) : Prop := Numeral core n ∧ 0 < n ∧ n < UInt64.size

/-- What is left of a text is a word for `b`, in any mixture of capitals and small letters. -/
def SetsSwitch (core : List Char) (b : Bool) : Prop :=
  ∃ word ∈ words b, List.Forall₂ CapitalOrNot core word.toList

/-- The variable is set to a text that, without the white space at both ends, sets `a`. -/
def Gives {α : Type} (sets : List Char → α → Prop) (value : Option Bytes) (a : α) : Prop :=
  ∃ text core, value = some (Utf8.encode text) ∧ Trimmed text.toList core ∧ sets core a

/-- What is made of a variable: what it gives, and the default if it gives nothing. -/
structure Reads {α : Type} (sets : List Char → α → Prop) (value : Option Bytes)
    (default result : α) : Prop where
  given : ∀ a, Gives sets value a → result = a
  otherwise : (∀ a, ¬ Gives sets value a) → result = default

theorem textOf?_eq_some_iff {value : Option Bytes} {cs : List Char} :
    textOf? value = some cs ↔ ∃ text, value = some (Utf8.encode text) ∧ text.toList = cs := by
  rw [textOf?, Option.bind_eq_some_iff]
  constructor
  · rintro ⟨bs, rfl, h⟩
    split_ifs at h with hvalid
    obtain ⟨text, rfl⟩ := Utf8.isValid_iff.1 hvalid
    rw [Utf8.lossyChars_encode] at h
    exact ⟨text, rfl, Option.some.inj h⟩
  · rintro ⟨text, rfl, rfl⟩
    exact ⟨_, rfl, by rw [if_pos (Utf8.isValid_iff.2 ⟨text, rfl⟩), Utf8.lossyChars_encode]⟩

section Reads

variable {α : Type} {sets : List Char → α → Prop} {read? : List Char → Option α}

theorem gives_iff (h : ∀ text a, read? text = some a ↔ sets (trim text) a) {value : Option Bytes}
    {a : α} : Gives sets value a ↔ (textOf? value).bind read? = some a := by
  rw [Option.bind_eq_some_iff]
  constructor
  · rintro ⟨text, core, hvalue, hcore, hsets⟩
    rw [← hcore.trim_eq] at hsets
    exact ⟨_, textOf?_eq_some_iff.2 ⟨text, hvalue, rfl⟩, (h _ _).2 hsets⟩
  · rintro ⟨cs, hcs, hread⟩
    obtain ⟨text, hvalue, rfl⟩ := textOf?_eq_some_iff.1 hcs
    exact ⟨text, _, hvalue, trimmed_trim _, (h _ _).1 hread⟩

theorem reads_getD (h : ∀ text a, read? text = some a ↔ sets (trim text) a)
    (value : Option Bytes) (default : α) :
    Reads sets value default (((textOf? value).bind read?).getD default) where
  given a ha := by rw [(gives_iff h).1 ha, Option.getD_some]
  otherwise hnone := by
    rw [Option.eq_none_iff_forall_ne_some.2 fun a => mt (gives_iff h).2 (hnone a),
      Option.getD_none]

end Reads

theorem limitOf?_size_iff (text : List Char) (n : Nat) :
    (Option.map Limit.size ∘ limitOf?) text = some n ↔ SetsLimit (trim text) n := by
  rw [Function.comp_apply, Option.map_eq_some_iff]
  constructor
  · rintro ⟨limit, hlimit, rfl⟩
    obtain ⟨hnumeral, hfits⟩ := limitOf?_eq_some_iff.1 hlimit
    exact ⟨hnumeral, limit.pos, hfits⟩
  · rintro ⟨hnumeral, hpos, hfits⟩
    exact ⟨⟨n, hpos⟩, limitOf?_eq_some_iff.2 ⟨hnumeral, hfits⟩, rfl⟩

theorem reads_limit (value : Option Bytes) (default : Limit) :
    Reads SetsLimit value default.size (((textOf? value).bind limitOf?).getD default).size := by
  have hreads := reads_getD limitOf?_size_iff value default.size
  rwa [← Option.map_bind, Option.getD_map] at hreads

theorem reads_switch (value : Option Bytes) (default : Bool) :
    Reads SetsSwitch value default (((textOf? value).bind switchOf?).getD default) :=
  reads_getD (fun _ _ => switchOf?_eq_some_iff) value default

/-! ### The environment -/

/-- The limits are positive numbers of 64 bits. -/
structure Settable (limits : CacheLimits) : Prop where
  constant : 0 < limits.constant.size ∧ limits.constant.size < UInt64.size
  default : 0 < limits.default.size ∧ limits.default.size < UInt64.size

/-- Limits written in decimal, with a word for whether to give advice. -/
def written (limits : CacheLimits) (word : String) : Environment where
  constant := some (Utf8.encode limits.constant.size.repr)
  default := some (Utf8.encode limits.default.size.repr)
  warnUnstable := some (Utf8.encode word)

/-- What has no white space in it is read as it stands. -/
theorem Gives.of_text {α : Type} {sets : List Char → α → Prop} {text : String} {a : α}
    (hwhite : ∀ c ∈ text.toList, isBlank c = false) (h : sets text.toList a) :
    Gives sets (some (Utf8.encode text)) a := by
  refine ⟨text, text.toList, rfl, trimmed_self fun c hc => ?_, h⟩
  rw [← isBlank_iff, hwhite c hc]
  exact Bool.false_ne_true

theorem gives_repr {n : Nat} (h : 0 < n ∧ n < UInt64.size) :
    Gives SetsLimit (some (Utf8.encode n.repr)) n := by
  have hdigits : ∀ c ∈ n.repr.toList, c.isDigit = true := by
    intro c hc
    rw [Nat.toList_repr] at hc
    exact Nat.isDigit_of_mem_toDigits (by decide) (by decide) hc
  have hnumeral : Numeral n.repr.toList n := by
    have hthis := Numeral.unsigned (by rw [Nat.toList_repr]; exact Nat.toDigits_ne_nil) hdigits
    rwa [Nat.toList_repr, Nat.ofDigitChars_toDigits (by decide) (by decide),
      ← Nat.toList_repr] at hthis
  refine Gives.of_text (fun c hc => ?_) ⟨hnumeral, h⟩
  have hc := Char.isDigit_iff_toNat.1 (hdigits c hc)
  rw [← Bool.not_eq_true, isBlank_iff, IsWhiteSpace]
  simp only [Char.reduceToNat] at hc
  omega

theorem gives_word {b : Bool} {word : String} (h : word ∈ words b) :
    Gives SetsSwitch (some (Utf8.encode word)) b := by
  have hblank := forall_of_mem_words (p := fun letter => !isBlank letter) (by decide) h
  refine Gives.of_text (fun c hc => by simpa using hblank c hc) ⟨word, h, ?_⟩
  exact List.forall₂_same.2 fun _ _ => .inl rfl

theorem reads_constant (env : Environment) :
    Reads SetsLimit env.constant 8 (ofEnvironment env).constant.size :=
  reads_limit env.constant ⟨8, by decide⟩

theorem reads_default (env : Environment) :
    Reads SetsLimit env.default 8 (ofEnvironment env).default.size :=
  reads_limit env.default ⟨8, by decide⟩

theorem reads_warnUnstable (env : Environment) :
    Reads SetsSwitch env.warnUnstable true (ofEnvironment env).warnUnstable :=
  reads_switch env.warnUnstable true

theorem eq_of_sizes {limits limits' : CacheLimits}
    (hconstant : limits.constant.size = limits'.constant.size)
    (hdefault : limits.default.size = limits'.default.size)
    (hwarn : limits.warnUnstable = limits'.warnUnstable) : limits = limits' := by
  obtain ⟨⟨n, hn⟩, ⟨m, hm⟩, b⟩ := limits
  obtain ⟨⟨n', hn'⟩, ⟨m', hm'⟩, b'⟩ := limits'
  simp_all

theorem ofEnvironment_written {limits : CacheLimits} {word : String} (h : Settable limits)
    (hword : word ∈ words limits.warnUnstable) : ofEnvironment (written limits word) = limits := by
  apply eq_of_sizes
  · exact (reads_constant _).given _ (gives_repr h.constant)
  · exact (reads_default _).given _ (gives_repr h.default)
  · exact (reads_warnUnstable _).given _ (gives_word hword)

theorem Reads.settable {value : Option Bytes} {n default : Nat}
    (h : Reads SetsLimit value default n) (hdefault : 0 < default ∧ default < UInt64.size) :
    0 < n ∧ n < UInt64.size := by
  by_cases hgives : ∃ m, Gives SetsLimit value m
  · obtain ⟨m, hm⟩ := hgives
    obtain ⟨text, core, -, -, -, hfits⟩ := id hm
    rwa [h.given m hm]
  · rwa [h.otherwise (not_exists.1 hgives)]

/-- Each limit is the number that its variable gives, or the default, and so is the advice, and
every setting that fits into 64 bits can be written. -/
theorem environment_read_exactly (env : Environment) :
    let limits := ofEnvironment env
    (Reads SetsLimit env.constant 8 limits.constant.size ∧
      Reads SetsLimit env.default 8 limits.default.size ∧
      Reads SetsSwitch env.warnUnstable true limits.warnUnstable) ∧
      (∀ other : Environment,
        (other.constant = env.constant → (ofEnvironment other).constant = limits.constant) ∧
        (other.default = env.default → (ofEnvironment other).default = limits.default) ∧
        (other.warnUnstable = env.warnUnstable →
          (ofEnvironment other).warnUnstable = limits.warnUnstable)) ∧
      Settable limits ∧
      ∀ wanted : CacheLimits, Settable wanted → ∀ word ∈ words wanted.warnUnstable,
        ofEnvironment (written wanted word) = wanted := by
  intro limits
  refine ⟨⟨reads_constant env, reads_default env, reads_warnUnstable env⟩,
    fun other => ⟨?_, ?_, ?_⟩,
    ⟨(reads_constant env).settable (by decide), (reads_default env).settable (by decide)⟩,
    fun wanted hwanted word => ofEnvironment_written hwanted⟩
  · intro h
    simp only [limits, ofEnvironment, h]
  · intro h
    simp only [limits, ofEnvironment, h]
  · intro h
    simp only [limits, ofEnvironment, h]

/-- The greatest limit with a sign, with zeros and with white space, the next number, and a word in
capitals. -/
theorem environment_read_exactly_greatest :
    let env : Environment :=
      { constant := some (Utf8.encode "\u3000+0018446744073709551615\n")
        default := some (Utf8.encode "18446744073709551616")
        warnUnstable := some (Utf8.encode " oFF") }
    let limits : CacheLimits :=
      { constant := ⟨18446744073709551615, by decide⟩
        default := ⟨8, by decide⟩
        warnUnstable := false }
    Gives SetsLimit env.constant 18446744073709551615 ∧ (∀ n, ¬ Gives SetsLimit env.default n) ∧
      Gives SetsSwitch env.warnUnstable false ∧ ofEnvironment env = limits ∧
      (Settable limits ∧ "0" ∈ words limits.warnUnstable ∧
        ofEnvironment (written limits "0") = limits) := by
  intro env limits
  have hconstant : Gives SetsLimit env.constant 18446744073709551615 :=
    (gives_iff limitOf?_size_iff).2 (by decide)
  have hdefault (n : Nat) : ¬ Gives SetsLimit env.default n := by
    have hnone : (textOf? env.default).bind (Option.map Limit.size ∘ limitOf?) = none := by decide
    rw [gives_iff limitOf?_size_iff, hnone]
    exact nofun
  have hswitch : Gives SetsSwitch env.warnUnstable false :=
    (gives_iff fun _ _ => switchOf?_eq_some_iff).2 (by decide)
  have hsettable : Settable limits := ⟨by decide, by decide⟩
  have hword : "0" ∈ words limits.warnUnstable := by decide
  obtain ⟨⟨hread, hread', hread''⟩, -, -, hwritten⟩ := environment_read_exactly env
  exact ⟨hconstant, hdefault, hswitch,
    eq_of_sizes (hread.given _ hconstant) (hread'.otherwise hdefault) (hread''.given _ hswitch),
    hsettable, hword, hwritten limits hsettable "0" hword⟩

end CacheLimits
end CallSite
