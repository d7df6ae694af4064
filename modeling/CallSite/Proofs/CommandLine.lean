import CallSite.Filter.Exit
import Mathlib.Data.List.Basic

/-!
# The grammar of the command line

A command line is a sequence of groups, each an option with what belongs to it or a fragment word,
and it may end in a double hyphen with any words behind it. Command lines with a fragment are what
is accepted. What is made of one is told by the parts of each kind, in their order. Any other
argument list stops at its first token that begins no group, and that token is what is reported.
-/
namespace CallSite.Filter

/-! ### Groups -/

/-- Words that may stand among the options. -/
def IsWord (text : String) : Prop :=
  text = "" ∨ text = "-" ∨ text.toList.head? ≠ some '-'

theorem isFragment_iff (text : String) : isFragment text = true ↔ IsWord text := by
  have hempty : text = "" ↔ text.toList = [] := by
    rw [← String.toList_inj, String.toList_empty]
  have hhyphen : text = "-" ↔ text.toList = ['-'] := by
    rw [← String.toList_inj]
    rfl
  rw [isFragment, IsWord, hempty, hhyphen]
  match text.toList with
  | [] => simp
  | [c] => by_cases hc : c = '-' <;> simp [hc]
  | c :: d :: rest => by_cases hc : c = '-' <;> simp [hc]

inductive Flag where
  | ignoreCase
  | multiline
  | extended
  | noEncoding
  | fixedEncoding
  deriving DecidableEq

def Flag.letter : Flag → String
  | ignoreCase => "i"
  | multiline => "m"
  | extended => "x"
  | noEncoding => "n"
  | fixedEncoding => "u"

/-- All options, and what ends them. -/
def optionTokens : List String :=
  ["-h", "--help", "-V", "--version", "-i", "-m", "-x", "-n", "-u", "-c", "--config", "--input",
    "--count", "-v", "--verbose", "--"]

/-- An option with its operand, or a word. An option with two spellings is `long` or not. -/
inductive Group where
  | flag (f : Flag)
  | count
  | verbose (long : Bool)
  | config (long : Bool) (path : String)
  | input (path : String)
  | word (text : String) (isWord : IsWord text)

namespace Group

def arguments : Group → List String
  | flag f => ["-" ++ f.letter]
  | count => ["--count"]
  | verbose long => [if long then "--verbose" else "-v"]
  | config long path => [if long then "--config" else "-c", path]
  | input path => ["--input", path]
  | word text _ => [text]

def flag? : Group → Option Flag
  | flag f => some f
  | _ => none

def config? : Group → Option String
  | config _ path => some path
  | _ => none

def input? : Group → Option String
  | input path => some path
  | _ => none

def word? : Group → Option String
  | word text _ => some text
  | _ => none

def isCount : Group → Bool
  | count => true
  | _ => false

def isVerbose : Group → Bool
  | verbose _ => true
  | _ => false

end Group

/-- The arguments that spell groups. -/
def spell (groups : List Group) : List String := groups.flatMap Group.arguments

theorem IsWord.not_option {text : String} (h : IsWord text) : text ∉ optionTokens := by
  have hoptions : ∀ token ∈ optionTokens, isFragment token = false := by decide
  intro hmem
  rw [← isFragment_iff, hoptions text hmem] at h
  cases h

namespace Invocation

/-- The invocation once a group has been read. -/
def addGroup (i : Invocation) : Group → Invocation
  | .flag f => i.addFlag f.letter
  | .count => { i with countOnly := true }
  | .verbose _ => { i with verbose := true }
  | .config _ path => { i with config := some path }
  | .input path => { i with input := some path }
  | .word text _ => i.addFragments [text]

theorem take_of_not_option {argument : String} (h : argument ∉ optionTokens) (i : Invocation)
    (rest : List String) :
    i.take (argument :: rest) =
      if isFragment argument then (i.addFragments [argument]).take rest
      else .error (.unknownOption argument) := by
  rw [take.eq_def]
  split <;> simp_all [optionTokens]

theorem take_group (i : Invocation) (g : Group) (rest : List String) :
    i.take (g.arguments ++ rest) = (i.addGroup g).take rest := by
  cases g with
  | flag f => cases f <;> rfl
  | count => rfl
  | verbose long => cases long <;> rfl
  | config long path => cases long <;> rfl
  | input path => rfl
  | word text isWord =>
    change i.take (text :: rest) = _
    rw [take_of_not_option isWord.not_option, if_pos ((isFragment_iff text).2 isWord)]
    rfl

theorem take_spell (i : Invocation) (groups : List Group) (rest : List String) :
    i.take (spell groups ++ rest) = (groups.foldl addGroup i).take rest := by
  induction groups generalizing i with
  | nil => rfl
  | cons g groups ih =>
    rw [spell, List.flatMap_cons, List.append_assoc, take_group]
    exact ih (i.addGroup g)

end Invocation

/-! ### Parts of each kind -/

/-- What groups hold, kind by kind. -/
def partsOf (groups : List Group) : Invocation where
  fragments := groups.filterMap Group.word?
  flags := String.join ((groups.filterMap Group.flag?).map Flag.letter)
  config := (groups.filterMap Group.config?).getLast?
  input := (groups.filterMap Group.input?).getLast?
  countOnly := groups.any Group.isCount
  verbose := groups.any Group.isVerbose

theorem foldl_addGroup (i : Invocation) (groups : List Group) :
    groups.foldl Invocation.addGroup i =
      { fragments := i.fragments ++ (partsOf groups).fragments
        flags := i.flags ++ (partsOf groups).flags
        config := (partsOf groups).config.or i.config
        input := (partsOf groups).input.or i.input
        countOnly := i.countOnly || (partsOf groups).countOnly
        verbose := i.verbose || (partsOf groups).verbose } := by
  induction groups generalizing i with
  | nil => simp [partsOf]
  | cons g groups ih =>
    rw [List.foldl_cons, ih]
    cases g <;>
      simp [partsOf, Invocation.addGroup, Invocation.addFlag, Invocation.addFragments,
        Group.word?, Group.flag?, Group.config?, Group.input?, Group.isCount, Group.isVerbose,
        List.filterMap_cons, List.getLast?_cons, String.append_assoc]

theorem readArguments_spell (groups : List Group) (rest : List String) :
    readArguments (spell groups ++ rest) = (partsOf groups).take rest := by
  rw [readArguments, Invocation.take_spell, foldl_addGroup]
  simp

/-- The two have the same parts of each kind in the same order. -/
structure Regrouped (groups groups' : List Group) : Prop where
  words : groups.filterMap Group.word? = groups'.filterMap Group.word?
  flags : groups.filterMap Group.flag? = groups'.filterMap Group.flag?
  configs : groups.filterMap Group.config? = groups'.filterMap Group.config?
  inputs : groups.filterMap Group.input? = groups'.filterMap Group.input?
  count : groups.any Group.isCount = groups'.any Group.isCount
  verbose : groups.any Group.isVerbose = groups'.any Group.isVerbose

theorem Regrouped.partsOf_eq {groups groups' : List Group} (h : Regrouped groups groups') :
    partsOf groups = partsOf groups' := by
  rw [partsOf, partsOf, h.words, h.flags, h.configs, h.inputs, h.count, h.verbose]

/-! ### Where reading stops -/

/-- Arguments that begin with no group, and the answer they are given once `i` has been read. -/
inductive Stops (i : Invocation) : List String → Except ArgumentError Request → Prop
  | done : Stops i [] i.complete
  | hyphens (words : List String) : Stops i ("--" :: words) (i.addFragments words).complete
  | help {token : String} (rest : List String) : token ∈ ["-h", "--help"] →
    Stops i (token :: rest) (.ok .help)
  | version {token : String} (rest : List String) : token ∈ ["-V", "--version"] →
    Stops i (token :: rest) (.ok .version)
  | config {token : String} : token ∈ ["-c", "--config"] →
    Stops i [token] (.error (.missingFile "--config"))
  | input : Stops i ["--input"] (.error (.missingFile "--input"))
  | unknown {token : String} (rest : List String) : token ∉ optionTokens → ¬ IsWord token →
    Stops i (token :: rest) (.error (.unknownOption token))

theorem take_of_stops {i : Invocation} {rest : List String}
    {answer : Except ArgumentError Request} (h : Stops i rest answer) : i.take rest = answer := by
  cases h with
  | done => rfl
  | hyphens words => rfl
  | help rest htoken =>
    simp only [List.mem_cons, List.not_mem_nil, or_false] at htoken
    rcases htoken with rfl | rfl <;> rfl
  | version rest htoken =>
    simp only [List.mem_cons, List.not_mem_nil, or_false] at htoken
    rcases htoken with rfl | rfl <;> rfl
  | config htoken =>
    simp only [List.mem_cons, List.not_mem_nil, or_false] at htoken
    rcases htoken with rfl | rfl <;> rfl
  | input => rfl
  | unknown rest hoption hword =>
    rw [Invocation.take_of_not_option hoption, if_neg (mt (isFragment_iff _).1 hword)]

/-- Arguments begin with a group, or they are read no further. -/
theorem group_or_stops (i : Invocation) (arguments : List String) :
    (∃ g rest, arguments = Group.arguments g ++ rest) ∨ ∃ answer, Stops i arguments answer := by
  match arguments with
  | [] => exact .inr ⟨_, .done⟩
  | token :: rest =>
    by_cases hoption : token ∈ optionTokens
    · simp only [optionTokens, List.mem_cons, List.not_mem_nil, or_false] at hoption
      rcases hoption with rfl | rfl | rfl | rfl | rfl | rfl | rfl | rfl | rfl | rfl | rfl | rfl |
        rfl | rfl | rfl | rfl
      · exact .inr ⟨_, .help rest (by simp)⟩
      · exact .inr ⟨_, .help rest (by simp)⟩
      · exact .inr ⟨_, .version rest (by simp)⟩
      · exact .inr ⟨_, .version rest (by simp)⟩
      · exact .inl ⟨.flag .ignoreCase, rest, rfl⟩
      · exact .inl ⟨.flag .multiline, rest, rfl⟩
      · exact .inl ⟨.flag .extended, rest, rfl⟩
      · exact .inl ⟨.flag .noEncoding, rest, rfl⟩
      · exact .inl ⟨.flag .fixedEncoding, rest, rfl⟩
      · cases rest with
        | nil => exact .inr ⟨_, .config (by simp)⟩
        | cons path rest => exact .inl ⟨.config false path, rest, rfl⟩
      · cases rest with
        | nil => exact .inr ⟨_, .config (by simp)⟩
        | cons path rest => exact .inl ⟨.config true path, rest, rfl⟩
      · cases rest with
        | nil => exact .inr ⟨_, .input⟩
        | cons path rest => exact .inl ⟨.input path, rest, rfl⟩
      · exact .inl ⟨.count, rest, rfl⟩
      · exact .inl ⟨.verbose false, rest, rfl⟩
      · exact .inl ⟨.verbose true, rest, rfl⟩
      · exact .inr ⟨_, .hyphens rest⟩
    · by_cases hword : IsWord token
      · exact .inl ⟨.word token hword, rest, rfl⟩
      · exact .inr ⟨_, .unknown rest hoption hword⟩

theorem Group.length_arguments_pos (g : Group) : 0 < g.arguments.length := by
  cases g <;> simp [arguments]

/-- Every argument list is read as groups up to where reading stops. -/
theorem exists_spell_stops (arguments : List String) : ∃ groups rest answer,
    arguments = spell groups ++ rest ∧ Stops (partsOf groups) rest answer := by
  suffices h : ∀ rest earlier, arguments = spell earlier ++ rest → ∃ groups rest answer,
      arguments = spell groups ++ rest ∧ Stops (partsOf groups) rest answer from
    h arguments [] rfl
  intro rest
  induction hn : rest.length using Nat.strongRecOn generalizing rest with
  | ind n ih =>
    intro earlier harguments
    rcases group_or_stops (partsOf earlier) rest with ⟨g, later, rfl⟩ | ⟨answer, hstops⟩
    · have hshorter : later.length < n := by
        have hpos := g.length_arguments_pos
        rw [List.length_append] at hn
        omega
      refine ih _ hshorter later rfl (earlier ++ [g]) ?_
      rw [harguments, spell, spell, List.flatMap_append, List.flatMap_singleton, List.append_assoc]
    · exact ⟨earlier, rest, answer, harguments, hstops⟩

theorem readArguments_of_stops {groups : List Group} {rest : List String}
    {answer : Except ArgumentError Request} (h : Stops (partsOf groups) rest answer) :
    readArguments (spell groups ++ rest) = answer := by
  rw [readArguments_spell, take_of_stops h]

/-! ### Command lines -/

/-- Groups, and perhaps a double hyphen with what stands behind it. -/
structure CommandLine where
  groups : List Group
  behind : Option (List String)

namespace CommandLine

def arguments (line : CommandLine) : List String :=
  spell line.groups ++ line.behind.elim [] ("--" :: ·)

/-- All words among the groups, and all behind the double hyphen. -/
def fragments (line : CommandLine) : List String :=
  line.groups.filterMap Group.word? ++ line.behind.getD []

def invocation (line : CommandLine) : Invocation :=
  { partsOf line.groups with fragments := line.fragments }

theorem readArguments_eq (line : CommandLine) :
    readArguments line.arguments = line.invocation.complete := by
  obtain ⟨groups, behind⟩ := line
  cases behind with
  | none =>
    have hsame : invocation ⟨groups, none⟩ = partsOf groups := by
      simp [invocation, fragments, partsOf]
    rw [hsame]
    exact readArguments_of_stops .done
  | some words => exact readArguments_of_stops (.hyphens words)

end CommandLine

/-- What an argument list leads to. The token that is reported is the first one that begins no
group; an option without its file is reported by its long spelling. A lack of fragments is reported
only if there is no such token. -/
inductive Reads : List String → Except ArgumentError Request → Prop
  | filter (line : CommandLine) : line.fragments ≠ [] →
    Reads line.arguments (.ok (.filter line.invocation))
  | noFragments (line : CommandLine) : line.fragments = [] →
    Reads line.arguments (.error .missingFragments)
  | unknown (groups : List Group) {token : String} (rest : List String) : token ∉ optionTokens →
    ¬ IsWord token → Reads (spell groups ++ token :: rest) (.error (.unknownOption token))
  | noConfig (groups : List Group) {token : String} : token ∈ ["-c", "--config"] →
    Reads (spell groups ++ [token]) (.error (.missingFile "--config"))
  | noInput (groups : List Group) :
    Reads (spell groups ++ ["--input"]) (.error (.missingFile "--input"))
  | help (groups : List Group) {token : String} (rest : List String) : token ∈ ["-h", "--help"] →
    Reads (spell groups ++ token :: rest) (.ok .help)
  | version (groups : List Group) {token : String} (rest : List String) :
    token ∈ ["-V", "--version"] → Reads (spell groups ++ token :: rest) (.ok .version)

section Reads

variable {arguments : List String} {answer : Except ArgumentError Request}

theorem Invocation.complete_of_fragments {i : Invocation} (h : i.fragments ≠ []) :
    i.complete = .ok (.filter i) := by
  rw [complete, if_neg (by simpa using h)]

theorem Invocation.complete_of_no_fragments {i : Invocation} (h : i.fragments = []) :
    i.complete = .error .missingFragments := by
  rw [complete, if_pos (by simpa using h)]

theorem CommandLine.reads (line : CommandLine) :
    Reads line.arguments (readArguments line.arguments) := by
  rw [line.readArguments_eq]
  by_cases hfragments : line.fragments = []
  · rw [Invocation.complete_of_no_fragments hfragments]
    exact .noFragments line hfragments
  · rw [Invocation.complete_of_fragments hfragments]
    exact .filter line hfragments

theorem reads_of_stops {groups : List Group} {rest : List String}
    (h : Stops (partsOf groups) rest answer) : Reads (spell groups ++ rest) answer := by
  have hread := readArguments_of_stops h
  cases h with
  | done =>
    rw [← hread]
    exact CommandLine.reads ⟨groups, none⟩
  | hyphens words =>
    rw [← hread]
    exact CommandLine.reads ⟨groups, some words⟩
  | help rest htoken => exact .help groups rest htoken
  | version rest htoken => exact .version groups rest htoken
  | config htoken => exact .noConfig groups htoken
  | input => exact .noInput groups
  | unknown rest hoption hword => exact .unknown groups rest hoption hword

theorem readArguments_of_reads (h : Reads arguments answer) : readArguments arguments = answer := by
  cases h with
  | filter line hfragments =>
    rw [line.readArguments_eq, Invocation.complete_of_fragments hfragments]
  | noFragments line hfragments =>
    rw [line.readArguments_eq, Invocation.complete_of_no_fragments hfragments]
  | unknown groups rest hoption hword => exact readArguments_of_stops (.unknown rest hoption hword)
  | noConfig groups htoken => exact readArguments_of_stops (.config htoken)
  | noInput groups => exact readArguments_of_stops .input
  | help groups rest htoken => exact readArguments_of_stops (.help rest htoken)
  | version groups rest htoken => exact readArguments_of_stops (.version rest htoken)

theorem readArguments_eq_iff : readArguments arguments = answer ↔ Reads arguments answer := by
  refine ⟨?_, readArguments_of_reads⟩
  rintro rfl
  obtain ⟨groups, rest, answer, rfl, hstops⟩ := exists_spell_stops arguments
  rw [readArguments_of_stops hstops]
  exact reads_of_stops hstops

theorem readArguments_eq_filter_iff {i : Invocation} :
    readArguments arguments = .ok (.filter i) ↔
      ∃ line : CommandLine, arguments = line.arguments ∧ line.fragments ≠ [] ∧
        i = line.invocation := by
  rw [readArguments_eq_iff]
  constructor
  · intro h
    cases h with
    | filter line hfragments => exact ⟨line, rfl, hfragments, rfl⟩
  · rintro ⟨line, rfl, hfragments, rfl⟩
    exact .filter line hfragments

end Reads

/-- Command lines with a fragment are accepted and nothing else is. Their fragments are all words,
in order, each file is the last one named, and only the order within each kind matters. What is not
accepted is answered at the first token that begins no group, with the complaint and the usage on
standard error if that token is no request for help or for the version. -/
theorem arguments_read_exactly (arguments : List String) :
    (∀ i, readArguments arguments = .ok (.filter i) ↔
      ∃ line : CommandLine, arguments = line.arguments ∧ line.fragments ≠ [] ∧
        i = line.invocation) ∧
      (∀ answer, readArguments arguments = answer ↔ Reads arguments answer) ∧
      (∀ e, readArguments arguments = .error e → ∀ lib s, (run lib s arguments).code = 1 ∧
        (run lib s arguments).out = [] ∧
        (run lib s arguments).err = "Error: " ++ e.message ++ "\n\n" ++ usage) ∧
      ∀ groups groups' rest, arguments = spell groups ++ rest → Regrouped groups groups' →
        readArguments (spell groups' ++ rest) = readArguments arguments := by
  refine ⟨fun _ => readArguments_eq_filter_iff, fun _ => readArguments_eq_iff, ?_, ?_⟩
  · intro e he lib s
    rw [run, he]
    exact ⟨rfl, rfl, rfl⟩
  · rintro groups groups' rest rfl hregrouped
    rw [readArguments_spell, readArguments_spell, hregrouped.partsOf_eq]

/-- A double hyphen may be an operand, and behind the first one that is not, options are words. The
word in front may as well stand behind the options. -/
theorem arguments_read_exactly_hyphens :
    let word : Group := .word "a" (.inr (.inr (by decide)))
    let groups : List Group := [word, .config false "--", .flag .ignoreCase, .config true "-h"]
    let groups' : List Group := [.config false "--", .flag .ignoreCase, .config true "-h", word]
    let i : Invocation := { fragments := ["a", "-x", "--"], flags := "i", config := some "-h" }
    spell groups = ["a", "-c", "--", "-i", "--config", "-h"] ∧ Regrouped groups groups' ∧
      readArguments (spell groups ++ ["--", "-x", "--"]) = .ok (.filter i) ∧
      readArguments (spell groups' ++ ["--", "-x", "--"]) = .ok (.filter i) ∧
      (readArguments ["-c", "--", "--colour"] = .error (.unknownOption "--colour") ∧
        ∀ lib s, (run lib s ["-c", "--", "--colour"]).code = 1) := by
  intro word groups groups' i
  let line : CommandLine := ⟨groups, some ["-x", "--"]⟩
  obtain ⟨haccepts, -, -, hregroups⟩ := arguments_read_exactly line.arguments
  have hread : readArguments line.arguments = .ok (.filter i) :=
    (haccepts i).2 ⟨line, rfl, by decide, rfl⟩
  have hregrouped : Regrouped groups groups' := ⟨rfl, rfl, rfl, rfl, rfl, rfl⟩
  obtain ⟨-, hanswers, hrefused, -⟩ := arguments_read_exactly ["-c", "--", "--colour"]
  have hunknown : readArguments ["-c", "--", "--colour"] = .error (.unknownOption "--colour") := by
    refine (hanswers _).2 (.unknown [.config false "--"] [] (by decide) ?_)
    rw [← isFragment_iff]
    decide
  exact ⟨rfl, hregrouped, hread, (hregroups groups groups' _ rfl hregrouped).trans hread, hunknown,
    fun lib s => (hrefused _ hunknown lib s).1⟩

end CallSite.Filter
