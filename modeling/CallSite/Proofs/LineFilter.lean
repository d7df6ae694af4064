import CallSite.Filter.Exit
import CallSite.Proofs.Code
import CallSite.Proofs.Transparency
import CallSite.Regex.Compile
import CallSite.Settings.Reader

/-!
# What the filter prints

A run of the filter that does not fail prints the lines in which the pattern is found, or their
number. Neither the cache of its pattern site nor the pattern instance that goes from line to line
can be seen in this. So runs on parts of an input, and on the output of another run, fit together.
-/
namespace CallSite.Filter

/-! ### Lines -/

def dropEmptyEnd (all : List Bytes) : List Bytes :=
  if all.getLast? = some [] then all.dropLast else all

/-- What stands between line feeds, without an empty piece at the end. -/
def pieces (text : Bytes) : List Bytes := dropEmptyEnd (text.splitOn lineFeed)

theorem dropEmptyEnd_cons (line : Bytes) {all : List Bytes} (h : all ≠ []) :
    dropEmptyEnd (line :: all) = line :: dropEmptyEnd all := by
  obtain ⟨next, rest, rfl⟩ := List.exists_cons_of_ne_nil h
  rw [dropEmptyEnd, dropEmptyEnd, List.getLast?_cons_cons]
  split_ifs <;> rfl

/-- What has been read of a line belongs in front of the first piece of the rest. -/
theorem linesFrom_eq (line text : Bytes) :
    linesFrom line text =
      dropEmptyEnd ((text.splitOn lineFeed).modifyHead (line.reverse ++ ·)) := by
  induction text generalizing line with
  | nil =>
    cases line with
    | nil => rfl
    | cons b line => simp [linesFrom, dropEmptyEnd, List.splitOn_nil]
  | cons b text ih =>
    have hrest := List.splitOn_ne_nil lineFeed text
    rw [linesFrom, List.splitOn, List.splitOnP_cons_eq_if_modifyHead]
    by_cases hb : b = lineFeed
    · subst hb
      have hnil :
          (text.splitOn lineFeed).modifyHead (([] : Bytes) ++ ·) = text.splitOn lineFeed := by
        cases text.splitOn lineFeed <;> rfl
      rw [if_pos rfl, if_pos (by simp), ih, List.reverse_nil, hnil, List.modifyHead_cons,
        List.append_nil]
      exact (dropEmptyEnd_cons _ hrest).symm
    · rw [if_neg hb, if_neg (by simpa using hb), ih]
      cases hs : text.splitOn lineFeed with
      | nil => exact absurd hs hrest
      | cons first rest =>
        rw [List.splitOn] at hs
        rw [hs]
        simp

theorem lines_eq_pieces (text : Bytes) : lines text = pieces text := by
  rw [lines, linesFrom_eq]
  cases h : text.splitOn lineFeed with
  | nil => exact absurd h (List.splitOn_ne_nil _ _)
  | cons first rest => simp [pieces, dropEmptyEnd, h]

theorem linesFrom_append_line {line : Bytes} (l rest : Bytes) (h : lineFeed ∉ l) :
    linesFrom line (l ++ lineFeed :: rest) = (line.reverse ++ l) :: lines rest := by
  induction l generalizing line with
  | nil => simp [linesFrom, lines]
  | cons b l ih =>
    have hb : b ≠ lineFeed := fun heq => h (heq ▸ List.mem_cons_self)
    rw [List.cons_append, linesFrom, if_neg hb, ih fun hl => h (List.mem_cons_of_mem _ hl)]
    simp

theorem lines_append_line (l rest : Bytes) (h : lineFeed ∉ l) :
    lines (l ++ lineFeed :: rest) = l :: lines rest := linesFrom_append_line l rest h

theorem not_mem_of_mem_linesFrom {line text l : Bytes} (hline : lineFeed ∉ line)
    (h : l ∈ linesFrom line text) : lineFeed ∉ l := by
  induction text generalizing line with
  | nil =>
    rw [linesFrom] at h
    split_ifs at h
    · simp at h
    · rw [List.mem_singleton] at h
      simpa [h] using hline
  | cons b text ih =>
    rw [linesFrom] at h
    split_ifs at h with hb
    · rcases List.mem_cons.1 h with rfl | h
      · simpa using hline
      · exact ih (by simp) h
    · exact ih (by simp [hline, Ne.symm hb]) h

/-- No line has a line feed in it. -/
theorem not_mem_of_mem_lines {text l : Bytes} (h : l ∈ lines text) : lineFeed ∉ l :=
  not_mem_of_mem_linesFrom (by simp) h

theorem lines_unlines {ls : List Bytes} (h : ∀ l ∈ ls, lineFeed ∉ l) : lines (unlines ls) = ls := by
  induction ls with
  | nil => rfl
  | cons l ls ih =>
    have hsplit : unlines (l :: ls) = l ++ lineFeed :: unlines ls := by simp [unlines]
    rw [hsplit, lines_append_line l _ (h l List.mem_cons_self),
      ih fun l' hl' => h l' (List.mem_cons_of_mem _ hl')]

theorem count_unlines {ls : List Bytes} (h : ∀ l ∈ ls, lineFeed ∉ l) :
    (unlines ls).count lineFeed = ls.length := by
  induction ls with
  | nil => rfl
  | cons l ls ih =>
    have hl := List.count_eq_zero.2 (h l List.mem_cons_self)
    have hls := ih fun l' hl' => h l' (List.mem_cons_of_mem _ hl')
    rw [unlines] at hls
    simp [unlines, hl, hls]

theorem lines_append (a b : Bytes) :
    lines (a ++ lineFeed :: b) = lines (a ++ [lineFeed]) ++ lines b := by
  have hfrom (line : Bytes) :
      linesFrom line (a ++ lineFeed :: b) = linesFrom line (a ++ [lineFeed]) ++ lines b := by
    induction a generalizing line with
    | nil => simp [linesFrom, lines]
    | cons c a ih =>
      rw [List.cons_append, List.cons_append, linesFrom, linesFrom]
      split_ifs
      · rw [ih, List.cons_append]
      · exact ih (c :: line)
  exact hfrom []

/-! ### The pattern -/

section Pattern

variable (engine : Pattern.Engine) (limits : CacheLimits) (o : Pattern.Options)
  (texts : List String)

/-- What the filter's fragments compile to, without any site. -/
def compiled : Except (Stop PatternError) Pattern.Template :=
  Act.outcome (σ := Unit)
    (Pattern.compileFragments (Pattern.dialectCompiler engine none) o (fragments texts)) ()

/-- The pattern dialect as a function. -/
def dialect : Pattern.CompileFunction := fun s o =>
  (Pattern.compileDialect engine none s o).mapError Stop.failure

theorem dialectCompiler_eq {σ : Type} :
    (Pattern.dialectCompiler engine none : Pattern.Compiler σ) = (dialect engine).compiler := by
  funext s o
  rw [Pattern.dialectCompiler, Pattern.CompileFunction.compiler, dialect]
  cases Pattern.compileDialect engine none s o with
  | error e => rfl
  | ok c => rfl

theorem compiled_eq :
    compiled engine o texts = (dialect engine).template o (fragments texts) := by
  rw [compiled, dialectCompiler_eq, Pattern.Site.outcome_compileFragments]

/-- The dialect neither panics nor goes on for ever. -/
theorem failure_of_compiled {e : Stop PatternError} (h : compiled engine o texts = .error e) :
    ∃ reason, e = .failure reason := by
  rw [compiled_eq, Pattern.CompileFunction.template] at h
  cases hsource : Pattern.Source.ofFragments o (fragments texts) with
  | error reason =>
    rw [hsource] at h
    cases h
    exact ⟨reason, rfl⟩
  | ok source =>
    cases hdialect : Pattern.compileDialect engine none source o with
    | error reason =>
      simp only [hsource, Except.mapError, Bind.bind, Except.bind, dialect, hdialect] at h
      cases h
      exact ⟨reason, rfl⟩
    | ok c =>
      simp only [hsource, Except.mapError, Bind.bind, Except.bind, dialect, hdialect] at h
      cases h

/-- The first build at a site finds nothing in its cache, and there is room for what it compiles:
whatever the limits, no advice is given. -/
theorem build_start (f : Pattern.CompileFunction) : ∃ w : Workspace, w.advice = [] ∧
    (site f.compiler limits o).build (fragments texts) (start limits texts) =
      match f.template o (fragments texts) with
      | .ok template => .ok (.ofTemplate ⟨template, texts.length⟩) w
      | .error e => .error e w := by
  let missed : Workspace :=
    ⟨{ limit := limits.default, stats := { misses := 1 } }, texts.length, []⟩
  have hmiss : (site f.compiler limits o).build (fragments texts) (start limits texts) =
      ((site f.compiler limits o).compileNew (fragments texts) >>=
        (site f.compiler limits o).offer (fragments texts)) missed := Pattern.Site.build_of_miss rfl
  have hnew : (site f.compiler limits o).compileNew (fragments texts) missed =
      match f.template o (fragments texts) with
      | .ok template => .ok ⟨template, texts.length⟩ { missed with nextTag := texts.length + 1 }
      | .error e => .error e missed := Pattern.Site.compileNew_eq rfl _ _
  rw [hmiss]
  cases htemplate : f.template o (fragments texts) with
  | error e =>
    rw [htemplate] at hnew
    exact ⟨missed, rfl, Act.bind_of_error hnew⟩
  | ok template =>
    rw [htemplate] at hnew
    let compiled : Shared Pattern.Template := ⟨template, texts.length⟩
    have hstored : missed.cache.offer (fragments texts) compiled =
        (.stored, { missed.cache with entries := [(fragments texts, compiled)] }) :=
      SiteCache.offer_of_room rfl rfl limits.default.pos
    exact ⟨_, rfl, (Act.bind_of_ok hnew).trans (Pattern.Site.offer_of_stored hstored)⟩

/-- The filter builds what its fragments compile to without any site. -/
theorem buildPattern_eq : ∃ w : Workspace, w.advice = [] ∧
    buildPattern engine limits o texts =
      match compiled engine o texts with
      | .ok template => (.ok (.ofTemplate ⟨template, texts.length⟩), w)
      | .error (.failure reason) => (.error reason, w)
      | .error (.panic message) => (.error (.fragment message), w)
      | .error .outOfFuel => (.error (.fragment "out of fuel"), w) := by
  obtain ⟨w, hadvice, hbuild⟩ := build_start limits o texts (dialect engine)
  refine ⟨w, hadvice, ?_⟩
  rw [buildPattern, dialectCompiler_eq, hbuild, compiled_eq]
  cases (dialect engine).template o (fragments texts) with
  | ok template => rfl
  | error e =>
    cases e with
    | failure reason => rfl
    | panic message => rfl
    | outOfFuel => rfl

theorem advice_buildPattern : (buildPattern engine limits o texts).2.advice = [] := by
  obtain ⟨w, hadvice, hbuild⟩ := buildPattern_eq engine limits o texts
  rw [hbuild]
  cases hcompiled : compiled engine o texts with
  | ok template => exact hadvice
  | error e =>
    obtain ⟨reason, rfl⟩ := failure_of_compiled engine o texts hcompiled
    exact hadvice

variable {engine limits o texts}

theorem buildPattern_of_ok {template : Pattern.Template}
    (h : compiled engine o texts = .ok template) :
    (buildPattern engine limits o texts).1 = .ok (.ofTemplate ⟨template, texts.length⟩) := by
  obtain ⟨w, -, hbuild⟩ := buildPattern_eq engine limits o texts
  rw [hbuild, h]

theorem buildPattern_of_error {reason : PatternError}
    (h : compiled engine o texts = .error (.failure reason)) :
    (buildPattern engine limits o texts).1 = .error reason := by
  obtain ⟨w, -, hbuild⟩ := buildPattern_eq engine limits o texts
  rw [hbuild, h]

theorem buildPattern_congr (engine : Pattern.Engine) (limits limits' : CacheLimits)
    (o : Pattern.Options) (texts : List String) :
    (buildPattern engine limits o texts).1 = (buildPattern engine limits' o texts).1 := by
  cases hcompiled : compiled engine o texts with
  | ok template => rw [buildPattern_of_ok hcompiled, buildPattern_of_ok hcompiled]
  | error e =>
    obtain ⟨reason, rfl⟩ := failure_of_compiled engine o texts hcompiled
    rw [buildPattern_of_error hcompiled, buildPattern_of_error hcompiled]

end Pattern

/-! ### A run -/

section Run

/-- The matcher finds something in the line. -/
def finds (template : Pattern.Template) (line : Bytes) : Bool :=
  (template.matcher.find? line 0).isSome

/-- One instance goes through all lines, and finds in each what a new one would find. -/
theorem matching_eq (p : Pattern) (ls : List Bytes) :
    (matching p ls).1 = ls.filter (finds p.template.content) := by
  induction ls generalizing p with
  | nil => rfl
  | cons line ls ih =>
    have hrest := ih (p.matchAt line 0).2
    simp only [matching, List.filter_cons, hrest]
    rfl

/-- What a run that does not fail works with: settings that can be read, flags that can be set
with a pattern that compiles, and the text to filter. -/
structure Given (lib : Libraries) (s : Surroundings) (i : Invocation)
    (template : Pattern.Template) (text : Bytes) : Prop where
  settings : ∃ l, limits lib s i = .ok l
  pattern : ∃ o, Pattern.Options.parse i.flags = .ok o ∧
    compiled lib.engine o i.fragments = .ok template
  input : inputOf s i = .ok text

variable {lib : Libraries} {s : Surroundings} {i : Invocation} {template : Pattern.Template}
  {text : Bytes} {arguments : List String}

theorem filter_of_given (h : Given lib s i template text) :
    filter lib s i = .ok (output i.countOnly ((lines text).filter (finds template))) := by
  obtain ⟨l, hl⟩ := h.settings
  obtain ⟨o, ho, htemplate⟩ := h.pattern
  have hprepare : prepare lib s i = .ok (.ofTemplate ⟨template, i.fragments.length⟩) := by
    rw [prepare, hl, ho]
    change (buildPattern lib.engine l o i.fragments).1.mapError _ = _
    rw [buildPattern_of_ok htemplate]
    rfl
  rw [filter, hprepare, h.input]
  change Except.ok (output i.countOnly (matching _ (lines text)).1) = _
  rw [matching_eq]
  rfl

/-- The settings, the flags, the pattern or the input fail. -/
inductive Fails (lib : Libraries) (s : Surroundings) (i : Invocation) : Prop
  | settings {e : SettingsError} : limits lib s i = .error e → Fails lib s i
  | flags {e : PatternError} : Pattern.Options.parse i.flags = .error e → Fails lib s i
  | pattern {o : Pattern.Options} {e : Stop PatternError} :
    Pattern.Options.parse i.flags = .ok o → compiled lib.engine o i.fragments = .error e →
      Fails lib s i
  | input {e : Failure} : inputOf s i = .error e → Fails lib s i

theorem given_or_fails (lib : Libraries) (s : Surroundings) (i : Invocation) :
    (∃ template text, Given lib s i template text) ∨ Fails lib s i := by
  cases hl : limits lib s i with
  | error e => exact .inr (.settings hl)
  | ok l =>
    cases ho : Pattern.Options.parse i.flags with
    | error e => exact .inr (.flags ho)
    | ok o =>
      cases htemplate : compiled lib.engine o i.fragments with
      | error e => exact .inr (.pattern ho htemplate)
      | ok template =>
        cases hinput : inputOf s i with
        | error e => exact .inr (.input hinput)
        | ok text => exact .inl ⟨template, text, ⟨l, hl⟩, ⟨o, ho, htemplate⟩, hinput⟩

theorem prepare_of_fails (h : Fails lib s i) (hinput : ∀ e, inputOf s i ≠ .error e) :
    ∃ e, prepare lib s i = .error e := by
  cases hl : limits lib s i with
  | error e =>
    refine ⟨.settings e, ?_⟩
    rw [prepare, hl]
    rfl
  | ok l =>
    cases h with
    | settings hsettings =>
      rw [hl] at hsettings
      cases hsettings
    | @flags e hflags =>
      refine ⟨.pattern e, ?_⟩
      rw [prepare, hl, hflags]
      rfl
    | @pattern o _ hflags hpattern =>
      obtain ⟨reason, rfl⟩ := failure_of_compiled lib.engine o i.fragments hpattern
      refine ⟨.pattern reason, ?_⟩
      rw [prepare, hl, hflags]
      change (buildPattern lib.engine l o i.fragments).1.mapError Failure.pattern = _
      rw [buildPattern_of_error hpattern]
      rfl
    | input h => exact absurd h (hinput _)

theorem filter_of_fails (h : Fails lib s i) : ∃ e, filter lib s i = .error e := by
  cases hprepare : prepare lib s i with
  | error e =>
    refine ⟨e, ?_⟩
    rw [filter, hprepare]
    rfl
  | ok p =>
    cases hinput : inputOf s i with
    | error e =>
      refine ⟨e, ?_⟩
      rw [filter, hprepare, hinput]
      rfl
    | ok text =>
      obtain ⟨e, he⟩ := prepare_of_fails h (by simp [hinput])
      rw [hprepare] at he
      cases he

/-- Only that the settings can be read matters, not where they come from or what they are. -/
theorem filter_congr {s' : Surroundings} {config : Option String} {l l' : CacheLimits}
    (hl : limits lib s i = .ok l) (hl' : limits lib s' { i with config := config } = .ok l')
    (hinput : inputOf s i = inputOf s' i) :
    filter lib s i = filter lib s' { i with config := config } := by
  have hprepare : prepare lib s i = prepare lib s' { i with config := config } := by
    rw [prepare, prepare, hl, hl']
    cases Pattern.Options.parse i.flags with
    | error e => rfl
    | ok o =>
      have hbuilt := buildPattern_congr lib.engine l l' o i.fragments
      exact congrArg (·.mapError Failure.pattern) hbuilt
  have hinput' : inputOf s i = inputOf s' { i with config := config } := hinput
  rw [filter, filter, hprepare, hinput']

theorem run_of_given (h : Given lib s i template text)
    (harguments : readArguments arguments = .ok (.filter i)) :
    run lib s arguments = .printed (output i.countOnly ((lines text).filter (finds template))) := by
  rw [run, harguments]
  simp only [filter_of_given h]

theorem run_of_fails (h : Fails lib s i) (harguments : readArguments arguments = .ok (.filter i)) :
    ∃ e, run lib s arguments = .failed e := by
  obtain ⟨e, he⟩ := filter_of_fails h
  refine ⟨e, ?_⟩
  rw [run, harguments]
  simp only [he]

/-! ### Runs that belong together -/

/-- The pattern is settled by the invocation alone. -/
theorem Given.template_eq {s' : Surroundings} {template' : Pattern.Template} {text' : Bytes}
    (h : Given lib s i template text) (h' : Given lib s' i template' text') :
    template = template' := by
  obtain ⟨o, ho, htemplate⟩ := h.pattern
  obtain ⟨o', ho', htemplate'⟩ := h'.pattern
  rw [ho] at ho'
  cases ho'
  rw [htemplate] at htemplate'
  cases htemplate'
  rfl

theorem not_mem_of_mem_selected {line : Bytes}
    (h : line ∈ (lines text).filter (finds template)) : lineFeed ∉ line :=
  not_mem_of_mem_lines (List.mem_of_mem_filter h)

theorem out_of_given (h : Given lib s i template text)
    (harguments : readArguments arguments = .ok (.filter i)) (hplain : i.countOnly = false) :
    (run lib s arguments).out = unlines ((lines text).filter (finds template)) := by
  rw [run_of_given h harguments, hplain]
  rfl

/-- The decimal digits of a number, and a line feed. -/
def numberLine (n : Nat) : Bytes := Utf8.encode (toString n) ++ [lineFeed]

theorem out_of_counting {counting : List String} (h : Given lib s i template text)
    (harguments : readArguments arguments = .ok (.filter i)) (hplain : i.countOnly = false)
    (hcounting : readArguments counting = .ok (.filter { i with countOnly := true })) :
    (run lib s counting).out = numberLine ((run lib s arguments).out.count lineFeed) := by
  have hcount : Given lib s { i with countOnly := true } template text :=
    ⟨h.settings, h.pattern, h.input⟩
  rw [run_of_given hcount hcounting, out_of_given h harguments hplain,
    count_unlines fun _ => not_mem_of_mem_selected]
  rfl

theorem out_again {s' : Surroundings} {template' : Pattern.Template}
    (h : Given lib s i template text) (harguments : readArguments arguments = .ok (.filter i))
    (hplain : i.countOnly = false) (h' : Given lib s' i template' (run lib s arguments).out) :
    (run lib s' arguments).out = (run lib s arguments).out := by
  cases h.template_eq h'
  rw [out_of_given h' harguments hplain, out_of_given h harguments hplain,
    lines_unlines fun _ => not_mem_of_mem_selected, List.filter_filter]
  simp only [Bool.and_self]

theorem out_append {s₁ s₂ : Surroundings} {template₁ template₂ : Pattern.Template} {a b : Bytes}
    (h : Given lib s i template (a ++ lineFeed :: b))
    (h₁ : Given lib s₁ i template₁ (a ++ [lineFeed])) (h₂ : Given lib s₂ i template₂ b)
    (harguments : readArguments arguments = .ok (.filter i)) (hplain : i.countOnly = false) :
    (run lib s arguments).out = (run lib s₁ arguments).out ++ (run lib s₂ arguments).out := by
  cases h.template_eq h₁
  cases h.template_eq h₂
  rw [out_of_given h harguments hplain, out_of_given h₁ harguments hplain,
    out_of_given h₂ harguments hplain, lines_append, List.filter_append]
  exact List.flatMap_append

end Run

/-- The filter either fails, with exit code 1 and no output, or prints the pieces of its input in
which the compiled fragments are found, each with a line feed behind it, or their number. So the
number is that of the line feeds in what is printed without `--count`; what is printed is what is
found in it again; and what is printed for two parts of an input stands in what is printed for
both. None of this depends on the limits, and no advice is given. -/
theorem filters_lines (lib : Libraries) {arguments : List String} {i : Invocation}
    (harguments : readArguments arguments = .ok (.filter i)) :
    (∀ s, (∃ template text, Given lib s i template text) ∨ Fails lib s i) ∧
    (∀ s, Fails lib s i → (run lib s arguments).code = 1 ∧ (run lib s arguments).out = []) ∧
    (∀ s template text, Given lib s i template text →
      (run lib s arguments).code = 0 ∧
      (i.countOnly = false → (run lib s arguments).out =
        ((pieces text).filter (finds template)).flatMap (· ++ [lineFeed])) ∧
      (i.countOnly = true → (run lib s arguments).out =
        numberLine ((pieces text).filter (finds template)).length)) ∧
    (i.countOnly = false →
      (∀ counting, readArguments counting = .ok (.filter { i with countOnly := true }) →
        ∀ s template text, Given lib s i template text →
          (run lib s counting).out = numberLine ((run lib s arguments).out.count lineFeed)) ∧
      (∀ s template text, Given lib s i template text →
        ∀ s' template', Given lib s' i template' (run lib s arguments).out →
          (run lib s' arguments).out = (run lib s arguments).out) ∧
      ∀ s template a b, Given lib s i template (a ++ lineFeed :: b) →
        ∀ s₁ template₁, Given lib s₁ i template₁ (a ++ [lineFeed]) →
        ∀ s₂ template₂, Given lib s₂ i template₂ b →
          (run lib s arguments).out = (run lib s₁ arguments).out ++ (run lib s₂ arguments).out) ∧
    (∀ others config, readArguments others = .ok (.filter { i with config := config }) →
      ∀ s s' l l', limits lib s i = .ok l → limits lib s' { i with config := config } = .ok l' →
        inputOf s i = inputOf s' i → run lib s arguments = run lib s' others) ∧
    ∀ l o, (buildPattern lib.engine l o i.fragments).2.advice = [] := by
  refine ⟨fun s => given_or_fails lib s i, ?_, ?_, fun hplain => ⟨?_, ?_, ?_⟩, ?_, ?_⟩
  · intro s h
    obtain ⟨e, he⟩ := run_of_fails h harguments
    rw [he]
    exact ⟨rfl, rfl⟩
  · intro s template text h
    rw [run_of_given h harguments, ← lines_eq_pieces]
    refine ⟨rfl, ?_, ?_⟩
    · intro hplain
      rw [hplain]
      rfl
    · intro hcount
      rw [hcount]
      rfl
  · exact fun counting hcounting s template text h =>
      out_of_counting h harguments hplain hcounting
  · exact fun s template text h s' template' h' => out_again h harguments hplain h'
  · exact fun s template a b h s₁ template₁ h₁ s₂ template₂ h₂ =>
      out_append h h₁ h₂ harguments hplain
  · intro others config hothers s s' l l' hl hl' hinput
    rw [run, run, harguments, hothers]
    simp only [filter_congr hl hl' hinput]
  · exact fun l o => advice_buildPattern lib.engine l o i.fragments

/-- The carriage return stays with its line, and there is no line behind the last line feed. -/
theorem filters_lines_one_fragment :
    let lib : Libraries := ⟨Regex.engine, CacheLimits.readToml⟩
    let s : Surroundings :=
      ⟨{}, fun _ => .error .notFound, [0x61, 0x0D, 0x0A, 0x62, 0x0A, 0x0A, 0x61, 0x0A]⟩
    readArguments ["a"] = .ok (.filter { fragments := ["a"] }) ∧
      (∃ template, Given lib s { fragments := ["a"] } template s.input) ∧
      (run lib s ["a"]).code = 0 ∧ (run lib s ["a"]).out = [0x61, 0x0D, 0x0A, 0x61, 0x0A] := by
  intro lib s
  let i : Invocation := { fragments := ["a"] }
  have harguments : readArguments ["a"] = .ok (.filter i) := by decide
  obtain ⟨-, -, hprints, -⟩ := filters_lines lib harguments
  have hcompiles : ((compiled lib.engine {} ["a"]).toOption).isSome := by decide +kernel
  let template := ((compiled lib.engine {} ["a"]).toOption).get hcompiles
  have hgiven : Given lib s i template s.input := ⟨⟨_, rfl⟩, ⟨{}, rfl, rfl⟩, rfl⟩
  obtain ⟨hcode, hout, -⟩ := hprints s template s.input hgiven
  have hselected : ((pieces s.input).filter (finds template)).flatMap (· ++ [lineFeed]) =
      [0x61, 0x0D, 0x0A, 0x61, 0x0A] := rfl
  exact ⟨harguments, ⟨template, hgiven⟩, hcode, (hout rfl).trans hselected⟩

end CallSite.Filter
