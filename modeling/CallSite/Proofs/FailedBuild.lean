import CallSite.Proofs.Stability

/-!
# Builds that fail

A build may fail, or panic, while a source of a fragment is evaluated, while the fragments are
joined, or in the compiler. Wherever it does, it leaves the site as it was. Once all sources have
been evaluated it counts as a request that was not answered; before that it does not count.
-/
namespace CallSite

namespace Act

variable {σ ε α β : Type} {f : β → Act σ ε α} {b : β} {bs : List β} {s s' : σ} {e : Stop ε}

/-- The first one that stops ends it all: those before it have run, and those behind it do not. -/
theorem mapM_eq_error_iff : bs.mapM f s = .error e s' ↔
    ∃ done b rest as s₁, bs = done ++ b :: rest ∧ done.mapM f s = .ok as s₁ ∧
      f b s₁ = .error e s' := by
  constructor
  · intro h
    induction bs generalizing s with
    | nil =>
      rw [List.mapM_nil] at h
      cases h
    | cons b bs ih =>
      rw [List.mapM_cons] at h
      rcases bind_eq_error.1 h with hfirst | ⟨a, s₁, hfirst, hmore⟩
      · exact ⟨[], b, bs, [], s, rfl, rfl, hfirst⟩
      rcases bind_eq_error.1 hmore with hrest | ⟨_, _, -, ⟨⟩⟩
      obtain ⟨done, b', rest, as, s₂, rfl, hdone, hb⟩ := ih hrest
      refine ⟨b :: done, b', rest, a :: as, s₂, rfl, ?_, hb⟩
      rw [List.mapM_cons, bind_of_ok hfirst, bind_of_ok hdone]
      rfl
  · rintro ⟨done, b, rest, as, s₁, rfl, hdone, hb⟩
    rw [List.mapM_append, bind_of_ok hdone, List.mapM_cons]
    exact bind_of_error (bind_of_error hb)

/-- Runs `f b` and writes `b` down beside the state, however it ends. -/
def listed (f : β → Act σ ε α) (b : β) : Act (σ × List β) ε α := fun w =>
  match f b w.1 with
  | .ok a s => .ok a (s, w.2 ++ [b])
  | .error e s => .error e (s, w.2 ++ [b])

theorem listed_of_ok {a : α} (h : f b s = .ok a s') (before : List β) :
    listed f b (s, before) = .ok a (s', before ++ [b]) := by
  simp only [listed, h]

theorem listed_of_error (h : f b s = .error e s') (before : List β) :
    listed f b (s, before) = .error e (s', before ++ [b]) := by
  simp only [listed, h]

/-- If all end well, each is run once, in order. -/
theorem mapM_listed_of_ok {as : List α} (h : bs.mapM f s = .ok as s') (before : List β) :
    bs.mapM (listed f) (s, before) = .ok as (s', before ++ bs) := by
  induction bs generalizing as s before with
  | nil =>
    rw [List.mapM_nil] at h ⊢
    cases h
    rw [List.append_nil]
    rfl
  | cons b bs ih =>
    rw [List.mapM_cons] at h
    obtain ⟨a, s₁, hfirst, hmore⟩ := bind_eq_ok.1 h
    obtain ⟨as, s₂, hrest, ⟨⟩⟩ := bind_eq_ok.1 hmore
    rw [List.mapM_cons, bind_of_ok (listed_of_ok hfirst before), bind_of_ok (ih hrest _),
      List.append_assoc]
    rfl

/-- If one stops, those before it are run once, in order, and then it is, and no more. -/
theorem mapM_listed_of_error {done rest : List β} {as : List α} {s₁ : σ}
    (hdone : done.mapM f s = .ok as s₁) (hb : f b s₁ = .error e s') (before : List β) :
    (done ++ b :: rest).mapM (listed f) (s, before) = .error e (s', before ++ done ++ [b]) := by
  rw [List.mapM_append, bind_of_ok (mapM_listed_of_ok hdone before), List.mapM_cons]
  exact bind_of_error (bind_of_error (listed_of_error hb _))

end Act

/-- The statistics after one more request that no entry has answered. -/
def SiteCache.missed {κ α : Type} (c : SiteCache κ α) : SiteStats :=
  if c.unstable then { c.stats with uncached := c.stats.uncached + 1 }
  else { c.stats with misses := c.stats.misses + 1 }

theorem SiteCache.probe_of_missed {κ α : Type} [CacheKey κ] {c : SiteCache κ α} {key : κ}
    (h : ∀ value, (c.probe key).1 ≠ .hit value) :
    (c.probe key).2 = { c with stats := c.missed } := by
  cases hunstable : c.unstable with
  | true => simp [probe_of_unstable hunstable, missed, hunstable]
  | false =>
    cases hfound : c.find? key with
    | some found => exact absurd (congrArg Prod.fst (probe_of_found hunstable hfound)) (h found)
    | none => simp [probe_of_not_found hunstable hfound, missed, hunstable]

namespace Pattern.Site

section Within

variable {σ : Type} {site : Site σ} {T : σ → σ → Prop}

/-- A build keeps what the compiler, advice and writes to the cache keep. -/
theorem within_build (hrefl : ∀ s, T s s) (htrans : ∀ s₁ s₂ s₃, T s₁ s₂ → T s₂ s₃ → T s₁ s₃)
    (hcache : ∀ c s, T s (site.cache.set s c))
    (hadvise : ∀ message s, T s (site.advise message s)) {fragments : List Fragment}
    (hcompile : (site.compileNew fragments).Within T) : (site.build fragments).Within T := by
  have hoffer (template : Shared Template) : (site.offer fragments template).Within T := by
    intro s
    obtain ⟨p, c, s', hends, rfl | rfl⟩ := offer_ends site fragments template s
    · rw [Act.after_of_ok hends]
      exact hcache c s
    · rw [Act.after_of_ok hends]
      exact htrans _ _ _ (hcache c s) (hadvise _ _)
  have hanswer (template : Shared Template) :
      (pure (.ofTemplate template) : Act σ PatternError Pattern).Within T := hrefl
  intro s
  cases hprobe : ((site.cache.get s).probe fragments).1 with
  | hit earlier =>
    rw [Act.after_of_ok (build_of_hit hprobe)]
    exact hcache _ s
  | unstable =>
    rw [Act.after_congr (build_of_unstable hprobe)]
    exact htrans _ _ _ (hcache _ s) (hcompile.bind htrans hanswer _)
  | miss =>
    rw [Act.after_congr (build_of_miss hprobe)]
    exact htrans _ _ _ (hcache _ s) (hcompile.bind htrans hoffer _)

end Within

/-- How a build from sources fails. Up to where a source or the compiler stops, the site itself has
written no more than the count of one request, and behind that it writes nothing. -/
inductive FailsFrom {σ : Type} (site : Site σ) (sources : List (Act σ PatternError Fragment))
    (s : σ) (e : Stop PatternError) (s' : σ) : Prop
  /-- A source stops. Those before it have been evaluated, and those behind it are not. -/
  | source {done rest : List (Act σ PatternError Fragment)} {source : Act σ PatternError Fragment}
    {values : List Fragment} {s₁ : σ} : sources = done ++ source :: rest →
    done.mapM id s = .ok values s₁ → source s₁ = .error e s' → FailsFrom site sources s e s'
  /-- No entry answers what the sources have given, and the compiler stops. -/
  | compilation {fragments : List Fragment} {s₁ : σ} : sources.mapM id s = .ok fragments s₁ →
    (∀ template, ((site.cache.get s₁).probe fragments).1 ≠ .hit template) →
    site.compileNew fragments
        (site.cache.set s₁ { site.cache.get s₁ with stats := (site.cache.get s₁).missed }) =
      .error e s' → FailsFrom site sources s e s'

theorem buildFrom_eq_error_iff {σ : Type} {site : Site σ}
    {sources : List (Act σ PatternError Fragment)} {s s' : σ} {e : Stop PatternError} :
    site.buildFrom sources s = .error e s' ↔ site.FailsFrom sources s e s' := by
  rw [buildFrom, Act.bind_eq_error, Act.mapM_eq_error_iff]
  simp only [build_eq_error_iff]
  constructor
  · rintro (⟨done, source, rest, values, s₁, hsplit, hdone, hsource⟩ |
      ⟨fragments, s₁, hend, hmissed, hcompile⟩)
    · exact .source hsplit hdone hsource
    · rw [SiteCache.probe_of_missed hmissed] at hcompile
      exact .compilation hend hmissed hcompile
  · rintro (⟨hsplit, hdone, hsource⟩ | ⟨hend, hmissed, hcompile⟩)
    · exact .inl ⟨_, _, _, _, _, hsplit, hdone, hsource⟩
    · rw [← SiteCache.probe_of_missed hmissed] at hcompile
      exact .inr ⟨_, _, hend, hmissed, hcompile⟩

end Pattern.Site

namespace Building

open Pattern

variable {ς μ : Type}

/-- How many builds have been asked for. -/
def State.asked (s : State μ) : Nat := s.log.countP Event.isAsked

/-- The site is as it was, all but for its statistics. -/
structure LeavesSite (s s' : State μ) (stats : SiteStats) : Prop where
  cache_eq : s'.cache = { s.cache with stats }
  advice_eq : s'.advice = s.advice

/-- No build is forgotten, and without one the site does not change. -/
structure Steady (s s' : State μ) : Prop where
  asked_le : s.asked ≤ s'.asked
  leavesSite : s'.asked = s.asked → LeavesSite s s' s.cache.stats

section Steady

variable {s s₁ s₂ s₃ s' : State μ} {stats : SiteStats}

theorem LeavesSite.refl (s : State μ) : LeavesSite s s s.cache.stats := ⟨rfl, rfl⟩

theorem LeavesSite.trans {stats' : SiteStats} (h : LeavesSite s₁ s₂ stats)
    (h' : LeavesSite s₂ s₃ stats') : LeavesSite s₁ s₃ stats' :=
  ⟨by rw [h'.cache_eq, h.cache_eq], h'.advice_eq.trans h.advice_eq⟩

theorem Steady.refl (s : State μ) : Steady s s := ⟨Nat.le_refl _, fun _ => .refl s⟩

theorem Steady.trans (s₁ s₂ s₃ : State μ) (h : Steady s₁ s₂) (h' : Steady s₂ s₃) :
    Steady s₁ s₃ := by
  refine ⟨Nat.le_trans h.asked_le h'.asked_le, fun hasked => ?_⟩
  have hle := h.asked_le
  have hle' := h'.asked_le
  have hfirst := h.leavesSite (by omega)
  have hlast := h'.leavesSite (by omega)
  rw [hfirst.cache_eq] at hlast
  exact hfirst.trans hlast

/-- Behind a build that was asked for, nothing is promised. -/
theorem Steady.of_asked_lt (h : s.asked < s'.asked) : Steady s s' :=
  ⟨Nat.le_of_lt h, fun hasked => absurd hasked (Nat.ne_of_gt h)⟩

end Steady

namespace Program

section Build

variable {P : Program ς μ} {run : Runner ς μ}

/-- Whatever happens while it compiles, a build has been asked for behind it. -/
theorem asked_lt_build
    (hrun : ∀ {α : Type} (code : BuildingCode ς μ α), Act.Within Steady (run code))
    (fragments : List Fragment) (s : State μ) :
    s.asked < ((P.build run fragments).after s).asked := by
  have hcompile : ((P.site run fragments).compileNew fragments).Within
      fun s s' => s.asked ≤ s'.asked := by
    intro s
    rcases P.compileNew_cases Steady.refl hrun fragments s with
      ⟨e, s', hend, hsteady⟩ | ⟨t, s', hend, hsteady⟩
    · rw [Act.after_of_error hend]
      exact hsteady.asked_le
    · rw [Act.after_of_ok hend]
      exact hsteady.asked_le
  have hsite := Site.within_build (T := fun s s' : State μ => s.asked ≤ s'.asked)
    (fun _ => Nat.le_refl _) (fun _ _ _ => Nat.le_trans) (fun _ _ => Nat.le_refl _)
    (fun _ _ => Nat.le_refl _) hcompile
  have hle := hsite (s.record (.asked fragments))
  have hasked : (s.record (.asked fragments)).asked = s.asked + 1 := List.countP_cons_of_pos rfl
  rw [build, Act.after_modify_bind, Act.after_noting]
  exact Nat.lt_of_succ_le (Nat.le_trans (Nat.le_of_eq hasked.symm) hle)

theorem steady_build
    (hrun : ∀ {α : Type} (code : BuildingCode ς μ α), Act.Within Steady (run code))
    (fragments : List Fragment) : Act.Within Steady (P.build run fragments) :=
  fun s => .of_asked_lt (asked_lt_build hrun fragments s)

theorem steady_sources
    (hrun : ∀ {α : Type} (code : BuildingCode ς μ α), Act.Within Steady (run code))
    (sources : List ς) :
    Act.Within Steady (sources.mapM fun source => run (P.evaluate source)) :=
  .mapM Steady.refl Steady.trans (fun _ => hrun _) sources

theorem steady_perform
    (hrun : ∀ {α : Type} (code : BuildingCode ς μ α), Act.Within Steady (run code))
    (c : Call ς μ) : Act.Within Steady (P.perform run c) := by
  cases c with
  | look => exact fun s => ⟨Nat.le_refl _, fun _ => ⟨rfl, rfl⟩⟩
  | keep memory => exact fun s => ⟨Nat.le_refl _, fun _ => ⟨rfl, rfl⟩⟩
  | tag => exact fun s => ⟨Nat.le_refl _, fun _ => ⟨rfl, rfl⟩⟩
  | build fragments => exact steady_build hrun fragments
  | buildFrom sources =>
    have hsources := steady_sources (P := P) hrun sources
    exact hsources.bind Steady.trans (steady_build hrun)

theorem steady_exec (P : Program ς μ) (fuel : Nat) {α : Type} (code : BuildingCode ς μ α) :
    Act.Within Steady (P.exec fuel code) :=
  Code.within_exec Steady.refl Steady.trans (fun _ _ hrun => steady_perform hrun) fuel code

end Build

end Program

/-! ### What a failed call leaves -/

/-- How a build from sources has failed, if it began in `s` and ended in `s'`. What is said about
the site holds if no other build was asked for on the way. -/
inductive FailedFrom (P : Program ς μ) (run : Program.Runner ς μ) (sources : List ς) (s : State μ)
    (e : Stop PatternError) (s' : State μ) : Prop
  /-- A source has stopped. Those before it were evaluated once each, those behind it were not. -/
  | source {done rest : List ς} {source : ς} {values : List Fragment} {s₁ : State μ} :
    sources = done ++ source :: rest →
    (done.mapM fun source => run (P.evaluate source)) s = .ok values s₁ →
    run (P.evaluate source) s₁ = .error e s' →
    sources.mapM (Act.listed fun source => run (P.evaluate source)) (s, []) =
      .error e (s', done ++ [source]) →
    (s'.asked = s.asked → LeavesSite s s' s.cache.stats) → FailedFrom P run sources s e s'
  /-- All sources were evaluated once each, and what they gave does not compile. -/
  | compilation {fragments : List Fragment} {s₁ : State μ} :
    sources.mapM (Act.listed fun source => run (P.evaluate source)) (s, []) =
      .ok fragments (s₁, sources) →
    P.perform run (.build fragments) s₁ = .error e s' →
    (s'.asked = s.asked + 1 → LeavesSite s s' s.cache.missed) → FailedFrom P run sources s e s'

/-- From `s` to `s'` a call has failed in which neither a source nor the compiler asked for a
build. -/
inductive FailsAlone (P : Program ς μ) (run : Program.Runner ς μ) (s s' : State μ) : Prop
  | build {fragments : List Fragment} {e : Stop PatternError} :
    P.perform run (.build fragments) s = .error e s' → s'.asked = s.asked + 1 →
    FailsAlone P run s s'
  | buildFrom {sources : List ς} {e : Stop PatternError} :
    P.perform run (.buildFrom sources) s = .error e s' →
    ((sources.mapM fun source => run (P.evaluate source)).after s).asked = s.asked →
    s'.asked ≤ s.asked + 1 → FailsAlone P run s s'

section Failed

variable {P : Program ς μ} {run : Program.Runner ς μ} {s s' : State μ} {e : Stop PatternError}

/-- What a build has left that failed is what its compiler has left behind the probe. -/
theorem leavesSite_of_build
    (hrun : ∀ {α : Type} (code : BuildingCode ς μ α), Act.Within Steady (run code))
    {fragments : List Fragment} (h : P.perform run (.build fragments) s = .error e s')
    (hasked : s'.asked = s.asked + 1) : LeavesSite s s' s.cache.missed := by
  change P.build run fragments s = .error e s' at h
  cases hsite : (P.site run fragments).build fragments (s.record (.asked fragments)) with
  | ok p s₁ =>
    rw [Program.build_of_ok hsite] at h
    cases h
  | error e₁ s₁ =>
    rw [Program.build_of_error hsite] at h
    cases h
    let probed : State μ :=
      { s with cache := (s.cache.probe fragments).2, log := .asked fragments :: s.log }
    have hprobed : probed.asked = s.asked + 1 := List.countP_cons_of_pos rfl
    obtain ⟨hmissed, hcompile⟩ := Site.build_eq_error_iff.1 hsite
    change (P.site run fragments).compileNew fragments probed = .error e s₁ at hcompile
    rcases P.compileNew_cases Steady.refl hrun fragments probed with
      ⟨e₂, s₂, hend, hsteady⟩ | ⟨t, s₂, hend, -⟩
    · rw [hend] at hcompile
      cases hcompile
      have hleaves := hsteady.leavesSite (hasked.trans hprobed.symm)
      exact ⟨hleaves.cache_eq.trans (SiteCache.probe_of_missed hmissed), hleaves.advice_eq⟩
    · rw [hend] at hcompile
      cases hcompile

/-- The sources have left `s₁`, and what they gave does not compile. -/
theorem leavesSite_of_compilation
    (hrun : ∀ {α : Type} (code : BuildingCode ς μ α), Act.Within Steady (run code))
    {fragments : List Fragment} {s₁ : State μ} (hsteady : Steady s s₁)
    (h : P.perform run (.build fragments) s₁ = .error e s') (hasked : s'.asked ≤ s.asked + 1) :
    LeavesSite s s' s.cache.missed := by
  have hlt := Program.asked_lt_build (P := P) hrun fragments s₁
  have hend : P.build run fragments s₁ = .error e s' := h
  rw [Act.after_of_error hend] at hlt
  have hle := hsteady.asked_le
  have hevaluated := hsteady.leavesSite (by omega)
  have hbuilt := leavesSite_of_build hrun h (by omega)
  rw [hevaluated.cache_eq] at hbuilt
  exact hevaluated.trans hbuilt

theorem failedFrom_of_buildFrom
    (hrun : ∀ {α : Type} (code : BuildingCode ς μ α), Act.Within Steady (run code))
    {sources : List ς} (h : P.perform run (.buildFrom sources) s = .error e s') :
    FailedFrom P run sources s e s' := by
  have hsteady := Program.steady_sources (P := P) hrun sources s
  rcases Act.bind_eq_error.1 h with hend | ⟨fragments, s₁, hend, hbuild⟩
  · rw [Act.after_of_error hend] at hsteady
    obtain ⟨done, source, rest, values, s₁, rfl, hdone, hsource⟩ := Act.mapM_eq_error_iff.1 hend
    exact .source rfl hdone hsource (Act.mapM_listed_of_error hdone hsource []) hsteady.leavesSite
  · rw [Act.after_of_ok hend] at hsteady
    exact .compilation (Act.mapM_listed_of_ok hend []) hbuild fun hasked =>
      leavesSite_of_compilation hrun hsteady hbuild (Nat.le_of_eq hasked)

theorem leavesSite_of_failsAlone
    (hrun : ∀ {α : Type} (code : BuildingCode ς μ α), Act.Within Steady (run code))
    (h : FailsAlone P run s s') : ∃ stats, LeavesSite s s' stats := by
  cases h with
  | build hend hasked => exact ⟨_, leavesSite_of_build hrun hend hasked⟩
  | @buildFrom sources e hend hsources hasked =>
    have hsteady := Program.steady_sources (P := P) hrun sources s
    rcases Act.bind_eq_error.1 hend with hstopped | ⟨fragments, s₁, hevaluated, hbuild⟩
    · rw [Act.after_of_error hstopped] at hsteady hsources
      exact ⟨_, hsteady.leavesSite hsources⟩
    · rw [Act.after_of_ok hevaluated] at hsteady
      exact ⟨_, leavesSite_of_compilation hrun hsteady hbuild hasked⟩

/-- Any number of failures leaves the site as one does. -/
theorem leavesSite_of_failures
    (hrun : ∀ {α : Type} (code : BuildingCode ς μ α), Act.Within Steady (run code))
    (h : Relation.ReflTransGen (FailsAlone P run) s s') : ∃ stats, LeavesSite s s' stats := by
  induction h with
  | refl => exact ⟨_, .refl s⟩
  | tail _ hfails ih =>
    obtain ⟨_, hbefore⟩ := ih
    obtain ⟨_, hlast⟩ := leavesSite_of_failsAlone hrun hfails
    exact ⟨_, hbefore.trans hlast⟩

end Failed

/-- Wherever a build fails or panics, a site itself has counted one request at the most. So the
entries, the stability and the advice given so far are as they were, unless its sources or its
compiler ask for other builds. If a source fails, those before it have been evaluated once each and
in order, none behind it has, and nothing is counted. If what the sources gave does not compile, one
request is counted as a miss or, at an unstable site, as uncached. So failures never use up room,
however often they are repeated. -/
theorem failed_builds_leave_site (P : Program ς μ) (fuel : Nat) (s : State μ) :
    (∀ {σ : Type} (site : Site σ) sources t e t',
      site.buildFrom sources t = .error e t' ↔ site.FailsFrom sources t e t') ∧
      (∀ fragments e s', P.perform (P.exec fuel) (.build fragments) s = .error e s' →
        s'.asked = s.asked + 1 → LeavesSite s s' s.cache.missed) ∧
      (∀ sources e s', P.perform (P.exec fuel) (.buildFrom sources) s = .error e s' →
        FailedFrom P (P.exec fuel) sources s e s') ∧
      ∀ s', Relation.ReflTransGen (FailsAlone P (P.exec fuel)) s s' →
        ∃ stats, LeavesSite s s' stats := by
  have hrun {α : Type} (code : BuildingCode ς μ α) : Act.Within Steady (P.exec fuel code) :=
    P.steady_exec fuel code
  refine ⟨fun _ _ _ _ _ => Site.buildFrom_eq_error_iff, fun fragments e s' h => ?_,
    fun sources e s' h => ?_, fun s' h => ?_⟩
  · exact leavesSite_of_build hrun h
  · exact failedFrom_of_buildFrom hrun h
  · exact leavesSite_of_failures hrun h

/-- A program whose sources give an open bracket or fail, and whose compiler refuses the bracket. -/
def brackets : Program Bool Unit where
  options := {}
  warnUnstable := true
  compile source _ :=
    if source.bytes = [0x28] then .stop (.failure (.syntaxError source.lossy "open"))
    else .done ⟨⟨fun _ _ => none, "nothing"⟩, source⟩
  evaluate gives :=
    if gives then .done ⟨⟨[0x28], 0⟩, .utf8⟩ else .stop (.panic "no text")

/-- At a site with room for one sequence, a source panics, and then a bracket does not compile. The
room is still there for the build that comes next. -/
theorem failed_builds_leave_site_room :
    let run : Program.Runner Bool Unit := brackets.exec 1
    let s : State Unit := State.start ⟨1, by decide⟩ 0 ()
    ∃ s₁ s₂ p s₃,
      brackets.perform run (.buildFrom [true, false, true]) s = .error (.panic "no text") s₁ ∧
      FailedFrom brackets run [true, false, true] s (.panic "no text") s₁ ∧
      s₁.asked = s.asked ∧
      brackets.perform run (.buildFrom [true]) s₁ =
        .error (.failure (.syntaxError "(" "open")) s₂ ∧
      s₂.asked = s₁.asked + 1 ∧ (∃ stats, LeavesSite s s₂ stats) ∧
      brackets.perform run (.build [⟨⟨[0x78], 1⟩, .utf8⟩]) s₂ = .ok p s₃ ∧
      s₃.cache.length = 1 ∧ s₃.cache.unstable = false := by
  intro run s
  have hpanics : brackets.perform run (.buildFrom [true, false, true]) s =
      .error (.panic "no text") s := rfl
  obtain ⟨s₂, p, s₃, hrefused, hasked, hbuilt, hlength, hstable⟩ : ∃ s₂ p s₃,
      brackets.perform run (.buildFrom [true]) s =
        .error (.failure (.syntaxError "(" "open")) s₂ ∧ s₂.asked = s.asked + 1 ∧
      brackets.perform run (.build [⟨⟨[0x78], 1⟩, .utf8⟩]) s₂ = .ok p s₃ ∧
      s₃.cache.length = 1 ∧ s₃.cache.unstable = false := ⟨_, _, _, rfl, rfl, rfl, rfl, rfl⟩
  obtain ⟨-, -, hfrom, hmany⟩ := failed_builds_leave_site brackets 1 s
  have hfirst : FailsAlone brackets run s s := .buildFrom hpanics rfl (Nat.le_succ _)
  have hsecond : FailsAlone brackets run s s₂ := .buildFrom hrefused rfl (Nat.le_of_eq hasked)
  exact ⟨s, s₂, p, s₃, hpanics, hfrom _ _ _ hpanics, rfl, hrefused, hasked,
    hmany s₂ (.tail (.tail .refl hfirst) hsecond), hbuilt, hlength, hstable⟩

end Building
end CallSite
