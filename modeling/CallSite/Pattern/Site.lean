import CallSite.Cache
import CallSite.Pattern.Scan
import CallSite.Pattern.Template

/-!
# Pattern sites

A site is a place in a program that builds patterns from fragments. Its cache is asked
after all fragments have been evaluated. Only a build that compiles can change what is
cached, and only the build that exceeds the limit gives advice.
-/
namespace CallSite.Pattern

/-- The encoding a template records. Without an encoding it is read off the source. -/
def recordedEncoding (o : Options) (given : Source) (compiled : Source) : Encoding :=
  if o.noEncoding then (if Scan.isSevenBit given.bytes then .usAscii else .binary)
  else compiled.encoding

/-- Compiles fragments without any caching. -/
def compileFragments {σ : Type} (compile : Compiler σ) (o : Options) (fragments : List Fragment) :
    Act σ PatternError Template := do
  let source ← Act.ofExcept (Source.ofFragments o fragments)
  let compiled ← compile source o
  return ⟨compiled.matcher, compiled.source.bytes, recordedEncoding o source compiled.source, o⟩

theorem compileFragments_eq_ok_iff {σ : Type} {compile : Compiler σ} {o : Options}
    {fragments : List Fragment} {template : Template} {s s' : σ} :
    compileFragments compile o fragments s = .ok template s' ↔
      ∃ source compiled, Source.ofFragments o fragments = .ok source ∧
        compile source o s = .ok compiled s' ∧
        template = ⟨compiled.matcher, compiled.source.bytes,
          recordedEncoding o source compiled.source, o⟩ := by
  rw [compileFragments, Act.bind_eq_ok]
  simp only [Act.ofExcept_eq_ok_iff, Act.bind_eq_ok]
  constructor
  · rintro ⟨source, _, ⟨hsource, rfl⟩, compiled, _, hcompiled, ⟨⟩⟩
    exact ⟨source, compiled, hsource, hcompiled, rfl⟩
  · rintro ⟨source, compiled, hsource, hcompiled, rfl⟩
    exact ⟨source, s, ⟨hsource, rfl⟩, compiled, s', hcompiled, rfl⟩

/-- Fragments are refused where they are joined or, once they are, by the compiler. -/
theorem compileFragments_eq_failure_iff {σ : Type} {compile : Compiler σ} {o : Options}
    {fragments : List Fragment} {e : PatternError} {s s' : σ} :
    compileFragments compile o fragments s = .error (.failure e) s' ↔
      (Source.ofFragments o fragments = .error e ∧ s = s') ∨
        ∃ source, Source.ofFragments o fragments = .ok source ∧
          compile source o s = .error (.failure e) s' := by
  rw [compileFragments, Act.bind_eq_error]
  simp only [Act.ofExcept_eq_ok_iff, Act.ofExcept_eq_failure_iff]
  refine or_congr_right ⟨?_, ?_⟩
  · rintro ⟨source, _, ⟨hsource, rfl⟩, hend⟩
    rcases Act.bind_eq_error.1 hend with hcompile | ⟨_, _, -, ⟨⟩⟩
    exact ⟨source, hsource, hcompile⟩
  · rintro ⟨source, hsource, hcompile⟩
    exact ⟨source, s, ⟨hsource, rfl⟩, Act.bind_eq_error.2 (.inl hcompile)⟩

/-- What a site says when it stops caching. -/
def unstableAdvice : String := "unstable interpolated regexps are not optimized"

/-- The fixed parts of a site, where its cache is kept, and where tags come from. Giving out a
tag or advice leaves the cache as it is. -/
structure Site (σ : Type) where
  options : Options
  warnUnstable : Bool
  compile : Compiler σ
  cache : Slot σ (SiteCache (List Fragment) (Shared Template))
  nextTag : Slot σ Nat
  advise : String → σ → σ
  apart : cache.Apart nextTag := by exact {}
  cache_advise : ∀ message s, cache.get (advise message s) = cache.get s := by intros; rfl

namespace Site

variable {σ : Type}

/-- Compiles fragments to a template of their own. -/
def compileNew (site : Site σ) (fragments : List Fragment) :
    Act σ PatternError (Shared Template) := do
  let template ← compileFragments site.compile site.options fragments
  let tag ← site.nextTag.update fun n => (n, n + 1)
  return ⟨template, tag⟩

/-- Offers a new template to the cache. If an equal sequence of fragments got there first, its
template is used. -/
def offer (site : Site σ) (fragments : List Fragment) (template : Shared Template) :
    Act σ PatternError Pattern := do
  match ← site.cache.update (·.offer fragments template) with
  | .existing earlier => return .ofTemplate earlier
  | .becameUnstable =>
    if site.warnUnstable then modify (site.advise unstableAdvice)
    return .ofTemplate template
  | .stored | .rejected => return .ofTemplate template

/-- Builds a pattern from evaluated fragments. -/
def build (site : Site σ) (fragments : List Fragment) : Act σ PatternError Pattern := do
  match ← site.cache.update (·.probe fragments) with
  | .hit template => return .ofTemplate template
  | .unstable => return .ofTemplate (← site.compileNew fragments)
  | .miss => site.offer fragments (← site.compileNew fragments)

/-- Evaluates the sources in order, each one once, and builds from what they give. -/
def buildFrom (site : Site σ) (sources : List (Act σ PatternError Fragment)) :
    Act σ PatternError Pattern := do
  site.build (← sources.mapM id)

section Cases

variable {site : Site σ} {fragments : List Fragment} {template earlier : Shared Template}
  {c : SiteCache (List Fragment) (Shared Template)} {s : σ}

theorem offer_of_existing
    (h : (site.cache.get s).offer fragments template = (.existing earlier, c)) :
    site.offer fragments template s = .ok (.ofTemplate earlier) (site.cache.set s c) := by
  rw [offer, Slot.update_bind, h]
  rfl

theorem offer_of_stored (h : (site.cache.get s).offer fragments template = (.stored, c)) :
    site.offer fragments template s = .ok (.ofTemplate template) (site.cache.set s c) := by
  rw [offer, Slot.update_bind, h]
  rfl

theorem offer_of_rejected (h : (site.cache.get s).offer fragments template = (.rejected, c)) :
    site.offer fragments template s = .ok (.ofTemplate template) (site.cache.set s c) := by
  rw [offer, Slot.update_bind, h]
  rfl

theorem offer_of_becameUnstable
    (h : (site.cache.get s).offer fragments template = (.becameUnstable, c)) :
    site.offer fragments template s =
      .ok (.ofTemplate template)
        (if site.warnUnstable then site.advise unstableAdvice (site.cache.set s c)
          else site.cache.set s c) := by
  rw [offer, Slot.update_bind, h]
  cases hwarn : site.warnUnstable with
  | true => rfl
  | false => rfl

theorem build_of_hit (h : ((site.cache.get s).probe fragments).1 = .hit earlier) :
    site.build fragments s =
      .ok (.ofTemplate earlier) (site.cache.set s ((site.cache.get s).probe fragments).2) := by
  rw [build, Slot.update_bind, h]
  rfl

theorem build_of_unstable (h : ((site.cache.get s).probe fragments).1 = .unstable) :
    site.build fragments s =
      (site.compileNew fragments >>= fun template => pure (.ofTemplate template))
        (site.cache.set s ((site.cache.get s).probe fragments).2) := by
  rw [build, Slot.update_bind, h]

theorem build_of_miss (h : ((site.cache.get s).probe fragments).1 = .miss) :
    site.build fragments s =
      (site.compileNew fragments >>= site.offer fragments)
        (site.cache.set s ((site.cache.get s).probe fragments).2) := by
  rw [build, Slot.update_bind, h]

/-- A template that has been compiled ends the build, whatever the cache makes of it. -/
theorem offer_ends (site : Site σ) (fragments : List Fragment) (template : Shared Template)
    (s : σ) : ∃ p c s', site.offer fragments template s = .ok p s' ∧
      (s' = site.cache.set s c ∨ s' = site.advise unstableAdvice (site.cache.set s c)) := by
  rcases hoffer : (site.cache.get s).offer fragments template with ⟨admission, c⟩
  cases admission with
  | stored => exact ⟨_, c, _, offer_of_stored hoffer, .inl rfl⟩
  | existing earlier => exact ⟨_, c, _, offer_of_existing hoffer, .inl rfl⟩
  | rejected => exact ⟨_, c, _, offer_of_rejected hoffer, .inl rfl⟩
  | becameUnstable =>
    refine ⟨_, c, _, offer_of_becameUnstable hoffer, ?_⟩
    split
    · exact .inr rfl
    · exact .inl rfl

/-- A build fails if no entry answers it and nothing can be compiled. All that it has written itself
is the count of the request. -/
theorem build_eq_error_iff {e : Stop PatternError} {s' : σ} :
    site.build fragments s = .error e s' ↔
      (∀ template, ((site.cache.get s).probe fragments).1 ≠ .hit template) ∧
        site.compileNew fragments (site.cache.set s ((site.cache.get s).probe fragments).2) =
          .error e s' := by
  cases hprobe : ((site.cache.get s).probe fragments).1 with
  | hit earlier =>
    rw [build_of_hit hprobe]
    exact iff_of_false nofun fun h => h.1 earlier rfl
  | unstable =>
    rw [build_of_unstable hprobe, Act.bind_eq_error]
    refine ⟨fun h => ⟨nofun, ?_⟩, fun h => .inl h.2⟩
    rcases h with hcompile | ⟨_, _, -, ⟨⟩⟩
    exact hcompile
  | miss =>
    rw [build_of_miss hprobe, Act.bind_eq_error]
    refine ⟨fun h => ⟨nofun, ?_⟩, fun h => .inl h.2⟩
    rcases h with hcompile | ⟨template, s₁, -, hoffer⟩
    · exact hcompile
    · obtain ⟨p, c, s₂, hends, -⟩ := offer_ends site fragments template s₁
      rw [hends] at hoffer
      cases hoffer

end Cases

end Site
end CallSite.Pattern
