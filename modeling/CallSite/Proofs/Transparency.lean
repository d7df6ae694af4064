import CallSite.Filter.Run
import Mathlib.Data.List.Forall2

/-!
# Sites whose cache cannot be seen

If compiling is a function of the source and the options, a pattern that a site builds is the
one that the same fragments compile to without a cache, whatever was built at the site before.
-/
namespace CallSite.Pattern

namespace Fragment

/-- Same bytes and same encoding, from whatever buffers. -/
def Alike (a b : Fragment) : Prop := a.bytes = b.bytes ∧ a.encoding = b.encoding

theorem alike_of_same {a b : Fragment} (h : a.same b = true) : a.Alike b := by
  simp only [same, Bool.and_eq_true, beq_iff_eq] at h
  exact ⟨Shared.content_eq_of_same h.1, h.2⟩

theorem alike_of_equal {a b : Fragment} (h : a.equal b = true) : a.Alike b := by
  simp only [equal, Bool.and_eq_true, beq_iff_eq] at h
  exact h

theorem alike_of_pairwise {test : Fragment → Fragment → Bool}
    (htest : ∀ {a b}, test a b = true → a.Alike b) {as bs : List Fragment}
    (h : pairwise test as bs = true) : List.Forall₂ Alike as bs := by
  induction as generalizing bs with
  | nil =>
    cases bs with
    | nil => exact .nil
    | cons b bs => simp [pairwise] at h
  | cons a as ih =>
    cases bs with
    | nil => simp [pairwise] at h
    | cons b bs =>
      simp only [pairwise, Bool.and_eq_true] at h
      exact .cons (htest h.1) (ih h.2)

/-- Keys that match hold the same text, by whichever of the two comparisons. -/
theorem alike_of_matching {as bs : List Fragment} (h : CacheKey.matching as bs = true) :
    List.Forall₂ Alike as bs := by
  simp only [CacheKey.matching, Bool.or_eq_true] at h
  rcases h with hsame | hequal
  · exact alike_of_pairwise alike_of_same hsame
  · exact alike_of_pairwise alike_of_equal hequal

end Fragment

namespace Source

theorem agree_congr (o : Options) (agreed : Option Encoding) {a b : Fragment} (h : a.Alike b) :
    agree o agreed a = agree o agreed b := by
  obtain ⟨⟨bytes, tag⟩, encoding⟩ := a
  obtain ⟨⟨bytes', tag'⟩, encoding'⟩ := b
  obtain ⟨hbytes, hencoding⟩ := h
  change bytes = bytes' at hbytes
  change encoding = encoding' at hencoding
  subst hbytes hencoding
  rfl

theorem join_congr (o : Options) (j : Joined) {as bs : List Fragment}
    (h : List.Forall₂ Fragment.Alike as bs) : join o j as = join o j bs := by
  induction h generalizing j with
  | nil => rfl
  | cons hab _ ih =>
    simp only [join, agree_congr o j.agreed hab, hab.1, ih]

theorem ofFragments_congr (o : Options) {as bs : List Fragment}
    (h : List.Forall₂ Fragment.Alike as bs) : ofFragments o as = ofFragments o bs := by
  simp only [ofFragments, join_congr o {} h]

end Source

/-- A way to compile that is a function of the source and the options. -/
abbrev CompileFunction := Source → Options → Except (Stop PatternError) Compiled

namespace CompileFunction

variable {σ : Type}

def compiler (f : CompileFunction) : Compiler σ := fun s o => Act.ofOutcome (f s o)

/-- What fragments compile to. -/
def template (f : CompileFunction) (o : Options) (fragments : List Fragment) :
    Except (Stop PatternError) Template := do
  let source ← (Source.ofFragments o fragments).mapError Stop.failure
  let compiled ← f source o
  return ⟨compiled.matcher, compiled.source.bytes, recordedEncoding o source compiled.source, o⟩

theorem template_congr (f : CompileFunction) (o : Options) {as bs : List Fragment}
    (h : List.Forall₂ Fragment.Alike as bs) : f.template o as = f.template o bs := by
  simp only [template, Source.ofFragments_congr o h]

theorem compileFragments_compiler (f : CompileFunction) (o : Options)
    (fragments : List Fragment) :
    compileFragments (σ := σ) f.compiler o fragments = Act.ofOutcome (f.template o fragments) := by
  unfold compileFragments template compiler
  cases Source.ofFragments o fragments with
  | error e => rfl
  | ok source =>
    change (Act.ofOutcome (f source o) >>= fun _ => pure _) =
      Act.ofOutcome (f source o >>= fun _ => pure _)
    cases f source o with
    | error e => rfl
    | ok compiled => rfl

end CompileFunction

namespace Site

variable {σ : Type} {site : Site σ} {f : CompileFunction}

/-- The states a site can be in: when it is new, after anything that leaves its cache alone,
and after a build, whether it succeeds or not. -/
inductive Reached (site : Site σ) : σ → Prop
  | new {s : σ} (limit : Limit) : site.cache.get s = { limit } → Reached site s
  | elsewhere {s s' : σ} : Reached site s → site.cache.get s' = site.cache.get s →
    Reached site s'
  | built {s : σ} (fragments : List Fragment) : Reached site s →
    Reached site ((site.build fragments).after s)

/-- Every cached template is what its fragments compile to. -/
def Sound (site : Site σ) (f : CompileFunction) (s : σ) : Prop :=
  ∀ fragments template, (fragments, template) ∈ (site.cache.get s).entries →
    f.template site.options fragments = .ok template.content

theorem sound_congr {s s' : σ} (h : site.Sound f s)
    (hcache : (site.cache.get s').entries = (site.cache.get s).entries) : site.Sound f s' := by
  intro fragments template hmem
  rw [hcache] at hmem
  exact h fragments template hmem

theorem sound_probe {s : σ} (h : site.Sound f s) (fragments : List Fragment) :
    site.Sound f (site.cache.set s ((site.cache.get s).probe fragments).2) := by
  apply sound_congr h
  rw [site.cache.get_set, SiteCache.probe_entries]

theorem template_of_matching {s : σ} (h : site.Sound f s) {fragments : List Fragment}
    {template : Shared Template}
    (hfound : ∃ k, (k, template) ∈ (site.cache.get s).entries ∧
      CacheKey.matching k fragments = true) :
    f.template site.options fragments = .ok template.content := by
  obtain ⟨k, hmem, hmatching⟩ := hfound
  rw [← f.template_congr site.options (Fragment.alike_of_matching hmatching)]
  exact h k template hmem

/-- The answer that a site owes for fragments: their own failure, or a pattern that has
matched nothing yet on what they compile to. -/
def Answers (site : Site σ) (f : CompileFunction) (fragments : List Fragment) :
    EStateM.Result (Stop PatternError) σ Pattern → Prop
  | .ok p s => f.template site.options fragments = .ok p.template.content ∧ p.last = none ∧
      p.attempts = 0 ∧ site.Sound f s
  | .error e s => f.template site.options fragments = .error e ∧ site.Sound f s

theorem compileNew_eq (hf : site.compile = f.compiler) (fragments : List Fragment) (s : σ) :
    site.compileNew fragments s =
      match f.template site.options fragments with
      | .ok t => .ok ⟨t, site.nextTag.get s⟩ (site.nextTag.adjust (· + 1) s)
      | .error e => .error e s := by
  unfold compileNew
  rw [hf, f.compileFragments_compiler]
  cases f.template site.options fragments with
  | ok t => rfl
  | error e => rfl

theorem sound_nextTag {s : σ} (h : site.Sound f s) :
    site.Sound f (site.nextTag.adjust (· + 1) s) := by
  apply sound_congr h
  rw [Slot.adjust, site.apart.get_left]

theorem offer_answers {s : σ} (h : site.Sound f s) {fragments : List Fragment}
    {template : Shared Template}
    (htemplate : f.template site.options fragments = .ok template.content) :
    site.Answers f fragments (site.offer fragments template s) := by
  have hsound : site.Sound f
      (site.cache.set s ((site.cache.get s).offer fragments template).2) := by
    intro k t hmem
    rw [site.cache.get_set] at hmem
    rcases SiteCache.mem_entries_offer hmem with hold | hnew
    · exact h k t hold
    · cases hnew
      exact htemplate
  unfold offer
  rw [Slot.update_bind]
  cases hadmission : ((site.cache.get s).offer fragments template).1 with
  | existing earlier =>
    have hearlier := template_of_matching h (SiteCache.offer_eq_existing hadmission)
    exact ⟨hearlier, rfl, rfl, hsound⟩
  | stored => exact ⟨htemplate, rfl, rfl, hsound⟩
  | rejected => exact ⟨htemplate, rfl, rfl, hsound⟩
  | becameUnstable =>
    by_cases hwarn : site.warnUnstable = true
    · simp only [hwarn, if_true]
      refine ⟨htemplate, rfl, rfl, sound_congr hsound ?_⟩
      rw [site.cache_advise]
    · simp only [hwarn]
      exact ⟨htemplate, rfl, rfl, hsound⟩

/-- The step: a build on a sound cache answers as it should and keeps the cache sound. -/
theorem build_answers (hf : site.compile = f.compiler) {s : σ} (h : site.Sound f s)
    (fragments : List Fragment) : site.Answers f fragments (site.build fragments s) := by
  have hsound := sound_probe h fragments
  unfold build
  rw [Slot.update_bind]
  cases hprobe : ((site.cache.get s).probe fragments).1 with
  | hit template =>
    exact ⟨template_of_matching h (SiteCache.probe_eq_hit hprobe), rfl, rfl, hsound⟩
  | unstable =>
    simp only [bind, EStateM.bind, compileNew_eq hf]
    cases htemplate : f.template site.options fragments with
    | ok t => exact ⟨htemplate, rfl, rfl, sound_nextTag hsound⟩
    | error e => exact ⟨htemplate, hsound⟩
  | miss =>
    simp only [bind, EStateM.bind, compileNew_eq hf]
    cases htemplate : f.template site.options fragments with
    | ok t => exact offer_answers (sound_nextTag hsound) htemplate
    | error e => exact ⟨htemplate, hsound⟩

theorem sound_of_reached (hf : site.compile = f.compiler) {s : σ} (h : site.Reached s) :
    site.Sound f s := by
  induction h with
  | new limit hnew =>
    intro fragments template hmem
    rw [hnew] at hmem
    cases hmem
  | elsewhere _ hcache ih => exact sound_congr ih (by rw [hcache])
  | built fragments _ ih =>
    have hanswers := build_answers hf ih fragments
    unfold Act.after
    cases hbuild : site.build fragments _ with
    | ok p s =>
      rw [hbuild] at hanswers
      exact hanswers.2.2.2
    | error e s =>
      rw [hbuild] at hanswers
      exact hanswers.2

theorem outcome_build (hf : site.compile = f.compiler) {s : σ} (h : site.Reached s)
    (fragments : List Fragment) :
    ((site.build fragments).outcome s).map Pattern.facts =
      (f.template site.options fragments).map fun template => (template, none, 0) := by
  have hanswers := build_answers hf (sound_of_reached hf h) fragments
  unfold Act.outcome
  cases hbuild : site.build fragments s with
  | ok p s' =>
    rw [hbuild] at hanswers
    obtain ⟨htemplate, hlast, hattempts, -⟩ := hanswers
    rw [htemplate]
    simp only [Except.map, Pattern.facts, hlast, hattempts]
  | error e s' =>
    rw [hbuild] at hanswers
    rw [hanswers.1]
    rfl

theorem outcome_compileFragments (f : CompileFunction) (o : Options) (fragments : List Fragment)
    (s : σ) : (compileFragments f.compiler o fragments).outcome s = f.template o fragments := by
  rw [f.compileFragments_compiler]
  cases f.template o fragments with
  | ok t => rfl
  | error e => rfl

/-- A site whose compiler is a function builds what the fragments compile to without a cache,
as an instance that has matched nothing, and fails as they fail. Neither the builds before it
nor the buffers of the fragments matter. -/
theorem build_eq_compileFragments (hf : site.compile = f.compiler) {s : σ} (h : site.Reached s)
    (fragments : List Fragment) (t : σ) :
    ((site.build fragments).outcome s).map Pattern.facts =
      ((compileFragments site.compile site.options fragments).outcome t).map
        (fun template => (template, none, 0)) ∧
    ∀ copies, List.Forall₂ Fragment.Alike fragments copies →
      ((site.build copies).outcome s).map Pattern.facts =
        ((site.build fragments).outcome s).map Pattern.facts := by
  rw [hf, outcome_compileFragments]
  refine ⟨outcome_build hf h fragments, ?_⟩
  intro copies hcopies
  rw [outcome_build hf h, outcome_build hf h, f.template_congr _ hcopies]

/-- A compiler for which nothing ever matches, and which refuses the empty source. -/
def matchless : CompileFunction := fun s _ =>
  if s.bytes = [] then .error (.failure (.syntaxError "" "empty"))
  else .ok ⟨⟨fun _ _ => none, "matchless"⟩, s⟩

/-- A site with room for one sequence of fragments. -/
def narrow : Site Filter.Workspace :=
  Filter.site matchless.compiler ⟨⟨1, by decide⟩, ⟨1, by decide⟩, true⟩ {}

/-- The third build at a site that the second one has made unstable. -/
theorem build_eq_compileFragments_unstable :
    let a : Fragment := ⟨⟨[0x61], 0⟩, .utf8⟩
    let b : Fragment := ⟨⟨[0x62], 1⟩, .binary⟩
    let s₀ : Filter.Workspace := ⟨{ limit := ⟨1, by decide⟩ }, 2, []⟩
    let s := (narrow.build [a, b]).after ((narrow.build [a]).after s₀)
    narrow.compile = matchless.compiler ∧ narrow.Reached s ∧
      (narrow.cache.get s).unstable = true ∧
      ((narrow.build [a]).outcome s).map Pattern.facts =
        ((compileFragments narrow.compile narrow.options [a]).outcome s₀).map
          (fun template => (template, none, 0)) := by
  intro a b s₀ s
  have hreached : narrow.Reached s := .built [a, b] (.built [a] (.new ⟨1, by decide⟩ rfl))
  exact ⟨rfl, hreached, by rfl, (build_eq_compileFragments rfl hreached [a] s₀).1⟩

end Site
end CallSite.Pattern
