import CallSite.Effect

/-!
# Code of the embedding program

Code is a tree: a call it makes, and for each way the call can end the code that goes on from
there. What the calls do is left to the machine that runs it, so calls may run further code.
-/
namespace CallSite

/-- Code that makes calls in `κ` and ends with an `α`. It learns how each call ended, a panic
included. -/
inductive Code (κ : Type) (Reply : κ → Type) (ε α : Type) where
  | done (a : α)
  | stop (e : Stop ε)
  | call (c : κ) (next : Except (Stop ε) (Reply c) → Code κ Reply ε α)

namespace Code

variable {κ : Type} {Reply : κ → Type} {σ ε α : Type}

/-- Runs code, given what each call does. Nothing goes on after a call that is out of fuel. -/
def run (perform : (c : κ) → Act σ ε (Reply c)) : Code κ Reply ε α → Act σ ε α
  | done a => pure a
  | stop e => throw e
  | call c next => fun s =>
    match perform c s with
    | .ok reply s => (next (.ok reply)).run perform s
    | .error .outOfFuel s => .error .outOfFuel s
    | .error (.failure e) s => (next (.error (.failure e))).run perform s
    | .error (.panic message) s => (next (.error (.panic message))).run perform s

section Run

variable {perform : (c : κ) → Act σ ε (Reply c)} {c : κ}
  {next : Except (Stop ε) (Reply c) → Code κ Reply ε α} {s s' : σ}

theorem run_call_of_ok {reply : Reply c} (h : perform c s = .ok reply s') :
    (call c next).run perform s = (next (.ok reply)).run perform s' := by
  simp only [run, h]

/-- Code that does not go on after a call stops as the call has. -/
theorem run_call_of_error {e : Stop ε} (h : perform c s = .error e s')
    (hstop : next (.error e) = stop e) : (call c next).run perform s = .error e s' := by
  cases e with
  | failure e =>
    simp only [run, h, hstop]
    rfl
  | panic message =>
    simp only [run, h, hstop]
    rfl
  | outOfFuel => simp only [run, h]

end Run

/-- A way to run code. -/
abbrev Runner (κ : Type) (Reply : κ → Type) (σ ε : Type) :=
  ∀ {α : Type}, Code κ Reply ε α → Act σ ε α

/-- Runs code whose calls run further code, with at most `fuel` levels of code inside calls. -/
def exec (perform : Runner κ Reply σ ε → Nat → (c : κ) → Act σ ε (Reply c)) :
    Nat → Runner κ Reply σ ε
  | 0, _, _ => Act.outOfFuel
  | fuel + 1, _, code => code.run (perform (exec perform fuel) fuel)

end Code

namespace Act

variable {σ ε α β : Type}

/-- Runs `x` and notes in the state how it ended. -/
def noting (x : Act σ ε α) (note : Except (Stop ε) α → σ → σ) : Act σ ε α := fun s =>
  match x s with
  | .ok a s => .ok a (note (.ok a) s)
  | .error e s => .error e (note (.error e) s)

theorem after_noting (x : Act σ ε α) (note : Except (Stop ε) α → σ → σ) (s : σ) :
    (x.noting note).after s = note (x.outcome s) (x.after s) := by
  simp only [Act.noting, Act.after, Act.outcome]
  cases x s with
  | ok _ _ => rfl
  | error _ _ => rfl

theorem outcome_noting (x : Act σ ε α) (note : Except (Stop ε) α → σ → σ) (s : σ) :
    (x.noting note).outcome s = x.outcome s := by
  simp only [Act.noting, Act.outcome]
  cases x s with
  | ok _ _ => rfl
  | error _ _ => rfl

theorem after_modify_bind (f : σ → σ) (x : Unit → Act σ ε α) (s : σ) :
    (modify f >>= x).after s = (x ()).after (f s) := rfl

theorem outcome_modify_bind (f : σ → σ) (x : Unit → Act σ ε α) (s : σ) :
    (modify f >>= x).outcome s = (x ()).outcome (f s) := rfl

theorem bind_of_ok {x : Act σ ε α} {f : α → Act σ ε β} {a : α} {s s' : σ} (h : x s = .ok a s') :
    (x >>= f) s = f a s' := by
  simp only [Bind.bind, EStateM.bind, h]

theorem bind_of_error {x : Act σ ε α} {f : α → Act σ ε β} {e : Stop ε} {s s' : σ}
    (h : x s = .error e s') : (x >>= f) s = .error e s' := by
  simp only [Bind.bind, EStateM.bind, h]

theorem outcome_congr {x y : Act σ ε α} {s t : σ} (h : x s = y t) : x.outcome s = y.outcome t := by
  simp only [outcome, h]

theorem after_congr {x y : Act σ ε α} {s t : σ} (h : x s = y t) : x.after s = y.after t := by
  simp only [after, h]

theorem outcome_of_ok {x : Act σ ε α} {a : α} {s s' : σ} (h : x s = .ok a s') :
    x.outcome s = .ok a := by
  simp only [outcome, h]

theorem after_of_ok {x : Act σ ε α} {a : α} {s s' : σ} (h : x s = .ok a s') :
    x.after s = s' := by
  simp only [after, h]

theorem outcome_of_error {x : Act σ ε α} {e : Stop ε} {s s' : σ} (h : x s = .error e s') :
    x.outcome s = .error e := by
  simp only [outcome, h]

theorem after_of_error {x : Act σ ε α} {e : Stop ε} {s s' : σ} (h : x s = .error e s') :
    x.after s = s' := by
  simp only [after, h]

theorem discard_of_ok {x : Act σ ε α} {a : α} {s s' : σ} (h : x s = .ok a s') :
    discard x s = .ok () s' := by
  simp only [discard, Functor.mapConst, EStateM.map, Function.comp, h]

theorem discard_of_error {x : Act σ ε α} {e : Stop ε} {s s' : σ} (h : x s = .error e s') :
    discard x s = .error e s' := by
  simp only [discard, Functor.mapConst, EStateM.map, Function.comp, h]

theorem after_discard (x : Act σ ε α) (s : σ) : (discard x).after s = x.after s := by
  simp only [discard, Functor.mapConst, EStateM.map, Function.comp, after]
  cases x s with
  | ok _ _ => rfl
  | error _ _ => rfl

theorem eq_ok_iff {x : Act σ ε α} {a : α} {s s' : σ} :
    x s = .ok a s' ↔ x.outcome s = .ok a ∧ x.after s = s' := by
  simp only [outcome, after]
  cases x s with
  | ok _ _ => simp
  | error _ _ => simp

theorem eq_error_iff {x : Act σ ε α} {e : Stop ε} {s s' : σ} :
    x s = .error e s' ↔ x.outcome s = .error e ∧ x.after s = s' := by
  simp only [outcome, after]
  cases x s with
  | ok _ _ => simp
  | error _ _ => simp

theorem onStop_of_ok {x : Act σ ε α} {cleanUp : σ → σ} {a : α} {s s' : σ} (h : x s = .ok a s') :
    x.onStop cleanUp s = .ok a s' := by
  simp only [Act.onStop, h]

theorem onStop_of_error {x : Act σ ε α} {cleanUp : σ → σ} {e : Stop ε} {s s' : σ}
    (h : x s = .error e s') : x.onStop cleanUp s = .error e (cleanUp s') := by
  simp only [Act.onStop, h]

theorem onStop_congr {x y : Act σ ε α} {cleanUp : σ → σ} {s t : σ} (h : x s = y t) :
    x.onStop cleanUp s = y.onStop cleanUp t := by
  simp only [Act.onStop, h]

/-- Runs acts one after another, each of them however those before it have ended. -/
def inTurn : List (Act σ ε α) → σ → List (Except (Stop ε) α) × σ
  | [], s => ([], s)
  | x :: xs, s =>
    let (endings, left) := inTurn xs (x.after s)
    (x.outcome s :: endings, left)

theorem inTurn_cons (x : Act σ ε α) (xs : List (Act σ ε α)) (s : σ) :
    inTurn (x :: xs) s =
      (x.outcome s :: (inTurn xs (x.after s)).1, (inTurn xs (x.after s)).2) := rfl

theorem inTurn_cons_of_ok {x : Act σ ε α} {a : α} {s s' : σ} (h : x s = .ok a s')
    (xs : List (Act σ ε α)) :
    inTurn (x :: xs) s = (.ok a :: (inTurn xs s').1, (inTurn xs s').2) := by
  rw [inTurn_cons, outcome_of_ok h, after_of_ok h]

/-- Acts that end alike in every state of an invariant, keep it, and leave a mark. -/
theorem inTurn_of_invariant (Inv Mark : σ → Prop) {ending : Except (Stop ε) α}
    {f : β → Act σ ε α}
    (hstep : ∀ b s, Inv s →
      (f b).outcome s = ending ∧ Inv ((f b).after s) ∧ Mark ((f b).after s))
    (bs : List β) {s : σ} (hs : Inv s) :
    (inTurn (bs.map f) s).1 = bs.map (fun _ => ending) ∧ Inv (inTurn (bs.map f) s).2 ∧
      (bs ≠ [] → Mark (inTurn (bs.map f) s).2) := by
  induction bs generalizing s with
  | nil => exact ⟨rfl, hs, fun h => absurd rfl h⟩
  | cons b bs ih =>
    obtain ⟨hending, hinv, hmark⟩ := hstep b s hs
    obtain ⟨hendings, hleft, hlast⟩ := ih hinv
    refine ⟨?_, hleft, fun _ => ?_⟩
    · simp only [List.map_cons, inTurn_cons, hending, hendings]
    · by_cases hbs : bs = []
      · subst hbs
        exact hmark
      · exact hlast hbs

/-- However `x` ends, `T` relates the state in which it began to the one that it leaves. -/
def Within (T : σ → σ → Prop) (x : Act σ ε α) : Prop := ∀ s, T s (x.after s)

section Within

variable {T : σ → σ → Prop}

theorem Within.bind {x : Act σ ε α} {f : α → Act σ ε β} (hx : x.Within T)
    (htrans : ∀ s₁ s₂ s₃, T s₁ s₂ → T s₂ s₃ → T s₁ s₃) (hf : ∀ a, (f a).Within T) :
    (x >>= f).Within T := by
  intro s
  have hfirst := hx s
  cases hend : x s with
  | ok a s₁ =>
    rw [after_of_ok hend] at hfirst
    rw [after_congr (bind_of_ok hend)]
    exact htrans _ _ _ hfirst (hf a s₁)
  | error e s₁ =>
    rw [after_of_error hend] at hfirst
    rwa [after_of_error (bind_of_error hend)]

/-- What is done to the state before `x` is run need only stay within the relation too. -/
theorem Within.modify_bind {f : σ → σ} {x : Act σ ε α} (hx : x.Within T)
    (htrans : ∀ s₁ s₂ s₃, T s₁ s₂ → T s₂ s₃ → T s₁ s₃) (hf : ∀ s, T s (f s)) :
    (modify f >>= fun _ => x).Within T := fun s => htrans _ _ _ (hf s) (hx (f s))

theorem Within.mapM {f : β → Act σ ε α} (hrefl : ∀ s, T s s)
    (htrans : ∀ s₁ s₂ s₃, T s₁ s₂ → T s₂ s₃ → T s₁ s₃) (hf : ∀ b, (f b).Within T)
    (bs : List β) : Within T (bs.mapM f) := by
  induction bs with
  | nil =>
    rw [List.mapM_nil]
    exact hrefl
  | cons b bs ih =>
    rw [List.mapM_cons]
    exact (hf b).bind htrans fun _ => ih.bind htrans fun _ => hrefl

theorem Within.onStop {x : Act σ ε α} {cleanUp : σ → σ} (hx : x.Within T)
    (htrans : ∀ s₁ s₂ s₃, T s₁ s₂ → T s₂ s₃ → T s₁ s₃) (hclean : ∀ s, T s (cleanUp s)) :
    (x.onStop cleanUp).Within T := by
  intro s
  have hfirst := hx s
  simp only [after, Act.onStop] at hfirst ⊢
  cases hend : x s with
  | ok a s₁ =>
    rw [hend] at hfirst
    exact hfirst
  | error e s₁ =>
    rw [hend] at hfirst
    exact htrans _ _ _ hfirst (hclean s₁)

theorem Within.noting {x : Act σ ε α} {note : Except (Stop ε) α → σ → σ} (hx : x.Within T)
    (htrans : ∀ s₁ s₂ s₃, T s₁ s₂ → T s₂ s₃ → T s₁ s₃) (hnote : ∀ ending s, T s (note ending s)) :
    (x.noting note).Within T := by
  intro s
  rw [after_noting]
  exact htrans _ _ _ (hx s) (hnote _ _)

end Within

/-! ### Code that cannot tell states apart -/

/-- The same ending, in related states. -/
inductive Alike (R : σ → σ → Prop) :
    EStateM.Result (Stop ε) σ α → EStateM.Result (Stop ε) σ α → Prop
  | ok {a : α} {s s' : σ} : R s s' → Alike R (.ok a s) (.ok a s')
  | error {e : Stop ε} {s s' : σ} : R s s' → Alike R (.error e s) (.error e s')

/-- Run in related states, `x` ends the same way and leaves related states. -/
def Respects (R : σ → σ → Prop) (x : Act σ ε α) : Prop := ∀ s s', R s s' → Alike R (x s) (x s')

variable {R : σ → σ → Prop}

theorem respects_pure (a : α) : Respects R (pure a : Act σ ε α) := fun _ _ h => .ok h

theorem respects_throw (e : Stop ε) : Respects R (throw e : Act σ ε α) := fun _ _ h => .error h

theorem respects_modify {f : σ → σ} (hf : ∀ s s', R s s' → R (f s) (f s')) :
    Respects R (modify f : Act σ ε Unit) := fun s s' h => .ok (hf s s' h)

theorem Respects.bind {x : Act σ ε α} {f : α → Act σ ε β} (hx : Respects R x)
    (hf : ∀ a, Respects R (f a)) : Respects R (x >>= f) := by
  intro s s' h
  have hends := hx s s' h
  simp only [Bind.bind, EStateM.bind]
  generalize x s = end₁, x s' = end₂ at hends ⊢
  cases hends with
  | ok hrest => exact hf _ _ _ hrest
  | error hrest => exact .error hrest

theorem Respects.modify_bind {f : σ → σ} {x : Act σ ε α} (hx : Respects R x)
    (hf : ∀ s s', R s s' → R (f s) (f s')) : Respects R (modify f >>= fun _ => x) :=
  fun s s' h => hx _ _ (hf s s' h)

theorem Respects.onStop {x : Act σ ε α} (hx : Respects R x) {cleanUp : σ → σ}
    (hclean : ∀ s s', R s s' → R (cleanUp s) (cleanUp s')) : Respects R (x.onStop cleanUp) := by
  intro s s' h
  have hends := hx s s' h
  simp only [Act.onStop]
  generalize x s = end₁, x s' = end₂ at hends ⊢
  cases hends with
  | ok hrest => exact .ok hrest
  | error hrest => exact .error (hclean _ _ hrest)

theorem Respects.noting {x : Act σ ε α} (hx : Respects R x) {note : Except (Stop ε) α → σ → σ}
    (hnote : ∀ ending s s', R s s' → R (note ending s) (note ending s')) :
    Respects R (x.noting note) := by
  intro s s' h
  have hends := hx s s' h
  simp only [Act.noting]
  generalize x s = end₁, x s' = end₂ at hends ⊢
  cases hends with
  | ok hrest => exact .ok (hnote _ _ _ hrest)
  | error hrest => exact .error (hnote _ _ _ hrest)

theorem Respects.outcome_eq {x : Act σ ε α} (hx : Respects R x) {s s' : σ} (h : R s s') :
    x.outcome s = x.outcome s' := by
  have hends := hx s s' h
  simp only [Act.outcome]
  generalize x s = end₁, x s' = end₂ at hends ⊢
  cases hends with
  | ok _ => rfl
  | error _ => rfl

theorem Respects.after {x : Act σ ε α} (hx : Respects R x) {s s' : σ} (h : R s s') :
    R (x.after s) (x.after s') := by
  have hends := hx s s' h
  simp only [Act.after]
  generalize x s = end₁, x s' = end₂ at hends ⊢
  cases hends with
  | ok hrest => exact hrest
  | error hrest => exact hrest

end Act

namespace Code

variable {κ : Type} {Reply : κ → Type} {σ ε α : Type}

/-- Code cannot tell states apart that its calls cannot tell apart. -/
theorem respects_run {R : σ → σ → Prop} {perform : (c : κ) → Act σ ε (Reply c)}
    (hperform : ∀ c, Act.Respects R (perform c)) (code : Code κ Reply ε α) :
    Act.Respects R (code.run perform) := by
  induction code with
  | done a => exact Act.respects_pure a
  | stop e => exact Act.respects_throw e
  | call c next ih =>
    intro s s' h
    have hends := hperform c s s' h
    simp only [run]
    generalize perform c s = end₁, perform c s' = end₂ at hends ⊢
    cases hends with
    | ok hrest => exact ih _ _ _ hrest
    | @error e _ _ hrest =>
      cases e with
      | failure e => exact ih _ _ _ hrest
      | panic message => exact ih _ _ _ hrest
      | outOfFuel => exact .error hrest

theorem within_run {T : σ → σ → Prop} {perform : (c : κ) → Act σ ε (Reply c)}
    (hrefl : ∀ s, T s s) (htrans : ∀ s₁ s₂ s₃, T s₁ s₂ → T s₂ s₃ → T s₁ s₃)
    (hperform : ∀ c, Act.Within T (perform c)) (code : Code κ Reply ε α) :
    Act.Within T (code.run perform) := by
  induction code with
  | done a => exact hrefl
  | stop e => exact hrefl
  | call c next ih =>
    intro s
    have hcall := hperform c s
    simp only [run, Act.after] at hcall ⊢
    cases hend : perform c s with
    | ok reply s₁ =>
      rw [hend] at hcall
      exact htrans _ _ _ hcall (ih _ s₁)
    | error e s₁ =>
      rw [hend] at hcall
      cases e with
      | failure e => exact htrans _ _ _ hcall (ih _ s₁)
      | panic message => exact htrans _ _ _ hcall (ih _ s₁)
      | outOfFuel => exact hcall

variable {perform : Runner κ Reply σ ε → Nat → (c : κ) → Act σ ε (Reply c)}

/-- If calls cannot tell states apart as long as the code inside them cannot, no code can. -/
theorem respects_exec {R : σ → σ → Prop}
    (hperform : ∀ (run : Runner κ Reply σ ε) (fuel : Nat),
      (∀ {α : Type} (code : Code κ Reply ε α), Act.Respects R (run code)) →
        ∀ c, Act.Respects R (perform run fuel c))
    (fuel : Nat) (code : Code κ Reply ε α) : Act.Respects R (exec perform fuel code) := by
  induction fuel generalizing α with
  | zero => exact Act.respects_throw .outOfFuel
  | succ fuel ih => exact respects_run (hperform _ fuel ih) code

/-- If calls stay within a relation as long as the code inside them does, all code does. -/
theorem within_exec {T : σ → σ → Prop} (hrefl : ∀ s, T s s)
    (htrans : ∀ s₁ s₂ s₃, T s₁ s₂ → T s₂ s₃ → T s₁ s₃)
    (hperform : ∀ (run : Runner κ Reply σ ε) (fuel : Nat),
      (∀ {α : Type} (code : Code κ Reply ε α), Act.Within T (run code)) →
        ∀ c, Act.Within T (perform run fuel c))
    (fuel : Nat) (code : Code κ Reply ε α) : Act.Within T (exec perform fuel code) := by
  induction fuel generalizing α with
  | zero => exact hrefl
  | succ fuel ih => exact within_run hrefl htrans (hperform _ fuel ih) code

end Code
end CallSite
