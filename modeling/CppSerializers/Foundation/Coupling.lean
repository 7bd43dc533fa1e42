import Mathlib.Control.Basic
import Mathlib.Tactic.Choose

/-!
# Programs that differ in their values only

Two programs in a monad are coupled by a relation when they go through the same
effects and return values it relates. The effects are shared literally: there is one
program that returns both values together with the proof that they are related, and
the two are its projections. So coupled programs fail together, with the same
failure, and consume the same input.

Coupling by equality is equality of programs, and that is what it is for: to show
that a value a program starts from does not matter, relate the values it leads to,
step by step, until they are equal.

## Main definitions

* `Coupled` — the relational lifting of a monad

## Main results

* `Coupled.bind`, `Coupled.foldlM` — composition
* `Coupled.eq`, `Coupled.map_eq` — coupling by equality is equality
* `Coupled.exists_ok` — one of two coupled programs returns when the other does
-/

namespace CppSerializers.Foundation

variable {m : Type → Type} [Monad m] {α α' β β' : Type}

/-- `x` and `x'` are the two projections of one program, which returns related values. -/
def Coupled (R : α → α' → Prop) (x : m α) (x' : m α') : Prop :=
  ∃ both : m {p : α × α' // R p.1 p.2},
    (fun p => p.1.1) <$> both = x ∧ (fun p => p.1.2) <$> both = x'

namespace Coupled

variable [LawfulMonad m] {R : α → α' → Prop} {S : β → β' → Prop}

theorem pure {a : α} {a' : α'} (h : R a a') :
    Coupled R (Pure.pure a : m α) (Pure.pure a') :=
  ⟨Pure.pure ⟨(a, a'), h⟩, by simp, by simp⟩

theorem refl (x : m α) : Coupled Eq x x :=
  ⟨(fun a => ⟨(a, a), rfl⟩) <$> x, by simp, by simp⟩

omit [LawfulMonad m] in
/-- Equal values and equal effects make equal programs. -/
theorem eq {x x' : m α} (h : Coupled Eq x x') : x = x' := by
  obtain ⟨both, rfl, rfl⟩ := h
  exact congrArg (· <$> both) (funext fun p => p.2)

/-- Programs that continue related values to related values. -/
theorem bind {x : m α} {x' : m α'} {f : α → m β} {f' : α' → m β'} (h : Coupled R x x')
    (hf : ∀ a a', R a a' → Coupled S (f a) (f' a')) : Coupled S (x >>= f) (x' >>= f') := by
  obtain ⟨both, rfl, rfl⟩ := h
  -- The joint program of the continuation, chosen for each pair.
  choose next hnext hnext' using fun p : {p : α × α' // R p.1 p.2} => hf p.1.1 p.1.2 p.2
  exact ⟨both >>= next, by simp [hnext], by simp [hnext']⟩

/-- Programs that begin alike. -/
theorem bind_same {f : α → m β} {f' : α → m β'} (x : m α)
    (hf : ∀ a, Coupled S (f a) (f' a)) : Coupled S (x >>= f) (x >>= f') := by
  refine (refl x).bind ?_
  rintro a _ rfl
  exact hf a

theorem mono {R' : α → α' → Prop} {x : m α} {x' : m α'} (h : Coupled R x x')
    (hR : ∀ a a', R a a' → R' a a') : Coupled R' x x' := by
  obtain ⟨both, rfl, rfl⟩ := h
  exact ⟨(fun p => ⟨p.1, hR _ _ p.2⟩) <$> both, by simp, by simp⟩

/-- Loops over one list, whose states are related before and after every pass. -/
theorem foldlM {γ : Type} (R : α → α' → Prop) {f : α → γ → m α} {f' : α' → γ → m α'} {l : List γ}
    (hf : ∀ a a' c, R a a' → Coupled R (f a c) (f' a' c)) {a : α} {a' : α'} (h : R a a') :
    Coupled R (l.foldlM f a) (l.foldlM f' a') := by
  induction l generalizing a a' with
  | nil => exact pure h
  | cons c l ih =>
    rw [List.foldlM_cons, List.foldlM_cons]
    exact (hf a a' c h).bind fun _ _ hnext => ih hnext

theorem symm {x : m α} {x' : m α'} (h : Coupled R x x') :
    Coupled (fun a' a => R a a') x' x := by
  obtain ⟨both, rfl, rfl⟩ := h
  exact ⟨(fun p => ⟨p.1.swap, p.2⟩) <$> both, by simp, by simp⟩

theorem map_eq {γ : Type} {f : α → γ} {f' : α' → γ} {x : m α} {x' : m α'}
    (h : Coupled (fun a a' => f a = f' a') x x') : f <$> x = f' <$> x' := by
  obtain ⟨both, rfl, rfl⟩ := h
  simp only [Functor.map_map]
  exact congrArg (· <$> both) (funext fun p => p.2)

/-! ### Programs that may throw -/

variable {ε : Type}

theorem throw (e : ε) : Coupled R (throw e : Except ε α) (throw e : Except ε α') :=
  ⟨MonadExcept.throw e, rfl, rfl⟩

theorem exists_ok {x : Except ε α} {x' : Except ε α'} (h : Coupled R x x') {a : α}
    (hx : x = .ok a) : ∃ a', x' = .ok a' ∧ R a a' := by
  obtain ⟨both, rfl, rfl⟩ := h
  cases both with
  | error e => cases hx
  | ok p =>
    cases hx
    exact ⟨p.1.2, rfl, p.2⟩

end Coupled

end CppSerializers.Foundation
