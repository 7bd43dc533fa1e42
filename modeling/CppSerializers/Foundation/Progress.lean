import CppSerializers.Foundation.Words
import Mathlib.Logic.ExistsUnique

/-!
# Readers that make progress, and the loops they drive

`for (;;)` and `while (true)` have no bound on their passes. A loop over an input is
modelled by a recursion with such a bound all the same, and this file says when the
bound is no restriction: when every pass goes on from something smaller, the loop is
the only solution of its own unfolding equation, and any sufficient bound computes it.

What gets smaller is, for a parser, what is left of the input. `Consumes n rd` says that
`rd` takes at least `n` cells whenever it succeeds, on any stream; it composes along
`>>=`, and `Consumes.run_bind_congr` turns it into the condition on the loop.

## Main definitions

* `Consumes` — a reader takes at least a number of cells
* `Contracting` — what a pass does depends on the loop at smaller arguments only
* `bounded` — a loop with a bound on its passes

## Main results

* `Consumes.bind`, `Consumes.repeatM` — composition
* `Contracting.existsUnique` — the loop exists, and there is one
* `Contracting.bounded_eq` — enough passes compute it
-/

namespace CppSerializers.Foundation

/-! ## Loops -/

section Loops

variable {α γ : Type} {μ : α → Nat} {step : (α → γ) → α → γ} {loop : α → γ}

/-- At `a`, a pass `step loop` uses the loop only where the measure is smaller. -/
def Contracting (μ : α → Nat) (step : (α → γ) → α → γ) : Prop :=
  ∀ a loop loop', (∀ b, μ b < μ a → loop b = loop' b) → step loop a = step loop' a

/-- At most `n` passes; `stuck` is the answer when they do not suffice. -/
def bounded (step : (α → γ) → α → γ) (stuck : α → γ) : Nat → α → γ
  | 0 => stuck
  | n + 1 => step (bounded step stuck n)

/-- Enough passes compute the loop, if there is one. -/
theorem Contracting.bounded_eq (h : Contracting μ step) (hloop : step loop = loop)
    (stuck : α → γ) {n : Nat} {a : α} (hn : μ a < n) : bounded step stuck n a = loop a := by
  induction n generalizing a with
  | zero => exact absurd hn (Nat.not_lt_zero _)
  | succ n ih =>
    rw [← hloop]
    -- The rest of the loop starts from something smaller, where `n` passes suffice.
    exact h a _ _ fun b hb => ih (by omega)

private theorem Contracting.step_bounded (h : Contracting μ step) (stuck : α → γ) :
    step (fun a => bounded step stuck (μ a + 1) a) = fun a => bounded step stuck (μ a + 1) a := by
  have hagree : ∀ n a m, μ a < n → μ a < m →
      bounded step stuck n a = bounded step stuck m a := by
    intro n
    induction n with
    | zero => intro a m hn; exact absurd hn (Nat.not_lt_zero _)
    | succ n ih =>
      intro a m hn hm
      obtain ⟨m, rfl⟩ : ∃ k, m = k + 1 := ⟨m - 1, by omega⟩
      exact h a _ _ fun b hb => ih b m (by omega) (by omega)
  funext a
  exact h a _ _ fun b hb => hagree _ b (μ a) (by omega) hb

/-- **The loop exists, and there is one.** -/
theorem Contracting.existsUnique (h : Contracting μ step) (stuck : α → γ) :
    ∃! loop, step loop = loop := by
  refine ⟨_, h.step_bounded stuck, fun loop hloop => ?_⟩
  funext a
  exact (h.bounded_eq hloop stuck (Nat.lt_succ_self _)).symm

end Loops

/-! ## Readers -/

variable {ε β α γ σ : Type} {m n : Nat}

/-- A successful run of a sequence is a successful run of its parts. -/
theorem run_bind_eq_ok {rd : Reader ε β α} {k : α → Reader ε β γ} {stream rest : List β}
    {c : γ} (h : (rd >>= k).run stream = .ok (c, rest)) :
    ∃ a next, rd.run stream = .ok (a, next) ∧ (k a).run next = .ok (c, rest) := by
  rw [StateT.run_bind] at h
  cases hrun : rd.run stream with
  | error e => rw [hrun] at h; cases h
  | ok out => exact ⟨out.1, out.2, rfl, by rwa [hrun] at h⟩

/-- Whenever the reader succeeds it has taken at least `n` cells. -/
def Consumes (n : Nat) (rd : Reader ε β α) : Prop :=
  ∀ stream a rest, rd.run stream = .ok (a, rest) → rest.length + n ≤ stream.length

namespace Consumes

variable {rd : Reader ε β α} {k : α → Reader ε β γ}

theorem pure (a : α) : Consumes 0 (pure a : Reader ε β α) := by
  intro stream b rest h
  cases h
  exact Nat.le_refl _

theorem throw (e : ε) : Consumes n (throw e : Reader ε β α) := by
  intro stream a rest h
  cases h

theorem mono (h : Consumes n rd) (hm : m ≤ n) : Consumes m rd := fun stream a rest hrun =>
  Nat.le_trans (Nat.add_le_add_left hm _) (h stream a rest hrun)

theorem readCell (eof : ε) : Consumes 1 (Foundation.readCell eof : Reader ε β β) := by
  intro stream b rest h
  cases stream with
  | nil => cases h
  | cons c stream =>
    cases h
    exact Nat.le_refl _

theorem readBlock (eof : ε) (n : Nat) : Consumes n (Foundation.readBlock eof n : Reader ε β _) := by
  intro stream block rest h
  change (if n ≤ stream.length then _ else _) = _ at h
  split at h
  · next hle =>
    cases h
    rw [List.length_drop]
    omega
  · cases h

theorem bind (h : Consumes m rd) (hk : ∀ a, Consumes n (k a)) : Consumes (m + n) (rd >>= k) := by
  intro stream c rest hrun
  obtain ⟨a, next, hfirst, hsecond⟩ := run_bind_eq_ok hrun
  have hfirst := h _ _ _ hfirst
  have hsecond := hk a _ _ _ hsecond
  omega

theorem map (f : α → γ) (h : Consumes n rd) : Consumes n (f <$> rd) := by
  rw [← bind_pure_comp]
  exact h.bind fun a => pure (f a)

/-- After a reader that takes cells, it matters only what happens on shorter streams. -/
theorem run_bind_congr {k' : α → Reader ε β γ} (h : Consumes n rd) {stream : List β}
    (hk : ∀ a rest, rest.length + n ≤ stream.length → (k a).run rest = (k' a).run rest) :
    (rd >>= k).run stream = (rd >>= k').run stream := by
  rw [StateT.run_bind, StateT.run_bind]
  cases hrun : rd.run stream with
  | error e => rfl
  | ok out => exact hk out.1 out.2 (h _ _ _ hrun)

theorem readBE (eof : ε) (w : Nat) : Consumes 0 (Foundation.readBE eof w) :=
  ((readBlock eof w).map _).mono (Nat.zero_le _)

theorem readVarint (eof : ε) (k : Nat) : Consumes 1 (Foundation.readVarint eof k) := by
  induction k with
  | zero => exact throw eof
  | succ k ih =>
    rw [Foundation.readVarint]
    refine (readCell eof).bind (n := 0) fun b => ?_
    split_ifs
    · exact pure _
    · exact (ih.mono (Nat.zero_le 1)).bind (n := 0) fun high => pure _

/-- What was computed from cells read before takes none. -/
theorem ofExcept (x : Except ε α) : Consumes 0 (StateT.lift x : Reader ε β α) := by
  intro stream a rest h
  cases x with
  | error e => cases h
  | ok a =>
    cases h
    exact Nat.le_refl _

/-! With a state of its own, a reader takes its cells whatever the state. -/

theorem lift (h : Consumes n rd) (s : σ) : Consumes n ((StateT.lift rd).run s) :=
  h.bind fun a => pure (a, s)

theorem stateBind {rd : StateT σ (Reader ε β) α} {k : α → StateT σ (Reader ε β) γ}
    (h : ∀ s, Consumes 0 (rd.run s)) (hk : ∀ a s, Consumes 0 ((k a).run s)) (s : σ) :
    Consumes 0 ((rd >>= k).run s) :=
  (h s).bind fun out => hk out.1 out.2

theorem stateRun_bind_congr {rd : StateT σ (Reader ε β) α} {k k' : α → StateT σ (Reader ε β) γ}
    (h : ∀ s, Consumes n (rd.run s)) {s : σ} {stream : List β}
    (hk : ∀ a s rest, rest.length + n ≤ stream.length →
      ((k a).run s).run rest = ((k' a).run s).run rest) :
    ((rd >>= k).run s).run stream = ((rd >>= k').run s).run stream :=
  (h s).run_bind_congr fun out rest hrest => hk out.1 out.2 rest hrest

theorem repeatM {rd : StateT σ (Reader ε β) α} (h : ∀ s, Consumes 0 (rd.run s)) (n : Nat) (s : σ) :
    Consumes 0 ((Foundation.repeatM rd n).run s) := by
  induction n generalizing s with
  | zero => exact pure _
  | succ n ih => exact stateBind h (fun a => stateBind ih fun as s => pure (a :: as, s)) s

end Consumes

end CppSerializers.Foundation
