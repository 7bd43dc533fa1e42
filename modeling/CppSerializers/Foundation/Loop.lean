import Mathlib.Data.List.Basic

/-!
# Counted loops with a trace

A loop `for (i = start; i < start + n; i++)` whose body may fail. The body keeps
a state between passes and emits one entry per pass; a loop that finishes
returns the final state with the entries in order, and the first failure of the
body is the failure of the loop.

Two rules carry every argument about such a loop. `countedLoop_invariant` is
partial: an invariant that every successful pass keeps holds when the loop
returns, and every entry satisfies what its pass establishes.
`countedLoop_returns` is total: if no pass can fail from an invariant state,
the loop returns.

## Main definitions

* `countedLoop` — the loop

## Main results

* `countedLoop_length` — a finished loop has emitted one entry per pass
* `countedLoop_invariant` — the invariant rule
* `countedLoop_returns` — the termination-without-failure rule
* `countedLoop_take` — shorter loops
-/

namespace CppSerializers.Foundation

variable {ε σ τ : Type*}

/-- Run `body` for the indices `start, …, start + n - 1`, threading the state and
collecting what each pass emits. -/
def countedLoop (body : Nat → σ → Except ε (σ × τ)) :
    Nat → Nat → σ → Except ε (σ × List τ)
  | _, 0, state => .ok (state, [])
  | start, n + 1, state =>
    match body start state with
    | .error e => .error e
    | .ok (next, entry) =>
      match countedLoop body (start + 1) n next with
      | .error e => .error e
      | .ok (final, entries) => .ok (final, entry :: entries)

variable {body : Nat → σ → Except ε (σ × τ)}

@[simp] theorem countedLoop_zero (start : Nat) (state : σ) :
    countedLoop body start 0 state = .ok (state, []) := rfl

/-- A loop of `n + 1` passes returns exactly when its first pass and the loop over
the remaining `n` passes do. -/
theorem countedLoop_succ_eq_ok {start n : Nat} {state final : σ} {entries : List τ} :
    countedLoop body start (n + 1) state = .ok (final, entries) ↔
      ∃ next entry rest, body start state = .ok (next, entry) ∧
        countedLoop body (start + 1) n next = .ok (final, rest) ∧
        entries = entry :: rest := by
  constructor
  · intro h
    rw [countedLoop] at h
    split at h
    · simp at h
    · next next entry hbody =>
      split at h
      · simp at h
      · next last rest hrest =>
        simp only [Except.ok.injEq, Prod.mk.injEq] at h
        obtain ⟨rfl, rfl⟩ := h
        exact ⟨next, entry, rest, hbody, hrest, rfl⟩
  · rintro ⟨next, entry, rest, hbody, hrest, rfl⟩
    rw [countedLoop, hbody]
    simp only [hrest]

/-- A loop that returns has emitted one entry per pass. -/
theorem countedLoop_length {start n : Nat} {state final : σ} {entries : List τ}
    (h : countedLoop body start n state = .ok (final, entries)) :
    entries.length = n := by
  induction n generalizing start state entries with
  | zero =>
    simp only [countedLoop_zero, Except.ok.injEq, Prod.mk.injEq] at h
    simp [← h.2]
  | succ n ih =>
    obtain ⟨next, entry, rest, -, hrest, rfl⟩ := countedLoop_succ_eq_ok.mp h
    simp [ih hrest]

/-- **Invariant rule.** If every successful pass keeps `Inv` and emits an entry
with `Post`, then a loop that returns ends in `Inv` and every entry, at its own
index, has `Post`. -/
theorem countedLoop_invariant {Inv : σ → Prop} {Post : Nat → τ → Prop}
    (hstep : ∀ i s s' t, Inv s → body i s = .ok (s', t) → Inv s' ∧ Post i t)
    {start n : Nat} {state final : σ} {entries : List τ} (hinit : Inv state)
    (h : countedLoop body start n state = .ok (final, entries)) :
    Inv final ∧ ∀ k < n, ∃ t, entries[k]? = some t ∧ Post (start + k) t := by
  -- On the number of passes left; the state and the index of the first pass vary.
  induction n generalizing start state entries with
  | zero =>
    simp only [countedLoop_zero, Except.ok.injEq, Prod.mk.injEq] at h
    exact ⟨h.1 ▸ hinit, fun k hk => absurd hk (by omega)⟩
  | succ n ih =>
    obtain ⟨next, entry, rest, hbody, hrest, rfl⟩ := countedLoop_succ_eq_ok.mp h
    obtain ⟨hnext, hentry⟩ := hstep _ _ _ _ hinit hbody
    obtain ⟨hfinal, hall⟩ := ih hnext hrest
    refine ⟨hfinal, fun k hk => ?_⟩
    cases k with
    | zero => exact ⟨entry, rfl, hentry⟩
    | succ k =>
      obtain ⟨t, ht, hpost⟩ := hall k (by omega)
      exact ⟨t, by simpa using ht, by rwa [Nat.add_right_comm, Nat.add_assoc] at hpost⟩

/-- **Total rule.** If no pass fails from an invariant state and every pass keeps
the invariant, the loop returns. -/
theorem countedLoop_returns {Inv : σ → Prop}
    (hstep : ∀ i s, Inv s → ∃ s' t, body i s = .ok (s', t) ∧ Inv s')
    (start n : Nat) {state : σ} (hinit : Inv state) :
    ∃ final entries, countedLoop body start n state = .ok (final, entries) := by
  induction n generalizing start state with
  | zero => exact ⟨state, [], rfl⟩
  | succ n ih =>
    obtain ⟨next, entry, hbody, hnext⟩ := hstep start state hinit
    obtain ⟨final, rest, hrest⟩ := ih (start + 1) hnext
    exact ⟨final, entry :: rest,
      countedLoop_succ_eq_ok.mpr ⟨next, entry, rest, hbody, hrest, rfl⟩⟩

/-- **Prefix rule.** A loop that returns has gone through what any shorter one goes through. -/
theorem countedLoop_take {start n m : Nat} {state final : σ} {entries : List τ}
    (h : countedLoop body start n state = .ok (final, entries)) (hle : m ≤ n) :
    ∃ last, countedLoop body start m state = .ok (last, entries.take m) := by
  induction n generalizing start m state entries with
  | zero =>
    obtain rfl := Nat.le_zero.mp hle
    exact ⟨state, rfl⟩
  | succ n ih =>
    obtain ⟨next, entry, rest, hbody, hrest, rfl⟩ := countedLoop_succ_eq_ok.mp h
    cases m with
    | zero => exact ⟨state, rfl⟩
    | succ m =>
      obtain ⟨last, hlast⟩ := ih hrest (Nat.le_of_succ_le_succ hle)
      exact ⟨last, countedLoop_succ_eq_ok.mpr ⟨next, entry, rest.take m, hbody, hlast, rfl⟩⟩

end CppSerializers.Foundation
