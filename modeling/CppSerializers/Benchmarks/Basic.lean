import CppSerializers.Foundation.Loop
import CppSerializers.Model.Data

/-!
# The shape of a benchmark function

Every benchmark function of `benchmark.cpp` fills a record, serializes it, checks
that it can be deserialized back, repeats the two under the clock, and returns a
`Result`. What differs is the library, the objects that live from one iteration to
the next, and where the reported size is taken. A `Test` has one field for each of
the three phases, so a benchmark function is a `Test` and a call of it is
`Test.run`.

All that is proved about the functions goes through two rules. An invariant that
the first phase establishes and every iteration keeps holds when the result is
made, and every iteration satisfies what an iteration establishes
(`Test.Invariant.run`); if moreover no phase fails, the call returns
(`Test.Invariant.returns`).

## Main definitions

* `Test`, `Test.run` — a benchmark function and a call of it
* `Test.Invariant` — an invariant of the state, with a postcondition of iterations

## Main results

* `Test.run_eq_ok_iff` — the phases of a call that returns
* `Test.Invariant.run`, `Test.Invariant.returns` — the partial and the total rule
-/

namespace CppSerializers

open Foundation

/-- The version constants of the libraries, as the benchmark prints them. Avro and
cereal have none. -/
structure Versions where
  /-- `PACKAGE_VERSION`, from Thrift. -/
  packageVersion : StdString
  googleProtobufVersion : Nat
  capnpVersion : Nat
  boostVersion : Nat
  msgpackVersion : StdString
  flatbuffersVersionMajor : StdString
  flatbuffersVersionMinor : StdString
  flatbuffersVersionRevision : StdString
  yasVersionString : StdString
  deriving DecidableEq, Repr

/-- A benchmark function. -/
structure Test where
  /-- The variables that live from one iteration to the next. -/
  State : Type
  /-- Everything before the clock is started: the record, its serialization, and the
  check that it can be deserialized back. -/
  setUp : Except Exception (State × RoundTrip)
  /-- The `i`-th iteration of the timed loop. -/
  iteration : Nat → State → Except Exception (State × RoundTrip)
  /-- The returned `Result`. -/
  result : State → Result

/-- A call of the benchmark function. -/
def Test.run (t : Test) (iterations : Nat) : Except Exception Run := do
  let (state, check) ← t.setUp
  let (state, timed) ← countedLoop t.iteration 0 iterations state
  return { check := check, timed := timed, result := t.result state }

/-- A statement that may throw returned, so what it was bound to ran. -/
theorem bind_eq_ok {α β : Type} {x : Except Exception α} {f : α → Except Exception β} {b : β} :
    x >>= f = .ok b ↔ ∃ a, x = .ok a ∧ f a = .ok b := by
  cases x with
  | error e =>
    constructor
    · intro h
      cases h
    · rintro ⟨_, h, _⟩
      cases h
  | ok a =>
    constructor
    · intro h
      exact ⟨a, rfl, h⟩
    · rintro ⟨a', ha, h⟩
      cases ha
      exact h

/-- A guarded `throw` was passed, so its condition was false. -/
theorem guard_eq_ok {α : Type} {p : Prop} [Decidable p] {e : Exception}
    {x : Except Exception α} {a : α} :
    (if p then throw e else x) = .ok a ↔ ¬p ∧ x = .ok a := by
  by_cases hp : p
  · rw [if_pos hp]
    constructor
    · intro h
      cases h
    · exact fun h => absurd hp h.1
  · rw [if_neg hp]
    exact (and_iff_right hp).symm

/-- A call returns when its first phase and its loop do. -/
theorem Test.run_eq_ok_iff {t : Test} {n : Nat} {run : Run} :
    t.run n = .ok run ↔
      ∃ state final, t.setUp = .ok (state, run.check) ∧
        countedLoop t.iteration 0 n state = .ok (final, run.timed) ∧
        run.result = t.result final := by
  rw [Test.run, bind_eq_ok]
  constructor
  · rintro ⟨⟨state, check⟩, hsetUp, hrest⟩
    obtain ⟨⟨final, timed⟩, hloop, hreturn⟩ := bind_eq_ok.mp hrest
    obtain rfl : ({ check := check, timed := timed, result := t.result final } : Run) = run :=
      Except.ok.inj hreturn
    exact ⟨state, final, hsetUp, hloop, rfl⟩
  · rintro ⟨state, final, hsetUp, hloop, hresult⟩
    refine ⟨(state, run.check), hsetUp, bind_eq_ok.mpr ⟨(final, run.timed), hloop, ?_⟩⟩
    show Except.ok (Run.mk run.check run.timed (t.result final)) = .ok run
    rw [← hresult]

/-- A call that returns has gone through all its iterations. -/
theorem Test.length_timed {t : Test} {n : Nat} {run : Run} (hrun : t.run n = .ok run) :
    run.timed.length = n := by
  obtain ⟨_, _, _, hloop, _⟩ := Test.run_eq_ok_iff.mp hrun
  exact countedLoop_length hloop

/-- `Inv` holds of the state before the loop and after every iteration, and the round
trips of the check and of every iteration satisfy `Post`. -/
structure Test.Invariant (t : Test) (Inv : t.State → Prop) (Post : RoundTrip → Prop) : Prop where
  setUp : ∀ state check, t.setUp = .ok (state, check) → Inv state ∧ Post check
  iteration : ∀ i state next rt, Inv state → t.iteration i state = .ok (next, rt) →
    Inv next ∧ Post rt

namespace Test.Invariant

variable {t : Test} {Inv : t.State → Prop} {Post : RoundTrip → Prop}

/-- **Partial rule.** -/
theorem run (h : t.Invariant Inv Post) {n : Nat} {run : Run} (hrun : t.run n = .ok run) :
    Post run.check ∧ (∃ final, Inv final ∧ run.result = t.result final) ∧
      ∀ k < n, ∃ rt, run.timed[k]? = some rt ∧ Post rt := by
  obtain ⟨state, final, hsetUp, hloop, hresult⟩ := run_eq_ok_iff.mp hrun
  -- The invariant enters the loop with the state of the check.
  obtain ⟨hstate, hcheck⟩ := h.setUp state run.check hsetUp
  obtain ⟨hfinal, htimed⟩ := countedLoop_invariant h.iteration hstate hloop
  exact ⟨hcheck, ⟨final, hfinal, hresult⟩, htimed⟩

/-- The reported size, when the invariant determines it. -/
theorem size_eq (h : t.Invariant Inv Post) {size : Nat}
    (hsize : ∀ state, Inv state → (t.result state).size = size) {n : Nat} {run : Run}
    (hrun : t.run n = .ok run) : run.result.size = size := by
  obtain ⟨_, ⟨final, hfinal, hresult⟩, _⟩ := h.run hrun
  rw [hresult]
  exact hsize final hfinal

/-- Two invariants may be used together. -/
theorem and {Inv' : t.State → Prop} {Post' : RoundTrip → Prop} (h : t.Invariant Inv Post)
    (h' : t.Invariant Inv' Post') :
    t.Invariant (fun s => Inv s ∧ Inv' s) (fun rt => Post rt ∧ Post' rt) where
  setUp state check hsetUp := by
    obtain ⟨hinv, hpost⟩ := h.setUp state check hsetUp
    obtain ⟨hinv', hpost'⟩ := h'.setUp state check hsetUp
    exact ⟨⟨hinv, hinv'⟩, hpost, hpost'⟩
  iteration i state next rt hstate hiteration := by
    obtain ⟨hinv, hpost⟩ := h.iteration i state next rt hstate.1 hiteration
    obtain ⟨hinv', hpost'⟩ := h'.iteration i state next rt hstate.2 hiteration
    exact ⟨⟨hinv, hinv'⟩, hpost, hpost'⟩

/-- The postcondition of an iteration may be weakened. -/
theorem mono {Post' : RoundTrip → Prop} (h : t.Invariant Inv Post)
    (hpost : ∀ rt, Post rt → Post' rt) : t.Invariant Inv Post' where
  setUp state check hsetUp := (h.setUp state check hsetUp).imp_right (hpost check)
  iteration i state next rt hstate hiteration :=
    (h.iteration i state next rt hstate hiteration).imp_right (hpost rt)

/-- **Total rule.** -/
theorem returns (h : t.Invariant Inv Post) (hsetUp : ∃ state check, t.setUp = .ok (state, check))
    (hpass : ∀ i state, Inv state → ∃ next rt, t.iteration i state = .ok (next, rt)) (n : Nat) :
    ∃ run, t.run n = .ok run := by
  obtain ⟨state, check, hsetUp⟩ := hsetUp
  -- A pass that does not fail keeps the invariant, so the next one does not fail either.
  have hstep : ∀ i state, Inv state →
      ∃ next rt, t.iteration i state = .ok (next, rt) ∧ Inv next := by
    intro i state hinv
    obtain ⟨next, rt, hrt⟩ := hpass i state hinv
    exact ⟨next, rt, hrt, (h.iteration i state next rt hinv hrt).1⟩
  obtain ⟨final, timed, hloop⟩ := countedLoop_returns hstep 0 n (h.setUp state check hsetUp).1
  exact ⟨⟨check, timed, t.result final⟩,
    run_eq_ok_iff.mpr ⟨state, final, hsetUp, hloop, rfl⟩⟩

end Test.Invariant

end CppSerializers
