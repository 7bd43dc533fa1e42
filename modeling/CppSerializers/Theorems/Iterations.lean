import CppSerializers.Theorems.Table

/-!
# Fewer iterations

The timed loop of a benchmark goes on from the state the check has left, and what it does
in an iteration does not depend on how many are to follow. So if the program reports
results for some number of iterations, it does for any smaller one, whatever the time it
takes: the check and the iterations that are made are the same, and so are the rows of the
report, but for the number of iterations and the time.

Nothing is asked of the codecs but that the protocols of Thrift are ready for the next
record after writing one. A codec that fails, fails in the check or in the same iteration.

## Main results

* `Test.run_of_le` — a call with fewer iterations
* `fewer_iterations` — a run of the program with fewer iterations
-/

namespace CppSerializers

open Foundation

variable {c : Codecs} {env : Env} {b : Benchmark} {n m : Nat}

/-- A call with fewer iterations makes the same check, and the first of the iterations. -/
theorem Test.run_of_le {t : Test} {run : Run} (hrun : t.run n = .ok run) (hle : m ≤ n) :
    ∃ shorter, t.run m = .ok shorter ∧ shorter.check = run.check ∧
      shorter.timed = run.timed.take m := by
  obtain ⟨state, final, hsetUp, hloop, -⟩ := run_eq_ok_iff.mp hrun
  obtain ⟨last, hlast⟩ := countedLoop_take hloop hle
  exact ⟨⟨run.check, run.timed.take m, t.result last⟩,
    run_eq_ok_iff.mpr ⟨state, last, hsetUp, hlast, rfl⟩, rfl, rfl⟩

private theorem run_of_clock (clock : Clock) {run : Run} (hrun : (b.test c env).run n = .ok run) :
    ∃ run', (b.test c { env with clock := clock }).run n = .ok run' := by
  obtain ⟨result, htest⟩ : ∃ result,
      b.test c { env with clock := clock } = { b.test c env with result := result } := by
    cases b <;> exact ⟨_, rfl⟩
  obtain ⟨state, final, hsetUp, hloop, -⟩ := Test.run_eq_ok_iff.mp hrun
  rw [htest]
  exact ⟨⟨run.check, run.timed, result final⟩,
    Test.run_eq_ok_iff.mpr ⟨state, final, hsetUp, hloop, rfl⟩⟩

/-- What a row says besides the number of iterations and the time. -/
def Result.key (result : Result) : StdString × StdString × Nat :=
  (result.name, result.version, result.size)

private theorem oracle_run_of_le {env : Benchmark → Env} (clock : Benchmark → Clock)
    (hthrift : ∀ proto, (c.thrift proto).Restores (env b).payload.record) (hle : m ≤ n)
    {result : Result} (hrun : (c.oracle env).run b n = .ok result) :
    ∃ shorter, (c.oracle fun b => { env b with clock := clock b }).run b m = .ok shorter ∧
      shorter.key = result.key := by
  obtain ⟨run, hreturns, rfl⟩ :
      ∃ run, (b.test c (env b)).run n = .ok run ∧ run.result = result := by
    change ((b.test c (env b)).run n).map Run.result = _ at hrun
    cases hreturns : (b.test c (env b)).run n with
    | error e =>
      rw [hreturns] at hrun
      cases hrun
    | ok run =>
      rw [hreturns] at hrun
      exact ⟨run, rfl, Except.ok.inj hrun⟩
  obtain ⟨run', hreturns', -⟩ := Test.run_of_le hreturns hle
  obtain ⟨shorter, hshorter⟩ := run_of_clock (clock b) hreturns'
  refine ⟨shorter.result, ?_, ?_⟩
  · show ((b.test c { env b with clock := clock b }).run m).map Run.result = _
    rw [hshorter]
    rfl
  · have hthrift' : ∀ proto, (c.thrift proto).Restores
        ({ env b with clock := clock b } : Env).payload.record := hthrift
    rw [Benchmark.result_eq hthrift hreturns, Benchmark.result_eq hthrift' hshorter]
    rfl

private theorem exists_results {R R' : Benchmark → Result → Prop} {bs : List Benchmark}
    {results : List Result} (h : List.Forall₂ R bs results)
    (hstep : ∀ b result, R b result → ∃ result', R' b result' ∧ result'.key = result.key) :
    ∃ results', List.Forall₂ R' bs results' ∧
      results'.map Result.key = results.map Result.key := by
  induction h with
  | nil => exact ⟨[], .nil, rfl⟩
  | cons hR _ ih =>
    obtain ⟨result', hR', hkey⟩ := hstep _ _ hR
    obtain ⟨results', hall, hkeys⟩ := ih
    exact ⟨result' :: results', .cons hR' hall, congrArg₂ List.cons hkey hkeys⟩

private theorem returned_of_printed {oracle : Oracle} {help : StdString} {opts : ParsedOptions}
    (hrun : opts.AsksForRun n) {results : List Result}
    (hprinted : (main oracle help (.ok opts)).printed = some results) :
    (∀ name, opts.Selects name → name ∈ validSerializers) ∧
      List.Forall₂ (fun b result => oracle.run b n = .ok result)
        ((opts.args n).selected mainBranches) results := by
  have hvalid : ∀ name, opts.Selects name → name ∈ validSerializers := by
    by_contra hinvalid
    simp only [not_forall] at hinvalid
    obtain ⟨name, hname, hinvalid⟩ := hinvalid
    obtain ⟨_, _, _, hparse⟩ := parseArgs_invalid help hrun hname hinvalid
    rw [main_of_exit hparse] at hprinted
    cases hprinted
  have hparse := parseArgs_valid help hrun hvalid
  refine ⟨hvalid, ?_⟩
  cases hbranches : runBranches oracle (opts.args n) mainBranches {} with
  | error failure =>
    rw [main_of_error hparse hbranches] at hprinted
    cases hprinted
  | ok final =>
    obtain ⟨_, returned, hreturned, hall⟩ := runBranches_ok hbranches
    rw [main_of_ok hparse hbranches] at hprinted
    cases hprinted
    rw [hreturned]
    exact hall

/-- **Fewer iterations.** If the program reports results for a number of iterations, then it does
for every smaller one and under every clock, and name, version and size are the same in every
row. -/
theorem fewer_iterations (c : Codecs) (env : Benchmark → Env) (clock : Benchmark → Clock)
    (hthrift : ∀ b proto, (c.thrift proto).Restores (env b).payload.record) (help : StdString)
    {opts : ParsedOptions} (hrun : opts.AsksForRun n) (hle : m ≤ n) {results : List Result}
    (hprinted : (main (c.oracle env) help (.ok opts)).printed = some results) :
    ∃ results', (main (c.oracle fun b => { env b with clock := clock b }) help
        (.ok { opts with iterations := some m })).printed = some results' ∧
      results'.map Result.key = results.map Result.key := by
  obtain ⟨hvalid, hreturned⟩ := returned_of_printed hrun hprinted
  obtain ⟨results', hreturned', hkeys⟩ := exists_results hreturned fun b _ =>
    oracle_run_of_le clock (hthrift b) hle
  have hrun' : ParsedOptions.AsksForRun { opts with iterations := some m } m :=
    ⟨hrun.help_eq, hrun.list_eq, rfl⟩
  refine ⟨results', ?_, hkeys⟩
  rw [main_of_ok (parseArgs_valid help hrun' hvalid) (runBranches_of_forall₂ hreturned' {})]
  rfl

/-- One iteration instead of two, of Avro and of YAS. -/
theorem fewer_iterations_sample :
    ∃ results', (main (Reference.libraries.codecs.oracle fun _ =>
          { Reference.sampleEnv with clock := ⟨0, 5000000⟩ }) []
        (.ok { tableOptions with iterations := some 1 })).printed = some results' ∧
      results'.map Result.key =
        [(lit "avro", [], 4096), (lit "yas", lit "7.0.2", 33)] := by
  have hrun : tableOptions.AsksForRun 2 := ⟨rfl, rfl, rfl⟩
  have hmain := main_eq Reference.libraries_lawful Reference.libraries_carries
    (fun _ => rfl : ∀ b : Benchmark, ((fun _ => Reference.sampleEnv) b).payload = Reference.sample)
    hrun tableOptions_valid (fun _ => Or.inr (by decide)) []
  have hthrift := fun (_ : Benchmark) proto => (Reference.codecs_roundTrips.thrift proto).restores
  obtain ⟨results', hprinted, hkeys⟩ := fewer_iterations Reference.libraries.codecs
    (fun _ => Reference.sampleEnv) (fun _ => ⟨0, 5000000⟩) hthrift [] hrun
    (by decide : 1 ≤ 2) (congrArg Outcome.printed hmain)
  refine ⟨results', hprinted, hkeys.trans ?_⟩
  decide

end CppSerializers
