import CppSerializers.Benchmarks.Libraries
import CppSerializers.Program.Main
import CppSerializers.Reference.Libraries

/-!
# The published table

What a user of the program reads. Over libraries that do what they are documented to
do, and a payload they carry, every command line that selects valid names produces a
report, and reading it back gives one row for each selected benchmark, in the order
of `main`: its name, the version of the library, the number of iterations, the
reported size, and the time between its two readings of the clock.

## Main definitions

* `Benchmark.expectedResult` — the result of a benchmark in closed form

## Main results

* `main_eq` — the outcome of the program in closed form
* `table_eq` — the report, read back
-/

namespace CppSerializers

open Foundation Report

/-- The result a benchmark reports for its payload, between two readings of the clock. -/
def Benchmark.expectedResult (c : Codecs) (env : Benchmark → Env) (b : Benchmark) : Result where
  name := b.tag
  version := b.version c.versions
  size := b.reportedSize c (env b).payload
  time := (env b).clock.duration

/-- No version contains a separator of the report. -/
def Versions.Clean (v : Versions) : Prop :=
  ∀ b : Benchmark, comma ∉ b.version v ∧ newline ∉ b.version v

variable {L : Libraries} {p : Payload} {env : Benchmark → Env} {opts : ParsedOptions}
  {iterations : Nat}

private theorem oracle_run_eq (hL : L.Lawful) (hp : L.Carries p)
    (hpayload : ∀ b, (env b).payload = p) (b : Benchmark)
    (hvalid : b = .protobuf → p.kStringsCount = 0 ∨
      L.protobuf.verifyUtf8String p.kStringValue = true) (n : Nat) :
    (L.codecs.oracle env).run b n = .ok (b.expectedResult L.codecs env) := by
  rw [← hpayload b] at hp hvalid
  have hcodecs := Libraries.codecs_roundTrips hL hp
  obtain ⟨run, hrun⟩ := Benchmark.returns hcodecs (fun _ => Libraries.builds hL hp)
    (fun hb => Libraries.parses hL hp (hvalid hb)) n
  have hresult := Benchmark.result_eq (fun proto => (hcodecs.thrift proto).restores) hrun
  show ((b.test L.codecs (env b)).run n).map Run.result = _
  rw [hrun]
  exact congrArg Except.ok hresult

private theorem expectedResult_clean (hversions : L.versions.Clean) (b : Benchmark) :
    Clean (b.expectedResult L.codecs env) := by
  have htag : comma ∉ b.tag ∧ newline ∉ b.tag := by cases b <;> decide
  exact ⟨htag.1, htag.2, (hversions b).1, (hversions b).2⟩

private theorem parse_printResults (args : Args) {results : List Result}
    (h : ∀ result ∈ results, Clean result) :
    (if args.csv = true then parseCsv (printResults args results)
      else parseBlocks (printResults args results)) =
      some (results.map (Result.row args.iterations)) := by
  obtain ⟨iterations, serializers, csv⟩ := args
  cases csv with
  | true => exact parseCsv_printResults h
  | false => exact parseBlocks_printResults h

private theorem eq_map_of_forall₂ {α β ε : Type} {run : α → Except ε β} {f : α → β} {as : List α}
    {bs : List β} (h : List.Forall₂ (fun a b => run a = .ok b) as bs)
    (hf : ∀ a ∈ as, run a = .ok (f a)) : bs = as.map f := by
  induction h with
  | nil => rfl
  | cons hrun _ ih =>
    rw [List.forall_mem_cons] at hf
    rw [List.map_cons, ← ih hf.2, Except.ok.inj (hrun.symm.trans hf.1)]

section Outcome

variable (hL : L.Lawful) (hp : L.Carries p) (hpayload : ∀ b, (env b).payload = p)
  (hrun : opts.AsksForRun iterations)
  (hnames : ∀ name, opts.Selects name → name ∈ validSerializers)
  (hstrings : opts.Selects Benchmark.protobuf.tag →
    p.kStringsCount = 0 ∨ L.protobuf.verifyUtf8String p.kStringValue = true)
include hL hp hpayload hrun hnames hstrings

/-- **The outcome of the program**, from the command line to the report. -/
theorem main_eq (help : StdString) :
    main (L.codecs.oracle env) help (.ok opts) =
      { status := exitSuccess
        stdout := printResults (opts.args iterations)
          (((opts.args iterations).selected mainBranches).map
            (Benchmark.expectedResult L.codecs env))
        ran := ((opts.args iterations).selected mainBranches).map (·, iterations)
        printed := some (((opts.args iterations).selected mainBranches).map
          (Benchmark.expectedResult L.codecs env)) } := by
  have hparse := parseArgs_valid help hrun hnames
  have horacle : ∀ b ∈ (opts.args iterations).selected mainBranches,
      (L.codecs.oracle env).run b iterations = .ok (b.expectedResult L.codecs env) := by
    intro b hb
    refine oracle_run_eq hL hp hpayload b (fun heq => hstrings ?_) iterations
    rw [← heq]
    exact mem_selected.mp hb
  cases hbranches : runBranches (L.codecs.oracle env) (opts.args iterations) mainBranches {} with
  | error failure =>
    -- The benchmark that threw is one of those that return.
    obtain ⟨done, b, rest, hselected, hthrows, _⟩ := runBranches_error hbranches
    have hreturns := horacle b (by simp [hselected])
    exact absurd (hreturns.symm.trans hthrows) (by simp)
  | ok final =>
    obtain ⟨hran, results, hresults, hall⟩ := runBranches_ok hbranches
    have heq := eq_map_of_forall₂ hall horacle
    rw [main_of_ok hparse hbranches, hran, hresults, heq]
    rfl

/-- **The table**, as it is read back from either format. -/
theorem table_eq (hversions : L.versions.Clean) (help : StdString) :
    (if opts.csv ≠ 0 then parseCsv (main (L.codecs.oracle env) help (.ok opts)).stdout
      else parseBlocks (main (L.codecs.oracle env) help (.ok opts)).stdout) =
      some (((opts.args iterations).selected mainBranches).map fun b =>
        ⟨b.tag, b.version L.versions, iterations, b.reportedSize L.codecs p,
          (env b).clock.duration⟩) := by
  have hrows : ∀ b, Result.row iterations (Benchmark.expectedResult L.codecs env b) =
      ⟨b.tag, b.version L.versions, iterations, b.reportedSize L.codecs p,
        (env b).clock.duration⟩ := by
    intro b
    rw [← hpayload b]
    rfl
  have hclean : ∀ result ∈ ((opts.args iterations).selected mainBranches).map
      (Benchmark.expectedResult L.codecs env), Clean result := by
    intro result hresult
    obtain ⟨b, _, rfl⟩ := List.mem_map.mp hresult
    exact expectedResult_clean hversions b
  have hread := parse_printResults (opts.args iterations) hclean
  simp only [ParsedOptions.args_csv, ParsedOptions.args_iterations, List.map_map] at hread
  rw [main_eq hL hp hpayload hrun hnames hstrings help, hread]
  exact congrArg some (List.map_congr_left fun b _ => hrows b)

end Outcome

/-- `-i 2 -c -s yas,avro`. -/
def tableOptions : ParsedOptions :=
  { csv := 1, iterations := some 2, serializers := some (lit "yas,avro") }

theorem tableOptions_valid : ∀ name, tableOptions.Selects name → name ∈ validSerializers := by
  intro name hname
  have hpiece := mem_splitOn_iff.mpr hname
  have hsplit : (lit "yas,avro").splitOn comma = [lit "yas", lit "avro"] := by decide
  rw [hsplit] at hpiece
  simp only [List.mem_cons, List.not_mem_nil, or_false] at hpiece
  rcases hpiece with rfl | rfl <;> decide

/-- Two rows, over the formats of the libraries. -/
theorem table_eq_sample :
    parseCsv (main (Reference.libraries.codecs.oracle fun _ => Reference.sampleEnv) []
        (.ok tableOptions)).stdout =
      some [⟨lit "avro", [], 2, 4096, 0⟩, ⟨lit "yas", lit "7.0.2", 2, 33, 0⟩] := by
  have hversions : Reference.libraries.versions.Clean := by
    intro b
    cases b <;> decide
  have htable := table_eq Reference.libraries_lawful Reference.libraries_carries
    (fun _ => rfl : ∀ b : Benchmark, ((fun _ => Reference.sampleEnv) b).payload = Reference.sample)
    (⟨rfl, rfl, rfl⟩ : tableOptions.AsksForRun 2) tableOptions_valid
    (fun _ => Or.inr (by decide)) hversions []
  rw [if_pos (by decide)] at htable
  rw [htable]
  decide

end CppSerializers
