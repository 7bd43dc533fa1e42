import CppSerializers.Benchmarks.Dispatch
import CppSerializers.Program.Report

/-!
# The command line and `main`

`parse_args` checks the options that cxxopts has recognised and turns them into
`Args`; `main` runs the selected benchmarks one after another and prints their
results. The set of valid names, the pieces of the `-s` option, the names that
`main` compares with and the names the benchmarks give their results are four
independent texts of the source, and four definitions here.

The benchmarks enter through an `Oracle`: a benchmark either throws or returns a
result under its own name. `Codecs.oracle` is the oracle of the benchmark functions.

What `exit` and `return` leave behind is an `Outcome`. It also records which
benchmarks ran, with which number of iterations, and what `print_results` was
called with.

## Main definitions

* `ParsedOptions`, `parseArgs` — the recognised options and what they are turned into
* `validSerializers`, `mainBranches` — the two lists of names
* `Oracle`, `Codecs.oracle` — running a benchmark
* `runBranches`, `main` — the program

## Main results

* `mem_serializersOf` — membership in the set of `-s` is being a piece of its value
* `parseArgs_invalid`, `parseArgs_valid` — when the options are accepted
* `runBranches_ok`, `runBranches_error` — the branches when nothing throws, and when
  something does
* `runBranches_of_forall₂` — the branches when every benchmark returns
-/

namespace CppSerializers

open Foundation

/-- The options cxxopts has recognised: how often the flags were given, and the values of
the options that take one. -/
structure ParsedOptions where
  help : Nat := 0
  list : Nat := 0
  csv : Nat := 0
  iterations : Option Nat := none
  serializers : Option StdString := none
  deriving DecidableEq, Repr

/-- `valid_serializers`. -/
def validSerializers : Std.TreeSet StdString :=
  .ofList [lit "thrift-binary", lit "thrift-compact", lit "protobuf", lit "boost", lit "msgpack",
    lit "cereal", lit "avro", lit "capnproto", lit "flatbuffers", lit "yas", lit "yas-compact"]

/-- `EXIT_SUCCESS`. -/
def exitSuccess : Nat := 0

/-- `EXIT_FAILURE`. -/
def exitFailure : Nat := 1

/-- What a run of the program leaves behind. -/
structure Outcome where
  status : Nat
  stdout : StdString := []
  stderr : StdString := []
  /-- The benchmarks that were called, with their argument. -/
  ran : List (Benchmark × Nat) := []
  /-- The results `print_results` was called with. -/
  printed : Option (List Result) := none
  deriving DecidableEq, Repr

/-- `print_supported_serializers`: the heading goes to `std::cerr`, the names to `std::cout`. -/
def supportedHeading : StdString := line [] ++ line (lit "Supported serializers are:")

def supportedNames : StdString :=
  (validSerializers.toList.flatMap fun s => line (lit "  * " ++ s)) ++ line []

/-- `boost::split(serializers, value, boost::is_any_of(","))`, into a set. -/
def serializersOf (value : StdString) : Std.TreeSet StdString := .ofList (value.splitOn comma)

/-- The message for a command line without an iteration count. -/
def notAllOptions : StdString :=
  lit "Not all required option specified! Please run with -h for available options."

/-- The message for a name that is not valid. -/
def unsupported (serializer : StdString) : StdString :=
  line (lit "Serializer '" ++ serializer ++ lit "' is not supported by this benchmark.")

/-- `parse_args`, from what cxxopts returns or throws, and the text of its help. Where the
program exits, the outcome is on the left. -/
def parseArgs (help : StdString) (parsed : Except StdString ParsedOptions) :
    Except Outcome Args := do
  match parsed with
  -- An exception of cxxopts is caught, and its text printed.
  | .error what => throw { status := exitFailure, stderr := line what }
  | .ok opts =>
    -- Help goes before the list, and both before the missing iteration count.
    if opts.help ≠ 0 then throw { status := exitSuccess, stdout := line help }
    else if opts.list ≠ 0 then
      throw { status := exitSuccess, stdout := supportedNames, stderr := supportedHeading }
    else
      match opts.iterations with
      | none =>
        throw { status := exitFailure, stderr := line notAllOptions }
      | some iterations =>
        -- Without `-s` the set stays empty.
        let serializers := (opts.serializers.map serializersOf).getD {}
        -- The loop over the set stops at the first name that is not valid.
        match serializers.toList.find? fun s => !validSerializers.contains s with
        | some s =>
          throw {
            status := exitFailure
            stdout := supportedNames
            stderr := unsupported s ++ supportedHeading }
        | none => return { iterations, serializers, csv := opts.csv ≠ 0 }

/-! ## The benchmarks as an oracle -/

/-- Running a benchmark for a number of iterations either throws or returns a result that
carries the benchmark's own name. -/
structure Oracle where
  run : Benchmark → Nat → Except Exception Result
  name_eq : ∀ b n result, run b n = .ok result → result.name = b.tag

/-- The benchmark functions as an oracle. The clock and the memory are different in each. -/
def Codecs.oracle (c : Codecs) (env : Benchmark → Env) : Oracle where
  run b n := ((b.test c (env b)).run n).map Run.result
  name_eq b n result h := by
    cases hrun : (b.test c (env b)).run n with
    | error e =>
      rw [hrun] at h
      cases h
    | ok run =>
      rw [hrun] at h
      cases h
      exact Benchmark.name_eq hrun

/-! ## `main` -/

/-- The branches of `main`: the name each compares with, and the call it makes. -/
def mainBranches : List (StdString × Benchmark) :=
  [(lit "thrift-binary", .thriftBinary), (lit "thrift-compact", .thriftCompact),
    (lit "protobuf", .protobuf), (lit "capnproto", .capnproto), (lit "boost", .boost),
    (lit "msgpack", .msgpack), (lit "cereal", .cereal), (lit "avro", .avro),
    (lit "flatbuffers", .flatbuffers), (lit "yas", .yas), (lit "yas-compact", .yasCompact)]

/-- The condition of a branch. -/
def Args.selects (args : Args) (name : StdString) : Bool :=
  -- The empty set stands for all names.
  args.serializers.isEmpty || args.serializers.contains name

/-- What `main` has done so far: the calls made and the results pushed. -/
structure Progress where
  ran : List (Benchmark × Nat) := []
  results : List Result := []
  deriving DecidableEq, Repr

variable (oracle : Oracle)

/-- The body of the `try` block. An exception ends it, with what was done before. -/
def runBranches (args : Args) :
    List (StdString × Benchmark) → Progress → Except (Exception × Progress) Progress
  | [], progress => .ok progress
  | (name, b) :: branches, progress =>
    if args.selects name then
      let ran := progress.ran ++ [(b, args.iterations)]
      match oracle.run b args.iterations with
      -- The call was made, but no result is pushed.
      | .error exc => .error (exc, { progress with ran })
      | .ok result => runBranches args branches { ran, results := progress.results ++ [result] }
    else runBranches args branches progress

/-- `main`. -/
def main (help : StdString) (parsed : Except StdString ParsedOptions) : Outcome :=
  match parseArgs help parsed with
  | .error outcome => outcome
  | .ok args =>
    match runBranches oracle args mainBranches {} with
    -- The results of the benchmarks that returned are dropped.
    | .error (exc, progress) =>
      { status := exitFailure, stderr := line (lit "Error: " ++ exc.what), ran := progress.ran }
    | .ok progress =>
      { status := exitSuccess
        stdout := printResults args progress.results
        ran := progress.ran
        printed := some progress.results }

/-! ## The selection -/

/-- The name is selected: it is a valid name when `-s` was not given, and otherwise one of the
maximal comma-free pieces of the option's value. -/
def ParsedOptions.Selects (opts : ParsedOptions) (name : StdString) : Prop :=
  match opts.serializers with
  | none => name ∈ validSerializers
  | some value => IsPiece comma value name

/-- The options ask for a run: an iteration count, and neither help nor the list. -/
structure ParsedOptions.AsksForRun (opts : ParsedOptions) (iterations : Nat) : Prop where
  help_eq : opts.help = 0
  list_eq : opts.list = 0
  iterations_eq : opts.iterations = some iterations

theorem mem_serializersOf {value name : StdString} :
    name ∈ serializersOf value ↔ IsPiece comma value name := by
  rw [serializersOf, Std.TreeSet.mem_ofList, List.contains_iff_mem, mem_splitOn_iff]

/-- The set of `-s` is never empty, so it is never taken for an absent option. -/
theorem isEmpty_serializersOf (value : StdString) : (serializersOf value).isEmpty = false := by
  rw [serializersOf, Std.TreeSet.isEmpty_ofList, List.isEmpty_eq_false_iff]
  exact List.splitOn_ne_nil comma value

/-- The valid names are the tags of the benchmarks, and those are what `main` compares with. -/
theorem mem_validSerializers {name : StdString} :
    name ∈ validSerializers ↔ ∃ b : Benchmark, b.tag = name := by
  rw [validSerializers, Std.TreeSet.mem_ofList, List.contains_iff_mem]
  constructor
  · -- The two lists are in different orders.
    intro h
    simp only [List.mem_cons, List.not_mem_nil, or_false] at h
    rcases h with rfl | rfl | rfl | rfl | rfl | rfl | rfl | rfl | rfl | rfl | rfl
    exacts [⟨.thriftBinary, rfl⟩, ⟨.thriftCompact, rfl⟩, ⟨.protobuf, rfl⟩, ⟨.boost, rfl⟩,
      ⟨.msgpack, rfl⟩, ⟨.cereal, rfl⟩, ⟨.avro, rfl⟩, ⟨.capnproto, rfl⟩, ⟨.flatbuffers, rfl⟩,
      ⟨.yas, rfl⟩, ⟨.yasCompact, rfl⟩]
  · rintro ⟨b, rfl⟩
    cases b <;> decide

/-- Every branch compares with the tag of the benchmark it calls. -/
theorem mainBranches_eq :
    mainBranches = (mainBranches.map Prod.snd).map fun b => (b.tag, b) := rfl

theorem mem_mainBranches (b : Benchmark) : b ∈ mainBranches.map Prod.snd := by
  cases b <;> decide

/-- The arguments a valid command line is turned into. -/
def ParsedOptions.args (opts : ParsedOptions) (iterations : Nat) : Args where
  iterations := iterations
  serializers := (opts.serializers.map serializersOf).getD {}
  csv := opts.csv ≠ 0

variable {opts : ParsedOptions} {iterations : Nat} {help : StdString}

@[simp] theorem ParsedOptions.args_iterations : (opts.args iterations).iterations = iterations :=
  rfl

@[simp] theorem ParsedOptions.args_csv : (opts.args iterations).csv = true ↔ opts.csv ≠ 0 :=
  decide_eq_true_iff

/-- The branch of a name is taken exactly when the name is selected. -/
theorem args_selects {name : StdString} (hvalid : name ∈ validSerializers) :
    (opts.args iterations).selects name = true ↔ opts.Selects name := by
  cases hs : opts.serializers with
  | none => simp [Args.selects, ParsedOptions.args, ParsedOptions.Selects, hs, hvalid]
  | some value =>
    have hmem : (serializersOf value).contains name = true ↔ IsPiece comma value name :=
      mem_serializersOf
    simp [Args.selects, ParsedOptions.args, ParsedOptions.Selects, hs, isEmpty_serializersOf, hmem]

/-- The names the loop of `parse_args` goes through are the pieces of `-s`. -/
theorem mem_args_toList {name : StdString} :
    name ∈ (opts.args iterations).serializers.toList ↔
      opts.serializers.isSome ∧ opts.Selects name := by
  rw [Std.TreeSet.mem_toList]
  cases hs : opts.serializers with
  | none => simp [ParsedOptions.args, hs]
  | some value => simp [ParsedOptions.args, ParsedOptions.Selects, hs, mem_serializersOf]

/-- What is left of `parse_args` for options that ask for a run. -/
theorem parseArgs_eq (hrun : opts.AsksForRun iterations) :
    parseArgs help (.ok opts) =
      match (opts.args iterations).serializers.toList.find?
          fun s => !validSerializers.contains s with
      | some s => .error {
          status := exitFailure
          stdout := supportedNames
          stderr := unsupported s ++ supportedHeading }
      | none => .ok (opts.args iterations) := by
  simp only [parseArgs, hrun.help_eq, hrun.list_eq, hrun.iterations_eq]
  rfl

/-- Some name of `-s` is not valid: the program exits, naming such a one. -/
theorem parseArgs_invalid (help : StdString) (hrun : opts.AsksForRun iterations) {name : StdString}
    (hname : opts.Selects name) (hinvalid : name ∉ validSerializers) :
    ∃ s, opts.Selects s ∧ s ∉ validSerializers ∧
      parseArgs help (.ok opts) = .error {
        status := exitFailure
        stdout := supportedNames
        stderr := unsupported s ++ supportedHeading } := by
  have hsome : opts.serializers.isSome := by
    by_contra hnone
    rw [ParsedOptions.Selects, Option.not_isSome_iff_eq_none.mp hnone] at hname
    exact hinvalid hname
  rw [parseArgs_eq hrun]
  cases hfind : (opts.args iterations).serializers.toList.find?
      fun s => !validSerializers.contains s with
  | none =>
    have hall := List.find?_eq_none.mp hfind name (mem_args_toList.mpr ⟨hsome, hname⟩)
    exact absurd (by simpa using hall) hinvalid
  | some s =>
    have hmem := mem_args_toList.mp (List.mem_of_find?_eq_some hfind)
    have hs : validSerializers.contains s = false := by simpa using List.find?_some hfind
    refine ⟨s, hmem.2, fun hvalid => ?_, rfl⟩
    rw [Std.TreeSet.mem_iff_contains, hs] at hvalid
    exact absurd hvalid (by decide)

/-- All names of `-s` are valid, or it was not given: the options are accepted. -/
theorem parseArgs_valid (help : StdString) (hrun : opts.AsksForRun iterations)
    (hvalid : ∀ name, opts.Selects name → name ∈ validSerializers) :
    parseArgs help (.ok opts) = .ok (opts.args iterations) := by
  have hfind : (opts.args iterations).serializers.toList.find?
      (fun s => !validSerializers.contains s) = none := by
    rw [List.find?_eq_none]
    intro s hs
    simpa using hvalid s (mem_args_toList.mp hs).2
  rw [parseArgs_eq hrun, hfind]

/-! ## The branches -/

/-- The benchmarks whose branch is taken, in the order of `main`. -/
def Args.selected (args : Args) (branches : List (StdString × Benchmark)) : List Benchmark :=
  (branches.filter fun branch => args.selects branch.1).map Prod.snd

variable {oracle} {args : Args}

theorem selected_cons_pos {name : StdString} {b : Benchmark} (h : args.selects name = true)
    (branches : List (StdString × Benchmark)) :
    args.selected ((name, b) :: branches) = b :: args.selected branches := by
  simp [Args.selected, h]

theorem selected_cons_neg {name : StdString} {b : Benchmark} (h : ¬args.selects name = true)
    (branches : List (StdString × Benchmark)) :
    args.selected ((name, b) :: branches) = args.selected branches := by
  simp [Args.selected, h]

/-- Every branch compares with the tag of its benchmark, so the branches select by tag. -/
theorem selected_mainBranches :
    args.selected mainBranches =
      (mainBranches.map Prod.snd).filter fun b => args.selects b.tag := by
  rw [Args.selected]
  -- Only on the left: on the right the branches are filtered by their tags already.
  conv_lhs => rw [mainBranches_eq, List.filter_map, List.map_map]
  simp [Function.comp_def]

/-- The tags of the selected benchmarks are the selected names, in the order of `main`. -/
theorem map_tag_selected :
    (args.selected mainBranches).map Benchmark.tag =
      (mainBranches.map Prod.fst).filter args.selects := by
  have hnames : mainBranches.map Prod.fst = (mainBranches.map Prod.snd).map Benchmark.tag := rfl
  rw [selected_mainBranches, hnames]
  generalize mainBranches.map Prod.snd = branches
  rw [List.filter_map]
  rfl

/-- The selected benchmarks are those whose tag is selected. -/
theorem mem_selected {b : Benchmark} :
    b ∈ (opts.args iterations).selected mainBranches ↔ opts.Selects b.tag := by
  have htag : b.tag ∈ validSerializers := mem_validSerializers.mpr ⟨b, rfl⟩
  rw [selected_mainBranches, List.mem_filter, args_selects htag]
  exact and_iff_right (mem_mainBranches b)

/-- The names `main` compares with are the valid names. -/
theorem mem_map_fst_mainBranches {name : StdString} :
    name ∈ mainBranches.map Prod.fst ↔ name ∈ validSerializers := by
  have hnames : mainBranches.map Prod.fst = (mainBranches.map Prod.snd).map Benchmark.tag := rfl
  rw [hnames, mem_validSerializers, List.mem_map]
  constructor
  · rintro ⟨b, _, rfl⟩
    exact ⟨b, rfl⟩
  · rintro ⟨b, rfl⟩
    exact ⟨b, mem_mainBranches b, rfl⟩

/-- **Nothing throws**: every selected benchmark is called once, in order, and its result is
pushed. -/
theorem runBranches_ok {branches : List (StdString × Benchmark)} {progress final : Progress}
    (h : runBranches oracle args branches progress = .ok final) :
    final.ran = progress.ran ++ (args.selected branches).map (·, args.iterations) ∧
      ∃ results, final.results = progress.results ++ results ∧
        List.Forall₂ (fun b result => oracle.run b args.iterations = .ok result)
          (args.selected branches) results := by
  -- On the branches that are left; what was done before them only grows at its end.
  induction branches generalizing progress with
  | nil =>
    cases h
    exact ⟨by simp [Args.selected], [], by simp, .nil⟩
  | cons branch branches ih =>
    obtain ⟨name, b⟩ := branch
    rw [runBranches] at h
    by_cases hselects : args.selects name = true
    · rw [if_pos hselects] at h
      cases hresult : oracle.run b args.iterations with
      | error exc => simp [hresult] at h
      | ok result =>
        simp only [hresult] at h
        obtain ⟨hran, results, hresults, hall⟩ := ih h
        rw [selected_cons_pos hselects]
        exact ⟨by simpa using hran, result :: results, by simpa using hresults,
          .cons hresult hall⟩
    · rw [if_neg hselects] at h
      rw [selected_cons_neg hselects]
      exact ih h

/-- When every selected benchmark returns, the branches do, with their results. -/
theorem runBranches_of_forall₂ {branches : List (StdString × Benchmark)} {results : List Result}
    (h : List.Forall₂ (fun b result => oracle.run b args.iterations = .ok result)
      (args.selected branches) results) (progress : Progress) :
    runBranches oracle args branches progress = .ok {
      ran := progress.ran ++ (args.selected branches).map (·, args.iterations)
      results := progress.results ++ results } := by
  induction branches generalizing progress results with
  | nil =>
    cases h
    simp [runBranches, Args.selected]
  | cons branch branches ih =>
    obtain ⟨name, b⟩ := branch
    by_cases hselects : args.selects name = true
    · rw [selected_cons_pos hselects] at h ⊢
      obtain _ | ⟨hresult, hrest⟩ := h
      rw [runBranches, if_pos hselects, hresult]
      simp [ih hrest]
    · rw [selected_cons_neg hselects] at h ⊢
      rw [runBranches, if_neg hselects, ih h]

/-- **Something throws**: the selected benchmarks before it have returned, and it is the last
one called. -/
theorem runBranches_error {branches : List (StdString × Benchmark)} {progress final : Progress}
    {exc : Exception} (h : runBranches oracle args branches progress = .error (exc, final)) :
    ∃ done b rest, args.selected branches = done ++ b :: rest ∧
      oracle.run b args.iterations = .error exc ∧
      (∀ b' ∈ done, ∃ result, oracle.run b' args.iterations = .ok result) ∧
      final.ran = progress.ran ++ (done ++ [b]).map (·, args.iterations) := by
  induction branches generalizing progress with
  | nil => cases h
  | cons branch branches ih =>
    obtain ⟨name, b⟩ := branch
    rw [runBranches] at h
    by_cases hselects : args.selects name = true
    · rw [if_pos hselects] at h
      cases hresult : oracle.run b args.iterations with
      | error e =>
        simp only [hresult, Except.error.injEq, Prod.mk.injEq] at h
        obtain ⟨rfl, rfl⟩ := h
        exact ⟨[], b, args.selected branches, selected_cons_pos hselects _, hresult, by simp,
          by simp⟩
      | ok result =>
        simp only [hresult] at h
        obtain ⟨done, b', rest, hselected, hthrow, hdone, hran⟩ := ih h
        refine ⟨b :: done, b', rest, ?_, hthrow, ?_, by simpa using hran⟩
        · rw [selected_cons_pos hselects, hselected, List.cons_append]
        · exact List.forall_mem_cons.mpr ⟨⟨result, hresult⟩, hdone⟩
    · rw [if_neg hselects] at h
      rw [selected_cons_neg hselects]
      exact ih h

/-! ## The outcome -/

variable {parsed : Except StdString ParsedOptions} {final : Progress}

theorem main_of_exit {outcome : Outcome} (hparse : parseArgs help parsed = .error outcome) :
    main oracle help parsed = outcome := by
  rw [main, hparse]

theorem main_of_ok (hparse : parseArgs help parsed = .ok args)
    (hbranches : runBranches oracle args mainBranches {} = .ok final) :
    main oracle help parsed =
      { status := exitSuccess
        stdout := printResults args final.results
        ran := final.ran
        printed := some final.results } := by
  simp only [main, hparse, hbranches]

theorem main_of_error {exc : Exception} (hparse : parseArgs help parsed = .ok args)
    (hbranches : runBranches oracle args mainBranches {} = .error (exc, final)) :
    main oracle help parsed =
      { status := exitFailure
        stderr := line (lit "Error: " ++ exc.what)
        ran := final.ran } := by
  simp only [main, hparse, hbranches]

end CppSerializers
