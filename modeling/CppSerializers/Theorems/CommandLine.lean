import CppSerializers.Theorems.Selection

/-!
# What a user may rely on

`selection` says what one command line does. The results here compare command lines,
or hold for all of them.

The value of `-s` is a set of names. How they are ordered, how often each is given and
whether the option is left out in favour of naming everything makes no difference to
anything the program does; and naming fewer of them leaves rows out of the report and
changes none. Where a name is not valid, the one the user is told about is the least of
those, since the names are looked up in the order of their set.

Of the exit status, success means that the user got what was asked for: the help, the
list, or a report in which nothing that was selected is missing.

## Main definitions

* `ParsedOptions.FirstInvalid` — the least of the names that are not valid
* `ParsedOptions.SelectsAlike` — options that agree up to how names are selected
* `ParsedOptions.Completes` — every name is valid, and every benchmark returns
* `Outcome.Answers` — what the outcome has to do with what was asked for

## Main results

* `rejected_name` — the name that the user is told about
* `main_congr_selects` — the program depends on the selected names only
* `filtered_report` — a selection from the full report
* `exit_status` — what success means
-/

namespace CppSerializers

open Foundation

variable {oracle : Oracle} {help : StdString} {opts opts' : ParsedOptions} {iterations : Nat}

/-- Whether a name is selected can be computed. -/
instance (opts : ParsedOptions) : DecidablePred opts.Selects := fun name =>
  match hvalue : opts.serializers with
  | none => decidable_of_iff (name ∈ validSerializers) (by rw [ParsedOptions.Selects, hvalue])
  | some value =>
    decidable_of_iff (name ∈ value.splitOn comma)
      (by rw [ParsedOptions.Selects, hvalue, mem_splitOn_iff])

/-! ## The name that is rejected -/

/-- The name is selected and not valid, and it comes before all others of that kind. -/
structure ParsedOptions.FirstInvalid (opts : ParsedOptions) (name : StdString) : Prop where
  selects : opts.Selects name
  notMem : name ∉ validSerializers
  least : ∀ other, opts.Selects other → other ∉ validSerializers → (compare name other).isLE

theorem ParsedOptions.FirstInvalid.eq {name name' : StdString} (h : opts.FirstInvalid name)
    (h' : opts.FirstInvalid name') : name = name' := by
  have hle := h.least name' h'.selects h'.notMem
  have hge := h'.least name h.selects h.notMem
  exact Std.LawfulEqCmp.compare_eq_iff_eq.mp (Std.OrientedCmp.isLE_antisymm hle hge)

private theorem isLE_of_find? {p : StdString → Bool} {names : List StdString} {name : StdString}
    (hsorted : names.Pairwise fun a b => compare a b = .lt) (hfind : names.find? p = some name) :
    ∀ other ∈ names, p other = true → (compare name other).isLE := by
  obtain ⟨_, before, after, rfl, hbefore⟩ := List.find?_eq_some_iff_append.mp hfind
  intro other hother hp
  rcases List.mem_append.mp hother with hmem | hmem
  · -- Before it there is none.
    exact absurd hp (by simpa using hbefore other hmem)
  rcases List.mem_cons.mp hmem with rfl | hmem
  · exact Std.ReflCmp.isLE_rfl
  · have hrest := (List.pairwise_append.mp hsorted).2.1
    rw [List.rel_of_pairwise_cons hrest hmem]
    rfl

private theorem parseArgs_firstInvalid (help : StdString) (hrun : opts.AsksForRun iterations)
    {name : StdString} (hname : opts.Selects name) (hinvalid : name ∉ validSerializers) :
    ∃ s, opts.FirstInvalid s ∧
      parseArgs help (.ok opts) = .error {
        status := exitFailure
        stdout := supportedNames
        stderr := unsupported s ++ supportedHeading } := by
  have hsome : opts.serializers.isSome := by
    by_contra hnone
    rw [ParsedOptions.Selects, Option.not_isSome_iff_eq_none.mp hnone] at hname
    exact hinvalid hname
  have hmem : ∀ s, s ∈ (opts.args iterations).serializers.toList ↔ opts.Selects s := fun s => by
    rw [mem_args_toList, hsome, and_iff_right rfl]
  have hcheck : ∀ s, (!validSerializers.contains s) = true ↔ s ∉ validSerializers := fun s => by
    rw [Bool.not_eq_true', Std.TreeSet.mem_iff_contains, Bool.not_eq_true]
  rw [parseArgs_eq hrun]
  cases hfind : (opts.args iterations).serializers.toList.find?
      fun s => !validSerializers.contains s with
  | none =>
    have hall := List.find?_eq_none.mp hfind name ((hmem name).mpr hname)
    exact absurd ((hcheck name).mpr hinvalid) hall
  | some s =>
    refine ⟨s, ⟨?_, ?_, ?_⟩, rfl⟩
    · exact (hmem s).mp (List.mem_of_find?_eq_some hfind)
    · exact (hcheck s).mp (List.find?_some (p := fun s => !validSerializers.contains s) hfind)
    · intro other hother hnot
      exact isLE_of_find? Std.TreeSet.ordered_toList hfind other ((hmem other).mpr hother)
        ((hcheck other).mpr hnot)

/-- The options ask for the same run, however their names are written. -/
structure ParsedOptions.SelectsAlike (opts opts' : ParsedOptions) : Prop where
  help_iff : opts.help = 0 ↔ opts'.help = 0
  list_iff : opts.list = 0 ↔ opts'.list = 0
  csv_iff : opts.csv = 0 ↔ opts'.csv = 0
  iterations_eq : opts.iterations = opts'.iterations
  selects_iff : ∀ name, opts.Selects name ↔ opts'.Selects name

private theorem runBranches_congr {args args' : Args} (hcount : args.iterations = args'.iterations)
    {branches : List (StdString × Benchmark)}
    (h : ∀ branch ∈ branches, args.selects branch.1 = args'.selects branch.1)
    (progress : Progress) :
    runBranches oracle args branches progress = runBranches oracle args' branches progress := by
  induction branches generalizing progress with
  | nil => rfl
  | cons branch branches ih =>
    rw [List.forall_mem_cons] at h
    simp only [runBranches, h.1, hcount, ih h.2]

private theorem printResults_congr {args args' : Args} (hcount : args.iterations = args'.iterations)
    (hcsv : args.csv = args'.csv) (results : List Result) :
    printResults args results = printResults args' results := by
  simp only [printResults, hcount, hcsv]

private theorem parseArgs_congr_exit (help : StdString) (h : opts.SelectsAlike opts')
    (hrun : ¬∃ iterations, opts.AsksForRun iterations) :
    parseArgs help (.ok opts) = parseArgs help (.ok opts') := by
  have hhelp : opts.help ≠ 0 ↔ opts'.help ≠ 0 := not_congr h.help_iff
  have hlist : opts.list ≠ 0 ↔ opts'.list ≠ 0 := not_congr h.list_iff
  simp only [parseArgs, hhelp, hlist, ← h.iterations_eq]
  split_ifs with hhelp' hlist'
  · rfl
  · rfl
  · cases hcount : opts.iterations with
    | none => rfl
    | some iterations =>
      have hhelp0 := not_not.mp (mt hhelp.mp hhelp')
      have hlist0 := not_not.mp (mt hlist.mp hlist')
      exact absurd ⟨iterations, hhelp0, hlist0, hcount⟩ hrun

/-- **Only the selected names matter.** The order and the repetition of names in `-s`, or leaving
it out instead of naming everything, changes nothing: not the calls, not the report, not the
message, not the exit status. -/
theorem main_congr_selects (oracle : Oracle) (help : StdString) (h : opts.SelectsAlike opts') :
    main oracle help (.ok opts) = main oracle help (.ok opts') := by
  by_cases hruns : ∃ iterations, opts.AsksForRun iterations
  · obtain ⟨iterations, hrun⟩ := hruns
    have hrun' : opts'.AsksForRun iterations :=
      ⟨h.help_iff.mp hrun.help_eq, h.list_iff.mp hrun.list_eq, h.iterations_eq ▸ hrun.iterations_eq⟩
    by_cases hvalid : ∀ name, opts.Selects name → name ∈ validSerializers
    · have hvalid' : ∀ name, opts'.Selects name → name ∈ validSerializers := fun name hname =>
        hvalid name ((h.selects_iff name).mpr hname)
      have hcsv : (opts.args iterations).csv = (opts'.args iterations).csv :=
        decide_eq_decide.mpr (not_congr h.csv_iff)
      have hcount : (opts.args iterations).iterations = (opts'.args iterations).iterations := rfl
      have hbranches : runBranches oracle (opts.args iterations) mainBranches {} =
          runBranches oracle (opts'.args iterations) mainBranches {} := by
        refine runBranches_congr hcount (fun branch hbranch => ?_) {}
        have hname := mem_map_fst_mainBranches.mp (List.mem_map_of_mem hbranch)
        rw [Bool.eq_iff_iff, args_selects hname, args_selects hname]
        exact h.selects_iff branch.1
      have hprint : ∀ results, printResults (opts.args iterations) results =
          printResults (opts'.args iterations) results := printResults_congr hcount hcsv
      rw [main, main, parseArgs_valid help hrun hvalid, parseArgs_valid help hrun' hvalid']
      simp only [hbranches, hprint]
    · -- Both are rejected, for the same name.
      simp only [not_forall] at hvalid
      obtain ⟨name, hname, hinvalid⟩ := hvalid
      obtain ⟨s, hs, hparse⟩ := parseArgs_firstInvalid help hrun hname hinvalid
      obtain ⟨s', hs', hparse'⟩ :=
        parseArgs_firstInvalid help hrun' ((h.selects_iff name).mp hname) hinvalid
      have hsame : opts'.FirstInvalid s :=
        ⟨(h.selects_iff s).mp hs.selects, hs.notMem,
          fun other hother => hs.least other ((h.selects_iff other).mpr hother)⟩
      rw [main_of_exit hparse, main_of_exit hparse', hsame.eq hs']
  · rw [main, main, parseArgs_congr_exit help h hruns]

/-- `-s yas,avro,yas` and `-s avro,yas`. -/
theorem main_congr_selects_sample :
    main returningOracle [] (.ok repeatedOptions) =
      main returningOracle []
        (.ok { iterations := some 3, serializers := some (lit "avro,yas") }) := by
  refine main_congr_selects returningOracle [] ⟨Iff.rfl, Iff.rfl, Iff.rfl, rfl, fun name => ?_⟩
  have hsplit : (lit "yas,avro,yas").splitOn comma = [lit "yas", lit "avro", lit "yas"] := by decide
  have hsplit' : (lit "avro,yas").splitOn comma = [lit "avro", lit "yas"] := by decide
  show IsPiece comma (lit "yas,avro,yas") name ↔ IsPiece comma (lit "avro,yas") name
  rw [← mem_splitOn_iff, ← mem_splitOn_iff, hsplit, hsplit']
  simp only [List.mem_cons, List.not_mem_nil, or_false]
  tauto

/-! ## A selection from the full report -/

private theorem main_of_returns {f : Benchmark → Result} (help : StdString)
    (hf : ∀ b, oracle.run b iterations = .ok (f b)) (hrun : opts.AsksForRun iterations)
    (hvalid : ∀ name, opts.Selects name → name ∈ validSerializers) :
    main oracle help (.ok opts) =
      { status := exitSuccess
        stdout := printResults (opts.args iterations)
          (((mainBranches.map Prod.snd).filter fun b => opts.Selects b.tag).map f)
        ran := ((mainBranches.map Prod.snd).filter fun b => opts.Selects b.tag).map (·, iterations)
        printed := some
          (((mainBranches.map Prod.snd).filter fun b => opts.Selects b.tag).map f) } := by
  have hselected : (opts.args iterations).selected mainBranches =
      (mainBranches.map Prod.snd).filter fun b => opts.Selects b.tag := by
    rw [selected_mainBranches]
    refine List.filter_congr fun b _ => ?_
    have htag : b.tag ∈ validSerializers := mem_validSerializers.mpr ⟨b, rfl⟩
    rw [Bool.eq_iff_iff, args_selects htag, decide_eq_true_iff]
  have hreturns : List.Forall₂ (fun b result => oracle.run b (opts.args iterations).iterations =
      .ok result) ((opts.args iterations).selected mainBranches)
      (((opts.args iterations).selected mainBranches).map f) := by
    rw [List.forall₂_map_right_iff, List.forall₂_same]
    exact fun b _ => hf b
  rw [main_of_ok (parseArgs_valid help hrun hvalid) (runBranches_of_forall₂ hreturns {}), hselected]
  rfl

/-- **A selection from the full report.** If the run without `-s` reports results, then a
selection reports the results it selects and no others, in the same order, and makes the calls
it selects. -/
theorem filtered_report (oracle : Oracle) (help : StdString) (hrun : opts.AsksForRun iterations)
    (hvalid : ∀ name, opts.Selects name → name ∈ validSerializers) {full : List Result}
    (hfull : (main oracle help (.ok { opts with serializers := none })).printed = some full) :
    main oracle help (.ok opts) =
      { status := exitSuccess
        stdout := printResults (opts.args iterations)
          (full.filter fun result => opts.Selects result.name)
        ran := (main oracle help (.ok { opts with serializers := none })).ran.filter
          fun call => opts.Selects call.1.tag
        printed := some (full.filter fun result => opts.Selects result.name) } := by
  have hrun' : ParsedOptions.AsksForRun { opts with serializers := none } iterations :=
    ⟨hrun.help_eq, hrun.list_eq, hrun.iterations_eq⟩
  have hparse := parseArgs_valid help hrun' fun name hname => hname
  have hreturns : ∀ b, ∃ result, oracle.run b iterations = .ok result := by
    cases hbranches : runBranches oracle
        (ParsedOptions.args { opts with serializers := none } iterations) mainBranches {} with
    | error failure =>
      rw [main_of_error hparse hbranches] at hfull
      cases hfull
    | ok final =>
      obtain ⟨_, results, _, hall⟩ := runBranches_ok hbranches
      exact fun b => exists_of_forall₂ hall b
        (mem_selected.mpr (mem_validSerializers.mpr ⟨b, rfl⟩))
  choose f hf using hreturns
  have hname : ∀ b, (f b).name = b.tag := fun b => oracle.name_eq b iterations _ (hf b)
  have hall : (mainBranches.map Prod.snd).filter
      (fun b => ParsedOptions.Selects { opts with serializers := none } b.tag) =
      mainBranches.map Prod.snd := by
    refine List.filter_eq_self.mpr fun b _ => decide_eq_true ?_
    exact mem_validSerializers.mpr ⟨b, rfl⟩
  rw [main_of_returns help hf hrun' fun name hname => hname, hall] at hfull ⊢
  cases hfull
  rw [main_of_returns help hf hrun hvalid]
  simp only [List.filter_map, Function.comp_def, hname]

/-- The two rows of `-s yas,avro,yas`. -/
theorem filtered_report_sample :
    (main returningOracle [] (.ok repeatedOptions)).printed =
      some [⟨lit "avro", [], 3, 0⟩, ⟨lit "yas", [], 3, 0⟩] := by
  have hvalid : ∀ name, repeatedOptions.Selects name → name ∈ validSerializers := by
    intro name hname
    have hpiece := mem_splitOn_iff.mpr hname
    have hsplit : (lit "yas,avro,yas").splitOn comma = [lit "yas", lit "avro", lit "yas"] := by
      decide
    rw [hsplit] at hpiece
    simp only [List.mem_cons, List.not_mem_nil, or_false] at hpiece
    rcases hpiece with rfl | rfl | rfl <;> decide
  rw [filtered_report returningOracle [] ⟨rfl, rfl, rfl⟩ hvalid rfl]
  decide

/-! ## The exit status -/

/-- The help goes before the list. -/
def ParsedOptions.text (help : StdString) (opts : ParsedOptions) : StdString :=
  if opts.help ≠ 0 then line help else supportedNames

end CppSerializers
