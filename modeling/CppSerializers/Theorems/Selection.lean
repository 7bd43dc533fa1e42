import CppSerializers.Program.Main

/-!
# Selection and report of a whole run

For every command line that asks for a run, with or without `-s` and whatever its
value is, one of three things happens. A name that is not valid makes the program
exit before any benchmark runs. Otherwise the selected benchmarks run in the order of
`main`, each once; if all return, their results are reported, one for each selected
name; if one throws, nothing is reported.

## Main definitions

* `Outcome.Rejects`, `Outcome.Reports`, `Outcome.Aborts` — the three kinds of outcome

## Main results

* `selection` — when each of them occurs
-/

namespace CppSerializers

open Foundation

variable (oracle : Oracle) (opts : ParsedOptions) (iterations : Nat)

/-- The program failed before any benchmark ran. -/
structure Outcome.Rejects (outcome : Outcome) : Prop where
  status_eq : outcome.status = exitFailure
  ran_eq : outcome.ran = []
  printed_eq : outcome.printed = none

/-- The results of the selected benchmarks were reported. -/
structure Outcome.Reports (outcome : Outcome) (results : List Result) : Prop where
  status_eq : outcome.status = exitSuccess
  printed_eq : outcome.printed = some results
  stdout_eq : outcome.stdout = printResults (opts.args iterations) results
  /-- The names are reported in the order of `main`. -/
  order : (results.map Result.name).Sublist (mainBranches.map Prod.fst)
  /-- No name is reported twice. -/
  nodup : (results.map Result.name).Nodup
  /-- A name is reported exactly when it is selected. -/
  mem_iff : ∀ name, name ∈ results.map Result.name ↔ opts.Selects name
  /-- The benchmarks that ran are those of the reported names, each once. -/
  ran_eq : outcome.ran.map (fun call => call.1.tag) = results.map Result.name
  /-- Each ran with the given iteration count. -/
  count_eq : ∀ call ∈ outcome.ran, call.2 = iterations
  /-- Each result is what its benchmark returned. -/
  returned : List.Forall₂ (fun call result => oracle.run call.1 call.2 = .ok result)
    outcome.ran results

/-- A selected benchmark threw, and nothing was reported. -/
structure Outcome.Aborts (outcome : Outcome) : Prop where
  status_eq : outcome.status = exitFailure
  printed_eq : outcome.printed = none
  stdout_eq : outcome.stdout = []
  /-- The exception is reported, and the benchmarks called before it had returned. -/
  thrown : ∃ done b exc, opts.Selects b.tag ∧ oracle.run b iterations = .error exc ∧
    outcome.stderr = line (lit "Error: " ++ exc.what) ∧
    outcome.ran = (done ++ [b]).map (·, iterations) ∧
    ∀ b' ∈ done, opts.Selects b'.tag ∧ ∃ result, oracle.run b' iterations = .ok result

variable {oracle opts iterations} {help : StdString}

private theorem map_name_eq {bs : List Benchmark} {results : List Result}
    (h : List.Forall₂ (fun b result => oracle.run b iterations = .ok result) bs results) :
    results.map Result.name = bs.map Benchmark.tag := by
  induction h with
  | nil => rfl
  | cons hrun _ ih => rw [List.map_cons, List.map_cons, ih, oracle.name_eq _ _ _ hrun]

theorem exists_of_forall₂ {α β : Type} {R : α → β → Prop} {as : List α} {bs : List β}
    (h : List.Forall₂ R as bs) : ∀ a ∈ as, ∃ b, R a b := by
  induction h with
  | nil => simp
  | cons hab _ ih => exact List.forall_mem_cons.mpr ⟨⟨_, hab⟩, ih⟩

/-- When the branches return, the results of the selected benchmarks are reported. -/
theorem reports_of_ok {final : Progress}
    (hvalid : ∀ name, opts.Selects name → name ∈ validSerializers)
    (hparse : parseArgs help (.ok opts) = .ok (opts.args iterations))
    (hbranches : runBranches oracle (opts.args iterations) mainBranches {} = .ok final) :
    (main oracle help (.ok opts)).Reports oracle opts iterations final.results := by
  obtain ⟨hran, results, hresults, hall⟩ := runBranches_ok hbranches
  rw [List.nil_append] at hran hresults
  have hnames : final.results.map Result.name =
      (mainBranches.map Prod.fst).filter (opts.args iterations).selects := by
    rw [hresults, map_name_eq hall, map_tag_selected]
  rw [main_of_ok hparse hbranches]
  refine ⟨rfl, rfl, rfl, ?_, ?_, ?_, ?_, ?_, ?_⟩
  · rw [hnames]
    exact List.filter_sublist
  · rw [hnames]
    exact List.Nodup.filter _ (by decide)
  · intro name
    rw [hnames, List.mem_filter, mem_map_fst_mainBranches]
    constructor
    · rintro ⟨hname, hselects⟩
      exact (args_selects hname).mp hselects
    · intro hselects
      exact ⟨hvalid name hselects, (args_selects (hvalid name hselects)).mpr hselects⟩
  · rw [hresults, map_name_eq hall, hran, List.map_map]
    rfl
  · intro call hcall
    rw [hran] at hcall
    obtain ⟨b, _, rfl⟩ := List.mem_map.mp hcall
    rfl
  · rw [hran, hresults, List.forall₂_map_left_iff]
    exact hall

private theorem aborts_of_error {final : Progress} {exc : Exception}
    (hparse : parseArgs help (.ok opts) = .ok (opts.args iterations))
    (hbranches : runBranches oracle (opts.args iterations) mainBranches {} = .error (exc, final)) :
    (main oracle help (.ok opts)).Aborts oracle opts iterations := by
  obtain ⟨done, b, rest, hselected, hthrows, hdone, hran⟩ := runBranches_error hbranches
  have hmem : ∀ x, x ∈ done ++ b :: rest → opts.Selects x.tag := by
    intro x hx
    rw [← hselected] at hx
    exact mem_selected.mp hx
  rw [main_of_error hparse hbranches]
  refine ⟨rfl, rfl, rfl, done, b, exc, hmem b (by simp), hthrows, rfl, hran, ?_⟩
  intro x hx
  exact ⟨hmem x (by simp [hx]), hdone x hx⟩

/-- **Selection.** What the program does on a command line that asks for a run. -/
theorem selection (oracle : Oracle) (help : StdString) {opts : ParsedOptions} {iterations : Nat}
    (hrun : opts.AsksForRun iterations) :
    ((∃ value piece, opts.serializers = some value ∧ IsPiece comma value piece ∧
        piece ∉ validSerializers) →
      (main oracle help (.ok opts)).Rejects) ∧
    ((¬∃ value piece, opts.serializers = some value ∧ IsPiece comma value piece ∧
        piece ∉ validSerializers) →
      ((∀ b, opts.Selects b.tag → ∃ result, oracle.run b iterations = .ok result) →
        ∃ results, (main oracle help (.ok opts)).Reports oracle opts iterations results) ∧
      ((∃ b exc, opts.Selects b.tag ∧ oracle.run b iterations = .error exc) →
        (main oracle help (.ok opts)).Aborts oracle opts iterations)) := by
  constructor
  · rintro ⟨value, piece, hvalue, hpiece, hinvalid⟩
    have hselects : opts.Selects piece := by rwa [ParsedOptions.Selects, hvalue]
    obtain ⟨s, _, _, hparse⟩ := parseArgs_invalid help hrun hselects hinvalid
    rw [main_of_exit hparse]
    exact ⟨rfl, rfl, rfl⟩
  · intro hnone
    -- Without an invalid piece every selected name is valid.
    have hvalid : ∀ name, opts.Selects name → name ∈ validSerializers := by
      intro name hname
      cases hvalue : opts.serializers with
      | none => rwa [ParsedOptions.Selects, hvalue] at hname
      | some value =>
        rw [ParsedOptions.Selects, hvalue] at hname
        by_contra hinvalid
        exact hnone ⟨value, name, hvalue, hname, hinvalid⟩
    have hparse := parseArgs_valid help hrun hvalid
    cases hbranches : runBranches oracle (opts.args iterations) mainBranches {} with
    | ok final =>
      refine ⟨fun _ => ⟨final.results, reports_of_ok hvalid hparse hbranches⟩, ?_⟩
      -- No selected benchmark can have thrown.
      rintro ⟨b, exc, hb, hthrows⟩
      obtain ⟨_, results, _, hall⟩ := runBranches_ok hbranches
      obtain ⟨result, hresult⟩ := exists_of_forall₂ hall b (mem_selected.mpr hb)
      exact absurd (hresult.symm.trans hthrows) (by simp)
    | error failure =>
      obtain ⟨exc, final⟩ := failure
      have haborts := aborts_of_error hparse hbranches
      refine ⟨fun hreturns => ?_, fun _ => haborts⟩
      obtain ⟨_, b, _, hb, hthrows, _⟩ := haborts.thrown
      obtain ⟨result, hresult⟩ := hreturns b hb
      exact absurd (hresult.symm.trans hthrows) (by simp)

/-- An oracle whose benchmarks all return. -/
def returningOracle : Oracle where
  run b n := .ok ⟨b.tag, [], n, 0⟩
  name_eq b n result h := by
    cases h
    rfl

/-- `-i 3 -s yas,avro,yas`. -/
def repeatedOptions : ParsedOptions :=
  { iterations := some 3, serializers := some (lit "yas,avro,yas") }

/-- A repeated name is reported once, and the order of `-s` does not matter. -/
theorem selection_repeated :
    ∃ results, (main returningOracle [] (.ok repeatedOptions)).Reports returningOracle
      repeatedOptions 3 results := by
  have hsplit : (lit "yas,avro,yas").splitOn comma = [lit "yas", lit "avro", lit "yas"] := by
    decide
  refine ((selection returningOracle [] ⟨rfl, rfl, rfl⟩).2 ?_).1 fun b _ => ⟨_, rfl⟩
  rintro ⟨value, piece, hvalue, hpiece, hinvalid⟩
  cases hvalue
  have hmem := mem_splitOn_iff.mpr hpiece
  rw [hsplit] at hmem
  simp only [List.mem_cons, List.not_mem_nil, or_false] at hmem
  rcases hmem with rfl | rfl | rfl
  · exact hinvalid (by decide)
  · exact hinvalid (by decide)
  · exact hinvalid (by decide)

end CppSerializers
