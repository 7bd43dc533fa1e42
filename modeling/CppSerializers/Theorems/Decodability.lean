import CppSerializers.Program.Report
import Mathlib.Data.List.Forall2

/-!
# The report loses nothing

Both formats of the report are read back to the same rows, so they carry the same
data, and neither prints two lists of results alike.

## Main results

* `report_decodable` — the two readings, the shape of the two formats, and injectivity
-/

namespace CppSerializers

open Foundation Report

variable {iterations iterations' : Nat} {serializers serializers' : Std.TreeSet StdString}
  {csv : Bool} {results results' : List Result}

private theorem rows_eq (hclean : ∀ result ∈ results, Clean result)
    (hclean' : ∀ result ∈ results', Clean result)
    (h : printResults ⟨iterations, serializers, csv⟩ results =
      printResults ⟨iterations', serializers', csv⟩ results') :
    results.map (Result.row iterations) = results'.map (Result.row iterations') := by
  cases csv with
  | true =>
    have hparse := congrArg parseCsv h
    rw [parseCsv_printResults hclean, parseCsv_printResults hclean'] at hparse
    exact Option.some.inj hparse
  | false =>
    have hparse := congrArg parseBlocks h
    rw [parseBlocks_printResults hclean, parseBlocks_printResults hclean'] at hparse
    exact Option.some.inj hparse

private theorem results_eq
    (h : results.map (Result.row iterations) = results'.map (Result.row iterations')) :
    results = results' := by
  have hresults := congrArg (List.map Row.result) h
  simpa [Function.comp_def] using hresults

private theorem iterations_eq
    (h : results.map (Result.row iterations) = results'.map (Result.row iterations'))
    (hne : results ≠ []) : iterations = iterations' := by
  obtain rfl := results_eq h
  obtain ⟨result, rest, rfl⟩ := List.exists_cons_of_ne_nil hne
  exact congrArg Row.iterations (List.cons.inj h).1

/-- **Decodability.** Either format is read back to exactly the rows of the results: a table
has a line of five fields for each result, a report of blocks has the six lines of a block.
So reports of one format that are equal report the same results. -/
theorem report_decodable (iterations : Nat) (serializers : Std.TreeSet StdString)
    {results : List Result} (hclean : ∀ result ∈ results, Clean result) :
    parseCsv (printResults ⟨iterations, serializers, true⟩ results) =
        some (results.map (Result.row iterations)) ∧
      parseBlocks (printResults ⟨iterations, serializers, false⟩ results) =
        some (results.map (Result.row iterations)) ∧
      (∃ rows, readTerminated newline (printResults ⟨iterations, serializers, true⟩ results) =
          csvHeader :: rows ∧
        List.Forall₂ (fun row result => row.splitOn comma =
          [result.name, result.version, decimal iterations, decimal result.size,
            decimalInt result.time]) rows results) ∧
      readTerminated newline (printResults ⟨iterations, serializers, false⟩ results) =
        results.flatMap (blockLines iterations) ∧
      ∀ csv iterations' serializers' results', (∀ result ∈ results', Clean result) →
        printResults ⟨iterations, serializers, csv⟩ results =
          printResults ⟨iterations', serializers', csv⟩ results' →
        results = results' ∧ (results ≠ [] → iterations = iterations') := by
  refine ⟨parseCsv_printResults hclean, parseBlocks_printResults hclean,
    ⟨results.map (csvRow iterations), lines_csv hclean, ?_⟩, lines_blocks hclean, ?_⟩
  · rw [List.forall₂_map_left_iff, List.forall₂_same]
    intro result hresult
    exact splitOn_csvRow (hclean result hresult)
  · intro csv iterations' serializers' results' hclean' h
    have hrows := rows_eq hclean hclean' h
    exact ⟨results_eq hrows, iterations_eq hrows⟩

/-- Two results, one without a version and one with a negative time, in both formats. -/
theorem report_decodable_sample :
    parseCsv (printResults ⟨2, {}, true⟩
        [⟨lit "avro", [], 4096, 7⟩, ⟨lit "yas", lit "5.0", 9, -1⟩]) =
        some [⟨lit "avro", [], 2, 4096, 7⟩, ⟨lit "yas", lit "5.0", 2, 9, -1⟩] ∧
      parseBlocks (printResults ⟨2, {}, false⟩
          [⟨lit "avro", [], 4096, 7⟩, ⟨lit "yas", lit "5.0", 9, -1⟩]) =
        some [⟨lit "avro", [], 2, 4096, 7⟩, ⟨lit "yas", lit "5.0", 2, 9, -1⟩] := by
  have hclean : ∀ result ∈ [(⟨lit "avro", [], 4096, 7⟩ : Result), ⟨lit "yas", lit "5.0", 9, -1⟩],
      Clean result := by
    intro result hresult
    simp only [List.mem_cons, List.not_mem_nil, or_false] at hresult
    rcases hresult with rfl | rfl
    · exact ⟨by decide, by decide, by decide, by decide⟩
    · exact ⟨by decide, by decide, by decide, by decide⟩
  obtain ⟨hcsv, hblocks, _⟩ := report_decodable 2 {} hclean
  exact ⟨hcsv, hblocks⟩

end CppSerializers
