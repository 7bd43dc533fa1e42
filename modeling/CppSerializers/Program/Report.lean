import CppSerializers.Foundation.Delimited
import CppSerializers.Model.Data
import Std.Data.TreeSet

/-!
# The report

`print_results` writes the results of a run either as a table of comma separated
values or as blocks of labelled lines. Nothing is quoted or escaped, and the two
formats are written by separate branches.

Each format has a reading here. `Report.parseCsv` drops the header and cuts lines at
newlines and fields at commas; `Report.parseBlocks` takes six lines at a time and
strips labels and units. Both invert the printing for all results whose name and
version contain neither separator, so no such results are printed alike.

## Main definitions

* `Args`, `printResults` — the arguments of a run and its report
* `Row` — what the report says of one result
* `parseCsv`, `parseBlocks` — the readings of the two formats

## Main results

* `parseCsv_printResults`, `parseBlocks_printResults` — the readings invert the printing
-/

namespace CppSerializers

open Foundation

/-- `struct Args`. -/
structure Args where
  iterations : Nat := 0
  serializers : Std.TreeSet StdString := {}
  csv : Bool := false

/-- What `std::endl` writes. -/
def newline : UInt8 := '\n'.toUInt8

def comma : UInt8 := ','.toUInt8

/-- `std::cout << text << std::endl`. -/
def line (text : StdString) : StdString := text ++ [newline]

def csvHeader : StdString := lit "serializer,version,iterations,size,time"

/-- The row of a result, without its end of line. -/
def csvRow (iterations : Nat) (result : Result) : StdString :=
  result.name ++ lit "," ++ result.version ++ lit "," ++ decimal iterations ++ lit "," ++
    decimal result.size ++ lit "," ++ decimalInt result.time

/-- The lines of a block, without their ends. -/
def blockLines (iterations : Nat) (result : Result) : List StdString :=
  [lit "Serializer: " ++ result.name,
    lit "Version   : " ++ result.version,
    lit "Iterations: " ++ decimal iterations,
    lit "Size      : " ++ decimal result.size ++ lit " bytes",
    lit "Time      : " ++ decimalInt result.time ++ lit " milliseconds",
    -- A `std::endl` on its own.
    []]

/-- `print_results`: what it writes to `std::cout`. -/
def printResults (args : Args) (results : List Result) : StdString :=
  (if args.csv then line csvHeader else []) ++
    results.flatMap fun result =>
      if args.csv then line (csvRow args.iterations result)
      else (blockLines args.iterations result).flatMap line

/-! ## Reading a report -/

/-- What a report says of one result. -/
structure Row where
  name : StdString
  version : StdString
  iterations : Nat
  size : Nat
  time : Int
  deriving DecidableEq, Repr

/-- The row of a result in a report of the given number of iterations. -/
def Result.row (iterations : Nat) (result : Result) : Row where
  name := result.name
  version := result.version
  iterations := iterations
  size := result.size
  time := result.time

/-- The result a row was made from. -/
def Row.result (row : Row) : Result where
  name := row.name
  version := row.version
  size := row.size
  time := row.time

@[simp] theorem Result.result_row (iterations : Nat) (result : Result) :
    (result.row iterations).result = result := rfl

namespace Report

/-- The text behind a label. -/
def stripLabel (label text : StdString) : Option StdString :=
  if label.isPrefixOf text then some (text.drop label.length) else none

/-- The text before a unit. -/
def stripUnit (unit text : StdString) : Option StdString :=
  if unit.isSuffixOf text then some (text.take (text.length - unit.length)) else none

/-- Read one line of a table: five fields between commas. -/
def parseCsvRow (text : StdString) : Option Row :=
  match text.splitOn comma with
  | [name, version, iterations, size, time] => do
    let iterations ← readDecimal iterations
    let size ← readDecimal size
    let time ← readDecimalInt time
    return { name, version, iterations, size, time }
  | _ => none

/-- Read a table: the lines behind the header. -/
def parseCsv (text : StdString) : Option (List Row) :=
  match readTerminated newline text with
  | [] => none
  | _ :: rows => rows.mapM parseCsvRow

/-- Read lines six at a time. -/
def parseBlockLines : List StdString → Option (List Row)
  | [] => some []
  | serializer :: version :: iterations :: size :: time :: blank :: rest => do
    let name ← stripLabel (lit "Serializer: ") serializer
    let version ← stripLabel (lit "Version   : ") version
    let iterations ← stripLabel (lit "Iterations: ") iterations >>= readDecimal
    let size ← stripLabel (lit "Size      : ") size >>= stripUnit (lit " bytes") >>= readDecimal
    let time ← stripLabel (lit "Time      : ") time >>= stripUnit (lit " milliseconds") >>=
      readDecimalInt
    guard (blank = [])
    let rows ← parseBlockLines rest
    return { name, version, iterations, size, time } :: rows
  | _ => none

/-- Read a report of blocks. -/
def parseBlocks (text : StdString) : Option (List Row) :=
  parseBlockLines (readTerminated newline text)

/-! ## The readings invert the printing -/

@[simp] theorem stripLabel_append (label text : StdString) :
    stripLabel label (label ++ text) = some text := by
  simp [stripLabel]

@[simp] theorem stripUnit_append (unit text : StdString) :
    stripUnit unit (text ++ unit) = some text := by
  simp [stripUnit]

/-- The name and the version of a result contain no comma and no newline. -/
structure Clean (result : Result) : Prop where
  comma_name : comma ∉ result.name
  newline_name : newline ∉ result.name
  comma_version : comma ∉ result.version
  newline_version : newline ∉ result.version

variable {iterations : Nat} {result : Result} {results : List Result}
  {serializers : Std.TreeSet StdString}

private theorem comma_notMem_decimal (n : Nat) : comma ∉ decimal n :=
  notMem_decimal (by decide) n

private theorem newline_notMem_decimal (n : Nat) : newline ∉ decimal n :=
  notMem_decimal (by decide) n

private theorem comma_notMem_decimalInt (i : Int) : comma ∉ decimalInt i :=
  notMem_decimalInt (by decide) (by decide) i

private theorem newline_notMem_decimalInt (i : Int) : newline ∉ decimalInt i :=
  notMem_decimalInt (by decide) (by decide) i

/-- The fields of a row are those between its commas. -/
theorem splitOn_csvRow (h : Clean result) :
    (csvRow iterations result).splitOn comma =
      [result.name, result.version, decimal iterations, decimal result.size,
        decimalInt result.time] := by
  have hcomma : lit "," = [comma] := rfl
  -- Field by field: none contains a comma, and the last is followed by nothing.
  simp only [csvRow, hcomma, List.append_assoc, List.cons_append, List.nil_append]
  rw [List.splitOn_append_cons_self_of_not_mem h.comma_name,
    List.splitOn_append_cons_self_of_not_mem h.comma_version,
    List.splitOn_append_cons_self_of_not_mem (comma_notMem_decimal _),
    List.splitOn_append_cons_self_of_not_mem (comma_notMem_decimal _),
    List.splitOn_eq_singleton (comma_notMem_decimalInt _)]

theorem newline_notMem_csvRow (h : Clean result) : newline ∉ csvRow iterations result := by
  have hcomma : newline ∉ lit "," := by decide
  simp only [csvRow, List.mem_append, not_or]
  exact ⟨⟨⟨⟨⟨⟨⟨⟨h.newline_name, hcomma⟩, h.newline_version⟩, hcomma⟩,
    newline_notMem_decimal _⟩, hcomma⟩, newline_notMem_decimal _⟩, hcomma⟩,
    newline_notMem_decimalInt _⟩

/-- A row is read back. -/
theorem parseCsvRow_csvRow (h : Clean result) :
    parseCsvRow (csvRow iterations result) = some (result.row iterations) := by
  rw [parseCsvRow, splitOn_csvRow h]
  simp [Result.row]

/-- A table is the header and the rows, each ended by a newline. -/
theorem printResults_csv :
    printResults ⟨iterations, serializers, true⟩ results =
      terminated newline (csvHeader :: results.map (csvRow iterations)) := by
  simp [printResults, line, terminated, List.flatMap_map]

/-- A report of blocks is their lines, each ended by a newline. -/
theorem printResults_blocks :
    printResults ⟨iterations, serializers, false⟩ results =
      terminated newline (results.flatMap (blockLines iterations)) := by
  simp only [printResults, Bool.false_eq_true, if_false, List.nil_append, terminated,
    List.flatMap_assoc]
  rfl

/-- The lines of a table are the header and one row for each result. -/
theorem lines_csv (h : ∀ result ∈ results, Clean result) :
    readTerminated newline (printResults ⟨iterations, serializers, true⟩ results) =
      csvHeader :: results.map (csvRow iterations) := by
  rw [printResults_csv]
  apply readTerminated_terminated
  intro text htext
  rcases List.mem_cons.mp htext with rfl | htext
  · decide
  · obtain ⟨result, hresult, rfl⟩ := List.mem_map.mp htext
    exact newline_notMem_csvRow (h result hresult)

private theorem newline_notMem_blockLines (h : Clean result) :
    ∀ text ∈ blockLines iterations result, newline ∉ text := by
  intro text htext
  simp only [blockLines, List.mem_cons, List.not_mem_nil, or_false] at htext
  rcases htext with rfl | rfl | rfl | rfl | rfl | rfl
  · exact List.not_mem_append (by decide) h.newline_name
  · exact List.not_mem_append (by decide) h.newline_version
  · exact List.not_mem_append (by decide) (newline_notMem_decimal _)
  · exact List.not_mem_append (List.not_mem_append (by decide) (newline_notMem_decimal _))
      (by decide)
  · exact List.not_mem_append (List.not_mem_append (by decide) (newline_notMem_decimalInt _))
      (by decide)
  · exact List.not_mem_nil

/-- The lines of a report of blocks are those of the blocks, in order. -/
theorem lines_blocks (h : ∀ result ∈ results, Clean result) :
    readTerminated newline (printResults ⟨iterations, serializers, false⟩ results) =
      results.flatMap (blockLines iterations) := by
  rw [printResults_blocks]
  apply readTerminated_terminated
  intro text htext
  obtain ⟨result, hresult, htext⟩ := List.mem_flatMap.mp htext
  exact newline_notMem_blockLines (h result hresult) text htext

/-- **Reading a table** gives the results back, in order. -/
theorem parseCsv_printResults (h : ∀ result ∈ results, Clean result) :
    parseCsv (printResults ⟨iterations, serializers, true⟩ results) =
      some (results.map (Result.row iterations)) := by
  rw [parseCsv, lines_csv h]
  induction results with
  | nil => rfl
  | cons result results ih =>
    rw [List.forall_mem_cons] at h
    have hrest := ih h.2
    simp only [List.map_cons, List.mapM_cons, parseCsvRow_csvRow h.1] at hrest ⊢
    simp [hrest]

/-- Six lines of a block are read as its result, before the blocks that follow. -/
theorem parseBlockLines_cons (rest : List StdString) :
    parseBlockLines (blockLines iterations result ++ rest) =
      (parseBlockLines rest).map (result.row iterations :: ·) := by
  simp only [blockLines, List.cons_append, List.nil_append, parseBlockLines, List.append_assoc,
    stripLabel_append, stripUnit_append, Option.bind_eq_bind, Option.bind_some,
    readDecimal_decimal, readDecimalInt_decimalInt]
  cases parseBlockLines rest <;> rfl

/-- **Reading blocks** gives the results back, in order. -/
theorem parseBlocks_printResults (h : ∀ result ∈ results, Clean result) :
    parseBlocks (printResults ⟨iterations, serializers, false⟩ results) =
      some (results.map (Result.row iterations)) := by
  rw [parseBlocks, lines_blocks h]
  clear h
  induction results with
  | nil => rfl
  | cons result results ih => rw [List.flatMap_cons, parseBlockLines_cons, ih]; rfl

end Report

end CppSerializers
