import CppSerializers.Foundation.Decimal
import CppSerializers.Foundation.Reader
import Mathlib.Algebra.Order.Ring.Nat

/-!
# The data of the benchmark

The types that every part of `benchmark.cpp` shares: the record that is
serialized, the payload of `data.hpp` it is filled from, the `Result` a benchmark
returns, and the exceptions it throws.

A `std::string` is the list of its bytes, so that the same type serves for texts,
for payload strings and for serialized messages. The sizes and times of a
`Result` are unbounded integers here: the program only copies and prints them.

Nothing in a `Result` says what happened inside a benchmark. `Run` pairs the
result with what was observed on the way: for the check before the timed loop and
for every timed iteration, the message that was written, what the decoder was
given, what it left unread, and the record it produced.

## Main definitions

* `Record`, `Payload`, `Payload.record` — the record to serialize and its source
* `Result` — what a benchmark function returns
* `View` — what the accessors of a message show
* `RoundTrip`, `Run` — what one execution of a benchmark function observed
-/

namespace CppSerializers

open Foundation

/-- A `std::string`: the sequence of its bytes. -/
abbrev StdString := List UInt8

/-- `clear()`, of a string, a buffer or a vector. -/
def clear {α : Type} (_ : List α) : List α := []

/-- A string literal of the source. -/
def lit (s : String) : StdString := s.toList.map Char.toUInt8

/-- The exceptions that leave a benchmark function. Both derive from
`std::exception` and carry the text that `what()` returns. -/
inductive Exception where
  /-- The `std::logic_error` thrown by a failed check. -/
  | logicError (what : StdString)
  /-- An exception thrown inside a serialization library. -/
  | library (what : StdString)
  deriving DecidableEq, Repr

/-- `exc.what()`. -/
def Exception.what : Exception → StdString
  | .logicError text => text
  | .library text => text

/-- Readers of serialized bytes. -/
abbrev ByteReader (α : Type) := Reader Exception UInt8 α

/-! ## Records and the payload -/

/-- The `Record` of every schema: a list of 64-bit integers and a list of strings. -/
structure Record where
  ids : List Int64 := []
  strings : List StdString := []
  deriving DecidableEq, Repr

/-- No list and no string of the record is longer than `limit`. -/
structure Record.FitsIn (limit : Nat) (r : Record) : Prop where
  ids_le : r.ids.length ≤ limit
  strings_le : r.strings.length ≤ limit
  string_le : ∀ s ∈ r.strings, s.length ≤ limit

/-- The constants of `data.hpp`. -/
structure Payload where
  kIntegers : List Int64
  kStringValue : StdString
  kStringsCount : Nat
  deriving DecidableEq, Repr

/-- The record the payload describes. -/
def Payload.record (p : Payload) : Record where
  ids := p.kIntegers
  strings := List.replicate p.kStringsCount p.kStringValue

/-- `r1.ids.push_back(value)`. -/
def Record.pushId (r : Record) (value : Int64) : Record := { r with ids := r.ids ++ [value] }

/-- `r1.strings.push_back(value)`. -/
def Record.pushString (r : Record) (value : StdString) : Record :=
  { r with strings := r.strings ++ [value] }

/-- The two loops that fill `r1` before anything is serialized: one pass for every
element of `kIntegers`, then `kStringsCount` passes. -/
def Payload.fill (p : Payload) (r1 : Record) : Record :=
  -- The second loop starts from what the first has left.
  (List.range p.kStringsCount).foldl (fun r _ => r.pushString p.kStringValue)
    (p.kIntegers.foldl Record.pushId r1)

private theorem foldl_pushId (xs : List Int64) (r : Record) :
    xs.foldl Record.pushId r = { r with ids := r.ids ++ xs } := by
  induction xs generalizing r with
  | nil => simp
  | cons x xs ih => simp [ih, Record.pushId]

private theorem foldl_pushString (n : Nat) (s : StdString) (r : Record) :
    (List.range n).foldl (fun r _ => r.pushString s) r =
      { r with strings := r.strings ++ List.replicate n s } := by
  induction n with
  | zero => simp
  | succ n ih =>
    rw [List.range_succ, List.foldl_append, ih]
    simp [Record.pushString, List.replicate_succ']

/-- Filling an empty record gives the record the payload describes. -/
@[simp] theorem Payload.fill_empty (p : Payload) : p.fill {} = p.record := by
  simp [Payload.fill, Payload.record, foldl_pushId, foldl_pushString]

/-! ## Results -/

/-- What a benchmark function returns. -/
structure Result where
  name : StdString
  version : StdString
  size : Nat
  time : Int
  deriving DecidableEq, Repr

/-- The constructor for libraries whose version is a number: `lexical_cast` prints it. -/
def Result.ofNumber (name : StdString) (version size : Nat) (time : Int) : Result where
  name := name
  version := decimal version
  size := size
  time := time

/-- The two readings of the clock around the timed loop, in nanoseconds. -/
structure Clock where
  start : Int
  finish : Int
  deriving DecidableEq, Repr

/-- `duration_cast<milliseconds>(finish - start).count()`: truncation toward zero. -/
def Clock.duration (clock : Clock) : Int := (clock.finish - clock.start).tdiv 1000000

/-! ## Observations -/

/-- A message as the segments it is written in. Cap'n Proto writes several; every
other library writes one. -/
abbrev Message := List StdString

/-- The number of bytes of a message. -/
def Message.size (m : Message) : Nat := (m.map List.length).sum

@[simp] theorem Message.size_singleton (s : StdString) : Message.size [s] = s.length := by
  simp [Message.size]

/-- A message seen through its accessors: what the field of each number shows when it
is read as a vector of integers, and as a vector of strings. -/
structure View where
  ints : Nat → List Int64
  strings : Nat → List StdString

/-- What one encoding followed by one decoding looked like. -/
structure RoundTrip where
  /-- What the encoder wrote. -/
  message : Message
  /-- The bytes the decoder could see. -/
  input : StdString
  /-- The bytes of `input` the decoder did not consume. -/
  unread : StdString
  /-- The record the decoder produced, or the record a view shows. -/
  decoded : Record
  deriving DecidableEq, Repr

/-- What one call of a benchmark function did and returned. -/
structure Run where
  /-- The round trip of the check before the timed loop. -/
  check : RoundTrip
  /-- The round trips of the timed loop, in order. -/
  timed : List RoundTrip
  /-- The returned `Result`. -/
  result : Result
  deriving DecidableEq, Repr

/-- What a call of a benchmark function depends on besides the libraries: the
payload, the clock, and what the memory of the `k`-th output stream held before. -/
structure Env where
  payload : Payload
  clock : Clock
  memory : Nat → Nat → UInt8

end CppSerializers
