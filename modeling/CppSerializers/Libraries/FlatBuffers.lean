import CppSerializers.Model.Data
import Mathlib.Data.List.Nodup

/-!
# FlatBuffers

A builder appends objects to its buffer and hands out offsets to them; a vector of strings
is a vector of such offsets, and an offset means nothing outside the builder it came from.
Nothing is decoded; a reader looks at the bytes of a finished buffer through accessors.

The library is a parameter. What its operations do is stated by the objects that offsets
refer to in the buffer as it is so far (`GetTemporaryPointer`). A builder only appends, so
what an offset refers to stays, as long as the buffer does not become too large. Which
numbers the fields of a record have is decided by the generated code, separately for writing
and for reading; it is embedded here.

## Main definitions

* `Library` — the operations that are used
* `Library.Lawful` — their documented behaviour
* `Library.ReadsBack` — a view shows what was built
* `RecordBuilder`, `createRecord`, `ids`, `strings` — the generated code

## Main results

* `Library.Lawful.buildRecord` — a record is one more object
* `Library.Lawful.field_buildRecord` — its fields, after any further calls
-/

namespace CppSerializers.FlatBuffers

/-- `flatbuffers::Offset`: where an object is in the buffer of its builder. Zero is the null
offset. -/
abbrev Offset := Nat

/-- The objects of a buffer. -/
inductive Object where
  | string (s : StdString)
  | ints (elements : List Int64)
  | offsets (elements : List Offset)
  | table (fields : List (Nat × Offset))
  deriving DecidableEq, Repr

/-- Building a buffer, and a view into the bytes of a finished one. -/
structure Library where
  FlatBufferBuilder : Type
  /-- A new builder. -/
  new : FlatBufferBuilder
  /-- `CreateString`. -/
  createString : FlatBufferBuilder → StdString → Offset × FlatBufferBuilder
  /-- `CreateVector`, of integers. -/
  createVector : FlatBufferBuilder → List Int64 → Offset × FlatBufferBuilder
  /-- `CreateVector`, of offsets. -/
  createVectorOfOffsets : FlatBufferBuilder → List Offset → Offset × FlatBufferBuilder
  /-- `StartTable`. -/
  startTable : FlatBufferBuilder → Nat × FlatBufferBuilder
  /-- `AddOffset`. -/
  addOffset : FlatBufferBuilder → Nat → Offset → FlatBufferBuilder
  /-- `EndTable`, with what `StartTable` has returned. -/
  endTable : FlatBufferBuilder → Nat → Offset × FlatBufferBuilder
  /-- `Finish`. -/
  finish : FlatBufferBuilder → Offset → FlatBufferBuilder
  /-- `GetTemporaryPointer`: what an offset refers to in the buffer as it is so far. -/
  object : FlatBufferBuilder → Offset → Option Object
  /-- The bytes of the buffer as it is so far, which `GetBufferPointer` and `GetSize` give of a
  finished one. -/
  buffer : FlatBufferBuilder → StdString
  /-- `GetRoot<Record>`. -/
  getRoot : StdString → Except Exception View

/-- `FLATBUFFERS_MAX_BUFFER_SIZE`. -/
def maxBufferSize : Nat := 2 ^ 31 - 1

namespace Library

variable (library : Library)

/-- The object that a field of the table at `root` refers to. -/
def field (builder : library.FlatBufferBuilder) (root : Offset) (number : Nat) : Option Object :=
  match library.object builder root with
  | some (.table fields) => fields.lookup number >>= library.object builder
  | _ => none

/-- The string at an offset. -/
def stringAt (builder : library.FlatBufferBuilder) (offset : Offset) : Option StdString :=
  match library.object builder offset with
  | some (.string s) => some s
  | _ => none

/-- The buffer that is finished with the table at `root` has not become too large, and the view
into it shows the vectors that the fields of the table refer to. -/
structure ReadsBack (builder : library.FlatBufferBuilder) (root : Offset) : Prop where
  size_lt : (library.buffer (library.finish builder root)).length < maxBufferSize
  views : ∃ view, library.getRoot (library.buffer (library.finish builder root)) = .ok view ∧
    (∀ n elements, library.field builder root n = some (.ints elements) →
      view.ints n = elements) ∧
    (∀ n offsets strings, library.field builder root n = some (.offsets offsets) →
      offsets.mapM (library.stringAt builder) = some strings → view.strings n = strings)

/-! ## What is documented -/

/-- A builder only grows. What an offset refers to stays, unless the buffer becomes too large. -/
structure Grows (builder builder' : library.FlatBufferBuilder) : Prop where
  size_le : (library.buffer builder).length ≤ (library.buffer builder').length
  object_eq : (library.buffer builder').length < maxBufferSize → ∀ {offset object},
    library.object builder offset = some object → library.object builder' offset = some object

/-- A call that appends an object and returns its offset. -/
structure Creates (builder : library.FlatBufferBuilder) (out : Offset × library.FlatBufferBuilder)
    (object : Object) : Prop where
  grows : library.Grows builder out.2
  object_eq : (library.buffer out.2).length < maxBufferSize →
    library.object out.2 out.1 = some object

/-- The documented behaviour of a builder. `table` is the table under construction, if there is
one: no object may be created until it is ended. The null offset is not stored in it. -/
structure Lawful (table : library.FlatBufferBuilder → Option (Nat × List (Nat × Offset))) :
    Prop where
  new : table library.new = none
  null : ∀ builder, library.object builder 0 = none
  createString : ∀ builder s, table builder = none →
    library.Creates builder (library.createString builder s) (.string s) ∧
      table (library.createString builder s).2 = none
  createVector : ∀ builder elements, table builder = none →
    library.Creates builder (library.createVector builder elements) (.ints elements) ∧
      table (library.createVector builder elements).2 = none
  createVectorOfOffsets : ∀ builder elements, table builder = none →
    library.Creates builder (library.createVectorOfOffsets builder elements) (.offsets elements) ∧
      table (library.createVectorOfOffsets builder elements).2 = none
  startTable : ∀ builder, table builder = none →
    library.Grows builder (library.startTable builder).2 ∧
      table (library.startTable builder).2 = some ((library.startTable builder).1, [])
  addOffset : ∀ builder start fields number offset, table builder = some (start, fields) →
    library.Grows builder (library.addOffset builder number offset) ∧
      table (library.addOffset builder number offset) =
        some (start, if offset = 0 then fields else fields ++ [(number, offset)])
  endTable : ∀ builder start fields, table builder = some (start, fields) →
    library.Creates builder (library.endTable builder start) (.table fields) ∧
      table (library.endTable builder start).2 = none
  finish : ∀ builder root, table builder = none →
    library.Grows builder (library.finish builder root)

variable {library} {builder builder' : library.FlatBufferBuilder}

theorem Grows.refl (builder : library.FlatBufferBuilder) : library.Grows builder builder :=
  ⟨Nat.le_refl _, fun _ => id⟩

theorem Grows.trans {builder'' : library.FlatBufferBuilder} (h : library.Grows builder builder')
    (h' : library.Grows builder' builder'') : library.Grows builder builder'' where
  size_le := h.size_le.trans h'.size_le
  object_eq hsize _ _ hobject :=
    h'.object_eq hsize (h.object_eq (Nat.lt_of_le_of_lt h'.size_le hsize) hobject)

/-- What has been created is there later as well. -/
theorem Creates.object_later {out : Offset × library.FlatBufferBuilder} {object : Object}
    (h : library.Creates builder out object) (hgrows : library.Grows out.2 builder')
    (hsize : (library.buffer builder').length < maxBufferSize) :
    library.object builder' out.1 = some object :=
  hgrows.object_eq hsize (h.object_eq (Nat.lt_of_le_of_lt hgrows.size_le hsize))

theorem stringAt_eq_some {offset : Offset} {s : StdString} :
    library.stringAt builder offset = some s ↔
      library.object builder offset = some (.string s) := by
  rw [stringAt]
  constructor
  · intro h
    split at h
    · next hobject => rw [hobject, Option.some.inj h]
    · cases h
  · intro h
    rw [h]

theorem Grows.mapM_stringAt (h : library.Grows builder builder')
    (hsize : (library.buffer builder').length < maxBufferSize) {offsets : List Offset}
    {ss : List StdString} (hss : offsets.mapM (library.stringAt builder) = some ss) :
    offsets.mapM (library.stringAt builder') = some ss := by
  induction offsets generalizing ss with
  | nil => exact hss
  | cons offset offsets ih =>
    rw [List.mapM_cons] at hss ⊢
    obtain ⟨s, hs, hrest⟩ := Option.bind_eq_some_iff.mp hss
    obtain ⟨ss', hss', heq⟩ := Option.bind_eq_some_iff.mp hrest
    rw [stringAt_eq_some.mpr (h.object_eq hsize (stringAt_eq_some.mp hs)), ih hss']
    exact heq

end Library

/-! ## The generated code -/

/-- `Record::VT_IDS`. -/
def vtIds : Nat := 4

/-- `Record::VT_STRINGS`. -/
def vtStrings : Nat := 6

/-- `RecordBuilder`: `fbb_` and `start_`. -/
structure RecordBuilder (library : Library) where
  fbb : library.FlatBufferBuilder
  start : Nat

namespace RecordBuilder

variable {library : Library}

/-- The constructor. -/
def new (fbb : library.FlatBufferBuilder) : RecordBuilder library :=
  ⟨(library.startTable fbb).2, (library.startTable fbb).1⟩

/-- `add_ids`. -/
def addIds (builder : RecordBuilder library) (ids : Offset) : RecordBuilder library :=
  { builder with fbb := library.addOffset builder.fbb vtIds ids }

/-- `add_strings`. -/
def addStrings (builder : RecordBuilder library) (strings : Offset) : RecordBuilder library :=
  { builder with fbb := library.addOffset builder.fbb vtStrings strings }

/-- `Finish`. -/
def finish (builder : RecordBuilder library) : Offset × library.FlatBufferBuilder :=
  library.endTable builder.fbb builder.start

end RecordBuilder

/-- `CreateRecord`. -/
def createRecord (library : Library) (fbb : library.FlatBufferBuilder) (ids strings : Offset) :
    Offset × library.FlatBufferBuilder :=
  let builder := RecordBuilder.new fbb
  let builder := builder.addStrings strings
  let builder := builder.addIds ids
  builder.finish

/-- `r2->ids()`. -/
def ids (r2 : View) : List Int64 := r2.ints vtIds

/-- `r2->strings()`. -/
def strings (r2 : View) : List StdString := r2.strings vtStrings

/-- The record a view shows. -/
def viewedRecord (r2 : View) : Record where
  ids := ids r2
  strings := strings r2

/-! ## Records -/

/-- A call to a `RecordBuilder`. -/
inductive Add where
  | addIds (ids : Offset)
  | addStrings (strings : Offset)
  deriving DecidableEq, Repr

namespace Add

/-- The field that is added. -/
def number : Add → Nat
  | addIds _ => vtIds
  | addStrings _ => vtStrings

/-- What the field refers to. -/
def offset : Add → Offset
  | addIds ids => ids
  | addStrings strings => strings

/-- The call. -/
def run {library : Library} (builder : RecordBuilder library) : Add → RecordBuilder library
  | addIds ids => builder.addIds ids
  | addStrings strings => builder.addStrings strings

end Add

/-- A `RecordBuilder`, from its construction to `Finish`. -/
def buildRecord (library : Library) (fbb : library.FlatBufferBuilder) (adds : List Add) :
    Offset × library.FlatBufferBuilder :=
  (adds.foldl Add.run (RecordBuilder.new fbb)).finish

/-- `CreateRecord` adds both fields. -/
theorem createRecord_eq_buildRecord (library : Library) (fbb : library.FlatBufferBuilder)
    (ids strings : Offset) :
    createRecord library fbb ids strings =
      buildRecord library fbb [.addStrings strings, .addIds ids] := rfl

/-- The fields of the table. -/
def storedFields (adds : List Add) : List (Nat × Offset) :=
  (adds.filter (·.offset ≠ 0)).map fun add => (add.number, add.offset)

private theorem storedFields_cons (add : Add) (adds : List Add) :
    storedFields (add :: adds) =
      (if add.offset = 0 then [] else [(add.number, add.offset)]) ++ storedFields adds := by
  by_cases hnull : add.offset = 0
  · simp [storedFields, hnull]
  · simp [storedFields, hnull]

private theorem lookup_storedFields {adds : List Add} (hadds : (adds.map Add.number).Nodup)
    {add : Add} (hadd : add ∈ adds) (hnull : add.offset ≠ 0) :
    (storedFields adds).lookup add.number = some add.offset := by
  induction adds with
  | nil => exact absurd hadd List.not_mem_nil
  | cons first adds ih =>
    rw [List.map_cons, List.nodup_cons] at hadds
    rw [storedFields_cons]
    rcases List.mem_cons.mp hadd with rfl | hadd
    · rw [if_neg hnull, List.singleton_append, List.lookup_cons_self]
    · have hne : add.number ≠ first.number := fun heq =>
        hadds.1 (List.mem_map.mpr ⟨add, hadd, heq⟩)
      have hrest := ih hadds.2 hadd
      split
      · rwa [List.nil_append]
      · rwa [List.singleton_append, List.lookup_cons, beq_false_of_ne hne]

private theorem lookup_storedFields_eq_none {adds : List Add} {n : Nat}
    (hadds : ∀ add ∈ adds, add.number = n → add.offset = 0) :
    (storedFields adds).lookup n = none := by
  rw [List.lookup_eq_none_iff]
  intro entry hentry
  obtain ⟨add, hadd, rfl⟩ := List.mem_map.mp hentry
  obtain ⟨hadd, hnull⟩ := List.mem_filter.mp hadd
  simp only [bne_iff_ne]
  rintro rfl
  simp [hadds add hadd rfl] at hnull

namespace Library.Lawful

variable {library : Library}
  {table : library.FlatBufferBuilder → Option (Nat × List (Nat × Offset))}
  (h : library.Lawful table)
include h

private theorem foldl_run (builder : RecordBuilder library) {fields : List (Nat × Offset)}
    (hbuilder : table builder.fbb = some (builder.start, fields)) (adds : List Add) :
    library.Grows builder.fbb (adds.foldl Add.run builder).fbb ∧
      (adds.foldl Add.run builder).start = builder.start ∧
      table (adds.foldl Add.run builder).fbb =
        some (builder.start, fields ++ storedFields adds) := by
  induction adds generalizing builder fields with
  | nil => exact ⟨.refl _, rfl, hbuilder.trans (by simp [storedFields])⟩
  | cons add adds ih =>
    have hadd : library.Grows builder.fbb (add.run builder).fbb ∧
        table (add.run builder).fbb = some ((add.run builder).start,
          if add.offset = 0 then fields else fields ++ [(add.number, add.offset)]) ∧
        (add.run builder).start = builder.start := by
      cases add with
      | addIds ids =>
        obtain ⟨hgrows, htable⟩ := h.addOffset _ _ _ vtIds ids hbuilder
        exact ⟨hgrows, htable, rfl⟩
      | addStrings strings =>
        obtain ⟨hgrows, htable⟩ := h.addOffset _ _ _ vtStrings strings hbuilder
        exact ⟨hgrows, htable, rfl⟩
    obtain ⟨hgrows, htable, hstart⟩ := hadd
    obtain ⟨hgrows', hstart', htable'⟩ := ih _ htable
    refine ⟨hgrows.trans hgrows', hstart'.trans hstart, htable'.trans ?_⟩
    rw [hstart, storedFields_cons]
    split
    · rw [List.nil_append]
    · rw [List.append_assoc]

/-- **A record is one more object**, a table with the fields that were added to it. -/
theorem buildRecord {fbb : library.FlatBufferBuilder} (hfbb : table fbb = none) (adds : List Add) :
    library.Creates fbb (buildRecord library fbb adds) (.table (storedFields adds)) ∧
      table (FlatBuffers.buildRecord library fbb adds).2 = none := by
  obtain ⟨hstart, htable⟩ := h.startTable fbb hfbb
  obtain ⟨hgrows, hsame, hadded⟩ := h.foldl_run (.new fbb) htable adds
  rw [← hsame] at hadded
  obtain ⟨hcreates, hend⟩ := h.endTable _ _ _ hadded
  exact ⟨⟨hstart.trans (hgrows.trans hcreates.grows), hcreates.object_eq⟩, hend⟩

/-- **A record keeps its fields**, whatever is done with the builder later: a field that was added
refers to what its offset refers to, and any other field is not there. -/
theorem field_buildRecord {fbb later : library.FlatBufferBuilder} (hfbb : table fbb = none)
    {adds : List Add} (hadds : (adds.map Add.number).Nodup)
    (hlater : library.Grows (FlatBuffers.buildRecord library fbb adds).2 later)
    (hsize : (library.buffer later).length < maxBufferSize) :
    (∀ add ∈ adds, library.field later (FlatBuffers.buildRecord library fbb adds).1 add.number =
        library.object later add.offset) ∧
      ∀ n, n ∉ adds.map Add.number →
        library.field later (FlatBuffers.buildRecord library fbb adds).1 n = none := by
  have hroot := (h.buildRecord hfbb adds).1.object_later hlater hsize
  refine ⟨fun add hadd => ?_, fun n hn => ?_⟩
  · rw [Library.field, hroot]
    show (storedFields adds).lookup add.number >>= _ = _
    by_cases hnull : add.offset = 0
    · -- No other call adds the field.
      have hsame : ∀ other ∈ adds, other.number = add.number → other.offset = 0 :=
        fun other hother heq => List.inj_on_of_nodup_map hadds hother hadd heq ▸ hnull
      rw [lookup_storedFields_eq_none hsame, hnull, h.null]
      rfl
    · rw [lookup_storedFields hadds hadd hnull]
      rfl
  · rw [Library.field, hroot]
    show (storedFields adds).lookup n >>= _ = _
    rw [lookup_storedFields_eq_none fun add hadd heq =>
      absurd (List.mem_map.mpr ⟨add, hadd, heq⟩) hn]
    rfl

theorem createRecord {fbb : library.FlatBufferBuilder} (hfbb : table fbb = none)
    (ids strings : Offset) :
    library.Creates fbb (createRecord library fbb ids strings)
        (.table (storedFields [.addStrings strings, .addIds ids])) ∧
      table (FlatBuffers.createRecord library fbb ids strings).2 = none := by
  rw [createRecord_eq_buildRecord]
  exact h.buildRecord hfbb _

theorem field_createRecord {fbb later : library.FlatBufferBuilder} (hfbb : table fbb = none)
    {ids strings : Offset}
    (hlater : library.Grows (FlatBuffers.createRecord library fbb ids strings).2 later)
    (hsize : (library.buffer later).length < maxBufferSize) :
    library.field later (FlatBuffers.createRecord library fbb ids strings).1 vtIds =
        library.object later ids ∧
      library.field later (FlatBuffers.createRecord library fbb ids strings).1 vtStrings =
        library.object later strings := by
  rw [createRecord_eq_buildRecord] at hlater ⊢
  have hadds : ([.addStrings strings, .addIds ids].map Add.number).Nodup :=
    show [vtStrings, vtIds].Nodup by decide
  obtain ⟨hfields, -⟩ := h.field_buildRecord hfbb hadds hlater hsize
  exact ⟨hfields (.addIds ids) (by simp), hfields (.addStrings strings) (by simp)⟩

end Library.Lawful

end CppSerializers.FlatBuffers
