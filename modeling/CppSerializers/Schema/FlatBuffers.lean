import CppSerializers.Reference.FlatBuffers

/-!
# FlatBuffers: records among other objects

The benchmark builds one record in a builder of its own. The generated code can do more. A
`RecordBuilder` adds the fields of a record in any order, or leaves them out, and
`CreateRecordDirect` makes the vectors of a record from those of its caller, in the order
in which its arguments happen to be evaluated. Any number of strings, vectors and records,
which may share what they refer to, go into one builder before the buffer is finished.

What a record shows in the finished buffer does not depend on what else there is in it.

## Main definitions

* `createRecordDirect` — the generated code that the benchmark does not use
* `Call`, `runCalls` — what a program does with a builder

## Main results

* `buildRecord_viewed` — what the accessors show of a record that was built field by field
* `recordDirect_viewed` — what they show of a record that was created directly
-/

namespace CppSerializers.FlatBuffers

variable (library : Library)

/-- `vector ? _fbb.CreateVector(*vector) : 0`. -/
def createIfGiven {α : Type}
    (create : library.FlatBufferBuilder → α → Offset × library.FlatBufferBuilder)
    (fbb : library.FlatBufferBuilder) : Option α → Offset × library.FlatBufferBuilder
  | some vector => create fbb vector
  | none => (0, fbb)

/-- `CreateRecordDirect`. Which of the vectors is created first is up to the compiler. -/
def createRecordDirect (idsFirst : Bool) (fbb : library.FlatBufferBuilder)
    (ids : Option (List Int64)) (strings : Option (List Offset)) :
    Offset × library.FlatBufferBuilder :=
  if idsFirst then
    let (ids, fbb) := createIfGiven library library.createVector fbb ids
    let (strings, fbb) := createIfGiven library library.createVectorOfOffsets fbb strings
    createRecord library fbb ids strings
  else
    let (strings, fbb) := createIfGiven library library.createVectorOfOffsets fbb strings
    let (ids, fbb) := createIfGiven library library.createVector fbb ids
    createRecord library fbb ids strings

/-! ## Programs -/

/-- What a program does with a builder before it finishes the buffer. -/
inductive Call where
  | string (s : StdString)
  | ints (elements : List Int64)
  | offsets (elements : List Offset)
  | record (adds : List Add)
  | recordDirect (idsFirst : Bool) (ids : Option (List Int64)) (strings : Option (List Offset))

/-- The offset that is handed out, and the builder after the call. -/
def Call.run (fbb : library.FlatBufferBuilder) : Call → Offset × library.FlatBufferBuilder
  | .string s => library.createString fbb s
  | .ints elements => library.createVector fbb elements
  | .offsets elements => library.createVectorOfOffsets fbb elements
  | .record adds => buildRecord library fbb adds
  | .recordDirect idsFirst ids strings => createRecordDirect library idsFirst fbb ids strings

/-- The builder after a number of calls. -/
def runCalls (fbb : library.FlatBufferBuilder) (calls : List Call) : library.FlatBufferBuilder :=
  calls.foldl (fun fbb call => (call.run library fbb).2) fbb

variable {library} {table : library.FlatBufferBuilder → Option (Nat × List (Nat × Offset))}

section Lawful

variable (h : library.Lawful table)
include h

private theorem createIfGiven_spec {α : Type} {object : α → Object}
    {create : library.FlatBufferBuilder → α → Offset × library.FlatBufferBuilder}
    (hcreate : ∀ fbb vector, table fbb = none →
      library.Creates fbb (create fbb vector) (object vector) ∧ table (create fbb vector).2 = none)
    {fbb : library.FlatBufferBuilder} (hfbb : table fbb = none) (vector : Option α) :
    library.Grows fbb (createIfGiven library create fbb vector).2 ∧
      table (createIfGiven library create fbb vector).2 = none ∧
      ∀ later, library.Grows (createIfGiven library create fbb vector).2 later →
        (library.buffer later).length < maxBufferSize →
        library.object later (createIfGiven library create fbb vector).1 = vector.map object := by
  cases vector with
  | none => exact ⟨.refl fbb, hfbb, fun later _ _ => h.null later⟩
  | some vector =>
    obtain ⟨hcreates, htable⟩ := hcreate fbb vector hfbb
    exact ⟨hcreates.grows, htable, fun later => hcreates.object_later⟩

private theorem createRecordDirect_spec (idsFirst : Bool) {fbb : library.FlatBufferBuilder}
    (hfbb : table fbb = none) (ids : Option (List Int64)) (strings : Option (List Offset)) :
    ∃ (fbb' : library.FlatBufferBuilder) (idsOffset stringsOffset : Offset),
      createRecordDirect library idsFirst fbb ids strings =
        createRecord library fbb' idsOffset stringsOffset ∧
      library.Grows fbb fbb' ∧ table fbb' = none ∧
      ∀ later, library.Grows fbb' later → (library.buffer later).length < maxBufferSize →
        library.object later idsOffset = ids.map .ints ∧
          library.object later stringsOffset = strings.map .offsets := by
  cases idsFirst with
  | true =>
    obtain ⟨hgrows, htable, hids⟩ := createIfGiven_spec h h.createVector hfbb ids
    obtain ⟨hgrows', htable', hstrings⟩ :=
      createIfGiven_spec h h.createVectorOfOffsets htable strings
    exact ⟨_, _, _, rfl, hgrows.trans hgrows', htable',
      fun later hlater hsize =>
        ⟨hids later (hgrows'.trans hlater) hsize, hstrings later hlater hsize⟩⟩
  | false =>
    obtain ⟨hgrows, htable, hstrings⟩ :=
      createIfGiven_spec h h.createVectorOfOffsets hfbb strings
    obtain ⟨hgrows', htable', hids⟩ := createIfGiven_spec h h.createVector htable ids
    exact ⟨_, _, _, rfl, hgrows.trans hgrows', htable',
      fun later hlater hsize =>
        ⟨hids later hlater hsize, hstrings later (hgrows'.trans hlater) hsize⟩⟩

private theorem grows_run {fbb : library.FlatBufferBuilder} (hfbb : table fbb = none)
    (call : Call) :
    library.Grows fbb (call.run library fbb).2 ∧ table (call.run library fbb).2 = none := by
  cases call with
  | string s => exact (h.createString fbb s hfbb).imp_left Library.Creates.grows
  | ints elements => exact (h.createVector fbb elements hfbb).imp_left Library.Creates.grows
  | offsets elements =>
    exact (h.createVectorOfOffsets fbb elements hfbb).imp_left Library.Creates.grows
  | record adds => exact (h.buildRecord hfbb adds).imp_left Library.Creates.grows
  | recordDirect idsFirst ids strings =>
    obtain ⟨fbb', idsOffset, stringsOffset, heq, hgrows, htable, -⟩ :=
      createRecordDirect_spec h idsFirst hfbb ids strings
    obtain ⟨hcreates, hdone⟩ := h.createRecord htable idsOffset stringsOffset
    rw [Call.run, heq]
    exact ⟨hgrows.trans hcreates.grows, hdone⟩

private theorem grows_runCalls {fbb : library.FlatBufferBuilder} (hfbb : table fbb = none)
    (calls : List Call) :
    library.Grows fbb (runCalls library fbb calls) ∧ table (runCalls library fbb calls) = none := by
  induction calls generalizing fbb with
  | nil => exact ⟨.refl fbb, hfbb⟩
  | cons call calls ih =>
    obtain ⟨hgrows, htable⟩ := grows_run h hfbb call
    exact (ih htable).imp_left hgrows.trans

private theorem size_of_readsBack {fbb : library.FlatBufferBuilder} {root : Offset}
    (hfbb : table fbb = none) (hback : library.ReadsBack fbb root) :
    (library.buffer fbb).length < maxBufferSize :=
  Nat.lt_of_le_of_lt (h.finish fbb root hfbb).size_le hback.size_lt

end Lawful

/-! ## Finished records -/

/-- **What a record shows that was built field by field**, in any order, whatever is done with the
builder before it is finished: the integers and the strings that were added. -/
theorem buildRecord_viewed (h : library.Lawful table) (fbb : library.FlatBufferBuilder)
    (hfbb : table fbb = none) {adds : List Add} (hadds : (adds.map Add.number).Nodup)
    (calls : List Call)
    (hback : library.ReadsBack (runCalls library (buildRecord library fbb adds).2 calls)
      (buildRecord library fbb adds).1) :
    ∃ view, library.getRoot (library.buffer (library.finish
        (runCalls library (buildRecord library fbb adds).2 calls)
        (buildRecord library fbb adds).1)) = .ok view ∧
      (∀ offset elements, .addIds offset ∈ adds →
        library.object fbb offset = some (.ints elements) → ids view = elements) ∧
      ∀ offset offsets ss, .addStrings offset ∈ adds →
        library.object fbb offset = some (.offsets offsets) →
        offsets.mapM (library.stringAt fbb) = some ss → strings view = ss := by
  obtain ⟨hcreates, htable⟩ := h.buildRecord hfbb adds
  obtain ⟨hlater, hdone⟩ := grows_runCalls h htable calls
  have hsize := size_of_readsBack h hdone hback
  have hgrows := hcreates.grows.trans hlater
  obtain ⟨hfields, -⟩ := h.field_buildRecord hfbb hadds hlater hsize
  obtain ⟨view, hview, hints, hstrings⟩ := hback.views
  refine ⟨view, hview, fun offset elements hadd hobject => ?_,
    fun offset offsets ss hadd hobject hss => ?_⟩
  · exact hints vtIds elements ((hfields _ hadd).trans (hgrows.object_eq hsize hobject))
  · exact hstrings vtStrings offsets ss ((hfields _ hadd).trans (hgrows.object_eq hsize hobject))
      (hgrows.mapM_stringAt hsize hss)

/-- A string, a vector of it twice and a vector of integers in a new builder. -/
def vectorsBuilder (library : Library) : library.FlatBufferBuilder :=
  let (s, fbb) := library.createString library.new (lit "a")
  let (_, fbb) := library.createVectorOfOffsets fbb [s, s]
  (library.createVector fbb [1, 2]).2

/-- A record of both vectors, the integers first, and two records with one field behind it. -/
theorem buildRecord_viewed_reference :
    ∃ view, Reference.FlatBuffers.library.getRoot (Reference.FlatBuffers.library.buffer
        (Reference.FlatBuffers.library.finish
          (runCalls Reference.FlatBuffers.library
            (buildRecord Reference.FlatBuffers.library
              (vectorsBuilder Reference.FlatBuffers.library) [.addIds 3, .addStrings 2]).2
            [.record [.addIds 3], .recordDirect true none (some [])]) 4)) = .ok view ∧
      ids view = [1, 2] ∧ strings view = [lit "a", lit "a"] := by
  obtain ⟨view, hview, hids, hstrings⟩ := buildRecord_viewed Reference.FlatBuffers.library_lawful
    (vectorsBuilder Reference.FlatBuffers.library) rfl
    (show ([.addIds 3, .addStrings 2].map Add.number).Nodup by decide)
    [.record [.addIds 3], .recordDirect true none (some [])]
    (Reference.FlatBuffers.readsBack_of_shows rfl (by decide +kernel) (by decide +kernel))
  exact ⟨view, hview, hids 3 [1, 2] (by simp) rfl,
    hstrings 2 [1, 1] [lit "a", lit "a"] (by simp) rfl rfl⟩

/-- **What a record shows that was created directly**: the vectors it was created from, with the
strings that their offsets had at the time, in whatever order they were created and whatever is
done with the builder before it is finished. -/
theorem recordDirect_viewed (h : library.Lawful table) (idsFirst : Bool)
    (fbb : library.FlatBufferBuilder) (hfbb : table fbb = none) (ids : List Int64)
    {offsets : List Offset} {ss : List StdString}
    (hss : offsets.mapM (library.stringAt fbb) = some ss) (calls : List Call)
    (hback : library.ReadsBack
      (runCalls library (createRecordDirect library idsFirst fbb (some ids) (some offsets)).2 calls)
      (createRecordDirect library idsFirst fbb (some ids) (some offsets)).1) :
    ∃ view, library.getRoot (library.buffer (library.finish
        (runCalls library
          (createRecordDirect library idsFirst fbb (some ids) (some offsets)).2 calls)
        (createRecordDirect library idsFirst fbb (some ids) (some offsets)).1)) = .ok view ∧
      viewedRecord view = ⟨ids, ss⟩ := by
  obtain ⟨fbb', idsOffset, stringsOffset, heq, hgrows, hfbb', hvectors⟩ :=
    createRecordDirect_spec h idsFirst hfbb (some ids) (some offsets)
  rw [heq] at hback ⊢
  obtain ⟨hcreates, htable⟩ := h.createRecord hfbb' idsOffset stringsOffset
  obtain ⟨hlater, hdone⟩ := grows_runCalls h htable calls
  have hsize := size_of_readsBack h hdone hback
  have hgrows' := hcreates.grows.trans hlater
  obtain ⟨hfieldIds, hfieldStrings⟩ := h.field_createRecord hfbb' hlater hsize
  obtain ⟨hids, hoffsets⟩ := hvectors _ hgrows' hsize
  obtain ⟨view, hview, hints, hstrings⟩ := hback.views
  refine ⟨view, hview, congrArg₂ Record.mk ?_ ?_⟩
  · exact hints vtIds ids (hfieldIds.trans hids)
  · exact hstrings vtStrings offsets ss (hfieldStrings.trans hoffsets)
      ((hgrows.trans hgrows').mapM_stringAt hsize hss)

/-- A string before the record, another record behind it, which shares its strings. -/
theorem recordDirect_viewed_reference :
    ∃ view, Reference.FlatBuffers.library.getRoot (Reference.FlatBuffers.library.buffer
        (Reference.FlatBuffers.library.finish
          (runCalls Reference.FlatBuffers.library
            (createRecordDirect Reference.FlatBuffers.library false
              (Reference.FlatBuffers.library.createString {} (lit "a")).2
              (some [1, 2]) (some [1, 1])).2
            [.record [.addStrings 2], .string (lit "b")]) 4)) = .ok view ∧
      viewedRecord view = ⟨[1, 2], [lit "a", lit "a"]⟩ :=
  recordDirect_viewed Reference.FlatBuffers.library_lawful false _ rfl [1, 2] rfl _
    (Reference.FlatBuffers.readsBack_of_shows rfl (by decide +kernel) (by decide +kernel))

end CppSerializers.FlatBuffers
