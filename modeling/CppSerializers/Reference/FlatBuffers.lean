import CppSerializers.Foundation.Words
import CppSerializers.Libraries.FlatBuffers

/-!
# The format of FlatBuffers

A buffer grows downwards, so that an object lies below those it refers to, and offsets are
counted in bytes. The fields of a table are found through its vtable. The offsets that are
handed out number the objects, which are also kept as they were given.

## Main results

* `library_lawful` — the operations do what is documented
* `readsBack_of_shows` — reading back is checked field by field
-/

namespace CppSerializers.Reference.FlatBuffers

open Foundation CppSerializers.FlatBuffers

/-! ## Bytes -/

/-- A buffer that grows downwards. An object lies where the size of the buffer was when its
last byte had been written. -/
structure Buffer where
  bytes : StdString := []
  /-- Where the objects lie, by their offsets. -/
  locations : List Nat := []
  minAlign : Nat := 1

namespace Buffer

variable (buf : Buffer)

/-- `PreAlign`: afterwards `size` more bytes end at a multiple of `align`. -/
def preAlign (size align : Nat) : Buffer :=
  { buf with
    bytes := List.replicate (padding align (buf.bytes.length + size)) 0 ++ buf.bytes
    minAlign := max buf.minAlign align }

/-- `PushBytes`. -/
def push (bytes : StdString) : Buffer := { buf with bytes := bytes ++ buf.bytes }

/-- `PushElement`, of four bytes. -/
def pushWord (n : Nat) : Buffer := (buf.preAlign 4 4).push (bytesLE 4 n)

/-- `ReferTo`, pushed: the distance of the object from the word that refers to it. -/
def pushReference (offset : Offset) : Buffer :=
  let buf := buf.preAlign 4 4
  buf.push (bytesLE 4 (buf.bytes.length + 4 - buf.locations.getD (offset - 1) 0))

/-- The object has been written. -/
def record : Buffer := { buf with locations := buf.locations ++ [buf.bytes.length] }

/-- The fields of a table; where each of them lies. -/
def pushFields : List (Nat × Offset) → Buffer → List (Nat × Nat) × Buffer
  | [], buf => ([], buf)
  | (field, offset) :: fields, buf =>
    let buf := buf.pushReference offset
    let rest := pushFields fields buf
    ((field, buf.bytes.length) :: rest.1, rest.2)

/-- `EndTable`: a vtable that gives, for every field, its distance from the table. -/
def pushTable (fields : List (Nat × Offset)) : Buffer :=
  let start := buf.bytes.length
  -- Fields that are added later lie lower.
  let (locations, body) := pushFields fields buf
  let table := (body.preAlign 4 4).bytes.length + 4
  let size := (fields.map (·.1 + 2)).foldr max 4
  let entries := (List.range ((size - 4) / 2)).flatMap fun i =>
    bytesLE 2 (((locations.lookup (2 * i + 4)).map (table - ·)).getD 0)
  -- The table begins with its distance from the vtable, which lies right below it.
  let body := (body.pushWord size).record
  body.push (bytesLE 2 size ++ bytesLE 2 (table - start) ++ entries)

/-- Append an object as the builder does. -/
def append (buf : Buffer) : Object → Buffer
  | .string s =>
    -- The length lies below the string, and the terminating zero does not count.
    (((buf.preAlign (s.length + 1) 4).push (s ++ [0])).pushWord s.length).record
  | .ints elements =>
    -- Aligned for the length, then for the elements.
    let buf := (buf.preAlign (8 * elements.length) 4).preAlign (8 * elements.length) 8
    ((buf.push (elements.flatMap fun x => bytesLE 8 (natOfInt64 x))).pushWord
      elements.length).record
  | .offsets elements =>
    let buf := buf.preAlign (4 * elements.length) 4
    ((elements.foldr (fun offset buf => buf.pushReference offset) buf).pushWord
      elements.length).record
  | .table fields => buf.pushTable fields

end Buffer

/-! ## Building -/

/-- A buffer with its objects, and the table under construction. -/
structure FlatBufferBuilder where
  buf : Buffer := {}
  objects : List Object := []
  table : Option (Nat × List (Nat × Offset)) := none

namespace FlatBufferBuilder

variable (builder : FlatBufferBuilder)

/-- Append an object and hand out its offset. -/
def create (object : Object) : Offset × FlatBufferBuilder :=
  (builder.objects.length + 1,
    { buf := builder.buf.append object, objects := builder.objects ++ [object] })

def startTable : Nat × FlatBufferBuilder :=
  (builder.buf.bytes.length, { builder with table := some (builder.buf.bytes.length, []) })

def addOffset (number : Nat) (offset : Offset) : FlatBufferBuilder :=
  { builder with
    table := builder.table.map fun (start, fields) =>
      (start, if offset = 0 then fields else fields ++ [(number, offset)]) }

def endTable (_start : Nat) : Offset × FlatBufferBuilder :=
  builder.create (.table ((builder.table.map Prod.snd).getD []))

def finish (root : Offset) : FlatBufferBuilder :=
  { builder with buf := (builder.buf.preAlign 4 builder.buf.minAlign).pushReference root }

/-- The object at an offset. -/
def object (offset : Offset) : Option Object :=
  if offset = 0 then none else builder.objects[offset - 1]?

end FlatBufferBuilder

/-! ## Views -/

/-- Follow the offset at a position. -/
def follow (bytes : StdString) (position : Nat) : Nat := position + numberAt bytes 4 position

/-- The positions of the elements of the vector in a field of the root table. -/
def vectorAt (bytes : StdString) (elementSize field : Nat) : List Nat :=
  let table := follow bytes 0
  let vtable := table - numberAt bytes 4 table
  let entry := if field < numberAt bytes 2 vtable then numberAt bytes 2 (vtable + field) else 0
  if entry = 0 then []
  else
    let vector := follow bytes (table + entry)
    (List.range (numberAt bytes 4 vector)).map (vector + 4 + elementSize * ·)

/-- The string at a position. -/
def stringAt (bytes : StdString) (position : Nat) : StdString :=
  (bytes.drop (position + 4)).take (numberAt bytes 4 position)

/-- The accessors do not check anything. -/
def view (bytes : StdString) : View where
  ints n := (vectorAt bytes 8 n).map fun i => int64OfNat (numberAt bytes 8 i)
  strings n := (vectorAt bytes 4 n).map fun i => stringAt bytes (follow bytes i)

/-! ## The library -/

def library : Library where
  FlatBufferBuilder := FlatBufferBuilder
  new := {}
  createString builder s := builder.create (.string s)
  createVector builder elements := builder.create (.ints elements)
  createVectorOfOffsets builder elements := builder.create (.offsets elements)
  startTable := FlatBufferBuilder.startTable
  addOffset := FlatBufferBuilder.addOffset
  endTable := FlatBufferBuilder.endTable
  finish := FlatBufferBuilder.finish
  object := FlatBufferBuilder.object
  buffer builder := builder.buf.bytes
  getRoot bytes := .ok (view bytes)

namespace Buffer

variable (buf : Buffer)

private theorem length_preAlign (size align : Nat) :
    buf.bytes.length ≤ (buf.preAlign size align).bytes.length := by
  simp [preAlign]

private theorem length_push (bytes : StdString) :
    buf.bytes.length ≤ (buf.push bytes).bytes.length := by
  simp [push]

private theorem length_pushWord (n : Nat) : buf.bytes.length ≤ (buf.pushWord n).bytes.length :=
  (buf.length_preAlign 4 4).trans (length_push _ _)

private theorem length_pushReference (offset : Offset) :
    buf.bytes.length ≤ (buf.pushReference offset).bytes.length :=
  (buf.length_preAlign 4 4).trans (length_push _ _)

private theorem length_pushFields (fields : List (Nat × Offset)) :
    buf.bytes.length ≤ (pushFields fields buf).2.bytes.length := by
  induction fields generalizing buf with
  | nil => exact Nat.le_refl _
  | cons field fields ih => exact (buf.length_pushReference field.2).trans (ih _)

private theorem length_foldr_pushReference (offsets : List Offset) :
    buf.bytes.length ≤
      (offsets.foldr (fun offset buf => buf.pushReference offset) buf).bytes.length := by
  induction offsets with
  | nil => exact Nat.le_refl _
  | cons offset offsets ih => exact ih.trans (length_pushReference _ _)

private theorem length_append (object : Object) :
    buf.bytes.length ≤ (buf.append object).bytes.length := by
  cases object with
  | string s =>
    exact (buf.length_preAlign _ _).trans ((length_push _ _).trans (length_pushWord _ _))
  | ints elements =>
    refine (buf.length_preAlign (8 * elements.length) 4).trans ?_
    exact (length_preAlign _ _ _).trans ((length_push _ _).trans (length_pushWord _ _))
  | offsets elements =>
    refine (buf.length_preAlign (4 * elements.length) 4).trans ?_
    exact (length_foldr_pushReference _ elements).trans (length_pushWord _ _)
  | table fields =>
    exact (buf.length_pushFields fields).trans ((length_pushWord _ _).trans (length_push _ _))

end Buffer

private theorem grows_of_objects {builder builder' : FlatBufferBuilder}
    (hsize : builder.buf.bytes.length ≤ builder'.buf.bytes.length)
    (hobjects : builder.objects <+: builder'.objects) :
    library.Grows builder builder' where
  size_le := hsize
  object_eq _ offset object h := by
    obtain ⟨more, hmore⟩ := hobjects
    change (if offset = 0 then none else builder.objects[offset - 1]?) = some object at h
    show (if offset = 0 then none else builder'.objects[offset - 1]?) = some object
    split at h
    · cases h
    · next hnull =>
      have hlt := (List.getElem?_eq_some_iff.mp h).1
      rw [if_neg hnull, ← hmore, List.getElem?_append_left hlt, h]

private theorem creates_create (builder : FlatBufferBuilder) (object : Object) :
    library.Creates builder (builder.create object) object where
  grows := grows_of_objects (builder.buf.length_append object) (List.prefix_append _ _)
  object_eq _ := List.getElem?_concat_length ..

theorem library_lawful : library.Lawful FlatBufferBuilder.table where
  new := rfl
  null _ := rfl
  createString builder s _ := ⟨creates_create builder _, rfl⟩
  createVector builder elements _ := ⟨creates_create builder _, rfl⟩
  createVectorOfOffsets builder elements _ := ⟨creates_create builder _, rfl⟩
  startTable builder _ := ⟨grows_of_objects (Nat.le_refl _) (List.prefix_refl _), rfl⟩
  addOffset builder start fields number offset htable := by
    refine ⟨grows_of_objects (Nat.le_refl _) (List.prefix_refl _), ?_⟩
    show builder.table.map _ = _
    rw [htable]
    rfl
  endTable builder start fields htable := by
    have hfields : (builder.table.map Prod.snd).getD [] = fields := by
      rw [htable]
      rfl
    exact ⟨hfields ▸ creates_create builder _, rfl⟩
  finish builder root _ :=
    grows_of_objects ((builder.buf.length_preAlign _ _).trans (Buffer.length_pushReference _ _))
      (List.prefix_refl _)

/-! ## Reading back -/

/-- The accessors show the vector that a field refers to. -/
def shows (builder : FlatBufferBuilder) (r2 : View) (entry : Nat × Offset) : Bool :=
  match builder.object entry.2 with
  | some (.ints elements) => r2.ints entry.1 == elements
  | some (.offsets offsets) =>
    offsets.mapM (library.stringAt builder) == some (r2.strings entry.1)
  | _ => true

theorem readsBack_of_shows {builder : FlatBufferBuilder} {root : Offset}
    {fields : List (Nat × Offset)} (hroot : builder.object root = some (.table fields))
    (hsize : (builder.finish root).buf.bytes.length < maxBufferSize)
    (hshows : fields.all (shows builder (view (builder.finish root).buf.bytes))) :
    library.ReadsBack builder root := by
  have hfield : ∀ {n object}, library.field builder root n = some object →
      ∃ offset, builder.object offset = some object ∧
        shows builder (view (builder.finish root).buf.bytes) (n, offset) := by
    intro n object h
    have hlookup : library.field builder root n = (fields.lookup n >>= builder.object) := by
      have hobject : library.object builder root = some (.table fields) := hroot
      simp only [Library.field, hobject]
      rfl
    rw [hlookup] at h
    obtain ⟨offset, hentry, hobject⟩ := Option.bind_eq_some_iff.mp h
    obtain ⟨_, _, hmem, -⟩ := List.lookup_eq_some_iff.mp hentry
    exact ⟨offset, hobject, List.all_eq_true.mp hshows _ (hmem ▸ List.mem_append_cons_self)⟩
  refine ⟨hsize, _, rfl, fun n elements h => ?_, fun n offsets ss h hss => ?_⟩
  · obtain ⟨offset, hobject, hshown⟩ := hfield h
    rw [shows, hobject] at hshown
    exact beq_iff_eq.mp hshown
  · obtain ⟨offset, hobject, hshown⟩ := hfield h
    rw [shows, hobject] at hshown
    exact (Option.some.inj (hss.symm.trans (beq_iff_eq.mp hshown))).symm

end CppSerializers.Reference.FlatBuffers
