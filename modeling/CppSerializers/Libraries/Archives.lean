import CppSerializers.Model.Data

/-!
# Archives: the records of Boost, cereal, YAS, MessagePack and Avro

Five libraries write a record into one stream, its integers and then its strings,
and read it back into a target. What the repository adds to each of them is small
and differs: a `serialize` template that one archive type instantiates for writing
and another for reading (Boost, cereal, YAS), a macro that packs the members as an
array (MessagePack), a generated `codec_traits` (Avro). These are embedded here;
how a vector is written, and what surrounds it, belongs to the libraries and is a
parameter.

All of them end in a `StreamCodec`, the encoding and decoding of whole records that
the benchmarks use.

## Main definitions

* `StreamCodec`, `StreamCodec.RoundTrips` — encoding and decoding whole records
* `serialize`, `Archive.codec` — Boost, cereal and YAS
* `Msgpack.pack`, `Msgpack.convert`, `Msgpack.Packer.codec` — MessagePack
* `Avro.encode`, `Avro.decode`, `Avro.codec` — Avro

## Main results

* `Archive.roundTrips`, `Msgpack.Packer.Lawful.roundTrips`, `Avro.roundTrips` — each
  codec reads back what it wrote, whatever the target held
-/

namespace CppSerializers

open Foundation

/-- Encoding and decoding whole records. A decoder reads into a target. -/
structure StreamCodec where
  encode : Record → StdString
  decode : Record → ByteReader Record

/-- The decoder recognises the encoding of `r`, whatever the target held and whatever
follows in the stream. -/
def StreamCodec.RoundTrips (c : StreamCodec) (r : Record) : Prop :=
  ∀ target, Recognises (c.decode target) (c.encode r) r

/-! ## Vectors -/

/-- How a library writes the two vector types of a record, and reads them into one. -/
structure Vectors where
  /-- The longest vector or string the library carries. -/
  maxLength : Nat
  saveInts : List Int64 → StdString
  saveStrings : List StdString → StdString
  loadInts : List Int64 → ByteReader (List Int64)
  loadStrings : List StdString → ByteReader (List StdString)

/-- A vector is read back in place of whatever the target held. -/
structure Vectors.Lawful (V : Vectors) : Prop where
  ints : ∀ ids target, ids.length ≤ V.maxLength →
    Recognises (V.loadInts target) (V.saveInts ids) ids
  strings : ∀ strings target, strings.length ≤ V.maxLength →
    (∀ s ∈ strings, s.length ≤ V.maxLength) →
    Recognises (V.loadStrings target) (V.saveStrings strings) strings

/-! ## Boost, cereal and YAS -/

/-- The `Archive` parameter of a `serialize` template: what `ar & member` does, for the
two types of members. -/
structure Archiver (m : Type → Type) where
  ints : List Int64 → m (List Int64)
  strings : List StdString → m (List StdString)

/-- `Record::serialize`. The three templates write it as `ar & ids; ar & strings`, as
`archive(ids, strings)` and as `ar & ids & strings`. -/
def serialize {m : Type → Type} [Monad m] (ar : Archiver m) (record : Record) : m Record := do
  let ids ← ar.ints record.ids
  let strings ← ar.strings record.strings
  return { ids := ids, strings := strings }

/-- An archive type of a library. -/
structure Archive extends Vectors where
  /-- What constructing an output archive and opening a record in it writes: format
  headers and class information, where the library has them. -/
  preamble : StdString
  readPreamble : ByteReader Unit

/-- The output archive appends to its stream and leaves the members alone. -/
def Archive.output (A : Archive) : Archiver (StateM StdString) where
  ints ids := do
    modify (· ++ A.saveInts ids)
    return ids
  strings strings := do
    modify (· ++ A.saveStrings strings)
    return strings

/-- The input archive reads from its stream into the members. -/
def Archive.input (A : Archive) : Archiver ByteReader where
  ints := A.loadInts
  strings := A.loadStrings

/-- A record through a new output archive, and through a new input archive. -/
def Archive.codec (A : Archive) : StreamCodec where
  encode record := ((serialize A.output record).run A.preamble).2
  decode record := do
    A.readPreamble
    serialize A.input record

/-- `to_string`: whatever `data` held is replaced by the content of a new stream. -/
def toString (c : StreamCodec) (record : Record) (_data : StdString) : StdString :=
  c.encode record

/-- `from_string`: the record is read from a new stream over `data`. What the stream
still holds afterwards is returned too. -/
def fromString (c : StreamCodec) (record : Record) (data : StdString) :
    Except Exception (Record × StdString) :=
  (c.decode record).run data

theorem Archive.encode_eq (A : Archive) (r : Record) :
    A.codec.encode r = A.preamble ++ (A.saveInts r.ids ++ A.saveStrings r.strings) := by
  rw [← List.append_assoc]
  rfl

/-- The archives of a library are lawful if its vectors are and the preamble is read
back. -/
structure Archive.Lawful (A : Archive) : Prop extends Vectors.Lawful A.toVectors where
  preamble : Recognises A.readPreamble A.preamble ()

private theorem Vectors.Lawful.both {V : Vectors} (h : V.Lawful) {r : Record}
    (hr : r.FitsIn V.maxLength) (target : Record) :
    Recognises
      (do
        let ids ← V.loadInts target.ids
        let strings ← V.loadStrings target.strings
        return ({ ids := ids, strings := strings } : Record))
      (V.saveInts r.ids ++ V.saveStrings r.strings) r := by
  refine (h.ints r.ids target.ids hr.ids_le).bind ?_
  rw [bind_pure_comp]
  exact (h.strings r.strings target.strings hr.strings_le hr.string_le).map (Record.mk r.ids)

/-- **Round trip**, for Boost, cereal and YAS. -/
theorem Archive.roundTrips {A : Archive} (h : A.Lawful) {r : Record}
    (hr : r.FitsIn A.maxLength) : A.codec.RoundTrips r := by
  intro target
  -- The preamble first, then the two vectors.
  rw [A.encode_eq]
  exact h.preamble.bind (h.toLawful.both hr target)

/-- The options of a YAS archive that the benchmark sets. -/
structure YasOptions where
  /-- `yas::binary`. -/
  binary : Bool := false
  /-- `yas::no_header`. -/
  noHeader : Bool := false
  /-- `yas::compacted`. -/
  compacted : Bool := false
  deriving DecidableEq, Repr

/-! ## MessagePack -/

namespace Msgpack

/-- Packing into a buffer, unpacking into an object, and converting an object. -/
structure Packer where
  /-- `msgpack::object`. -/
  Object : Type
  /-- The longest vector or string the library carries. -/
  maxLength : Nat
  packArray : Nat → StdString
  packInts : List Int64 → StdString
  packStrings : List StdString → StdString
  unpack : ByteReader Object
  /-- The elements of an object of type `ARRAY`. -/
  elements : Object → Option (List Object)
  convertInts : Object → List Int64 → Except Exception (List Int64)
  convertStrings : Object → List StdString → Except Exception (List StdString)

variable (P : Packer)

/-- `msgpack::pack(sbuf, record)`: what `MSGPACK_DEFINE(ids, strings)` appends to the
buffer, an array of the members. -/
def pack (r : Record) : StdString :=
  P.packArray 2 ++ (P.packInts r.ids ++ P.packStrings r.strings)

/-- The exception for an object that is no array. -/
def typeError : Exception := .library (lit "std::bad_cast")

/-- A member that the array is too short for keeps its value. -/
def convertMember {α : Type} (convert : P.Object → α → Except Exception α)
    (element : Option P.Object) (member : α) : Except Exception α :=
  match element with
  | none => pure member
  | some object => convert object member

/-- `object::convert(record)`, as `MSGPACK_DEFINE(ids, strings)` defines it. -/
def convert (object : P.Object) (record : Record) : Except Exception Record :=
  match P.elements object with
  | none => throw typeError
  | some elements => do
    let ids ← convertMember P P.convertInts elements[0]? record.ids
    let strings ← convertMember P P.convertStrings elements[1]? record.strings
    return { ids := ids, strings := strings }

/-- Pack a record; unpack an object and convert it. -/
def Packer.codec : StreamCodec where
  encode := pack P
  decode record := do
    let object ← P.unpack
    StateT.lift (convert P object record)

/-- A packed pair of vectors is unpacked to an array of two objects, which convert to
the vectors. -/
structure Packer.Lawful : Prop where
  pair : ∀ ids strings, ids.length ≤ P.maxLength → strings.length ≤ P.maxLength →
    (∀ s ∈ strings, s.length ≤ P.maxLength) →
    ∃ object first second,
      Recognises P.unpack (P.packArray 2 ++ (P.packInts ids ++ P.packStrings strings)) object ∧
      P.elements object = some [first, second] ∧
      (∀ target, P.convertInts first target = .ok ids) ∧
      (∀ target, P.convertStrings second target = .ok strings)

/-- **Round trip**, for MessagePack. -/
theorem Packer.Lawful.roundTrips {P : Packer} (h : P.Lawful) {r : Record}
    (hr : r.FitsIn P.maxLength) : P.codec.RoundTrips r := by
  intro target
  -- Both members are there, so neither keeps what the target held.
  obtain ⟨object, first, second, hunpack, helements, hints, hstrings⟩ :=
    h.pair r.ids r.strings hr.ids_le hr.strings_le hr.string_le
  have hconvert : convert P object target = .ok r := by
    simp only [convert, helements, convertMember, List.getElem?_cons_zero,
      List.getElem?_cons_succ, hints, hstrings]
    rfl
  refine hunpack.bind_pure ?_
  rw [hconvert]
  rfl

end Msgpack

/-! ## Avro -/

namespace Avro

variable (V : Vectors)

/-- `codec_traits<Record>::encode`. -/
def encode (v : Record) : StdString := V.saveInts v.ids ++ V.saveStrings v.strings

/-- One step of the loop over the field order of a `ResolvingDecoder`. -/
def decodeField (v : Record) (field : Nat) : ByteReader Record :=
  match field with
  | 0 => do
    let ids ← V.loadInts v.ids
    return { v with ids := ids }
  | 1 => do
    let strings ← V.loadStrings v.strings
    return { v with strings := strings }
  | _ => pure v

/-- `codec_traits<Record>::decode`. A `ResolvingDecoder` says in which order the fields
come, any other decoder (`none`) has them in order. -/
def decode (fieldOrder : Option (List Nat)) (v : Record) : ByteReader Record :=
  match fieldOrder with
  | some order => order.foldlM (decodeField V) v
  | none => do
    -- Each vector is decoded into the member of the target.
    let ids ← V.loadInts v.ids
    let strings ← V.loadStrings v.strings
    return { ids := ids, strings := strings }

/-- A record through `binaryEncoder` and `binaryDecoder`, which is no `ResolvingDecoder`. -/
def codec : StreamCodec where
  encode := encode V
  decode := decode V none

/-- **Round trip**, for Avro. -/
theorem roundTrips {V : Vectors} (h : V.Lawful) {r : Record} (hr : r.FitsIn V.maxLength) :
    (codec V).RoundTrips r := h.both hr

end Avro

end CppSerializers
