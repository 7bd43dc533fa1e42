import CppSerializers.Model.Data

/-!
# Thrift: the generated record code over a protocol

`thrift/gen-cpp/test_types.cpp` writes and reads a `Record` through a `TProtocol`.
The protocols themselves (`TBinaryProtocol`, `TCompactProtocol`) belong to the
Thrift library; here a protocol is a parameter: a state, the calls that append
bytes to the transport, and the calls that consume them.

A protocol object lives as long as the benchmark and is used for one record after
another, so its state matters: the compact protocol remembers the number of the
last field. `TProtocol.InStep` states what the generated code relies on, call by
call: inside a struct a reading call recognises what the writing call of the same
kind emitted, and closing the struct leaves both protocols as they were
constructed. From this `roundTrips` derives the same for whole records, for any
number of them through the same two protocol objects.

The recursion trackers at the head of `read` and `write` are left out: they guard
against nesting, and a `Record` contains no struct.
-/

namespace CppSerializers.Thrift

open Foundation

/-- The field types the generated code distinguishes. -/
inductive TType where
  | stop
  | i64
  | string
  | list
  /-- Any other type, by its code. -/
  | other (code : Nat)
  deriving DecidableEq, Repr

/-- A protocol over a memory transport. Names and numbers are those of the calls the
generated code makes; results it ignores are not returned. -/
structure TProtocol where
  /-- What a protocol object remembers between calls. -/
  State : Type
  /-- The state of a newly constructed protocol. -/
  fresh : State
  /-- The longest list or string the protocol carries. -/
  maxLength : Nat
  writeStructBegin : StdString → Emitter State UInt8
  writeStructEnd : Emitter State UInt8
  writeFieldBegin : StdString → TType → Nat → Emitter State UInt8
  writeFieldEnd : Emitter State UInt8
  writeFieldStop : Emitter State UInt8
  writeListBegin : TType → Nat → Emitter State UInt8
  writeListEnd : Emitter State UInt8
  writeI64 : Int64 → Emitter State UInt8
  writeString : StdString → Emitter State UInt8
  readStructBegin : StateT State ByteReader Unit
  readStructEnd : StateT State ByteReader Unit
  readFieldBegin : StateT State ByteReader (TType × Nat)
  readFieldEnd : StateT State ByteReader Unit
  readListBegin : StateT State ByteReader (TType × Nat)
  readListEnd : StateT State ByteReader Unit
  readI64 : StateT State ByteReader Int64
  readString : StateT State ByteReader StdString
  skip : TType → StateT State ByteReader Unit

variable (P : TProtocol)

/-! ## The generated code -/

/-- `static_cast<uint32_t>(size)`. -/
def uint32Cast (size : Nat) : Nat := size % 2 ^ 32

/-- The block of `Record::write` that writes one vector. -/
def writeListBody {α : Type} (etype : TType) (put : α → Emitter P.State UInt8) (xs : List α) :
    Emitter P.State UInt8 :=
  (P.writeListBegin etype (uint32Cast xs.length)).andThen <|
    (Emitter.forEach put xs).andThen P.writeListEnd

/-- One list field of `Record::write`. -/
def writeListField {α : Type} (name : StdString) (fid : Nat) (etype : TType)
    (put : α → Emitter P.State UInt8) (xs : List α) : Emitter P.State UInt8 :=
  (P.writeFieldBegin name .list fid).andThen <|
    (writeListBody P etype put xs).andThen P.writeFieldEnd

/-- `Record::write`. -/
def write (r : Record) : Emitter P.State UInt8 :=
  (P.writeStructBegin (lit "Record")).andThen <|
    (writeListField P (lit "ids") 1 .i64 P.writeI64 r.ids).andThen <|
    (writeListField P (lit "strings") 2 .string P.writeString r.strings).andThen <|
    P.writeFieldStop.andThen P.writeStructEnd

/-- The body of a list field of `Record::read`: the vector is cleared, resized to the
announced size, and then assigned element by element. -/
def readListBody {α : Type} (get : StateT P.State ByteReader α) :
    StateT P.State ByteReader (List α) := do
  -- The announced type of the elements is not looked at.
  let (_, size) ← P.readListBegin
  let xs ← repeatM get size
  P.readListEnd
  return xs

/-- The local variables of `Record::read` that live across its loop. -/
structure ReadState where
  /-- `*this`. -/
  target : Record
  issetIds : Bool := false
  issetStrings : Bool := false

/-- The `switch (fid)` of `Record::read`. -/
def readField (ftype : TType) (fid : Nat) (st : ReadState) :
    StateT P.State ByteReader ReadState :=
  match fid with
  | 1 =>
    if ftype = .list then do
      let ids ← readListBody P P.readI64
      return { st with target := { st.target with ids := ids }, issetIds := true }
    -- A field of another type is skipped, and stays missing.
    else do
      P.skip ftype
      return st
  | 2 =>
    if ftype = .list then do
      let strings ← readListBody P P.readString
      return { st with target := { st.target with strings := strings }, issetStrings := true }
    else do
      P.skip ftype
      return st
  -- Fields of any other number are unknown.
  | _ => do
    P.skip ftype
    return st

/-- The `while (true)` of `Record::read`, which leaves at `T_STOP`. The number of passes
is bounded by `fuel`. -/
def readFields : Nat → ReadState → StateT P.State ByteReader ReadState
  | 0, _ => throw (.library (lit "Record::read does not return"))
  | fuel + 1, st => do
    let field ← P.readFieldBegin
    if field.1 = .stop then
      return st
    else do
      let st ← readField P field.1 field.2 st
      P.readFieldEnd
      readFields fuel st

/-- The exception for a missing required field. -/
def invalidData : Exception := .library (lit "TProtocolException: Invalid data")

/-- The end of `Record::read`: both fields are required. -/
def readResult (st : ReadState) : StateT P.State ByteReader Record :=
  -- Only after the whole struct has been read.
  if !st.issetIds then throw invalidData
  else if !st.issetStrings then throw invalidData
  else pure st.target

/-- `Record::read` with a bound on the passes of its loop. -/
def readBounded (fuel : Nat) (target : Record) : StateT P.State ByteReader Record := do
  P.readStructBegin
  let st ← readFields P fuel { target := target }
  P.readStructEnd
  readResult P st

/-- `Record::read`, into the record `target`. A pass of the loop that does not leave it
consumes at least the type of its field, so the loop needs no more passes than
there are bytes, plus those of a record without a single element. -/
def read (target : Record) : StateT P.State ByteReader Record := fun protocol => do
  let stream ← get
  (readBounded P (stream.length + 3) target).run protocol

/-- `Record::read` looks at its input for a bound on its passes. -/
theorem run_read (target : Record) (protocol : P.State) (stream : StdString) :
    ((read P target).run protocol).run stream =
      ((readBounded P (stream.length + 3) target).run protocol).run stream := by
  have hread : (read P target).run protocol =
      (get >>= fun stream : StdString => (readBounded P (stream.length + 3) target).run protocol) :=
    rfl
  rw [hread, StateT.run_bind, StateT.run_get, pure_bind]

/-! ## What the benchmark sees -/

/-- Writing and reading whole records through protocol objects. -/
structure ProtocolCodec where
  /-- The state of a protocol object. -/
  Protocol : Type
  /-- A newly constructed protocol. -/
  fresh : Protocol
  write : Record → Emitter Protocol UInt8
  read : Record → StateT Protocol ByteReader Record

/-- The generated code over a protocol. -/
def TProtocol.codec : ProtocolCodec where
  Protocol := P.State
  fresh := P.fresh
  write := Thrift.write P
  read := Thrift.read P

/-- The bytes a newly constructed protocol writes for a record. -/
def ProtocolCodec.encode (c : ProtocolCodec) (r : Record) : StdString := (c.write r c.fresh).1

/-- Writing a record leaves the protocol as it was constructed, so the next record is
written alike. -/
def ProtocolCodec.Restores (c : ProtocolCodec) (r : Record) : Prop :=
  (c.write r c.fresh).2 = c.fresh

/-- Writing and reading a record both leave their protocol as it was constructed, and
reading recognises what was written, whatever the target held. -/
structure ProtocolCodec.RoundTrips (c : ProtocolCodec) (r : Record) : Prop where
  restores : c.Restores r
  recognises : ∀ target,
    Recognises ((c.read target).run c.fresh) (c.encode r) (r, c.fresh)

/-! ## What the generated code relies on -/

/-- Both protocols are as they were constructed. -/
def TProtocol.Idle (w r : P.State) : Prop := w = P.fresh ∧ r = P.fresh

/-- Call by call, the reading side recognises what the writing side emits. `Inside`
relates the two protocols between the opening and the closing of a struct. -/
structure TProtocol.InStep (Inside : P.State → P.State → Prop) : Prop where
  /-- Every admissible length survives the cast to `uint32_t`. -/
  maxLength_lt : P.maxLength < 2 ^ 32
  structBegin : ∀ name, Lockstep P.Idle (P.writeStructBegin name) P.readStructBegin () Inside
  structEnd : Lockstep Inside P.writeStructEnd P.readStructEnd () P.Idle
  fieldBegin : ∀ name fid, 0 < fid → fid < 2 ^ 15 →
    Lockstep Inside (P.writeFieldBegin name .list fid) P.readFieldBegin (.list, fid) Inside
  fieldEnd : Lockstep Inside P.writeFieldEnd P.readFieldEnd () Inside
  fieldStop : ∃ fid, Lockstep Inside P.writeFieldStop P.readFieldBegin (.stop, fid) Inside
  listBegin : ∀ etype n, etype = .i64 ∨ etype = .string → n ≤ P.maxLength →
    Lockstep Inside (P.writeListBegin etype n) P.readListBegin (etype, n) Inside
  listEnd : Lockstep Inside P.writeListEnd P.readListEnd () Inside
  i64 : ∀ x, Lockstep Inside (P.writeI64 x) P.readI64 x Inside
  string : ∀ s, s.length ≤ P.maxLength →
    Lockstep Inside (P.writeString s) P.readString s Inside

variable {P} {Inside : P.State → P.State → Prop}

namespace TProtocol.InStep

variable (h : P.InStep Inside)
include h

/-- A vector is read back element by element. -/
theorem listBody {α : Type} {etype : TType} {put : α → Emitter P.State UInt8}
    {get : StateT P.State ByteReader α} {xs : List α} (hetype : etype = .i64 ∨ etype = .string)
    (hlength : xs.length ≤ P.maxLength)
    (helem : ∀ x ∈ xs, Lockstep Inside (put x) get x Inside) :
    Lockstep Inside (writeListBody P etype put xs) (readListBody P get) xs Inside := by
  have hcast : uint32Cast xs.length = xs.length :=
    Nat.mod_eq_of_lt (Nat.lt_of_le_of_lt hlength h.maxLength_lt)
  rw [writeListBody, hcast]
  refine (h.listBegin etype xs.length hetype hlength).andThen ?_
  exact (Lockstep.forEach helem).andThen (h.listEnd.bind_pure rfl)

/-- One pass of the reading loop consumes one written field, if the `switch` stores what
the field's body holds. -/
theorem fieldPass {α : Type} {name : StdString} {fid : Nat} {etype : TType}
    {put : α → Emitter P.State UInt8} {get : StateT P.State ByteReader α} {xs : List α}
    {st out : ReadState} {rest : Emitter P.State UInt8} {R : P.State → P.State → Prop}
    {fuel : Nat} (store : List α → ReadState) (hpos : 0 < fid) (hfid : fid < 2 ^ 15)
    (hbody : Lockstep Inside (writeListBody P etype put xs) (readListBody P get) xs Inside)
    (hswitch : readField P .list fid st = store <$> readListBody P get)
    (hrest : Lockstep Inside rest (readFields P fuel (store xs)) out R) :
    Lockstep Inside ((writeListField P name fid etype put xs).andThen rest)
      (readFields P (fuel + 1) st) out R := by
  rw [writeListField, Emitter.andThen_assoc, Emitter.andThen_assoc, readFields]
  refine (h.fieldBegin name fid hpos hfid).andThen ?_
  rw [if_neg (show TType.list ≠ TType.stop by decide), hswitch]
  exact (hbody.map store).andThen (h.fieldEnd.andThen hrest)

/-- The loop leaves at the stop field. -/
theorem stopPass {st : ReadState} {fuel : Nat} :
    Lockstep Inside P.writeFieldStop (readFields P (fuel + 1) st) st Inside := by
  obtain ⟨fid, hstop⟩ := h.fieldStop
  rw [readFields]
  exact hstop.bind_pure rfl

/-- **The loop reads a record.** Three passes read what `Record::write` put between the
opening and the closing of the struct. -/
theorem fields {r : Record} (hr : r.FitsIn P.maxLength) (target : Record) (fuel : Nat) :
    Lockstep Inside
      ((writeListField P (lit "ids") 1 .i64 P.writeI64 r.ids).andThen <|
        (writeListField P (lit "strings") 2 .string P.writeString r.strings).andThen
          P.writeFieldStop)
      (readFields P (fuel + 3) { target := target })
      { target := r, issetIds := true, issetStrings := true } Inside := by
  have hids := h.listBody (Or.inl rfl) hr.ids_le fun x _ => h.i64 x
  have hstrings := h.listBody (Or.inr rfl) hr.strings_le fun s hs => h.string s (hr.string_le s hs)
  -- The first pass replaces the integers of the target, the second its strings.
  refine h.fieldPass (fun ids => ⟨⟨ids, target.strings⟩, true, false⟩)
    (by decide) (by decide) hids rfl ?_
  refine h.fieldPass (fun strings => ⟨⟨r.ids, strings⟩, true, true⟩)
    (by decide) (by decide) hstrings rfl ?_
  exact h.stopPass

/-- Between two newly constructed protocols a whole record is written and read, and both
are as they were constructed again. -/
theorem record {r : Record} (hr : r.FitsIn P.maxLength) (target : Record) (fuel : Nat) :
    Lockstep P.Idle (write P r) (readBounded P (fuel + 3) target) r P.Idle := by
  have hbody := h.fields hr target fuel
  have hclose : Lockstep Inside P.writeStructEnd
      (P.readStructEnd >>= fun _ => readResult P ⟨r, true, true⟩) r P.Idle :=
    h.structEnd.bind_pure rfl
  have hwrite : write P r = (P.writeStructBegin (lit "Record")).andThen
      (((writeListField P (lit "ids") 1 .i64 P.writeI64 r.ids).andThen <|
        (writeListField P (lit "strings") 2 .string P.writeString r.strings).andThen
          P.writeFieldStop).andThen P.writeStructEnd) := by
    rw [Emitter.andThen_assoc, Emitter.andThen_assoc]
    rfl
  rw [hwrite, readBounded]
  exact (h.structBegin (lit "Record")).andThen (hbody.andThen hclose)

/-- **Round trip.** The generated code carries every record within the protocol's
lengths, whatever the target held before. -/
theorem roundTrips {r : Record} (hr : r.FitsIn P.maxLength) : P.codec.RoundTrips r where
  restores := by
    obtain ⟨_, _, hidle⟩ := h.record hr {} 0 P.fresh P.fresh ⟨rfl, rfl⟩
    exact hidle.1
  recognises target := by
    -- The bound on the passes depends on the stream, but any bound of three or more will do.
    refine Recognises.peek fun stream => ?_
    obtain ⟨t, hread, hidle⟩ := h.record hr target stream.length P.fresh P.fresh ⟨rfl, rfl⟩
    rwa [hidle.2] at hread

end TProtocol.InStep

end CppSerializers.Thrift
