import CppSerializers.Foundation.Metering
import CppSerializers.Libraries.Thrift
import Mathlib.Data.UInt

/-!
# Thrift: the returned number of bytes

Every call of a protocol returns how many bytes it transferred. `Record::read` and
`Record::write` add this up, call by call, in a local `uint32_t xfer`, and return the sum.
The benchmark ignores it, and so does the model in `CppSerializers.Libraries.Thrift`.

Here it is returned. The generated code has `xfer +=` in front of every call it makes, so
it is that model over a protocol whose calls add to a counter that is kept beside the
state of the protocol. If every call returns the right number, the record does as well: it
could be a field of another struct, whose generated code adds up in the same way.

## Main definitions

* `CountingProtocol` — a protocol whose calls return how much they transfer
* `CountingProtocol.read`, `CountingProtocol.write` — the generated code with `xfer`
* `CountingProtocol.Reports` — every call returns the right number

## Main results

* `CountingProtocol.Reports.read_meters`, `CountingProtocol.Reports.write_meters` — the sum
  is all that is added to the model without it
-/

namespace CppSerializers.Thrift

open Foundation

/-- A call that writes, and returns how many bytes it wrote. -/
abbrev WriteCall (State : Type) := CountingEmitter UInt32 State UInt8

/-- A call that reads, and returns how many bytes it read. -/
abbrev ReadCall (State α : Type) := CountingReader UInt32 Exception State UInt8 α

/-- The calls of a `TProtocol` with what they return. -/
structure CountingProtocol where
  State : Type
  fresh : State
  maxLength : Nat
  writeStructBegin : StdString → WriteCall State
  writeStructEnd : WriteCall State
  writeFieldBegin : StdString → TType → Nat → WriteCall State
  writeFieldEnd : WriteCall State
  writeFieldStop : WriteCall State
  writeListBegin : TType → Nat → WriteCall State
  writeListEnd : WriteCall State
  writeI64 : Int64 → WriteCall State
  writeString : StdString → WriteCall State
  readStructBegin : ReadCall State Unit
  readStructEnd : ReadCall State Unit
  readFieldBegin : ReadCall State (TType × Nat)
  readFieldEnd : ReadCall State Unit
  readListBegin : ReadCall State (TType × Nat)
  readListEnd : ReadCall State Unit
  readI64 : ReadCall State Int64
  readString : ReadCall State StdString
  skip : TType → ReadCall State Unit

namespace CountingProtocol

variable (Q : CountingProtocol)

/-- What the calls return is ignored. -/
def plain : TProtocol where
  State := Q.State
  fresh := Q.fresh
  maxLength := Q.maxLength
  writeStructBegin name := (Q.writeStructBegin name).plain
  writeStructEnd := Q.writeStructEnd.plain
  writeFieldBegin name ftype fid := (Q.writeFieldBegin name ftype fid).plain
  writeFieldEnd := Q.writeFieldEnd.plain
  writeFieldStop := Q.writeFieldStop.plain
  writeListBegin etype size := (Q.writeListBegin etype size).plain
  writeListEnd := Q.writeListEnd.plain
  writeI64 x := (Q.writeI64 x).plain
  writeString s := (Q.writeString s).plain
  readStructBegin := Q.readStructBegin.plain
  readStructEnd := Q.readStructEnd.plain
  readFieldBegin := Q.readFieldBegin.plain
  readFieldEnd := Q.readFieldEnd.plain
  readListBegin := Q.readListBegin.plain
  readListEnd := Q.readListEnd.plain
  readI64 := Q.readI64.plain
  readString := Q.readString.plain
  skip ftype := (Q.skip ftype).plain

/-- `xfer` is kept beside the state of the protocol, and every call is an `xfer += call`. -/
def counted : TProtocol where
  State := UInt32 × Q.State
  fresh := (0, Q.fresh)
  maxLength := Q.maxLength
  writeStructBegin name := (Q.writeStructBegin name).tally
  writeStructEnd := Q.writeStructEnd.tally
  writeFieldBegin name ftype fid := (Q.writeFieldBegin name ftype fid).tally
  writeFieldEnd := Q.writeFieldEnd.tally
  writeFieldStop := Q.writeFieldStop.tally
  writeListBegin etype size := (Q.writeListBegin etype size).tally
  writeListEnd := Q.writeListEnd.tally
  writeI64 x := (Q.writeI64 x).tally
  writeString s := (Q.writeString s).tally
  readStructBegin := Q.readStructBegin.tally
  readStructEnd := Q.readStructEnd.tally
  readFieldBegin := Q.readFieldBegin.tally
  readFieldEnd := Q.readFieldEnd.tally
  readListBegin := Q.readListBegin.tally
  readListEnd := Q.readListEnd.tally
  readI64 := Q.readI64.tally
  readString := Q.readString.tally
  skip ftype := (Q.skip ftype).tally

/-- `Record::write`, which returns `xfer`. -/
def write (r : Record) : WriteCall Q.State := Emitter.counting (Thrift.write Q.counted r)

/-- `Record::read`, which returns `xfer`. -/
def read (target : Record) : ReadCall Q.State Record :=
  Reader.counting (Thrift.read Q.counted target)

end CountingProtocol

/-- A size in a `uint32_t`, which counts up to `2^32`. -/
def transferred : ℕ →+ UInt32 where
  toFun := UInt32.ofNat
  map_zero' := rfl
  map_add' := UInt32.ofNat_add

variable {Q : CountingProtocol}

/-- Every call returns how many bytes it transferred. -/
structure CountingProtocol.Reports (Q : CountingProtocol) : Prop where
  writeStructBegin : ∀ name, (Q.writeStructBegin name).Reports transferred
  writeStructEnd : Q.writeStructEnd.Reports transferred
  writeFieldBegin : ∀ name ftype fid, (Q.writeFieldBegin name ftype fid).Reports transferred
  writeFieldEnd : Q.writeFieldEnd.Reports transferred
  writeFieldStop : Q.writeFieldStop.Reports transferred
  writeListBegin : ∀ etype size, (Q.writeListBegin etype size).Reports transferred
  writeListEnd : Q.writeListEnd.Reports transferred
  writeI64 : ∀ x, (Q.writeI64 x).Reports transferred
  writeString : ∀ s, (Q.writeString s).Reports transferred
  readStructBegin : Q.readStructBegin.Reports transferred
  readStructEnd : Q.readStructEnd.Reports transferred
  readFieldBegin : Q.readFieldBegin.Reports transferred
  readFieldEnd : Q.readFieldEnd.Reports transferred
  readListBegin : Q.readListBegin.Reports transferred
  readListEnd : Q.readListEnd.Reports transferred
  readI64 : Q.readI64.Reports transferred
  readString : Q.readString.Reports transferred
  skip : ∀ ftype, (Q.skip ftype).Reports transferred

namespace CountingProtocol.Reports

variable (h : Q.Reports)
include h

private theorem writeListField_meters {α : Type} {name : StdString} {fid : Nat} {etype : TType}
    {put : α → WriteCall Q.State} (hput : ∀ x, (put x).Reports transferred) (xs : List α) :
    Emitter.Meters transferred
      (writeListField Q.counted name fid etype (fun x => (put x).tally) xs)
      (writeListField Q.plain name fid etype (fun x => (put x).plain) xs) := by
  have hbody : Emitter.Meters transferred
      (writeListBody Q.counted etype (fun x => (put x).tally) xs)
      (writeListBody Q.plain etype (fun x => (put x).plain) xs) :=
    (h.writeListBegin etype _).meters.andThen <|
      (Emitter.Meters.forEach fun x => (hput x).meters).andThen h.writeListEnd.meters
  exact (h.writeFieldBegin name .list fid).meters.andThen (hbody.andThen h.writeFieldEnd.meters)

theorem write_meters (r : Record) :
    Emitter.Meters transferred (Thrift.write Q.counted r) (Thrift.write Q.plain r) := by
  refine (h.writeStructBegin (lit "Record")).meters.andThen ?_
  refine (h.writeListField_meters h.writeI64 r.ids).andThen ?_
  refine (h.writeListField_meters h.writeString r.strings).andThen ?_
  exact h.writeFieldStop.meters.andThen h.writeStructEnd.meters

private theorem readListBody_meters {α : Type} {get : ReadCall Q.State α}
    (hget : get.Reports transferred) :
    Reader.Meters transferred (readListBody Q.counted get.tally)
      (readListBody Q.plain get.plain) := by
  refine h.readListBegin.meters.bind fun list => ?_
  refine (hget.meters.repeatM list.2).bind fun xs => ?_
  exact h.readListEnd.meters.bind fun _ => Reader.Meters.pure xs

private theorem readField_meters (ftype : TType) (fid : Nat) (st : ReadState) :
    Reader.Meters transferred (readField Q.counted ftype fid st)
      (readField Q.plain ftype fid st) := by
  have hskip : Reader.Meters transferred (Q.counted.skip ftype >>= fun _ => pure st)
      (Q.plain.skip ftype >>= fun _ => pure st) :=
    (h.skip ftype).meters.bind fun _ => Reader.Meters.pure st
  match fid with
  | 1 =>
    by_cases hlist : ftype = .list
    · simp only [readField, if_pos hlist]
      exact (h.readListBody_meters h.readI64).bind fun ids => Reader.Meters.pure _
    · simp only [readField, if_neg hlist]
      exact hskip
  | 2 =>
    by_cases hlist : ftype = .list
    · simp only [readField, if_pos hlist]
      exact (h.readListBody_meters h.readString).bind fun strings => Reader.Meters.pure _
    · simp only [readField, if_neg hlist]
      exact hskip
  | 0 => exact hskip
  | _ + 3 => exact hskip

private theorem readFields_meters (fuel : Nat) (st : ReadState) :
    Reader.Meters transferred (readFields Q.counted fuel st) (readFields Q.plain fuel st) := by
  induction fuel generalizing st with
  | zero => exact Reader.Meters.throw _
  | succ fuel ih =>
    refine h.readFieldBegin.meters.bind fun field => ?_
    by_cases hstop : field.1 = .stop
    · rw [if_pos hstop, if_pos hstop]
      exact Reader.Meters.pure st
    · rw [if_neg hstop, if_neg hstop]
      refine (h.readField_meters field.1 field.2 st).bind fun next => ?_
      exact h.readFieldEnd.meters.bind fun _ => ih next

omit h in
private theorem readResult_meters (st : ReadState) :
    Reader.Meters transferred (readResult Q.counted st) (readResult Q.plain st) := by
  unfold readResult
  split
  · exact Reader.Meters.throw _
  · split
    · exact Reader.Meters.throw _
    · exact Reader.Meters.pure _

private theorem readBounded_meters (fuel : Nat) (target : Record) :
    Reader.Meters transferred (readBounded Q.counted fuel target)
      (readBounded Q.plain fuel target) := by
  refine h.readStructBegin.meters.bind fun _ => ?_
  refine (h.readFields_meters fuel _).bind fun st => ?_
  exact h.readStructEnd.meters.bind fun _ => readResult_meters st

theorem read_meters (target : Record) :
    Reader.Meters transferred (Thrift.read Q.counted target) (Thrift.read Q.plain target) where
  consumes protocol stream out rest hrun :=
    (h.readBounded_meters _ target).consumes protocol stream out rest
      ((run_read Q.plain target protocol stream).symm.trans hrun)
  run_eq xfer protocol stream := by
    -- Both look at the same input for their bound.
    have hcounted := run_read Q.counted target (xfer, protocol) stream
    have hplain := run_read Q.plain target protocol stream
    have hbounded := (h.readBounded_meters (stream.length + 3) target).run_eq xfer protocol stream
    exact hcounted.trans (hbounded.trans (congrArg _ hplain.symm))

end CountingProtocol.Reports

end CppSerializers.Thrift
