import CppSerializers.Libraries.ThriftTransfer
import CppSerializers.Reference.Thrift

/-!
# What the calls of the binary protocol return

`TBinaryProtocol` has a fixed size for everything but strings, and nothing is written
around structs and at the end of a field or a list.

## Main results

* `countingBinary_reports` — the calls return what they transfer
* `plain_countingBinary` — without that they are the binary protocol
-/

namespace CppSerializers.Reference.Thrift

open Foundation CppSerializers.Thrift

/-- A writing call that returns `n`. -/
def returning (n : Nat) (call : Emitter Unit UInt8) : WriteCall Unit := fun st =>
  (UInt32.ofNat n, call st)

/-- A reading call whose result tells how many bytes it has read. -/
def returningOf {α : Type} (total : α → Nat) (rd : ByteReader α) : ReadCall Unit α :=
  CountingReader.ofTakes transferred total rd

/-- `uint32_t result` in `skip`, to which every call is added. -/
def countingSkipCalls : SkipCalls (UInt32 × Unit) where
  shape := binaryShape
  readScalar _ ftype := (returningOf id (readBinaryScalar ftype)).drop.tally
  readStructBegin := (returningOf (fun _ => 0) (pure ())).tally
  readStructEnd := (returningOf (fun _ => 0) (pure ())).tally
  readFieldBegin :=
    (returningOf (fun field => if field.1 = .stop then 1 else 3) readBinaryField).tally
  readMapBegin := (returningOf (fun _ => 6) readBinaryMap).tally
  readListBegin := (returningOf (fun _ => 5) readBinaryList).tally

/-- `TBinaryProtocol`, with what its calls return. -/
def countingBinary : CountingProtocol where
  State := Unit
  fresh := ()
  maxLength := binaryProtocol.maxLength
  writeStructBegin name := returning 0 (binaryProtocol.writeStructBegin name)
  writeStructEnd := returning 0 binaryProtocol.writeStructEnd
  writeFieldBegin name ftype fid := returning 3 (binaryProtocol.writeFieldBegin name ftype fid)
  writeFieldEnd := returning 0 binaryProtocol.writeFieldEnd
  writeFieldStop := returning 1 binaryProtocol.writeFieldStop
  writeListBegin etype size := returning 5 (binaryProtocol.writeListBegin etype size)
  writeListEnd := returning 0 binaryProtocol.writeListEnd
  writeI64 x := returning 8 (binaryProtocol.writeI64 x)
  writeString s := returning (4 + s.length) (binaryProtocol.writeString s)
  readStructBegin := returningOf (fun _ => 0) (pure ())
  readStructEnd := returningOf (fun _ => 0) (pure ())
  readFieldBegin := returningOf (fun field => if field.1 = .stop then 1 else 3) readBinaryField
  readFieldEnd := returningOf (fun _ => 0) (pure ())
  readListBegin := returningOf (fun _ => 5) readBinaryList
  readListEnd := returningOf (fun _ => 0) (pure ())
  readI64 := returningOf (fun _ => 8) readBinaryI64
  readString := returningOf (fun s => 4 + s.length) readBinaryString
  skip ftype := Reader.counting (skip countingSkipCalls skipDepth true ftype)

private theorem returning_reports {n : Nat} {bytes : StdString} (h : bytes.length = n) :
    (returning n (.emit bytes)).Reports transferred := fun _ => congrArg UInt32.ofNat h.symm

private theorem readNothing_reports :
    (returningOf (fun _ => 0) (pure ())).Reports transferred := by
  have htakes : Takes 0 (fun _ => 0) (pure () : ByteReader Unit) := Takes.pure rfl
  exact htakes.reports

private theorem takes_readBinarySize {before : Nat} :
    Takes before (fun _ => before + 4) readBinarySize := by
  refine (Takes.readBE endOfStream 4).bind fun size => ?_
  unfold checkSize
  split
  · exact Takes.throw _
  · exact Takes.pure rfl

private theorem takes_readBinaryString : Takes 0 (fun s => 4 + s.length) readBinaryString :=
  takes_readBinarySize.bind fun size => Takes.readBlock_length endOfStream size

private theorem takes_readBinaryField :
    Takes 0 (fun field => if field.1 = .stop then 1 else 3) readBinaryField := by
  refine (Takes.readCell endOfStream).bind fun b => ?_
  dsimp only
  split
  · exact Takes.pure rfl
  · next hstop =>
    exact (Takes.readBE endOfStream 2).bind fun fid => Takes.pure (if_neg hstop)

private theorem takes_readBinaryList : Takes 0 (fun _ => 5) readBinaryList := by
  refine (Takes.readCell endOfStream).bind fun b => ?_
  exact takes_readBinarySize.bind fun size => Takes.pure rfl

private theorem takes_readBinaryI64 : Takes 0 (fun _ => 8) readBinaryI64 :=
  (Takes.readBE endOfStream 8).map _ fun _ => rfl

private theorem takes_readBinaryScalar (ftype : TType) :
    Takes 0 id (readBinaryScalar ftype) := by
  unfold readBinaryScalar
  split
  · exact takes_readBinaryString.map _ fun _ => rfl
  · exact (Takes.readBlock_length endOfStream _).map _ fun block => (Nat.zero_add _).symm

private theorem takes_readBinaryMap : Takes 0 (fun _ => 6) readBinaryMap := by
  refine (Takes.readCell endOfStream).bind fun key => ?_
  refine (Takes.readCell endOfStream).bind fun value => ?_
  exact takes_readBinarySize.bind fun size => Takes.pure rfl

private theorem plain_returningOf {α : Type} (total : α → Nat) (rd : ByteReader α) :
    (returningOf total rd).plain = StateT.lift rd := CountingReader.plain_ofTakes _ _ _

private theorem returningOf_meters {α : Type} {total : α → Nat} {rd : ByteReader α}
    (h : Takes 0 total rd) :
    Reader.Meters transferred (returningOf total rd).tally (StateT.lift rd) := by
  rw [← plain_returningOf total rd]
  exact h.reports.meters

private theorem countingSkipCalls_meters : countingSkipCalls.Meters binarySkipCalls where
  shape := rfl
  scalar _ ftype := by
    have hmeters : Reader.Meters transferred (returningOf id (readBinaryScalar ftype)).drop.tally
        (returningOf id (readBinaryScalar ftype)).drop.plain :=
      (takes_readBinaryScalar ftype).reports.drop.meters
    rwa [CountingReader.plain_drop, plain_returningOf] at hmeters
  structBegin := returningOf_meters (Takes.pure rfl)
  structEnd := returningOf_meters (Takes.pure rfl)
  fieldBegin := returningOf_meters takes_readBinaryField
  mapBegin := returningOf_meters takes_readBinaryMap
  listBegin := returningOf_meters takes_readBinaryList

theorem countingBinary_reports : countingBinary.Reports where
  writeStructBegin _ := returning_reports rfl
  writeStructEnd := returning_reports rfl
  writeFieldBegin _ _ _ := returning_reports rfl
  writeFieldEnd := returning_reports rfl
  writeFieldStop := returning_reports rfl
  writeListBegin _ _ := returning_reports rfl
  writeListEnd := returning_reports rfl
  writeI64 _ := returning_reports rfl
  writeString s := returning_reports (by simp [prefixed])
  readStructBegin := readNothing_reports
  readStructEnd := readNothing_reports
  readFieldBegin := takes_readBinaryField.reports
  readFieldEnd := readNothing_reports
  readListBegin := takes_readBinaryList.reports
  readListEnd := readNothing_reports
  readI64 := takes_readBinaryI64.reports
  readString := takes_readBinaryString.reports
  skip ftype := (countingSkipCalls_meters.skip skipDepth true ftype).reports

theorem plain_countingBinary : countingBinary.plain = binaryProtocol := by
  have hskip : ∀ ftype, (countingBinary.skip ftype).plain = binaryProtocol.skip ftype := by
    intro ftype
    exact (countingSkipCalls_meters.skip skipDepth true ftype).plain_counting
  rw [CountingProtocol.plain]
  simp only [hskip]
  simp only [countingBinary, plain_returningOf]
  rfl

end CppSerializers.Reference.Thrift
