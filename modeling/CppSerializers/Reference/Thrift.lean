import CppSerializers.Reference.ThriftSkip

/-!
# The protocols of Thrift

Concrete protocols in the formats of `TBinaryProtocol` and `TCompactProtocol`. The
binary one has no state. The compact one writes the number of a field relative to
the field before it, and keeps the numbers of the surrounding structs on a stack.

## Main results

* `binaryProtocol_inStep`, `compactProtocol_inStep` — each reads, call by call, what it
  wrote
-/

namespace CppSerializers.Reference.Thrift

open Foundation CppSerializers.Thrift

/-! ## Types -/

/-- The codes a protocol uses for the types of a record. -/
structure TypeCodes where
  i64 : Nat
  string : Nat
  list : Nat

def TypeCodes.encode (codes : TypeCodes) : TType → Nat
  | .stop => 0
  | .i64 => codes.i64
  | .string => codes.string
  | .list => codes.list
  | .other code => code

def TypeCodes.decode (codes : TypeCodes) (code : Nat) : TType :=
  if code = 0 then .stop
  else if code = codes.i64 then .i64
  else if code = codes.string then .string
  else if code = codes.list then .list
  else .other code

/-- `TProtocolException` of type `NEGATIVE_SIZE`. -/
def negativeSize : Exception := .library (lit "TProtocolException: Negative size")

/-- A size is a signed number of 32 bits. -/
def checkSize (size : Nat) : ByteReader Nat :=
  if 2 ^ 31 ≤ size then throw negativeSize else pure size

private theorem recognises_checkSize {rd : ByteReader Nat} {bytes : StdString} {n : Nat}
    (h : Recognises rd bytes n) (hn : n < 2 ^ 31) : Recognises (rd >>= checkSize) bytes n :=
  h.bind_pure (if_neg (Nat.not_le.mpr hn))

/-! ## The binary protocol -/

/-- `TType` of the binary protocol. -/
def binaryCodes : TypeCodes where
  i64 := 10
  string := 11
  list := 15

/-- A size in four bytes. -/
def readBinarySize : ByteReader Nat := readBE endOfStream 4 >>= checkSize

/-- An `i64` in eight bytes. -/
def readBinaryI64 : ByteReader Int64 := int64OfNat <$> readBE endOfStream 8

/-- A string behind its length. -/
def readBinaryString : ByteReader StdString := readBinarySize >>= readBlock endOfStream

/-- The type of a field, and its number unless it is the stop field. -/
def readBinaryField : ByteReader (TType × Nat) := do
  let b ← readCell endOfStream
  let ftype := binaryCodes.decode b.toNat
  if ftype = .stop then return (.stop, 0)
  else do
    let fid ← readBE endOfStream 2
    return (ftype, fid)

/-- The type and the number of the elements. -/
def readBinaryList : ByteReader (TType × Nat) := do
  let b ← readCell endOfStream
  let size ← readBinarySize
  return (binaryCodes.decode b.toNat, size)

/-- How a value is made up, by the code of its type. -/
def binaryShape : TType → Shape
  | .stop => .invalid
  | .i64 => .scalar
  | .string => .scalar
  | .list => .list
  -- `T_BOOL`, `T_BYTE`, `T_DOUBLE`, `T_I16` and `T_I32`.
  | .other 2 => .scalar
  | .other 3 => .scalar
  | .other 4 => .scalar
  | .other 6 => .scalar
  | .other 8 => .scalar
  -- `T_STRUCT`, `T_MAP` and `T_SET`.
  | .other 12 => .struct
  | .other 13 => .map
  | .other 14 => .list
  | .other _ => .invalid

/-- The bytes of a number. -/
def binaryWidth : TType → Nat
  | .other 2 => 1
  | .other 3 => 1
  | .other 6 => 2
  | .other 8 => 4
  | _ => 8

/-- A string or a number, of which only the length is kept. -/
def readBinaryScalar (ftype : TType) : ByteReader Nat :=
  if ftype = .string then (fun s => 4 + s.length) <$> readBinaryString
  else List.length <$> readBlock endOfStream (binaryWidth ftype)

/-- The types of the keys and the values, and their number. -/
def readBinaryMap : ByteReader ((TType × TType) × Nat) := do
  let key ← readCell endOfStream
  let value ← readCell endOfStream
  let size ← readBinarySize
  return ((binaryCodes.decode key.toNat, binaryCodes.decode value.toNat), size)

def binarySkipCalls : SkipCalls Unit where
  shape := binaryShape
  readScalar _ ftype := (fun _ => ()) <$> StateT.lift (readBinaryScalar ftype)
  readStructBegin := pure ()
  readStructEnd := pure ()
  readFieldBegin := StateT.lift readBinaryField
  readMapBegin := StateT.lift readBinaryMap
  readListBegin := StateT.lift readBinaryList

/-- `TBinaryProtocol`. -/
def binaryProtocol : TProtocol where
  State := Unit
  fresh := ()
  maxLength := 2 ^ 31 - 1
  writeStructBegin _ := .skip
  writeStructEnd := .skip
  writeFieldBegin _ ftype fid := .emit (UInt8.ofNat (binaryCodes.encode ftype) :: bytesBE 2 fid)
  writeFieldEnd := .skip
  writeFieldStop := .emit [0]
  writeListBegin etype size := .emit (UInt8.ofNat (binaryCodes.encode etype) :: bytesBE 4 size)
  writeListEnd := .skip
  writeI64 x := .emit (bytesBE 8 (natOfInt64 x))
  writeString s := .emit (prefixed (bytesBE 4) s)
  readStructBegin := pure ()
  readStructEnd := pure ()
  readFieldBegin := StateT.lift readBinaryField
  readFieldEnd := pure ()
  readListBegin := StateT.lift readBinaryList
  readListEnd := pure ()
  readI64 := StateT.lift readBinaryI64
  readString := StateT.lift readBinaryString
  skip := skip binarySkipCalls skipDepth true

private theorem recognises_readBinarySize {n : Nat} (hn : n < 2 ^ 31) :
    Recognises readBinarySize (bytesBE 4 n) n :=
  recognises_checkSize (recognises_readBE endOfStream (by omega)) hn

private theorem recognises_readBinaryField {fid : Nat} (hfid : fid < 2 ^ 15) :
    Recognises readBinaryField (15 :: bytesBE 2 fid) (.list, fid) := by
  apply Recognises.cell
  exact (recognises_readBE endOfStream (w := 2) (by omega)).bind_pure rfl

private theorem recognises_readBinaryList {etype : TType}
    (hetype : etype = .i64 ∨ etype = .string) {n : Nat} (hn : n < 2 ^ 31) :
    Recognises readBinaryList (UInt8.ofNat (binaryCodes.encode etype) :: bytesBE 4 n)
      (etype, n) := by
  apply Recognises.cell
  rcases hetype with rfl | rfl
  · exact (recognises_readBinarySize hn).bind_pure rfl
  · exact (recognises_readBinarySize hn).bind_pure rfl

private theorem recognises_readBinaryI64 (x : Int64) :
    Recognises readBinaryI64 (bytesBE 8 (natOfInt64 x)) x := by
  have hread := (recognises_readBE endOfStream (w := 8) (natOfInt64_lt x)).map int64OfNat
  rwa [int64OfNat_natOfInt64] at hread

/-- Nothing is kept between calls, so nothing changes inside a struct. -/
theorem binaryProtocol_inStep : binaryProtocol.InStep binaryProtocol.Idle where
  maxLength_lt := by decide
  structBegin _ := Lockstep.skip _ ()
  structEnd := Lockstep.skip _ ()
  fieldBegin _ _ _ hfid := Lockstep.lift (recognises_readBinaryField hfid)
  fieldEnd := Lockstep.skip _ ()
  fieldStop := by
    refine ⟨0, Lockstep.lift ?_⟩
    apply Recognises.cell
    exact Recognises.pure _
  listBegin etype n hetype hn :=
    Lockstep.lift (recognises_readBinaryList hetype (Nat.lt_of_le_of_lt hn (by decide)))
  listEnd := Lockstep.skip _ ()
  i64 x := Lockstep.lift (recognises_readBinaryI64 x)
  string s hs := by
    have hlength : s.length < 2 ^ 31 := Nat.lt_of_le_of_lt hs (by decide)
    exact Lockstep.lift (Recognises.prefixed endOfStream (recognises_readBinarySize hlength))

/-! ## The compact protocol -/

/-- `CTType` of the compact protocol. -/
def compactCodes : TypeCodes where
  i64 := 6
  string := 8
  list := 9

/-- `lastFieldId_` and `lastField_`. -/
structure CompactState where
  lastFieldId : Nat
  lastField : List Nat
  deriving DecidableEq, Repr

/-- Entering a struct. -/
def CompactState.push (st : CompactState) : CompactState := ⟨0, st.lastFieldId :: st.lastField⟩

/-- Leaving a struct. -/
def CompactState.pop (st : CompactState) : CompactState :=
  ⟨st.lastField.headD 0, st.lastField.tail⟩

/-- A field of a number a little above the last is one byte, with the difference. -/
def writeCompactField (ftype : TType) (fid : Nat) : Emitter CompactState UInt8 := fun st =>
  (if st.lastFieldId < fid ∧ fid - st.lastFieldId ≤ 15 then
    [UInt8.ofNat (16 * (fid - st.lastFieldId) + compactCodes.encode ftype)]
  else UInt8.ofNat (compactCodes.encode ftype) :: varint 3 (2 * fid),
  { st with lastFieldId := fid })

/-- A list of at most 14 elements has its size in the byte of its type. -/
def compactList (etype : TType) (size : Nat) : StdString :=
  if size ≤ 14 then [UInt8.ofNat (16 * size + compactCodes.encode etype)]
  else UInt8.ofNat (240 + compactCodes.encode etype) :: varint 5 size

/-- A field number that is not given by a difference. -/
def readCompactI16 : ByteReader Nat := do
  let n ← readVarint endOfStream 3
  if n % 2 = 0 then return n / 2 else throw negativeSize

def readCompactField : StateT CompactState ByteReader (TType × Nat) := fun st => do
  let b ← readCell endOfStream
  let ftype := compactCodes.decode (b.toNat % 16)
  if ftype = .stop then return ((.stop, 0), st)
  else do
    -- A difference of zero announces the number itself.
    let fid ← if b.toNat / 16 = 0 then readCompactI16
      else pure (st.lastFieldId + b.toNat / 16)
    return ((ftype, fid), { st with lastFieldId := fid })

/-- A size in groups of seven bits. -/
def readCompactSize : ByteReader Nat := readVarint endOfStream 5 >>= checkSize

def readCompactList : ByteReader (TType × Nat) := do
  let b ← readCell endOfStream
  -- Four bits, unless they announce the size.
  let size ← if b.toNat / 16 = 15 then readCompactSize else pure (b.toNat / 16)
  return (compactCodes.decode (b.toNat % 16), size)

def readCompactI64 : ByteReader Int64 := unzigzag <$> readVarint endOfStream 10

def readCompactString : ByteReader StdString := readCompactSize >>= readBlock endOfStream

/-- How a value is made up, by the code of its type. -/
def compactShape : TType → Shape
  | .stop => .invalid
  | .i64 => .scalar
  | .string => .scalar
  | .list => .list
  -- `CT_BOOLEAN_TRUE`, `CT_BOOLEAN_FALSE`, `CT_BYTE`, `CT_I16`, `CT_I32` and `CT_DOUBLE`.
  | .other 1 => .scalar
  | .other 2 => .scalar
  | .other 3 => .scalar
  | .other 4 => .scalar
  | .other 5 => .scalar
  | .other 7 => .scalar
  -- `CT_SET`, `CT_MAP` and `CT_STRUCT`.
  | .other 10 => .list
  | .other 11 => .map
  | .other 12 => .struct
  | .other _ => .invalid

/-- Groups of seven bits, which no number of 64 bits has more than ten of. -/
def dropVarint : ByteReader Unit := (fun _ => ()) <$> readVarint endOfStream 10

def dropBlock (n : Nat) : ByteReader Unit := (fun _ => ()) <$> readBlock endOfStream n

/-- The value of a boolean field is in its type. -/
def readCompactScalar (inField : Bool) : TType → ByteReader Unit
  | .string => (fun _ => ()) <$> readCompactString
  | .other 1 => if inField then pure () else dropBlock 1
  | .other 2 => if inField then pure () else dropBlock 1
  | .other 3 => dropBlock 1
  | .other 7 => dropBlock 8
  | _ => dropVarint

/-- The size, and if it is not zero the types of the keys and the values. -/
def readCompactMap : ByteReader ((TType × TType) × Nat) := do
  let size ← readCompactSize
  let types ← if size = 0 then pure 0 else UInt8.toNat <$> readCell endOfStream
  return ((compactCodes.decode (types / 16), compactCodes.decode (types % 16)), size)

def compactSkipCalls : SkipCalls CompactState where
  shape := compactShape
  readScalar inField ftype := StateT.lift (readCompactScalar inField ftype)
  readStructBegin := modify CompactState.push
  readStructEnd := modify CompactState.pop
  readFieldBegin := readCompactField
  readMapBegin := StateT.lift readCompactMap
  readListBegin := StateT.lift readCompactList

/-- `TCompactProtocol`. -/
def compactProtocol : TProtocol where
  State := CompactState
  fresh := ⟨0, []⟩
  maxLength := 2 ^ 31 - 1
  writeStructBegin _ := fun st => ([], st.push)
  writeStructEnd := fun st => ([], st.pop)
  writeFieldBegin _ := writeCompactField
  writeFieldEnd := .skip
  writeFieldStop := .emit [0]
  writeListBegin etype size := .emit (compactList etype size)
  writeListEnd := .skip
  writeI64 x := .emit (varint 10 (zigzag x))
  writeString s := .emit (prefixed (varint 5) s)
  readStructBegin := modify CompactState.push
  readStructEnd := modify CompactState.pop
  readFieldBegin := readCompactField
  readFieldEnd := pure ()
  readListBegin := StateT.lift readCompactList
  readListEnd := pure ()
  readI64 := StateT.lift readCompactI64
  readString := StateT.lift readCompactString
  skip := skip compactSkipCalls skipDepth true

/-- Both protocols are in a struct that no struct surrounds, and agree on the last field. -/
def InStruct (w r : CompactState) : Prop := w = r ∧ r.lastField = [0]

private theorem lockstep_compactField {fid : Nat} (hpos : 0 < fid) (hfid : fid < 2 ^ 15) :
    Lockstep InStruct (writeCompactField .list fid) readCompactField (.list, fid) InStruct := by
  rintro w r ⟨rfl, hstack⟩
  refine ⟨{ w with lastFieldId := fid }, ?_, rfl, hstack⟩
  show Recognises (readCompactField w) (writeCompactField .list fid w).1 _
  unfold writeCompactField
  -- The difference fits in four bits, or the number is written out.
  split_ifs with hdelta
  · have hvalue : (UInt8.ofNat (16 * (fid - w.lastFieldId) + 9)).toNat =
        16 * (fid - w.lastFieldId) + 9 := toNat_ofNat_of_lt (by omega)
    have hmod : (16 * (fid - w.lastFieldId) + 9) % 16 = 9 := by omega
    have hdiv : (16 * (fid - w.lastFieldId) + 9) / 16 = fid - w.lastFieldId := by omega
    have hsum : w.lastFieldId + (fid - w.lastFieldId) = fid := by omega
    rw [show compactCodes.encode .list = 9 from rfl]
    apply Recognises.cell
    rw [hvalue, hmod, hdiv, if_neg (show compactCodes.decode 9 ≠ .stop by decide),
      if_neg (by omega), hsum]
    exact Recognises.pure _
  · apply Recognises.cell
    have hread : Recognises readCompactI16 (varint 3 (2 * fid)) fid := by
      refine (recognises_readVarint endOfStream (by omega) (by decide)).bind_pure ?_
      rw [if_pos (by omega), Nat.mul_div_cancel_left fid (by decide)]
    exact hread.bind_pure rfl

private theorem recognises_readCompactSize {n : Nat} (hn : n < 2 ^ 31) :
    Recognises readCompactSize (varint 5 n) n :=
  recognises_checkSize (recognises_readVarint endOfStream (by omega) (by decide)) hn

private theorem recognises_readCompactList {etype : TType}
    (hetype : etype = .i64 ∨ etype = .string) {n : Nat} (hn : n < 2 ^ 31) :
    Recognises readCompactList (compactList etype n) (etype, n) := by
  have hcode : compactCodes.encode etype < 15 ∧
      compactCodes.decode (compactCodes.encode etype) = etype := by
    rcases hetype with rfl | rfl <;> decide
  unfold compactList
  -- The size is in the byte of the type, or behind it.
  split_ifs with hshort
  · apply Recognises.cell
    have hmod : (16 * n + compactCodes.encode etype) % 16 = compactCodes.encode etype := by omega
    have hdiv : (16 * n + compactCodes.encode etype) / 16 = n := by omega
    rw [toNat_ofNat_of_lt (by omega), hmod, hdiv, if_neg (by omega), hcode.2]
    exact Recognises.pure _
  · apply Recognises.cell
    have hmod : (240 + compactCodes.encode etype) % 16 = compactCodes.encode etype := by omega
    have hdiv : (240 + compactCodes.encode etype) / 16 = 15 := by omega
    rw [toNat_ofNat_of_lt (by omega), hmod, hdiv, if_pos rfl, hcode.2]
    exact (recognises_readCompactSize hn).bind_pure rfl

private theorem recognises_readCompactI64 (x : Int64) :
    Recognises readCompactI64 (varint 10 (zigzag x)) x := by
  have hfits : zigzag x < 128 ^ 10 := Nat.lt_trans (zigzag_lt x) (by decide)
  have hread := (recognises_readVarint endOfStream hfits (by decide)).map unzigzag
  rwa [unzigzag_zigzag] at hread

/-- Inside a struct both protocols keep the same last field. -/
theorem compactProtocol_inStep : compactProtocol.InStep InStruct where
  maxLength_lt := by decide
  structBegin _ := by
    rintro w r ⟨rfl, rfl⟩
    exact ⟨_, Recognises.pure _, rfl, rfl⟩
  structEnd := by
    rintro w r ⟨rfl, hstack⟩
    -- Whatever the last field was, leaving the struct forgets it.
    have hpop : w.pop = ⟨0, []⟩ := by
      unfold CompactState.pop
      rw [hstack]
      rfl
    exact ⟨_, Recognises.pure _, hpop, hpop⟩
  fieldBegin _ _ := lockstep_compactField
  fieldEnd := Lockstep.skip _ ()
  fieldStop := by
    refine ⟨0, fun w r hin => ⟨r, ?_, hin⟩⟩
    apply Recognises.cell
    exact Recognises.pure _
  listBegin etype n hetype hn :=
    Lockstep.lift (recognises_readCompactList hetype (Nat.lt_of_le_of_lt hn (by decide)))
  listEnd := Lockstep.skip _ ()
  i64 x := Lockstep.lift (recognises_readCompactI64 x)
  string s hs := by
    have hlength : s.length < 2 ^ 31 := Nat.lt_of_le_of_lt hs (by decide)
    exact Lockstep.lift (Recognises.prefixed endOfStream (recognises_readCompactSize hlength))

end CppSerializers.Reference.Thrift
