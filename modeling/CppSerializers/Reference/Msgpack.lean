import CppSerializers.Reference.Streams

/-!
# The format of MessagePack

Concrete packing and unpacking of the objects a record consists of. Every object
starts with a byte that gives its type and, where they fit, its value or its size;
a packed integer takes the shortest of nine forms. Unpacking is bounded in depth:
a record is an array of arrays of integers and of strings.

## Main results

* `recognises_packInt`, `recognises_packArray` — every form is unpacked
* `msgpack_lawful` — the law of the packer
-/

namespace CppSerializers.Reference.Msgpack

open Foundation

/-- `msgpack::object`, of the types a record needs. -/
inductive Object where
  | int (x : Int64)
  | str (s : StdString)
  | array (elements : List Object)

/-! ## Packing -/

/-- `packer::pack_imp_int64`. -/
def packInt (x : Int64) : StdString :=
  let n := natOfInt64 x
  -- The shortest two's complement, the number itself, or the shortest unsigned form.
  if x.toInt < -32 then
    if x.toInt < -32768 then
      if x.toInt < -2147483648 then 0xd3 :: bytesBE 8 n else 0xd2 :: bytesBE 4 n
    else if x.toInt < -128 then 0xd1 :: bytesBE 2 n
    else 0xd0 :: bytesBE 1 n
  else if x.toInt < 128 then [UInt8.ofNat (n % 256)]
  else if x.toInt < 65536 then
    if x.toInt < 256 then 0xcc :: bytesBE 1 n else 0xcd :: bytesBE 2 n
  else if x.toInt < 4294967296 then 0xce :: bytesBE 4 n
  else 0xcf :: bytesBE 8 n

/-- `packer::pack_array`. -/
def packArray (n : Nat) : StdString :=
  if n < 16 then [UInt8.ofNat (0x90 + n)]
  else if n < 65536 then 0xdc :: bytesBE 2 n
  else 0xdd :: bytesBE 4 n

/-- `packer::pack_str` and `pack_str_body`. -/
def packStr (s : StdString) : StdString :=
  (if s.length < 32 then [UInt8.ofNat (0xa0 + s.length)]
    else if s.length < 256 then 0xd9 :: bytesBE 1 s.length
    else if s.length < 65536 then 0xda :: bytesBE 2 s.length
    else 0xdb :: bytesBE 4 s.length) ++ s

/-! ## Unpacking -/

/-- A number of `w` bytes, most significant first. -/
def readUnsigned (w : Nat) : ByteReader Object :=
  (fun n : Nat => .int (Int64.ofInt n)) <$> readBE endOfStream w

/-- A two's complement of `w` bytes, most significant first. -/
def readSigned (w : Nat) : ByteReader Object :=
  (fun n : Nat => .int (Int64.ofInt (if 2 * n < 256 ^ w then n else n - 256 ^ w))) <$>
    readBE endOfStream w

/-- A string behind its length. -/
def readStr (w : Nat) : ByteReader Object :=
  Object.str <$> (readBE endOfStream w >>= readBlock endOfStream)

/-- What follows a first byte `t`. -/
def unpackBody (elements : Nat → ByteReader (List Object)) (t : Nat) : ByteReader Object :=
  -- Numbers that are their own type, positive and negative.
  if t < 0x80 then pure (.int (Int64.ofInt t))
  else if 0xe0 ≤ t then pure (.int (Int64.ofInt (t - 256)))
  -- Sizes that are part of the type.
  else if 0x90 ≤ t ∧ t < 0xa0 then Object.array <$> elements (t - 0x90)
  else if 0xa0 ≤ t ∧ t < 0xc0 then Object.str <$> readBlock endOfStream (t - 0xa0)
  else
    match t with
    | 0xcc => readUnsigned 1
    | 0xcd => readUnsigned 2
    | 0xce => readUnsigned 4
    | 0xcf => readUnsigned 8
    | 0xd0 => readSigned 1
    | 0xd1 => readSigned 2
    | 0xd2 => readSigned 4
    | 0xd3 => readSigned 8
    | 0xd9 => readStr 1
    | 0xda => readStr 2
    | 0xdb => readStr 4
    | 0xdc => Object.array <$> (readBE endOfStream 2 >>= elements)
    | 0xdd => Object.array <$> (readBE endOfStream 4 >>= elements)
    | _ => throw (.library (lit "parse error"))

/-- Unpack an object whose arrays are nested at most `depth` times. -/
def unpack : Nat → ByteReader Object
  | 0 => do
    let b ← readCell endOfStream
    -- An array would be nested too deep, even an empty one.
    unpackBody (fun _ => throw (.library (lit "depth size overflow"))) b.toNat
  | depth + 1 => do
    let b ← readCell endOfStream
    unpackBody (repeatM (unpack depth)) b.toNat

/-! ## Unpacking recognises what was packed -/

variable {elements : Nat → ByteReader (List Object)}

private theorem recognises_readUnsigned {w : Nat} {x : Int64} (hpos : 0 ≤ x.toInt)
    (h : x.toInt < 256 ^ w) : Recognises (readUnsigned w) (bytesBE w (natOfInt64 x)) (.int x) := by
  have heq := natOfInt64_eq x
  rw [if_pos hpos] at heq
  have hfits : natOfInt64 x < 256 ^ w := by
    rw [← heq] at h
    exact_mod_cast h
  have hread := (recognises_readBE endOfStream hfits).map fun n : Nat => Object.int (Int64.ofInt n)
  rwa [heq, Int64.ofInt_toInt] at hread

private theorem recognises_readSigned {w : Nat} {x : Int64} (hw : w = 1 ∨ w = 2 ∨ w = 4 ∨ w = 8)
    (hneg : x.toInt < 0) (h : -(256 ^ w) ≤ 2 * x.toInt) :
    Recognises (readSigned w) (bytesBE w (natOfInt64 x)) (.int x) := by
  have heq := natOfInt64_eq x
  rw [if_neg (by omega)] at heq
  have hvalue : (if 2 * (natOfInt64 x % 256 ^ w) < 256 ^ w then
        ((natOfInt64 x % 256 ^ w : Nat) : Int)
      else (natOfInt64 x % 256 ^ w : Nat) - 256 ^ w) = x.toInt := by
    rcases hw with rfl | rfl | rfl | rfl <;> omega
  have hread := (recognises_readBE_mod endOfStream w (natOfInt64 x)).map fun n : Nat =>
    Object.int (Int64.ofInt (if 2 * n < 256 ^ w then n else n - 256 ^ w))
  rwa [hvalue, Int64.ofInt_toInt] at hread

private theorem recognises_readStr {w : Nat} {s : StdString} (h : s.length < 256 ^ w) :
    Recognises (readStr w) (bytesBE w s.length ++ s) (.str s) :=
  ((recognises_readBE endOfStream h).bind (recognises_readBlock endOfStream s)).map Object.str

private theorem unpackBody_fixarray {n : Nat} (h : n < 16) :
    unpackBody elements (0x90 + n) = Object.array <$> elements n := by
  unfold unpackBody
  rw [if_neg (by omega), if_neg (by omega), if_pos (by omega), Nat.add_sub_cancel_left]

private theorem unpackBody_fixstr {n : Nat} (h : n < 32) :
    unpackBody elements (0xa0 + n) = Object.str <$> readBlock endOfStream n := by
  unfold unpackBody
  rw [if_neg (by omega), if_neg (by omega), if_neg (by omega), if_pos (by omega),
    Nat.add_sub_cancel_left]

private theorem unpackBody_fixnum {x : Int64} (hlow : -32 ≤ x.toInt) (hhigh : x.toInt < 128) :
    unpackBody elements (natOfInt64 x % 256) = pure (.int x) := by
  have heq := natOfInt64_eq x
  unfold unpackBody
  split_ifs at heq
  -- Not negative: the byte is below 128.
  · have hvalue : ((natOfInt64 x % 256 : Nat) : Int) = x.toInt := by omega
    rw [if_pos (by omega), hvalue, Int64.ofInt_toInt]
  · have hvalue : ((natOfInt64 x % 256 : Nat) : Int) - 256 = x.toInt := by omega
    rw [if_neg (by omega), if_pos (by omega), hvalue, Int64.ofInt_toInt]

/-- Every form of an integer is unpacked. -/
theorem recognises_packInt (x : Int64) :
    Recognises (readCell endOfStream >>= fun b => unpackBody elements b.toNat) (packInt x)
      (.int x) := by
  have heq := natOfInt64_eq x
  have hhigh := x.toInt_lt
  have hlow := x.le_toInt
  unfold packInt
  -- The forms of negative numbers, from the longest; the byte itself; the other forms.
  split_ifs
  · apply Recognises.cell
    exact recognises_readSigned (by decide) (by omega) (by omega)
  · apply Recognises.cell
    exact recognises_readSigned (by decide) (by omega) (by omega)
  · apply Recognises.cell
    exact recognises_readSigned (by decide) (by omega) (by omega)
  · apply Recognises.cell
    exact recognises_readSigned (by decide) (by omega) (by omega)
  · apply Recognises.cell
    rw [toNat_ofNat_of_lt (Nat.mod_lt _ (by decide)), unpackBody_fixnum (by omega) (by omega)]
    exact Recognises.pure _
  · apply Recognises.cell
    exact recognises_readUnsigned (by omega) (by omega)
  · apply Recognises.cell
    exact recognises_readUnsigned (by omega) (by omega)
  · apply Recognises.cell
    exact recognises_readUnsigned (by omega) (by omega)
  · apply Recognises.cell
    exact recognises_readUnsigned (by omega) (by omega)

/-- Every form of an array is unpacked, if its elements are. -/
theorem recognises_packArray {n : Nat} {bytes : StdString} {objects : List Object}
    (hn : n < 2 ^ 32) (h : Recognises (elements n) bytes objects) :
    Recognises (readCell endOfStream >>= fun b => unpackBody elements b.toNat)
      (packArray n ++ bytes) (.array objects) := by
  unfold packArray
  split_ifs with hfix hshort
  · apply Recognises.cell
    rw [toNat_ofNat_of_lt (by omega), unpackBody_fixarray hfix]
    exact h.map Object.array
  · apply Recognises.cell
    exact ((recognises_readBE endOfStream (w := 2) (by omega)).bind h).map Object.array
  · apply Recognises.cell
    exact ((recognises_readBE endOfStream (w := 4) (by omega)).bind h).map Object.array

/-- Every form of a string is unpacked. -/
theorem recognises_packStr {s : StdString} (hs : s.length < 2 ^ 32) :
    Recognises (readCell endOfStream >>= fun b => unpackBody elements b.toNat) (packStr s)
      (.str s) := by
  unfold packStr
  split_ifs with hfix hbyte hshort
  · apply Recognises.cell
    rw [toNat_ofNat_of_lt (by omega), unpackBody_fixstr hfix]
    exact (recognises_readBlock endOfStream s).map Object.str
  · apply Recognises.cell
    exact recognises_readStr (by omega)
  · apply Recognises.cell
    exact recognises_readStr (by omega)
  · apply Recognises.cell
    exact recognises_readStr (by omega)

/-! ## The packer -/

/-- The vector of an array of integers. -/
def intOfObject : Object → Except Exception Int64
  | .int x => .ok x
  | _ => .error CppSerializers.Msgpack.typeError

/-- The string of an object. -/
def strOfObject : Object → Except Exception StdString
  | .str s => .ok s
  | _ => .error CppSerializers.Msgpack.typeError

/-- `object::convert` to a vector. -/
def convertArray {α : Type} (convert : Object → Except Exception α) :
    Object → List α → Except Exception (List α)
  | .array elements, _ => elements.mapM convert
  | _, _ => .error CppSerializers.Msgpack.typeError

/-- MessagePack. -/
def packer : CppSerializers.Msgpack.Packer where
  Object := Object
  maxLength := 2 ^ 32 - 1
  packArray := packArray
  packInts ids := packArray ids.length ++ ids.flatMap packInt
  packStrings strings := packArray strings.length ++ strings.flatMap packStr
  unpack := unpack 2
  elements
    | .array elements => some elements
    | _ => none
  convertInts := convertArray intOfObject
  convertStrings := convertArray strOfObject

private theorem convertArray_map {α : Type} {convert : Object → Except Exception α}
    (object : α → Object) (h : ∀ a, convert (object a) = .ok a) (as target : List α) :
    convertArray convert (.array (as.map object)) target = .ok as := by
  show (as.map object).mapM convert = _
  induction as with
  | nil => rfl
  | cons a as ih =>
    rw [List.map_cons, List.mapM_cons, h, ih]
    rfl

private theorem recognises_vector {α : Type} {put : α → StdString} {object : α → Object}
    {as : List α} (hlength : as.length < 2 ^ 32)
    (h : ∀ a ∈ as, Recognises (unpack 0) (put a) (object a)) :
    Recognises (unpack 1) (packArray as.length ++ as.flatMap put) (.array (as.map object)) :=
  recognises_packArray hlength (Recognises.repeatM_map h)

private theorem recognises_pair {first second : StdString} {a b : Object}
    (hfirst : Recognises (unpack 1) first a) (hsecond : Recognises (unpack 1) second b) :
    Recognises (unpack 2) (packArray 2 ++ (first ++ second)) (.array [a, b]) := by
  have htail : Recognises (repeatM (unpack 1) 1) second [b] := hsecond.bind_pure rfl
  exact recognises_packArray (by decide) (hfirst.bind (htail.bind_pure rfl))

theorem packer_lawful : packer.Lawful where
  pair ids strings hids hstrings hlengths := by
    have hfits : ∀ {n : Nat}, n ≤ packer.maxLength → n < 2 ^ 32 := fun h =>
      Nat.lt_of_le_of_lt h (Nat.sub_lt (by decide) (by decide))
    have hunpackInts := recognises_vector (hfits hids) fun x _ => recognises_packInt x
    have hunpackStrings := recognises_vector (hfits hstrings) fun s hs =>
      recognises_packStr (hfits (hlengths s hs))
    exact ⟨_, _, _, recognises_pair hunpackInts hunpackStrings, rfl,
      convertArray_map Object.int (fun _ => rfl) ids,
      convertArray_map Object.str (fun _ => rfl) strings⟩

end CppSerializers.Reference.Msgpack
