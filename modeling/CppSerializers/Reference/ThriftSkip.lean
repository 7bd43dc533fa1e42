import CppSerializers.Foundation.Streaming
import CppSerializers.Libraries.ThriftTransfer
import CppSerializers.Reference.Streams

/-!
# Skipping in Thrift

`skip` gets past a value of any type with the calls of its protocol, and calls itself for
what the value is made of. It is the same for all protocols. A value may be nested up to a
limit, which is what bounds the recursion; the fields of a struct end with a stop field.

The value of a field and an element of a list are told apart because one protocol keeps
the value of a boolean field in the type of the field.

## Main definitions

* `SkipCalls` — the calls that `skip` makes
* `skip` — the recursion

## Main results

* `SkipCalls.Advances.skip`, `SkipCalls.Sequential.skip`, `SkipCalls.Meters.skip` — it only
  goes forward, does not look ahead, and is counted, as the calls are
-/

namespace CppSerializers.Reference.Thrift

open Foundation CppSerializers.Thrift

variable {σ : Type}

/-- How the values of a type are made up. -/
inductive Shape where
  | scalar
  | struct
  | map
  /-- Lists and sets. -/
  | list
  | invalid

/-- The calls that `skip` makes, but for those that read nothing. -/
structure SkipCalls (σ : Type) where
  shape : TType → Shape
  /-- A value without parts, which is the value of a field or not. -/
  readScalar : Bool → TType → StateT σ ByteReader Unit
  readStructBegin : StateT σ ByteReader Unit
  readStructEnd : StateT σ ByteReader Unit
  readFieldBegin : StateT σ ByteReader (TType × Nat)
  readMapBegin : StateT σ ByteReader ((TType × TType) × Nat)
  readListBegin : StateT σ ByteReader (TType × Nat)

/-- `TProtocolException` of type `DEPTH_LIMIT`. -/
def depthLimit : Exception := .library (lit "TProtocolException: Exceeded depth limit")

/-- What `skip` does on a type that there is not. -/
def invalidType : Exception := .library (lit "TProtocolException: invalid TType")

/-- Look at the input for a bound. -/
def peeking {α : Type} (x : StdString → StateT σ ByteReader α) : StateT σ ByteReader α := fun st =>
  get >>= fun stream => (x stream).run st

variable (c : SkipCalls σ)

/-- The fields of a struct. There are no more of them than bytes. -/
def skipFields (value : TType → StateT σ ByteReader Unit) : Nat → StateT σ ByteReader Unit
  | 0 => throw endOfStream
  | n + 1 => do
    let field ← c.readFieldBegin
    if field.1 = .stop then
      return ()
    else do
      value field.1
      skipFields value n

/-- `skip`, with the depth that is left. -/
def skip : Nat → Bool → TType → StateT σ ByteReader Unit
  | 0, _, _ => throw depthLimit
  | depth + 1, inField, ftype =>
    match c.shape ftype with
    | .scalar => c.readScalar inField ftype
    -- Only the parts of a struct are fields.
    | .struct => do
      c.readStructBegin
      peeking fun stream => skipFields c (skip depth true) (stream.length + 1)
      c.readStructEnd
    | .map => do
      let (types, size) ← c.readMapBegin
      let _ ← repeatM (skip depth false types.1 >>= fun _ => skip depth false types.2) size
      return ()
    | .list => do
      let (etype, size) ← c.readListBegin
      let _ ← repeatM (skip depth false etype) size
      return ()
    | .invalid => throw invalidType

/-- The limit is 64, and reading the record that is around the value counts as well. -/
def skipDepth : Nat := 63

variable {c}

/-! ## Going forward -/

/-- No call gives input back. -/
structure SkipCalls.Advances (c : SkipCalls σ) : Prop where
  scalar : ∀ inField ftype st, Consumes 0 ((c.readScalar inField ftype).run st)
  structBegin : ∀ st, Consumes 0 (c.readStructBegin.run st)
  structEnd : ∀ st, Consumes 0 (c.readStructEnd.run st)
  fieldBegin : ∀ st, Consumes 0 (c.readFieldBegin.run st)
  mapBegin : ∀ st, Consumes 0 (c.readMapBegin.run st)
  listBegin : ∀ st, Consumes 0 (c.readListBegin.run st)

private theorem consumes_peeking {α : Type} {x : StdString → StateT σ ByteReader α} {n : Nat}
    (h : ∀ stream st, Consumes n ((x stream).run st)) (st : σ) :
    Consumes n ((peeking x).run st) := fun stream a rest hrun => h stream st stream a rest hrun

private theorem consumes_repeated {α : Type} {x : StateT σ ByteReader α}
    (h : ∀ st, Consumes 0 (x.run st)) (n : Nat) (st : σ) :
    Consumes 0 ((repeatM x n >>= fun _ => pure ()).run st) :=
  Consumes.stateBind (Consumes.repeatM h n) (fun _ st => Consumes.pure ((), st)) st

private theorem SkipCalls.Advances.fields (h : c.Advances)
    {value : TType → StateT σ ByteReader Unit}
    (hvalue : ∀ ftype st, Consumes 0 ((value ftype).run st)) (n : Nat) (st : σ) :
    Consumes 0 ((skipFields c value n).run st) := by
  induction n generalizing st with
  | zero => exact Consumes.throw _
  | succ n ih =>
    refine Consumes.stateBind h.fieldBegin (fun field st => ?_) st
    by_cases hstop : field.1 = .stop
    · rw [if_pos hstop]
      exact Consumes.pure ((), st)
    · rw [if_neg hstop]
      exact Consumes.stateBind (hvalue field.1) (fun _ => ih) st

theorem SkipCalls.Advances.skip (h : c.Advances) (depth : Nat) (inField : Bool) (ftype : TType)
    (st : σ) : Consumes 0 ((skip c depth inField ftype).run st) := by
  induction depth generalizing inField ftype st with
  | zero => exact Consumes.throw _
  | succ depth ih =>
    rw [Thrift.skip]
    split
    · exact h.scalar inField ftype st
    · refine Consumes.stateBind h.structBegin (fun _ => ?_) st
      refine Consumes.stateBind (consumes_peeking fun stream => ?_) fun _ => h.structEnd
      exact h.fields (ih true) _
    · refine Consumes.stateBind h.mapBegin (fun map => consumes_repeated ?_ _) st
      exact Consumes.stateBind (ih false _) fun _ => ih false _
    · exact Consumes.stateBind h.listBegin (fun list => consumes_repeated (ih false _) _) st
    · exact Consumes.throw _

/-! ## Not looking ahead -/

/-- No call looks past what it takes. -/
structure SkipCalls.Sequential (c : SkipCalls σ) : Prop where
  scalar : ∀ inField ftype st, Streaming ((c.readScalar inField ftype).run st)
  structBegin : ∀ st, Streaming (c.readStructBegin.run st)
  structEnd : ∀ st, Streaming (c.readStructEnd.run st)
  fieldBegin : ∀ st, Streaming (c.readFieldBegin.run st)
  mapBegin : ∀ st, Streaming (c.readMapBegin.run st)
  listBegin : ∀ st, Streaming (c.readListBegin.run st)

private theorem streaming_repeated {α : Type} {x : StateT σ ByteReader α}
    (h : ∀ st, Streaming (x.run st)) (n : Nat) (st : σ) :
    Streaming ((repeatM x n >>= fun _ => pure ()).run st) :=
  Extends.stateBind (Extends.stateRepeatM h n) (fun _ st => Extends.pure ((), st)) st

private theorem SkipCalls.Sequential.fields (h : c.Sequential)
    {value : TType → StateT σ ByteReader Unit}
    (hvalue : ∀ ftype st, Streaming ((value ftype).run st)) {n m : Nat} (hle : n ≤ m) (st : σ) :
    Extends ((skipFields c value n).run st) ((skipFields c value m).run st) := by
  induction n generalizing m st with
  | zero => exact Extends.throw _
  | succ n ih =>
    obtain ⟨m, rfl⟩ : ∃ k, m = k + 1 := ⟨m - 1, by omega⟩
    refine Extends.stateBind h.fieldBegin (fun field st => ?_) st
    by_cases hstop : field.1 = .stop
    · rw [if_pos hstop, if_pos hstop]
      exact Extends.pure ((), st)
    · rw [if_neg hstop, if_neg hstop]
      exact Extends.stateBind (hvalue field.1) (fun _ => ih (Nat.le_of_succ_le_succ hle)) st

theorem SkipCalls.Sequential.skip (h : c.Sequential) (depth : Nat) (inField : Bool)
    (ftype : TType) (st : σ) : Streaming ((skip c depth inField ftype).run st) := by
  induction depth generalizing inField ftype st with
  | zero => exact Extends.throw _
  | succ depth ih =>
    rw [Thrift.skip]
    split
    · exact h.scalar inField ftype st
    · refine Extends.stateBind h.structBegin (fun _ => ?_) st
      refine Extends.stateBind (fun st => Extends.peek fun stream more => ?_) fun _ => h.structEnd
      refine h.fields (ih true) ?_ st
      rw [List.length_append]
      omega
    · refine Extends.stateBind h.mapBegin (fun map => streaming_repeated ?_ _) st
      exact Extends.stateBind (ih false _) fun _ => ih false _
    · exact Extends.stateBind h.listBegin (fun list => streaming_repeated (ih false _) _) st
    · exact Extends.throw _

/-! ## Counting -/

/-- The calls of `c'` are those of `c`, and add to a counter what they take. -/
structure SkipCalls.Meters (c' : SkipCalls (UInt32 × σ)) (c : SkipCalls σ) : Prop where
  shape : c'.shape = c.shape
  scalar : ∀ inField ftype,
    Reader.Meters transferred (c'.readScalar inField ftype) (c.readScalar inField ftype)
  structBegin : Reader.Meters transferred c'.readStructBegin c.readStructBegin
  structEnd : Reader.Meters transferred c'.readStructEnd c.readStructEnd
  fieldBegin : Reader.Meters transferred c'.readFieldBegin c.readFieldBegin
  mapBegin : Reader.Meters transferred c'.readMapBegin c.readMapBegin
  listBegin : Reader.Meters transferred c'.readListBegin c.readListBegin

variable {c' : SkipCalls (UInt32 × σ)}

private theorem meters_peeking {α : Type} {x : StdString → StateT (UInt32 × σ) ByteReader α}
    {y : StdString → StateT σ ByteReader α}
    (h : ∀ stream, Reader.Meters transferred (x stream) (y stream)) :
    Reader.Meters transferred (peeking x) (peeking y) where
  consumes := consumes_peeking fun stream => (h stream).consumes
  run_eq n s stream := (h stream).run_eq n s stream

private theorem SkipCalls.Meters.fields (h : c'.Meters c)
    {value' : TType → StateT (UInt32 × σ) ByteReader Unit}
    {value : TType → StateT σ ByteReader Unit}
    (hvalue : ∀ ftype, Reader.Meters transferred (value' ftype) (value ftype)) (n : Nat) :
    Reader.Meters transferred (skipFields c' value' n) (skipFields c value n) := by
  induction n with
  | zero => exact Reader.Meters.throw _
  | succ n ih =>
    refine h.fieldBegin.bind fun field => ?_
    by_cases hstop : field.1 = .stop
    · rw [if_pos hstop, if_pos hstop]
      exact Reader.Meters.pure ()
    · rw [if_neg hstop, if_neg hstop]
      exact (hvalue field.1).bind fun _ => ih

theorem SkipCalls.Meters.skip (h : c'.Meters c) (depth : Nat) (inField : Bool) (ftype : TType) :
    Reader.Meters transferred (skip c' depth inField ftype) (skip c depth inField ftype) := by
  induction depth generalizing inField ftype with
  | zero => exact Reader.Meters.throw _
  | succ depth ih =>
    rw [Thrift.skip, Thrift.skip, h.shape]
    split
    · exact h.scalar inField ftype
    · refine h.structBegin.bind fun _ => ?_
      exact (meters_peeking fun stream => h.fields (ih true) _).bind fun _ => h.structEnd
    · refine h.mapBegin.bind fun map => Reader.Meters.bind_pure ?_
      exact ((ih false _).bind fun _ => ih false _).repeatM _
    · refine h.listBegin.bind fun list => Reader.Meters.bind_pure ?_
      exact (ih false _).repeatM _
    · exact Reader.Meters.throw _

end CppSerializers.Reference.Thrift
