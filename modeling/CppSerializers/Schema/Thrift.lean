import CppSerializers.Foundation.Coupling
import CppSerializers.Foundation.Progress
import CppSerializers.Reference.Thrift

/-!
# Thrift: reading structs that another schema wrote

`Record::read` is a loop over the fields of a struct, whatever they are and in whatever
order they come. The benchmark only ever reads what `Record::write` wrote. Here the
struct is arbitrary: fields of this schema in any order and any number, between them
fields that this schema does not have, as a later version of it might write them. Every
list field replaces what an earlier one left, unknown fields are skipped, and both
fields are required.

Two facts hold of any input at all. What the target held has no influence on the
outcome, not even on the exception when the struct is malformed. And the
`while (true)` of the loop terminates: a pass takes at least the type of a field, so
the loop is the only solution of its own unfolding equation.

## Main definitions

* `StructField`, `writeStruct` — structs with arbitrary fields
* `Skippable`, `StructField.Readable` — fields the reading side can get past
* `TProtocol.Advances` — no call of the protocol gives input back
* `readPass`, `readWith` — one pass of the loop, and `Record::read` over a loop without bound

## Main results

* `read_forgets_target` — the target has no influence
* `read_struct` — what is read from an arbitrary struct
* `read_eq_unbounded` — the loop terminates on every input
-/

namespace CppSerializers.Thrift

open Foundation

variable (P : TProtocol)

/-! ## What the target held -/

/-- The two have read the same fields, and agree on what they have read. -/
structure ReadState.Agrees (st st' : ReadState) : Prop where
  issetIds_eq : st.issetIds = st'.issetIds
  issetStrings_eq : st.issetStrings = st'.issetStrings
  ids_eq : st.issetIds = true → st.target.ids = st'.target.ids
  strings_eq : st.issetStrings = true → st.target.strings = st'.target.strings

private theorem readField_coupled (ftype : TType) (fid : Nat) {st st' : ReadState}
    (h : st.Agrees st') :
    Coupled ReadState.Agrees (readField P ftype fid st) (readField P ftype fid st') := by
  have hskip : Coupled ReadState.Agrees
      (P.skip ftype >>= fun _ => pure st) (P.skip ftype >>= fun _ => pure st') :=
    Coupled.bind_same _ fun _ => Coupled.pure h
  -- A field that is read is the same afterwards, whatever it was before.
  match fid with
  | 1 =>
    by_cases hlist : ftype = .list
    · simp only [readField, if_pos hlist]
      refine Coupled.bind_same _ fun ids => Coupled.pure ?_
      exact ⟨rfl, h.issetStrings_eq, fun _ => rfl, h.strings_eq⟩
    · simpa only [readField, if_neg hlist] using hskip
  | 2 =>
    by_cases hlist : ftype = .list
    · simp only [readField, if_pos hlist]
      refine Coupled.bind_same _ fun strings => Coupled.pure ?_
      exact ⟨h.issetIds_eq, rfl, h.ids_eq, fun _ => rfl⟩
    · simpa only [readField, if_neg hlist] using hskip
  | 0 => exact hskip
  | _ + 3 => exact hskip

private theorem readFields_coupled (fuel : Nat) {st st' : ReadState} (h : st.Agrees st') :
    Coupled ReadState.Agrees (readFields P fuel st) (readFields P fuel st') := by
  induction fuel generalizing st st' with
  | zero => exact ⟨throw (.library (lit "Record::read does not return")), rfl, rfl⟩
  | succ fuel ih =>
    rw [readFields, readFields]
    refine Coupled.bind_same _ fun field => ?_
    by_cases hstop : field.1 = .stop
    · rw [if_pos hstop, if_pos hstop]
      exact Coupled.pure h
    · rw [if_neg hstop, if_neg hstop]
      refine (readField_coupled P field.1 field.2 h).bind fun next next' hnext => ?_
      exact Coupled.bind_same _ fun _ => ih hnext

private theorem readResult_eq {st st' : ReadState} (h : st.Agrees st') :
    readResult P st = readResult P st' := by
  rw [readResult, readResult, h.issetIds_eq, h.issetStrings_eq]
  by_cases hids : st'.issetIds = true
  · by_cases hstrings : st'.issetStrings = true
    · have htarget : st.target = st'.target := by
        have hids' := h.ids_eq (h.issetIds_eq.trans hids)
        have hstrings' := h.strings_eq (h.issetStrings_eq.trans hstrings)
        exact congrArg₂ Record.mk hids' hstrings'
      rw [htarget]
    · simp [hids, hstrings]
  · simp [hids]

/-- **What the target held has no influence**, on any input and over any protocol: a read that
throws does so with the same exception, and one that returns has the same record, leaves the
same input and the same protocol. -/
theorem read_forgets_target (target target' : Record) : read P target = read P target' := by
  have hstart : ReadState.Agrees { target := target } { target := target' } :=
    ⟨rfl, rfl, fun h => Bool.noConfusion h, fun h => Bool.noConfusion h⟩
  have hbounded : ∀ fuel, readBounded P fuel target = readBounded P fuel target' := by
    intro fuel
    apply Coupled.eq
    refine Coupled.bind_same _ fun _ => ?_
    refine (readFields_coupled P fuel hstart).bind fun st st' hagrees => ?_
    refine Coupled.bind_same _ fun _ => ?_
    rw [readResult_eq P hagrees]
    exact Coupled.refl _
  funext protocol
  simp only [read, hbounded]

/-! ## Structs with arbitrary fields -/

/-- A field of a struct: one of the two of this schema, or any other. -/
inductive StructField (P : TProtocol) where
  | ids (ids : List Int64)
  | strings (strings : List StdString)
  | unknown (name : StdString) (ftype : TType) (fid : Nat) (body : Emitter P.State UInt8)

namespace StructField

variable {P}

/-- What the writer of a struct with this field does. -/
def write : StructField P → Emitter P.State UInt8
  | .ids xs => writeListField P (lit "ids") 1 .i64 P.writeI64 xs
  | .strings ss => writeListField P (lit "strings") 2 .string P.writeString ss
  | .unknown name ftype fid body =>
    (P.writeFieldBegin name ftype fid).andThen (body.andThen P.writeFieldEnd)

/-- What reading the field changes. -/
def store (st : ReadState) : StructField P → ReadState
  | .ids xs => { st with target := { st.target with ids := xs }, issetIds := true }
  | .strings ss => { st with target := { st.target with strings := ss }, issetStrings := true }
  | .unknown .. => st

/-- The integers of the field, if it has any. -/
def ids? : StructField P → Option (List Int64)
  | .ids xs => some xs
  | _ => none

/-- The strings of the field, if it has any. -/
def strings? : StructField P → Option (List StdString)
  | .strings ss => some ss
  | _ => none

end StructField

/-- A struct with the given fields. -/
def writeStruct (fields : List (StructField P)) : Emitter P.State UInt8 :=
  (P.writeStructBegin (lit "Record")).andThen <|
    (Emitter.forEach StructField.write fields).andThen <|
    P.writeFieldStop.andThen P.writeStructEnd

/-- `Record::write` writes a struct with the two fields of a record. -/
theorem write_eq_writeStruct (r : Record) :
    write P r = writeStruct P [.ids r.ids, .strings r.strings] := by
  simp only [write, writeStruct, Emitter.forEach, Emitter.andThen_assoc]
  rfl

/-- `Record::read` up to the check for the required fields, with a bound on its passes. -/
def readWithin (fuel : Nat) (target : Record) : StateT P.State ByteReader ReadState := do
  P.readStructBegin
  let st ← readFields P fuel { target := target }
  P.readStructEnd
  return st

/-- `Record::read` up to the check for the required fields: the whole struct. -/
def readWhole (target : Record) : StateT P.State ByteReader ReadState := fun protocol => do
  let stream ← get
  (readWithin P (stream.length + 3) target).run protocol

private theorem run_readWhole (target : Record) (protocol : P.State) (stream : StdString) :
    ((readWhole P target).run protocol).run stream =
      ((readWithin P (stream.length + 3) target).run protocol).run stream := by
  have hread : (readWhole P target).run protocol =
      (get >>= fun stream : StdString => (readWithin P (stream.length + 3) target).run protocol) :=
    rfl
  rw [hread, StateT.run_bind, StateT.run_get, pure_bind]

/-- The required fields are looked for when the struct has been read. -/
theorem read_eq_readWhole (target : Record) :
    read P target = readWhole P target >>= readResult P := by
  have hbounded : ∀ fuel,
      readBounded P fuel target = readWithin P fuel target >>= readResult P := by
    intro fuel
    simp only [readBounded, readWithin, bind_assoc, pure_bind]
  funext protocol stream
  refine (run_read P target protocol stream).trans ?_
  show _ = ((readWhole P target >>= readResult P).run protocol).run stream
  rw [hbounded, StateT.run_bind, StateT.run_bind, StateT.run_bind, StateT.run_bind, run_readWhole]

variable {P} {Inside : P.State → P.State → Prop}

/-- The reading side gets past a field of another schema: the field is not one that it reads,
and `skip` recognises its body. -/
structure Skippable (Inside : P.State → P.State → Prop) (name : StdString) (ftype : TType)
    (fid : Nat) (body : Emitter P.State UInt8) : Prop where
  notStop : ftype ≠ .stop
  notRead : ftype = .list → fid ≠ 1 ∧ fid ≠ 2
  fieldBegin :
    Lockstep Inside (P.writeFieldBegin name ftype fid) P.readFieldBegin (ftype, fid) Inside
  skip : Lockstep Inside body (P.skip ftype) () Inside

/-- The field is within the lengths of the protocol, or can be skipped. -/
def StructField.Readable (Inside : P.State → P.State → Prop) : StructField P → Prop
  | .ids xs => xs.length ≤ P.maxLength
  | .strings ss => ss.length ≤ P.maxLength ∧ ∀ s ∈ ss, s.length ≤ P.maxLength
  | .unknown name ftype fid body => Skippable Inside name ftype fid body

/-- Every field begins with at least a byte. -/
def TProtocol.Tagged (P : TProtocol) : Prop :=
  ∀ name ftype fid st, (P.writeFieldBegin name ftype fid st).1 ≠ []

private theorem readField_skip {ftype : TType} {fid : Nat}
    (h : ftype = .list → fid ≠ 1 ∧ fid ≠ 2) (st : ReadState) :
    readField P ftype fid st = (fun _ => st) <$> P.skip ftype := by
  have hskip : (fun _ => st) <$> P.skip ftype = P.skip ftype >>= fun _ => pure st :=
    (bind_pure_comp _ _).symm
  rw [hskip]
  match fid with
  | 1 => exact if_neg fun hlist => (h hlist).1 rfl
  | 2 => exact if_neg fun hlist => (h hlist).2 rfl
  | 0 => rfl
  | _ + 3 => rfl

section Structs

variable (h : P.InStep Inside) {fields : List (StructField P)}
include h

private theorem readFields_cons {field : StructField P} (hfield : field.Readable Inside)
    {rest : Emitter P.State UInt8} {st out : ReadState} {R : P.State → P.State → Prop} {fuel : Nat}
    (hrest : Lockstep Inside rest (readFields P fuel (field.store st)) out R) :
    Lockstep Inside (field.write.andThen rest) (readFields P (fuel + 1) st) out R := by
  cases field with
  | ids xs =>
    have hbody := h.listBody (Or.inl rfl) hfield fun x _ => h.i64 x
    exact h.fieldPass (fun xs => (StructField.ids (P := P) xs).store st) (by decide) (by decide)
      hbody rfl hrest
  | strings ss =>
    have hbody := h.listBody (Or.inr rfl) hfield.1 fun s hs => h.string s (hfield.2 s hs)
    exact h.fieldPass (fun ss => (StructField.strings (P := P) ss).store st) (by decide) (by decide)
      hbody rfl hrest
  | unknown name ftype fid body =>
    rw [StructField.write, Emitter.andThen_assoc, Emitter.andThen_assoc, readFields]
    refine hfield.fieldBegin.andThen ?_
    rw [if_neg hfield.notStop, readField_skip hfield.notRead]
    exact (hfield.skip.map fun _ => st).andThen (h.fieldEnd.andThen hrest)

private theorem readFields_struct (hfields : ∀ field ∈ fields, field.Readable Inside)
    (st : ReadState) (fuel : Nat) :
    Lockstep Inside ((Emitter.forEach StructField.write fields).andThen P.writeFieldStop)
      (readFields P (fields.length + fuel + 1) st) (fields.foldl StructField.store st) Inside := by
  induction fields generalizing st with
  | nil => exact h.stopPass
  | cons field fields ih =>
    rw [List.forall_mem_cons] at hfields
    have hrest := ih hfields.2 (field.store st)
    have hlength : (field :: fields).length + fuel + 1 = fields.length + fuel + 1 + 1 := by
      rw [List.length_cons]
      omega
    rw [Emitter.forEach, Emitter.andThen_assoc, hlength]
    exact readFields_cons h hfields.1 hrest

private theorem readWithin_struct (hfields : ∀ field ∈ fields, field.Readable Inside)
    (target : Record) (fuel : Nat) :
    Lockstep P.Idle (writeStruct P fields) (readWithin P (fields.length + fuel + 1) target)
      (fields.foldl StructField.store { target := target }) P.Idle := by
  have hclose : ∀ out : ReadState, Lockstep Inside P.writeStructEnd
      (P.readStructEnd >>= fun _ => pure out) out P.Idle := fun out => h.structEnd.bind_pure rfl
  have hwrite : writeStruct P fields = (P.writeStructBegin (lit "Record")).andThen
      (((Emitter.forEach StructField.write fields).andThen P.writeFieldStop).andThen
        P.writeStructEnd) := by
    rw [Emitter.andThen_assoc]
    rfl
  rw [hwrite]
  refine (h.structBegin (lit "Record")).andThen ?_
  exact (readFields_struct h hfields { target := target } fuel).andThen (hclose _)

end Structs

/-! ### What is read -/

/-- What a struct is read as: the last integers and the last strings, if it has both. -/
def lastRecord (fields : List (StructField P)) : Option Record := do
  let ids ← (fields.filterMap StructField.ids?).getLast?
  let strings ← (fields.filterMap StructField.strings?).getLast?
  return { ids := ids, strings := strings }

private theorem foldl_store (fields : List (StructField P)) (st : ReadState) :
    fields.foldl StructField.store st =
      { target :=
          { ids := (fields.filterMap StructField.ids?).getLast?.getD st.target.ids
            strings := (fields.filterMap StructField.strings?).getLast?.getD st.target.strings }
        issetIds := st.issetIds || (fields.filterMap StructField.ids?).getLast?.isSome
        issetStrings :=
          st.issetStrings || (fields.filterMap StructField.strings?).getLast?.isSome } := by
  induction fields generalizing st with
  | nil => simp
  | cons field fields ih =>
    rw [List.foldl_cons, ih]
    cases field <;>
      simp [StructField.store, StructField.ids?, StructField.strings?, List.getLast?_cons]

private theorem readResult_foldl_store (fields : List (StructField P)) (target : Record) :
    readResult P (fields.foldl StructField.store { target := target }) =
      match lastRecord fields with
      | some r => pure r
      | none => throw invalidData := by
  rw [foldl_store, lastRecord]
  cases hids : (fields.filterMap StructField.ids?).getLast? with
  | none => rfl
  | some ids =>
    cases hstrings : (fields.filterMap StructField.strings?).getLast? with
    | none => rfl
    | some strings => rfl

private theorem length_le_writeStruct (htagged : P.Tagged) (fields : List (StructField P)) :
    fields.length ≤ (writeStruct P fields P.fresh).1.length := by
  have hfields : ∀ st, fields.length ≤ (Emitter.forEach StructField.write fields st).1.length := by
    induction fields with
    | nil => exact fun st => Nat.zero_le _
    | cons field fields ih =>
      intro st
      have hrest := ih (field.write st).2
      have hfield : 0 < (field.write st).1.length := by
        cases field <;>
          exact List.length_pos_of_ne_nil
            (List.append_ne_nil_of_left_ne_nil (htagged _ _ _ _) _)
      simp only [Emitter.forEach, Emitter.andThen, List.length_append, List.length_cons]
      omega
  have hbetween := hfields ((P.writeStructBegin (lit "Record")) P.fresh).2
  simp only [writeStruct, Emitter.andThen, List.length_append]
  omega

/-- **Reading an arbitrary struct.** The whole struct is read, whether or not it has both
fields, and what follows it is left. Then the last integers and the last strings make the
record, whatever came before and between them; if one of the two is missing, that is the
exception. -/
theorem read_struct (h : P.InStep Inside) (htagged : P.Tagged) {fields : List (StructField P)}
    (hfields : ∀ field ∈ fields, field.Readable Inside) (target : Record) (rest : StdString) :
    read P target = readWhole P target >>= readResult P ∧
      (∃ st, ((readWhole P target).run P.fresh).run ((writeStruct P fields P.fresh).1 ++ rest) =
        .ok ((st, P.fresh), rest)) ∧
      ((read P target).run P.fresh).run ((writeStruct P fields P.fresh).1 ++ rest) =
        match lastRecord fields with
        | some r => .ok ((r, P.fresh), rest)
        | none => .error invalidData := by
  have hsplit := read_eq_readWhole P target
  obtain ⟨fuel, hfuel⟩ : ∃ fuel, ((writeStruct P fields P.fresh).1 ++ rest).length + 3 =
      fields.length + fuel + 1 := by
    have hlength := length_le_writeStruct htagged fields
    rw [List.length_append]
    exact ⟨(writeStruct P fields P.fresh).1.length + rest.length + 2 - fields.length, by omega⟩
  obtain ⟨t, hread, hidle⟩ := readWithin_struct h hfields target fuel P.fresh P.fresh ⟨rfl, rfl⟩
  have hwhole : ((readWhole P target).run P.fresh).run
      ((writeStruct P fields P.fresh).1 ++ rest) =
      .ok ((fields.foldl StructField.store { target := target }, P.fresh), rest) := by
    rw [run_readWhole, hfuel, hread rest, hidle.2]
  refine ⟨hsplit, ⟨_, hwhole⟩, ?_⟩
  rw [hsplit, StateT.run_bind, StateT.run_bind, hwhole]
  show ((readResult P _).run P.fresh).run rest = _
  rw [readResult_foldl_store]
  cases lastRecord fields <;> rfl

/-- The binary protocol reads the strings first, an integer it does not know, and the integers
twice. -/
theorem read_struct_binary :
    ((read Reference.Thrift.binaryProtocol { ids := [7] }).run ()).run
        ((writeStruct Reference.Thrift.binaryProtocol
          [.strings [lit "a"],
            .unknown (lit "version") .i64 3 (Reference.Thrift.binaryProtocol.writeI64 5),
            .ids [1], .ids [2, 3]] ()).1 ++ [255]) =
      .ok ((⟨[2, 3], [lit "a"]⟩, ()), [255]) := by
  have hversion : Skippable (P := Reference.Thrift.binaryProtocol)
      Reference.Thrift.binaryProtocol.Idle (lit "version") .i64 3
      (Reference.Thrift.binaryProtocol.writeI64 5) := by
    refine ⟨by decide, fun h => absurd h (by decide), ?_, ?_⟩
    · apply Lockstep.lift
      apply Recognises.cell
      exact (recognises_readBE Reference.endOfStream (w := 2) (by decide)).bind_pure rfl
    · have hscalar : Recognises (Reference.Thrift.readBinaryScalar .i64)
          (bytesBE 8 (natOfInt64 5)) 8 :=
        (recognises_readBlock Reference.endOfStream (bytesBE 8 (natOfInt64 5))).map List.length
      exact (Lockstep.lift hscalar).map fun _ => ()
  refine (read_struct Reference.Thrift.binaryProtocol_inStep ?_ ?_ { ids := [7] } [255]).2.2
  · exact fun _ _ _ _ => List.cons_ne_nil _ _
  · simp only [List.forall_mem_cons, List.not_mem_nil, false_imp_iff, implies_true, and_true]
    have hlength : ∀ n : Nat, n ≤ 2 → n ≤ 2 ^ 31 - 1 := fun n hn => by omega
    exact ⟨⟨by decide, by decide⟩, hversion, hlength 1 (by decide), hlength 2 (by decide)⟩

/-! ## The loop without a bound -/

/-- No call of the protocol gives input back, and the type of a field takes at least a byte. -/
structure TProtocol.Advances (P : TProtocol) : Prop where
  structBegin : ∀ st, Consumes 0 (P.readStructBegin.run st)
  fieldBegin : ∀ st, Consumes 1 (P.readFieldBegin.run st)
  fieldEnd : ∀ st, Consumes 0 (P.readFieldEnd.run st)
  listBegin : ∀ st, Consumes 0 (P.readListBegin.run st)
  listEnd : ∀ st, Consumes 0 (P.readListEnd.run st)
  i64 : ∀ st, Consumes 0 (P.readI64.run st)
  string : ∀ st, Consumes 0 (P.readString.run st)
  skip : ∀ ftype st, Consumes 0 ((P.skip ftype).run st)

variable (P) in
/-- One pass of the `while (true)` of `Record::read`, before the rest of the loop. -/
def readPass (loop : ReadState → StateT P.State ByteReader ReadState) (st : ReadState) :
    StateT P.State ByteReader ReadState := do
  let field ← P.readFieldBegin
  if field.1 = .stop then
    return st
  else do
    let st ← readField P field.1 field.2 st
    P.readFieldEnd
    loop st

variable (P) in
/-- `Record::read`, with a loop that has no bound. -/
def readWith (loop : ReadState → StateT P.State ByteReader ReadState) (target : Record) :
    StateT P.State ByteReader Record := do
  P.readStructBegin
  let st ← loop { target := target }
  P.readStructEnd
  readResult P st

/-- What a loop depends on: the state of the generated code, that of the protocol, and the
input. -/
abbrev LoopState (P : TProtocol) := ReadState × P.State × StdString

/-- What a loop ends with. -/
abbrev LoopResult (P : TProtocol) := Except Exception ((ReadState × P.State) × StdString)

variable (P) in
/-- A pass as a function of all that the loop depends on. -/
private def passStep (loop : LoopState P → LoopResult P) (a : LoopState P) : LoopResult P :=
  ((readPass P (fun st protocol stream => loop (st, protocol, stream)) a.1).run a.2.1).run a.2.2

namespace TProtocol.Advances

variable (h : P.Advances)
include h

private theorem listBody {α : Type} {get : StateT P.State ByteReader α}
    (hget : ∀ st, Consumes 0 (get.run st)) (st : P.State) :
    Consumes 0 ((readListBody P get).run st) := by
  refine Consumes.stateBind h.listBegin (fun list => ?_) st
  refine Consumes.stateBind (Consumes.repeatM hget list.2) fun xs => ?_
  exact Consumes.stateBind h.listEnd fun _ st => Consumes.pure _

private theorem field (ftype : TType) (fid : Nat) (out : ReadState) (st : P.State) :
    Consumes 0 ((readField P ftype fid out).run st) := by
  have hskip : Consumes 0 ((P.skip ftype >>= fun _ => pure out).run st) :=
    Consumes.stateBind (h.skip ftype) (fun _ st => Consumes.pure (out, st)) st
  match fid with
  | 1 =>
    by_cases hlist : ftype = .list
    · simp only [readField, if_pos hlist]
      exact Consumes.stateBind (h.listBody h.i64) (fun _ st => Consumes.pure _) st
    · simpa only [readField, if_neg hlist] using hskip
  | 2 =>
    by_cases hlist : ftype = .list
    · simp only [readField, if_pos hlist]
      exact Consumes.stateBind (h.listBody h.string) (fun _ st => Consumes.pure _) st
    · simpa only [readField, if_neg hlist] using hskip
  | 0 => exact hskip
  | _ + 3 => exact hskip

private theorem contracting :
    Contracting (fun a : LoopState P => a.2.2.length) (passStep P) := by
  rintro ⟨st, protocol, stream⟩ loop loop' hloop
  simp only [passStep, readPass]
  refine Consumes.stateRun_bind_congr h.fieldBegin fun field protocol rest hrest => ?_
  by_cases hstop : field.1 = .stop
  · rw [if_pos hstop, if_pos hstop]
  · rw [if_neg hstop, if_neg hstop]
    refine Consumes.stateRun_bind_congr (h.field _ _ st) fun next protocol rest' hrest' => ?_
    refine Consumes.stateRun_bind_congr h.fieldEnd fun _ protocol rest'' hrest'' => ?_
    exact hloop (next, protocol, rest'') (by dsimp only; omega)

end TProtocol.Advances

/-- Running out of passes. -/
private def stuck (_ : LoopState P) : LoopResult P :=
  .error (.library (lit "Record::read does not return"))

private theorem run_readFields (n : Nat) (a : LoopState P) :
    ((readFields P n a.1).run a.2.1).run a.2.2 = bounded (passStep P) stuck n a := by
  induction n generalizing a with
  | zero => rfl
  | succ n ih =>
    have hloop : bounded (passStep P) stuck n =
        fun a => ((readFields P n a.1).run a.2.1).run a.2.2 := funext fun a => (ih a).symm
    rw [bounded, hloop]
    rfl

private theorem passStep_uncurry {loop : ReadState → StateT P.State ByteReader ReadState}
    (hloop : readPass P loop = loop) :
    passStep P (fun a => ((loop a.1).run a.2.1).run a.2.2) =
      fun a => ((loop a.1).run a.2.1).run a.2.2 := by
  funext a
  conv_rhs => rw [← hloop]
  rfl

/-- **The loop terminates on every input**, well formed or not: its unfolding equation has one
solution, and `Record::read` is what it is with that solution for its loop. -/
theorem read_eq_unbounded (h : P.Advances) :
    (∃! loop : ReadState → StateT P.State ByteReader ReadState, readPass P loop = loop) ∧
      ∀ loop, readPass P loop = loop → ∀ target, read P target = readWith P loop target := by
  refine ⟨?_, fun loop hloop target => ?_⟩
  · obtain ⟨loop, hloop, hunique⟩ := h.contracting.existsUnique stuck
    refine ⟨fun st protocol stream => loop (st, protocol, stream), ?_, fun other hother => ?_⟩
    · funext st protocol stream
      exact congrFun hloop (st, protocol, stream)
    · funext st protocol stream
      exact congrFun (hunique _ (passStep_uncurry hother)) (st, protocol, stream)
  · funext protocol stream
    refine (run_read P target protocol stream).trans ?_
    -- The struct may begin with bytes of its own, which leaves passes to spare.
    refine Consumes.stateRun_bind_congr h.structBegin fun _ protocol rest hrest => ?_
    have hfields :=
      (run_readFields (stream.length + 3) ({ target := target }, protocol, rest)).trans
        (h.contracting.bounded_eq (passStep_uncurry hloop) stuck (by dsimp only; omega))
    rw [StateT.run_bind, StateT.run_bind, StateT.run_bind, hfields]
    rfl

section Binary

open CppSerializers.Reference CppSerializers.Reference.Thrift

private theorem consumes_checkSize {rd : ByteReader Nat} (h : Consumes 0 rd) :
    Consumes 0 (rd >>= checkSize) := by
  refine h.bind (n := 0) fun size => ?_
  unfold checkSize
  split_ifs
  · exact Consumes.throw _
  · exact Consumes.pure _

private theorem consumes_readBlock {rd : ByteReader Nat} (h : Consumes 0 rd) :
    Consumes 0 (rd >>= readBlock endOfStream) :=
  h.bind (n := 0) fun size => (Consumes.readBlock endOfStream size).mono (Nat.zero_le _)

private theorem consumes_readBinaryField : Consumes 1 readBinaryField := by
  refine (Consumes.readCell endOfStream).bind (n := 0) fun b => ?_
  dsimp only
  split_ifs
  · exact Consumes.pure _
  · exact (Consumes.readBE endOfStream 2).bind (n := 0) fun fid => Consumes.pure _

private theorem consumes_readBinaryList : Consumes 0 readBinaryList := by
  refine ((Consumes.readCell endOfStream).bind fun b => ?_).mono (Nat.zero_le (1 + 0))
  exact (consumes_checkSize (Consumes.readBE endOfStream 4)).bind (n := 0) fun size =>
    Consumes.pure _

private theorem consumes_readBinaryString : Consumes 0 readBinaryString :=
  consumes_readBlock (consumes_checkSize (Consumes.readBE endOfStream 4))

private theorem binarySkipCalls_advances : binarySkipCalls.Advances where
  scalar _ ftype st := by
    have hread : Consumes 0 (readBinaryScalar ftype) := by
      unfold readBinaryScalar
      split_ifs
      · exact consumes_readBinaryString.map _
      · exact ((Consumes.readBlock endOfStream _).map _).mono (Nat.zero_le _)
    exact Consumes.stateBind (fun st => hread.lift st) (fun _ st => Consumes.pure ((), st)) st
  structBegin st := Consumes.pure ((), st)
  structEnd st := Consumes.pure ((), st)
  fieldBegin st := (consumes_readBinaryField.mono (Nat.zero_le 1)).lift st
  mapBegin st := by
    refine Consumes.lift ?_ st
    refine ((Consumes.readCell endOfStream).bind fun key => ?_).mono (Nat.zero_le (1 + 0))
    refine ((Consumes.readCell endOfStream).bind fun value => ?_).mono (Nat.zero_le (1 + 0))
    exact (consumes_checkSize (Consumes.readBE endOfStream 4)).bind (n := 0) fun size =>
      Consumes.pure _
  listBegin st := consumes_readBinaryList.lift st

private theorem binaryProtocol_advances : binaryProtocol.Advances where
  structBegin st := Consumes.pure ((), st)
  fieldBegin st := consumes_readBinaryField.lift st
  fieldEnd st := Consumes.pure ((), st)
  listBegin st := consumes_readBinaryList.lift st
  listEnd st := Consumes.pure ((), st)
  i64 st := ((Consumes.readBE endOfStream 8).map int64OfNat).lift st
  string st := consumes_readBinaryString.lift st
  skip := binarySkipCalls_advances.skip skipDepth true

end Binary

/-- The loop over the binary protocol. -/
theorem read_eq_unbounded_binary :
    (∃! loop : ReadState → StateT Unit ByteReader ReadState,
      readPass Reference.Thrift.binaryProtocol loop = loop) ∧
      ∀ loop, readPass Reference.Thrift.binaryProtocol loop = loop → ∀ target,
        read Reference.Thrift.binaryProtocol target =
          readWith Reference.Thrift.binaryProtocol loop target :=
  read_eq_unbounded binaryProtocol_advances

end CppSerializers.Thrift
