import CppSerializers.Foundation.Streaming
import CppSerializers.Libraries.Archives
import CppSerializers.Libraries.Thrift

/-!
# Record decoders that read sequentially

Five of the libraries read a record from a stream, call by call. If none of their calls
looks past what it takes, then neither do the `serialize` templates and the generated
code that make a record of the calls, on any input, well formed or not.

For Thrift the generated code has a loop, and the bound on its passes depends on the
length of the input; that a longer input gives a greater bound is no difference, since
only a failure could show it.

## Main definitions

* `Vectors.Sequential`, `Archive.Sequential`, `Thrift.TProtocol.Sequential` — no call looks
  past what it takes

## Main results

* `Archive.decode_streaming`, `Msgpack.decode_streaming`, `Avro.decode_streaming`,
  `Thrift.read_streaming` — nor does the decoder of a record
-/

namespace CppSerializers

open Foundation

/-! ## Archives -/

/-- Loading a vector takes the vector. -/
structure Vectors.Sequential (V : Vectors) : Prop where
  ints : ∀ target, Streaming (V.loadInts target)
  strings : ∀ target, Streaming (V.loadStrings target)

/-- So does reading what surrounds it. -/
structure Archive.Sequential (A : Archive) : Prop extends Vectors.Sequential A.toVectors where
  preamble : Streaming A.readPreamble

private theorem Vectors.Sequential.both {V : Vectors} (h : V.Sequential) (target : Record) :
    Streaming (do
      let ids ← V.loadInts target.ids
      let strings ← V.loadStrings target.strings
      return ({ ids := ids, strings := strings } : Record)) :=
  (h.ints target.ids).bind fun _ => (h.strings target.strings).bind fun _ => Extends.pure _

theorem Archive.decode_streaming {A : Archive} (h : A.Sequential) (target : Record) :
    Streaming (A.codec.decode target) := h.preamble.bind fun _ => h.toSequential.both target

/-- Converting an object reads nothing. -/
theorem Msgpack.decode_streaming {P : Packer} (h : Streaming P.unpack) (target : Record) :
    Streaming (P.codec.decode target) := h.bind fun _ => Extends.ofExcept _

theorem Avro.decode_streaming {V : Vectors} (h : V.Sequential) (target : Record) :
    Streaming ((codec V).decode target) := h.both target

/-! ## Thrift -/

namespace Thrift

variable {P : TProtocol}

/-- In no state does a reading call look past what it takes. -/
structure TProtocol.Sequential (P : TProtocol) : Prop where
  structBegin : ∀ st, Streaming (P.readStructBegin.run st)
  structEnd : ∀ st, Streaming (P.readStructEnd.run st)
  fieldBegin : ∀ st, Streaming (P.readFieldBegin.run st)
  fieldEnd : ∀ st, Streaming (P.readFieldEnd.run st)
  listBegin : ∀ st, Streaming (P.readListBegin.run st)
  listEnd : ∀ st, Streaming (P.readListEnd.run st)
  i64 : ∀ st, Streaming (P.readI64.run st)
  string : ∀ st, Streaming (P.readString.run st)
  skip : ∀ ftype st, Streaming ((P.skip ftype).run st)

namespace TProtocol.Sequential

variable (h : P.Sequential)
include h

private theorem listBody {α : Type} {get : StateT P.State ByteReader α}
    (hget : ∀ st, Streaming (get.run st)) (st : P.State) :
    Streaming ((readListBody P get).run st) := by
  refine Extends.stateBind h.listBegin (fun list => ?_) st
  refine Extends.stateBind (Extends.stateRepeatM hget list.2) fun xs => ?_
  exact Extends.stateBind h.listEnd fun _ st => Extends.pure (xs, st)

private theorem field (ftype : TType) (fid : Nat) (out : ReadState) (st : P.State) :
    Streaming ((readField P ftype fid out).run st) := by
  have hskip : Streaming ((P.skip ftype >>= fun _ => pure out).run st) :=
    Extends.stateBind (h.skip ftype) (fun _ st => Extends.pure (out, st)) st
  match fid with
  | 1 =>
    by_cases hlist : ftype = .list
    · simp only [readField, if_pos hlist]
      exact Extends.stateBind (h.listBody h.i64) (fun _ st => Extends.pure _) st
    · simpa only [readField, if_neg hlist] using hskip
  | 2 =>
    by_cases hlist : ftype = .list
    · simp only [readField, if_pos hlist]
      exact Extends.stateBind (h.listBody h.string) (fun _ st => Extends.pure _) st
    · simpa only [readField, if_neg hlist] using hskip
  | 0 => exact hskip
  | _ + 3 => exact hskip

private theorem fields {n m : Nat} (hle : n ≤ m) (out : ReadState) (st : P.State) :
    Extends ((readFields P n out).run st) ((readFields P m out).run st) := by
  induction n generalizing m out st with
  | zero => exact Extends.throw _
  | succ n ih =>
    obtain ⟨m, rfl⟩ : ∃ k, m = k + 1 := ⟨m - 1, by omega⟩
    refine Extends.stateBind h.fieldBegin (fun field st => ?_) st
    split_ifs
    · exact Extends.pure (out, st)
    · refine Extends.stateBind (h.field field.1 field.2 out) (fun next => ?_) st
      exact Extends.stateBind h.fieldEnd fun _ => ih (Nat.le_of_succ_le_succ hle) next

end TProtocol.Sequential

private theorem readResult_streaming (out : ReadState) (st : P.State) :
    Streaming ((readResult P out).run st) := by
  unfold readResult
  split_ifs
  · exact Extends.throw _
  · exact Extends.throw _
  · exact Extends.pure _

theorem read_streaming (h : P.Sequential) (target : Record) (st : P.State) :
    Streaming ((read P target).run st) := by
  refine Extends.peek fun stream more => ?_
  have hbound : stream.length + 3 ≤ (stream ++ more).length + 3 := by
    rw [List.length_append]
    omega
  refine Extends.stateBind h.structBegin (fun _ => ?_) st
  refine Extends.stateBind (h.fields hbound _) fun out => ?_
  exact Extends.stateBind h.structEnd fun _ => readResult_streaming out

end Thrift

end CppSerializers
