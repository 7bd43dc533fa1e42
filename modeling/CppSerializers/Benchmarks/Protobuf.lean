import CppSerializers.Benchmarks.Basic
import CppSerializers.Libraries.Protobuf

/-!
# The benchmark of Protocol Buffers

`protobuf_serialization_test` asks the parser whether it succeeded and does not look
at the record it produced: the comparison is commented out in the source. In the
loop the answer of the parser is ignored altogether.
-/

namespace CppSerializers

open Foundation Protobuf

variable (c : MessageCodec) (env : Env) (v : Versions)

/-- `r1.SerializeToString(&serialized)`: whatever `serialized` held is replaced. -/
def Protobuf.MessageCodec.serializeTo (c : MessageCodec) (r1 : Record) (_serialized : StdString) :
    StdString := c.serializeToString r1

/-- `protobuf_serialization_test`. -/
def protobufSerializationTest : Test :=
  let r1 := env.payload.fill {}
  { State := StdString × Record
    setUp :=
      let serialized := c.serializeTo r1 []
      let parsed := c.parseFromString serialized {}
      if !parsed.1 /- `|| r2 != r1` -/ then
        throw (.logicError (lit "protobuf's case: deserialization failed"))
      else return ((serialized, parsed.2), ⟨[serialized], serialized, [], parsed.2⟩)
    -- What `ParseFromString` returns is ignored.
    iteration := fun _ (serialized, r2) =>
      let serialized := clear serialized
      let serialized := c.serializeTo r1 serialized
      let parsed := c.parseFromString serialized r2
      -- A failed parse counts as having consumed nothing.
      let unread := if parsed.1 then [] else serialized
      return ((serialized, parsed.2), ⟨[serialized], serialized, unread, parsed.2⟩)
    result := fun (serialized, _) =>
      Result.ofNumber (lit "protobuf") v.googleProtobufVersion serialized.length
        env.clock.duration }

/-- A round trip of the record `r`: its serialization is written, and parsed into some
target. -/
structure Protobuf.MessageCodec.Observes (c : MessageCodec) (r : Record) (rt : RoundTrip) :
    Prop where
  message_eq : rt.message = [c.serializeToString r]
  input_eq : rt.input = c.serializeToString r
  parses : ∃ target ok, c.parseFromString rt.input target = (ok, rt.decoded) ∧
    rt.unread = if ok then [] else rt.input

variable {c} {env} {v}

theorem protobuf_invariant :
    (protobufSerializationTest c env v).Invariant
      (fun state => state.1 = c.serializeToString env.payload.record)
      (c.Observes env.payload.record) where
  setUp state check h := by
    simp only [protobufSerializationTest, MessageCodec.serializeTo, Payload.fill_empty] at h
    obtain ⟨hok, h⟩ := guard_eq_ok.mp h
    cases h
    exact ⟨rfl, rfl, rfl, {}, true, Prod.ext (by simpa using hok) rfl, rfl⟩
  iteration i state next rt _ h := by
    simp only [protobufSerializationTest, MessageCodec.serializeTo, Payload.fill_empty] at h
    cases h
    exact ⟨rfl, rfl, rfl, _, _, rfl, rfl⟩

/-- The check passes exactly when the parser says it succeeded. -/
theorem protobuf_check {state : StdString × Record} {check : RoundTrip} :
    (protobufSerializationTest c env v).setUp = .ok (state, check) ↔
      c.parseFromString (c.serializeToString env.payload.record) {} = (true, check.decoded) ∧
        state = (c.serializeToString env.payload.record, check.decoded) ∧
        check = ⟨[c.serializeToString env.payload.record],
          c.serializeToString env.payload.record, [], check.decoded⟩ := by
  simp only [protobufSerializationTest, MessageCodec.serializeTo, Payload.fill_empty, guard_eq_ok]
  constructor
  · rintro ⟨hok, h⟩
    cases h
    exact ⟨Prod.ext (by simpa using hok) rfl, rfl, rfl⟩
  · rintro ⟨hparse, hstate, hcheck⟩
    rw [hparse, hstate, hcheck]
    exact ⟨by simp, rfl⟩

/-- A call whose first parse succeeds returns: nothing in the loop can throw. -/
theorem protobuf_returns {r2 : Record}
    (hparse : c.parseFromString (c.serializeToString env.payload.record) {} = (true, r2))
    (n : Nat) :
    ∃ run, (protobufSerializationTest c env v).run n = .ok run :=
  protobuf_invariant.returns
    ⟨_, ⟨[c.serializeToString env.payload.record], c.serializeToString env.payload.record, [], r2⟩,
      protobuf_check.mpr ⟨hparse, rfl, rfl⟩⟩
    (fun _ _ _ => ⟨_, _, rfl⟩) n

/-- Once the check has passed, an exact parser restores the record in every round trip. -/
theorem Protobuf.MessageCodec.Observes.restores {r r2 : Record} {rt : RoundTrip}
    (h : c.Observes r rt) (hc : c.Exact r)
    (hparse : c.parseFromString (c.serializeToString r) {} = (true, r2)) :
    rt.decoded = r ∧ rt.unread = [] := by
  obtain ⟨target, ok, hrt, hunread⟩ := h.parses
  rw [h.input_eq, hc {} target (by rw [hparse])] at hrt
  cases hrt
  exact ⟨rfl, hunread⟩

end CppSerializers
