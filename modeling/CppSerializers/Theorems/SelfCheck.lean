import CppSerializers.Reference.Libraries

/-!
# The check before the timed loop

Every function decodes the message it has encoded and throws unless the result is
what it expects, "check if we can deserialize back". The codec is arbitrary here: a
decoder may drop, reorder or corrupt what it likes. Eight of the eleven benchmarks
compare the records and let nothing pass. The other three do not: Protocol Buffers
looks at the answer of the parser only, Cap'n Proto at the number of integers,
FlatBuffers at the two numbers of elements.

## Main definitions

* `Benchmark.CheckSound` — a call that returns has decoded its own message to its own record
* `Benchmark.Undetected` — the decoder goes wrong where the check does not look

## Main results

* `check_sound_iff` — the check is sound exactly when nothing goes undetected, and for all
  codecs exactly when it compares the records
-/

namespace CppSerializers

open Foundation

variable (b : Benchmark) (c : Codecs) (env : Env) (p : Payload) (n : Nat)

namespace Benchmark

/-- The decoder accepted the encoding of the payload's record, and made the same record
of it. -/
structure Verified (rt : RoundTrip) : Prop where
  observed : b.Observed c p rt
  ids_eq : rt.decoded.ids = p.kIntegers
  strings_eq : rt.decoded.strings = List.replicate p.kStringsCount p.kStringValue

/-- Only verified codecs pass the check. -/
def CheckSound : Prop :=
  ∀ run, (b.test c env).run n = .ok run → b.Verified c env.payload run.check

/-- The decoder accepts the encoding of the payload's record and makes another record of it,
which agrees in all that the check compares. -/
def Undetected : Prop :=
  match b with
  | .protobuf => ∃ r2, c.protobuf.parseFromString (c.protobuf.serializeToString p.record) {} =
      (true, r2) ∧ r2 ≠ p.record
  | .capnproto => ∃ r1 view, capnprotoBuild c.capnproto p = .ok r1 ∧
      c.capnproto.getRoot (c.capnproto.getSegmentsForOutput r1) = .ok view ∧
      (CapnProto.getIds view).length = p.kIntegers.length ∧
      CapnProto.viewedRecord view ≠ p.record
  | .flatbuffers => ∃ view,
      c.flatbuffers.getRoot
        (c.flatbuffers.buffer (FlatBuffers.payloadBuilder c.flatbuffers p)) = .ok view ∧
      ((FlatBuffers.strings view).length = p.kStringsCount ∧
        (FlatBuffers.ids view).length = p.kIntegers.length) ∧
      FlatBuffers.viewedRecord view ≠ p.record
  | _ => False

variable {b c env p n} {run : Run}

private theorem Undetected.returns (h : b.Undetected c env.payload) (n : Nat) :
    ∃ run, (b.test c env).run n = .ok run ∧ run.check.decoded ≠ env.payload.record := by
  cases b
  case protobuf =>
    obtain ⟨r2, hparse, hne⟩ := h
    obtain ⟨run, hrun⟩ := protobuf_returns (v := c.versions) hparse n
    obtain ⟨_, _, hsetUp, _, _⟩ := Test.run_eq_ok_iff.mp hrun
    obtain ⟨hchecked, _, _⟩ := protobuf_check.mp hsetUp
    rw [hparse] at hchecked
    cases hchecked
    exact ⟨run, hrun, hne⟩
  case capnproto =>
    obtain ⟨r1, view, hbuild, hview, hlength, hne⟩ := h
    obtain ⟨run, hrun⟩ :=
      (capnproto_returns_iff (v := c.versions) n).mpr ⟨r1, view, hbuild, hview, hlength⟩
    obtain ⟨hobserves, _⟩ := capnproto_invariant.run hrun
    obtain ⟨shown, hshown, hdecoded⟩ := hobserves.views
    rw [hobserves.message_eq, CapnProto.payloadMessage_eq hbuild, hview] at hshown
    cases hshown
    exact ⟨run, hrun, hdecoded ▸ hne⟩
  case flatbuffers =>
    obtain ⟨view, hview, hlengths, hne⟩ := h
    obtain ⟨run, hrun⟩ :=
      (flatbuffers_returns_iff (v := c.versions) n).mpr ⟨view, hview, hlengths⟩
    obtain ⟨hobserves, _⟩ := flatbuffers_invariant.run hrun
    obtain ⟨shown, hshown, hdecoded⟩ := hobserves.views
    -- There is one view into the buffer, and the check has seen it.
    rw [hobserves.input_eq, hview] at hshown
    cases hshown
    exact ⟨run, hrun, hdecoded ▸ hne⟩
  all_goals exact h.elim

private theorem undetected_of_ne (hrun : (b.test c env).run n = .ok run)
    (hne : run.check.decoded ≠ env.payload.record) : b.Undetected c env.payload := by
  cases b
  case protobuf =>
    obtain ⟨_, _, hsetUp, _, _⟩ := Test.run_eq_ok_iff.mp hrun
    obtain ⟨hparse, _, _⟩ := protobuf_check.mp hsetUp
    exact ⟨run.check.decoded, hparse, hne⟩
  case capnproto =>
    obtain ⟨r1, view, hbuild, hview, hlength⟩ := (capnproto_returns_iff n).mp ⟨run, hrun⟩
    obtain ⟨hobserves, _⟩ := capnproto_invariant.run hrun
    obtain ⟨shown, hshown, hdecoded⟩ := hobserves.views
    rw [hobserves.message_eq, CapnProto.payloadMessage_eq hbuild, hview] at hshown
    cases hshown
    exact ⟨r1, view, hbuild, hview, hlength, hdecoded ▸ hne⟩
  case flatbuffers =>
    obtain ⟨view, hview, hlengths⟩ := (flatbuffers_returns_iff n).mp ⟨run, hrun⟩
    obtain ⟨hobserves, _⟩ := flatbuffers_invariant.run hrun
    obtain ⟨shown, hshown, hdecoded⟩ := hobserves.views
    rw [hobserves.input_eq, hview] at hshown
    cases hshown
    exact ⟨view, hview, hlengths, hdecoded ▸ hne⟩
  all_goals exact absurd (check_decoded rfl hrun) hne

/-- The check is sound for a codec exactly when the codec does not go wrong undetected. -/
theorem checkSound_iff_not_undetected : b.CheckSound c env n ↔ ¬b.Undetected c env.payload := by
  constructor
  · -- A run with another record would have to be verified.
    intro hsound hundetected
    obtain ⟨run, hrun, hne⟩ := hundetected.returns n
    have hverified := hsound run hrun
    exact hne (congrArg₂ Record.mk hverified.ids_eq hverified.strings_eq)
  · intro hdetected run hrun
    have hdecoded : run.check.decoded = env.payload.record := by
      by_contra hne
      exact hdetected (undetected_of_ne hrun hne)
    exact ⟨check_observed hrun, by rw [hdecoded]; rfl, by rw [hdecoded]; rfl⟩

private theorem not_undetected (h : b.comparesRecords = true) : ¬b.Undetected c p := by
  cases b
  case protobuf | capnproto | flatbuffers => exact absurd h (by decide)
  all_goals exact id

end Benchmark

/-- Every element is blanked; only the number of elements is left. -/
def View.blank (view : View) : View where
  ints n := (view.ints n).map fun _ => 0
  strings n := (view.strings n).map fun _ => []

/-- Codecs that encode as they should, and lose in decoding what the three checks do not
look at. -/
def forgetfulCodecs : Codecs :=
  { Reference.libraries.codecs with
    protobuf :=
      { serializeToString := Reference.libraries.codecs.protobuf.serializeToString
        parseFromString := fun _ _ => (true, {}) }
    capnproto :=
      { Reference.CapnProto.library with
        getRoot := fun message => View.blank <$> Reference.CapnProto.library.getRoot message }
    flatbuffers :=
      { Reference.FlatBuffers.library with
        getRoot := fun bytes => View.blank <$> Reference.FlatBuffers.library.getRoot bytes } }

private theorem forgetfulCodecs_undetected {b : Benchmark} (h : b.comparesRecords = false) :
    b.Undetected forgetfulCodecs Reference.sample := by
  cases b
  case protobuf => exact ⟨{}, rfl, by decide⟩
  case capnproto =>
    exact ⟨_, _, rfl, rfl, by decide, by decide⟩
  case flatbuffers => exact ⟨_, rfl, ⟨by decide +kernel, by decide +kernel⟩, by decide +kernel⟩
  all_goals exact absurd h (by decide)

/-- **Soundness of the check.** For one codec and one payload the check is sound exactly when
the codec does not go wrong where the check does not look; for all of them exactly when it
compares the records. -/
theorem check_sound_iff (b : Benchmark) :
    (∀ c env n, b.CheckSound c env n ↔ ¬b.Undetected c env.payload) ∧
      ((∀ c env n, b.CheckSound c env n) ↔ b.comparesRecords = true) := by
  refine ⟨fun c env n => Benchmark.checkSound_iff_not_undetected, ?_, ?_⟩
  · intro hsound
    by_contra hcompares
    have hundetected := forgetfulCodecs_undetected (Bool.eq_false_of_not_eq_true hcompares)
    exact Benchmark.checkSound_iff_not_undetected.mp
      (hsound forgetfulCodecs Reference.sampleEnv 0) hundetected
  · intro hcompares c env n
    exact Benchmark.checkSound_iff_not_undetected.mpr (Benchmark.not_undetected hcompares)

/-- All three checks pass decoders that lose every element of the record. -/
theorem checks_pass_forgetful_codecs :
    ¬Benchmark.protobuf.CheckSound forgetfulCodecs Reference.sampleEnv 1 ∧
      ¬Benchmark.capnproto.CheckSound forgetfulCodecs Reference.sampleEnv 1 ∧
      ¬Benchmark.flatbuffers.CheckSound forgetfulCodecs Reference.sampleEnv 1 := by
  have hunsound : ∀ b : Benchmark, b.comparesRecords = false →
      ¬b.CheckSound forgetfulCodecs Reference.sampleEnv 1 := fun b hb hsound =>
    Benchmark.checkSound_iff_not_undetected.mp hsound (forgetfulCodecs_undetected hb)
  exact ⟨hunsound _ rfl, hunsound _ rfl, hunsound _ rfl⟩

end CppSerializers
