import CppSerializers.Benchmarks.Basic
import CppSerializers.Libraries.CapnProto
import CppSerializers.Libraries.FlatBuffers

/-!
# The benchmarks of Cap'n Proto and FlatBuffers

Both build a message in place and look at it through a view. Their checks compare
sizes only: Cap'n Proto the number of integers, FlatBuffers the numbers of integers
and of strings. The elements are never looked at.

The vector of string offsets of the FlatBuffers benchmark outlives the builders the
offsets belong to, and is cleared before each new one.

## Main definitions

* `capnprotoSerializationTest`, `flatbuffersSerializationTest` — the functions
* `CapnProto.Library.RoundTrips`, `FlatBuffers.Library.RoundTrips` — a view of what is built
  for the payload shows its record

## Main results

* `capnproto_returns_iff`, `flatbuffers_returns_iff` — which calls return
* `capnprotoBuild_coupled` — building in place
* `CapnProto.Library.Lawful.roundTrips`, `FlatBuffers.Library.Lawful.roundTrips` — what the
  behaviour of the operations means for the payload
-/

namespace CppSerializers

open Foundation

/-! ## Cap'n Proto -/

section CapnProto

open CapnProto

variable (library : CapnProto.Library) (env : Env) (v : Versions)

/-- The statements that build `r1`. -/
def capnprotoBuild (p : Payload) : Except Exception library.Builder := do
  let (ids, r1) ← initIds library (initRoot library) (unsignedCast p.kIntegers.length)
  -- `kIntegers[i]`, for indices below the size.
  let r1 ← setAll (fun r1 i x => library.int64List.set r1 ids i x) p.kIntegers.length
    (fun i => p.kIntegers.getD i 0) r1
  let (strings, r1) ← initStrings library r1 (unsignedCast p.kStringsCount)
  setAll (fun r1 i x => library.textList.set r1 strings i x) p.kStringsCount
    (fun _ => p.kStringValue) r1

/-- `capnproto_serialization_test`. -/
def capnprotoSerializationTest : Test where
  State := Message × Nat
  setUp := do
    let r1 ← capnprotoBuild library env.payload
    let serialized := library.getSegmentsForOutput r1
    let r2 ← library.getRoot serialized
    -- The strings are not looked at.
    if (getIds r2).length ≠ env.payload.kIntegers.length then
      throw (.logicError (lit "capnproto's case: deserialization failed"))
    else
      let size := serialized.foldl (fun size segment => size + segment.length) 0
      return ((serialized, size), ⟨serialized, serialized.flatten, [], viewedRecord r2⟩)
  iteration := fun _ (_, size) => do
    let r1 ← capnprotoBuild library env.payload
    let serialized := library.getSegmentsForOutput r1
    let r2 ← library.getRoot serialized
    return ((serialized, size), ⟨serialized, serialized.flatten, [], viewedRecord r2⟩)
  result := fun (_, size) =>
    Result.ofNumber (lit "capnproto") v.capnpVersion size env.clock.duration

/-- The segments of the payload's message, if it can be built. -/
def CapnProto.payloadMessage (p : Payload) : Message :=
  match capnprotoBuild library p with
  | .ok r1 => library.getSegmentsForOutput r1
  | .error _ => []

/-- A round trip of the payload: its message is written, and the view into its segments shows
the decoded record. -/
structure CapnProto.Library.Observes (library : CapnProto.Library) (p : Payload)
    (rt : RoundTrip) : Prop where
  built : ∃ r1, capnprotoBuild library p = .ok r1 ∧ rt.message = library.getSegmentsForOutput r1
  input_eq : rt.input = rt.message.flatten
  views : ∃ view, library.getRoot rt.message = .ok view ∧ rt.decoded = viewedRecord view
  unread_eq : rt.unread = []

/-- The view into the message of the payload shows its record. -/
def CapnProto.Library.RoundTrips (library : CapnProto.Library) (p : Payload) : Prop :=
  ∀ r1, capnprotoBuild library p = .ok r1 →
    ∃ view, library.getRoot (library.getSegmentsForOutput r1) = .ok view ∧
      viewedRecord view = p.record

variable {library env v}

private theorem foldl_size (serialized : Message) (size : Nat) :
    serialized.foldl (fun size segment => size + segment.length) size =
      size + Message.size serialized := by
  induction serialized generalizing size with
  | nil => simp [Message.size]
  | cons segment serialized ih =>
    rw [List.foldl_cons, ih]
    simp [Message.size, Nat.add_assoc]

theorem CapnProto.payloadMessage_eq {p : Payload} {r1 : library.Builder}
    (hbuild : capnprotoBuild library p = .ok r1) :
    payloadMessage library p = library.getSegmentsForOutput r1 := by
  rw [payloadMessage, hbuild]

theorem CapnProto.Library.Observes.message_eq {p : Payload} {rt : RoundTrip}
    (h : library.Observes p rt) : rt.message = payloadMessage library p := by
  obtain ⟨r1, hbuild, hmessage⟩ := h.built
  rw [hmessage, payloadMessage_eq hbuild]

theorem capnproto_invariant :
    (capnprotoSerializationTest library env v).Invariant
      (fun state => state.2 = Message.size (payloadMessage library env.payload))
      (library.Observes env.payload) where
  setUp state check h := by
    obtain ⟨r1, hbuild, h⟩ := bind_eq_ok.mp h
    obtain ⟨view, hview, h⟩ := bind_eq_ok.mp h
    obtain ⟨_, h⟩ := guard_eq_ok.mp h
    cases h
    refine ⟨?_, ⟨r1, hbuild, rfl⟩, rfl, ⟨view, hview, rfl⟩, rfl⟩
    rw [payloadMessage_eq hbuild]
    exact (foldl_size _ 0).trans (Nat.zero_add _)
  iteration i state next rt hinv h := by
    obtain ⟨r1, hbuild, h⟩ := bind_eq_ok.mp h
    obtain ⟨view, hview, h⟩ := bind_eq_ok.mp h
    cases h
    exact ⟨hinv, ⟨r1, hbuild, rfl⟩, rfl, ⟨view, hview, rfl⟩, rfl⟩

/-- A call returns when the message can be built and its view shows as many integers as
the payload has. -/
theorem capnproto_returns_iff (n : Nat) :
    (∃ run, (capnprotoSerializationTest library env v).run n = .ok run) ↔
      ∃ r1 view, capnprotoBuild library env.payload = .ok r1 ∧
        library.getRoot (library.getSegmentsForOutput r1) = .ok view ∧
          (getIds view).length = env.payload.kIntegers.length := by
  constructor
  · rintro ⟨run, hrun⟩
    obtain ⟨state, _, h, _, _⟩ := Test.run_eq_ok_iff.mp hrun
    obtain ⟨r1, hbuild, h⟩ := bind_eq_ok.mp h
    obtain ⟨view, hview, h⟩ := bind_eq_ok.mp h
    obtain ⟨hsize, _⟩ := guard_eq_ok.mp h
    exact ⟨r1, view, hbuild, hview, not_not.mp hsize⟩
  · rintro ⟨r1, view, hbuild, hview, hsize⟩
    refine capnproto_invariant.returns ?_ ?_ n
    · refine ⟨_, _, bind_eq_ok.mpr ⟨_, hbuild, bind_eq_ok.mpr ⟨view, hview, if_neg ?_⟩⟩⟩
      exact not_not.mpr hsize
    · intro i state _
      exact ⟨_, _, bind_eq_ok.mpr ⟨_, hbuild, bind_eq_ok.mpr ⟨view, hview, rfl⟩⟩⟩

theorem CapnProto.Library.Observes.restores {p : Payload} {rt : RoundTrip}
    (h : library.Observes p rt) (hreads : library.RoundTrips p) : rt.decoded = p.record := by
  obtain ⟨r1, hbuild, hmessage⟩ := h.built
  obtain ⟨view, hview, hdecoded⟩ := h.views
  obtain ⟨shown, hshown, hrecord⟩ := hreads r1 hbuild
  rw [hmessage, hshown] at hview
  cases hview
  rw [hdecoded, hrecord]

/-! ### Building in place -/

variable (library) in
/-- The root of the payload's message, if both lists are completed before they are put into it. -/
def CapnProto.completedRoot (p : Payload) : Except Exception Struct := do
  let ids ← newList library.int64List.maxElements 0 (unsignedCast p.kIntegers.length) >>=
    setAll setElement p.kIntegers.length fun i => p.kIntegers.getD i 0
  let strings ← newList library.textList.maxElements [] (unsignedCast p.kStringsCount) >>=
    setAll (setText library.maxTextSize) p.kStringsCount fun _ => p.kStringValue
  return ⟨[.ints ids, .strings strings]⟩

/-- The root of the message of a record. -/
def CapnProto.recordStruct (r : Record) : Struct := ⟨[.ints r.ids, .strings r.strings]⟩

/-- The payload is within the limits of a Cap'n Proto message. -/
structure CapnProto.Library.Fits (library : CapnProto.Library) (p : Payload) : Prop where
  integers_le : p.kIntegers.length ≤ library.int64List.maxElements
  strings_le : p.kStringsCount ≤ library.textList.maxElements
  string_le : p.kStringsCount = 0 ∨ p.kStringValue.length ≤ library.maxTextSize

/-- **Setting the lists in place** shows in the root as lists that were completed before, and
throws when that does. -/
theorem capnprotoBuild_coupled (h : library.Lawful) (p : Payload) :
    Coupled (fun r1 root => library.asReader r1 = root) (capnprotoBuild library p)
      (completedRoot library p) := by
  obtain ⟨_, hints⟩ := h.int64List
  obtain ⟨_, htexts⟩ := h.textList
  have hroot : library.asReader (initRoot library) = ⟨[.null, .null]⟩ := h.initRoot 2
  have hids := hints.init_setAll (initRoot library) (n := 0) (by rw [hroot]; exact Nat.zero_lt_two)
    (unsignedCast p.kIntegers.length) p.kIntegers.length fun i => p.kIntegers.getD i 0
  have hbuild : capnprotoBuild library p =
      (initIds library (initRoot library) (unsignedCast p.kIntegers.length) >>= fun out =>
        setAll (fun r1 i x => library.int64List.set r1 out.1 i x) p.kIntegers.length
          (fun i => p.kIntegers.getD i 0) out.2) >>= fun r1 =>
      initStrings library r1 (unsignedCast p.kStringsCount) >>= fun out =>
        setAll (fun r1 i x => library.textList.set r1 out.1 i x) p.kStringsCount
          (fun _ => p.kStringValue) out.2 := by
    simp only [capnprotoBuild, bind_assoc]
  rw [hbuild, completedRoot]
  refine hids.bind fun r1 ids hr1 => ?_
  have hroot1 : library.asReader r1 = ⟨[.ints ids, .null]⟩ := by
    rw [hr1, hroot]
    rfl
  have hstrings := htexts.init_setAll r1 (n := 1) (by rw [hroot1]; exact Nat.one_lt_two)
    (unsignedCast p.kStringsCount) p.kStringsCount fun _ => p.kStringValue
  rw [← bind_pure (initStrings library r1 _ >>= _)]
  refine hstrings.bind fun r1' strings hr1' => Coupled.pure ?_
  rw [hr1', hroot1]
  rfl

private theorem setAll_setText_eq_ok_iff {maxTextSize n : Nat} {s : StdString}
    {list out : List StdString} :
    setAll (setText maxTextSize) n (fun _ => s) list = .ok out ↔
      (n = 0 ∨ s.length ≤ maxTextSize) ∧ setAll setElement n (fun _ => s) list = .ok out := by
  by_cases hs : maxTextSize < s.length
  · -- The first text already is refused, if there is one.
    cases n with
    | zero => simp [setAll]
    | succ n =>
      have hthrow : setAll (setText maxTextSize) (n + 1) (fun _ => s) list =
          .error requireFailed := by
        rw [setAll, List.range_succ_eq_map, List.foldlM_cons, setText, if_pos hs]
        rfl
      rw [hthrow]
      constructor
      · intro h
        cases h
      · rintro ⟨hlength, _⟩
        omega
  · have hset : setAll (setText maxTextSize) n (fun _ => s) list =
        setAll setElement n (fun _ => s) list := by
      simp only [setAll, setText, if_neg hs]
    rw [hset]
    exact (and_iff_right (Or.inr (Nat.le_of_not_lt hs))).symm

private theorem completedIds_eq_ok_iff (h : library.Lawful) {p : Payload} {out : List Int64} :
    (newList library.int64List.maxElements 0 (unsignedCast p.kIntegers.length) >>=
        setAll setElement p.kIntegers.length fun i => p.kIntegers.getD i 0) = .ok out ↔
      p.kIntegers.length ≤ library.int64List.maxElements ∧ out = p.kIntegers := by
  obtain ⟨_, hints⟩ := h.int64List
  have hids : (List.range p.kIntegers.length).map (fun i => p.kIntegers.getD i 0) =
      p.kIntegers := by
    apply List.ext_getElem
    · simp
    · intro i hi hi'
      simp [List.getD, hi']
  rw [newList_setAll_eq_ok_iff hints.maxElements_lt, hids]

private theorem completedStrings_eq_ok_iff (h : library.Lawful) {p : Payload}
    {out : List StdString} :
    (newList library.textList.maxElements [] (unsignedCast p.kStringsCount) >>=
        setAll (setText library.maxTextSize) p.kStringsCount fun _ => p.kStringValue) = .ok out ↔
      (p.kStringsCount = 0 ∨ p.kStringValue.length ≤ library.maxTextSize) ∧
        p.kStringsCount ≤ library.textList.maxElements ∧ out = p.record.strings := by
  obtain ⟨_, htexts⟩ := h.textList
  have hrecord : (List.range p.kStringsCount).map (fun _ => p.kStringValue) =
      p.record.strings := by
    simp [Payload.record, List.map_const']
  rw [← hrecord, ← newList_setAll_eq_ok_iff htexts.maxElements_lt, bind_eq_ok, bind_eq_ok]
  simp only [setAll_setText_eq_ok_iff]
  constructor
  · rintro ⟨list, hlist, hlength, hset⟩
    exact ⟨hlength, list, hlist, hset⟩
  · rintro ⟨hlength, list, hlist, hset⟩
    exact ⟨list, hlist, hlength, hset⟩

/-- Completing the lists succeeds exactly within the limits, and then makes the payload's
record. -/
theorem completedRoot_eq_ok_iff (h : library.Lawful) {p : Payload} {root : Struct} :
    completedRoot library p = .ok root ↔ library.Fits p ∧ root = recordStruct p.record := by
  rw [completedRoot, bind_eq_ok]
  constructor
  · rintro ⟨ids, hids, hrest⟩
    obtain ⟨strings, hstrings, hroot⟩ := bind_eq_ok.mp hrest
    obtain ⟨hintegers, rfl⟩ := (completedIds_eq_ok_iff h).mp hids
    obtain ⟨hlength, hcount, rfl⟩ := (completedStrings_eq_ok_iff h).mp hstrings
    cases hroot
    exact ⟨⟨hintegers, hcount, hlength⟩, rfl⟩
  · rintro ⟨hfits, rfl⟩
    have hids := (completedIds_eq_ok_iff h).mpr ⟨hfits.integers_le, rfl⟩
    have hstrings := (completedStrings_eq_ok_iff h).mpr ⟨hfits.string_le, hfits.strings_le, rfl⟩
    exact ⟨p.kIntegers, hids, bind_eq_ok.mpr ⟨p.record.strings, hstrings, rfl⟩⟩

/-- The message of the payload can be built exactly within the limits. -/
theorem capnprotoBuild_returns_iff (h : library.Lawful) {p : Payload} :
    (∃ r1, capnprotoBuild library p = .ok r1) ↔ library.Fits p := by
  constructor
  · rintro ⟨r1, hbuild⟩
    obtain ⟨root, hroot, -⟩ := (capnprotoBuild_coupled h p).exists_ok hbuild
    exact ((completedRoot_eq_ok_iff h).mp hroot).1
  · intro hfits
    have hroot := (completedRoot_eq_ok_iff h).mpr ⟨hfits, rfl⟩
    obtain ⟨r1, hbuild, -⟩ := (capnprotoBuild_coupled h p).symm.exists_ok hroot
    exact ⟨r1, hbuild⟩

/-- A library that behaves as documented, and reads the payload's message back, carries its
record. -/
theorem CapnProto.Library.Lawful.roundTrips (h : library.Lawful) {p : Payload}
    (hreads : ∀ r1, capnprotoBuild library p = .ok r1 → library.ReadsBack r1) :
    library.RoundTrips p := by
  intro r1 hbuild
  obtain ⟨root, hroot, hr1⟩ := (capnprotoBuild_coupled h p).exists_ok hbuild
  obtain ⟨-, rfl⟩ := (completedRoot_eq_ok_iff h).mp hroot
  obtain ⟨view, hview, hints, hstrings⟩ := hreads r1 hbuild
  rw [hr1] at hints hstrings
  exact ⟨view, hview,
    congrArg₂ Record.mk (hints 0 p.record.ids rfl) (hstrings 1 p.record.strings rfl)⟩

end CapnProto

/-! ## FlatBuffers -/

section FlatBuffers

open FlatBuffers

variable (library : FlatBuffers.Library) (env : Env) (v : Versions)

/-- The loop that creates the strings, pushing their offsets to `strings`. -/
def flatbuffersStrings (p : Payload) (strings : List Offset)
    (builder : library.FlatBufferBuilder) : List Offset × library.FlatBufferBuilder :=
  (List.range p.kStringsCount).foldl
    (fun state _ =>
      let created := library.createString state.2 p.kStringValue
      (state.1 ++ [created.1], created.2))
    (strings, builder)

/-- The statements that build `r1` in a new builder, from the content of `strings`. -/
def flatbuffersBuild (p : Payload) (strings : List Offset) :
    List Offset × Offset × library.FlatBufferBuilder :=
  let (strings, builder) := flatbuffersStrings library p strings library.new
  let (idsVec, builder) := library.createVector builder p.kIntegers
  let (stringsVec, builder) := library.createVectorOfOffsets builder strings
  (strings, createRecord library builder idsVec stringsVec)

/-- `FLATBUFFERS_STRING(MAJOR) "." FLATBUFFERS_STRING(MINOR) "." FLATBUFFERS_STRING(REVISION)`. -/
def flatbuffersVersion : StdString :=
  v.flatbuffersVersionMajor ++ lit "." ++ v.flatbuffersVersionMinor ++ lit "." ++
    v.flatbuffersVersionRevision

/-- `flatbuffers_serialization_test`. -/
def flatbuffersSerializationTest : Test where
  State := List Offset × Nat
  setUp := do
    let (strings, r1, builder) := flatbuffersBuild library env.payload []
    let builder := library.finish builder r1
    let buf := library.buffer builder
    let r2 ← library.getRoot buf
    if (FlatBuffers.strings r2).length ≠ env.payload.kStringsCount ∨
        (ids r2).length ≠ env.payload.kIntegers.length then
      throw (.logicError (lit "flatbuffer's case: deserialization failed"))
    else
      let size := buf.length
      return ((strings, size), ⟨[buf], buf, [], viewedRecord r2⟩)
  iteration := fun _ (strings, size) => do
    -- The offsets belong to the builder of the iteration before.
    let strings := clear strings
    let (strings, r1, builder) := flatbuffersBuild library env.payload strings
    let builder := library.finish builder r1
    let buf := library.buffer builder
    let r2 ← library.getRoot buf
    return ((strings, size), ⟨[buf], buf, [], viewedRecord r2⟩)
  result := fun (_, size) =>
    Result.mk (lit "flatbuffers") (flatbuffersVersion v) size env.clock.duration

/-- The payload's record, in the builder it was made in. -/
def FlatBuffers.payloadRecord (p : Payload) : Offset × library.FlatBufferBuilder :=
  (flatbuffersBuild library p []).2

/-- The finished builder of the payload. -/
def FlatBuffers.payloadBuilder (p : Payload) : library.FlatBufferBuilder :=
  library.finish (payloadRecord library p).2 (payloadRecord library p).1

/-- A round trip of the payload: its finished buffer is written, and the view into it shows
the decoded record. -/
structure FlatBuffers.Library.Observes (library : FlatBuffers.Library) (p : Payload)
    (rt : RoundTrip) : Prop where
  message_eq : rt.message = [library.buffer (payloadBuilder library p)]
  input_eq : rt.input = library.buffer (payloadBuilder library p)
  views : ∃ view, library.getRoot rt.input = .ok view ∧ rt.decoded = viewedRecord view
  unread_eq : rt.unread = []

/-- The view into the buffer of the payload shows its record. -/
def FlatBuffers.Library.RoundTrips (library : FlatBuffers.Library) (p : Payload) : Prop :=
  ∃ view, library.getRoot (library.buffer (payloadBuilder library p)) = .ok view ∧
    viewedRecord view = p.record

variable {library env v}

theorem flatbuffers_invariant :
    (flatbuffersSerializationTest library env v).Invariant
      (fun state => state.2 = (library.buffer (payloadBuilder library env.payload)).length)
      (library.Observes env.payload) where
  setUp state check h := by
    obtain ⟨view, hview, h⟩ := bind_eq_ok.mp h
    obtain ⟨_, h⟩ := guard_eq_ok.mp h
    cases h
    exact ⟨rfl, rfl, rfl, ⟨view, hview, rfl⟩, rfl⟩
  iteration i state next rt hinv h := by
    obtain ⟨view, hview, h⟩ := bind_eq_ok.mp h
    cases h
    exact ⟨hinv, rfl, rfl, ⟨view, hview, rfl⟩, rfl⟩

/-- A call returns when the view into the finished buffer shows vectors of the sizes the
payload's have. -/
theorem flatbuffers_returns_iff (n : Nat) :
    (∃ run, (flatbuffersSerializationTest library env v).run n = .ok run) ↔
      ∃ view, library.getRoot (library.buffer (payloadBuilder library env.payload)) = .ok view ∧
        (FlatBuffers.strings view).length = env.payload.kStringsCount ∧
        (ids view).length = env.payload.kIntegers.length := by
  constructor
  · rintro ⟨run, hrun⟩
    obtain ⟨state, _, h, _, _⟩ := Test.run_eq_ok_iff.mp hrun
    obtain ⟨view, hview, h⟩ := bind_eq_ok.mp h
    obtain ⟨hsize, _⟩ := guard_eq_ok.mp h
    simp only [not_or, not_not] at hsize
    exact ⟨view, hview, hsize⟩
  · rintro ⟨view, hview, hstrings, hids⟩
    refine flatbuffers_invariant.returns ?_ ?_ n
    · refine ⟨_, _, bind_eq_ok.mpr ⟨view, hview, if_neg ?_⟩⟩
      simp only [not_or, not_not]
      exact ⟨hstrings, hids⟩
    · intro i state _
      exact ⟨_, _, bind_eq_ok.mpr ⟨view, hview, rfl⟩⟩

theorem FlatBuffers.Library.Observes.restores {p : Payload} {rt : RoundTrip}
    (h : library.Observes p rt) (hreads : library.RoundTrips p) : rt.decoded = p.record := by
  obtain ⟨view, hview, hdecoded⟩ := h.views
  obtain ⟨shown, hshown, hrecord⟩ := hreads
  rw [h.input_eq, hshown] at hview
  cases hview
  rw [hdecoded, hrecord]

/-! ### The record of the payload -/

section Lawful

variable {table : library.FlatBufferBuilder → Option (Nat × List (Nat × Offset))}
  (h : library.Lawful table)
include h

omit h in
private theorem mapM_concat {f : Offset → Option StdString} {offsets : List Offset}
    {offset : Offset} {ss : List StdString} {s : StdString} (hss : offsets.mapM f = some ss)
    (hs : f offset = some s) : (offsets ++ [offset]).mapM f = some (ss ++ [s]) := by
  rw [List.mapM_append, hss, List.mapM_cons, hs]
  rfl

private theorem flatbuffersStrings_spec (p : Payload) :
    table (flatbuffersStrings library p [] library.new).2 = none ∧
      ((library.buffer (flatbuffersStrings library p [] library.new).2).length < maxBufferSize →
        (flatbuffersStrings library p [] library.new).1.mapM
          (library.stringAt (flatbuffersStrings library p [] library.new).2) =
            some p.record.strings) := by
  rw [flatbuffersStrings, Payload.record]
  induction p.kStringsCount with
  | zero => exact ⟨h.new, fun _ => rfl⟩
  | succ n ih =>
    rw [List.range_succ, List.foldl_append, List.replicate_succ']
    generalize List.foldl _ _ (List.range n) = state at ih ⊢
    obtain ⟨htable, hstrings⟩ := ih
    obtain ⟨hcreates, htable'⟩ := h.createString state.2 p.kStringValue htable
    refine ⟨htable', fun hsize => ?_⟩
    -- The strings that were there before stay.
    have hbefore := hcreates.grows.mapM_stringAt hsize
      (hstrings (Nat.lt_of_le_of_lt hcreates.grows.size_le hsize))
    exact mapM_concat hbefore (Library.stringAt_eq_some.mpr (hcreates.object_eq hsize))

private theorem payloadRecord_spec (p : Payload) :
    table (payloadRecord library p).2 = none ∧
      ((library.buffer (payloadRecord library p).2).length < maxBufferSize →
        library.field (payloadRecord library p).2 (payloadRecord library p).1 vtIds =
            some (.ints p.kIntegers) ∧
          ∃ offsets, library.field (payloadRecord library p).2 (payloadRecord library p).1
              vtStrings = some (.offsets offsets) ∧
            offsets.mapM (library.stringAt (payloadRecord library p).2) =
              some p.record.strings) := by
  obtain ⟨htable, hstrings⟩ := flatbuffersStrings_spec h p
  generalize hcreated : flatbuffersStrings library p [] library.new = created at htable hstrings
  obtain ⟨offsets, builder⟩ := created
  obtain ⟨hids, htable'⟩ := h.createVector builder p.kIntegers htable
  obtain ⟨hoffsets, htable''⟩ := h.createVectorOfOffsets _ offsets htable'
  have hrecord : payloadRecord library p = createRecord library
      (library.createVectorOfOffsets (library.createVector builder p.kIntegers).2 offsets).2
      (library.createVector builder p.kIntegers).1
      (library.createVectorOfOffsets (library.createVector builder p.kIntegers).2 offsets).1 := by
    rw [payloadRecord, flatbuffersBuild, hcreated]
  rw [hrecord]
  generalize library.createVector builder p.kIntegers = idsVec at hids hoffsets htable'' ⊢
  generalize library.createVectorOfOffsets idsVec.2 offsets = stringsVec at hoffsets htable'' ⊢
  obtain ⟨hcreates, hdone⟩ := h.createRecord htable'' idsVec.1 stringsVec.1
  refine ⟨hdone, fun hsize => ?_⟩
  obtain ⟨hfieldIds, hfieldStrings⟩ := h.field_createRecord htable'' (Library.Grows.refl _) hsize
  refine ⟨?_, offsets, ?_, ?_⟩
  · rw [hfieldIds]
    exact hids.object_later (hoffsets.grows.trans hcreates.grows) hsize
  · rw [hfieldStrings]
    exact hoffsets.object_later hcreates.grows hsize
  · have hgrows := hids.grows.trans (hoffsets.grows.trans hcreates.grows)
    exact hgrows.mapM_stringAt hsize (hstrings (Nat.lt_of_le_of_lt hgrows.size_le hsize))

/-- A library that behaves as documented, and reads the payload's buffer back, carries its
record. -/
theorem FlatBuffers.Library.Lawful.roundTrips {p : Payload}
    (hreads : library.ReadsBack (payloadRecord library p).2 (payloadRecord library p).1) :
    library.RoundTrips p := by
  obtain ⟨htable, hfields⟩ := payloadRecord_spec h p
  have hfinish := h.finish _ (payloadRecord library p).1 htable
  obtain ⟨hids, offsets, hoffsets, hmap⟩ :=
    hfields (Nat.lt_of_le_of_lt hfinish.size_le hreads.size_lt)
  obtain ⟨view, hview, hints, hstrings⟩ := hreads.views
  exact ⟨view, hview, congrArg₂ Record.mk (hints vtIds p.kIntegers hids)
    (hstrings vtStrings offsets p.record.strings hoffsets hmap)⟩

end Lawful

end FlatBuffers

end CppSerializers
