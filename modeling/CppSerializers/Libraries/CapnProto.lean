import CppSerializers.Foundation.Coupling
import CppSerializers.Model.Data

/-!
# Cap'n Proto

A message is a struct whose pointers refer to lists. It is built in place: a list of a
fixed size is allocated, and then set element by element where it is. Nothing is decoded
either; a reader looks at the segments of the message through accessors, which show what
the pointers refer to.

The library is a parameter. What its operations do is stated by the root of the message
under construction, which a builder shows at any time (`asReader`). Which pointers the
fields of a record have is decided by the generated code, separately for writing and for
reading; it is embedded here.

## Main definitions

* `Struct` — the root of a message, as it shows
* `Library` — the operations that are used
* `ListOperations.Lawful`, `Library.Lawful` — their documented behaviour
* `Library.ReadsBack` — a view shows what was built
* `initIds`, `initStrings`, `getIds`, `getStrings` — the generated code

## Main results

* `setAll_eq_ok_iff` — setting the elements of a list one by one
* `ListOperations.Lawful.init_setAll` — setting them in place
-/

namespace CppSerializers.CapnProto

open Foundation

/-- What a pointer of a struct refers to. -/
inductive Pointer where
  | null
  | ints (list : List Int64)
  | strings (list : List StdString)
  deriving DecidableEq, Repr

/-- The root struct of a message: it has no data, only pointers. -/
structure Struct where
  pointers : List Pointer
  deriving DecidableEq, Repr

/-- Another list for one of the pointers. -/
def Struct.setPointer (root : Struct) (n : Nat) (list : Pointer) : Struct :=
  ⟨root.pointers.set n list⟩

/-- The operations on the lists of one type, in a message under construction. -/
structure ListOperations (Builder α : Type) where
  /-- `List<T>::Builder`: a list where it is in its message. -/
  ListBuilder : Type
  /-- The greatest number of elements. -/
  maxElements : Nat
  /-- `PointerHelpers<List<T>>::init`, of a pointer of the root. -/
  init : Builder → Nat → Nat → Except Exception (ListBuilder × Builder)
  /-- `set`. -/
  set : Builder → ListBuilder → Nat → α → Except Exception Builder

/-- Building a message, getting its segments, and a view into segments. -/
structure Library where
  /-- A `MallocMessageBuilder`, with the root it has been given. -/
  Builder : Type
  /-- `getRoot` of a new message, for a struct with so many pointers and no data. -/
  initRoot : Nat → Builder
  int64List : ListOperations Builder Int64
  textList : ListOperations Builder StdString
  /-- The greatest length of a text. -/
  maxTextSize : Nat
  /-- `asReader`: the root as it is so far. -/
  asReader : Builder → Struct
  /-- `MessageBuilder::getSegmentsForOutput`. -/
  getSegmentsForOutput : Builder → Message
  /-- `SegmentArrayMessageReader::getRoot<Record>`. -/
  getRoot : Message → Except Exception View

/-- The view into the segments of `r1` shows the lists its pointers refer to. -/
def Library.ReadsBack (library : Library) (r1 : library.Builder) : Prop :=
  ∃ view, library.getRoot (library.getSegmentsForOutput r1) = .ok view ∧
    (∀ i list, (library.asReader r1).pointers[i]? = some (.ints list) → view.ints i = list) ∧
    (∀ i list, (library.asReader r1).pointers[i]? = some (.strings list) → view.strings i = list)

/-! ## What is documented -/

/-- `KJ_REQUIRE` failed. -/
def requireFailed : Exception := .library (lit "kj::Exception")

/-- A new list of zeros, unless it would have too many elements. -/
def newList {α : Type} (maxElements : Nat) (zero : α) (size : Nat) : Except Exception (List α) :=
  if maxElements < size then throw requireFailed else pure (List.replicate size zero)

/-- `set`, on the elements of a list. An index out of bounds is a failed requirement. -/
def setElement {α : Type} (list : List α) (i : Nat) (value : α) : Except Exception (List α) :=
  if i < list.length then pure (list.set i value) else throw requireFailed

/-- `set`, on the elements of a list of texts, which allocates the text first. -/
def setText (maxTextSize : Nat) (list : List StdString) (i : Nat) (value : StdString) :
    Except Exception (List StdString) :=
  if maxTextSize < value.length then throw requireFailed else setElement list i value

/-- A type of lists. -/
structure ListType (α : Type) where
  /-- The elements of a new list. -/
  zero : α
  set : List α → Nat → α → Except Exception (List α)
  ofList : List α → Pointer

/-- `List<int64_t>`. -/
def listInt64 : ListType Int64 := ⟨0, setElement, .ints⟩

/-- `List<Text>`. -/
def listText (maxTextSize : Nat) : ListType StdString := ⟨[], setText maxTextSize, .strings⟩

/-- A new list is where its pointer refers to, and setting an element sets it there, which
changes nothing else of the root. `Refers` says which pointer refers to a list. -/
structure ListOperations.Lawful {Builder α : Type} (ops : ListOperations Builder α)
    (asReader : Builder → Struct) (T : ListType α)
    (Refers : Builder → ops.ListBuilder → Nat → Prop) : Prop where
  /-- Every admissible size survives the cast to `unsigned int`. -/
  maxElements_lt : ops.maxElements < 2 ^ 32
  init : ∀ r1 n size, n < (asReader r1).pointers.length →
    Coupled (fun out elements => Refers out.2 out.1 n ∧
        asReader out.2 = (asReader r1).setPointer n (T.ofList elements))
      (ops.init r1 n size) (newList ops.maxElements T.zero size)
  set : ∀ r1 list n elements i value, Refers r1 list n →
    (asReader r1).pointers[n]? = some (T.ofList elements) →
    Coupled (fun r1' elements' => Refers r1' list n ∧
        asReader r1' = (asReader r1).setPointer n (T.ofList elements'))
      (ops.set r1 list i value) (T.set elements i value)

/-- The documented behaviour of the library, but for views. -/
structure Library.Lawful (library : Library) : Prop where
  initRoot : ∀ pointers,
    library.asReader (library.initRoot pointers) = ⟨List.replicate pointers .null⟩
  int64List : ∃ Refers, library.int64List.Lawful library.asReader listInt64 Refers
  textList :
    ∃ Refers, library.textList.Lawful library.asReader (listText library.maxTextSize) Refers

/-- The cast of a `size_t` to `unsigned int`. -/
def unsignedCast (size : Nat) : Nat := size % 2 ^ 32

/-! ## The generated code -/

section Generated

variable (library : Library)

/-- `message.getRoot<Record>()` on a new message: a struct with two pointers. -/
def initRoot : library.Builder := library.initRoot 2

/-- `initIds`. -/
def initIds (r1 : library.Builder) (size : Nat) :
    Except Exception (library.int64List.ListBuilder × library.Builder) :=
  library.int64List.init r1 0 size

/-- `initStrings`. -/
def initStrings (r1 : library.Builder) (size : Nat) :
    Except Exception (library.textList.ListBuilder × library.Builder) :=
  library.textList.init r1 1 size

end Generated

/-- `r2.getIds()`. -/
def getIds (r2 : View) : List Int64 := r2.ints 0

/-- `r2.getStrings()`. -/
def getStrings (r2 : View) : List StdString := r2.strings 1

/-- The record a view shows. -/
def viewedRecord (r2 : View) : Record where
  ids := getIds r2
  strings := getStrings r2

/-! ## Setting a list element by element -/

/-- `for (i = 0; i < n; i++) list.set(i, value(i))`. -/
def setAll {σ α : Type} (set : σ → Nat → α → Except Exception σ) (n : Nat) (value : Nat → α)
    (list : σ) : Except Exception σ :=
  (List.range n).foldlM (fun list i => set list i (value i)) list

private theorem set_next {α : Type} {n : Nat} {value : Nat → α} {list : List α}
    (hn : n < list.length) :
    ((List.range n).map value ++ list.drop n).set n (value n) =
      (List.range (n + 1)).map value ++ list.drop (n + 1) := by
  rw [List.set_append_right _ _ (by simp), List.drop_eq_getElem_cons hn, List.range_succ]
  simp only [List.length_map, List.length_range, Nat.sub_self, List.set_cons_zero,
    List.map_append, List.map_cons, List.map_nil, List.append_assoc, List.singleton_append]

/-- The loop finishes when the list is long enough, and has then replaced the first `n`
elements. -/
theorem setAll_eq_ok_iff {α : Type} {n : Nat} {value : Nat → α} {list out : List α} :
    setAll setElement n value list = .ok out ↔
      n ≤ list.length ∧ out = (List.range n).map value ++ list.drop n := by
  -- The last pass sets the element behind those that are set already.
  induction n generalizing out with
  | zero => simp [setAll, pure, Except.pure, eq_comm]
  | succ n ih =>
    have hsucc : setAll setElement (n + 1) value list =
        setAll setElement n value list >>= fun filled => setElement filled n (value n) := by
      simp [setAll, List.range_succ]
    rw [hsucc]
    constructor
    · intro h
      obtain ⟨filled, hfilled, hset⟩ : ∃ filled, setAll setElement n value list = .ok filled ∧
          setElement filled n (value n) = .ok out := by
        cases hfold : setAll setElement n value list with
        | error e => rw [hfold] at h; cases h
        | ok filled => exact ⟨filled, rfl, by rwa [hfold] at h⟩
      obtain ⟨hn, rfl⟩ := ih.mp hfilled
      rw [setElement] at hset
      split at hset
      · next hlt =>
        simp only [List.length_append, List.length_map, List.length_range, List.length_drop]
          at hlt
        cases hset
        exact ⟨by omega, set_next (by omega)⟩
      · cases hset
    · rintro ⟨hn, rfl⟩
      rw [ih.mpr ⟨Nat.le_of_succ_le hn, rfl⟩]
      show setElement _ n (value n) = _
      rw [setElement, if_pos (by simp; omega), set_next hn]
      rfl

/-- A list of the payload survives initialising and setting only if its size is within
the limit of the library; then every element has been set. -/
theorem newList_setAll_eq_ok_iff {α : Type} {maxElements n : Nat} (hmax : maxElements < 2 ^ 32)
    {zero : α} {value : Nat → α} {out : List α} :
    newList maxElements zero (unsignedCast n) >>= setAll setElement n value = .ok out ↔
      n ≤ maxElements ∧ out = (List.range n).map value := by
  have hcast : unsignedCast n ≤ n := Nat.mod_le n _
  rw [newList]
  -- A size beyond 32 bits may pass this check, but then the loop leaves the list.
  split
  · next hlt =>
    constructor
    · intro h
      cases h
    · rintro ⟨hn, -⟩
      exact absurd hn (by omega)
  · next hle =>
    show setAll setElement n value (List.replicate (unsignedCast n) zero) = _ ↔ _
    rw [setAll_eq_ok_iff, List.length_replicate]
    constructor
    · rintro ⟨hn, rfl⟩
      have heq : unsignedCast n = n := Nat.le_antisymm hcast hn
      exact ⟨by omega, by simp [heq]⟩
    · rintro ⟨hn, rfl⟩
      have heq : unsignedCast n = n := Nat.mod_eq_of_lt (Nat.lt_of_le_of_lt hn hmax)
      exact ⟨by omega, by simp [heq]⟩

private theorem Struct.setPointer_setPointer (root : Struct) (n : Nat) (list list' : Pointer) :
    (root.setPointer n list).setPointer n list' = root.setPointer n list' := by
  simp [setPointer]

private theorem Struct.getElem?_setPointer {root : Struct} {n : Nat} (hn : n < root.pointers.length)
    (list : Pointer) : (root.setPointer n list).pointers[n]? = some list :=
  List.getElem?_set_self hn

/-- **A list in place.** Allocating a list and setting it where it is shows in the root as a list
that was completed before its pointer was set, and throws when that does. -/
theorem ListOperations.Lawful.init_setAll {Builder α : Type} {ops : ListOperations Builder α}
    {asReader : Builder → Struct} {T : ListType α} {Refers : Builder → ops.ListBuilder → Nat → Prop}
    (h : ops.Lawful asReader T Refers) (r1 : Builder) {n : Nat}
    (hn : n < (asReader r1).pointers.length) (size m : Nat) (value : Nat → α) :
    Coupled (fun r1' elements => asReader r1' = (asReader r1).setPointer n (T.ofList elements))
      (ops.init r1 n size >>= fun out =>
        setAll (fun r1 i x => ops.set r1 out.1 i x) m value out.2)
      (newList ops.maxElements T.zero size >>= setAll T.set m value) := by
  refine (h.init r1 n size hn).bind ?_
  rintro ⟨list, r1'⟩ elements ⟨hrefers, hroot⟩
  -- Through all passes the pointer refers to the list that is being set.
  refine Coupled.mono (Coupled.foldlM (fun r1' elements => Refers r1' list n ∧
    asReader r1' = (asReader r1).setPointer n (T.ofList elements)) ?_ ⟨hrefers, hroot⟩)
    fun _ _ hdone => hdone.2
  rintro r1' elements i ⟨hrefers, hroot⟩
  have hset := h.set r1' list n elements i (value i) hrefers
    (by rw [hroot, Struct.getElem?_setPointer hn])
  refine hset.mono fun next elements' hnext => ⟨hnext.1, ?_⟩
  rw [hnext.2, hroot, Struct.setPointer_setPointer]

end CppSerializers.CapnProto
