import CppSerializers.Foundation.Words
import CppSerializers.Libraries.CapnProto
import Mathlib.Data.List.GetD

/-!
# The format of Cap'n Proto

Lists stay where they are allocated, and the pointers of the root say where that is; this
is how a message is built. Then it is written as one segment. A reader follows offsets
through it, counted in words from the pointer that holds them; objects follow one another
in the order of the pointers.

A `MallocMessageBuilder` begins another segment when the objects no longer fit in the
first, and writes objects in the order in which they were allocated.

## Main results

* `library_lawful` — the operations do what is documented
-/

namespace CppSerializers.Reference.CapnProto

open Foundation CppSerializers.CapnProto

/-! ## Building -/

/-- A message under construction: its lists, and the list that each pointer of its root refers
to. -/
structure Builder where
  lists : List Pointer
  pointers : List (Option Nat)
  lt_length : ∀ list, some list ∈ pointers → list < lists.length

namespace Builder

/-- What a pointer refers to. -/
def target (lists : List Pointer) : Option Nat → Pointer
  | some list => lists.getD list .null
  | none => .null

def asReader (r1 : Builder) : Struct := ⟨r1.pointers.map (target r1.lists)⟩

/-- No pointer refers to anything. -/
def initRoot (pointers : Nat) : Builder where
  lists := []
  pointers := List.replicate pointers none
  lt_length list hlist := absurd (List.eq_of_mem_replicate hlist) (Option.some_ne_none list)

/-- A new list behind the others. -/
def allocate (r1 : Builder) (n : Nat) (list : Pointer) : Builder where
  lists := r1.lists ++ [list]
  pointers := r1.pointers.set n (some r1.lists.length)
  lt_length other hother := by
    rw [List.length_append, List.length_singleton]
    rcases List.mem_or_eq_of_mem_set hother with hmem | heq
    · exact Nat.lt_succ_of_lt (r1.lt_length other hmem)
    · rw [Option.some.inj heq]
      exact Nat.lt_succ_self _

/-- Another content for a list. -/
def setList (r1 : Builder) (list : Nat) (content : Pointer) : Builder where
  lists := r1.lists.set list content
  pointers := r1.pointers
  lt_length other hother := by
    rw [List.length_set]
    exact r1.lt_length other hother

/-- The pointer `n` refers to the list, and no other does. -/
def Refers (r1 : Builder) (list n : Nat) : Prop :=
  ∀ m, r1.pointers[m]? = some (some list) ↔ m = n

end Builder

/-- The operations on lists of a type. -/
def listOperations {α : Type} (T : ListType α) (maxElements : Nat)
    (toList? : Pointer → Option (List α)) : ListOperations Builder α where
  ListBuilder := Nat
  maxElements := maxElements
  init r1 n size := do
    let elements ← newList maxElements T.zero size
    return (r1.lists.length, r1.allocate n (T.ofList elements))
  set r1 list i value :=
    match (r1.lists[list]?).bind toList? with
    | some elements => do
      let elements ← T.set elements i value
      return r1.setList list (T.ofList elements)
    | none => throw requireFailed

private theorem refers_allocate (r1 : Builder) {n : Nat} (hn : n < r1.pointers.length)
    (content : Pointer) : (r1.allocate n content).Refers r1.lists.length n := by
  intro m
  show (r1.pointers.set n (some r1.lists.length))[m]? = _ ↔ _
  rw [List.getElem?_set]
  split
  · next heq =>
    subst heq
    simp
  · next hne =>
    refine ⟨fun hold => ?_, fun heq => absurd heq.symm hne⟩
    exact absurd (r1.lt_length _ (List.mem_of_getElem? hold)) (Nat.lt_irrefl _)

private theorem asReader_allocate (r1 : Builder) (n : Nat) (content : Pointer) :
    (r1.allocate n content).asReader = r1.asReader.setPointer n content := by
  have hold : ∀ pointer ∈ r1.pointers,
      Builder.target (r1.lists ++ [content]) pointer = Builder.target r1.lists pointer := by
    intro pointer hpointer
    cases pointer with
    | none => rfl
    | some list => exact List.getD_append _ _ _ _ (r1.lt_length list hpointer)
  have hnew : Builder.target (r1.lists ++ [content]) (some r1.lists.length) = content := by
    simp [Builder.target]
  simp only [Builder.asReader, Builder.allocate, Struct.setPointer, List.map_set, hnew,
    List.map_congr_left hold]

private theorem asReader_setList {r1 : Builder} {list n : Nat} (h : r1.Refers list n)
    (content : Pointer) :
    (r1.setList list content).asReader = r1.asReader.setPointer n content := by
  have hpointer := (h n).mpr rfl
  have hlist := r1.lt_length list (List.mem_of_getElem? hpointer)
  refine congrArg Struct.mk (List.ext_getElem? fun m => ?_)
  show (r1.pointers.map (Builder.target (r1.lists.set list content)))[m]? =
    ((r1.pointers.map (Builder.target r1.lists)).set n content)[m]?
  rw [List.getElem?_map, List.getElem?_set, List.getElem?_map]
  split
  · next heq =>
    subst heq
    have hlt := (List.getElem?_eq_some_iff.mp hpointer).1
    rw [hpointer, List.length_map, if_pos hlt]
    simp [Builder.target, hlist]
  · next hne =>
    -- Any other pointer refers to another list.
    cases hother : r1.pointers[m]? with
    | none => rfl
    | some pointer =>
      cases pointer with
      | none => rfl
      | some other =>
        have hneq : list ≠ other := by
          rintro rfl
          exact hne ((h m).mp hother).symm
        simp [Builder.target, List.getElem?_set_ne hneq]

private theorem getElem?_of_refers {r1 : Builder} {list n : Nat} (h : r1.Refers list n)
    {content : Pointer} (hcontent : r1.asReader.pointers[n]? = some content) :
    r1.lists[list]? = some content := by
  have hpointer := (h n).mpr rfl
  have hlist := r1.lt_length list (List.mem_of_getElem? hpointer)
  have hmap : (r1.pointers.map (Builder.target r1.lists))[n]? =
      some (r1.lists.getD list .null) := by
    rw [List.getElem?_map, hpointer]
    rfl
  have htarget := Option.some.inj (hmap.symm.trans hcontent)
  rw [List.getElem?_eq_getElem hlist, ← htarget, List.getD_eq_getElem _ _ hlist]

private theorem listOperations_lawful {α : Type} {T : ListType α} {maxElements : Nat}
    {toList? : Pointer → Option (List α)} (hmax : maxElements < 2 ^ 32)
    (htoList : ∀ elements, toList? (T.ofList elements) = some elements) :
    (listOperations T maxElements toList?).Lawful Builder.asReader T Builder.Refers where
  maxElements_lt := hmax
  init r1 n size hn := by
    rw [← bind_pure (newList (listOperations T maxElements toList?).maxElements T.zero size)]
    refine (Coupled.refl (newList maxElements T.zero size)).bind ?_
    rintro elements _ rfl
    have hlength : n < r1.pointers.length := by
      have hmap : (r1.pointers.map (Builder.target r1.lists)).length = r1.pointers.length :=
        List.length_map _
      exact hmap ▸ hn
    exact Coupled.pure ⟨refers_allocate r1 hlength _, asReader_allocate r1 n _⟩
  set r1 list n elements i value hrefers helements := by
    have hset : (listOperations T maxElements toList?).set r1 list i value =
        T.set elements i value >>= fun elements => pure (r1.setList list (T.ofList elements)) := by
      simp only [listOperations, getElem?_of_refers hrefers helements, Option.bind_some, htoList]
    rw [hset, ← bind_pure (T.set elements i value), bind_assoc]
    refine (Coupled.refl (T.set elements i value)).bind ?_
    rintro elements' _ rfl
    rw [pure_bind]
    exact Coupled.pure ⟨hrefers, asReader_setList hrefers _⟩

/-! ## The segment -/

/-- The word `i` of a segment. -/
def wordAt (segment : StdString) (i : Nat) : Nat := numberAt segment 8 (8 * i)

/-- Element sizes of lists. -/
def byteElements : Nat := 2
def wordElements : Nat := 5
def pointerElements : Nat := 6

/-- The pointer to a list that begins `offset` words behind it. -/
def listPointer (offset elementSize count : Nat) : StdString :=
  bytesLE 8 (1 + 4 * offset + 2 ^ 32 * (elementSize + 8 * count))

/-- A text with its terminating zero, up to a whole word. -/
def textWords (s : StdString) : StdString :=
  s ++ 0 :: List.replicate (padding 8 (s.length + 1)) 0

/-- The pointers of a list of texts, the first of them at word `i`, when the texts begin at
word `next`. -/
def textPointers : Nat → Nat → List StdString → StdString
  | _, _, [] => []
  | i, next, s :: ss =>
    listPointer (next - (i + 1)) byteElements (s.length + 1) ++
      textPointers (i + 1) (next + (textWords s).length / 8) ss

/-- The bytes a pointer at word `i` and the object it refers to take, when the object begins
at word `next`. -/
def pointerBytes (i next : Nat) : Pointer → StdString × StdString
  | .null => (bytesLE 8 0, [])
  | .ints list =>
    (listPointer (next - (i + 1)) wordElements list.length,
      list.flatMap fun x => bytesLE 8 (natOfInt64 x))
  | .strings list =>
    (listPointer (next - (i + 1)) pointerElements list.length,
      textPointers next (next + list.length) list ++ list.flatMap textWords)

/-- The pointers of a struct, the first of them at word `i`, and behind all of them the
objects, from word `next` on. -/
def pointersBytes : Nat → Nat → List Pointer → StdString × StdString
  | _, _, [] => ([], [])
  | i, next, pointer :: pointers =>
    let first := pointerBytes i next pointer
    let rest := pointersBytes (i + 1) (next + first.2.length / 8) pointers
    (first.1 ++ rest.1, first.2 ++ rest.2)

/-- The segment: the root pointer, which refers to the struct behind it, the struct, and the
objects. -/
def segment (root : Struct) : StdString :=
  -- The struct has no data words, so its pointers begin right behind the root pointer.
  let body := pointersBytes 1 (1 + root.pointers.length) root.pointers
  bytesLE 8 (2 ^ 48 * root.pointers.length) ++ (body.1 ++ body.2)

/-- The words of the list that the pointer at word `i` refers to, if it has elements of the
size. -/
def listWords (bytes : StdString) (elementSize i : Nat) : List Nat :=
  let pointer := wordAt bytes i
  if pointer % 4 = 1 ∧ pointer / 2 ^ 32 % 8 = elementSize then
    (List.range (pointer / 2 ^ 35)).map (i + 1 + pointer % 2 ^ 32 / 4 + ·)
  else []

/-- The text that the pointer at word `i` refers to. -/
def textAt (bytes : StdString) (i : Nat) : StdString :=
  let pointer := wordAt bytes i
  if pointer % 4 = 1 ∧ pointer / 2 ^ 32 % 8 = byteElements then
    (bytes.drop (8 * (i + 1 + pointer % 2 ^ 32 / 4))).take (pointer / 2 ^ 35 - 1)
  else []

/-- The fields of the struct that the root pointer refers to. -/
def view (bytes : StdString) : View :=
  let root := wordAt bytes 0
  let first := 1 + root % 2 ^ 32 / 4 + root / 2 ^ 32 % 2 ^ 16
  let field (elementSize n : Nat) : List Nat :=
    if n < root / 2 ^ 48 then listWords bytes elementSize (first + n) else []
  { ints := fun n => (field wordElements n).map fun i => int64OfNat (wordAt bytes i)
    strings := fun n => (field pointerElements n).map (textAt bytes) }

/-- Whether the root pointer refers to a struct is not checked. -/
def getRoot : Message → Except Exception View
  | [bytes] => .ok (view bytes)
  | _ => .error requireFailed

/-! ## The library -/

/-- `2^29 - 1` elements, and a terminating zero in a text. -/
def library : Library where
  Builder := Builder
  initRoot := Builder.initRoot
  int64List := listOperations listInt64 536870911 fun
    | .ints elements => some elements
    | _ => none
  textList := listOperations (listText 536870910) 536870911 fun
    | .strings elements => some elements
    | _ => none
  maxTextSize := 536870910
  asReader := Builder.asReader
  getSegmentsForOutput r1 := [segment r1.asReader]
  getRoot := getRoot

theorem library_lawful : library.Lawful where
  initRoot pointers := by
    simp [library, Builder.asReader, Builder.initRoot, Builder.target]
  int64List := ⟨_, listOperations_lawful (by decide) fun _ => rfl⟩
  textList := ⟨_, listOperations_lawful (by decide) fun _ => rfl⟩

end CppSerializers.Reference.CapnProto
