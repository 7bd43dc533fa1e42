import CppSerializers.Reference.Streams

/-!
# Avro: fields in the order of another schema

A `ResolvingDecoder` reads what was written with another schema. It tells the generated
code in which order the fields come, and the code decodes them in that order: the fields
of this schema into their members, and for any other number nothing. So what becomes of a
member is decided by the last field that has its number, and a member without any keeps
what the target held.

A plain decoder has no order to tell, and the code reads the members in the order of the
schema. That is the resolving decoder's answer for a writer with this very schema.

## Main definitions

* `Field`, `Field.write` — a field of the data, under the number the reader gives it
* `encodeField` — the field of a record

## Main results

* `decode_fields` — decoding any fields in any order
* `decode_reordered` — decoding a record whose fields were reordered
-/

namespace CppSerializers.Avro

open Foundation

variable {V : Vectors}

/-- A field of the data, under the number that the reader's schema has for it. -/
inductive Field where
  | ids (xs : List Int64)
  | strings (ss : List StdString)
  /-- A number beyond those of the schema. -/
  | other (n : Nat)

namespace Field

/-- The entry of `fieldOrder()`. -/
def number : Field → Nat
  | .ids _ => 0
  | .strings _ => 1
  | .other n => n + 2

/-- What the decoder has for the generated code. -/
def write (V : Vectors) : Field → StdString
  | .ids xs => V.saveInts xs
  | .strings ss => V.saveStrings ss
  | .other _ => []

/-- The vectors are within the limit of the library. -/
def FitsIn (limit : Nat) : Field → Prop
  | .ids xs => xs.length ≤ limit
  | .strings ss => ss.length ≤ limit ∧ ∀ s ∈ ss, s.length ≤ limit
  | .other _ => True

/-- What becomes of the target. -/
def store (v : Record) : Field → Record
  | .ids xs => { v with ids := xs }
  | .strings ss => { v with strings := ss }
  | .other _ => v

def ids? : Field → Option (List Int64)
  | .ids xs => some xs
  | _ => none

def strings? : Field → Option (List StdString)
  | .strings ss => some ss
  | _ => none

end Field

private theorem decodeField_recognises (h : V.Lawful) {field : Field}
    (hfits : field.FitsIn V.maxLength) (v : Record) :
    Recognises (decodeField V v field.number) (field.write V) (field.store v) := by
  cases field with
  | ids xs => exact (h.ints xs v.ids hfits).bind_pure rfl
  | strings ss => exact (h.strings ss v.strings hfits.1 hfits.2).bind_pure rfl
  | other n => exact Recognises.pure v

private theorem decode_store (h : V.Lawful) {fields : List Field}
    (hfits : ∀ field ∈ fields, field.FitsIn V.maxLength) (v : Record) :
    Recognises (decode V (some (fields.map Field.number)) v) (fields.flatMap (Field.write V))
      (fields.foldl Field.store v) := by
  induction fields generalizing v with
  | nil => exact Recognises.pure v
  | cons field fields ih =>
    rw [List.forall_mem_cons] at hfits
    exact (decodeField_recognises h hfits.1 v).bind (ih hfits.2 (field.store v))

private theorem foldl_store (fields : List Field) (v : Record) :
    fields.foldl Field.store v =
      { ids := (fields.filterMap Field.ids?).getLastD v.ids
        strings := (fields.filterMap Field.strings?).getLastD v.strings } := by
  induction fields generalizing v with
  | nil => rfl
  | cons field fields ih =>
    rw [List.foldl_cons, ih]
    cases field with
    | ids xs =>
      exact congrArg (Record.mk · _) List.getLastD_cons.symm
    | strings ss =>
      exact congrArg (Record.mk _) List.getLastD_cons.symm
    | other n => rfl

/-- **Fields in any order**, of any number: the last of each kind is what the member becomes, and
a member without any keeps what the target held. -/
theorem decode_fields (h : V.Lawful) {fields : List Field}
    (hfits : ∀ field ∈ fields, field.FitsIn V.maxLength) (target : Record) :
    Recognises (decode V (some (fields.map Field.number)) target) (fields.flatMap (Field.write V))
      { ids := (fields.filterMap Field.ids?).getLastD target.ids
        strings := (fields.filterMap Field.strings?).getLastD target.strings } := by
  rw [← foldl_store]
  exact decode_store h hfits target

/-- The strings came first and the integers twice, and a third field is not of this schema. -/
theorem decode_fields_plain :
    Recognises
      (decode Reference.avroVectors (some [1, 0, 2, 0]) { ids := [7], strings := [lit "b"] })
      (Reference.avroVectors.saveStrings [lit "a"] ++ (Reference.avroVectors.saveInts [1] ++
        Reference.avroVectors.saveInts [2, 3]))
      { ids := [2, 3], strings := [lit "a"] } := by
  have hfits : ∀ field ∈ [.strings [lit "a"], .ids [1], .other 0, .ids [2, 3]],
      Field.FitsIn Reference.avroVectors.maxLength field := by
    have hlength : ∀ n : Nat, n ≤ 2 → n ≤ Reference.avroVectors.maxLength := fun n hn =>
      Nat.le_trans hn (by decide)
    simp only [List.forall_mem_cons, List.not_mem_nil, false_imp_iff, implies_true, and_true]
    refine ⟨⟨hlength 1 (by decide), ?_⟩, hlength 1 (by decide), trivial, hlength 2 (by decide)⟩
    simp only [List.forall_mem_cons, List.not_mem_nil, false_imp_iff, implies_true, and_true]
    exact hlength 1 (by decide)
  exact decode_fields Reference.avroVectors_lawful hfits { ids := [7], strings := [lit "b"] }

/-! ## Records -/

variable (V) in
/-- The field of a record that has a number. -/
def encodeField (r : Record) : Nat → StdString
  | 0 => V.saveInts r.ids
  | 1 => V.saveStrings r.strings
  | _ => []

/-- The fields of a record in an order. -/
private def fieldsOf (r : Record) (order : List Nat) : List Field :=
  order.map fun
    | 0 => .ids r.ids
    | 1 => .strings r.strings
    | n + 2 => .other n

private theorem map_number_fieldsOf (r : Record) (order : List Nat) :
    (fieldsOf r order).map Field.number = order := by
  rw [fieldsOf, List.map_map]
  refine (List.map_congr_left fun n _ => ?_).trans (List.map_id order)
  match n with
  | 0 => rfl
  | 1 => rfl
  | _ + 2 => rfl

private theorem write_fieldsOf (r : Record) (order : List Nat) :
    (fieldsOf r order).flatMap (Field.write V) = order.flatMap (encodeField V r) := by
  rw [fieldsOf, List.flatMap_map]
  refine List.flatMap_congr fun n _ => ?_
  match n with
  | 0 => rfl
  | 1 => rfl
  | _ + 2 => rfl

private theorem fitsIn_fieldsOf {r : Record} (hr : r.FitsIn V.maxLength) (order : List Nat) :
    ∀ field ∈ fieldsOf r order, field.FitsIn V.maxLength := by
  intro field hfield
  obtain ⟨n, -, rfl⟩ := List.mem_map.mp hfield
  match n with
  | 0 => exact hr.ids_le
  | 1 => exact ⟨hr.strings_le, hr.string_le⟩
  | _ + 2 => trivial

private theorem foldl_fieldsOf (r target : Record) {order : List Nat} (hids : 0 ∈ order)
    (hstrings : 1 ∈ order) : (fieldsOf r order).foldl Field.store target = r := by
  have hkeep : ∀ (order : List Nat) (v : Record),
      ((0 ∈ order ∨ v.ids = r.ids) → ((fieldsOf r order).foldl Field.store v).ids = r.ids) ∧
        ((1 ∈ order ∨ v.strings = r.strings) →
          ((fieldsOf r order).foldl Field.store v).strings = r.strings) := by
    intro order
    induction order with
    | nil => exact fun v => ⟨fun h => h.resolve_left List.not_mem_nil, fun h =>
        h.resolve_left List.not_mem_nil⟩
    | cons n order ih =>
      intro v
      match n with
      | 0 =>
        obtain ⟨hkeepIds, hkeepStrings⟩ := ih { v with ids := r.ids }
        exact ⟨fun _ => hkeepIds (.inr rfl), fun h => hkeepStrings (by simpa using h)⟩
      | 1 =>
        obtain ⟨hkeepIds, hkeepStrings⟩ := ih { v with strings := r.strings }
        exact ⟨fun h => hkeepIds (by simpa using h), fun _ => hkeepStrings (.inr rfl)⟩
      | n + 2 =>
        obtain ⟨hkeepIds, hkeepStrings⟩ := ih v
        exact ⟨fun h => hkeepIds (by simpa using h), fun h => hkeepStrings (by simpa using h)⟩
  have hkept := hkeep order target
  exact congrArg₂ Record.mk (hkept.1 (.inl hids)) (hkept.2 (.inl hstrings))

/-- **A record in any order** that has both fields is restored, whatever the target held, and
what a plain decoder does is what the order of the schema says. -/
theorem decode_reordered (h : V.Lawful) {r : Record} (hr : r.FitsIn V.maxLength) {order : List Nat}
    (hids : 0 ∈ order) (hstrings : 1 ∈ order) (target : Record) :
    Recognises (decode V (some order) target) (order.flatMap (encodeField V r)) r ∧
      encode V r = [0, 1].flatMap (encodeField V r) ∧ decode V none = decode V (some [0, 1]) := by
  refine ⟨?_, ?_, ?_⟩
  · have hread := decode_store h (fitsIn_fieldsOf hr order) target
    rwa [map_number_fieldsOf, write_fieldsOf, foldl_fieldsOf r target hids hstrings] at hread
  · simp [encode, encodeField]
  · funext v
    simp [decode, decodeField]

/-- The strings come first. -/
theorem decode_reordered_swapped :
    Recognises (decode Reference.avroVectors (some [1, 0]) {})
      ([1, 0].flatMap (encodeField Reference.avroVectors ⟨[1], [lit "a"]⟩)) ⟨[1], [lit "a"]⟩ := by
  have hlength : 1 ≤ Reference.avroVectors.maxLength := by decide
  have hfits : (⟨[1], [lit "a"]⟩ : Record).FitsIn Reference.avroVectors.maxLength :=
    ⟨hlength, hlength, List.forall_mem_singleton.mpr hlength⟩
  exact (decode_reordered Reference.avroVectors_lawful hfits (by decide) (by decide) {}).1

end CppSerializers.Avro
