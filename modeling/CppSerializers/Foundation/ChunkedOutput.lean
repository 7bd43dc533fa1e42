import Mathlib.Algebra.Order.Floor.Div
import Mathlib.Data.List.Basic
import Mathlib.Data.Nat.ModEq

/-!
# Output streams that hand out whole chunks

Some buffered streams do not copy what is written to them. They hand the writer
a window into a freshly allocated chunk, the writer fills the window cell by
cell, and asks for the next chunk when the window is full. Such a stream counts
the cells it has handed out, not the cells that were written: the two agree only
after the writer has given the unused end of its window back.

The chunks are kept as one list of cells. A fresh chunk holds whatever the
memory held before (`blank`), so the cells behind the last written one are
arbitrary.

## Main definitions

* `ChunkedOutput` — the stream: its cells, how many were handed out, how many written
* `ChunkedOutput.put`, `ChunkedOutput.putAll` — write one cell, write a list
* `ChunkedOutput.byteCount` — the number of cells handed out
* `ChunkedOutput.flush` — give the unwritten end of the window back
* `ChunkedOutput.visible` — what a reader of the stream gets to see

## Main results

* `visible_putAll` — a reader sees what was written, then the unwritten cells
* `byteCount_putAll` — the count is rounded up to whole chunks
* `mul_ceilDiv_eq_iff_dvd` — that is the length written exactly at chunk boundaries
* `flush_putAll` — flushing makes both exact
-/

namespace CppSerializers.Foundation

variable {β : Type}

/-- A stream of chunks of `chunkSize` cells, whose memory held `blank` before. -/
structure ChunkedOutput (β : Type) where
  /-- The number of cells of one chunk. -/
  chunkSize : Nat
  /-- What the memory behind each cell held when its chunk was allocated. -/
  blank : Nat → β
  /-- The cells of all chunks, oldest chunk first. -/
  cells : List β
  /-- How many cells have been handed out to the writer. -/
  handed : Nat
  /-- How many cells the writer has filled. -/
  written : Nat

namespace ChunkedOutput

/-- A stream that has allocated no chunk yet. -/
def empty (chunkSize : Nat) (blank : Nat → β) : ChunkedOutput β where
  chunkSize := chunkSize
  blank := blank
  cells := []
  handed := 0
  written := 0

/-- The content of the chunk that would be allocated next. -/
def freshChunk (out : ChunkedOutput β) : List β :=
  (List.range out.chunkSize).map fun i => out.blank (out.cells.length + i)

/-- Allocate a chunk when the last one has been handed out entirely. -/
def allocate (out : ChunkedOutput β) : ChunkedOutput β :=
  if out.handed = out.cells.length then { out with cells := out.cells ++ out.freshChunk } else out

/-- Hand out all that is left of the last chunk. -/
def handOut (out : ChunkedOutput β) : ChunkedOutput β := { out with handed := out.cells.length }

/-- The stream with room for one more cell: a new window when the current one is full. -/
def window (out : ChunkedOutput β) : ChunkedOutput β :=
  if out.written = out.handed then out.allocate.handOut else out

/-- Write one cell into the window. -/
def fill (out : ChunkedOutput β) (b : β) : ChunkedOutput β :=
  { out with cells := out.cells.set out.written b, written := out.written + 1 }

/-- Write one cell, asking for a window first when the current one is full. -/
def put (out : ChunkedOutput β) (b : β) : ChunkedOutput β := out.window.fill b

/-- Write a list of cells. -/
def putAll (out : ChunkedOutput β) (bs : List β) : ChunkedOutput β :=
  bs.foldl put out

/-- The stream's own account of its size: every cell handed out. -/
def byteCount (out : ChunkedOutput β) : Nat := out.handed

/-- The writer gives the unwritten end of its window back. -/
def flush (out : ChunkedOutput β) : ChunkedOutput β := { out with handed := out.written }

/-- The cells a reader of the stream is given: those handed out. -/
def visible (out : ChunkedOutput β) : List β := out.cells.take out.handed

@[simp] theorem length_freshChunk (out : ChunkedOutput β) :
    out.freshChunk.length = out.chunkSize := by simp [freshChunk]

/-! ## What writing does

While nothing has been given back, every allocated cell is handed out. -/

/-- The stream holds `bs`: they are its first cells, and all of its cells, a whole
number of chunks and less than one chunk more than needed, are handed out. -/
structure Holds (out : ChunkedOutput β) (bs : List β) : Prop where
  /-- The written cells come first. -/
  cells_eq : ∃ unwritten, out.cells = bs ++ unwritten ∧ unwritten.length < out.chunkSize
  /-- The writer stands behind the last written cell. -/
  written_eq : out.written = bs.length
  /-- Every cell has been handed out. -/
  handed_eq : out.handed = out.cells.length
  /-- The cells form whole chunks. -/
  chunks : out.chunkSize ∣ out.cells.length

theorem holds_empty {chunkSize : Nat} (hpos : 0 < chunkSize) (blank : Nat → β) :
    (empty chunkSize blank).Holds [] where
  cells_eq := ⟨[], rfl, hpos⟩
  written_eq := rfl
  handed_eq := rfl
  chunks := dvd_zero _

@[simp] theorem chunkSize_put (out : ChunkedOutput β) (b : β) :
    (out.put b).chunkSize = out.chunkSize := by
  unfold put fill window allocate handOut
  split_ifs <;> rfl

private theorem Holds.window_eq {out : ChunkedOutput β} {bs : List β} (h : out.Holds bs)
    (hcells : out.cells = bs) :
    out.window =
      { out with
        cells := bs ++ out.freshChunk
        handed := bs.length + out.chunkSize } := by
  have hfull : out.written = out.handed := by rw [h.written_eq, h.handed_eq, hcells]
  rw [window, if_pos hfull, allocate, if_pos h.handed_eq, handOut]
  simp [hcells]

private theorem holds_fill {out : ChunkedOutput β} {bs unwritten : List β} {old : β}
    (hcells : out.cells = bs ++ old :: unwritten) (hsize : unwritten.length < out.chunkSize)
    (hwritten : out.written = bs.length) (hhanded : out.handed = out.cells.length)
    (hchunks : out.chunkSize ∣ out.cells.length) (b : β) : (out.fill b).Holds (bs ++ [b]) where
  cells_eq := by
    refine ⟨unwritten, ?_, hsize⟩
    simp [fill, hcells, hwritten, List.set_append_right]
  written_eq := by simp [fill, hwritten]
  handed_eq := by simpa [fill] using hhanded
  chunks := by simpa [fill] using hchunks

/-- **Step lemma.** Writing one cell extends what the stream holds by that cell. -/
theorem Holds.put {out : ChunkedOutput β} {bs : List β} (h : out.Holds bs) (b : β) :
    (out.put b).Holds (bs ++ [b]) := by
  obtain ⟨unwritten, hcells, hsize⟩ := h.cells_eq
  cases unwritten with
  | nil =>
    -- The window is full: the cell becomes the first one of a fresh chunk.
    rw [List.append_nil] at hcells
    obtain ⟨old, fresh, hfresh⟩ : ∃ old fresh, out.freshChunk = old :: fresh :=
      List.exists_cons_of_length_pos (by rw [length_freshChunk]; exact hsize)
    have hlength : fresh.length + 1 = out.chunkSize := by
      rw [← length_freshChunk, hfresh, List.length_cons]
    rw [ChunkedOutput.put, h.window_eq hcells, hfresh]
    apply holds_fill
    · exact rfl
    · show fresh.length < out.chunkSize
      omega
    · exact h.written_eq
    · simp [hlength]
    · have hdvd := h.chunks
      rw [hcells] at hdvd
      simpa [hlength] using hdvd
  | cons old unwritten =>
    -- There is room: the stream is left as it is.
    have hroom : out.written ≠ out.handed := by
      rw [h.written_eq, h.handed_eq, hcells]
      simp
    rw [ChunkedOutput.put, window, if_neg hroom]
    exact holds_fill hcells (Nat.lt_of_succ_lt hsize) h.written_eq h.handed_eq h.chunks b

/-- **Run lemma.** Writing a list extends what the stream holds by that list. -/
theorem Holds.putAll {out : ChunkedOutput β} {bs : List β} (h : out.Holds bs) (more : List β) :
    (out.putAll more).Holds (bs ++ more) := by
  -- Each cell moves from what is still to be written to what is held.
  induction more generalizing out bs with
  | nil => simpa [ChunkedOutput.putAll] using h
  | cons b more ih => simpa [ChunkedOutput.putAll] using ih (h.put b)

@[simp] theorem chunkSize_putAll (out : ChunkedOutput β) (bs : List β) :
    (out.putAll bs).chunkSize = out.chunkSize := by
  induction bs generalizing out with
  | nil => rfl
  | cons b bs ih =>
    show ((out.put b).putAll bs).chunkSize = out.chunkSize
    rw [ih, chunkSize_put]

/-! ## What the stream reports and shows -/

/-- A stream that holds `bs` has handed out whole chunks, as few as hold `bs`. -/
theorem Holds.byteCount_eq {out : ChunkedOutput β} {bs : List β} (h : out.Holds bs) :
    out.byteCount = out.chunkSize * (bs.length ⌈/⌉ out.chunkSize) := by
  obtain ⟨unwritten, hcells, hsize⟩ := h.cells_eq
  obtain ⟨chunks, hchunks⟩ := h.chunks
  -- Less than a chunk is unwritten, so there are as many chunks as needed and no more.
  have hpos : 0 < out.chunkSize := Nat.zero_lt_of_lt hsize
  have hlength : bs.length + unwritten.length = chunks * out.chunkSize := by
    rw [Nat.mul_comm, ← hchunks, hcells, List.length_append]
  have hceil : bs.length ⌈/⌉ out.chunkSize = chunks := by
    rw [Nat.ceilDiv_eq_add_pred_div, Nat.div_eq_iff hpos]
    omega
  rw [byteCount, h.handed_eq, hchunks, hceil]

/-- A reader of a stream that holds `bs` sees `bs` and the unwritten cells of the
last chunk. -/
theorem Holds.visible_eq {out : ChunkedOutput β} {bs : List β} (h : out.Holds bs) :
    ∃ unwritten, out.visible = bs ++ unwritten := by
  obtain ⟨unwritten, hcells, -⟩ := h.cells_eq
  exact ⟨unwritten, by rw [visible, h.handed_eq, List.take_length, hcells]⟩

/-- After a flush the count is exact and the unwritten cells are hidden. -/
theorem Holds.flush {out : ChunkedOutput β} {bs : List β} (h : out.Holds bs) :
    out.flush.byteCount = bs.length ∧ out.flush.visible = bs := by
  obtain ⟨unwritten, hcells, -⟩ := h.cells_eq
  refine ⟨h.written_eq, ?_⟩
  show out.cells.take out.written = bs
  rw [h.written_eq, hcells, List.take_left]

variable {chunkSize : Nat} {blank : Nat → β}

/-- The cells a fresh stream has handed out after `bs` was written to it. -/
theorem byteCount_putAll (hpos : 0 < chunkSize) (bs : List β) :
    ((empty chunkSize blank).putAll bs).byteCount = chunkSize * (bs.length ⌈/⌉ chunkSize) := by
  have h := ((holds_empty hpos blank).putAll bs).byteCount_eq
  rwa [List.nil_append, chunkSize_putAll] at h

/-- Rounding up to whole chunks changes nothing exactly at chunk boundaries. -/
theorem mul_ceilDiv_eq_iff_dvd (hpos : 0 < chunkSize) {n : Nat} :
    chunkSize * (n ⌈/⌉ chunkSize) = n ↔ chunkSize ∣ n := by
  constructor
  · intro h
    exact ⟨_, h.symm⟩
  · rintro ⟨chunks, rfl⟩
    rw [← smul_eq_mul chunkSize chunks, smul_ceilDiv hpos, smul_eq_mul]

/-- A reader of a fresh stream sees what was written first. -/
theorem visible_putAll (hpos : 0 < chunkSize) (bs : List β) :
    ∃ unwritten, ((empty chunkSize blank).putAll bs).visible = bs ++ unwritten := by
  simpa using ((holds_empty hpos blank).putAll bs).visible_eq

/-- Flushing before asking makes the count exact and hides the unwritten cells. -/
theorem flush_putAll (hpos : 0 < chunkSize) (bs : List β) :
    ((empty chunkSize blank).putAll bs).flush.byteCount = bs.length ∧
      ((empty chunkSize blank).putAll bs).flush.visible = bs := by
  simpa using ((holds_empty hpos blank).putAll bs).flush

end ChunkedOutput

end CppSerializers.Foundation
