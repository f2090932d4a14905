import Compositing.Proofs.Storage

/-! Resizing row by row. A row moves within the storage that still holds the others, so that the
order matters: rows that close up move first row first, rows that spread out last row first. Then
no row is overwritten before it has moved, and all comes to the same as if all had moved at once. -/

namespace Compositing.Surface

/-- Copies a block of words to another place, as if all of it were read before any of it is
written. Both places have to lie in the storage. -/
def copyWithin? (words : Array UInt32) (source target length : Nat) : Option (Array UInt32) :=
  if source + length ≤ words.size ∧ target + length ≤ words.size then
    some (Array.ofFn fun index : Fin words.size =>
      if target ≤ index ∧ index < target + length then words.getD (source + (index - target)) 0
      else words.getD index 0)
  else none

structure Storage where
  words : Array UInt32
  capacity : Nat

def Storage.fit (held : Storage) (length : Nat) : Storage :=
  ⟨Array.ofFn fun index : Fin length => held.words.getD index 0, roomFor held.capacity length⟩

def Storage.moveRows? (held : Storage) (oldRow newRow rows length : Nat) : Option Storage := do
  let spreads := oldRow < newRow
  let roomy := if spreads ∧ held.words.size < length then held.fit length else held
  let order := if spreads then (List.range rows).reverse else List.range rows
  let moved ← order.foldlM (fun words row =>
    copyWithin? words (row * oldRow) (row * newRow) (min oldRow newRow)) roomy.words
  return ({ roomy with words := moved }).fit length

def resizeInPlace? (s : Surface) (width height : Int32) : Option Surface := do
  let width := max width 0
  let height := max height 0
  if width = s.width ∧ height = s.height then
    return s
  let rows := (min s.height height).toNatClampNeg
  let row := s.format.stride width / 4
  let held ← Storage.moveRows? ⟨s.words, s.capacity⟩ (s.stride / 4) row rows
    (row * height.toNatClampNeg)
  let moved : Surface := ⟨s.format, width, height, held.words, held.capacity⟩
  return (exposed width height (min s.width width) (min s.height height)).foldl
    (fun s p => s.setPixel p 0) moved

section Moves

variable {old words : Array UInt32} {oldRow newRow rows row length source target : Nat}

theorem getD_ofFn (length : Nat) (f : Nat → UInt32) (i : Nat) :
    (Array.ofFn fun index : Fin length => f index).getD i 0 = if i < length then f i else 0 := by
  split
  · rename_i inside
    rw [← Array.getElem_eq_getD (h := by rwa [Array.size_ofFn]), Array.getElem_ofFn]
  · rename_i outside
    simp [Array.getD, outside]

theorem getD_of_size_le {i : Nat} (outside : words.size ≤ i) : words.getD i 0 = 0 := by
  simp [Array.getD, Nat.not_lt.mpr outside]

/-- The rows for which `done` holds have moved, and every other word is as it was. -/
structure PartMoved (old words : Array UInt32) (oldRow newRow : Nat) (done : Nat → Prop) :
    Prop where
  size : words.size = old.size
  moved : ∀ i, done (i / newRow) → i % newRow < min oldRow newRow →
    words.getD i 0 = old.getD (i / newRow * oldRow + i % newRow) 0
  still : ∀ i, ¬ (done (i / newRow) ∧ i % newRow < min oldRow newRow) →
    words.getD i 0 = old.getD i 0

theorem PartMoved.congr {done other : Nat → Prop} (part : PartMoved old words oldRow newRow done)
    (same : ∀ row, done row ↔ other row) : PartMoved old words oldRow newRow other :=
  ⟨part.size, fun i moved => part.moved i ((same _).mpr moved),
    fun i rests => part.still i fun moves => rests ⟨(same _).mp moves.1, moves.2⟩⟩

theorem mem_block_iff {i : Nat} (short : length ≤ newRow) :
    row * newRow ≤ i ∧ i < row * newRow + length ↔ i / newRow = row ∧ i % newRow < length := by
  have whole := Nat.div_add_mod' i newRow
  constructor
  · intro block
    have wide : 0 < newRow := by omega
    have down : i / newRow = row := by
      apply Nat.div_eq_of_lt_le block.1
      rw [Nat.add_mul, Nat.one_mul]
      omega
    rw [down] at whole
    exact ⟨down, by omega⟩
  · intro place
    rw [place.1] at whole
    omega

theorem copyWithin?_spec (reads : source + length ≤ words.size)
    (writes : target + length ≤ words.size) :
    ∃ copied, copyWithin? words source target length = some copied ∧ copied.size = words.size ∧
      ∀ i, copied.getD i 0 =
        if target ≤ i ∧ i < target + length then words.getD (source + (i - target)) 0
        else words.getD i 0 := by
  refine ⟨_, if_pos ⟨reads, writes⟩, Array.size_ofFn, ?_⟩
  intro i
  rw [getD_ofFn words.size fun index =>
    if target ≤ index ∧ index < target + length then words.getD (source + (index - target)) 0
    else words.getD index 0]
  by_cases inside : i < words.size
  · rw [if_pos inside]
  · rw [if_neg inside, if_neg (by omega), getD_of_size_le (Nat.not_lt.mp inside)]

/-- A row moves rightly if no row that has moved before it lies where it comes from. -/
theorem PartMoved.copy {done : Nat → Prop} (part : PartMoved old words oldRow newRow done)
    (reads : row * oldRow + min oldRow newRow ≤ old.size)
    (writes : row * newRow + min oldRow newRow ≤ old.size)
    (unread : ∀ column < min oldRow newRow, ¬ done ((row * oldRow + column) / newRow)) :
    ∃ copied, copyWithin? words (row * oldRow) (row * newRow) (min oldRow newRow) = some copied ∧
      PartMoved old copied oldRow newRow fun other => other = row ∨ done other := by
  have short : min oldRow newRow ≤ newRow := Nat.min_le_right ..
  rcases copyWithin?_spec (part.size ▸ reads) (part.size ▸ writes) with ⟨copied, did, size, word⟩
  refine ⟨copied, did, size.trans part.size, ?_, ?_⟩
  · intro i moves column
    rw [word]
    by_cases here : i / newRow = row
    · have block := (mem_block_iff short).mpr ⟨here, column⟩
      have across : i - row * newRow = i % newRow := by
        have whole := Nat.div_add_mod' i newRow
        rw [here] at whole
        omega
      rw [if_pos block, across, here]
      exact part.still _ fun moved => unread _ column moved.1
    · rw [if_neg fun block => here ((mem_block_iff short).mp block).1]
      exact part.moved i (moves.resolve_left here) column
  · intro i rests
    rw [word, if_neg fun block =>
      rests ⟨.inl ((mem_block_iff short).mp block).1, ((mem_block_iff short).mp block).2⟩]
    exact part.still i fun moved => rests ⟨.inr moved.1, moved.2⟩

theorem PartMoved.start : PartMoved words words oldRow newRow fun _ => False :=
  ⟨rfl, fun _ done => done.elim, fun _ _ => rfl⟩

/-- Rows that close up leave those after them alone. -/
theorem closeUp (close : newRow ≤ oldRow) (fits : rows * oldRow ≤ old.size) {n : Nat}
    (few : n ≤ rows) :
    ∃ moved, (List.range n).foldlM (fun words row =>
        copyWithin? words (row * oldRow) (row * newRow) (min oldRow newRow)) old = some moved ∧
      PartMoved old moved oldRow newRow (· < n) := by
  induction n with
  | zero => exact ⟨old, rfl, PartMoved.start.congr fun row => by simp⟩
  | succ n ih =>
      rcases ih (Nat.le_of_succ_le few) with ⟨words, did, part⟩
      have room : (n + 1) * oldRow ≤ rows * oldRow := Nat.mul_le_mul_right _ few
      have closer : n * newRow ≤ n * oldRow := Nat.mul_le_mul_left _ close
      rw [Nat.add_mul, Nat.one_mul] at room
      have unread : ∀ column < min oldRow newRow, ¬ (n * oldRow + column) / newRow < n := by
        intro column inside
        rw [Nat.not_lt, Nat.le_div_iff_mul_le (by omega)]
        omega
      rcases part.copy (by omega) (by omega) unread with ⟨copied, last, part⟩
      refine ⟨copied, ?_, part.congr fun row => by omega⟩
      rw [List.range_succ, List.foldlM_append, did, Option.bind_eq_bind, Option.bind_some,
        List.foldlM_cons, last]
      rfl

/-- Rows that spread out, from the last on, leave those before them alone. -/
theorem spreadOut (spreads : oldRow < newRow) (fits : rows * newRow ≤ old.size) {n : Nat}
    (few : n ≤ rows) {words : Array UInt32}
    (part : PartMoved old words oldRow newRow fun row => n ≤ row ∧ row < rows) :
    ∃ moved, (List.range n).reverse.foldlM (fun words row =>
        copyWithin? words (row * oldRow) (row * newRow) (min oldRow newRow)) words = some moved ∧
      PartMoved old moved oldRow newRow (· < rows) := by
  induction n generalizing words with
  | zero => exact ⟨words, rfl, part.congr fun row => by omega⟩
  | succ n ih =>
      have room : (n + 1) * newRow ≤ rows * newRow := Nat.mul_le_mul_right _ few
      have wider : n * oldRow ≤ n * newRow := Nat.mul_le_mul_left _ spreads.le
      rw [Nat.add_mul, Nat.one_mul] at room
      have unread : ∀ column < min oldRow newRow,
          ¬ (n + 1 ≤ (n * oldRow + column) / newRow ∧ (n * oldRow + column) / newRow < rows) := by
        intro column inside reached
        have start := (Nat.le_div_iff_mul_le (by omega)).mp reached.1
        rw [Nat.add_mul, Nat.one_mul] at start
        omega
      rcases part.copy (by omega) (by omega) unread with ⟨copied, first, part⟩
      rcases ih (Nat.le_of_succ_le few) (part.congr fun row => by omega) with ⟨moved, did, part⟩
      refine ⟨moved, ?_, part⟩
      rw [List.range_succ, List.reverse_append, List.reverse_singleton, List.singleton_append,
        List.foldlM_cons, first]
      exact did

theorem PartMoved.all {words : Array UInt32} {moved : Array UInt32}
    (part : PartMoved old moved oldRow newRow (· < rows))
    (same : ∀ i, old.getD i 0 = words.getD i 0) :
    (Array.ofFn fun index : Fin length => moved.getD index 0) =
      Surface.moveRows words oldRow newRow rows length := by
  rw [Surface.moveRows]
  congr 1
  funext index
  dsimp only
  split
  · rename_i moves
    rw [part.moved index moves.1 moves.2, same]
  · rename_i rests
    rw [part.still index rests, same]

section Fit

variable (held : Storage)

theorem Storage.getD_fit {length : Nat} (grows : held.words.size ≤ length) (i : Nat) :
    (held.fit length).words.getD i 0 = held.words.getD i 0 := by
  rw [Storage.fit, getD_ofFn length fun index => held.words.getD index 0]
  by_cases inside : i < length
  · rw [if_pos inside]
  · rw [if_neg inside, getD_of_size_le (by omega)]

theorem Storage.roomy_spec (length : Nat) :
    let roomy := if held.words.size < length then held.fit length else held
    length ≤ roomy.words.size ∧ (∀ i, roomy.words.getD i 0 = held.words.getD i 0) ∧
      roomFor roomy.capacity length = roomFor held.capacity length := by
  dsimp only
  split
  · rename_i short
    refine ⟨Nat.le_of_eq Array.size_ofFn.symm, held.getD_fit short.le, ?_⟩
    simp only [Storage.fit, roomFor]
    omega
  · rename_i long
    exact ⟨Nat.not_lt.mp long, fun _ => rfl, rfl⟩

/-- Rows moved one after the other come to what they come to when all are moved at once. -/
theorem Storage.moveRows?_eq (reads : rows * oldRow ≤ held.words.size)
    (writes : rows * newRow ≤ length) :
    held.moveRows? oldRow newRow rows length =
      some ⟨Surface.moveRows held.words oldRow newRow rows length,
        roomFor held.capacity length⟩ := by
  rw [Storage.moveRows?]
  by_cases spreads : oldRow < newRow
  · rcases held.roomy_spec length with ⟨long, same, room⟩
    simp only [spreads, true_and, if_true]
    generalize (if held.words.size < length then held.fit length else held) = roomy at *
    have nothing : PartMoved roomy.words roomy.words oldRow newRow
        fun row => rows ≤ row ∧ row < rows :=
      PartMoved.start.congr fun row => ⟨False.elim, fun beyond => Nat.not_lt.mpr beyond.1 beyond.2⟩
    rcases spreadOut spreads (writes.trans long) le_rfl nothing with ⟨moved, did, part⟩
    rw [did, Option.bind_eq_bind, Option.bind_some, Storage.fit, part.all same, room]
    rfl
  · simp only [spreads, false_and, if_false]
    rcases closeUp (Nat.not_lt.mp spreads) reads le_rfl with ⟨moved, did, part⟩
    rw [did, Option.bind_eq_bind, Option.bind_some, Storage.fit, part.all fun _ => rfl]
    rfl

end Fit

end Moves

/-- A surface is resized as a whole by moving its rows one by one, and no row is moved from or to a
place outside the storage. -/
theorem resizeInPlace?_eq {s : Surface} (stored : s.Stored) (width height : Int32) :
    s.resizeInPlace? width height = some (s.resize width height) := by
  have words (width : Int32) : s.format.stride width / 4 = s.format.wordsPerRow width :=
    Nat.mul_div_cancel_left _ (by decide)
  rw [resizeInPlace?, resize_eq]
  dsimp only
  split
  · rfl
  · have rows := toInt_min s.height (max height 0)
    have reads : (min s.height (max height 0)).toNatClampNeg * s.format.wordsPerRow s.width ≤
        s.words.size := by
      rw [stored, wordsFor, Nat.mul_comm]
      apply Nat.mul_le_mul_left
      rw [toNatClampNeg_eq, toNatClampNeg_eq]
      omega
    have writes : (min s.height (max height 0)).toNatClampNeg *
          s.format.wordsPerRow (max width 0) ≤
        s.format.wordsPerRow (max width 0) * (max height 0).toNatClampNeg := by
      rw [Nat.mul_comm]
      apply Nat.mul_le_mul_left
      rw [toNatClampNeg_eq, toNatClampNeg_eq]
      omega
    rw [stride, words, words, Storage.moveRows?_eq ⟨s.words, s.capacity⟩ reads writes]
    rfl

end Compositing.Surface
