import Compositing.Surface.Format

/-! Cells packed into words. Writing one cell of a word and reading it back gives the pixel as the
format keeps it, and every other cell of the word stays as it was. -/

namespace Compositing.Format

def cellBits (format : Format) : Nat := 32 / format.cellsPerWord

def cellStart (format : Format) (x : Nat) : Nat := x % format.cellsPerWord * format.cellBits

theorem cellsPerWord_pos (format : Format) : 0 < format.cellsPerWord := by
  cases format <;> decide

theorem cellStart_bound (format : Format) (x : Nat) :
    format.cellStart x + format.cellBits ≤ 32 := by
  cases format <;> simp only [cellStart, cellBits, cellsPerWord] <;> omega

theorem cellBits_pos (format : Format) : 0 < format.cellBits := by
  cases format <;> decide

theorem cellStart_apart (format : Format) {x y : Nat}
    (apart : x % format.cellsPerWord ≠ y % format.cellsPerWord) :
    format.cellStart x + format.cellBits ≤ format.cellStart y ∨
      format.cellStart y + format.cellBits ≤ format.cellStart x := by
  cases format <;> simp only [cellStart, cellBits, cellsPerWord] at * <;> omega

theorem cellOffset_toBitVec (format : Format) (x : Nat) :
    (((format.cellOffset x).toBitVec % 32).toNat) = format.cellStart x := by
  have bound := cellStart_bound format x
  have some := cellBits_pos format
  have size : UInt32.size = 4294967296 := rfl
  change (UInt32.ofNat (format.cellStart x)).toNat % 32 = format.cellStart x
  rw [UInt32.toNat_ofNat_of_lt' (by omega)]
  omega

theorem shiftRight_cellOffset (format : Format) (x : Nat) (word : UInt32) :
    (word >>> format.cellOffset x).toBitVec = word.toBitVec >>> format.cellStart x := by
  rw [UInt32.toBitVec_shiftRight, BitVec.ushiftRight_eq', cellOffset_toBitVec]

theorem shiftLeft_cellOffset (format : Format) (x : Nat) (word : UInt32) :
    (word <<< format.cellOffset x).toBitVec = word.toBitVec <<< format.cellStart x := by
  rw [UInt32.toBitVec_shiftLeft, BitVec.shiftLeft_eq', cellOffset_toBitVec]

theorem cellMask_bit (format : Format) (i : Nat) (small : i < 32) :
    format.cellMask.toBitVec.getLsbD i = decide (i < format.cellBits) := by
  cases format <;> revert i <;> decide

theorem encode_bit (format : Format) (p : Pixel) (i : Nat) (beyond : format.cellBits ≤ i) :
    (format.encode p).toBitVec.getLsbD i = false := by
  cases format with
  | argb32 => exact BitVec.getLsbD_of_ge _ _ beyond
  | rgb24 => exact BitVec.getLsbD_of_ge _ _ beyond
  | a8 =>
      change (p >>> 24).toBitVec.getLsbD i = false
      have large : 8 ≤ i := beyond
      rw [UInt32.toBitVec_shiftRight, BitVec.ushiftRight_eq', BitVec.getLsbD_ushiftRight]
      exact BitVec.getLsbD_of_ge _ _ (by change 32 ≤ 24 + i; omega)
  | a1 =>
      have large : 1 ≤ i := beyond
      simp only [encode]
      split
      · exact BitVec.getLsbD_zero
      · rw [UInt32.toBitVec_one, BitVec.getLsbD_one]
        simp only [Bool.and_eq_false_imp, decide_eq_true_eq, decide_eq_false_iff_not]
        omega

/-- Bit `i` of what `load` takes out of a word, before it is decoded. -/
theorem cell_bit (format : Format) (x : Nat) (word : UInt32) (i : Nat) (small : i < 32) :
    ((word >>> format.cellOffset x) &&& format.cellMask).toBitVec.getLsbD i =
      (word.toBitVec.getLsbD (format.cellStart x + i) && decide (i < format.cellBits)) := by
  rw [UInt32.toBitVec_and, BitVec.getLsbD_and, shiftRight_cellOffset, BitVec.getLsbD_ushiftRight,
    cellMask_bit format i small]

theorem store_bit (format : Format) (x : Nat) (p : Pixel) (word : UInt32) (i : Nat)
    (small : i < 32) :
    (format.store x p word).toBitVec.getLsbD i =
      if format.cellStart x ≤ i ∧ i < format.cellStart x + format.cellBits then
        (format.encode p).toBitVec.getLsbD (i - format.cellStart x)
      else word.toBitVec.getLsbD i := by
  change ((word &&& ~~~(format.cellMask <<< format.cellOffset x)) |||
    (format.encode p <<< format.cellOffset x)).toBitVec.getLsbD i = _
  simp only [UInt32.toBitVec_or, UInt32.toBitVec_and, UInt32.toBitVec_not, shiftLeft_cellOffset,
    BitVec.getLsbD_or, BitVec.getLsbD_and, BitVec.getLsbD_not, BitVec.getLsbD_shiftLeft, small,
    decide_true, Bool.true_and, cellMask_bit format (i - format.cellStart x) (by omega)]
  by_cases before : i < format.cellStart x
  · have outside : ¬ (format.cellStart x ≤ i ∧ i < format.cellStart x + format.cellBits) := by omega
    simp [before, outside]
  · by_cases after : format.cellStart x + format.cellBits ≤ i
    · have outside : ¬ (i < format.cellStart x + format.cellBits) := by omega
      have beyond : ¬ (i - format.cellStart x < format.cellBits) := by omega
      simp [before, outside, beyond, encode_bit format p (i - format.cellStart x) (by omega)]
    · have inside : i < format.cellStart x + format.cellBits := by omega
      have reached : format.cellStart x ≤ i := by omega
      have within : i - format.cellStart x < format.cellBits := by omega
      simp [before, inside, reached, within]

theorem load_store_self (format : Format) (x : Nat) (p : Pixel) (word : UInt32) :
    format.load x (format.store x p word) = format.readBack p := by
  unfold load readBack
  congr 1
  apply UInt32.toBitVec_inj.mp
  apply BitVec.eq_of_getLsbD_eq
  intro i small
  have bound := cellStart_bound format x
  rw [cell_bit format x _ i small]
  by_cases inside : i < format.cellBits
  · rw [store_bit format x p word _ (by omega), if_pos (by omega)]
    simp [inside]
  · simp [inside, encode_bit format p i (by omega)]

theorem load_store_other (format : Format) {x y : Nat} (p : Pixel) (word : UInt32)
    (apart : x % format.cellsPerWord ≠ y % format.cellsPerWord) :
    format.load y (format.store x p word) = format.load y word := by
  rw [load]
  congr 1
  apply UInt32.toBitVec_inj.mp
  apply BitVec.eq_of_getLsbD_eq
  intro i small
  have bound := cellStart_bound format y
  rw [cell_bit format y _ i small, cell_bit format y _ i small]
  by_cases inside : i < format.cellBits
  · have separate := cellStart_apart format apart
    rw [store_bit format x p word _ (by omega), if_neg (by omega)]
  · simp [inside]

end Compositing.Format
