import Compositing.Proofs.Blending
import Compositing.Proofs.Resizing
import Compositing.Surface.Export

/-! A surface as an array of pixels. Every format lays its cells out in the storage in its own way,
by words, by bytes or by bits; each cell is within the storage, and none shares a bit with another,
so that a pixel reads as what was last written to it, whatever was written elsewhere. -/

namespace Compositing

namespace Format

def kept : Format → Pixel → Pixel
  | argb32, p => p
  | rgb24, p => p ||| 0xFF000000
  | a8, p => p &&& 0xFF000000
  | a1, p => if 0x80 ≤ p.alpha then 0xFF000000 else 0

theorem readBack_eq (format : Format) (p : Pixel) : format.readBack p = format.kept p := by
  cases format with
  | argb32 => rfl
  | rgb24 =>
      apply UInt32.toBitVec_inj.mp
      apply BitVec.eq_of_getLsbD_eq
      intro i small
      have masks : (0x00FFFFFF#32).getLsbD i = !(0xFF000000#32).getLsbD i := by
        revert i
        decide
      change ((p.toBitVec &&& 0x00FFFFFF#32) ||| 0xFF000000#32).getLsbD i =
        (p.toBitVec ||| 0xFF000000#32).getLsbD i
      rw [BitVec.getLsbD_or, BitVec.getLsbD_and, BitVec.getLsbD_or, masks]
      cases p.toBitVec.getLsbD i <;> simp
  | a8 =>
      apply UInt32.toBitVec_inj.mp
      apply BitVec.eq_of_getLsbD_eq
      intro i small
      have mask : (0xFF000000#32).getLsbD i = decide (24 ≤ i) := by
        revert i
        decide
      change ((p.toBitVec >>> 24) <<< 24).getLsbD i = (p.toBitVec &&& 0xFF000000#32).getLsbD i
      rw [BitVec.getLsbD_shiftLeft, BitVec.getLsbD_ushiftRight, BitVec.getLsbD_and, mask]
      by_cases high : 24 ≤ i
      · have back : 24 + (i - 24) = i := by omega
        simp [back, high, small]
      · simp [high]
  | a1 =>
      change (if (if p.alpha < 0x80 then (0 : UInt32) else 1) = 0 then (0 : UInt32)
        else 0xFF000000) = if 0x80 ≤ p.alpha then 0xFF000000 else 0
      by_cases faint : p.alpha < 0x80
      · rw [if_pos faint, if_pos rfl, if_neg (UInt32.not_le.mpr faint)]
      · rw [if_neg faint, if_neg (by decide), if_pos (UInt32.not_lt.mp faint)]

section Words

theorem cell_whole {format : Format} (one : format.cellsPerWord = 1) (x : Nat) (word : UInt32) :
    (word >>> format.cellOffset x) &&& format.cellMask = word := by
  have start : format.cellStart x = 0 := by rw [cellStart, one, Nat.mod_one, Nat.zero_mul]
  have wide : format.cellBits = 32 := by rw [cellBits, one]
  apply UInt32.toBitVec_inj.mp
  apply BitVec.eq_of_getLsbD_eq
  intro i small
  rw [cell_bit format x word i small, start, wide, Nat.zero_add]
  simp [small]

theorem store_whole (format : Format) (one : format.cellsPerWord = 1) (x : Nat) (p : Pixel)
    (word : UInt32) : format.store x p word = format.encode p := by
  have start : format.cellStart x = 0 := by rw [cellStart, one, Nat.mod_one, Nat.zero_mul]
  have wide : format.cellBits = 32 := by rw [cellBits, one]
  apply UInt32.toBitVec_inj.mp
  apply BitVec.eq_of_getLsbD_eq
  intro i small
  rw [store_bit format x p word i small, start, wide, if_pos (by omega), Nat.sub_zero]

end Words

section Bits

def bit (x : Nat) : UInt32 := 1 <<< UInt32.ofNat (x % 32)

theorem cellStart_a1 (x : Nat) : a1.cellStart x = x % 32 := Nat.mul_one _

theorem getLsbD_bit (x : Nat) {i : Nat} (small : i < 32) :
    (bit x).toBitVec.getLsbD i = decide (i = x % 32) := by
  have same : bit x = 1 <<< a1.cellOffset x :=
    congrArg (fun n => 1 <<< UInt32.ofNat n) (Nat.mul_one _).symm
  rw [same, shiftLeft_cellOffset, cellStart_a1, BitVec.getLsbD_shiftLeft, UInt32.toBitVec_one,
    BitVec.getLsbD_one, Bool.eq_iff_iff]
  simp only [small, decide_true, Bool.true_and, Bool.and_eq_true, Bool.not_eq_true',
    decide_eq_true_eq, decide_eq_false_iff_not]
  omega

theorem eq_zero_iff (word : UInt32) : word = 0 ↔ ∀ i < 32, word.toBitVec.getLsbD i = false := by
  constructor
  · rintro rfl i _
    exact BitVec.getLsbD_zero
  · intro clear
    apply UInt32.toBitVec_inj.mp
    apply BitVec.eq_of_getLsbD_eq
    intro i small
    rw [clear i small]
    exact BitVec.getLsbD_zero.symm

theorem load_a1 (x : Nat) (word : UInt32) :
    a1.load x word = if word &&& bit x = 0 then 0 else 0xFF000000 := by
  have place : x % 32 < 32 := Nat.mod_lt x (by decide)
  have cell : (word >>> a1.cellOffset x) &&& a1.cellMask = 0 ↔
      word.toBitVec.getLsbD (x % 32) = false := by
    rw [eq_zero_iff]
    constructor
    · intro clear
      have lowest := clear 0 (by decide)
      rw [cell_bit a1 x word 0 (by decide), cellStart_a1] at lowest
      simpa [cellBits, cellsPerWord] using lowest
    · intro clear i small
      rw [cell_bit a1 x word i small, cellStart_a1]
      cases i with
      | zero => simp [clear]
      | succ i => simp [cellBits, cellsPerWord]
  have masked : word &&& bit x = 0 ↔ word.toBitVec.getLsbD (x % 32) = false := by
    rw [eq_zero_iff]
    simp only [UInt32.toBitVec_and, BitVec.getLsbD_and]
    constructor
    · intro clear
      have here := clear _ place
      rw [getLsbD_bit x place] at here
      simpa using here
    · intro clear i small
      rw [getLsbD_bit x small]
      by_cases here : i = x % 32
      · rw [here, clear, Bool.false_and]
      · simp [here]
  change (if (word >>> a1.cellOffset x) &&& a1.cellMask = 0 then (0 : UInt32) else 0xFF000000) = _
  simp only [cell, masked]

theorem store_a1 (x : Nat) (p : Pixel) (word : UInt32) :
    a1.store x p word = if 0x80 ≤ p.alpha then word ||| bit x else word &&& ~~~bit x := by
  have one : a1.cellBits = 1 := rfl
  apply UInt32.toBitVec_inj.mp
  apply BitVec.eq_of_getLsbD_eq
  intro i small
  rw [store_bit a1 x p word i small, cellStart_a1, one]
  by_cases here : i = x % 32
  · have place : x % 32 < 32 := here ▸ small
    rw [if_pos (by omega), here, Nat.sub_self, encode]
    by_cases faint : p.alpha < 0x80
    · rw [if_pos faint, if_neg (UInt32.not_le.mpr faint), UInt32.toBitVec_and, UInt32.toBitVec_not,
        BitVec.getLsbD_and, BitVec.getLsbD_not, getLsbD_bit x place]
      simp
    · rw [if_neg faint, if_pos (UInt32.not_lt.mp faint), UInt32.toBitVec_or, BitVec.getLsbD_or,
        getLsbD_bit x place]
      simp
  · rw [if_neg (by omega)]
    split
    · rw [UInt32.toBitVec_or, BitVec.getLsbD_or, getLsbD_bit x small]
      simp [here]
    · rw [UInt32.toBitVec_and, UInt32.toBitVec_not, BitVec.getLsbD_and, BitVec.getLsbD_not,
        getLsbD_bit x small]
      simp [here, small]

end Bits

end Format

namespace Surface

section Bytes

def byteOf (word : UInt32) (k : Nat) : UInt8 := (word >>> UInt32.ofNat (k * 8)).toUInt8

theorem wordBytes_eq (word : UInt32) :
    wordBytes word = [byteOf word 0, byteOf word 1, byteOf word 2, byteOf word 3] := by
  have first : word >>> UInt32.ofNat (0 * 8) = word := UInt32.shiftRight_zero
  rw [wordBytes, byteOf, first]
  rfl

def wordsOf : List UInt8 → List UInt32
  | a :: b :: c :: d :: rest =>
      Pixel.ofChannels d.toUInt32 c.toUInt32 b.toUInt32 a.toUInt32 :: wordsOf rest
  | _ => []

theorem toUInt32_byteOf (word : UInt32) (k : Nat) :
    (byteOf word k).toUInt32 = Pixel.channel word (UInt32.ofNat (k * 8)) := by
  apply UInt32.toNat_inj.mp
  rw [UInt8.toNat_toUInt32, byteOf, UInt32.toNat_toUInt8, Pixel.toNat_channel,
    UInt32.toNat_shiftRight, Nat.shiftRight_eq_div_pow]

theorem ofChannels_channels (p : Pixel) :
    Pixel.ofChannels (p.channel 24) (p.channel 16) (p.channel 8) (p.channel 0) = p := by
  have word := p.toNat_lt
  have first : (p.channel 24).toNat = p.toNat / 16777216 % 256 := p.toNat_channel 24
  have second : (p.channel 16).toNat = p.toNat / 65536 % 256 := p.toNat_channel 16
  have third : (p.channel 8).toNat = p.toNat / 256 % 256 := p.toNat_channel 8
  have fourth : (p.channel 0).toNat = p.toNat / 1 % 256 := p.toNat_channel 0
  apply UInt32.toNat_inj.mp
  rw [Pixel.toNat_ofChannels (p.channel_le 24) (p.channel_le 16) (p.channel_le 8) (p.channel_le 0),
    first, second, third, fourth]
  omega

theorem wordsOf_bytes (words : List UInt32) : wordsOf (words.flatMap wordBytes) = words := by
  induction words with
  | nil => rfl
  | cons word rest ih =>
      rw [List.flatMap_cons, wordBytes_eq]
      change Pixel.ofChannels _ _ _ _ :: wordsOf (rest.flatMap wordBytes) = _
      simp only [toUInt32_byteOf, ih]
      exact congrArg (· :: rest) (ofChannels_channels word)

theorem byteIndex_succ (word : UInt32) (i k : Nat) :
    4 * (i + 1) + k = (wordBytes word).length + (4 * i + k) := by
  rw [wordBytes_eq, List.length_cons, List.length_cons, List.length_cons, List.length_cons,
    List.length_nil]
  omega

theorem bytes_getElem? (words : List UInt32) (i : Nat) {k : Nat} (small : k < 4) :
    (words.flatMap wordBytes)[4 * i + k]? = words[i]?.map (byteOf · k) := by
  induction words generalizing i with
  | nil => rfl
  | cons word rest ih =>
      rw [List.flatMap_cons]
      cases i with
      | zero =>
          rw [wordBytes_eq]
          match k, small with
          | 0, _ | 1, _ | 2, _ | 3, _ => rfl
      | succ i =>
          rw [byteIndex_succ word, List.getElem?_append_right (Nat.le_add_right ..),
            Nat.add_sub_cancel_left, ih, List.getElem?_cons_succ]

theorem bytes_modify {words : List UInt32} {i k : Nat} {change : UInt32 → UInt32} {byte : UInt8}
    (small : k < 4) (made : ∀ word, wordBytes (change word) = (wordBytes word).set k byte) :
    (words.modify i change).flatMap wordBytes = (words.flatMap wordBytes).set (4 * i + k) byte := by
  induction words generalizing i with
  | nil => simp
  | cons word rest ih =>
      cases i with
      | zero =>
          have here : 4 * 0 + k < (wordBytes word).length := by simpa [wordBytes] using small
          rw [List.modify_zero_cons, List.flatMap_cons, List.flatMap_cons, made,
            List.set_append_left _ _ here, Nat.mul_zero, Nat.zero_add]
      | succ i =>
          rw [List.modify_succ_cons, List.flatMap_cons, List.flatMap_cons, ih, byteIndex_succ word,
            List.set_append_right _ _ (Nat.le_add_right ..), Nat.add_sub_cancel_left]

theorem byteOf_bit (word : UInt32) {k i : Nat} (small : k < 4) (low : i < 8) :
    (byteOf word k).toBitVec.getLsbD i = word.toBitVec.getLsbD (k * 8 + i) := by
  have start : Format.cellStart .a8 k = k * 8 := congrArg (· * 8) (Nat.mod_eq_of_lt small)
  have offset : UInt32.ofNat (k * 8) = Format.cellOffset .a8 k :=
    congrArg (fun column => UInt32.ofNat (column * 8)) (Nat.mod_eq_of_lt small).symm
  rw [byteOf, UInt32.toBitVec_toUInt8, BitVec.getLsbD_setWidth, offset,
    Format.shiftRight_cellOffset, BitVec.getLsbD_ushiftRight, start]
  simp [low]

theorem byteOf_store (x : Nat) (p : Pixel) (word : UInt32) {k : Nat} (small : k < 4) :
    byteOf (Format.store .a8 x p word) k =
      if k = x % 4 then p.alpha.toUInt8 else byteOf word k := by
  have start : Format.cellStart .a8 x = x % 4 * 8 := rfl
  have eight : Format.cellBits .a8 = 8 := rfl
  apply UInt8.toBitVec_inj.mp
  apply BitVec.eq_of_getLsbD_eq
  intro i low
  rw [byteOf_bit _ small low, Format.store_bit .a8 x p word _ (by omega), start, eight]
  by_cases here : k = x % 4
  · rw [if_pos (by omega), if_pos here, here, Nat.add_sub_cancel_left, UInt32.toBitVec_toUInt8,
      BitVec.getLsbD_setWidth]
    simp [low, Format.encode]
  · rw [if_neg (by omega), if_neg here, byteOf_bit word small low]

theorem wordBytes_store (x : Nat) (p : Pixel) (word : UInt32) :
    wordBytes (Format.store .a8 x p word) = (wordBytes word).set (x % 4) p.alpha.toUInt8 := by
  rw [wordBytes_eq, wordBytes_eq, byteOf_store x p word (by decide),
    byteOf_store x p word (by decide), byteOf_store x p word (by decide),
    byteOf_store x p word (by decide)]
  have column : x % 4 < 4 := Nat.mod_lt x (by decide)
  generalize x % 4 = c at *
  match c, column with
  | 0, _ | 1, _ | 2, _ | 3, _ => rfl

end Bytes

section Access

variable (s : Surface) (p : Point)

def rowStart : Nat := p.y.toNatClampNeg * s.stride

/-- A pixel as it lies in the storage: in a word, in a byte or in a bit of a word. There is none if
the storage does not reach so far. -/
def fetch? : Option Pixel :=
  let x := p.x.toNatClampNeg
  match s.format with
  | .argb32 => s.words[s.rowStart p / 4 + x]?
  | .rgb24 => s.words[s.rowStart p / 4 + x]?.map (· ||| 0xFF000000)
  | .a8 => s.bytes[s.rowStart p + x]?.map fun byte : UInt8 => byte.toUInt32 <<< 24
  | .a1 => s.words[s.rowStart p / 4 + x / 32]?.map fun word =>
      if word &&& Format.bit x = 0 then 0 else 0xFF000000

def putWord? (index : Nat) (change : UInt32 → UInt32) : Option Surface :=
  if index < s.words.size then some { s with words := s.words.modify index change } else none

def putByte? (index : Nat) (byte : UInt8) : Option Surface :=
  if index < s.bytes.length then some { s with words := (wordsOf (s.bytes.set index byte)).toArray }
  else none

def put? (pixel : Pixel) : Option Surface :=
  let x := p.x.toNatClampNeg
  match s.format with
  | .argb32 => s.putWord? (s.rowStart p / 4 + x) fun _ => pixel
  | .rgb24 => s.putWord? (s.rowStart p / 4 + x) fun _ => pixel &&& 0x00FFFFFF
  | .a8 => s.putByte? (s.rowStart p + x) pixel.alpha.toUInt8
  | .a1 => s.putWord? (s.rowStart p / 4 + x / 32) fun word =>
      if 0x80 ≤ pixel.alpha then word ||| Format.bit x else word &&& ~~~Format.bit x

theorem bytes_length : s.bytes.length = 4 * s.words.size := by
  have each (words : List UInt32) : (words.flatMap wordBytes).length = 4 * words.length := by
    induction words with
    | nil => rfl
    | cons word rest ih =>
        rw [List.flatMap_cons, List.length_append, ih, wordBytes_eq]
        simp only [List.length_cons, List.length_nil]
        omega
  exact each s.words.toList

/-- The word of a cell, and the byte of a cell of eight bits, counted from the start of its row. -/
theorem wordIndex_eq :
    s.wordIndex p = s.rowStart p / 4 + p.x.toNatClampNeg / s.format.cellsPerWord := by
  rw [wordIndex, rowStart, stride, Format.stride, Nat.mul_left_comm,
    Nat.mul_div_cancel_left _ (by decide)]

theorem byteIndex_eq (eight : s.format = .a8) :
    s.rowStart p + p.x.toNatClampNeg = 4 * s.wordIndex p + p.x.toNatClampNeg % 4 := by
  have four : s.format.cellsPerWord = 4 := by rw [eight]; rfl
  rw [wordIndex, rowStart, stride, Format.stride, Nat.mul_left_comm, four]
  omega

variable {s p} (stored : s.Stored) (inside : p ∈ s.bounds)

include stored inside

theorem fetch?_eq : s.fetch? p = s.pixel? p := by
  have held := wordIndex_lt stored inside
  have there : s.words[s.wordIndex p]? = some (s.words.getD (s.wordIndex p) 0) := by
    rw [Array.getElem?_eq_getElem held, Array.getElem_eq_getD]
  have place := s.wordIndex_eq p
  rw [pixel?, if_pos inside, fetch?]
  cases format : s.format with
  | argb32 =>
      rw [format, Format.cellsPerWord, Nat.div_one] at place
      dsimp only
      rw [← place, there, Format.load, Format.cell_whole rfl, Format.decode]
  | rgb24 =>
      rw [format, Format.cellsPerWord, Nat.div_one] at place
      dsimp only
      rw [← place, there, Format.load, Format.cell_whole rfl, Format.decode, Option.map_some]
  | a8 =>
      have column : p.x.toNatClampNeg % 4 < 4 := Nat.mod_lt _ (by decide)
      dsimp only
      rw [byteIndex_eq s p format, bytes, bytes_getElem? _ _ column, Array.getElem?_toList, there,
        Option.map_some, Option.map_some, toUInt32_byteOf]
      rfl
  | a1 =>
      rw [format, Format.cellsPerWord] at place
      dsimp only
      rw [← place, there, Option.map_some, Format.load_a1]

theorem putWord?_eq {change : UInt32 → UInt32} {pixel : Pixel}
    (stores : ∀ word, s.format.store p.x.toNatClampNeg pixel word = change word) :
    s.putWord? (s.wordIndex p) change = some (s.setPixel p pixel) := by
  rw [putWord?, if_pos (wordIndex_lt stored inside), setPixel, if_pos inside, ← funext stores]

theorem put?_eq (pixel : Pixel) : s.put? p pixel = some (s.setPixel p pixel) := by
  have place := s.wordIndex_eq p
  rw [put?]
  cases format : s.format with
  | argb32 =>
      rw [format, Format.cellsPerWord, Nat.div_one] at place
      dsimp only
      rw [← place]
      apply putWord?_eq stored inside
      rw [format]
      exact Format.store_whole .argb32 rfl _ pixel
  | rgb24 =>
      rw [format, Format.cellsPerWord, Nat.div_one] at place
      dsimp only
      rw [← place]
      apply putWord?_eq stored inside
      rw [format]
      exact Format.store_whole .rgb24 rfl _ pixel
  | a8 =>
      have held := wordIndex_lt stored inside
      have column : p.x.toNatClampNeg % 4 < 4 := Nat.mod_lt _ (by decide)
      have long : 4 * s.wordIndex p + p.x.toNatClampNeg % 4 < s.bytes.length := by
        rw [bytes_length]
        omega
      dsimp only
      rw [byteIndex_eq s p format, putByte?, if_pos long, bytes,
        ← bytes_modify column (wordBytes_store _ pixel), wordsOf_bytes, ← Array.toList_modify,
        setPixel, if_pos inside, format]
  | a1 =>
      rw [format, Format.cellsPerWord] at place
      dsimp only
      rw [← place]
      apply putWord?_eq stored inside
      rw [format]
      exact Format.store_a1 _ pixel

end Access

inductive Request
  | setPixel (p : Point) (pixel : Pixel)
  | clear (color : Color)
  | resize (width height : Int32)
  | reserve (width height : Int32)
  | shrink

def answer (s : Surface) : Request → Surface
  | .setPixel p pixel => s.setPixel p pixel
  | .clear color => s.clear color
  | .resize width height => s.resize width height
  | .reserve width height => s.reserve width height
  | .shrink => s.shrink

def answerAll (s : Surface) (requests : List Request) : Surface := requests.foldl answer s

structure Formed (s : Surface) : Prop where
  stored : s.Stored
  wide : 0 ≤ s.width.toInt
  high : 0 ≤ s.height.toInt

section Formed

variable {s t : Surface}

theorem Alike.formed (alike : s.Alike t) (formed : t.Formed) : s.Formed :=
  ⟨alike.stored formed.stored, alike.width ▸ formed.wide, alike.height ▸ formed.high⟩

theorem toInt_max_zero (a : Int32) : 0 ≤ (max a 0).toInt := by
  rw [toInt_max, toInt_zero]
  omega

theorem blank_formed (format : Format) (width height : Int32) :
    (blank format width height).Formed :=
  ⟨blank_stored format width height, toInt_max_zero width, toInt_max_zero height⟩

theorem resize_frame (s : Surface) (width height : Int32) :
    (s.resize width height).format = s.format ∧
      (s.resize width height).size = ⟨max width 0, max height 0⟩ := by
  rw [resize_eq]
  split
  · rename_i same
    rw [size, same.1, same.2]
    exact ⟨rfl, rfl⟩
  · have alike := paintAll_alike (fun _ _ => 0) (s.moved width height) (s.uncovered width height)
    rw [size, alike.format, alike.width, alike.height]
    exact ⟨rfl, rfl⟩

theorem resize_formed (formed : s.Formed) (width height : Int32) :
    (s.resize width height).Formed := by
  have size := (s.resize_frame width height).2
  have wide : (s.resize width height).width = max width 0 := congrArg Size.width size
  have high : (s.resize width height).height = max height 0 := congrArg Size.height size
  refine ⟨resize_stored formed.stored width height, ?_, ?_⟩
  · rw [wide]
    exact toInt_max_zero width
  · rw [high]
    exact toInt_max_zero height

theorem answer_formed (formed : s.Formed) (request : Request) :
    (s.answer request).format = s.format ∧ (s.answer request).Formed := by
  cases request with
  | setPixel p pixel =>
      have alike := s.setPixel_alike p pixel
      exact ⟨alike.format, alike.formed formed⟩
  | clear color =>
      have alike := paint_alike (fun _ _ => color.toPixel) s s.bounds
      exact ⟨alike.format, alike.formed formed⟩
  | resize width height =>
      exact ⟨(s.resize_frame width height).1, resize_formed formed width height⟩
  | reserve width height =>
      exact ⟨rfl, reserve_stored formed.stored width height, formed.wide, formed.high⟩
  | shrink => exact ⟨rfl, shrink_stored formed.stored, formed.wide, formed.high⟩

theorem answerAll_formed (formed : s.Formed) (requests : List Request) :
    (s.answerAll requests).format = s.format ∧ (s.answerAll requests).Formed := by
  induction requests generalizing s with
  | nil => exact ⟨rfl, formed⟩
  | cons request rest ih =>
      rcases answer_formed formed request with ⟨format, formed⟩
      rcases ih formed with ⟨same, formed⟩
      exact ⟨same.trans format, formed⟩

end Formed

/-- The surface is an array of pixels: each place in it can be looked up and written in the storage,
what is written is read again as far as the format keeps it, and all other places stay. -/
structure IsArray (s : Surface) : Prop where
  wide : 0 ≤ s.width.toInt
  high : 0 ≤ s.height.toInt
  stride : s.stride = match s.format with
    | .argb32 | .rgb24 => s.width.toNatClampNeg * 4
    | .a8 => (s.width.toNatClampNeg + 3) / 4 * 4
    | .a1 => (s.width.toNatClampNeg + 31) / 32 * 4
  length : s.words.size = s.stride / 4 * s.height.toNatClampNeg
  bounds : ∀ p, p ∈ s.bounds ↔
    0 ≤ p.x.toInt ∧ p.x.toInt < s.width.toInt ∧ 0 ≤ p.y.toInt ∧ p.y.toInt < s.height.toInt
  read : ∀ p ∈ s.bounds, ∃ pixel, s.fetch? p = some pixel ∧ s.pixel? p = some pixel
  write : ∀ p ∈ s.bounds, ∀ pixel, s.put? p pixel = some (s.setPixel p pixel)
  same : ∀ p ∈ s.bounds, ∀ pixel, (s.setPixel p pixel).pixel? p = some (s.format.kept pixel)
  others : ∀ p q pixel, q ≠ p → (s.setPixel p pixel).pixel? q = s.pixel? q
  outside : ∀ p, p ∉ s.bounds → s.pixel? p = none ∧ ∀ pixel, s.setPixel p pixel = s

theorem stride_eq (s : Surface) : s.stride = match s.format with
    | .argb32 | .rgb24 => s.width.toNatClampNeg * 4
    | .a8 => (s.width.toNatClampNeg + 3) / 4 * 4
    | .a1 => (s.width.toNatClampNeg + 31) / 32 * 4 := by
  rw [stride, Format.stride, Nat.mul_comm, Format.wordsPerRow]
  cases s.format with
  | argb32 => exact congrArg (· * 4) (Nat.div_one _)
  | rgb24 => exact congrArg (· * 4) (Nat.div_one _)
  | a8 => rfl
  | a1 => rfl

theorem Formed.isArray {s : Surface} (formed : s.Formed) : s.IsArray where
  wide := formed.wide
  high := formed.high
  stride := s.stride_eq
  length := by
    rw [formed.stored, wordsFor, Surface.stride, Format.stride,
      Nat.mul_div_cancel_left _ (by decide)]
  bounds p := mem_bounds
  read p inside := by
    have found := pixel?_of_mem inside
    exact ⟨_, (fetch?_eq formed.stored inside).trans found, found⟩
  write p inside := put?_eq formed.stored inside
  same p inside pixel := by
    rw [pixel?_setPixel_self inside, landing_of_stored formed.stored inside, Format.readBack_eq]
  others p q pixel apart := pixel?_setPixel_other pixel apart
  outside p outside := ⟨pixel?_of_not_mem outside, fun pixel => if_neg outside⟩

/-- Whatever has been asked of a surface, it is an array of pixels in the format that it was made
in. -/
theorem array_always (format : Format) (width height : Int32) (requests : List Request) :
    let s := (blank format width height).answerAll requests
    s.format = format ∧ s.IsArray := by
  rcases answerAll_formed (blank_formed format width height) requests with ⟨same, formed⟩
  exact ⟨same, formed.isArray⟩

end Surface

end Compositing
