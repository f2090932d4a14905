import Mathlib.Data.Nat.Bitwise
import Compositing.Surface.Format

/-! Premultiplied pixels, channel by channel. A pixel in which no colour is above alpha can be put
over any other without a channel going beyond 255, and what comes of two such pixels is one. -/

namespace Compositing

namespace Pixel

def offsets : List UInt32 := [0, 8, 16, 24]

theorem toNat_alpha (p : Pixel) : p.alpha.toNat = p.toNat / 16777216 := by
  rw [alpha, UInt32.toNat_shiftRight, Nat.shiftRight_eq_div_pow]
  rfl

theorem toNat_channel (p : Pixel) (offset : UInt32) :
    (p.channel offset).toNat = p.toNat / 2 ^ (offset.toNat % 32) % 256 := by
  have mask : (0xFF : UInt32).toNat = 2 ^ 8 - 1 := rfl
  rw [channel, UInt32.toNat_and, UInt32.toNat_shiftRight, Nat.shiftRight_eq_div_pow, mask,
    Nat.and_two_pow_sub_one_eq_mod]

theorem channel_le (p : Pixel) (offset : UInt32) : (p.channel offset).toNat ≤ 255 := by
  rw [toNat_channel]
  omega

theorem channel_alpha (p : Pixel) : p.channel 24 = p.alpha := by
  have word := p.toNat_lt
  have shift : (24 : UInt32).toNat % 32 = 24 := rfl
  rw [← UInt32.toNat_inj, toNat_channel, toNat_alpha, shift]
  omega

theorem alpha_le (p : Pixel) : p.alpha.toNat ≤ 255 := by
  rw [← channel_alpha]
  exact p.channel_le 24

/-- No colour channel is above alpha. -/
def Valid (p : Pixel) : Prop :=
  p.channel 16 ≤ p.alpha ∧ p.channel 8 ≤ p.alpha ∧ p.channel 0 ≤ p.alpha

instance (p : Pixel) : Decidable p.Valid :=
  inferInstanceAs (Decidable (_ ∧ _ ∧ _))

theorem valid_iff {p : Pixel} :
    p.Valid ↔ ∀ offset ∈ offsets, (p.channel offset).toNat ≤ p.alpha.toNat := by
  have top := p.channel_alpha
  simp only [Valid, offsets, List.forall_mem_cons, UInt32.le_iff_toNat_le, top, le_refl,
    List.not_mem_nil, false_imp_iff, implies_true, and_true]
  tauto

def Opaque (p : Pixel) : Prop := p.alpha = 0xFF

instance (p : Pixel) : Decidable p.Opaque := inferInstanceAs (Decidable (_ = _))

section Bytes

theorem toNat_shifted_or {high low bits : UInt32} (small : bits.toNat ≤ 24)
    (byte : high.toNat ≤ 255) (below : low.toNat < 2 ^ bits.toNat) :
    ((high <<< bits) ||| low).toNat = high.toNat * 2 ^ bits.toNat + low.toNat := by
  have fits : high.toNat <<< bits.toNat < 2 ^ 32 := calc
    high.toNat <<< bits.toNat = high.toNat * 2 ^ bits.toNat := Nat.shiftLeft_eq ..
    _ ≤ 255 * 2 ^ 24 := Nat.mul_le_mul byte (Nat.pow_le_pow_right (by decide) small)
    _ < 2 ^ 32 := by decide
  have offset : bits.toNat % 32 = bits.toNat := Nat.mod_eq_of_lt (by omega)
  rw [UInt32.toNat_or, UInt32.toNat_shiftLeft, offset, Nat.mod_eq_of_lt fits,
    ← Nat.shiftLeft_add_eq_or_of_lt below, Nat.shiftLeft_eq]

variable {alpha red green blue : UInt32} (first : alpha.toNat ≤ 255) (second : red.toNat ≤ 255)
  (third : green.toNat ≤ 255) (fourth : blue.toNat ≤ 255)

include first second third fourth

theorem toNat_ofChannels :
    (ofChannels alpha red green blue).toNat =
      alpha.toNat * 16777216 + red.toNat * 65536 + green.toNat * 256 + blue.toNat := by
  have size8 : (8 : UInt32).toNat = 8 := rfl
  have size16 : (16 : UInt32).toNat = 16 := rfl
  have size24 : (24 : UInt32).toNat = 24 := rfl
  have two : ((green <<< 8) ||| blue).toNat = green.toNat * 256 + blue.toNat :=
    toNat_shifted_or (by decide) third (by rw [size8]; omega)
  have three : ((red <<< 16) ||| ((green <<< 8) ||| blue)).toNat =
      red.toNat * 65536 + (green.toNat * 256 + blue.toNat) := by
    rw [toNat_shifted_or (by decide) second (by rw [size16]; omega), two]
    rfl
  rw [ofChannels, UInt32.or_assoc, UInt32.or_assoc,
    toNat_shifted_or (by decide) first (by rw [size24]; omega), three, size24]
  omega

theorem channel_ofChannels :
    ((ofChannels alpha red green blue).channel 24).toNat = alpha.toNat ∧
      ((ofChannels alpha red green blue).channel 16).toNat = red.toNat ∧
      ((ofChannels alpha red green blue).channel 8).toNat = green.toNat ∧
      ((ofChannels alpha red green blue).channel 0).toNat = blue.toNat := by
  have size0 : (0 : UInt32).toNat % 32 = 0 := rfl
  have size8 : (8 : UInt32).toNat % 32 = 8 := rfl
  have size16 : (16 : UInt32).toNat % 32 = 16 := rfl
  have size24 : (24 : UInt32).toNat % 32 = 24 := rfl
  simp only [toNat_channel, toNat_ofChannels first second third fourth, size0, size8, size16,
    size24]
  omega

end Bytes

section Onto

def sum (source target : Pixel) (offset : UInt32) : Nat :=
  (source.channel offset).toNat +
    ((target.channel offset).toNat * (255 - source.alpha.toNat) + 127) / 255

def mixChannel (through source target : UInt32) : UInt32 :=
  source + (target * through + 127) / 255

section Mix

variable {through source target : UInt32} (some : through.toNat ≤ 255)
  (first : source.toNat ≤ 255) (second : target.toNat ≤ 255)

include some first second

theorem toNat_mixChannel :
    (mixChannel through source target).toNat =
      source.toNat + (target.toNat * through.toNat + 127) / 255 := by
  have product : target.toNat * through.toNat ≤ 255 * 255 := Nat.mul_le_mul second some
  have rounding : (127 : UInt32).toNat = 127 := rfl
  have steps : (255 : UInt32).toNat = 255 := rfl
  have quotient : ((target * through + 127) / 255).toNat =
      (target.toNat * through.toNat + 127) / 255 := by
    rw [UInt32.toNat_div, UInt32.toNat_add, UInt32.toNat_mul, rounding, steps,
      Nat.mod_eq_of_lt (a := target.toNat * through.toNat) (by omega), Nat.mod_eq_of_lt (by omega)]
  rw [mixChannel, UInt32.toNat_add, quotient, Nat.mod_eq_of_lt (by omega)]

theorem toNat_blendChannel :
    (blendChannel through source target).toNat =
      min (source.toNat + (target.toNat * through.toNat + 127) / 255) 255 := by
  have mix := toNat_mixChannel some first second
  have steps : (255 : UInt32).toNat = 255 := rfl
  change (if mixChannel through source target ≤ 255 then mixChannel through source target
    else 255).toNat = _
  split
  · rename_i low
    rw [UInt32.le_iff_toNat_le, mix, steps] at low
    omega
  · rename_i high
    rw [UInt32.le_iff_toNat_le, mix, steps] at high
    omega

end Mix

variable (source target : Pixel)

theorem toNat_through : (255 - source.alpha).toNat = 255 - source.alpha.toNat :=
  UInt32.toNat_sub_of_le _ _ (UInt32.le_iff_toNat_le.mpr source.alpha_le)

/-- Each channel of one pixel over another is its sum, held at 255. -/
theorem channel_onto {offset : UInt32} (byte : offset ∈ offsets) :
    ((source.onto target).channel offset).toNat = min (source.sum target offset) 255 := by
  have through := source.toNat_through
  have mixed (offset : UInt32) :
      (blendChannel (255 - source.alpha) (source.channel offset)
        (target.channel offset)).toNat = min (source.sum target offset) 255 := by
    rw [toNat_blendChannel (by omega) (source.channel_le offset) (target.channel_le offset),
      through, sum]
  have small (offset : UInt32) :
      (blendChannel (255 - source.alpha) (source.channel offset)
        (target.channel offset)).toNat ≤ 255 := by
    rw [mixed]
    exact Nat.min_le_right ..
  rw [onto]
  split
  · rename_i none
    -- An opaque pixel lets nothing through, and is its own sum.
    have whole : 255 - source.alpha.toNat = 0 := by rw [← through, none]; rfl
    have bound := source.channel_le offset
    rw [sum, whole]
    omega
  · have channels := channel_ofChannels (small 24) (small 16) (small 8) (small 0)
    simp only [offsets, List.mem_cons, List.not_mem_nil, or_false] at byte
    rcases byte with rfl | rfl | rfl | rfl
    · rw [channels.2.2.2, mixed]
    · rw [channels.2.2.1, mixed]
    · rw [channels.2.1, mixed]
    · rw [channels.1, mixed]

variable {source target} {offset : UInt32}

/-- What a pixel lets through of another fills it up to 255 at most, rounded as it is. -/
theorem sum_le (valid : source.Valid) (byte : offset ∈ offsets) :
    source.sum target offset ≤ 255 := by
  have below := valid_iff.mp valid offset byte
  have bound := source.alpha_le
  have rest : (target.channel offset).toNat * (255 - source.alpha.toNat) ≤
      255 * (255 - source.alpha.toNat) := Nat.mul_le_mul_right _ (target.channel_le offset)
  rw [sum]
  omega

theorem mixChannel_le (valid : source.Valid) (byte : offset ∈ offsets) :
    mixChannel (255 - source.alpha) (source.channel offset) (target.channel offset) ≤ 255 := by
  have through := source.toNat_through
  rw [UInt32.le_iff_toNat_le,
    toNat_mixChannel (by omega) (source.channel_le offset) (target.channel_le offset), through]
  exact sum_le valid byte

theorem channel_onto_of_valid (valid : source.Valid) (byte : offset ∈ offsets) :
    ((source.onto target).channel offset).toNat = source.sum target offset := by
  rw [channel_onto source target byte, Nat.min_eq_left (sum_le valid byte)]

theorem Valid.onto (valid : source.Valid) (below : target.Valid) : (source.onto target).Valid := by
  rw [valid_iff]
  intro offset byte
  have alpha : 24 ∈ offsets := by decide
  have first := valid_iff.mp valid offset byte
  have second : (target.channel offset).toNat * (255 - source.alpha.toNat) ≤
      target.alpha.toNat * (255 - source.alpha.toNat) :=
    Nat.mul_le_mul_right _ (valid_iff.mp below offset byte)
  rw [← channel_alpha, channel_onto_of_valid valid byte, channel_onto_of_valid valid alpha, sum, sum,
    channel_alpha, channel_alpha]
  omega

theorem Opaque.onto (source : Pixel) (below : target.Opaque) : (source.onto target).Opaque := by
  have alpha : 24 ∈ offsets := by decide
  have bound := source.alpha_le
  have full : target.alpha.toNat = 255 := congrArg UInt32.toNat below
  rw [Opaque, ← UInt32.toNat_inj, ← channel_alpha, channel_onto source target alpha, sum,
    channel_alpha, channel_alpha, full]
  change _ = 255
  omega

end Onto

/-- When all four channels are the same number, even one that does not fit them, the bits of a
colour are among those of alpha. -/
theorem valid_of_same (level : UInt32) : (ofChannels level level level level).Valid := by
  have among {colour alpha : UInt32} (all : colour ||| alpha = alpha) : colour ≤ alpha := by
    rw [← all, UInt32.le_iff_toNat_le, UInt32.toNat_or]
    exact Nat.left_le_or
  have byte : ∀ bit (inside : bit < 32), (255#32)[bit] = decide (bit < 8) := by decide
  refine ⟨among ?_, among ?_, among ?_⟩
  all_goals
    rw [← UInt32.toBitVec_inj]
    ext bit inside
    simp [channel, alpha, ofChannels, byte]
    grind

end Pixel

theorem Operator.valid_blend (operator : Operator) {source target : Pixel} (valid : source.Valid)
    (below : target.Valid) : (operator.blend source target).Valid := by
  cases operator with
  | sourceOver => exact valid.onto below
  | sourceOnly => exact valid

theorem Pixel.Opaque.valid {p : Pixel} (full : p.Opaque) : p.Valid := by
  rw [valid_iff, full]
  exact fun offset _ => p.channel_le offset

namespace Format

theorem opaque_rgb24 (cell : UInt32) : (rgb24.decode cell).Opaque := by
  have set : 255 ≤ cell.toNat / 16777216 ||| 255 := Nat.right_le_or
  have small : cell.toNat / 16777216 ||| 255 < 2 ^ 8 := by
    have word := cell.toNat_lt
    exact Nat.or_lt_two_pow (by omega) (by decide)
  have alpha : (rgb24.decode cell).alpha.toNat = cell.toNat / 16777216 ||| 255 := by
    rw [decode, Pixel.alpha, UInt32.shiftRight_or, UInt32.toNat_or]
    exact congrArg (· ||| 255) (Pixel.toNat_alpha cell)
  rw [Pixel.Opaque, ← UInt32.toNat_inj, alpha]
  change _ = 255
  omega

theorem valid_a8 (cell : UInt32) : (a8.decode cell).Valid := by
  have size24 : (24 : UInt32).toNat % 32 = 24 := rfl
  have size16 : (16 : UInt32).toNat % 32 = 16 := rfl
  have size8 : (8 : UInt32).toNat % 32 = 8 := rfl
  have size0 : (0 : UInt32).toNat % 32 = 0 := rfl
  rw [decode, Pixel.Valid]
  simp only [UInt32.le_iff_toNat_le, Pixel.toNat_channel, UInt32.toNat_shiftLeft,
    Nat.shiftLeft_eq, size24, size16, size8, size0]
  omega

variable (format : Format) {p : Pixel}

/-- Only a format that stores colours can hold a pixel in which one is above alpha. -/
theorem valid_decode (cell : UInt32) (colours : format = .argb32 → Pixel.Valid cell) :
    (format.decode cell).Valid := by
  cases format with
  | argb32 => exact colours rfl
  | rgb24 => exact (opaque_rgb24 cell).valid
  | a8 => exact valid_a8 cell
  | a1 =>
      rw [decode]
      split <;> decide

theorem valid_readBack (valid : p.Valid) : (format.readBack p).Valid :=
  format.valid_decode _ fun stores => by rwa [stores]

theorem opaque_readBack (full : p.Opaque) : (format.readBack p).Opaque := by
  cases format with
  | argb32 => exact full
  | rgb24 => exact opaque_rgb24 _
  | a8 =>
      rw [readBack, encode, full]
      decide
  | a1 =>
      rw [readBack, encode, full]
      decide

end Format

end Compositing
