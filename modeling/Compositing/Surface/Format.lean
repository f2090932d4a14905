import Compositing.Pixel

/-!
Device pixel formats. Every format packs whole cells of equal width into 32-bit words, first
pixel lowest, and starts each row on a word.
-/

namespace Compositing

inductive Format
  | argb32
  | rgb24
  | a8
  | a1
  deriving DecidableEq, Repr, Inhabited

namespace Format

def depth : Format → Nat
  | argb32 => 32
  | rgb24 => 24
  | a8 => 8
  | a1 => 1

def ofCode? (code : Nat) : Option Format := [argb32, rgb24, a8, a1][code]?

/-- An unknown code counts as the deepest format. -/
def depthOfCode (code : Nat) : Nat := ((ofCode? code).getD argb32).depth

def name : Format → String
  | argb32 => "Argb32"
  | rgb24 => "Rgb24"
  | a8 => "A8"
  | a1 => "A1"

def ofName? (name : String) : Option Format :=
  [argb32, rgb24, a8, a1].find? fun format => format.name = name

def cellsPerWord : Format → Nat
  | argb32 | rgb24 => 1
  | a8 => 4
  | a1 => 32

def cellMask : Format → UInt32
  | argb32 | rgb24 => 0xFFFFFFFF
  | a8 => 0xFF
  | a1 => 1

def wordsPerRow (format : Format) (width : Int32) : Nat :=
  (width.toNatClampNeg + format.cellsPerWord - 1) / format.cellsPerWord

def stride (format : Format) (width : Int32) : Nat := 4 * format.wordsPerRow width

def encode : Format → Pixel → UInt32
  | argb32, p => p
  | rgb24, p => p &&& 0x00FFFFFF
  | a8, p => p.alpha
  | a1, p => if p.alpha < 0x80 then 0 else 1

def decode : Format → UInt32 → Pixel
  | argb32, cell => cell
  | rgb24, cell => cell ||| 0xFF000000
  | a8, cell => cell <<< 24
  | a1, cell => if cell = 0 then 0 else 0xFF000000

/-- What a pixel reads as after it has been stored. -/
def readBack (format : Format) (p : Pixel) : Pixel := format.decode (format.encode p)

/-- How far up its word the cell of column `x` lies. -/
def cellOffset (format : Format) (x : Nat) : UInt32 :=
  UInt32.ofNat (x % format.cellsPerWord * (32 / format.cellsPerWord))

def load (format : Format) (x : Nat) (word : UInt32) : Pixel :=
  format.decode ((word >>> format.cellOffset x) &&& format.cellMask)

def store (format : Format) (x : Nat) (p : Pixel) (word : UInt32) : UInt32 :=
  let offset := format.cellOffset x
  (word &&& ~~~(format.cellMask <<< offset)) ||| (format.encode p <<< offset)

end Format

end Compositing
