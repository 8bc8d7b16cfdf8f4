import TransientFuel.Text.Ranges

/-!
# Blanks

Fields of data files are taken without the blanks around them. For characters these are all that
Unicode counts as white space; for bytes only the five of ASCII, without the vertical tab.
-/

namespace TransientFuel.Text

/-- The characters with the Unicode property White_Space, as ranges of code points. -/
def blankRanges : List (Nat × Nat) :=
  [(0x09, 0x0D), (0x20, 0x20), (0x85, 0x85), (0xA0, 0xA0), (0x1680, 0x1680), (0x2000, 0x200A),
    (0x2028, 0x2029), (0x202F, 0x202F), (0x205F, 0x205F), (0x3000, 0x3000)]

/-- Whether a character is white space. -/
def isBlank (c : Char) : Bool :=
  inRanges blankRanges c

/-- Whether a byte is an ASCII blank. -/
def isBlankByte (byte : UInt8) : Bool :=
  byte == 0x09 || byte == 0x0A || byte == 0x0C || byte == 0x0D || byte == 0x20

/-- A list without the elements at both ends that satisfy a test. -/
def trimBoth {α : Type} (test : α → Bool) (list : List α) : List α :=
  ((list.dropWhile test).reverse.dropWhile test).reverse

/-- A text without the blanks at both ends. -/
def trim (text : String) : String :=
  String.ofList (trimBoth isBlank text.toList)

/-- Bytes without the ASCII blanks at both ends. -/
def trimBytes (bytes : List UInt8) : List UInt8 :=
  trimBoth isBlankByte bytes

end TransientFuel.Text
