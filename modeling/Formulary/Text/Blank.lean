/-!
# White space

The characters with the Unicode property White_Space, and the text without those at its ends.
-/

namespace Formulary.Text

/-- Closed ranges of the code points that are white space. -/
def blankRanges : List (Nat × Nat) :=
  [(0x09, 0x0D), (0x20, 0x20), (0x85, 0x85), (0xA0, 0xA0), (0x1680, 0x1680), (0x2000, 0x200A),
   (0x2028, 0x2029), (0x202F, 0x202F), (0x205F, 0x205F), (0x3000, 0x3000)]

/-- Whether a code point lies in one of the ranges. -/
def inRanges (ranges : List (Nat × Nat)) (n : Nat) : Bool :=
  ranges.any fun range => range.1 ≤ n && n ≤ range.2

/-- Whether a character is white space. -/
def isBlank (c : Char) : Bool := inRanges blankRanges c.toNat

/-- The text from its first character that is not white space. -/
def trimStart (text : List Char) : List Char := text.dropWhile isBlank

/-- The text up to its last character that is not white space. -/
def trimEnd (text : List Char) : List Char := (text.reverse.dropWhile isBlank).reverse

/-- The text without white space at its ends. -/
def trim (text : List Char) : List Char := trimEnd (trimStart text)

/-- Whether a text holds nothing but white space. -/
def isAllBlank (text : List Char) : Bool := text.all isBlank

/-! ### Byte lengths -/

/-- The number of bytes a text takes in UTF-8. -/
def byteLength : List Char → Nat
  | [] => 0
  | c :: text => c.utf8Size + byteLength text

@[simp] theorem byteLength_nil : byteLength [] = 0 := rfl

@[simp] theorem byteLength_cons (c : Char) (text : List Char) :
    byteLength (c :: text) = c.utf8Size + byteLength text := rfl

end Formulary.Text
