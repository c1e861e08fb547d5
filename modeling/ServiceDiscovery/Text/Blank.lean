/-
This file holds the white space of Unicode and the two readings that depend on it: a text
with the white space at both ends taken off, and the first word of a text.
-/

namespace ServiceDiscovery.Text

/-- The characters with the property `White_Space`. -/
def isBlank (char : Char) : Bool :=
  let code := char.toNat
  (0x09 ≤ code && code ≤ 0x0D) || code == 0x20 || code == 0x85 || code == 0xA0 ||
    code == 0x1680 || (0x2000 ≤ code && code ≤ 0x200A) || code == 0x2028 || code == 0x2029 ||
    code == 0x202F || code == 0x205F || code == 0x3000

/-- A text without the white space at its ends. -/
def trim (text : List Char) : List Char :=
  ((text.dropWhile isBlank).reverse.dropWhile isBlank).reverse

/-- The characters up to the first white space, after any leading white space. -/
def firstWord (text : List Char) : List Char :=
  (text.dropWhile isBlank).takeWhile fun char => !isBlank char

end ServiceDiscovery.Text
