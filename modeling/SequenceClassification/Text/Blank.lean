import SequenceClassification.Text.Boundaries

/-!
Blank characters. Three sets are in use: the white-space property, the wider set by which words are
split (it adds the four information separators), and the separators of the general category.
-/
namespace SequenceClassification.Text

def whiteSpaceBounds : List Nat := [
  0x9, 0xE, 0x20, 0x21, 0x85, 0x86, 0xA0, 0xA1, 0x1680, 0x1681, 0x2000, 0x200B, 0x2028, 0x202A,
  0x202F, 0x2030, 0x205F, 0x2060, 0x3000, 0x3001]

def blankBounds : List Nat := [
  0x9, 0xE, 0x1C, 0x21, 0x85, 0x86, 0xA0, 0xA1, 0x1680, 0x1681, 0x2000, 0x200B, 0x2028, 0x202A,
  0x202F, 0x2030, 0x205F, 0x2060, 0x3000, 0x3001]

def separatorBounds : List Nat := [
  0x20, 0x21, 0xA0, 0xA1, 0x1680, 0x1681, 0x2000, 0x200B, 0x2028, 0x202A, 0x202F, 0x2030, 0x205F,
  0x2060, 0x3000, 0x3001]

def spaceSeparatorBounds : List Nat := [
  0x20, 0x21, 0xA0, 0xA1, 0x1680, 0x1681, 0x2000, 0x200B, 0x202F, 0x2030, 0x205F, 0x2060, 0x3000,
  0x3001]

def isWhiteSpace (c : Char) : Bool := insideBoundaries whiteSpaceBounds c.toNat

/-- The characters at which a text is split into words: white space and U+001C to U+001F. -/
def isBlank (c : Char) : Bool := insideBoundaries blankBounds c.toNat

def isSeparator (c : Char) : Bool := insideBoundaries separatorBounds c.toNat

def isSpaceSeparator (c : Char) : Bool := insideBoundaries spaceSeparatorBounds c.toNat

def words (s : List Char) : List (List Char) :=
  go s []
where
  /-- The words of `s`, the current one being held back in reverse. -/
  go : List Char → List Char → List (List Char)
    | [], word => if word.isEmpty then [] else [word.reverse]
    | c :: s, word =>
      if isBlank c then
        if word.isEmpty then go s [] else word.reverse :: go s []
      else go s (c :: word)

/-- What is left after the white space at the front. The information separators are no white space. -/
def skipWhiteSpace (s : List Char) : List Char := s.dropWhile isWhiteSpace

def trimLeft (s : List Char) : List Char := s.dropWhile isBlank

def trimRight (s : List Char) : List Char := (s.reverse.dropWhile isBlank).reverse

def trim (s : List Char) : List Char := trimRight (trimLeft s)

end SequenceClassification.Text
