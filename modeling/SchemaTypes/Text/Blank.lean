/-!
# White space

The blanks of every script: the separators of lines and words together with the controls that
stand for them. Trimming removes blanks from the ends of a text and never from its middle.
-/

namespace SchemaTypes.Text

/-- The blanks above the plain space. -/
def wideBlanks : List Nat :=
  [0x85, 0xA0, 0x1680, 0x2000, 0x2001, 0x2002, 0x2003, 0x2004, 0x2005, 0x2006, 0x2007, 0x2008,
   0x2009, 0x200A, 0x2028, 0x2029, 0x202F, 0x205F, 0x3000]

/-- White space: tab to carriage return, the four information separators, the plain space and
the wide blanks. -/
def isBlank (c : Char) : Bool :=
  (0x09 ≤ c.toNat && c.toNat ≤ 0x0D) || (0x1C ≤ c.toNat && c.toNat ≤ 0x20)
    || wideBlanks.contains c.toNat

/-- Removes the characters in a class from both ends of a list. -/
def trimEnds (drop : Char → Bool) (text : List Char) : List Char :=
  ((text.dropWhile drop).reverse.dropWhile drop).reverse

/-- Removes blanks from both ends. -/
def strip (text : List Char) : List Char := trimEnds isBlank text

/-- Removes blanks from the right end. -/
def stripRight (text : List Char) : List Char := (text.reverse.dropWhile isBlank).reverse

end SchemaTypes.Text
