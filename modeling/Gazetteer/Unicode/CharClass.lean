import Gazetteer.Unicode.Property

/-! The classes of characters that text rules are written with.

ASCII characters are decided without a table: the tables agree on them, and most text asks
about nothing else. -/
namespace Gazetteer.Unicode

def isAscii (c : Char) : Bool := c.toNat < 128

def isAsciiWord (c : Char) : Bool :=
  c.isAlphanum || c == '_'

def isAsciiDigit (c : Char) : Bool := c.isDigit

/-- The blanks of ASCII: tab, line feed, vertical tab, form feed, carriage return, space. -/
def isAsciiSpace (c : Char) : Bool :=
  c == ' ' || (9 ≤ c.toNat && c.toNat ≤ 13)

/-- White space. -/
def isSpace (c : Char) : Bool :=
  if isAscii c then isAsciiSpace c else Property.listed Property.whiteSpaceCodes c

/-- Decimal digits of any script. -/
def isDigit (c : Char) : Bool :=
  if isAscii c then isAsciiDigit c else Category.decimalNumber.contains c

def isAlphabetic (c : Char) : Bool :=
  if isAscii c then c.isAlpha else Property.alphabetic c

/-- Letters and numbers of any script. -/
def isAlphanumeric (c : Char) : Bool :=
  isAlphabetic c || isDigit c || Category.anyContains Category.number c

/-- What words are made of: letters, marks, decimal digits, connecting punctuation and the
two joiners. -/
def isWord (c : Char) : Bool :=
  if isAscii c then isAsciiWord c
  else Property.alphabetic c || Category.anyContains Category.mark c ||
    Category.anyContains [.decimalNumber, .connectorPunctuation] c ||
    Property.listed Property.joinControlCodes c

/-- Characters with a visible form of their own, and the space. -/
def isPrintable (c : Char) : Bool :=
  if isAscii c then 32 ≤ c.toNat && c.toNat < 127
  else !Category.anyContains (Category.separator ++ Category.other) c

end Gazetteer.Unicode
