import Gazetteer.Unicode.Property
import Gazetteer.Unicode.Script

/-! Where a text breaks into graphemes, words and sentences.

Three properties sort characters by the part they play at such a boundary. Each is given by
its values, and a character has at most one value of each. The values are derived from
categories, scripts and binary properties; a table holds what no derivation gives. -/
namespace Gazetteer.Unicode

open Property (listed)

/-- The characters with the given code points. -/
def oneOf (codes : List Nat) (c : Char) : Bool := codes.contains c.toNat

/-! ### Graphemes -/

namespace GraphemeBreak

def otherPrependCodes : CodeSet := .ofLines [
  "D4E 111C2-111C3 113D1 1193F 11941 11A3A 11A84-11A89 11D46 11F02"]

/-- Spacing marks that stand apart from the letter before them. -/
def separateMarkCodes : CodeSet := .ofLines [
  "102B-102C 1038 1062-1064 1067-106D 1083 1087-108C 108F 109A-109C 1A61 1A63-1A64 AA7B AA7D",
  "11720-11721"]

def leadingJamoCodes : CodeSet := .ofLines ["1100-115F A960-A97C"]

def vowelJamoCodes : CodeSet := .ofLines ["1160-11A7 D7B0-D7C6 16D63 16D67-16D6A"]

def trailingJamoCodes : CodeSet := .ofLines ["11A8-11FF D7CB-D7FB"]

def syllableCodes : CodeSet := .ofLines ["AC00-D7A3"]

/-- The syllables that end in their vowel. Behind each stand those that end in a consonant. -/
def openSyllableCodes : CodeSet := .ofLines ["AC00-D788/1C"]

def extend (c : Char) : Bool :=
  Property.graphemeExtend c || listed Property.emojiModifierCodes c

def prepend (c : Char) : Bool :=
  listed Property.prependedConcatenationMarkCodes c || listed otherPrependCodes c

def control (c : Char) : Bool :=
  (Category.anyContains [.control, .format, .lineSeparator, .paragraphSeparator] c ||
    (Category.unassigned.contains c && Property.defaultIgnorable c)) &&
      !extend c && !prepend c && !oneOf [0xA, 0xD, 0x200D] c

def spacingMark (c : Char) : Bool :=
  (Category.spacingMark.contains c || oneOf [0xE33, 0xEB3] c) &&
    !extend c && !listed separateMarkCodes c

/-- The values with the spellings of their names, lower case and without separators. -/
def values : List (List String × (Char → Bool)) := [
  (["control", "cn"], control),
  (["cr"], oneOf [0xD]),
  (["extend", "ex"], extend),
  (["l"], listed leadingJamoCodes),
  (["lf"], oneOf [0xA]),
  (["lv"], listed openSyllableCodes),
  (["lvt"], fun c => listed syllableCodes c && !listed openSyllableCodes c),
  (["prepend", "pp"], prepend),
  (["regionalindicator", "ri"], listed Property.regionalIndicatorCodes),
  (["spacingmark", "sm"], spacingMark),
  (["t"], listed trailingJamoCodes),
  (["v"], listed vowelJamoCodes),
  (["zwj"], oneOf [0x200D])]

end GraphemeBreak

/-! ### Words -/

namespace WordBreak

/-- Characters that count as letters of a word without being alphabetic. -/
def otherLetterCodes : CodeSet := .ofLines [
  "2C2-2C5 2D2-2D7 2DE-2DF 2E5-2EB 2ED 2EF-2FF 55A-55C 55E 58A 5F3 70F A708-A716 A720-A721",
  "A789-A78A AB5B"]

/-- Characters of the scripts that are written without a blank between words. -/
def unspacedCodes : CodeSet := .ofLines [
  "E01-E3A E40-E4E E81-EDF 1000-103F 1050-108F 109A-109F 1780-17D3 17D7 17DC-17DD 1950-1974",
  "1980-19C9 19DE-19DF 1A20-1A7C 1AA0-1AAD A9E0-A9EF A9FA-A9FE AA60-AADF 11700-1171A 1171D-1172B",
  "1173A-1173B 1173F-11746"]

def otherKatakanaCodes : CodeSet := .ofLines ["3031-3035 309B-309C 30A0 30FC FF70"]

def midLetterCodes : CodeSet := .ofLines ["3A B7 387 55F 5F4 2027 FE13 FE55 FF1A"]

def midNumberCodes : CodeSet := .ofLines [
  "2C 3B 37E 589 60C-60D 66C 7F8 2044 FE10 FE14 FE50 FE54 FF0C FF1B"]

def midNumberOrLetterCodes : CodeSet := .ofLines ["2E 2018-2019 2024 FE52 FF07 FF0E"]

def katakana (c : Char) : Bool :=
  Script.katakana.members.contains c.toNat || listed otherKatakanaCodes c

def hebrewLetter (c : Char) : Bool :=
  Script.hebrew.members.contains c.toNat && Category.otherLetter.contains c

def extend (c : Char) : Bool :=
  GraphemeBreak.extend c || Category.spacingMark.contains c

/-- The marks written around a number. The Syriac abbreviation mark stands with letters. -/
def numberMark (c : Char) : Bool :=
  listed Property.prependedConcatenationMarkCodes c && c.toNat != 0x70F

def numeric (c : Char) : Bool :=
  (Category.decimalNumber.contains c && c.toNat != 0x19DA) || c.toNat == 0x66B || numberMark c

def format (c : Char) : Bool :=
  Category.format.contains c && !extend c && !listed Property.prependedConcatenationMarkCodes c &&
    !oneOf [0x200B, 0x200D] c

def letter (c : Char) : Bool :=
  ((Property.alphabetic c && !listed Property.ideographicCodes c) || listed otherLetterCodes c) &&
    !katakana c && !hebrewLetter c && !extend c && !listed unspacedCodes c &&
      !Script.hiragana.members.contains c.toNat

def extendNumberOrLetter (c : Char) : Bool :=
  Category.connectorPunctuation.contains c || c.toNat == 0x202F

/-- Blanks that a line may break behind. -/
def space (c : Char) : Bool :=
  Category.spaceSeparator.contains c && !oneOf [0xA0, 0x2007, 0x202F] c

/-- The values with the spellings of their names, lower case and without separators. -/
def values : List (List String × (Char → Bool)) := [
  (["aletter", "le"], letter),
  (["cr"], oneOf [0xD]),
  (["doublequote", "dq"], oneOf [0x22]),
  (["extend"], extend),
  (["extendnumlet", "ex"], extendNumberOrLetter),
  (["format", "fo"], format),
  (["hebrewletter", "hl"], hebrewLetter),
  (["katakana", "ka"], katakana),
  (["lf"], oneOf [0xA]),
  (["midletter", "ml"], listed midLetterCodes),
  (["midnum", "mn"], listed midNumberCodes),
  (["midnumlet", "mb"], listed midNumberOrLetterCodes),
  (["newline", "nl"], oneOf [0xB, 0xC, 0x85, 0x2028, 0x2029]),
  (["numeric", "nu"], numeric),
  (["regionalindicator", "ri"], listed Property.regionalIndicatorCodes),
  (["singlequote", "sq"], oneOf [0x27]),
  (["wsegspace"], space),
  (["zwj"], oneOf [0x200D])]

end WordBreak

/-! ### Sentences -/

namespace SentenceBreak

def continueCodes : CodeSet := .ofLines [
  "2C-2D 3A-3B 37E 55D 60C-60D 7F8 1802 1808 2013-2014 3001 FE10-FE11 FE13-FE14 FE31-FE32",
  "FE50-FE51 FE54-FE55 FE58 FE63 FF0C-FF0D FF1A-FF1B FF64"]

/-- Quotation marks and brackets whose category does not say so. -/
def otherCloseCodes : CodeSet := .ofLines ["22 27 275B-2760 2E00-2E01 2E06-2E08 2E0B 1F676-1F678"]

/-- The Georgian letters, whose case does not mark the start of a sentence. -/
def georgianCodes : CodeSet := .ofLines ["10D0-10FA 10FD-10FF 1C90-1CBA 1CBD-1CBF"]

def extend (c : Char) : Bool :=
  Property.graphemeExtend c || Category.spacingMark.contains c || c.toNat == 0x200D

def separator (c : Char) : Bool := oneOf [0x85, 0x2028, 0x2029] c

def space (c : Char) : Bool :=
  listed Property.whiteSpaceCodes c && !separator c && !oneOf [0xA, 0xD] c

def format (c : Char) : Bool :=
  Category.format.contains c && !extend c && !WordBreak.numberMark c

def numeric (c : Char) : Bool := WordBreak.numeric c || c.toNat == 0x66C

def lower (c : Char) : Bool :=
  Property.lowercase c && !Property.graphemeExtend c && !listed georgianCodes c

def upper (c : Char) : Bool :=
  (Property.uppercase c || Category.titlecaseLetter.contains c) && !listed georgianCodes c

def letter (c : Char) : Bool :=
  (Property.alphabetic c || c.toNat == 0x5F3) && !lower c && !upper c && !extend c

/-- Full stops, which may stand inside a sentence. -/
def fullStop (c : Char) : Bool := oneOf [0x2E, 0x2024, 0xFE52, 0xFF0E] c

def terminal (c : Char) : Bool := listed Property.sentenceTerminalCodes c && !fullStop c

def close (c : Char) : Bool :=
  Category.anyContains [.openPunctuation, .closePunctuation, .initialPunctuation,
    .finalPunctuation] c || listed otherCloseCodes c

/-- The values with the spellings of their names, lower case and without separators. -/
def values : List (List String × (Char → Bool)) := [
  (["aterm", "at"], fullStop),
  (["close", "cl"], close),
  (["cr"], oneOf [0xD]),
  (["extend", "ex"], extend),
  (["format", "fo"], format),
  (["lf"], oneOf [0xA]),
  (["lower", "lo"], lower),
  (["numeric", "nu"], numeric),
  (["oletter", "le"], letter),
  (["scontinue", "sc"], listed continueCodes),
  (["sep", "se"], separator),
  (["sp"], space),
  (["sterm", "st"], terminal),
  (["upper", "up"], upper)]

end SentenceBreak
end Gazetteer.Unicode
