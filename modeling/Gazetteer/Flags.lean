import Gazetteer.Unicode.CharClass

/-! Matching flags of a group.

A configuration writes flags as names, letters, numbers or lists of these. The numbers are the
customary ones, so that a directive written for another tool keeps its meaning. -/
namespace Gazetteer

/-- The flags a group can ask for. -/
inductive FlagName
  | ignoreCase
  | multiLine
  | dotAll
  | unicode
  | verbose
  | ascii
  deriving Repr, DecidableEq

namespace FlagName

def all : List FlagName := [.ignoreCase, .multiLine, .dotAll, .unicode, .verbose, .ascii]

def word : FlagName → String
  | .ignoreCase => "IGNORECASE"
  | .multiLine => "MULTILINE"
  | .dotAll => "DOTALL"
  | .unicode => "UNICODE"
  | .verbose => "VERBOSE"
  | .ascii => "ASCII"

def letter : FlagName → String
  | .ignoreCase => "I"
  | .multiLine => "M"
  | .dotAll => "S"
  | .unicode => "U"
  | .verbose => "X"
  | .ascii => "A"

/-- The binary digit that stands for the flag. -/
def digit : FlagName → Nat
  | .ignoreCase => 1
  | .multiLine => 3
  | .dotAll => 4
  | .unicode => 5
  | .verbose => 6
  | .ascii => 8

def words : List String := all.map word

end FlagName

/-- A set of flags. -/
structure Flags where
  ignoreCase : Bool
  multiLine : Bool
  dotAll : Bool
  /-- Unicode matching holds anyway; the flag is accepted and changes nothing. -/
  unicode : Bool
  verbose : Bool
  /-- Classes and word boundaries know ASCII only. -/
  ascii : Bool
  deriving Repr, DecidableEq

/-- Why a directive does not stand for a set of flags. -/
inductive FlagError
  | unknownToken (token : String)
  | unknownBits (bits : Int)
  deriving Repr, DecidableEq

namespace FlagError

def message : FlagError → String
  | .unknownToken token =>
    "invalid flag '" ++ token ++ "' (allowed values: " ++ ", ".intercalate FlagName.words ++ ")"
  | .unknownBits bits =>
    "invalid flag value " ++ toString bits ++ " (allowed flags: " ++
      ", ".intercalate FlagName.words ++ ")"

end FlagError

/-- A flags directive as it is written. -/
inductive Directive
  | token (token : String)
  | tokens (tokens : List String)
  | mixed (items : List Directive)
  | bits (bits : Int)
  deriving Repr

namespace Flags

def none : Flags := ⟨false, false, false, false, false, false⟩

def contains (f : Flags) : FlagName → Bool
  | .ignoreCase => f.ignoreCase
  | .multiLine => f.multiLine
  | .dotAll => f.dotAll
  | .unicode => f.unicode
  | .verbose => f.verbose
  | .ascii => f.ascii

/-- The set of the flags that pass a test. -/
def ofTest (test : FlagName → Bool) : Flags where
  ignoreCase := test .ignoreCase
  multiLine := test .multiLine
  dotAll := test .dotAll
  unicode := test .unicode
  verbose := test .verbose
  ascii := test .ascii

def singleton (n : FlagName) : Flags := ofTest (· == n)

def union (f g : Flags) : Flags := ofTest fun n => f.contains n || g.contains n

/-- Whether every flag of `g` is in `f`. -/
def includes (f g : Flags) : Bool :=
  FlagName.all.all fun n => !g.contains n || f.contains n

/-- What a group without a directive gets. -/
def default : Flags := singleton .ignoreCase

/-- The flags as a number. -/
def bits (f : Flags) : Nat :=
  FlagName.all.foldr (fun n bits => (if f.contains n then Nat.pow 2 n.digit else 0) + bits) 0

/-- The names of the flags joined by bars, or `NONE`. -/
def display (f : Flags) : String :=
  match (FlagName.all.filter f.contains).map FlagName.word with
  | [] => "NONE"
  | words => "|".intercalate words

/-- Reads a number; one with any other binary digit is refused. -/
def ofBits (bits : Int) : Except FlagError Flags :=
  let f := ofTest fun n => bits.toNat.testBit n.digit
  if (f.bits : Int) = bits then .ok f else .error (.unknownBits bits)

/-- A text without the white space around it. -/
def trim (s : String) : List Char :=
  let dropped := s.toList.dropWhile Unicode.isSpace
  (dropped.reverse.dropWhile Unicode.isSpace).reverse

/-- Reads a name or a letter. White space around it and the case of ASCII letters do not
count. -/
def ofToken (token : String) : Except FlagError Flags :=
  let key := String.ofList ((trim token).map Char.toUpper)
  match FlagName.all.find? fun n => key == n.word || key == n.letter with
  | some n => .ok (singleton n)
  | Option.none => .error (.unknownToken token)

/-- The union of the flags of several tokens. -/
def ofTokens : List String → Except FlagError Flags
  | [] => .ok none
  | token :: tokens => do
    let f ← ofToken token
    let g ← ofTokens tokens
    return f.union g

mutual
/-- The flags a directive stands for; the first part that stands for none is reported. -/
def ofDirective : Directive → Except FlagError Flags
  | .token token => ofToken token
  | .tokens tokens => ofTokens tokens
  | .mixed items => ofDirectives items
  | .bits bits => ofBits bits

/-- The union of the flags of several directives. -/
def ofDirectives : List Directive → Except FlagError Flags
  | [] => .ok none
  | item :: items => do
    let f ← ofDirective item
    let g ← ofDirectives items
    return f.union g
end

/-- The flags of a group. -/
def resolve : Option Directive → Except FlagError Flags
  | Option.none => .ok default
  | some directive => ofDirective directive

end Flags
end Gazetteer
