import Gazetteer.Regex.Node

/-! How a node matches.

A thread is a way of matching the text so far: the place reached, the groups captured and
the trail. `Node.ends` gives the threads that leave a node in the order of preference, the first
to reach each place only, since a later thread at the same place could never be preferred. The
first thread that leaves the whole pattern is the match.

The trail holds the choices made since the last character was taken. A choice that comes up
again before another character is taken leads nowhere: repeating it cannot help. This is what
ends a repetition of something that can match the empty text, and it also decides which of its
turns count. -/
namespace Gazetteer.Regex

/-! ### Places in a text -/

/-- A place in a text. -/
structure Cursor where
  /-- The number of bytes before the place. -/
  offset : Nat
  /-- The character before the place. -/
  before : Option Char
  /-- The text after the place. -/
  rest : List Char
  deriving Repr, DecidableEq

namespace Cursor

def ofText (text : String) : Cursor := ⟨0, none, text.toList⟩

/-- The place after the next character, which is `c`, with `rest` after it. -/
def past (p : Cursor) (c : Char) (rest : List Char) : Cursor :=
  ⟨p.offset + c.utf8Size, some c, rest⟩

end Cursor

namespace Look

def isWord (unicode : Bool) (c : Char) : Bool :=
  if unicode then Unicode.isWord c else Unicode.isAsciiWord c

/-- Whether a condition holds at a place. A line ends before its end mark; when carriage
returns count as end marks, a carriage return and the line feed after it are one mark. -/
def holds (p : Cursor) (l : Look) : Bool :=
  let before (u : Bool) : Bool := p.before.any (isWord u)
  let after (u : Bool) : Bool := p.rest.head?.any (isWord u)
  match l with
  | .start => p.before.isNone
  | .finish => p.rest.isEmpty
  | .lineStart false => p.before.isNone || p.before == some '\n'
  | .lineStart true => p.before.isNone || p.before == some '\n' ||
      (p.before == some '\r' && p.rest.head? != some '\n')
  | .lineEnd false => p.rest.isEmpty || p.rest.head? == some '\n'
  | .lineEnd true => p.rest.isEmpty || p.rest.head? == some '\r' ||
      (p.rest.head? == some '\n' && p.before != some '\r')
  | .boundary u => before u != after u
  | .notBoundary u => before u == after u
  | .wordStart u => !before u && after u
  | .wordEnd u => before u && !after u
  | .wordStartHalf u => !before u
  | .wordEndHalf u => !after u

end Look

/-! ### Threads -/

/-- A half-open range of byte offsets. -/
structure Extent where
  start : Nat
  stop : Nat
  deriving Repr, DecidableEq

/-- A choice is named by the way to it from the root of the pattern. -/
abbrev Way := List Bool

structure Thread where
  place : Cursor
  /-- The groups captured, the latest capture of a group before earlier ones. -/
  captured : List (Nat × Extent)
  /-- The choices made since the last character was taken. -/
  trail : List Way
  deriving Repr, DecidableEq

namespace Thread

def start (p : Cursor) : Thread := ⟨p, [], []⟩

/-- Takes the next character if the set holds it. -/
def take (s : CharSet) (t : Thread) : Option Thread :=
  match t.place.rest with
  | [] => none
  | c :: rest => if s c then some ⟨t.place.past c rest, t.captured, []⟩ else none

def capture (index start : Nat) (t : Thread) : Thread :=
  { t with captured := (index, ⟨start, t.place.offset⟩) :: t.captured }

/-- Notes a choice, unless it was made since the last character was taken. -/
def choose (way : Way) (t : Thread) : Option Thread :=
  if t.trail.contains way then none else some { t with trail := way :: t.trail }

/-- The latest capture of a group. -/
def captured? (t : Thread) (index : Nat) : Option Extent :=
  (t.captured.find? (·.1 == index)).map (·.2)

/-- Keeps the first thread at each place; `seen` holds the places already reached. -/
def firsts (seen : List Nat) : List Thread → List Thread
  | [] => []
  | t :: ts =>
    if seen.contains t.place.offset then firsts seen ts
    else t :: firsts (t.place.offset :: seen) ts

end Thread

namespace Node

/-- The threads that leave a loop, found depth first, with the places at which its choice was
made. At each new place the loop either takes another turn, whose ends it visits in order, or
is left. The rest of the text bounds the number of turns. -/
def loop (turn : Thread → List Thread) (way : Way) (greedy : Bool) :
    Nat → List Thread × List Nat → Thread → List Thread × List Nat
  | 0, (found, seen), _ => (found, seen)
  | fuel + 1, (found, seen), t =>
    if seen.contains t.place.offset then (found, seen)
    else match t.choose way with
      | none => (found, seen)
      | some t =>
        let seen := t.place.offset :: seen
        if greedy then
          let (found, seen) := (turn t).foldl (loop turn way greedy fuel) (found, seen)
          (t :: found, seen)
        else (turn t).foldl (loop turn way greedy fuel) (t :: found, seen)

/-- The threads that leave the node, in order of preference, one for each place. -/
def ends : Node → Way → Thread → List Thread
  | .empty, _, t => [t]
  | .set s, _, t => (t.take s).toList
  | .look l, _, t => if l.holds t.place then [t] else []
  | .capture index n, way, t => (n.ends (false :: way) t).map (·.capture index t.place.offset)
  | .cat a b, way, t => Thread.firsts [] ((a.ends (false :: way) t).flatMap (b.ends (true :: way)))
  | .alt a b, way, t =>
    match t.choose way with
    | none => []
    | some t => Thread.firsts [] (a.ends (false :: way) t ++ b.ends (true :: way) t)
  | .star greedy n, way, t =>
    let turn := n.ends (false :: way)
    let fuel := t.place.rest.length + 2
    (loop turn way greedy fuel ([], []) t).1.reverse
  | .plus greedy n, way, t =>
    let turn := n.ends (false :: way)
    let fuel := t.place.rest.length + 1
    ((turn t).foldl (loop turn way greedy fuel) ([], [])).1.reverse

end Node
end Gazetteer.Regex
