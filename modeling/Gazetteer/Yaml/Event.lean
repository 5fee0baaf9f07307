import Gazetteer.Yaml.Token

/-! The nodes of a YAML document in the order of its text.

Tokens are read against what is due: a stack of the collections that are open, each with the part
of it that comes next. A node that is missing where one is due is an empty scalar. -/
namespace Gazetteer.Yaml

/-- What stands before a node. -/
structure Properties where
  name : Option String
  tag : Option String
  deriving Repr, DecidableEq

namespace Properties

def none : Properties := ⟨.none, .none⟩

end Properties

inductive Event
  | reference (name : String)
  | scalar (props : Properties) (isPlain : Bool) (text : String)
  | sequenceStart (props : Properties)
  | sequenceEnd
  | mappingStart (props : Properties)
  | mappingEnd
  deriving Repr, DecidableEq

namespace Event

/-- A node that is not written. -/
def missing : Event := .scalar .none true ""

/-! ### Tags -/

/-- What handles stand for. -/
abbrev Handles := List (List Char × List Char)

/-- The handles that need no directive. -/
def defaultHandles : Handles := [(['!'], ['!']), (['!', '!'], "tag:yaml.org,2002:".toList)]

/-- The full form of a tag. -/
def fullTag? (handles : Handles) (t : Tag) : Option String :=
  if t.handle.isEmpty then some (.ofList t.suffix)
  else (handles.find? (·.1 == t.handle)).map fun h => .ofList (h.2 ++ t.suffix)

/-- Reads the name and the tag of a node, in either order. -/
def readProperties (handles : Handles) : List Token → Option (Properties × List Token)
  | .name n :: .tag t :: ts => do return (⟨some n, some (← fullTag? handles t)⟩, ts)
  | .tag t :: .name n :: ts => do return (⟨some n, some (← fullTag? handles t)⟩, ts)
  | .name n :: ts => some (⟨some n, none⟩, ts)
  | .tag t :: ts => do return (⟨none, some (← fullTag? handles t)⟩, ts)
  | ts => some (.none, ts)

/-! ### What is due -/

/-- What comes next in an open collection. -/
inductive Due
  | blockItem
  /-- An item of a sequence that is indented no more than the mapping around it. -/
  | flatItem
  | blockKey
  | blockValue
  /-- An item of a flow sequence, and whether it is the first. -/
  | flowItem (isFirst : Bool)
  /-- The key of a mapping with one entry that is an item of a flow sequence. -/
  | pairKey
  | pairValue
  | pairEnd
  | flowKey (isFirst : Bool)
  | flowValue
  /-- The value of a key in a flow mapping that has none. -/
  | noValue
  deriving Repr, DecidableEq

/-- A document that is being read. -/
structure Reading where
  /-- What is due, innermost first. -/
  due : List Due
  /-- The tokens that are left. -/
  tokens : List Token
  deriving Repr, DecidableEq

/-- Begins a node, whose end is followed by what is due in the given list. -/
def beginNode (handles : Handles) (inBlock flat : Bool) (due : List Due) (ts : List Token) :
    Option (Event × Reading) := do
  match ts with
  | .reference name :: ts => return (.reference name, ⟨due, ts⟩)
  | ts =>
    let (props, ts) ← readProperties handles ts
    match ts with
    | .scalar isPlain text :: ts =>
      let tag := if props.tag == some "!" then none else props.tag
      return (.scalar { props with tag } isPlain text, ⟨due, ts⟩)
    | .flowSequenceStart :: ts => return (.sequenceStart props, ⟨.flowItem true :: due, ts⟩)
    | .flowMappingStart :: ts => return (.mappingStart props, ⟨.flowKey true :: due, ts⟩)
    | ts =>
      match ts, inBlock, flat with
      | .blockEntry :: _, _, true => return (.sequenceStart props, ⟨.flatItem :: due, ts⟩)
      | .blockSequenceStart :: ts, true, _ =>
        return (.sequenceStart props, ⟨.blockItem :: due, ts⟩)
      | .blockMappingStart :: ts, true, _ => return (.mappingStart props, ⟨.blockKey :: due, ts⟩)
      | _, _, _ =>
        if props == .none then none else return (.scalar props true "", ⟨due, ts⟩)

/-- Begins a node, or takes it to be missing if one of the given tokens follows. -/
def nodeUnless (stops : List Token) (handles : Handles) (inBlock flat : Bool) (due : List Due)
    (ts : List Token) : Option (Event × Reading) :=
  if ts.head?.any stops.contains then some (missing, ⟨due, ts⟩)
  else beginNode handles inBlock flat due ts

/-- Passes the comma before an item or key that is not the first. -/
def passComma (isFirst : Bool) (closing : Token) (ts : List Token) : Option (List Token) :=
  if isFirst || ts.head? == some closing then some ts
  else match ts with
    | .flowEntry :: ts => some ts
    | _ => none

/-- The next event of what is due. -/
def next (handles : Handles) (d : Due) (due : List Due) (ts : List Token) :
    Option (Event × Reading) :=
  match d with
  | .blockItem =>
    match ts with
    | .blockEntry :: ts => nodeUnless [.blockEntry, .blockEnd] handles true false (d :: due) ts
    | .blockEnd :: ts => some (.sequenceEnd, ⟨due, ts⟩)
    | _ => none
  | .flatItem =>
    match ts with
    | .blockEntry :: ts =>
      nodeUnless [.blockEntry, .key, .value, .blockEnd] handles true false (d :: due) ts
    | ts => some (.sequenceEnd, ⟨due, ts⟩)
  | .blockKey =>
    match ts with
    | .key :: ts => nodeUnless [.key, .value, .blockEnd] handles true true (.blockValue :: due) ts
    | .blockEnd :: ts => some (.mappingEnd, ⟨due, ts⟩)
    | _ => none
  | .blockValue =>
    match ts with
    | .value :: ts => nodeUnless [.key, .value, .blockEnd] handles true true (.blockKey :: due) ts
    | ts => some (missing, ⟨.blockKey :: due, ts⟩)
  | .flowItem isFirst => do
    let ts ← passComma isFirst .flowSequenceEnd ts
    match ts with
    | .key :: ts => return (.mappingStart .none, ⟨.pairKey :: .flowItem false :: due, ts⟩)
    | .flowSequenceEnd :: ts => return (.sequenceEnd, ⟨due, ts⟩)
    | ts => beginNode handles false false (.flowItem false :: due) ts
  | .pairKey =>
    if ts.head?.any [Token.value, .flowEntry, .flowSequenceEnd].contains then
      some (missing, ⟨.pairValue :: due, ts.drop 1⟩)
    else beginNode handles false false (.pairValue :: due) ts
  | .pairValue =>
    match ts with
    | .value :: ts =>
      nodeUnless [.flowEntry, .flowSequenceEnd] handles false false (.pairEnd :: due) ts
    | ts => some (missing, ⟨.pairEnd :: due, ts⟩)
  | .pairEnd => some (.mappingEnd, ⟨due, ts⟩)
  | .flowKey isFirst => do
    let ts ← passComma isFirst .flowMappingEnd ts
    match ts with
    | .key :: ts =>
      nodeUnless [.value, .flowEntry, .flowMappingEnd] handles false false (.flowValue :: due) ts
    | .flowMappingEnd :: ts => return (.mappingEnd, ⟨due, ts⟩)
    | ts => beginNode handles false false (.noValue :: due) ts
  | .flowValue =>
    match ts with
    | .value :: ts =>
      nodeUnless [.flowEntry, .flowMappingEnd] handles false false (.flowKey false :: due) ts
    | ts => some (missing, ⟨.flowKey false :: due, ts⟩)
  | .noValue => some (missing, ⟨.flowKey false :: due, ts⟩)

/-- Reads until nothing is due, and gives the tokens that are left. -/
def readAll (handles : Handles) : Nat → Reading → Option (List Event × List Token)
  | 0, _ => none
  | fuel + 1, r =>
    match r.due with
    | [] => some ([], r.tokens)
    | d :: due => do
      let (e, r) ← next handles d due r.tokens
      let (es, ts) ← readAll handles fuel r
      return (e :: es, ts)

/-- Reads a node with all that is in it. -/
def readNode (handles : Handles) (ts : List Token) : Option (List Event × List Token) := do
  let (e, r) ← beginNode handles true false [] ts
  let (es, ts) ← readAll handles (8 * ts.length + 8) r
  return (e :: es, ts)

/-! ### Documents -/

/-- The directives before a document. -/
structure Directives where
  hasVersion : Bool
  handles : Handles
  deriving Repr, DecidableEq

/-- Adds a directive. Versions 1.1 and 1.2 are known; neither the version nor a handle is given
twice. -/
def Directives.add (ds : Directives) : Directive → Option Directives
  | .version major minor =>
    if ds.hasVersion || major != 1 || !(minor == 1 || minor == 2) then none
    else some { ds with hasVersion := true }
  | .handle name target =>
    if ds.handles.any (·.1 == name) then none
    else some { ds with handles := ds.handles ++ [(name, target)] }

/-- Reads directives. -/
def readDirectives (ds : Directives) : List Token → Option (Directives × List Token)
  | .directive d :: ts => do readDirectives (← ds.add d) ts
  | ts => some (ds, ts)

/-- Whether nothing follows in a document. -/
def endsDocument : List Token → Bool
  | [] => true
  | .directive _ :: _ => true
  | .documentStart :: _ => true
  | .documentEnd :: _ => true
  | _ => false

/-- Reads a document. Only one that is marked may have directives and may be empty. -/
def readDocument (ts : List Token) : Option (List Event × List Token) := do
  let (ds, rest) ← readDirectives ⟨false, []⟩ ts
  match rest with
  | .documentStart :: rest =>
    if endsDocument rest then return ([missing], rest)
    else readNode (ds.handles ++ defaultHandles) rest
  | _ => if rest.length < ts.length then none else readNode defaultHandles ts

/-- The events of the one document of a text; there are none in a text without a document. -/
def ofTokens (ts : List Token) : Option (List Event) :=
  if ts.isEmpty then some []
  else do
    let (es, rest) ← readDocument ts
    if (rest.dropWhile (· == .documentEnd)).isEmpty then return es else none

end Event
end Gazetteer.Yaml
