import HostNet.Document.Yaml.Scalar
import HostNet.Document.Yaml.Tag

namespace HostNet.Document.Yaml

-- Indentation opens and closes collections, which tokens make explicit.
inductive Token where
  | directive (d : Directive)
  | documentStart
  | documentEnd
  | blockList
  | blockObject
  | blockEnd
  | flowListOpen
  | flowListClose
  | flowObjectOpen
  | flowObjectClose
  | item
  | comma
  | key
  | value
  | alias (name : String)
  | anchor (name : String)
  | tag (tag : Tag)
  | scalar (plain : Bool) (text : String)

-- A place where a key may have begun: how many tokens come before it, where it is, and whether a colon has to follow
-- because nothing else can stand there. Whether it is a key shows only at the colon after it, when the tokens that
-- make it one are put at that place.
structure KeyStart where
  position : Nat
  index : Nat
  line : Nat
  column : Nat
  required : Bool

-- The state between two tokens. The tokens stand in reverse. `indent` is the column of the innermost collection that
-- is open by indentation, and `key` the place of a possible key within the innermost brackets; `outerKeys` has those
-- outside of each open bracket.
structure Scan where
  cursor : Cursor
  tokens : List Token
  count : Nat
  indent : Int
  indents : List Int
  keyAllowed : Bool
  key : Option KeyStart
  outerKeys : List (Option KeyStart)

namespace Scan

def start (text : List Char) : Scan := ⟨.start text,[],0,-1,[],true,none,[]⟩

def inFlow (s : Scan) : Bool := !s.outerKeys.isEmpty

def push (s : Scan) (t : Token) : Scan := { s with tokens := t :: s.tokens,count := s.count + 1 }

def insert (s : Scan) (position : Nat) (t : Token) : Scan :=
  let later := s.count - position
  { s with tokens := s.tokens.take later ++ t :: s.tokens.drop later,count := s.count + 1 }

def skip (s : Scan) (n : Nat) : Scan := { s with cursor := s.cursor.skip n }

-- Opens a collection at a column that is indented farther, with its token after the first `position` ones.
def openAt (s : Scan) (column position : Nat) (t : Token) : Scan :=
  if s.inFlow || (column : Int) ≤ s.indent then s
  else { s.insert position t with indent := column,indents := s.indent :: s.indents }

-- Closes collections until `column` is not to the left of the innermost one.
def closeFrom (s : Scan) (column : Int) : List Int → Scan
  | [] => s
  | outer :: rest =>
    if column < s.indent then closeFrom { s.push .blockEnd with indent := outer,indents := rest } column rest
    else s

def closeTo (s : Scan) (column : Int) : Scan :=
  if s.inFlow then s else s.closeFrom column s.indents

-- Forgets the place of a possible key, unless a colon had to follow.
def dropKey (s : Scan) : Option Scan :=
  if s.key.any KeyStart.required then none else some { s with key := none }

def keepKey (s : Scan) : Option Scan :=
  if s.keyAllowed then do
    let required := !s.inFlow && s.indent == (s.cursor.column : Int)
    return { ← s.dropKey with
      key := some ⟨s.count,s.cursor.index,s.cursor.line,s.cursor.column,required⟩ }
  else some s

-- A possible key that is still one: its colon follows in the same line and not too far off.
def refresh (c : Cursor) : Option KeyStart → Option (Option KeyStart)
  | none => some none
  | some k =>
    if k.line < c.line || k.index + 1024 < c.index then (if k.required then none else some none)
    else some (some k)

def dropStaleKeys (s : Scan) : Option Scan := do
  return { s with key := ← refresh s.cursor s.key,outerKeys := ← s.outerKeys.mapM (refresh s.cursor) }

def dropMark (c : Cursor) : Cursor :=
  if c.column == 0 && c.looksAt '\ufeff' then c.next else c

-- The state before the next token, after gaps and comments. Tabs count as gaps only where no key can begin.
def dropGaps (s : Scan) : Nat → Scan
  | 0 => s
  | fuel + 1 =>
    let tabs := s.inFlow || !s.keyAllowed
    let c := ((dropMark s.cursor).dropWhile fun ch => ch == ' ' || (tabs && ch == '\t')).dropComment
    if c.peek?.any isLineEnd then
      dropGaps { s with cursor := c.nextLine,keyAllowed := s.keyAllowed || !s.inFlow } fuel
    else { s with cursor := c }

-- A directive or a mark between documents ends all collections.
def endDocument (s : Scan) : Option Scan := do
  return { ← (s.closeTo (-1)).dropKey with keyAllowed := false }

def documentMark (s : Scan) (t : Token) : Option Scan := do return ((← s.endDocument).skip 3).push t

def directive (s : Scan) : Option Scan := do
  let s ← s.endDocument
  let (d,cursor) ← readDirective s.cursor
  return { s with cursor }.push (.directive d)

-- An opening bracket, with which a key may begin, as within it.
def openBracket (s : Scan) (t : Token) : Option Scan := do
  let s ← s.keepKey
  return ({ s with outerKeys := s.key :: s.outerKeys,key := none,keyAllowed := true }.skip 1).push t

def closeBracket (s : Scan) (t : Token) : Option Scan := do
  let s ← s.dropKey
  let s := match s.outerKeys with
    | key :: rest => { s with key,outerKeys := rest }
    | [] => s
  return ({ s with keyAllowed := false }.skip 1).push t

def comma (s : Scan) : Option Scan := do
  return ({ ← s.dropKey with keyAllowed := true }.skip 1).push .comma

def item (s : Scan) : Option Scan := do
  if !s.inFlow && !s.keyAllowed then none
  let s := s.openAt s.cursor.column s.count .blockList
  return ({ ← s.dropKey with keyAllowed := true }.skip 1).push .item

def keyMark (s : Scan) : Option Scan := do
  if !s.inFlow && !s.keyAllowed then none
  let s := s.openAt s.cursor.column s.count .blockObject
  return ({ ← s.dropKey with keyAllowed := !s.inFlow }.skip 1).push .key

def valueMark (s : Scan) : Option Scan :=
  match s.key with
  | some k =>
    let s := (s.insert k.position .key).openAt k.column k.position .blockObject
    some (({ s with key := none,keyAllowed := false }.skip 1).push .value)
  | none =>
    if !s.inFlow && !s.keyAllowed then none
    else
      let s := s.openAt s.cursor.column s.count .blockObject
      some (({ s with keyAllowed := !s.inFlow }.skip 1).push .value)

-- Keeps this place as that of a possible key, which what is read here is or begins.
def beginKey (s : Scan) : Option Scan := do return { ← s.keepKey with keyAllowed := false }

def aliasMark (s : Scan) : Option Scan := do
  let s ← s.beginKey
  let (name,cursor) ← readAnchor s.cursor
  return { s with cursor }.push (.alias name)

def anchorMark (s : Scan) : Option Scan := do
  let s ← s.beginKey
  let (name,cursor) ← readAnchor s.cursor
  return { s with cursor }.push (.anchor name)

def tagMark (s : Scan) : Option Scan := do
  let s ← s.beginKey
  let (tag,cursor) ← readTag s.inFlow s.cursor
  return { s with cursor }.push (.tag tag)

def block (s : Scan) (literal : Bool) : Option Scan := do
  let s ← s.dropKey
  let (chars,cursor) ← readBlock literal s.indent s.cursor.next
  return { s with cursor,keyAllowed := true }.push (.scalar false (String.ofList chars.reverse))

def quoted (s : Scan) (quote : Char) : Option Scan := do
  let s ← s.beginKey
  let (chars,cursor) ← readQuoted quote s.cursor
  return { s with cursor }.push (.scalar false (String.ofList chars.reverse))

-- A plain scalar. A key may begin in the line after it.
def plain (s : Scan) : Option Scan := do
  let s ← s.beginKey
  let p ← readPlain s.inFlow (s.indent + 1).toNat s.cursor
  return { s with cursor := p.cursor,keyAllowed := p.crossed }.push (.scalar true (String.ofList p.text.reverse))

def beginsPlain (s : Scan) (c : Char) (after : Option Char) : Bool :=
  !(isGap c || ['-','?',':',',','[',']','\x7b','\x7d','#','&','*','!','|','>','\'','"','%','@',
    '\x60'].contains c) ||
    (c == '-' && !after.any isBlank) ||
    (!s.inFlow && (c == '?' || c == ':') && !isGapOrEnd after)

def readToken (s : Scan) (c : Char) : Option Scan :=
  let after := s.cursor.rest[1]?
  let apart := isGapOrEnd after
  if c == '%' && s.cursor.column == 0 then s.directive
  else if s.cursor.atTriple '-' then s.documentMark .documentStart
  else if s.cursor.atTriple '.' then s.documentMark .documentEnd
  else if c == '[' then s.openBracket .flowListOpen
  else if c == '\x7b' then s.openBracket .flowObjectOpen
  else if c == ']' then s.closeBracket .flowListClose
  else if c == '\x7d' then s.closeBracket .flowObjectClose
  else if c == ',' then s.comma
  else if c == '-' && apart then s.item
  else if c == '?' && (s.inFlow || apart) then s.keyMark
  else if c == ':' && (s.inFlow || apart) then s.valueMark
  else if c == '*' then s.aliasMark
  else if c == '&' then s.anchorMark
  else if c == '!' then s.tagMark
  else if c == '|' && !s.inFlow then s.block true
  else if c == '>' && !s.inFlow then s.block false
  else if c == '\'' || c == '"' then s.quoted c
  else if s.beginsPlain c after then s.plain
  else none

def readTokens (s : Scan) : Nat → Option (List Token)
  | 0 => none
  | fuel + 1 => do
    let s ← (s.dropGaps (s.cursor.rest.length + 1)).dropStaleKeys
    let s := s.closeTo s.cursor.column
    match s.cursor.peek? with
    | some c => readTokens (← s.readToken c) fuel
    | none =>
      let s ← (s.closeTo (-1)).dropKey
      return s.tokens.reverse

end Scan

def tokens? (text : String) : Option (List Token) :=
  let chars := text.toList
  if chars.all isAllowed then (Scan.start chars).readTokens (chars.length + 2) else none

end HostNet.Document.Yaml
