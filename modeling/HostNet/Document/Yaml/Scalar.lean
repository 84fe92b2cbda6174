import HostNet.Document.Yaml.Cursor
import HostNet.Text.Hex

namespace HostNet.Document.Yaml

-- What stands between two words: blanks or, once a line has ended, the first end of a line and the others.
structure Gap where
  blanks : List Char
  crossed : Bool
  first : List Char
  more : List Char

namespace Gap

def none : Gap := ⟨[],false,[],[]⟩

def escaped : Gap := ⟨[],true,[],[]⟩

-- What the gap is read as: one end of a line is a space, and further ones are kept.
def text (g : Gap) : List Char :=
  if !g.crossed then g.blanks
  else if g.first == ['\n'] then (if g.more.isEmpty then [' '] else g.more)
  else g.first ++ g.more

-- The gap with one more blank, which counts only before the first end of a line.
def blank (g : Gap) (c : Char) : Gap :=
  if g.crossed then g else { g with blanks := g.blanks ++ [c] }

def cross (g : Gap) (c : Char) : Gap :=
  if g.crossed then { g with more := g.more ++ [lineEnd c] } else ⟨[],true,[lineEnd c],[]⟩

end Gap

-- Reads a gap to its end. On later lines no tab may stand before the column `least`.
def readGap (least : Nat) (g : Gap) (c : Cursor) : Nat → Option (Gap × Cursor)
  | 0 => some (g,c)
  | fuel + 1 =>
    match c.peek? with
    | none => some (g,c)
    | some ch =>
      if isBlank ch then
        if g.crossed && c.column < least && ch == '\t' then none
        else readGap least (g.blank ch) c.next fuel
      else if isLineEnd ch then readGap least (g.cross ch) c.nextLine fuel
      else some (g,c)

def isFlowIndicator (c : Char) : Bool := [',','[',']','\x7b','\x7d'].contains c

-- A word of a plain scalar, which stands in reverse while it is read. It ends at a gap or at a colon before one, and
-- within brackets at a bracket or comma too, which may not follow a colon.
def plainWord (flow : Bool) : List Char → Option (List Char)
  | [] => some []
  | c :: rest =>
    if isGap c then some []
    else if flow && c == ':' && rest.head?.any fun d => isFlowIndicator d || d == '?' then none
    else if (c == ':' && isGapOrEnd rest.head?) || (flow && isFlowIndicator c) then some []
    else (plainWord flow rest).map (c :: ·)

-- A plain scalar that has been read: its text, whether a line ended after it, and the place there.
structure Plain where
  text : List Char
  crossed : Bool
  cursor : Cursor

-- Reads words and the gaps between them. Outside of brackets a line that is not indented far enough ends the scalar.
def readPlainFrom (flow : Bool) (least : Nat) (text : List Char) (g : Gap) (c : Cursor) :
    Nat → Option Plain
  | 0 => some ⟨text,g.crossed,c⟩
  | fuel + 1 => do
    if c.atDocumentMark || c.looksAt '#' then return ⟨text,g.crossed,c⟩
    let word ← plainWord flow c.rest
    let c := c.skip word.length
    let (text,g) := if word.isEmpty then (text,g)
      else (word.reverse ++ g.text.reverse ++ text,Gap.none)
    if !c.peek?.any isGap then return ⟨text,g.crossed,c⟩
    let (g,c) ← readGap least .none c c.rest.length
    if !flow && c.column < least then return ⟨text,g.crossed,c⟩
    readPlainFrom flow least text g c fuel

def readPlain (flow : Bool) (least : Nat) (c : Cursor) : Option Plain :=
  readPlainFrom flow least [] .none c (c.rest.length + 1)

def hexCode? (count : Nat) (s : List Char) : Option Nat :=
  if s.length < count then none
  else (s.take count).foldlM (fun n c => (Text.Hex.digit? c).map (n * 16 + ·)) 0

def charOf? (n : Nat) : Option Char :=
  if h : n.isValidChar then some (Char.ofNatAux n h) else none

def escape? : List Char → Option (Char × Nat)
  | '0' :: _ => some ('\x00',1)
  | 'a' :: _ => some ('\x07',1)
  | 'b' :: _ => some ('\x08',1)
  | 't' :: _ | '\t' :: _ => some ('\t',1)
  | 'n' :: _ => some ('\n',1)
  | 'v' :: _ => some ('\x0b',1)
  | 'f' :: _ => some ('\x0c',1)
  | 'r' :: _ => some ('\r',1)
  | 'e' :: _ => some ('\x1b',1)
  | ' ' :: _ => some (' ',1)
  | '"' :: _ => some ('"',1)
  | '/' :: _ => some ('/',1)
  | '\\' :: _ => some ('\\',1)
  | 'N' :: _ => some ('\u0085',1)
  | '_' :: _ => some ('\u00a0',1)
  | 'L' :: _ => some ('\u2028',1)
  | 'P' :: _ => some ('\u2029',1)
  | 'x' :: rest => do return (← charOf? (← hexCode? 2 rest),3)
  | 'u' :: rest => do return (← charOf? (← hexCode? 4 rest),5)
  | 'U' :: rest => do return (← charOf? (← hexCode? 8 rest),9)
  | _ => none

def singleWord (text : List Char) (c : Cursor) : Nat → List Char × Cursor
  | 0 => (text,c)
  | fuel + 1 =>
    match c.rest with
    | '\'' :: '\'' :: _ => singleWord ('\'' :: text) (c.skip 2) fuel
    | '\'' :: _ => (text,c)
    | ch :: _ => if isGap ch then (text,c) else singleWord (ch :: text) c.next fuel
    | [] => (text,c)

-- Reads what stands between double quotes up to a gap, the closing quote or an escaped end of a line.
def doubleWord (text : List Char) (c : Cursor) : Nat → Option (List Char × Gap × Cursor)
  | 0 => some (text,.none,c)
  | fuel + 1 =>
    match c.rest with
    | '"' :: _ => some (text,.none,c)
    | '\\' :: rest =>
      if rest.head?.any isLineEnd then some (text,.escaped,c.next.nextLine)
      else do
        let (ch,length) ← escape? rest
        doubleWord (ch :: text) (c.skip (length + 1)) fuel
    | ch :: _ => if isGap ch then some (text,.none,c) else doubleWord (ch :: text) c.next fuel
    | [] => some (text,.none,c)

-- Reads words and the gaps between them up to the closing quote. No mark between documents may stand there.
def readQuotedFrom (quote : Char) (text : List Char) (c : Cursor) : Nat → Option (List Char × Cursor)
  | 0 => none
  | fuel + 1 => do
    if c.atDocumentMark || c.rest.isEmpty then none
    let (text,g,c) ← if quote == '"' then doubleWord text c c.rest.length
      else
        let (text,c) := singleWord text c c.rest.length
        some (text,Gap.none,c)
    if c.looksAt quote then return (text,c.next)
    let (g,c) ← readGap 0 g c c.rest.length
    readQuotedFrom quote (g.text.reverse ++ text) c fuel

def readQuoted (quote : Char) (c : Cursor) : Option (List Char × Cursor) :=
  readQuotedFrom quote [] c.next (c.rest.length + 1)

inductive Chomping where
  | strip
  | clip
  | keep

def chomping? : Option Char → Option Chomping
  | some '+' => some .keep
  | some '-' => some .strip
  | _ => none

-- The indentation that a digit stands for. It is not zero.
def indentation? (c : Option Char) : Option (Option Nat) :=
  match c with
  | some c =>
    if c == '0' then none else if c.isDigit then some (some (c.toNat - 0x30)) else some none
  | none => some none

def blockHeader (c : Cursor) : Option (Chomping × Option Nat × Cursor) := do
  match chomping? c.peek? with
  | some chomping =>
    let indentation ← indentation? c.next.peek?
    return (chomping,indentation,if indentation.isSome then c.skip 2 else c.next)
  | none =>
    match ← indentation? c.peek? with
    | none => return (.clip,none,c)
    | some indentation =>
      match chomping? c.next.peek? with
      | some chomping => return (chomping,some indentation,c.skip 2)
      | none => return (.clip,some indentation,c.next)

-- Reads indentation and empty lines up to a line with text. Without a known indentation all leading spaces belong to
-- it, and the widest line counts. Gives the ends of lines in reverse.
def readEmptyLines (indentation : Option Nat) (breaks : List Char) (widest : Nat) (c : Cursor) :
    Nat → Option (List Char × Nat × Cursor)
  | 0 => none
  | fuel + 1 =>
    let spaces := (c.rest.takeWhile (· == ' ')).length
    let c := c.skip (match indentation with
      | some n => min spaces (n - c.column)
      | none => spaces)
    let widest := max widest c.column
    match c.peek? with
    | none => some (breaks,widest,c)
    | some ch =>
      if ch == '\t' && indentation.all (c.column < ·) then none
      else if isLineEnd ch then readEmptyLines indentation (lineEnd ch :: breaks) widest c.nextLine fuel
      else some (breaks,widest,c)

-- A block that is being read: its text, the end of the line before, the ends of empty lines after that, and whether
-- that line began with a blank.
structure Block where
  text : List Char
  first : List Char
  more : List Char
  wasBlank : Bool

-- The text of the block with the ends of lines before the next line. In a folded block one end between two lines that
-- begin with no blank is a space.
def Block.joined (b : Block) (literal isBlank : Bool) : List Char :=
  if !literal && b.first == ['\n'] && !b.wasBlank && !isBlank then
    b.more ++ (if b.more.isEmpty then [' '] else []) ++ b.text
  else b.more ++ b.first ++ b.text

def Block.finish (b : Block) : Chomping → List Char
  | .strip => b.text
  | .clip => b.first ++ b.text
  | .keep => b.more ++ b.first ++ b.text

def readLines (literal : Bool) (indentation : Nat) (b : Block) (c : Cursor) : Nat → Option (Block × Cursor)
  | 0 => some (b,c)
  | fuel + 1 => do
    if c.column != indentation || c.rest.isEmpty then return (b,c)
    let startsBlank := c.peek?.any isBlank
    let text := b.joined literal startsBlank
    let (line,c) := c.takeWhile (!isLineEnd ·)
    let (first,c) := c.takeLineEnd
    let (more,_,c) ← readEmptyLines (some indentation) [] 0 c (c.rest.length + 1)
    readLines literal indentation ⟨line.reverse ++ text,first,more,startsBlank⟩ c fuel

-- Reads a block whose indicator has been read. The block is indented farther than `outer`, the column of what it
-- belongs to, or by the given number of columns.
def readBlock (literal : Bool) (outer : Int) (c : Cursor) : Option (List Char × Cursor) := do
  let (chomping,given,c) ← blockHeader c
  let c ← c.finishLine?
  let known := given.map fun n => n + outer.toNat
  let (more,widest,c) ← readEmptyLines known [] 0 c (c.rest.length + 1)
  let indentation := known.getD (max widest (max (outer + 1).toNat 1))
  let (b,c) ← readLines literal indentation ⟨[],[],more,false⟩ c (c.rest.length + 1)
  return (b.finish chomping,c)

end HostNet.Document.Yaml
