import HostNet.Text.Utf8

namespace HostNet.Document.Yaml

def isLineEnd (c : Char) : Bool :=
  c == '\n' || c == '\r' || c == '\u0085' || c == '\u2028' || c == '\u2029'

def isBlank (c : Char) : Bool := c == ' ' || c == '\t'

def isGap (c : Char) : Bool := isBlank c || isLineEnd c

def isAllowed (c : Char) : Bool :=
  let n := c.toNat
  n == 9 || n == 0xa || n == 0xd || (0x20 ≤ n && n ≤ 0x7e) || n == 0x85 || (0xa0 ≤ n && n ≤ 0xfffd) ||
    0x10000 ≤ n

def isNameChar (c : Char) : Bool := c.isAlphanum || c == '_' || c == '-'

def isGapOrEnd (c : Option Char) : Bool := c.all isGap

def lineEnd (c : Char) : Char :=
  if c == '\u2028' || c == '\u2029' then c else '\n'

-- What is left of a text, with the number of bytes before it, the line and the column.
structure Cursor where
  rest : List Char
  index : Nat
  line : Nat
  column : Nat

namespace Cursor

def start (text : List Char) : Cursor := ⟨text,0,0,0⟩

def peek? (c : Cursor) : Option Char := c.rest.head?

def looksAt (c : Cursor) (ch : Char) : Bool := c.peek? == some ch

-- The place `n` characters on in the same line.
def skip (c : Cursor) (n : Nat) : Cursor :=
  { c with rest := c.rest.drop n,index := c.index + Text.byteCount (c.rest.take n),column := c.column + n }

def next (c : Cursor) : Cursor := c.skip 1

def takeWhile (p : Char → Bool) (c : Cursor) : List Char × Cursor :=
  let taken := c.rest.takeWhile p
  (taken,c.skip taken.length)

def dropWhile (p : Char → Bool) (c : Cursor) : Cursor := (c.takeWhile p).2

-- The beginning of the next line. A carriage return with a line feed is one end of a line.
def nextLine (c : Cursor) : Cursor :=
  match c.rest with
  | '\r' :: '\n' :: rest => ⟨rest,c.index + 2,c.line + 1,0⟩
  | ch :: rest => ⟨rest,c.index + ch.utf8Size,c.line + 1,0⟩
  | [] => c

-- The end of a line as it is read, and the place after it; nothing if the line goes on or the text ends.
def takeLineEnd (c : Cursor) : List Char × Cursor :=
  match c.peek? with
  | some ch => if isLineEnd ch then ([lineEnd ch],c.nextLine) else ([],c)
  | none => ([],c)

def dropComment (c : Cursor) : Cursor :=
  if c.looksAt '#' then c.dropWhile (!isLineEnd ·) else c

def finishLine? (c : Cursor) : Option Cursor :=
  let c := (c.dropWhile isBlank).dropComment
  match c.peek? with
  | none => some c
  | some ch => if isLineEnd ch then some c.nextLine else none

-- Whether three of a character stand at the beginning of a line as a word of their own.
def atTriple (c : Cursor) (ch : Char) : Bool :=
  c.column == 0 && c.rest.take 3 == [ch,ch,ch] && isGapOrEnd c.rest[3]?

def atDocumentMark (c : Cursor) : Bool := c.atTriple '-' || c.atTriple '.'

end Cursor
end HostNet.Document.Yaml
