import HostNet.Document.Yaml.Cursor
import HostNet.Text.Hex
import HostNet.Text.Utf8

namespace HostNet.Document.Yaml

def followsAnchor (c : Char) : Bool :=
  isGap c || ['?',':',',',']','\x7d','%','@','\x60'].contains c

def readAnchor (c : Cursor) : Option (String × Cursor) :=
  let (name,c) := c.next.takeWhile isNameChar
  if name.isEmpty || !c.peek?.all followsAnchor then none else some (String.ofList name,c)

def isTagChar (brackets : Bool) (c : Char) : Bool :=
  isNameChar c ||
    [';','/','?',':','@','&','=','+','$','.','!','~','*','\'','(',')'].contains c ||
    (brackets && [',','[',']'].contains c)

def escapedByte? (s : List Char) : Option UInt8 :=
  match s with
  | '%' :: a :: b :: _ => do return UInt8.ofNat (16 * (← Text.Hex.digit? a) + (← Text.Hex.digit? b))
  | _ => none

def sequenceLength? (b : UInt8) : Option Nat :=
  if b < 0x80 then some 1
  else if b < 0xc0 then none
  else if b < 0xe0 then some 2
  else if b < 0xf0 then some 3
  else if b < 0xf8 then some 4
  else none

def continuation? (s : List Char) : Nat → Option (List UInt8)
  | 0 => some []
  | count + 1 => do
    let b ← escapedByte? s
    if b < 0x80 || 0xc0 ≤ b then none
    return b :: (← continuation? (s.drop 3) count)

-- The bytes of escapes that have the form of one character together. Whether there is such a character is not asked.
def escapedBytes? (s : List Char) : Option (List UInt8) := do
  let first ← escapedByte? s
  let length ← sequenceLength? first
  return first :: (← continuation? (s.drop 3) (length - 1))

-- The bytes of a tag before the first zero, which ends it.
def untilZero (bytes : List UInt8) : List UInt8 := bytes.takeWhile (· != 0)

def bytesOf (chars : List Char) : List UInt8 := chars.map Char.toUInt8

-- Reads characters and escapes of a tag. Gives the bytes in reverse.
def readTagBytes (brackets : Bool) (bytes : List UInt8) (c : Cursor) : Nat → Option (List UInt8 × Cursor)
  | 0 => some (bytes,c)
  | fuel + 1 =>
    match c.peek? with
    | some '%' => do
      let more ← escapedBytes? c.rest
      readTagBytes brackets (more.reverse ++ bytes) (c.skip (3 * more.length)) fuel
    | some ch =>
      if isTagChar brackets ch then readTagBytes brackets (ch.toUInt8 :: bytes) c.next fuel
      else some (bytes,c)
    | none => some (bytes,c)

def readTagEnd (brackets : Bool) (c : Cursor) : Option (List UInt8 × Cursor) := do
  let (bytes,after) ← readTagBytes brackets [] c c.rest.length
  if bytes.isEmpty then none
  return (untilZero bytes.reverse,after)

-- Reads the handle that a tag begins with: an exclamation mark, or a name between two of them.
def readHandle (c : Cursor) : Option (List Char × Cursor) := do
  if !c.looksAt '!' then none
  let (name,c) := c.next.takeWhile isNameChar
  if c.looksAt '!' then return ('!' :: name ++ ['!'],c.next) else return ('!' :: name,c)

def isClosedHandle (handle : List Char) : Bool := handle.length != 1 && handle.getLast? == some '!'

-- A tag: a handle, which may be empty, and the bytes of the rest, which need not make up a text.
structure Tag where
  handle : String
  rest : List UInt8

def readTagBody (c : Cursor) : Option (Tag × Cursor) := do
  if c.rest[1]? == some '<' then
    let (rest,c) ← readTagEnd true (c.skip 2)
    if !c.looksAt '>' then none
    return (⟨"",rest⟩,c.next)
  let (handle,after) ← readHandle c
  if isClosedHandle handle then
    let (rest,c) ← readTagEnd false after
    return (⟨String.ofList handle,rest⟩,c)
  let (bytes,c) ← readTagBytes false (bytesOf (handle.drop 1)).reverse after after.rest.length
  let rest := untilZero bytes.reverse
  if rest.isEmpty then return (⟨"",bytesOf ['!']⟩,c) else return (⟨"!",rest⟩,c)

-- Reads a tag. A gap follows it or, within brackets, a comma.
def readTag (flow : Bool) (c : Cursor) : Option (Tag × Cursor) := do
  let (tag,c) ← readTagBody c
  if isGapOrEnd c.peek? || (flow && c.looksAt ',') then return (tag,c) else none

def coreTag (name : String) : List UInt8 := ("tag:yaml.org,2002:" ++ name).toUTF8.toList

def isOwn (tag : List UInt8) : Bool := tag.head? == some 0x21

-- Whether a tag names a kind of its own: it begins with an exclamation mark and is a text.
def namesOwnKind (tag : List UInt8) : Bool := isOwn tag && (Text.ofUtf8? tag).isSome

inductive Directive where
  | version (major minor : Nat)
  | handle (name : String) (start : List UInt8)

def readVersionNumber (c : Cursor) : Option (Nat × Cursor) :=
  let (digits,c) := c.takeWhile Char.isDigit
  if digits.isEmpty || 9 < digits.length then none
  else some (digits.foldl (fun n d => n * 10 + (d.toNat - 0x30)) 0,c)

def readVersion (c : Cursor) : Option (Directive × Cursor) := do
  let (major,c) ← readVersionNumber (c.dropWhile isBlank)
  if !c.looksAt '.' then none
  let (minor,c) ← readVersionNumber c.next
  return (.version major minor,c)

def readHandleDirective (c : Cursor) : Option (Directive × Cursor) := do
  let (handle,c) ← readHandle (c.dropWhile isBlank)
  if handle != ['!'] && !isClosedHandle handle then none
  if !c.peek?.any isBlank then none
  let (start,c) ← readTagEnd true (c.dropWhile isBlank)
  if !isGapOrEnd c.peek? then none
  return (.handle (String.ofList handle) start,c)

def readDirective (c : Cursor) : Option (Directive × Cursor) := do
  let (name,c) := c.next.takeWhile isNameChar
  if !isGapOrEnd c.peek? then none
  let (directive,c) ← match String.ofList name with
    | "YAML" => readVersion c
    | "TAG" => readHandleDirective c
    | _ => none
  return (directive,← c.finishLine?)

end HostNet.Document.Yaml
