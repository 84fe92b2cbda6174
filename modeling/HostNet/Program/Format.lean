import HostNet.Program.Basic

namespace HostNet.Program

def shortEscapes : List (Char × UInt8) :=
  [('a',7),('b',8),('e',0x1b),('f',0xc),('n',0xa),('r',0xd),('t',9),('v',0xb),('\\',0x5c)]

def isOctal (c : Char) : Bool := '0' ≤ c && c ≤ '7'

def octalDigits (limit : Nat) (s : List Char) : List Char := (s.take limit).takeWhile isOctal

def octalByte (digits : List Char) : UInt8 :=
  UInt8.ofNat (digits.foldl (fun n c => n * 8 + (c.toNat - 0x30)) 0)

-- What the characters after a backslash stand for, and how many of them belong to it. Digits after a zero may be
-- three if `zeroLed` holds.
def escape (zeroLed : Bool) : List Char → List UInt8 × Nat
  | [] => ([0x5c],0)
  | c :: rest =>
    match shortEscapes.lookup c with
    | some b => ([b],1)
    | none =>
      if isOctal c then
        let digits := if zeroLed && c == '0' then '0' :: octalDigits 3 rest else octalDigits 3 (c :: rest)
        ([octalByte digits],digits.length)
      else (0x5c :: bytesOf (String.singleton c),1)

-- The bytes of a text with escapes, and whether it ends all output.
def expandEscapes (zeroLed : Bool) (before : List UInt8) : Nat → List Char → List UInt8 × Bool
  | 0, _ | _, [] => (before,false)
  | _ + 1, '\\' :: 'c' :: _ => (before,true)
  | fuel + 1, '\\' :: rest =>
    let (bytes,used) := escape zeroLed rest
    expandEscapes zeroLed (before ++ bytes) fuel (rest.drop used)
  | fuel + 1, c :: rest => expandEscapes zeroLed (before ++ bytesOf (String.singleton c)) fuel rest

structure Conversion where
  left : Bool
  padded : Bool
  width : Nat
  precision : Option Nat
  kind : Char

inductive Part where
  | bytes (b : List UInt8)
  | argument (c : Conversion)

def leadingNumber (s : List Char) : Nat × List Char :=
  let (digits,rest) := s.span Char.isDigit
  (digits.foldl (fun n c => n * 10 + (c.toNat - 0x30)) 0,rest)

def conversion? (s : List Char) : Option (Conversion × List Char) :=
  let (flags,s) := s.span fun c => c == '-' || c == '0' || c == '+' || c == ' ' || c == '#'
  let (width,s) := leadingNumber s
  let (precision,s) := match s with
    | '.' :: rest =>
      let (n,rest) := leadingNumber rest
      (some n,rest)
    | s => (none,s)
  match s with
  | kind :: rest =>
    if ['s','b','c','d','i','u','o','x','X'].contains kind then
      some (⟨flags.contains '-',flags.contains '0',width,precision,kind⟩,rest)
    else none
  | [] => none

-- The parts of a format. What is no conversion after a percent sign ends the format.
def parts : Nat → List Char → List Part
  | 0, _ | _, [] => []
  | fuel + 1, '%' :: '%' :: rest => .bytes [0x25] :: parts fuel rest
  | fuel + 1, '%' :: rest =>
    match conversion? rest with
    | some (c,rest) => .argument c :: parts fuel rest
    | none => []
  | fuel + 1, '\\' :: rest =>
    if rest.head? == some '"' then .bytes [0x22] :: parts fuel (rest.drop 1)
    else
      let (bytes,used) := escape false rest
      .bytes bytes :: parts fuel (rest.drop used)
  | fuel + 1, c :: rest => .bytes (bytesOf (String.singleton c)) :: parts fuel rest

def Conversion.fill (c : Conversion) (number : Bool) (b : List UInt8) : List UInt8 :=
  let missing := c.width - b.length
  if c.left then b ++ List.replicate missing 0x20
  else if c.padded && number then
    match b with
    | 0x2d :: digits => 0x2d :: (List.replicate missing 0x30 ++ digits)
    | digits => List.replicate missing 0x30 ++ digits
  else List.replicate missing 0x20 ++ b

def Conversion.digits (c : Conversion) (n : Int) : String :=
  let unsigned := (n % 0x10000000000000000).toNat
  match c.kind with
  | 'o' => String.ofList (Nat.toDigits 8 unsigned)
  | 'x' => String.ofList (Nat.toDigits 16 unsigned)
  | 'X' => (String.ofList (Nat.toDigits 16 unsigned)).toUpper
  | 'u' => toString unsigned
  | _ => toString n

def argumentNumber? (s : String) : Option Int :=
  if s.isEmpty then some 0
  else match s.toList with
    | '+' :: rest => if rest.head?.any Char.isDigit then (String.ofList rest).toInt? else none
    | _ => s.toInt?

-- An argument in its converted form, whether it ends all output, and a complaint about it, if there is one.
def Conversion.convert (c : Conversion) (argument : String) : List UInt8 × Bool × Option String :=
  let limited (b : List UInt8) := c.fill false (match c.precision with | some n => b.take n | none => b)
  match c.kind with
  | 's' => (limited (bytesOf argument),false,none)
  | 'b' =>
    let (b,ended) := expandEscapes true [] argument.length argument.toList
    (limited b,ended,none)
  | 'c' => (c.fill false ((bytesOf argument).take 1),false,none)
  | _ =>
    match argumentNumber? argument with
    | some n => (c.fill true (bytesOf (c.digits n)),false,none)
    | none => (c.fill true [0x30],false,some ("'" ++ argument ++ "': expected a numeric value"))

-- What has been written with a format, the complaints, the arguments left, and whether output has ended.
structure Formatted where
  output : List UInt8
  complaints : List String
  left : List String
  ended : Bool

def Formatted.write (f : Formatted) : Part → Formatted
  | .bytes b => if f.ended then f else { f with output := f.output ++ b }
  | .argument c =>
    if f.ended then f
    else
      let (b,ended,complaint) := c.convert (f.left.head?.getD "")
      ⟨f.output ++ b,f.complaints ++ complaint.toList,f.left.drop 1,ended⟩

-- Writes a format again while arguments are left, if it takes any.
def Formatted.repeat (format : List Part) (f : Formatted) : Nat → Formatted
  | 0 => f
  | fuel + 1 =>
    let after := format.foldl write f
    if after.ended || after.left.isEmpty || after.left.length == f.left.length then after
    else Formatted.repeat format after fuel

def format (pattern : String) (arguments : List String) : Formatted :=
  let s := pattern.toList
  Formatted.repeat (parts s.length s) ⟨[],[],arguments,false⟩ (arguments.length + 1)

end HostNet.Program
