namespace HostNet.Text.Base64

inductive Error where
  | symbol (byte : UInt8) (offset : Nat)
  | lastSymbol (byte : UInt8) (offset : Nat)
  | length (n : Nat)
  | padding
deriving DecidableEq, Repr

def Error.message : Error → String
  | .symbol byte offset => s!"Invalid symbol {byte.toNat}, offset {offset}."
  | .lastSymbol byte offset => s!"Invalid last symbol {byte.toNat}, offset {offset}."
  | .length n => s!"Invalid input length: {n}"
  | .padding => "Invalid padding"

def symbol (n : Nat) : Char :=
  if n < 26 then Char.ofNat (0x41 + n)
  else if n < 52 then Char.ofNat (0x61 + (n - 26))
  else if n < 62 then Char.ofNat (0x30 + (n - 52))
  else if n = 62 then '+' else '/'

def value? (b : UInt8) : Option Nat :=
  let n := b.toNat
  if 0x41 ≤ n ∧ n ≤ 0x5a then some (n - 0x41)
  else if 0x61 ≤ n ∧ n ≤ 0x7a then some (n - 0x61 + 26)
  else if 0x30 ≤ n ∧ n ≤ 0x39 then some (n - 0x30 + 52)
  else if n = 0x2b then some 62
  else if n = 0x2f then some 63
  else none

-- Four symbols for each three bytes; a shorter last group is padded.
def encode : List UInt8 → List Char
  | [] => []
  | [a] =>
    let n := a.toNat * 16
    [symbol (n / 64),symbol (n % 64),'=','=']
  | [a,b] =>
    let n := (a.toNat * 256 + b.toNat) * 4
    [symbol (n / 4096),symbol (n / 64 % 64),symbol (n % 64),'=']
  | a :: b :: c :: rest =>
    let n := (a.toNat * 256 + b.toNat) * 256 + c.toNat
    symbol (n / 262144) :: symbol (n / 4096 % 64) :: symbol (n / 64 % 64) :: symbol (n % 64) :: encode rest

def pad : UInt8 := 0x3d

-- Values of symbols from position `offset` on; the first that is none is named.
def values (offset : Nat) : List UInt8 → Except Error (List Nat)
  | [] => .ok []
  | b :: rest =>
    match value? b with
    | none => .error (.symbol b offset)
    | some n => return n :: (← values (offset + 1) rest)

def wholeGroups : List Nat → List UInt8
  | a :: b :: c :: d :: rest =>
    let n := ((a * 64 + b) * 64 + c) * 64 + d
    UInt8.ofNat (n / 65536) :: UInt8.ofNat (n / 256 % 256) :: UInt8.ofNat (n % 256) :: wholeGroups rest
  | _ => []

-- What has been read of the last group: its values, the last symbol, and how much padding, which began at `padAt`.
structure Tail where
  values : List Nat := []
  last : UInt8 := 0
  pads : Nat := 0
  padAt : Nat := 0

-- Reads the last group, which begins at position `start`. Padding may begin at its third place only, and nothing but
-- padding follows padding.
def readTail (start : Nat) : Nat → Tail → List UInt8 → Except Error Tail
  | _, tail, [] => .ok tail
  | i, tail, b :: rest =>
    if b == pad then
      if i < 2 then .error (.symbol b (start + i))
      else readTail start (i + 1)
        { tail with pads := tail.pads + 1,padAt := if tail.pads = 0 then i else tail.padAt } rest
    else if 0 < tail.pads then .error (.symbol pad (start + tail.padAt))
    else match value? b with
      | none => .error (.symbol b (start + i))
      | some n => readTail start (i + 1) { tail with values := tail.values ++ [n],last := b } rest

def finishTail (start : Nat) (tail : Tail) : Except Error (List UInt8) :=
  match tail.values with
  | [] => .ok []
  | [a,b] =>
    if b % 16 = 0 then .ok [UInt8.ofNat (a * 4 + b / 16)]
    else .error (.lastSymbol tail.last (start + 1))
  | [a,b,c] =>
    let n := (a * 64 + b) * 64 + c
    if c % 4 = 0 then .ok [UInt8.ofNat (n / 1024),UInt8.ofNat (n / 4 % 256)]
    else .error (.lastSymbol tail.last (start + 2))
  | vs => .ok (wholeGroups vs)

-- The bytes that the text encodes. A single symbol too many is looked at first, then the groups before the last from
-- the left, then the last group, then its length, its padding and its unused bits.
def decode (text : List UInt8) : Except Error (List UInt8) := do
  if text.length % 4 = 1 then
    if let some b := text.getLast? then
      if b != pad && (value? b).isNone then throw (.symbol b (text.length - 1))
  let start := (text.length - 1) / 4 * 4
  let front ← values 0 (text.take start)
  let tail ← readTail start 0 {} (text.drop start)
  if !text.isEmpty && tail.values.length < 2 then throw (.length (start + tail.values.length))
  if (tail.pads + tail.values.length) % 4 != 0 then throw .padding
  return wholeGroups front ++ (← finishTail start tail)

end HostNet.Text.Base64
