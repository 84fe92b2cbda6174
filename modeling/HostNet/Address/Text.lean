import HostNet.Address.Basic
import HostNet.Text.Hex

namespace HostNet.Address

-- How addresses may be written: whether decimal bytes may have leading zeros, and how many groups may follow two
-- colons.
structure Spelling where
  -- Bytes in decimal may begin with a needless zero.
  zeros : Bool
  -- The sign `::` may stand for no group at all.
  emptyRun : Bool

def Spelling.strict : Spelling := ⟨false,false⟩

def Spelling.lenient : Spelling := ⟨true,true⟩

-- Reads a run of at most `most` digits of the radix whose value is below `limit`.
def readNumber (radix most limit : Nat) (zeros : Bool) (s : List Char) : Option (Nat × List Char) :=
  let isDigit (c : Char) := ((Text.Hex.digit? c).getD radix) < radix
  let (digits,rest) := s.span isDigit
  let value := ofDigits radix (digits.filterMap Text.Hex.digit?)
  if digits.isEmpty || most < digits.length || limit ≤ value then none
  else if !zeros && digits.head? == some '0' && digits.length != 1 then none
  else some (value,rest)

def readSign (sign : Char) : List Char → Option (List Char)
  | [] => none
  | c :: rest => if c = sign then some rest else none

def readOctets (zeros : Bool) (s : List Char) : Option (List Nat × List Char) := do
  let byte := readNumber 10 3 256 zeros
  let (a,s) ← byte s
  let (b,s) ← byte (← readSign '.' s)
  let (c,s) ← byte (← readSign '.' s)
  let (d,s) ← byte (← readSign '.' s)
  return ([a,b,c,d],s)

-- Reads at most `left` groups with colons between them; four decimal bytes stand for the last two groups. The flag
-- tells whether they did.
def readGroups (zeros first : Bool) : Nat → List Char → List Nat × Bool × List Char
  | 0, s => ([],false,s)
  | left + 1, s =>
    match if first then some s else readSign ':' s with
    | none => ([],false,s)
    | some inner =>
      match if left = 0 then none else readOctets zeros inner with
      | some ([a,b,c,d],rest) => ([a * 256 + b,c * 256 + d],true,rest)
      | _ =>
        match readNumber 16 4 65536 true inner with
        | none => ([],false,s)
        | some (group,rest) =>
          let (groups,dotted,rest) := readGroups zeros false left rest
          (group :: groups,dotted,rest)

def readWide (spelling : Spelling) (s : List Char) : Option (Address × List Char) :=
  let (head,dotted,rest) := readGroups spelling.zeros true 8 s
  if head.length = 8 then some (ofNat .v6 (ofDigits 65536 head),rest)
  else if dotted then none
  else do
    let rest ← readSign ':' (← readSign ':' rest)
    let most := if spelling.emptyRun then 8 - head.length else 7 - head.length
    let (tail,_,rest) := readGroups spelling.zeros true most rest
    let run := List.replicate (8 - head.length - tail.length) 0
    return (ofNat .v6 (ofDigits 65536 (head ++ run ++ tail)),rest)

def readNarrow (spelling : Spelling) (s : List Char) : Option (Address × List Char) := do
  let (octets,rest) ← readOctets spelling.zeros s
  return (ofNat .v4 (ofDigits 256 octets),rest)

-- The address that a text denotes: of the narrow family if it begins like one.
def parse? (s : String) : Option Address :=
  match (readNarrow .strict s.toList).or (readWide .strict s.toList) with
  | some (a,[]) => some a
  | _ => none

def joined (separator : List Char) : List (List Char) → List Char
  | [] => []
  | [s] => s
  | s :: rest => s ++ separator ++ joined separator rest

def dottedText (octets : List Nat) : List Char :=
  joined ['.'] (octets.map fun n => (toString n).toList)

def groupsText (groups : List Nat) : List Char :=
  joined [':'] (groups.map Text.Hex.ofNat)

def zeroRun (groups : List Nat) : Nat :=
  (groups.takeWhile (· == 0)).length

-- The first of the longest runs of zero groups, as its place and its length.
def longestRun (groups : List Nat) : Nat × Nat :=
  (List.range groups.length).foldl (fun best i =>
    let length := zeroRun (groups.drop i)
    if best.2 < length then (i,length) else best) (0,0)

def isMapped (a : Address) : Bool :=
  a.family == .v6 && a.value >>> 32 == 0xffff

-- The canonical text: lowercase groups without leading zeros, the first of the longest runs of two or more zero
-- groups as two colons, and decimal bytes at the end of a mapped address of the narrow family.
def chars (a : Address) : List Char :=
  match a.family with
  | .v4 => dottedText a.octets
  | .v6 =>
    if a.isMapped then "::ffff:".toList ++ dottedText a.octets
    else
      let (start,length) := longestRun a.groups
      if 1 < length then
        groupsText (a.groups.take start) ++ [':',':'] ++ groupsText (a.groups.drop (start + length))
      else groupsText a.groups

def text (a : Address) : String :=
  String.ofList a.chars

instance : ToString Address := ⟨text⟩

end HostNet.Address
