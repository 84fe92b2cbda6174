import HostNet.Program.Format

namespace HostNet.Program

def byteClasses : List (String × List (Nat × Nat)) := [
  ("[:lower:]",[(0x61,0x7a)]),
  ("[:upper:]",[(0x41,0x5a)]),
  ("[:digit:]",[(0x30,0x39)]),
  ("[:alpha:]",[(0x41,0x5a),(0x61,0x7a)]),
  ("[:alnum:]",[(0x30,0x39),(0x41,0x5a),(0x61,0x7a)]),
  ("[:blank:]",[(9,9),(0x20,0x20)]),
  ("[:space:]",[(9,0xd),(0x20,0x20)])]

def byteRange (low high : Nat) : List UInt8 :=
  (List.range' low (high + 1 - low)).map UInt8.ofNat

-- A set with its ranges written out; nothing if a range runs backwards.
def expandRanges : Nat → List UInt8 → Option (List UInt8)
  | 0, _ | _, [] => some []
  | fuel + 1, a :: 0x2d :: b :: rest =>
    if b < a then none else (expandRanges fuel rest).map (byteRange a.toNat b.toNat ++ ·)
  | fuel + 1, b :: rest => (expandRanges fuel rest).map (b :: ·)

def byteSet? (s : String) : Option (List UInt8) :=
  match byteClasses.lookup s with
  | some ranges => some (ranges.flatMap fun r => byteRange r.1 r.2)
  | none =>
    let bytes := (expandEscapes false [] s.length s.toList).1
    expandRanges bytes.length bytes

-- What a byte becomes: the byte of the target at the last place where it stands in the source, or the last byte of a
-- target that is too short.
def mapByte (source target : List UInt8) (b : UInt8) : UInt8 :=
  let pairs := (source.zip (target ++ List.replicate (source.length - target.length) (target.getLast?.getD b)))
  (pairs.reverse.lookup b).getD b

def squeeze (set : List UInt8) : List UInt8 → List UInt8
  | a :: b :: rest => if a == b && set.contains a then squeeze set (b :: rest) else a :: squeeze set (b :: rest)
  | rest => rest

def reversedRange (program set : String) : Outcome :=
  .complained (program ++ ": range-endpoints of '" ++ set ++ "' are in reverse collating sequence order") 1 []

def tr : Utility := fun arguments input =>
  let (options,sets) := arguments.span fun a => "-".isPrefixOf a && 1 < a.length
  let has (c : Char) := options.any (·.toList.contains c)
  let of (set : List UInt8) := if has 'c' || has 'C' then (byteRange 0 0xff).filter (!set.contains ·) else set
  match sets with
  | [] => .complained "tr: missing operand\nTry 'tr --help' for more information." 1 input
  | first :: rest =>
    match byteSet? first, byteSet? (rest.head?.getD "") with
    | none, _ => reversedRange "tr" first
    | _, none => reversedRange "tr" (rest.head?.getD "")
    | some source, some target =>
      let source := of source
      let kept := if has 'd' then input.filter (!source.contains ·)
        else if rest.isEmpty then input
        else input.map (mapByte source target)
      if rest.isEmpty && !has 'd' && !has 's' then
        .complained ("tr: missing operand after '" ++ first ++
          "'\nTwo strings must be given when translating.\nTry 'tr --help' for more information.") 1 input
      else .wrote (if has 's' then squeeze (if rest.isEmpty then source else target) kept else kept) []

end HostNet.Program
