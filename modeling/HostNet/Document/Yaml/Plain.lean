import HostNet.Document.Basic
import HostNet.Document.Numeral
import HostNet.Document.Yaml.Tag

namespace HostNet.Document.Yaml

def nothing? (s : String) : Option Document :=
  if ["null","Null","NULL","~"].contains s then some .null else none

def truth? (s : String) : Option Document :=
  if ["true","True","TRUE"].contains s then some (.bool true)
  else if ["false","False","FALSE"].contains s then some (.bool false)
  else none

def digits? (base : Nat) (s : List Char) : Option Nat :=
  if s.isEmpty then none
  else s.foldlM (fun n c => do
    let d ← Text.Hex.digit? c
    if d < base then some (n * base + d) else none) 0

def bases : List (Char × Nat) := [('x',16),('o',8),('b',2)]

-- The number without its sign: digits, or a mark of another base and digits of that base.
def magnitude? (s : List Char) : Option Nat :=
  match s with
  | '0' :: mark :: rest =>
    match bases.lookup mark with
    | some base => digits? base rest
    | none => none
  | s => digits? 10 s

-- The integer that a numeral denotes. Decimal digits after a leading zero denote none.
def integer? (s : String) : Option Int :=
  match s.toList with
  | '-' :: rest => (magnitude? rest).map fun n => -(n : Int)
  | '+' :: rest => (magnitude? rest).map Int.ofNat
  | rest => (magnitude? rest).map Int.ofNat

def fits (bits : Nat) (n : Int) : Bool :=
  -((1 <<< (bits - 1) : Nat) : Int) ≤ n && n < ((1 <<< bits : Nat) : Int)

-- The value of an integer. One that needs more than 64 bits is refused, and one that needs more than 128 is no
-- integer.
def ofInteger? (n : Int) : Option (Option Document) :=
  if fits 64 n then some (some (.integer n))
  else if fits 128 n then some none
  else none

-- The value of a numeral with a point or an exponent, if it lies within the range of floating point.
def decimal? (s : List Char) : Option Document := do
  let s := match s with
    | '-' :: rest => rest
    | s => s
  let (whole,rest) := s.span Char.isDigit
  let (places,rest) := match rest with
    | '.' :: rest => rest.span Char.isDigit
    | rest => ([],rest)
  if whole.isEmpty && places.isEmpty then none
  let e ← exponent? rest
  if exceedsDouble (ofDigits (whole ++ places)) (e - places.length) then none else some .fraction

-- The value of a floating point number. Infinities and what is no number have none but `null`.
def floating? (s : String) : Option Document :=
  let unsigned := match s.toList with
    | '+' :: rest => rest
    | rest => rest
  if s.toList.head? == some '+' && unsigned.head? == some '-' then none
  else if [".inf",".Inf",".INF"].contains (String.ofList unsigned) then some .null
  else if ["-.inf","-.Inf","-.INF",".nan",".NaN",".NAN"].contains s then some .null
  else decimal? unsigned

-- Whether a scalar consists of digits after a leading zero. It is a text.
def isPadded (s : String) : Bool :=
  let digits := match s.toList with
    | '-' :: rest | '+' :: rest => rest
    | rest => rest
  1 < digits.length && digits.head? == some '0' && digits.all Char.isDigit

-- What a plain scalar without a tag stands for. Numbers that are refused stand for nothing at all.
def ofPlain? (s : String) : Option Document :=
  if s.isEmpty then some .null
  else match (nothing? s).or (truth? s) with
    | some d => some d
    | none =>
      match (integer? s).bind ofInteger? with
      | some found => found
      | none =>
        if isPadded s then some (.ofString s) else some ((floating? s).getD (.ofString s))

-- What a scalar with a tag stands for. A tag of a kind of its own is refused; one that only looks like it, because
-- its bytes are no text, leaves a plain scalar as it is.
def ofTagged? (tag : List UInt8) (plain : Bool) (s : String) : Option Document :=
  if namesOwnKind tag then none
  else if tag = coreTag "bool" then truth? s
  else if tag = coreTag "int" then ((integer? s).bind ofInteger?).join
  else if tag = coreTag "float" then floating? s
  else if tag = coreTag "null" then nothing? s
  else if isOwn tag && plain then ofPlain? s
  else some (.ofString s)

def ofScalar? (tag : Option (List UInt8)) (plain : Bool) (s : String) : Option Document :=
  match tag with
  | some tag => ofTagged? tag plain s
  | none => if plain then ofPlain? s else some (.ofString s)

end HostNet.Document.Yaml
