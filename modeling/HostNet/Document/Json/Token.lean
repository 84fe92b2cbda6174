import HostNet.Document.Basic
import HostNet.Document.Numeral

namespace HostNet.Document.Json

inductive Token where
  | listOpen
  | listClose
  | objectOpen
  | objectClose
  | comma
  | colon
  | scalar (d : Document)
  | text (s : Option String)
deriving Repr

-- The value of a numeral: an optional minus, digits without a needless leading zero, and optionally a point with
-- digits and an exponent. Only a numeral without point and exponent is an integer, and minus zero is none.
def numeral? (s : List Char) : Option Document :=
  let (negative,s) := match s with
    | '-' :: rest => (true,rest)
    | _ => (false,s)
  let (whole,rest) := s.span Char.isDigit
  if whole.isEmpty || (whole.head? == some '0' && whole.length != 1) then none
  else match rest with
    | [] =>
      let n := ofDigits whole
      if exceedsDouble n 0 then some .excess
      else if negative && n == 0 then some .fraction
      else some (.integer (if negative then -(n : Int) else n))
    | '.' :: rest =>
      let (places,rest) := rest.span Char.isDigit
      if places.isEmpty then none
      else do
        let e ← exponent? rest
        return if exceedsDouble (ofDigits (whole ++ places)) (e - places.length) then .excess else .fraction
    | rest => do
      let e ← exponent? rest
      return if exceedsDouble (ofDigits whole) e then .excess else .fraction

def word? (s : List Char) : Option Document :=
  if s = "null".toList then some .null
  else if s = "true".toList then some (.bool true)
  else if s = "false".toList then some (.bool false)
  else none

-- The characters of a text whose code units are given: two halves of a pair that follow each other are one character,
-- and a half on its own is none.
def assemble : List Nat → Option (List Char)
  | [] => some []
  | [n] => if 0xd800 ≤ n ∧ n < 0xe000 then none else some [Char.ofNat n]
  | n :: m :: rest =>
    if 0xd800 ≤ n ∧ n < 0xdc00 ∧ 0xdc00 ≤ m ∧ m < 0xe000 then
      (assemble rest).map (Char.ofNat (0x10000 + (n - 0xd800) * 0x400 + (m - 0xdc00)) :: ·)
    else if 0xd800 ≤ n ∧ n < 0xe000 then none
    else (assemble (m :: rest)).map (Char.ofNat n :: ·)

-- What is being read. The characters and code units read so far stand in reverse.
inductive Mode where
  | between
  | numeral (seen : List Char)
  | word (seen : List Char)
  | text (units : List Nat)
  | escape (units : List Nat)
  | code (units : List Nat) (left value : Nat)

def Mode.finish? : Mode → Option (List Token)
  | .between => some []
  | .numeral seen => (numeral? seen.reverse).map fun d => [.scalar d]
  | .word seen => (word? seen.reverse).map fun d => [.scalar d]
  | _ => none

def begin? (c : Char) : Option (List Token × Mode) :=
  match c with
  | ' ' | '\n' | '\t' | '\r' => some ([],.between)
  | '[' => some ([.listOpen],.between)
  | ']' => some ([.listClose],.between)
  | '\x7b' => some ([.objectOpen],.between)
  | '\x7d' => some ([.objectClose],.between)
  | ',' => some ([.comma],.between)
  | ':' => some ([.colon],.between)
  | '"' => some ([],.text [])
  | c =>
    if c = '-' ∨ c.isDigit then some ([],.numeral [c])
    else if c.isLower then some ([],.word [c])
    else none

def escaped? : Char → Option Nat
  | '"' => some 0x22
  | '\\' => some 0x5c
  | '/' => some 0x2f
  | 'b' => some 8
  | 'f' => some 0xc
  | 'n' => some 0xa
  | 'r' => some 0xd
  | 't' => some 9
  | _ => none

def hexDigit? (c : Char) : Option Nat :=
  if c.isDigit then some (c.toNat - 0x30)
  else if 'a' ≤ c ∧ c ≤ 'f' then some (c.toNat - 0x57)
  else if 'A' ≤ c ∧ c ≤ 'F' then some (c.toNat - 0x37)
  else none

def Mode.step? (mode : Mode) (c : Char) : Option (List Token × Mode) :=
  let fresh : Option (List Token × Mode) := do
    let done ← mode.finish?
    let (tokens,next) ← begin? c
    return (done ++ tokens,next)
  match mode with
  | .between => begin? c
  | .numeral seen =>
    if c.isDigit || c == '.' || c == 'e' || c == 'E' || c == '+' || c == '-' then
      some ([],.numeral (c :: seen))
    else fresh
  | .word seen => if c.isLower then some ([],.word (c :: seen)) else fresh
  | .text units =>
    if c = '"' then some ([.text ((assemble units.reverse).map String.ofList)],.between)
    else if c = '\\' then some ([],.escape units)
    else if c.toNat < 0x20 then none
    else some ([],.text (c.toNat :: units))
  | .escape units =>
    if c = 'u' then some ([],.code units 4 0)
    else (escaped? c).map fun n => ([],.text (n :: units))
  | .code units left value => do
    let n := value * 16 + (← hexDigit? c)
    return if left ≤ 1 then ([],.text (n :: units)) else ([],.code units (left - 1) n)

-- The tokens of a text from a mode on, after those in `seen`, which stand in reverse.
def tokensFrom (mode : Mode) (seen : List Token) : List Char → Option (List Token)
  | [] => mode.finish?.map fun last => (last.reverse ++ seen).reverse
  | c :: rest =>
    match mode.step? c with
    | none => none
    | some (tokens,next) => tokensFrom next (tokens.reverse ++ seen) rest

def tokens? (s : String) : Option (List Token) :=
  tokensFrom .between [] s.toList

end HostNet.Document.Json
