namespace HostNet.Document

-- The least number that is too large for a finite double: half a unit of the last place above the greatest one.
def doubleBound : Nat := (1 <<< 1024) - (1 <<< 970)

def exceedsDouble (mantissa : Nat) (scale : Int) : Bool :=
  let size := (Nat.toDigits 10 mantissa).length
  if mantissa = 0 ∨ size + scale < 300 then false
  else if 320 < size + scale then true
  else match scale with
    | .ofNat n => doubleBound ≤ mantissa * Nat.pow 10 n
    | .negSucc n => doubleBound * Nat.pow 10 (n + 1) ≤ mantissa

def ofDigits (digits : List Char) : Nat :=
  digits.foldl (fun n c => n * 10 + (c.toNat - 0x30)) 0

def exponent? : List Char → Option Int
  | [] => some 0
  | mark :: rest =>
    if mark = 'e' ∨ mark = 'E' then
      let (negative,digits) := match rest with
        | '-' :: ds => (true,ds)
        | '+' :: ds => (false,ds)
        | ds => (false,ds)
      if digits.isEmpty || !digits.all Char.isDigit then none
      else some (if negative then -(ofDigits digits : Int) else ofDigits digits)
    else none

end HostNet.Document
