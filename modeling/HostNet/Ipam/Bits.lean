namespace HostNet.Ipam

-- Bits in words of 64, the lowest first. A bit beyond the last word is clear and cannot be set.
structure Bits where
  words : Array UInt64
deriving DecidableEq, Repr

namespace Bits

def ofCapacity (n : Nat) : Bits := ⟨Array.replicate ((n + 63) / 64) 0⟩

def capacity (b : Bits) : Nat := 64 * b.words.size

def mask (place : Nat) : UInt64 := 1 <<< UInt64.ofNat (place % 64)

def get (b : Bits) (place : Nat) : Bool :=
  match b.words[place / 64]? with
  | some w => w &&& mask place != 0
  | none => false

def set (b : Bits) (place : Nat) : Bits := ⟨b.words.modify (place / 64) (· ||| mask place)⟩

def clear (b : Bits) (place : Nat) : Bits := ⟨b.words.modify (place / 64) (· &&& ~~~ mask place)⟩

def onesOfWord (start : Nat) (w : UInt64) : List Nat :=
  if w = 0 then []
  else (List.range' start 64).filter fun place => w &&& mask (place - start) != 0

def onesOfWords (start : Nat) : List UInt64 → List Nat
  | [] => []
  | w :: rest => onesOfWord start w ++ onesOfWords (start + 64) rest

def ones (b : Bits) : List Nat := onesOfWords 0 b.words.toList

def bytesOfWord (w : UInt64) : List UInt8 :=
  [w.toUInt8,(w >>> 8).toUInt8,(w >>> 16).toUInt8,(w >>> 24).toUInt8,
    (w >>> 32).toUInt8,(w >>> 40).toUInt8,(w >>> 48).toUInt8,(w >>> 56).toUInt8]

-- The number whose binary digits are the bits, as bytes from the highest on without leading zeros.
def toBytes (b : Bits) : List UInt8 :=
  (b.words.toList.flatMap bytesOfWord).reverse.dropWhile (· == 0)

-- Sets the bits of a byte, the lowest of which stands at `start`, as far as they are below `limit`.
def setByte (limit start : Nat) (b : Bits) (byte : UInt8) : Bits :=
  (List.range 8).foldl (fun b i =>
    if byte.toNat.testBit i && start + i < limit then b.set (start + i) else b) b

def setBytes (limit start : Nat) (b : Bits) : List UInt8 → Bits
  | [] => b
  | byte :: rest => setBytes limit (start + 8) (setByte limit start b byte) rest

-- The bits below `limit` of the number that bytes denote, the highest first.
def ofBytes (limit : Nat) (bytes : List UInt8) : Bits :=
  setBytes limit 0 (ofCapacity limit) bytes.reverse

end Bits
end HostNet.Ipam
