namespace HostNet.Text

def byteCount : List Char → Nat
  | [] => 0
  | c :: rest => c.utf8Size + byteCount rest

-- The longest run of whole characters from the front that takes at most `limit` bytes.
def takeBytes (limit : Nat) : List Char → List Char
  | [] => []
  | c :: rest => if c.utf8Size ≤ limit then c :: takeBytes (limit - c.utf8Size) rest else []

theorem byteCount_takeBytes_le (limit : Nat) (s : List Char) :
    byteCount (takeBytes limit s) ≤ limit := by
  induction s generalizing limit with
  | nil => simp [takeBytes,byteCount]
  | cons c rest ih =>
    simp only [takeBytes]
    split
    · have tail := ih (limit - c.utf8Size)
      simp only [byteCount] at tail ⊢
      omega
    · simp [byteCount]

def ofUtf8? (bytes : List UInt8) : Option String :=
  String.fromUTF8? ⟨bytes.toArray⟩

structure Lead where
  follow : Nat
  low : UInt8
  high : UInt8
  bits : Nat

-- The announcement of a leading byte, with the bounds that exclude overlong forms and surrogates.
def Lead.of? (b : UInt8) : Option Lead :=
  if b < 0x80 then some ⟨0,0x80,0xbf,b.toNat⟩
  else if 0xc2 ≤ b && b ≤ 0xdf then some ⟨1,0x80,0xbf,b.toNat % 32⟩
  else if b == 0xe0 then some ⟨2,0xa0,0xbf,b.toNat % 16⟩
  else if b == 0xed then some ⟨2,0x80,0x9f,b.toNat % 16⟩
  else if 0xe1 ≤ b && b ≤ 0xef then some ⟨2,0x80,0xbf,b.toNat % 16⟩
  else if b == 0xf0 then some ⟨3,0x90,0xbf,b.toNat % 8⟩
  else if 0xf1 ≤ b && b ≤ 0xf3 then some ⟨3,0x80,0xbf,b.toNat % 8⟩
  else if b == 0xf4 then some ⟨3,0x80,0x8f,b.toNat % 8⟩
  else none

-- Reads `follow` bytes of a character whose bits so far are `bits`; the first of them lies between the given bounds.
-- Stops at the first byte that does not belong, with the number of bytes that did.
def continueChar : Nat → UInt8 → UInt8 → Nat → List UInt8 → Option Char × Nat
  | 0, _, _, bits, _ => (some (Char.ofNat bits),0)
  | _ + 1, _, _, _, [] => (none,0)
  | follow + 1, low, high, bits, b :: rest =>
    if low ≤ b && b ≤ high then
      let (found,used) := continueChar follow 0x80 0xbf (bits * 64 + b.toNat % 64) rest
      (found,used + 1)
    else (none,0)

-- Characters of the bytes, with U+FFFD for every maximal beginning of a character that breaks off and for every byte
-- that begins none. `fuel` bounds the number of characters.
def lossyChars : Nat → List UInt8 → List Char
  | 0, _ | _, [] => []
  | fuel + 1, b :: rest =>
    match Lead.of? b with
    | none => '\ufffd' :: lossyChars fuel rest
    | some lead =>
      let (found,used) := continueChar lead.follow lead.low lead.high lead.bits rest
      found.getD '\ufffd' :: lossyChars fuel (rest.drop used)

def ofUtf8Lossy (bytes : List UInt8) : String :=
  String.ofList (lossyChars bytes.length bytes)

end HostNet.Text
