import HostNet.Digest.Sha512
import HostNet.Text.Hex

namespace HostNet.Digest

def hexDigest (text : String) : List Char :=
  Text.Hex.ofBytes (Sha512.digest text.toUTF8.toList)

theorem length_hexDigest (text : String) : (hexDigest text).length = 128 := by
  simp [hexDigest,Text.Hex.length_ofBytes,Sha512.length_digest]

-- A label of exactly `length` bytes that begins with `start` and goes on with the digest of a text, so that who knows
-- both finds it again. There is none if `start` leaves no room for a digit, or if more digits would be needed than a
-- digest has.
def label? (length : Nat) (start text : String) : Option String :=
  if length ≤ start.utf8ByteSize ∨ 128 < length then none
  else some (start ++ String.ofList ((hexDigest text).take (length - start.utf8ByteSize)))

end HostNet.Digest
