import HostNet.Path
import HostNet.Text.Hex

namespace HostNet.Config

def macByte? : List Char → Option UInt8
  | [a,b] => do
    let high ← Text.Hex.digit? a
    let low ← Text.Hex.digit? b
    return UInt8.ofNat (16 * high + low)
  | _ => none

-- The six bytes of a hardware address, in hexadecimal with colons between them. A text with a dash anywhere is
-- divided at dashes.
def macBytes? (s : String) : Option (List UInt8) := do
  let separator := if s.toList.contains '-' then '-' else ':'
  let bytes ← (Path.pieces separator s.toList).mapM macByte?
  if bytes.length = 6 then return bytes else none

end HostNet.Config
