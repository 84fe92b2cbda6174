import HostNet.Address.Text
import HostNet.Subnet.Basic

namespace HostNet.Subnet

-- Reads a subnet from an address that has been read; the length has at most as many digits as the width of the
-- family.
def readLength (a : Address) (s : List Char) : Option Subnet := do
  let rest ← Address.readSign '/' s
  let most := match a.family with
    | .v4 => 2
    | .v6 => 3
  let (length,rest) ← Address.readNumber 10 most (a.family.width + 1) true rest
  if rest.isEmpty then some (ofAddress a length) else none

def parse? (s : String) : Option Subnet :=
  let narrow := Address.readNarrow .lenient s.toList
  let wide := Address.readWide .lenient s.toList
  (narrow.bind fun r => readLength r.1 r.2).or (wide.bind fun r => readLength r.1 r.2)

def text (s : Subnet) : String :=
  s.address.text ++ "/" ++ toString s.length

instance : ToString Subnet := ⟨text⟩

end HostNet.Subnet
