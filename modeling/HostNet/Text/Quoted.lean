import HostNet.Text.Hex
import HostNet.Text.Unprintable

namespace HostNet.Text.Quoted

def codePoint (c : Char) : List Char :=
  ['\\','u','\x7b'] ++ Hex.ofNat c.toNat ++ ['\x7d']

def escape (c : Char) : List Char :=
  match c with
  | '\x00' => ['\\','0']
  | '\t' => ['\\','t']
  | '\r' => ['\\','r']
  | '\n' => ['\\','n']
  | '"' => ['\\','"']
  | '\\' => ['\\','\\']
  | c => if isUnprintable c then codePoint c else [c]

def encode (s : List Char) : List Char :=
  ['"'] ++ s.flatMap escape ++ ['"']

end HostNet.Text.Quoted

namespace HostNet.Text

-- A text between double quotes, in which quotes, backslashes and everything without a visible form are escaped, so
-- that it shows where it ends.
def quoted (s : String) : String :=
  String.ofList (Quoted.encode s.toList)

end HostNet.Text
