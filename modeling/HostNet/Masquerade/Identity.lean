import HostNet.Digest.Label
import HostNet.Text.Quoted
import HostNet.Text.Utf8

namespace HostNet.Masquerade

-- Whom rules belong to: a network, and within it an interface of an instance.
structure Identity where
  network : String
  interface : String
  id : String
deriving DecidableEq, Repr, Inhabited

def Identity.ofNetwork (network : String) : Identity := ⟨network,"",""⟩

def chainStart : String := "PETA-"

def chainLength : Nat := 28

def chainName (network id : String) : String :=
  (Digest.label? chainLength chainStart (network ++ id)).getD chainStart

def chainComment (network id : String) : String :=
  "name " ++ Text.quoted network ++ " id: " ++ Text.quoted id

def shortHash (text : String) : String :=
  (Digest.label? 16 "" text).getD ""

def networkHash (network : String) : String := shortHash network

def instanceHash (identity : Identity) : String :=
  networkHash identity.network ++ "-" ++ shortHash (identity.interface ++ ":" ++ identity.id)

def commentLimit : Nat := 128

def unquoted (s : String) : String :=
  String.ofList (s.toList.filter (· != '"'))

def fullComment (identity : Identity) : String :=
  instanceHash identity ++ ", net: " ++ unquoted identity.network ++ ", if: " ++
    unquoted identity.interface ++ ", id: " ++ unquoted identity.id

-- The comment on rules of an instance, cut to the limit between two characters.
def instanceComment (identity : Identity) : String :=
  String.ofList (Text.takeBytes commentLimit (fullComment identity).toList)

end HostNet.Masquerade
