import HostNet.Document.Basic
import HostNet.Text.Hex

namespace HostNet.Document.Json

def escape (c : Char) : List Char :=
  match c with
  | '"' => ['\\','"']
  | '\\' => ['\\','\\']
  | '\x08' => ['\\','b']
  | '\x0c' => ['\\','f']
  | '\n' => ['\\','n']
  | '\r' => ['\\','r']
  | '\t' => ['\\','t']
  | c =>
    if c.toNat < 0x20 then
      ['\\','u','0','0',Text.Hex.digit (c.toNat / 16),Text.Hex.digit (c.toNat % 16)]
    else [c]

-- A text between quotes; one without characters is written as the empty text.
def writeText (s : Option String) : List Char :=
  ['"'] ++ (s.getD "").toList.flatMap escape ++ ['"']

-- A value without parts. Numbers that are no integers do not occur in what is written.
def writeScalar : Document → List Char
  | .null => "null".toList
  | .bool true => "true".toList
  | .bool false => "false".toList
  | .integer n => (toString n).toList
  | .text s => writeText s
  | _ => "null".toList

mutual
def write : Document → List Char
  | .list items => '[' :: writeItems items ++ [']']
  | .object members => '\x7b' :: writeMembers members ++ ['\x7d']
  | d => writeScalar d

def writeItems : List Document → List Char
  | [] => []
  | [d] => write d
  | d :: rest => write d ++ ',' :: writeItems rest

def writeMembers : List (Option String × Document) → List Char
  | [] => []
  | [(key,d)] => writeText key ++ ':' :: write d
  | (key,d) :: rest => writeText key ++ ':' :: write d ++ ',' :: writeMembers rest
end

def newLine (level : Nat) : List Char :=
  '\n' :: List.replicate (2 * level) ' '

mutual
def writeLines (level : Nat) : Document → List Char
  | .list [] => ['[',']']
  | .list items => '[' :: writeItemLines (level + 1) items ++ newLine level ++ [']']
  | .object [] => ['\x7b','\x7d']
  | .object members => '\x7b' :: writeMemberLines (level + 1) members ++ newLine level ++ ['\x7d']
  | d => writeScalar d

def writeItemLines (level : Nat) : List Document → List Char
  | [] => []
  | [d] => newLine level ++ writeLines level d
  | d :: rest => newLine level ++ writeLines level d ++ ',' :: writeItemLines level rest

def writeMemberLines (level : Nat) : List (Option String × Document) → List Char
  | [] => []
  | [(key,d)] => newLine level ++ writeText key ++ [':',' '] ++ writeLines level d
  | (key,d) :: rest =>
    newLine level ++ writeText key ++ [':',' '] ++ writeLines level d ++ ',' :: writeMemberLines level rest
end

end HostNet.Document.Json

namespace HostNet.Document

def toJson (d : Document) : String :=
  String.ofList (Json.write d)

def toJsonLines (d : Document) : String :=
  String.ofList (Json.writeLines 0 d)

end HostNet.Document
