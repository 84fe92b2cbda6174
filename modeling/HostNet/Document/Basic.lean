namespace HostNet

-- A value of a document. The members of an object stand in their written order, repetitions included. A number that
-- is no integer keeps only whether it lies within the range of floating point, because no reader here accepts one; a
-- text is absent when its spelling stands for no sequence of characters.
inductive Document where
  | null
  | bool (b : Bool)
  | integer (n : Int)
  | fraction
  | excess
  | text (s : Option String)
  | list (items : List Document)
  | object (members : List (Option String × Document))
deriving Repr, Inhabited

namespace Document

def ofString (s : String) : Document :=
  .text (some s)

def ofNat (n : Nat) : Document :=
  .integer n

def ofInt64 (n : Int64) : Document :=
  .integer n.toInt

def ofUInt32 (n : UInt32) : Document :=
  .ofNat n.toNat

def ofOption (f : α → Document) : Option α → Document
  | none => .null
  | some a => f a

def ofList (f : α → Document) (items : List α) : Document :=
  .list (items.map f)

def ofMembers (members : List (String × Document)) : Document :=
  .object (members.map fun m => (some m.1,m.2))

def ofPresent (members : List (Option (String × Document))) : Document :=
  ofMembers (members.filterMap id)

mutual
-- Whether every text has characters, every number is in range, and lists and objects are nested at most `depth` deep.
def isLegible (depth : Nat) : Document → Bool
  | .null | .bool _ | .integer _ | .fraction => true
  | .excess => false
  | .text s => s.isSome
  | .list items => depth != 0 && areLegible (depth - 1) items
  | .object members => depth != 0 && membersAreLegible (depth - 1) members

def areLegible (depth : Nat) : List Document → Bool
  | [] => true
  | d :: rest => d.isLegible depth && areLegible depth rest

def membersAreLegible (depth : Nat) : List (Option String × Document) → Bool
  | [] => true
  | (key,d) :: rest => key.isSome && d.isLegible depth && membersAreLegible depth rest
end

def valuesOf (key : String) (members : List (Option String × Document)) : List Document :=
  (members.filter fun m => m.1 == some key).map Prod.snd

-- The members of an object of which no key stands again later.
def lastMembers : List (Option String × Document) → List (Option String × Document)
  | [] => []
  | m :: rest => if rest.any (·.1 == m.1) then lastMembers rest else m :: lastMembers rest

mutual
-- The document with one member for each key of an object: the last one.
def distinct : Document → Document
  | .list items => .list (distinctItems items)
  | .object members => .object (lastMembers (distinctMembers members))
  | d => d

def distinctItems : List Document → List Document
  | [] => []
  | d :: rest => d.distinct :: distinctItems rest

def distinctMembers : List (Option String × Document) → List (Option String × Document)
  | [] => []
  | (key,d) :: rest => (key,d.distinct) :: distinctMembers rest
end

end Document
end HostNet
