import HostNet.Document.Yaml.Node
import HostNet.Document.Yaml.Plain

namespace HostNet.Document.Yaml

-- A node whose anchors and aliases have numbers. A scalar has its text, which counts where it is a key, and its
-- value, which may be refused.
inductive Linked where
  | alias (anchor : Nat)
  | scalar (anchor : Option Nat) (text : String) (value : Option Document)
  | list (anchor : Option Nat) (items : List Linked)
  | object (anchor : Option Nat) (members : List (Linked × Linked))

-- Every anchor has a number, the number of names that came before it. An alias takes the number that its name has
-- where it stands, and leads to the last node with that number.
abbrev Anchors := List (String × Nat)

def Anchors.define (anchors : Anchors) (name : String) : Anchors :=
  (name,anchors.length) :: anchors.filter (·.1 != name)

abbrev Numbering := StateT Anchors Option

def numberAnchor (p : Properties) : Numbering (Option Nat) := do
  match p.anchor with
  | none => return none
  | some name =>
    let number := (← get).length
    modify (·.define name)
    return some number

-- Numbers the anchor of a list or an object. A tag of a kind of its own is refused.
def numberCollection (p : Properties) : Numbering (Option Nat) :=
  if p.tag.any namesOwnKind then failure else numberAnchor p

namespace Node

mutual

-- The node with numbers. An alias has to follow its anchor.
def link : Node → Numbering Linked
  | .alias name => do
    match (← get).lookup name with
    | some number => return .alias number
    | none => failure
  | .scalar p plain s => do return .scalar (← numberAnchor p) s (ofScalar? p.tag plain s)
  | .list p items => do
    let number ← numberCollection p
    return .list number (← linkItems items)
  | .object p members => do
    let number ← numberCollection p
    return .object number (← linkMembers members)

def linkItems : List Node → Numbering (List Linked)
  | [] => return []
  | n :: rest => do
    let item ← n.link
    return item :: (← linkItems rest)

def linkMembers : List (Node × Node) → Numbering (List (Linked × Linked))
  | [] => return []
  | (k,v) :: rest => do
    let key ← k.link
    let value ← v.link
    return (key,value) :: (← linkMembers rest)

end

end Node

namespace Linked

def numbered (anchor : Option Nat) (n : Linked) : List (Nat × Linked) :=
  anchor.toList.map ((·,n))

mutual

-- The nodes that have numbers, in the order of their beginnings.
def anchored : Linked → List (Nat × Linked)
  | .alias _ => []
  | .scalar anchor s value => numbered anchor (.scalar anchor s value)
  | .list anchor items => numbered anchor (.list anchor items) ++ anchoredItems items
  | .object anchor members => numbered anchor (.object anchor members) ++ anchoredMembers members

def anchoredItems : List Linked → List (Nat × Linked)
  | [] => []
  | n :: rest => n.anchored ++ anchoredItems rest

def anchoredMembers : List (Linked × Linked) → List (Nat × Linked)
  | [] => []
  | (k,v) :: rest => k.anchored ++ v.anchored ++ anchoredMembers rest

end

mutual

-- The size of what is written: scalars and aliases count once, lists and objects twice.
def size : Linked → Nat
  | .alias _ | .scalar _ _ _ => 1
  | .list _ items => 2 + sizeOfItems items
  | .object _ members => 2 + sizeOfMembers members

def sizeOfItems : List Linked → Nat
  | [] => 0
  | n :: rest => n.size + sizeOfItems rest

def sizeOfMembers : List (Linked × Linked) → Nat
  | [] => 0
  | (k,v) :: rest => k.size + v.size + sizeOfMembers rest

end

end Linked
end HostNet.Document.Yaml
