import HostNet.Document.Yaml.Token

namespace HostNet.Document.Yaml

structure Properties where
  anchor : Option String
  tag : Option (List UInt8)

-- Scalars, lists and objects with their anchors and tags, and aliases of them. What is left out is an empty plain
-- scalar.
inductive Node where
  | alias (name : String)
  | scalar (properties : Properties) (plain : Bool) (text : String)
  | list (properties : Properties) (items : List Node)
  | object (properties : Properties) (members : List (Node × Node))

namespace Node

def empty : Node := .scalar ⟨none,none⟩ true ""

abbrev Reading := StateT (List Token) Option

def peek : Reading (Option Token) := do return (← get).head?

def take : Reading Unit := modify List.tail

abbrev Handles := List (String × List UInt8)

-- The bytes of a tag with what its handle stands for.
def fullTag? (handles : Handles) (tag : Tag) : Option (List UInt8) :=
  if tag.handle.isEmpty then some tag.rest else (handles.lookup tag.handle).map (· ++ tag.rest)

def readTag (handles : Handles) : Reading (Option (List UInt8)) := do
  match ← peek with
  | some (.tag tag) =>
    take
    return some (← liftM (fullTag? handles tag))
  | _ => return none

def readAnchor : Reading (Option String) := do
  match ← peek with
  | some (.anchor name) =>
    take
    return some name
  | _ => return none

def readProperties (handles : Handles) : Reading Properties := do
  match ← readAnchor with
  | some anchor => return ⟨some anchor,← readTag handles⟩
  | none =>
    let tag ← readTag handles
    if tag.isNone then return ⟨none,none⟩
    return ⟨← readAnchor,tag⟩

def endsItem : Option Token → Bool
  | none | some .item | some .blockEnd => true
  | _ => false

-- The same in a list that is not indented in its object.
def endsLooseItem : Option Token → Bool
  | none | some .item | some .key | some .value | some .blockEnd => true
  | _ => false

def endsMember : Option Token → Bool
  | none | some .key | some .value | some .blockEnd => true
  | _ => false

def endsFlowKey (close : Token → Bool) : Option Token → Bool
  | none | some .value | some .comma => true
  | some t => close t

def endsFlowValue (close : Token → Bool) : Option Token → Bool
  | none | some .comma => true
  | some t => close t

def closesList : Token → Bool
  | .flowListClose => true
  | _ => false

def closesObject : Token → Bool
  | .flowObjectClose => true
  | _ => false

def takeComma (isFirst : Bool) : Reading Unit := do
  if isFirst then return ()
  match ← peek with
  | some .comma => take
  | _ => failure

mutual

-- Reads a node. `block` tells whether it may be a collection by indentation, and `loose` whether it may be a list
-- that is not indented in its object.
def read (handles : Handles) (block loose : Bool) : Nat → Reading Node
  | 0 => failure
  | fuel + 1 => do
    if let some (.alias name) ← peek then
      take
      return .alias name
    let p ← readProperties handles
    match ← peek with
    | some .item =>
      if loose then return .list p (← readLooseItems handles fuel)
      else if p.anchor.isSome || p.tag.isSome then return .scalar p true ""
      else failure
    | some (.scalar plain s) =>
      take
      return .scalar p plain s
    | some .flowListOpen =>
      take
      return .list p (← readFlowItems handles true fuel)
    | some .flowObjectOpen =>
      take
      return .object p (← readFlowMembers handles true fuel)
    | some .blockList =>
      if block then
        take
        return .list p (← readItems handles fuel)
      else if p.anchor.isSome || p.tag.isSome then return .scalar p true ""
      else failure
    | some .blockObject =>
      if block then
        take
        return .object p (← readMembers handles fuel)
      else if p.anchor.isSome || p.tag.isSome then return .scalar p true ""
      else failure
    | _ => if p.anchor.isSome || p.tag.isSome then return .scalar p true "" else failure

def readUnless (handles : Handles) (ends : Option Token → Bool) (block loose : Bool) : Nat → Reading Node
  | 0 => failure
  | fuel + 1 => do
    if ends (← peek) then return .empty else read handles block loose fuel

def readItems (handles : Handles) : Nat → Reading (List Node)
  | 0 => failure
  | fuel + 1 => do
    match ← peek with
    | some .item =>
      take
      let node ← readUnless handles endsItem true false fuel
      return node :: (← readItems handles fuel)
    | some .blockEnd =>
      take
      return []
    | _ => failure

def readLooseItems (handles : Handles) : Nat → Reading (List Node)
  | 0 => failure
  | fuel + 1 => do
    match ← peek with
    | some .item =>
      take
      let node ← readUnless handles endsLooseItem true false fuel
      return node :: (← readLooseItems handles fuel)
    | _ => return []

def readMembers (handles : Handles) : Nat → Reading (List (Node × Node))
  | 0 => failure
  | fuel + 1 => do
    match ← peek with
    | some .key =>
      take
      let key ← readUnless handles endsMember true true fuel
      let value ← readValue handles endsMember true fuel
      return (key,value) :: (← readMembers handles fuel)
    | some .blockEnd =>
      take
      return []
    | _ => failure

-- Reads the value after a colon; without the colon it is left out.
def readValue (handles : Handles) (ends : Option Token → Bool) (block : Bool) : Nat → Reading Node
  | 0 => failure
  | fuel + 1 => do
    match ← peek with
    | some .value =>
      take
      readUnless handles ends block block fuel
    | _ => return .empty

-- Reads the items of a list in brackets. An item may be a key with its value, which is an object by itself.
def readFlowItems (handles : Handles) (isFirst : Bool) : Nat → Reading (List Node)
  | 0 => failure
  | fuel + 1 => do
    if let some .flowListClose ← peek then
      take
      return []
    takeComma isFirst
    match ← peek with
    | some .flowListClose =>
      take
      return []
    | some .key =>
      take
      let ends := endsFlowKey closesList (← peek)
      let key ← readUnless handles (endsFlowKey closesList) false false fuel
      if ends then take
      let value ← readValue handles (endsFlowValue closesList) false fuel
      return .object ⟨none,none⟩ [(key,value)] :: (← readFlowItems handles false fuel)
    | _ =>
      let node ← read handles false false fuel
      return node :: (← readFlowItems handles false fuel)

def readFlowMembers (handles : Handles) (isFirst : Bool) : Nat → Reading (List (Node × Node))
  | 0 => failure
  | fuel + 1 => do
    if let some .flowObjectClose ← peek then
      take
      return []
    takeComma isFirst
    match ← peek with
    | some .flowObjectClose =>
      take
      return []
    | some .key =>
      take
      let key ← readUnless handles (endsFlowKey closesObject) false false fuel
      let value ← readValue handles (endsFlowValue closesObject) false fuel
      return (key,value) :: (← readFlowMembers handles false fuel)
    | _ =>
      let key ← read handles false false fuel
      return (key,.empty) :: (← readFlowMembers handles false fuel)

end

def commonHandles : Handles := [("!",bytesOf ['!']),("!!",coreTag "")]

-- Reads directives. The version may be given once, and each handle too.
def readDirectives (version : Bool) (handles : Handles) : Nat → Reading Handles
  | 0 => failure
  | fuel + 1 => do
    match ← peek with
    | some (.directive (.version major minor)) =>
      if version || major != 1 || (minor != 1 && minor != 2) then failure
      take
      readDirectives true handles fuel
    | some (.directive (.handle name start)) =>
      if (handles.lookup name).isSome then failure
      take
      readDirectives version ((name,start) :: handles) fuel
    | _ => return handles

def startsMarked : Token → Bool
  | .directive _ | .documentStart => true
  | _ => false

def endsDocument : Option Token → Bool
  | none | some .documentEnd => true
  | some t => startsMarked t

-- Reads the one document of a stream. A stream without tokens has an empty one.
def readDocument (fuel : Nat) : Reading Node := do
  match ← peek with
  | none => return .empty
  | some t =>
    let node ← if startsMarked t then do
        let handles ← readDirectives false [] fuel
        match ← peek with
        | some .documentStart =>
          take
          readUnless (handles ++ commonHandles) endsDocument true false fuel
        | _ => failure
      else read commonHandles true false fuel
    modify (·.dropWhile fun | .documentEnd => true | _ => false)
    return node

def ofTokens? (tokens : List Token) : Option Node := do
  let (node,rest) ← (readDocument (4 * tokens.length + 4)).run tokens
  if rest.isEmpty then some node else none

end Node
end HostNet.Document.Yaml
