import HostNet.Document.Yaml.Anchor

namespace HostNet.Document.Yaml

-- How many aliases may be followed for each part of what is written. Every text is read in the end, because this and
-- the depth are limited.
def followsPerPart : Nat := 100

-- How deep collections may be nested once aliases are followed.
def maxDepth : Nat := 128

abbrev Following := StateT Nat Option

namespace Linked

-- What an alias leads to, among nodes of which the last one with a number counts.
def follow (targets : List (Nat × Linked)) : Linked → Following Linked
  | .alias number => do
    match ← get with
    | 0 => failure
    | left + 1 =>
      set left
      liftM (targets.reverse.lookup number)
  | n => return n

def keyText (targets : List (Nat × Linked)) (n : Linked) : Following String := do
  match ← n.follow targets with
  | .scalar _ s _ => return s
  | _ => failure

-- The document of a node, with collections nested at most `depth` deep. An object has a member for each key: the last
-- one.
def toDocument (targets : List (Nat × Linked)) (depth : Nat) (n : Linked) : Following Document := do
  match depth, ← n.follow targets with
  | _, .scalar _ _ value => liftM value
  | depth + 1, .list _ items => return .list (← items.mapM fun n => toDocument targets depth n)
  | depth + 1, .object _ members =>
    let members ← members.mapM fun (key,value) => do
      return (some (← keyText targets key),← toDocument targets depth value)
    return .object (lastMembers members)
  | _, _ => failure

end Linked

def read? (text : String) : Option Document := do
  let node ← Node.ofTokens? (← tokens? text)
  let (linked,_) ← node.link.run []
  let (d,_) ← (linked.toDocument linked.anchored maxDepth).run (linked.size * followsPerPart)
  return d

end HostNet.Document.Yaml
