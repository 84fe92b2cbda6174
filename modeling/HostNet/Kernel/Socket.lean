import HostNet.Kernel.Description
import HostNet.Kernel.Driver
import HostNet.Kernel.Received

namespace HostNet.Kernel

inductive Request where
  | lookUpLink (m : LinkMessage)
  | listLinks (m : LinkMessage)
  | createLink (m : LinkMessage)
  | replaceLink (m : LinkMessage)
  | setLink (m : LinkMessage)
  | deleteLink (m : LinkMessage)
  | listAddresses
  | addAddress (m : AddressMessage)
  | listRoutes (family : Family)
deriving DecidableEq, Repr

-- The flags of a request: one for each request, four to have it acknowledged, 768 for listings, 1024 to create, 512
-- to refuse what is there and 256 to replace it.
def Request.flags : Request → Nat
  | .lookUpLink _ => 1
  | .listLinks _ | .listAddresses | .listRoutes _ => 1 + 768
  | .createLink _ | .setLink _ | .addAddress _ => 1 + 4 + 512 + 1024
  | .replaceLink _ => 1 + 4 + 256 + 1024
  | .deleteLink _ => 1 + 4

-- A socket: the replies to coming requests, where `none` closes it, whether it is closed, whether the last request
-- still waits, what was sent, and how many requests were sent over its whole life.
structure Socket where
  replies : List (Option (List Reply))
  closed : Bool
  waiting : Bool
  sent : List Request
  count : Nat
deriving DecidableEq, Repr

namespace Socket

def opened : Socket := ⟨[],false,false,[],0⟩

def isEnd (r : Reply) : Bool :=
  match r.content with
  | .done | .error _ => true
  | _ => false

-- The replies that are handed on: those up to the end that can be read, and of ends only a failure.
def delivered : List Reply → List Reply
  | [] => []
  | r :: rest =>
    if isEnd r then (if r.content.failure?.isSome then [r] else [])
    else r.received?.toList ++ delivered rest

-- Whether a request gets no answer. One that asks for no acknowledgement and for no listing ends with any reply, so
-- nothing comes after those that were lost.
def isLost (request : Request) (replies : List Reply) : Bool :=
  match request with
  | .lookUpLink _ => !replies.isEmpty && !replies.any isEnd && (delivered replies).isEmpty
  | _ => false

def closedError : Error := .other "A netlink request failed"

def waitingError : Error := .other "no reply"

def exchange (request : Request) : Step Socket Error (List Reply) := fun s =>
  if s.closed then .error closedError s
  else
    let next := s.replies.head?.getD (some [])
    let replies := next.getD []
    let waiting := isLost request replies
    let s : Socket := {
      replies := s.replies.tail
      closed := next.isNone
      waiting
      sent := s.sent ++ [request]
      count := s.count + 1 }
    if waiting then .error waitingError s else .ok (delivered replies) s

def list (request : Request) (read : Content → Option α) : Step Socket Error (Listing (List α)) := do
  Step.ofExcept (collect read (← exchange request))

def change (request : Request) : Step Socket Error Unit := do
  match (← exchange request).findSome? (·.content.failure?) with
  | some e => throw e
  | none => return ()

-- Requests the link of a name. The first reply decides.
def linkByName (name : String) : Step Socket Error (Listing Link) := do
  let replies ← exchange (.lookUpLink (.ofAttributes [.name name]))
  match replies.head? with
  | none => throw (.refused .noDevice)
  | some r =>
    match r.content with
    | .link m => return .complete m.link
    | content =>
      match content.failure? with
      | some e => throw e
      | none => throw (.other ("Received an unexpected message " ++ r.describe (← get).count))

-- Requests the VLANs of all ports. Of several messages about a port the last one counts.
def portVlans : Step Socket Error (Listing PortVlans) := do
  let found ← list (.listLinks .portListing) Content.portVlans?
  return { found with value := found.value.foldl (fun vlans port => vlans.put port.1 port.2) [] }

def driver : Driver Socket where
  linkByName := linkByName
  links := list (.listLinks (.ofAttributes [])) Content.link?
  addresses index := list .listAddresses (Content.linkAddress? index)
  routes family := list (.listRoutes family) Content.route?
  portVlans := portVlans
  addLink request := change (.createLink request.message)
  modifyLink request := change (.replaceLink request.message)
  setUp index := change (.setLink (.setting index upFlag))
  setPromiscuous index := change (.setLink (.setting index promiscuousFlag))
  deleteLink index := change (.deleteLink { LinkMessage.ofAttributes [] with index })
  addAddress index net := change (.addAddress (.adding index net))

end Socket
end HostNet.Kernel
