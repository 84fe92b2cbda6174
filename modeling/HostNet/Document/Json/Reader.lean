import HostNet.Document.Json.Token

namespace HostNet.Document.Json

-- A list or an object that is still open. What it holds so far stands in reverse; an object has read the key of the
-- value that comes next.
inductive Frame where
  | list (before : List Document)
  | member (before : List (Option String × Document)) (key : Option String)

-- The point that has been reached: what must come next, or the value just completed.
inductive Point where
  | value
  | firstItem
  | firstKey
  | key (before : List (Option String × Document))
  | colon (before : List (Option String × Document)) (key : Option String)
  | done (d : Document)

def startValue? (frames : List Frame) : Token → Option (List Frame × Point)
  | .scalar d => some (frames,.done d)
  | .text s => some (frames,.done (.text s))
  | .listOpen => some (frames,.firstItem)
  | .objectOpen => some (frames,.firstKey)
  | _ => none

def advance? (frames : List Frame) : Point → Token → Option (List Frame × Point)
  | .value, t => startValue? frames t
  | .firstItem, .listClose => some (frames,.done (.list []))
  | .firstItem, t => startValue? (.list [] :: frames) t
  | .firstKey, .objectClose => some (frames,.done (.object []))
  | .firstKey, .text s => some (frames,.colon [] s)
  | .key before, .text s => some (frames,.colon before s)
  | .colon before key, .colon => some (.member before key :: frames,.value)
  | .done d, .comma =>
    match frames with
    | .list before :: outer => some (.list (d :: before) :: outer,.value)
    | .member before key :: outer => some (outer,.key ((key,d) :: before))
    | [] => none
  | .done d, .listClose =>
    match frames with
    | .list before :: outer => some (outer,.done (.list (d :: before).reverse))
    | _ => none
  | .done d, .objectClose =>
    match frames with
    | .member before key :: outer => some (outer,.done (.object ((key,d) :: before).reverse))
    | _ => none
  | _, _ => none

-- Takes all tokens; the document is complete when nothing is open at their end.
def readFrom (frames : List Frame) (point : Point) : List Token → Option Document
  | [] =>
    match frames, point with
    | [], .done d => some d
    | _, _ => none
  | t :: rest => do
    let (frames,point) ← advance? frames point t
    readFrom frames point rest

def read? (s : String) : Option Document := do
  readFrom [] .value (← tokens? s)

def maxDepth : Nat := 127

def readLegible? (s : String) : Option Document :=
  (read? s).filter (·.isLegible maxDepth)

end HostNet.Document.Json
