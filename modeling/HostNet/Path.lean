namespace HostNet.Path

-- Paths are read off their text alone: nothing is resolved or made shorter.
def isAbsolute (path : String) : Bool :=
  path.toList.head? == some '/'

-- A path below another. An absolute path replaces it, and the slash between the two is not doubled.
def join (base child : String) : String :=
  if isAbsolute child || base.isEmpty then child
  else if base.toList.getLast? == some '/' then base ++ child
  else base ++ "/" ++ child

def pieces (separator : Char) (s : List Char) : List (List Char) :=
  s.foldr (fun c acc =>
    if c = separator then [] :: acc
    else match acc with
      | [] => [[c]]
      | piece :: rest => (c :: piece) :: rest) [[]]

def names (path : String) : List String :=
  ((pieces '/' path.toList).filter (!·.isEmpty)).map String.ofList

def lastName (path : String) : List Char :=
  (path.toList.reverse.takeWhile (· != '/')).reverse

-- The name without its extension, and the extension: what follows the last point, unless that point is the first
-- character.
def splitExtension (name : List Char) : List Char × Option (List Char) :=
  let extension := (name.reverse.takeWhile (· != '.')).reverse
  let stem := name.take (name.length - extension.length - 1)
  if extension.length = name.length || stem.isEmpty then (name,none) else (stem,some extension)

def extension? (path : String) : Option String :=
  match (names path).getLast? with
  | none => none
  | some name => if name = ".." then none else (splitExtension name.toList).2.map String.ofList

-- The path with another extension of its last name. A name of which only `..` is left without its extension is no
-- name of a file and gets none.
def withExtension (path extension : String) : String :=
  let name := lastName path
  let stem := (splitExtension name).1
  let before := path.toList.take (path.toList.length - name.length)
  if stem = ['.'] then String.ofList (before ++ ['.','.'])
  else String.ofList (before ++ stem) ++ "." ++ extension

-- A reversed path from its last character that belongs to a name on.
def trimFront : List Char → List Char
  | '/' :: rest => if rest.isEmpty then ['/'] else trimFront rest
  | '.' :: '/' :: rest => if rest.isEmpty then ['/'] else trimFront rest
  | s => s

def trimmed (path : List Char) : List Char :=
  (trimFront path.reverse).reverse

-- The path without its last name; none if there is nothing before it.
def parent? (path : String) : Option String :=
  let body := trimmed path.toList
  if body.isEmpty || body = ['/'] then none
  else
    let name := (body.reverse.takeWhile (· != '/')).reverse
    some (String.ofList (trimmed (body.take (body.length - name.length))))

-- Whether a piece of a path names nothing but the place where it stands.
def isIdle (piece : List Char) : Bool :=
  piece.isEmpty || piece == ['.']

-- What a path has after a root, without the idle pieces at its ends.
def after? (root path : String) : Option String :=
  if (root ++ "/").toList.isPrefixOf path.toList then
    let below := pieces '/' (path.toList.drop (root.length + 1))
    let kept := ((below.dropWhile isIdle).reverse.dropWhile isIdle).reverse
    some ("/".intercalate (kept.map String.ofList))
  else none

end HostNet.Path
