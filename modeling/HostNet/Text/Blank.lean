namespace HostNet.Text

-- The white space of Unicode.
def isBlank (c : Char) : Bool :=
  let n := c.toNat
  (0x9 ≤ n && n ≤ 0xd) || n == 0x20 || n == 0x85 || n == 0xa0 || n == 0x1680 ||
    (0x2000 ≤ n && n ≤ 0x200a) || n == 0x2028 || n == 0x2029 || n == 0x202f || n == 0x205f ||
    n == 0x3000

def dropBlanksEnd (s : List Char) : List Char :=
  (s.reverse.dropWhile isBlank).reverse

def trimEnd (s : String) : String :=
  String.ofList (dropBlanksEnd s.toList)

def trim (s : String) : String :=
  String.ofList (dropBlanksEnd (s.toList.dropWhile isBlank))

-- The runs of other characters between blanks. The word that is being read stands in reverse.
def wordsFrom (seen : List Char) : List Char → List (List Char)
  | [] => if seen.isEmpty then [] else [seen.reverse]
  | c :: rest =>
    if isBlank c then (if seen.isEmpty then wordsFrom [] rest else seen.reverse :: wordsFrom [] rest)
    else wordsFrom (c :: seen) rest

def words (s : List Char) : List String :=
  (wordsFrom [] s).map String.ofList

def occursIn (part : List Char) : List Char → Bool
  | [] => part.isEmpty
  | c :: rest => part.isPrefixOf (c :: rest) || occursIn part rest

end HostNet.Text
