import HostNet.Program.Basic

namespace HostNet.Program

-- A piece of a word: a character as it stands, or a parameter whose value is put in later. Blanks in the value of a
-- parameter without quotes separate words.
inductive Piece where
  | text (s : List Char)
  | parameter (name : String) (quoted : Bool)

abbrev Word := List Piece

inductive Sink where
  | output
  | errors
  | nowhere
deriving DecidableEq

-- A word or an operator. A redirection says which output it changes, and either that of which it becomes a copy or
-- that a file follows.
inductive ShellToken where
  | word (w : Word)
  | ends
  | both
  | either
  | pipe
  | copy (source target : Nat)
  | redirect (source : Nat)

def parameterName (s : List Char) : String × List Char :=
  let isName (c : Char) := c.isAlphanum || c == '_'
  match s with
  | '\x7b' :: rest =>
    let (name,rest) := rest.span (· != '\x7d')
    (String.ofList name,rest.drop 1)
  | c :: rest =>
    if c.isDigit || ['$','?','#','@','*'].contains c then (String.singleton c,rest)
    else
      let (name,rest) := s.span isName
      (String.ofList name,rest)
  | [] => ("",[])

def appendText (w : Option Word) (s : List Char) : Option Word := some (w.getD [] ++ [.text s])

def readParameter (quoted : Bool) (w : Option Word) (s : List Char) : Option Word × List Char :=
  let (name,rest) := parameterName s
  if name.isEmpty then (appendText w ['$'],s) else (some (w.getD [] ++ [.parameter name quoted]),rest)

-- The tokens so far with the word that has been read, if there is one. Tokens stand in reverse.
def flush (w : Option Word) (tokens : List ShellToken) : List ShellToken :=
  match w with
  | some w => .word w :: tokens
  | none => tokens

-- The output that a redirection changes: the one whose number stands before it, or else the first.
def redirected (w : Option Word) : Nat × Option Word :=
  match w with
  | some [.text [c]] => if c.isDigit then (c.toNat - 0x30,none) else (1,w)
  | w => (1,w)

inductive Quotes where
  | outside
  | single
  | double

-- Reads the words and operators of a text, or nothing if a quote is left open.
def readShell (q : Quotes) (w : Option Word) (tokens : List ShellToken) : Nat → List Char → Option (List ShellToken)
  | 0, _ => none
  | fuel + 1, s =>
    match q, s with
    | .outside, [] => some (flush w tokens).reverse
    | _, [] => none
    | .single, '\'' :: rest => readShell .outside w tokens fuel rest
    | .single, c :: rest => readShell .single (appendText w [c]) tokens fuel rest
    | .double, '"' :: rest => readShell .outside w tokens fuel rest
    | .double, '\\' :: '\n' :: rest => readShell .double w tokens fuel rest
    | .double, '\\' :: c :: rest =>
      let plain := ['$','"','\\','\x60'].contains c
      readShell .double (appendText w (if plain then [c] else ['\\',c])) tokens fuel rest
    | .double, '$' :: rest =>
      let (w,rest) := readParameter true w rest
      readShell .double w tokens fuel rest
    | .double, c :: rest => readShell .double (appendText w [c]) tokens fuel rest
    | .outside, '\'' :: rest => readShell .single (appendText w []) tokens fuel rest
    | .outside, '"' :: rest => readShell .double (appendText w []) tokens fuel rest
    | .outside, '\\' :: '\n' :: rest => readShell .outside w tokens fuel rest
    | .outside, '\\' :: c :: rest => readShell .outside (appendText w [c]) tokens fuel rest
    | .outside, '$' :: rest =>
      let (w,rest) := readParameter false w rest
      readShell .outside w tokens fuel rest
    | .outside, '&' :: '&' :: rest => readShell .outside none (.both :: flush w tokens) fuel rest
    | .outside, '|' :: '|' :: rest => readShell .outside none (.either :: flush w tokens) fuel rest
    | .outside, '|' :: rest => readShell .outside none (.pipe :: flush w tokens) fuel rest
    | .outside, '>' :: '&' :: c :: rest =>
      if c.isDigit then
        let (source,w) := redirected w
        readShell .outside none (.copy source (c.toNat - 0x30) :: flush w tokens) fuel rest
      else none
    | .outside, '>' :: rest =>
      let (source,w) := redirected w
      readShell .outside none (.redirect source :: flush w tokens) fuel rest
    | .outside, '<' :: rest => readShell .outside none (.redirect 0 :: flush w tokens) fuel rest
    | .outside, c :: rest =>
      if c == ' ' || c == '\t' then readShell .outside none (flush w tokens) fuel rest
      else if c == ';' || c == '\n' then readShell .outside none (.ends :: flush w tokens) fuel rest
      else if c == '#' && w.isNone then readShell .outside none tokens fuel (rest.dropWhile (· != '\n'))
      else if ['&','(',')','\x60'].contains c then none
      else readShell .outside (appendText w [c]) tokens fuel rest

def shellTokens? (s : String) : Option (List ShellToken) :=
  readShell .outside none [] (s.length + 1) s.toList

end HostNet.Program
