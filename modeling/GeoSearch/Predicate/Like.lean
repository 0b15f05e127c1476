import GeoSearch.Predicate.Basic
import GeoSearch.Text.Fold
/-!
Text patterns: their tokens, the texts they are sent to the index in, and what they match.
-/
namespace GeoSearch.Like

inductive Token where
  /-- any run of characters, an empty one included -/
  | anyRun
  /-- any one character -/
  | single
  | char (c : Char)
  deriving Repr, DecidableEq

/-- A character is looked up as escape, then as wildcard, then as single. An escape makes the next
character stand for itself; at the end it stands for itself. -/
def tokensOf (w : Wildcards) : List Char → List Token
  | [] => []
  | c :: rest =>
    if c = w.escape then
      match rest with
      | [] => [.char c]
      | next :: rest => .char next :: tokensOf w rest
    else if c = w.anyRun then .anyRun :: tokensOf w rest
    else if c = w.single then .single :: tokensOf w rest
    else .char c :: tokensOf w rest

def tokens (w : Wildcards) (pattern : String) : List Token := tokensOf w pattern.toList

/-! ### Rendering -/

/-- How a pattern language writes tokens; reserved characters follow a backslash. -/
structure Dialect where
  anyRun : List Char
  single : List Char
  reserved : List Char

/-- The regular expressions of keyword fields. -/
def regexp : Dialect where
  anyRun := ['.', '*']
  single := ['.']
  reserved :=
    ['.', '?', '+', '*', '|', '\x7b', '\x7d', '[', ']', '(', ')', '"', '\\', '#', '@', '&', '<', '>',
      '~']

/-- The query strings of analyzed fields. -/
def queryString : Dialect where
  anyRun := ['*']
  single := ['?']
  reserved :=
    ['+', '-', '=', '&', '|', '>', '<', '!', '(', ')', '\x7b', '\x7d', '[', ']', '^', '"', '~', '*',
      '?', ':', '\\', '/']

/-- The regular expressions of local evaluation. -/
def expression : Dialect where
  anyRun := ['.', '*']
  single := ['.']
  reserved :=
    ['\\', '.', '+', '*', '?', '(', ')', '|', '[', ']', '\x7b', '\x7d', '^', '$', '#', '&', '-', '~']

def Dialect.token (d : Dialect) : Token → List Char
  | .anyRun => d.anyRun
  | .single => d.single
  | .char c => if d.reserved.contains c then ['\\', c] else [c]

def Dialect.chars (d : Dialect) (tokens : List Token) : List Char := tokens.flatMap d.token

def Dialect.render (d : Dialect) (w : Wildcards) (pattern : String) : String :=
  String.ofList (d.chars (tokens w pattern))

/-- The regular expression that local evaluation stands for, anchored at both ends. -/
def expressionText (w : Wildcards) (pattern : String) : String :=
  (if w.matchCase then "(?s)^" else "(?si)^") ++ expression.render w pattern ++ "$"

/-! ### Matching -/

/-- Whether one of the later ends of a text matches, for each of its ends. -/
def anyLater : List Bool → List Bool
  | [] => []
  | ends =>
    ends.foldr (fun here later => (here || later.headD false) :: later) []

/-- Given for each end of a text (the whole text first, the empty text last) whether it matches the
later tokens, tells for each end whether it matches one token and the later ones. -/
def Token.extend (matchCase : Bool) (text : List Char) (ends : List Bool) : Token → List Bool
  | .anyRun => anyLater ends
  | .single => ends.tail ++ [false]
  | .char c =>
    List.zipWith (fun d later => Text.sameChar matchCase c d && later) text ends.tail ++ [false]

/-- For each end of a text, whether it matches the tokens. -/
def matchingEnds (matchCase : Bool) (text : List Char) : List Token → List Bool
  | [] => text.map (fun _ => false) ++ [true]
  | token :: rest => token.extend matchCase text (matchingEnds matchCase text rest)

def matchesTokens (matchCase : Bool) (tokens : List Token) (text : List Char) : Bool :=
  (matchingEnds matchCase text tokens).headD false

def matchesText (w : Wildcards) (pattern text : String) : Bool :=
  matchesTokens w.matchCase (tokens w pattern) text.toList

end GeoSearch.Like
