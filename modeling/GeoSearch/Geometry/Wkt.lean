import GeoSearch.Geometry.Basic
import GeoSearch.Decimal.Layout
import GeoSearch.Decimal.Reader
/-!
Well-known text: the written form of geometry literals.
-/
namespace GeoSearch.Wkt

/-! ### Writing -/

def coordChars (c : Coord Float) : List Char :=
  (Decimal.measure c.x).toList ++ ' ' :: (Decimal.measure c.y).toList

def joined (separator : List Char) : List (List Char) → List Char
  | [] => []
  | [part] => part
  | part :: rest => part ++ separator ++ joined separator rest

def lineChars (coords : List (Coord Float)) : List Char := joined [','] (coords.map coordChars)

/-- Parts, each in parentheses, within parentheses. -/
def groupChars (parts : List (List Char)) : List Char :=
  ['(', '('] ++ joined [')', ',', '('] parts ++ [')', ')']

/-- The rings that are written: an empty exterior is left out. -/
def rings (p : Polygon Float) : List (List (Coord Float)) :=
  (if p.exterior.isEmpty then [] else [p.exterior]) ++ p.interiors

def ringsChars (p : Polygon Float) : List Char := groupChars ((rings p).map lineChars)

/-- A type word with its parts, or `EMPTY` when there are none. -/
def tagged (word : String) (isEmpty : Bool) (body : List Char) : List Char :=
  word.toList ++ if isEmpty then " EMPTY".toList else body

def polygonChars (p : Polygon Float) : List Char :=
  tagged "POLYGON" (rings p).isEmpty (ringsChars p)

mutual

def chars : Geometry Float → List Char
  | .point c => tagged "POINT" false ('(' :: coordChars c ++ [')'])
  | .line a b => tagged "LINESTRING" false ('(' :: lineChars [a, b] ++ [')'])
  | .lineString cs => tagged "LINESTRING" cs.isEmpty ('(' :: lineChars cs ++ [')'])
  | .polygon p => polygonChars p
  | .multiPoint cs => tagged "MULTIPOINT" cs.isEmpty (groupChars (cs.map coordChars))
  | .multiLineString ls => tagged "MULTILINESTRING" ls.isEmpty (groupChars (ls.map lineChars))
  | .multiPolygon ps =>
    tagged "MULTIPOLYGON" ps.isEmpty ('(' :: joined [','] (ps.map ringsChars) ++ [')'])
  | .collection gs =>
    tagged "GEOMETRYCOLLECTION" gs.isEmpty ('(' :: joined [','] (memberChars gs) ++ [')'])
  | .rect r => polygonChars r.toPolygon
  | .triangle a b c => polygonChars (trianglePolygon a b c)

def memberChars : List (Geometry Float) → List (List Char)
  | [] => []
  | g :: gs => chars g :: memberChars gs

end

def write (g : Geometry Float) : String := String.ofList (chars g)

/-! ### Tokens -/

inductive Token where
  | opening
  | closing
  | comma
  | number (value : Float)
  | word (text : String)
  /-- what starts like a number and is none -/
  | malformed

def isSpace (c : Char) : Bool := c = ' ' ∨ c = '\t' ∨ c = '\n' ∨ c = '\r'

def startsNumber (c : Char) : Bool := c.isDigit || c = '.' || c = '-' || c = '+'

/-- The token of a run of characters; one leading plus sign is dropped from numbers. -/
def Token.ofRun (run : List Char) : Token :=
  match run with
  | c :: rest =>
    if startsNumber c then
      match Decimal.read? (if c = '+' then rest else run) with
      | some x => .number x
      | none => .malformed
    else .word (String.ofList run)
  | [] => .malformed

/-- Splits text into tokens: a number or a word goes on up to a space, a bracket, a comma or the null
character. `run` holds the characters of the one being read, newest first. -/
def tokensFrom (run : List Char) : List Char → List Token
  | [] => if run.isEmpty then [] else [Token.ofRun run.reverse]
  | c :: rest =>
    let flush (tokens : List Token) : List Token :=
      if run.isEmpty then tokens else Token.ofRun run.reverse :: tokens
    if isSpace c then flush (tokensFrom [] rest)
    else if c = '(' then flush (.opening :: tokensFrom [] rest)
    else if c = ')' then flush (.closing :: tokensFrom [] rest)
    else if c = ',' then flush (.comma :: tokensFrom [] rest)
    else if c = '\x00' then flush (tokensFrom [c] rest)
    else tokensFrom (c :: run) rest

def tokens (text : String) : List Token := tokensFrom [] text.toList

/-! ### Reading -/

/-- A part and the tokens after it. -/
abbrev Part (β : Type) := List Token → Option (β × List Token)

def upper (word : String) : String := String.ofList (word.toList.map Char.toUpper)

def number? : Part Float
  | .number x :: rest => some (x, rest)
  | _ => none

/-- A position, and as many further ordinates as announced, which are dropped. -/
def position (extra : Nat) : Part (Coord Float) := fun tokens => do
  let (x, rest) ← number? tokens
  let (y, rest) ← number? rest
  let rest ← match extra with
    | 0 => some rest
    | 1 => (number? rest).map (·.2)
    | _ => (number? rest).bind fun (_, rest) => (number? rest).map (·.2)
  some (⟨x, y⟩, rest)

/-- One part or more with commas between them. -/
def separated (part : Part β) : (fuel : Nat) → Part (List β)
  | 0, _ => none
  | fuel + 1, tokens => do
    let (first, rest) ← part tokens
    match rest with
    | .comma :: rest =>
      let (others, rest) ← separated part fuel rest
      some (first :: others, rest)
    | rest => some ([first], rest)

def list (part : Part β) : Part (List β) := fun tokens => separated part tokens.length tokens

/-- A part in parentheses; `EMPTY` stands for the empty one. -/
def enclosed (empty : β) (part : Part β) : Part β := fun tokens =>
  match tokens with
  | .opening :: rest =>
    match part rest with
    | some (value, .closing :: rest) => some (value, rest)
    | _ => none
  | .word w :: rest => if upper w = "EMPTY" then some (empty, rest) else none
  | _ => none

def line (extra : Nat) : Part (List (Coord Float)) := enclosed [] (list (position extra))

def lines (extra : Nat) : Part (List (List (Coord Float))) := enclosed [] (list (line extra))

def polygonOf : List (List (Coord Float)) → Polygon Float
  | [] => ⟨[], []⟩
  | exterior :: interiors => Polygon.ofRings exterior interiors

/-- A member of a multipoint may stand without parentheses. -/
def bareOrEnclosed (extra : Nat) : Part (Coord Float) := fun tokens =>
  match tokens with
  | .opening :: rest =>
    match position extra rest with
    | some (c, .closing :: rest) => some (c, rest)
    | _ => none
  | tokens => position extra tokens

/-- The type word and the number of further ordinates, which a word may carry at its end. -/
def typeWord? (word : String) : Option (String × Option Nat) :=
  let w := upper word
  let types := ["POINT", "LINESTRING", "POLYGON", "MULTIPOINT", "MULTILINESTRING", "MULTIPOLYGON",
    "GEOMETRYCOLLECTION"]
  if w = "LINEARRING" then some ("LINESTRING", none)
  else types.findSome? fun t =>
    if w = t then some (t, none)
    else if w = t ++ "Z" ∨ w = t ++ "M" then some (t, some 1)
    else if w = t ++ "ZM" then some (t, some 2)
    else none

/-- The number of further ordinates that a word after the type announces. -/
def ordinates (given : Option Nat) (tokens : List Token) : Nat × List Token :=
  match given, tokens with
  | some n, tokens => (n, tokens)
  | none, .word w :: rest =>
    if upper w = "Z" ∨ upper w = "M" then (1, rest)
    else if upper w = "ZM" then (2, rest)
    else (0, tokens)
  | none, tokens => (0, tokens)

/-- A geometry from its type word on. An empty point is an empty multipoint. -/
def geometry : (fuel : Nat) → Part (Geometry Float)
  | 0, _ => none
  | fuel + 1, tokens =>
    match tokens with
    | .word word :: rest => do
      let (kind, glued) ← typeWord? word
      let (extra, rest) := ordinates glued rest
      match kind with
      | "POINT" =>
        (enclosed none (fun ts => (position extra ts).map fun (c, r) => (some c, r)) rest).map
          fun (c, rest) =>
            (match c with
              | some c => .point c
              | none => .multiPoint [], rest)
      | "LINESTRING" => (line extra rest).map fun (cs, rest) => (.lineString cs, rest)
      | "POLYGON" => (lines extra rest).map fun (rs, rest) => (.polygon (polygonOf rs), rest)
      | "MULTIPOINT" =>
        (enclosed [] (list (bareOrEnclosed extra)) rest).map fun (cs, rest) => (.multiPoint cs, rest)
      | "MULTILINESTRING" => (lines extra rest).map fun (ls, rest) => (.multiLineString ls, rest)
      | "MULTIPOLYGON" =>
        (enclosed [] (list (lines extra)) rest).map fun (ps, rest) =>
          (.multiPolygon (ps.map polygonOf), rest)
      | _ =>
        (enclosed [] (list (geometry fuel)) rest).map fun (gs, rest) => (.collection gs, rest)
    | _ => none

/-- The geometry of a text. What follows a complete geometry is not looked at. -/
def read? (text : String) : Option (Geometry Float) :=
  let tokens := tokens text
  (geometry (tokens.length + 1) tokens).map (·.1)

end GeoSearch.Wkt
