import GeoSearch.Json.Basic
/-!
Reading a document from text. The reader takes one character at a time and keeps the containers
that are still open on a stack, so a text is read by one fold. Containers nest at most 127 deep.
-/
namespace GeoSearch.Json

/-- A container that is still open, its parts newest first. -/
inductive Frame where
  | array (items : List Json)
  | object (members : Members)
  /-- an object whose last key waits for its value -/
  | member (members : Members) (key : String)

/-- Inside quotes: plain text, or part of an escape. -/
inductive Escape where
  | none
  | letter
  /-- hexadecimal digits of a unit, after the high half of a pair if there is one -/
  | unit (high : Option Nat) (digits value : Nat)
  /-- the high half of a pair was read and a second escape must follow -/
  | pair (high : Nat)
  | pairUnit (high : Nat)

inductive Mode where
  /-- a value must start; after an opening bracket the array may close instead -/
  | value (mayClose : Bool)
  /-- a key must start; after an opening brace the object may close instead -/
  | key (mayClose : Bool)
  | colon (key : String)
  /-- inside quotes, the text so far newest first -/
  | quoted (forKey : Bool) (escape : Escape) (text : List Char)
  | number (text : List Char)
  /-- the rest of `null`, `true` or `false` -/
  | word (rest : List Char) (value : Json)
  /-- a value is complete -/
  | after (value : Json)

structure Reader where
  mode : Mode
  frames : List Frame

namespace Reader

def depthLimit : Nat := 127

def start : Reader := ⟨.value false, []⟩

def isSpace (c : Char) : Bool := c = ' ' ∨ c = '\t' ∨ c = '\n' ∨ c = '\r'

def inNumber (c : Char) : Bool := c.isDigit || c = '.' || c = 'e' || c = 'E' || c = '+' || c = '-'

def open? (frame : Frame) (mode : Mode) (frames : List Frame) : Option Reader :=
  if frames.length < depthLimit then some ⟨mode, frame :: frames⟩ else none

/-- A character where a value must start. -/
def beginValue (c : Char) (mayClose : Bool) (frames : List Frame) : Option Reader :=
  if isSpace c then some ⟨.value mayClose, frames⟩
  else if c = '"' then some ⟨.quoted false .none [], frames⟩
  else if c = '-' ∨ c.isDigit then some ⟨.number [c], frames⟩
  else if c = '[' then open? (.array []) (.value true) frames
  else if c = '\x7b' then open? (.object []) (.key true) frames
  else if c = 'n' then some ⟨.word ['u', 'l', 'l'] .null, frames⟩
  else if c = 't' then some ⟨.word ['r', 'u', 'e'] (.bool true), frames⟩
  else if c = 'f' then some ⟨.word ['a', 'l', 's', 'e'] (.bool false), frames⟩
  else if c = ']' ∧ mayClose then
    match frames with
    | .array [] :: frames => some ⟨.after (.array []), frames⟩
    | _ => none
  else none

/-- A character after a complete value. -/
def continue? (c : Char) (value : Json) (frames : List Frame) : Option Reader :=
  if isSpace c then some ⟨.after value, frames⟩
  else match frames with
    | .array items :: rest =>
      if c = ',' then some ⟨.value false, .array (value :: items) :: rest⟩
      else if c = ']' then some ⟨.after (.array (value :: items).reverse), rest⟩
      else none
    | .member members key :: rest =>
      if c = ',' then some ⟨.key false, .object ((key, value) :: members) :: rest⟩
      else if c = '\x7d' then some ⟨.after (.object ((key, value) :: members).reverse), rest⟩
      else none
    | _ => none

def beginKey (c : Char) (mayClose : Bool) (frames : List Frame) : Option Reader :=
  if isSpace c then some ⟨.key mayClose, frames⟩
  else if c = '"' then some ⟨.quoted true .none [], frames⟩
  else if c = '\x7d' ∧ mayClose then
    match frames with
    | .object [] :: frames => some ⟨.after (.object []), frames⟩
    | _ => none
  else none

def colon? (c : Char) (key : String) (frames : List Frame) : Option Reader :=
  if isSpace c then some ⟨.colon key, frames⟩
  else if c = ':' then
    match frames with
    | .object members :: rest => some ⟨.value false, .member members key :: rest⟩
    | _ => none
  else none

def unescape? : Char → Option Char
  | '"' => some '"'
  | '\\' => some '\\'
  | '/' => some '/'
  | 'b' => some '\x08'
  | 'f' => some '\x0c'
  | 'n' => some '\n'
  | 'r' => some '\r'
  | 't' => some '\t'
  | _ => none

def hexValue? (c : Char) : Option Nat :=
  if c.isDigit then some (c.toNat - '0'.toNat)
  else if 'a' ≤ c ∧ c ≤ 'f' then some (c.toNat - 'a'.toNat + 10)
  else if 'A' ≤ c ∧ c ≤ 'F' then some (c.toNat - 'A'.toNat + 10)
  else none

/-- A complete unit: a character, the high half of a pair, or a low half that completes one. -/
def unit? (high : Option Nat) (value : Nat) : Option (Escape × List Char) :=
  match high with
  | some h =>
    if 0xDC00 ≤ value ∧ value ≤ 0xDFFF then
      some (.none, [Char.ofNat (0x10000 + (h - 0xD800) * 0x400 + (value - 0xDC00))])
    else none
  | none =>
    if 0xDC00 ≤ value ∧ value ≤ 0xDFFF then none
    else if 0xD800 ≤ value ∧ value ≤ 0xDBFF then some (.pair value, [])
    else some (.none, [Char.ofNat value])

/-- A character inside quotes, which is not the closing one. -/
def inQuotes? (c : Char) (escape : Escape) (text : List Char) : Option (Escape × List Char) :=
  match escape with
  | .none =>
    if c = '\\' then some (.letter, text)
    else if c.toNat < 0x20 then none
    else some (.none, c :: text)
  | .letter =>
    if c = 'u' then some (.unit none 0 0, text)
    else (unescape? c).map fun d => (.none, d :: text)
  | .unit high digits value => do
    let d ← hexValue? c
    let value := 16 * value + d
    if digits < 3 then some (.unit high (digits + 1) value, text)
    else
      let (escape, read) ← unit? high value
      some (escape, read ++ text)
  | .pair high => if c = '\\' then some (.pairUnit high, text) else none
  | .pairUnit high => if c = 'u' then some (.unit (some high) 0 0, text) else none

def quoted? (c : Char) (forKey : Bool) (escape : Escape) (text : List Char)
    (frames : List Frame) : Option Reader :=
  match c, escape with
  | '"', .none =>
    let s := String.ofList text.reverse
    some ⟨if forKey then .colon s else .after (.string s), frames⟩
  | c, escape => (inQuotes? c escape text).map fun (escape, text) => ⟨.quoted forKey escape text, frames⟩

def step (r : Reader) (c : Char) : Option Reader :=
  match r.mode with
  | .value mayClose => beginValue c mayClose r.frames
  | .key mayClose => beginKey c mayClose r.frames
  | .colon key => colon? c key r.frames
  | .quoted forKey escape text => quoted? c forKey escape text r.frames
  | .number text =>
    if inNumber c then some ⟨.number (c :: text), r.frames⟩
    else (Number.read? text.reverse).bind fun n => continue? c (.number n) r.frames
  | .word [] value => continue? c value r.frames
  | .word (expected :: rest) value => if c = expected then some ⟨.word rest value, r.frames⟩ else none
  | .after value => continue? c value r.frames

def finish (r : Reader) : Option Json :=
  match r.frames, r.mode with
  | [], .after value => some value
  | [], .word [] value => some value
  | [], .number text => (Number.read? text.reverse).map .number
  | _, _ => none

end Reader

/-- The document a text spells, with every member of its objects, repeated keys included. -/
def spelled? (text : String) : Option Json :=
  (text.toList.foldlM Reader.step Reader.start).bind Reader.finish

/-- The document a text stands for. -/
def parse? (text : String) : Option Json := (spelled? text).map merged

end GeoSearch.Json
