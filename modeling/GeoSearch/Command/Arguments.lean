import GeoSearch.Decimal.Reader
import GeoSearch.Json.Number
import GeoSearch.Text.Split
/-!
The commands of the command line and their options.
-/
namespace GeoSearch

inductive Command where
  /-- compiles the filter on the standard input -/
  | compile (schema : String)
  /-- finds the level of the grid for a box -/
  | precision (box : String) (maxBins : Option Nat) (config : Option String)
  deriving Repr, DecidableEq

namespace Command

structure Flag where
  name : String
  required : Bool
  /-- the value may start with a dash -/
  dashed : Bool
  /-- the value may be empty -/
  empty : Bool

def compileFlags : List Flag := [⟨"schema", true, false, false⟩]

def precisionFlags : List Flag :=
  [⟨"bbox", true, true, true⟩, ⟨"max-bins", false, false, true⟩, ⟨"config", false, false, false⟩]

def startsDashed (text : List Char) : Bool :=
  match text with
  | '-' :: _ :: _ => true
  | _ => false

/-- The name of an option and the value that follows its equals sign. -/
def flagText? (argument : String) : Option (String × Option String) :=
  match argument.toList with
  | '-' :: '-' :: text =>
    let name := text.takeWhile (· ≠ '=')
    match text.dropWhile (· ≠ '=') with
    | _ :: value => some (String.ofList name, some (String.ofList value))
    | [] => some (String.ofList name, none)
  | _ => none

/-- The values of options by name; every argument is an option or the value of one, and no option
occurs twice. -/
def values? (flags : List Flag) : List String → Option (List (String × String))
  | [] => some []
  | argument :: rest => do
    let (name, attached) ← flagText? argument
    -- two dashes alone end the options
    if name.isEmpty && attached.isNone then if rest.isEmpty then some [] else none
    else
      let flag ← flags.find? (·.name == name)
      let add (value : String) (others : Option (List (String × String))) :
          Option (List (String × String)) := do
        let others ← others
        if (value.isEmpty && !flag.empty) || (others.lookup name).isSome then none
        else some ((name, value) :: others)
      match attached, rest with
      | some value, rest => add value (values? flags rest)
      | none, value :: rest =>
        if startsDashed value.toList && !flag.dashed then none else add value (values? flags rest)
      | none, [] => none

/-- An unsigned 64-bit number in decimal digits, a plus sign allowed. -/
def unsigned? (text : String) : Option Nat :=
  let digits := match text.toList with
    | '+' :: rest => rest
    | all => all
  if digits.isEmpty || !digits.all Char.isDigit then none
  else
    let n := Decimal.natOfDigits digits
    if n ≤ Json.Number.maxUnsigned then some n else none

/-- The command of an argument list; none when it is used wrongly or asks for help. -/
def ofArguments? : List String → Option Command
  | "compile" :: rest => do
    let values ← values? compileFlags rest
    some (.compile (← values.lookup "schema"))
  | "precision" :: rest => do
    let values ← values? precisionFlags rest
    let box ← values.lookup "bbox"
    match values.lookup "max-bins" with
    | none => some (.precision box none (values.lookup "config"))
    | some bins => some (.precision box (some (← unsigned? bins)) (values.lookup "config"))
  | _ => none

end Command

end GeoSearch
