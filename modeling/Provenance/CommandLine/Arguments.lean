import Provenance.Number.Numeral
import Provenance.Text.Blank
import Provenance.Text.Digit

/-!
# CommandLine — Arguments

The grammar of the command line: a command, then options and operands in any order. A long option
takes its value from behind an equals sign or from the next argument, a short one from the rest of
its argument or from the next; short options without values can be joined. Two dashes end the
options.
-/

namespace Provenance.CommandLine

/-! ## Options -/

/-- An option of a command. -/
structure OptionSpec where
  /-- With its two dashes. -/
  long : String
  short : Option Char := none
  takesValue : Bool := false

/-- An option that was given, with its value if it takes one. -/
structure Given where
  long : String
  value : String := ""

/-- What a command was given. -/
structure Arguments where
  options : List Given := []
  operands : List String := []

namespace Arguments

/-- Whether an option was given. -/
def has (a : Arguments) (long : String) : Bool := a.options.any fun g => g.long == long

/-- The values that an option was given, in order. -/
def values (a : Arguments) (long : String) : List String :=
  (a.options.filter fun g => g.long == long).map Given.value

end Arguments

/-! ## Reading -/

/-- What reading the arguments of a long option gives: the option, and the arguments behind it. -/
def readLong (specs : List OptionSpec) (arg : List Char) (rest : List String) :
    Option (Given × List String) :=
  let name := String.ofList (arg.takeWhile (· != '='))
  let behind := arg.dropWhile (· != '=')
  match specs.find? fun s => s.long == name with
  | none => none
  | some spec =>
    match spec.takesValue, behind, rest with
    | true, _ :: value, _ => some (⟨name, String.ofList value⟩, rest)
    | true, [], value :: rest => some (⟨name, value⟩, rest)
    | true, [], [] => none
    | false, [], _ => some (⟨name, ""⟩, rest)
    | false, _ :: _, _ => none

/-- What reading joined short options gives: the options, and the arguments behind them. -/
def readShort (specs : List OptionSpec) (rest : List String) :
    List Char → Option (List Given × List String)
  | [] => some ([], rest)
  | c :: cs =>
    match specs.find? fun s => s.short == some c with
    | none => none
    | some spec =>
      if spec.takesValue then
        match cs, rest with
        | [], [] => none
        | [], value :: rest => some ([⟨spec.long, value⟩], rest)
        | _ :: _, _ => some ([⟨spec.long, String.ofList cs⟩], rest)
      else
        (readShort specs rest cs).map fun (given, rest) => (⟨spec.long, ""⟩ :: given, rest)

/-- Reads arguments into what was read before them. The fuel bounds the count of arguments. -/
def readArguments (specs : List OptionSpec) : Nat → Arguments → List String → Option Arguments
  | _, taken, [] => some taken
  | 0, _, _ => none
  | fuel + 1, taken, arg :: rest =>
    match arg.toList with
    | ['-', '-'] => some { taken with operands := taken.operands ++ rest }
    | '-' :: '-' :: _ =>
      match readLong specs arg.toList rest with
      | none => none
      | some (given, rest) =>
        readArguments specs fuel { taken with options := taken.options ++ [given] } rest
    | '-' :: c :: cs =>
      match readShort specs rest (c :: cs) with
      | none => none
      | some (given, rest) =>
        readArguments specs fuel { taken with options := taken.options ++ given } rest
    | _ => readArguments specs fuel { taken with operands := taken.operands ++ [arg] } rest

/-- What a command was given, if that follows the grammar. -/
def parse (specs : List OptionSpec) (args : List String) : Option Arguments :=
  readArguments specs args.length {} args

/-! ## Numbers -/

/-- The positive count that a value spells, with blanks around it and digits of any script. -/
def positiveCount? (value : String) : Option Nat :=
  let digits := (Text.strip value.toList).map Text.asciiDigit
  let number := match Numeral.plainInteger? digits with
    | some n => some n
    | none => (Numeral.ungroup? digits).bind Numeral.plainInteger?
  number.bind fun n => if 1 ≤ n then some n.toNat else none

end Provenance.CommandLine
