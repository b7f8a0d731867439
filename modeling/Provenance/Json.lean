import Provenance.Number.Numeral

/-!
# Json

JSON values. Numbers are exact: integers of any size, and decimal fractions as they are written. The
infinities and what is not a number have no digits and are spelled by name. An object keeps its
fields in their order.
-/

namespace Provenance

/-- A JSON value. -/
inductive Json where
  | null
  | bool (b : Bool)
  | integer (n : Int)
  | fraction (f : Numeral.Fraction)
  /-- A number without digits. -/
  | named (x : Binary64)
  | text (s : String)
  | list (items : List Json)
  | object (fields : List (String × Json))
  deriving Inhabited

namespace Json

/-- The value of a field; of fields with one name the last counts. -/
def field? (name : String) : Json → Option Json
  | .object fields => (fields.reverse.find? fun f => f.1 == name).map (·.2)
  | _ => none

end Json

end Provenance
