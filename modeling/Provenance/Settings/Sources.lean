import Provenance.Json.Reader
import Provenance.Settings.Dotenv
import Provenance.Settings.Schema
import Provenance.Text.Case
import Provenance.Text.Utf8

/-!
# Settings — Sources

Where settings come from: values given by the caller, variables of the environment, and variables of
an assignment file. A setting takes its value from the first of these that has one. Values are given
under the name of the setting; its variable is that name behind `AICOV_`. Names count in any letter
case; of several the first given value wins, and the last variable. A variable spells a list as
JSON.
-/

namespace Provenance

/-- Why settings cannot be loaded. -/
inductive SettingsFailure where
  /-- The variable of a list is not JSON. -/
  | notJson (field : String)
  /-- The assignment file is not UTF-8. -/
  | notText (flaw : Text.Utf8.Flaw)
  /-- Values are refused. -/
  | refused (refusals : List Refusal)

/-- What the variables of settings begin with, in lower case. -/
def variableStem : String := "aicov_"

/-- The value that variables give to a setting: that of the last one with its name, unless that one
is unset. -/
def variableOf? (known : Dotenv.Variables) (field : String) : Option String :=
  (known.reverse.find? fun entry => Text.lowerString entry.1 == variableStem ++ field).bind (·.2)

/-- The value that a variable spells. A list that is spelled as null is not given. -/
def valueOfVariable (field text : String) : Except SettingsFailure (Option Json) :=
  if listFields.contains field then
    match Json.ofString? text with
    | some .null => .ok none
    | some value => .ok (some value)
    | none => .error (.notJson field)
  else .ok (some (.text text))

/-- The settings that variables give values to. -/
def valuesOfVariables (known : Dotenv.Variables) :
    Except SettingsFailure (List (String × Json)) := do
  let given ← settingNames.mapM fun field =>
    match variableOf? known field with
    | none => .ok none
    | some text => (valueOfVariable field text).map fun value => value.map fun v => (field, v)
  return given.filterMap id

/-- Where settings come from. -/
structure SettingsSources where
  /-- The values given by the caller. -/
  given : List (String × Json) := []
  environment : List (String × String) := []
  /-- The text of the assignment file, if there is one. -/
  dotenv : Option String := none

/-- Given values under the names of settings. -/
def namedValues (given : List (String × Json)) : List (String × Json) :=
  given.map fun (name, value) => (Text.lowerString name, value)

namespace SettingsSources

/-- The variables of the environment. -/
def exported (s : SettingsSources) : Dotenv.Variables :=
  s.environment.map fun (name, value) => (name, some value)

/-- The variables of the assignment file. -/
def assigned (s : SettingsSources) : Dotenv.Variables :=
  match s.dotenv with
  | some text => Dotenv.read s.exported text
  | none => []

/-- The values of all sources, in the order in which they count. -/
def values (s : SettingsSources) : Except SettingsFailure (List (String × Json)) := do
  let file ← valuesOfVariables s.assigned
  let environment ← valuesOfVariables s.exported
  return namedValues s.given ++ environment ++ file

/-- The settings of some sources. -/
def load (s : SettingsSources) : Except SettingsFailure Settings := do
  match Settings.ofValues (← s.values) with
  | .accepted settings => .ok settings
  | .refused refusals => .error (.refused refusals)

end SettingsSources

end Provenance
