import SqlWeave.OrderedMap
import SqlWeave.Text.Blank
import SqlWeave.Text.Case
import SqlWeave.Text.Reader

/-!
# Environments

Where settings come from: layers of names and values, the first of which that has a name decides
its value.
-/

namespace SqlWeave.Postgres

/-- Settings in layers. -/
structure Environment where
  layers : List (OrderedMap String)

/-- A setting whose value cannot be read. -/
inductive SettingFault where
  /-- The value is no flag. -/
  | notAFlag (key value : String)
  /-- The value is not of the setting's type. -/
  | malformed (key value : String)

def SettingFault.message : SettingFault → String
  | .notAFlag key value =>
    s!"Invalid value for {key}: {value}. Expected true, 1, yes, on OR false, 0, no, off"
  | .malformed key value => s!"Invalid value for {key}: {value}"

def flagNamed (s : String) : Option Bool :=
  match Text.lowerText (Text.trim s) with
  | "true" | "1" | "yes" | "on" => some true
  | "false" | "0" | "no" | "off" => some false
  | _ => none

namespace Environment

def get? (env : Environment) (key : String) : Option String :=
  env.layers.findSome? fun layer => layer.get? key

def flag (env : Environment) (key : String) (fallback : Bool) : Except SettingFault Bool :=
  match env.get? key with
  | none => .ok fallback
  | some value =>
    match flagNamed value with
    | some b => .ok b
    | none => .error (.notAFlag key value)

/-- The value of a setting that is a size, if it is set. -/
def size (env : Environment) (key : String) : Except SettingFault (Option Nat) :=
  match env.get? key with
  | none => .ok none
  | some value =>
    match Text.nat64? (Text.trim value).toList with
    | some n => .ok (some n)
    | none => .error (.malformed key value)

end Environment

end SqlWeave.Postgres
