import AppServer.Decimal.Style
import AppServer.Toml.Datetime

/-!
# Values of a configuration document

A document is a table; a table holds named values in the order of their names.
-/

namespace AppServer.Toml

inductive Value where
  | text (value : String)
  | integer (value : Int)
  | float (value : Float)
  | boolean (value : Bool)
  | datetime (value : Datetime)
  | array (items : List Value)
  /-- Named values in the order of their names. -/
  | table (entries : List (String × Value))

abbrev Table := List (String × Value)

def Value.leafText? : Value → Option String
  | .text s => some s
  | .integer i => some (Text.decimalInt i)
  | .float f => some (Decimal.Style.plain.write f)
  | .boolean b => some (if b then "true" else "false")
  | .datetime d => some d.text
  | .array _ => none
  | .table _ => none

end AppServer.Toml
