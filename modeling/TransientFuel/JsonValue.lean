import TransientFuel.Decimal.Layout
import TransientFuel.Text.Quoted

/-!
# JSON values

The values that the command can write as JSON, each on one line without blanks. Objects are written
with their fields in the order given, which is alphabetical throughout.
-/

namespace TransientFuel

/-- A JSON value. -/
inductive JsonValue where
  /-- No value. -/
  | null
  /-- A truth value. -/
  | bool (value : Bool)
  /-- A whole number. -/
  | integer (value : Int)
  /-- A single-precision number. -/
  | number (value : Float32)
  /-- A text. -/
  | text (value : String)
  /-- A list. -/
  | list (items : List JsonValue)
  /-- An object. -/
  | object (fields : List (String × JsonValue))

namespace JsonValue

mutual

/-- The text of a value. A number that is not finite has none and is written as no value. -/
def render : JsonValue → String
  | .null => "null"
  | .bool value => if value then "true" else "false"
  | .integer value => toString value
  | .number value => if value.isFinite then Decimal.json.render value else "null"
  | .text value => Text.jsonString value
  | .list items => "[" ++ ",".intercalate (renderItems items) ++ "]"
  | .object fields => "\x7b" ++ ",".intercalate (renderFields fields) ++ "\x7d"

/-- The texts of the items of a list. -/
def renderItems : List JsonValue → List String
  | [] => []
  | item :: rest => item.render :: renderItems rest

/-- The texts of the fields of an object. -/
def renderFields : List (String × JsonValue) → List String
  | [] => []
  | (name, value) :: rest => (Text.jsonString name ++ ":" ++ value.render) :: renderFields rest

end

/-- The value of a field of an object. -/
def field? : JsonValue → String → Option JsonValue
  | .object fields, name => fields.lookup name
  | _, _ => none

end JsonValue
end TransientFuel
