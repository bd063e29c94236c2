import Launchplane.Text

/-!
# Launchplane.Json

**JSON values** as the code holds them: the payload of a record, the body of a
response. The readers take a value apart the way the code does. A field that is
not there is `null`, and most readers take a value of the wrong shape for a
missing one.
-/

namespace Launchplane

/-- A JSON value. Its numbers are integers: nothing here reads another one. -/
inductive JsonValue
  | null
  | bool (b : Bool)
  | number (n : Int)
  | string (s : String)
  | array (items : List JsonValue)
  | object (fields : List (String × JsonValue))

namespace JsonValue

/-- `value.get(name)` of a JSON object; anything else has no fields. -/
def field (value : JsonValue) (name : String) : JsonValue :=
  match value with
  | object fields => ((fields.find? (·.1 = name)).map Prod.snd).getD null
  | _ => null

/-- `str(value or "")`. The text of an array or an object is only ever compared with texts it
cannot equal, so one text stands for all of them. -/
def text : JsonValue → String
  | null | bool false | number 0 | array [] | object [] => ""
  | bool true => "True"
  | number n => toString n
  | string s => s
  | array _ => "[...]"
  | object _ => "{...}"

/-- `bool(value)`. -/
def truthy (value : JsonValue) : Prop := value.text ≠ ""

instance (value : JsonValue) : Decidable value.truthy := inferInstanceAs (Decidable (_ ≠ _))

/-- `str(value)`, with the same proviso. -/
def str : JsonValue → String
  | null => "None"
  | bool b => if b then "True" else "False"
  | number n => toString n
  | string s => s
  | array _ => "[...]"
  | object _ => "{...}"

/-- `value == text`. -/
def isText (value : JsonValue) (text : String) : Bool :=
  match value with
  | string s => s = text
  | _ => false

end JsonValue

end Launchplane
