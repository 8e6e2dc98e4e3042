import SnippetRunner.Number.Shortest

/-!
Values of a settings document, whatever format it is written in. A table keeps its fields in order and has
no name twice.
-/

namespace SnippetRunner.Settings

inductive Value where
  | null
  | bool (value : Bool)
  -- from -2^63 on and below 2^64
  | integer (value : Int)
  | float (value : Binary64)
  | string (text : String)
  | array (items : List Value)
  | table (fields : List (String × Value))

abbrev Fields := List (String × Value)

namespace Fields

def get? (name : String) (fields : Fields) : Option Value :=
  (fields.find? fun field => field.1 == name).map Prod.snd

/-- Gives a name a value, in the place of the one it had. -/
def put (name : String) (value : Value) : Fields → Fields
  | [] => [(name, value)]
  | field :: rest =>
      if field.1 == name then (name, value) :: rest else field :: put name value rest

end Fields
end SnippetRunner.Settings
