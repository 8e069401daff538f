import StubServer.Table
import StubServer.Text.Blank
import StubServer.Text.Percent

/-! # Query strings

`name=value` parts joined by `&`.  Empty parts are passed over, a part without `=` has an empty
value, and a name keeps all its values in order.
-/

namespace StubServer.Http.Query

abbrev Params := Table (List String)

/-- Adds a value behind those that the name has already. -/
def addValue (params : Params) (name value : String) : Params :=
  Table.update params name [] (· ++ [value])

def decodeChars (cs : List Char) : String := Text.Percent.decode (String.ofList cs)

def addPart (params : Params) (part : List Char) : Params :=
  if part.isEmpty then params
  else
    match Text.splitOnce '=' part with
    | some (name, value) => addValue params (decodeChars name) (decodeChars value)
    | none => addValue params (decodeChars part) (decodeChars [])

def parse (query : String) : Params :=
  (Text.splitChars '&' query.toList).foldl addPart []

end StubServer.Http.Query
