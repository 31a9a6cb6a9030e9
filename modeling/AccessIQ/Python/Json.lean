import Mathlib.Tactic

/-
  JSON values as Python's reader produces them.

  An object is the list of its members in order; the reader
  keeps the last member of a repeated name, so the names are
  distinct.  A number is an integer or a floating point
  number, which may be infinite or not a number.

  Key definitions include:
    * `JsonNumber`
    * `Json`
    * `Json.get?`
-/

------------------------------------------------------------
-- Values
------------------------------------------------------------

namespace AccessIQ

namespace Python

/- Numbers of the JSON reader. -/
inductive JsonNumber where
  | int (n : Int)
  | float (q : Rat)
  | infinity (negative : Bool)
  | nan
  deriving DecidableEq, Repr

/- JSON values. -/
inductive Json where
  | null
  | bool (b : Bool)
  | number (n : JsonNumber)
  | string (s : String)
  | array (elements : List Json)
  | object (members : List (String × Json))
  deriving Repr

/- The members of a JSON object. -/
abbrev JsonObject := List (String × Json)

/- `dict.get` on the members of an object. -/
def JsonObject.get?
    (o : JsonObject)
    (key : String) :
    Option Json :=
  (o.find? fun member => member.1 == key).map Prod.snd

end Python

end AccessIQ
