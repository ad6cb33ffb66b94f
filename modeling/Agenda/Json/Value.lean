/-!
# JSON values

The values that a JSON document can hold, as far as this library has a use for them. Numbers are
integers and texts are strings of Unicode characters; what is well formed but neither, such as
`1.5` or an escape for half of a surrogate pair, is kept as `other`.
-/

namespace Agenda

/-- A JSON value. -/
inductive Json where
  | null
  | bool (value : Bool)
  | integer (value : Int)
  | text (value : String)
  | array (items : List Json)
  | object (members : List (String × Json))
  /-- A well-formed value that has no meaning here. -/
  | other

namespace Json

/-- The member of an object with a name: nothing when there is none, and no answer when there are
several. -/
def member? (name : String) (members : List (String × Json)) : Option (Option Json) :=
  match members.filter fun m => m.1 == name with
  | [] => some none
  | [(_, value)] => some (some value)
  | _ => none

/-- The values of named fields. An object gives them by name and may have other members, but none
of the names twice; an array gives them in order and may leave out the last ones. -/
def fields? (names : List String) : Json → Option (List (Option Json))
  | object members => names.mapM fun name => member? name members
  | array items =>
    if items.length ≤ names.length then
      some (items.map some ++ List.replicate (names.length - items.length) none)
    else none
  | _ => none

/-- The meaning of a field that may be missing, in which case it has a meaning of its own. -/
def fieldOr {α : Type} (missing : α) (read : Json → Option α) : Option Json → Option α
  | none => some missing
  | some value => read value

/-- The value as a text. -/
def text? : Json → Option String
  | text value => some value
  | _ => none

/-- The value as a truth value. -/
def bool? : Json → Option Bool
  | bool value => some value
  | _ => none

/-- The value as an integer of 64 bits. -/
def int64? : Json → Option Int64
  | integer value =>
    if Int64.minValue.toInt ≤ value ∧ value ≤ Int64.maxValue.toInt then some (Int64.ofInt value)
    else none
  | _ => none

/-- The value as a list of texts. -/
def texts? : Json → Option (List String)
  | array items => items.mapM text?
  | _ => none

end Json

end Agenda
