import LinkSearch.Toml.Scalar

/-!
# Plain data

A document can be read as plain data if every number in it is one of 64 bits.  A moment is plain
data too, written as a table with a key of its own; a table with that key must hold a moment.
-/

namespace LinkSearch.Toml

/-- The key of a table that stands for a moment. -/
def momentKey : String := "$__toml_private_datetime"

/-- The value of the first key of a table in the order of keys, if that is the key of a moment. -/
def moment? (entries : List (String × Value)) : Option Value :=
  if entries.all fun (key, _) => !(key < momentKey) then entries.lookup momentKey else none

mutual

/-- Whether a value is plain data. -/
def Value.isPlain : Value → Bool
  | .outOfRange => false
  | .array items => itemsArePlain items
  | .table entries =>
    match moment? entries with
    | some (.string text) => isMoment text.toList
    | some _ => false
    | none => entriesArePlain entries
  | _ => true

/-- Whether all items of an array are plain data. -/
def itemsArePlain : List Value → Bool
  | [] => true
  | item :: rest => item.isPlain && itemsArePlain rest

/-- Whether all values of a table are plain data. -/
def entriesArePlain : List (String × Value) → Bool
  | [] => true
  | (_, value) :: rest => value.isPlain && entriesArePlain rest

end

end LinkSearch.Toml
