import StepGraph.OrderedMap

/-! Self-describing data: what a JSON or TOML text says before anyone asks what
it means. The domain's types are read from `Data` and written to it, so each of
them is described once for both formats.

Three constructors stand for values that no field of the domain takes. `other` is
a value that a reader could hold: a negative number, a fraction, a number in
exponent form. `unreadable` is well-formed text whose value no reader can hold,
such as an escape that is half a character. A reader skips it in a field it does
not know; but a reader that must keep fields aside before it knows their meaning,
as `tagged?` does, refuses `unreadable` anywhere among them. `impassable` cannot
even be skipped, so that a reading fails unless it stops before the value, which
the reader of a structure written as an open list does. -/
namespace StepGraph

/-- A self-describing value. -/
inductive Data
  | null
  | bool (value : Bool)
  | natural (value : Nat)
  | text (value : String)
  | list (items : List Data)
  /-- A list whose last items may be left unread. -/
  | openList (items : List Data)
  | record (fields : List (String × Data))
  | other
  | unreadable
  | impassable
  deriving Inhabited

namespace Data

/-- Counters and limits are below this bound. -/
def wordBound : Nat := UInt64.size

/-- A text. -/
def text? : Data → Option String
  | .text value => some value
  | _ => none

/-- A truth value. -/
def bool? : Data → Option Bool
  | .bool value => some value
  | _ => none

/-- A counter: a natural number below `wordBound`. -/
def counter? : Data → Option Nat
  | .natural value => if value < wordBound then some value else none
  | _ => none

/-- A limit, held as a word. -/
def limit? (data : Data) : Option UInt64 := data.counter?.map UInt64.ofNat

/-- A list whose items all read. -/
def list? {α : Type} (item? : Data → Option α) : Data → Option (List α)
  | .list items => items.mapM item?
  | .openList items => items.mapM item?
  | _ => none

/-- The entries of a record whose values all read, repeated names included. -/
def entries? {α : Type} (value? : Data → Option α) : Data → Option (List (String × α))
  | .record fields => fields.mapM fun field => (value? field.2).map (field.1, ·)
  | _ => none

/-- A map in declaration order: a repeated name keeps its first place and its
last value. -/
def orderedMap? {α : Type} (value? : Data → Option α) (data : Data) : Option (OrderedMap α) :=
  (data.entries? value?).map OrderedMap.ofList

/-- A map in name order: of a repeated name the last value stays. -/
def sortedMap? {α : Type} (value? : Data → Option α) (data : Data) : Option (SortedMap α) :=
  (data.entries? value?).map SortedMap.ofList

/-- A value that may be null. -/
def nullable? {α : Type} (value? : Data → Option α) : Data → Option (Option α)
  | .null => some none
  | data => (value? data).map some

/-! ## Structures -/

/-- What a value says about one field of a structure. -/
inductive Field
  /-- The field is present. -/
  | given (value : Data)
  /-- The structure is written as a record without the field. -/
  | omitted
  /-- The structure is written as a list that ends before the field. -/
  | beyondEnd

/-- The field of that name, unless a record names it twice. -/
def fieldOf? (fields : List (String × Data)) (name : String) : Option Field :=
  match fields.filter (·.1 = name) with
  | [] => some .omitted
  | [field] => some (.given field.2)
  | _ => none

/-- The first fields of a structure of `count` fields written as a list, and
nothing if the list is longer. -/
def fieldsOfList? : Nat → List Data → Option (List Field)
  | 0, [] => some []
  | 0, _ :: _ => none
  | count + 1, [] => (fieldsOfList? count []).map (.beyondEnd :: ·)
  | count + 1, item :: rest => (fieldsOfList? count rest).map (.given item :: ·)

mutual

/-- Whether a reader gets past the value and everything inside it. -/
def isSkippable : Data → Bool
  | .list items => areSkippable items
  | .openList items => areSkippable items
  | .record fields => haveSkippable fields
  | .impassable => false
  | _ => true

/-- `isSkippable` of every item. -/
def areSkippable : List Data → Bool
  | [] => true
  | item :: rest => isSkippable item && areSkippable rest

/-- `isSkippable` of every field's value. -/
def haveSkippable : List (String × Data) → Bool
  | [] => true
  | (_, value) :: rest => isSkippable value && haveSkippable rest

end

/-- The named fields of a structure, in the order of `names`. A structure is
written as a record, in which fields without a name here are skipped, or as the
list of its fields in order. What follows the last field of an open list is left
unread. -/
def fields? (names : List String) : Data → Option (List Field)
  | .record fields =>
    if haveSkippable (fields.filter (!names.contains ·.1)) then names.mapM (fieldOf? fields)
    else none
  | .list items => fieldsOfList? names.length items
  | .openList items => fieldsOfList? names.length (items.take names.length)
  | _ => none

/-- A field that has to be present. -/
def Field.required {α : Type} (value? : Data → Option α) : Field → Option α
  | .given data => value? data
  | .omitted => none
  | .beyondEnd => none

/-- A field that takes `default` where it is missing. -/
def Field.withDefault {α : Type} (default : α) (value? : Data → Option α) : Field → Option α
  | .given data => value? data
  | .omitted => some default
  | .beyondEnd => some default

/-- A field that may be null, and may be missing from a record, but not from a
list. -/
def Field.nullable {α : Type} (value? : Data → Option α) : Field → Option (Option α)
  | .given data => data.nullable? value?
  | .omitted => some none
  | .beyondEnd => none

/-! ## Tagged variants -/

mutual

/-- Whether a reader can hold the value and everything inside it. -/
def isReadable : Data → Bool
  | .list items => areReadable items
  | .openList items => areReadable items
  | .record fields => haveReadable fields
  | .unreadable => false
  | .impassable => false
  | _ => true

/-- `isReadable` of every item. -/
def areReadable : List Data → Bool
  | [] => true
  | item :: rest => isReadable item && areReadable rest

/-- `isReadable` of every field's value. -/
def haveReadable : List (String × Data) → Bool
  | [] => true
  | (_, value) :: rest => isReadable value && haveReadable rest

end

mutual

/-- The value with every list in it closed: a reader that keeps a list aside
reads it to its end. -/
def closed : Data → Data
  | .list items => .list (closedItems items)
  | .openList items => .list (closedItems items)
  | .record fields => .record (closedFields fields)
  | data => data

/-- `closed` of every item. -/
def closedItems : List Data → List Data
  | [] => []
  | item :: rest => closed item :: closedItems rest

/-- `closed` of every field's value. -/
def closedFields : List (String × Data) → List (String × Data)
  | [] => []
  | (name, value) :: rest => (name, closed value) :: closedFields rest

end

/-- A variant and the data of its fields. A variant is written as a record with
its name under `tag`, once, beside its fields, or as a list that starts with its
name. -/
def tagged? (tag : String) (data : Data) : Option (String × Data) :=
  if data.isReadable then
    match data.closed with
    | .record fields =>
      match fields.filter (·.1 = tag) with
      | [(_, .text variant)] => some (variant, .record (fields.filter (·.1 ≠ tag)))
      | _ => none
    | .list (.text variant :: rest) => some (variant, .list rest)
    | _ => none
  else none

/-- A variant without fields: a record may hold others, a list nothing more. -/
def noFields? : Data → Option Unit
  | .record _ => some ()
  | .list [] => some ()
  | _ => none

/-- A choice among named alternatives without fields: the name alone, or a
record that gives the name the value null. -/
def choice? {α : Type} (choices : List (String × α)) : Data → Option α
  | .text name => choices.lookup name
  | .record [(name, .null)] => choices.lookup name
  | _ => none

end Data
end StepGraph
