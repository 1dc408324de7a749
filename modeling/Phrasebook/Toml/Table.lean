import Phrasebook.Fields

/-!
# TOML tables

The values of a TOML document, and the ways in which statements may add to its tables.

## Contents
- `Toml`: the values; a date or a number is kept as a scalar without its value
- `Toml.Table.modify`: changing the table under a dotted key
- `Toml.Marks`: which tables may not be opened or changed any more
-/

namespace Phrasebook

/-- A TOML value, as far as a reader of texts needs it. -/
inductive Toml where
  | text (s : String)
  /-- A truth value, a number, a date or a time. -/
  | scalar
  | array (items : List Toml)
  | table (fields : List (String × Toml))
  deriving Inhabited

namespace Toml

/-- The fields of a table. -/
abbrev Table := List (String × Toml)

/-- The parts of a dotted key. -/
abbrev Key := List String

namespace Table

/-- Changes the table under a dotted key. Tables that are missing on the way are created; an array on
the way stands for its last table, where that is asked for. Nothing is returned when another value
stands in the way, or when the change is refused. -/
def modify (intoArrays : Bool) (f : Table → Option Table) : Key → Table → Option Table
  | [], t => f t
  | k :: rest, t =>
    match t.lookup k with
    | none => (modify intoArrays f rest []).map fun t' => Fields.putIn k (.table t') t
    | some (.table inner) =>
      (modify intoArrays f rest inner).map fun t' => Fields.putIn k (.table t') t
    | some (.array items) =>
      match intoArrays, items.getLast? with
      | true, some (.table inner) =>
        (modify intoArrays f rest inner).map fun t' =>
          Fields.putIn k (.array (items.dropLast ++ [.table t'])) t
      | _, _ => none
    | some _ => none

/-- Adds a field, unless there is one of its name. -/
def addField (name : String) (value : Toml) (t : Table) : Option Table :=
  if (t.lookup name).isSome then none else some (t ++ [(name, value)])

/-- Adds an empty table to the array of a name, which is created when it is missing. -/
def addElement (name : String) (t : Table) : Option Table :=
  match t.lookup name with
  | none => some (t ++ [(name, .array [.table []])])
  | some (.array items) => some (Fields.putIn name (.array (items ++ [.table []])) t)
  | some _ => none

end Table

/-- What may not be done with tables any more. -/
structure Marks where
  /-- The tables that may not be opened by a header. -/
  closed : List Key := []
  /-- The tables that become closed with the next header. -/
  pending : List Key := []
  /-- The values that may not be changed, with all that is inside them. -/
  frozen : List Key := []

namespace Marks

/-- Whether a table may not be opened by a header. -/
def isClosed (m : Marks) (key : Key) : Bool := m.closed.contains key

/-- Whether a value, or one that it is inside of, may not be changed. -/
def isFrozen (m : Marks) (key : Key) : Bool := m.frozen.any (·.isPrefixOf key)

/-- Closes the tables that wait for the next header. -/
def atHeader (m : Marks) : Marks := { m with closed := m.pending ++ m.closed, pending := [] }

/-- Forgets the marks of a table and of all inside it. -/
def forget (m : Marks) (key : Key) : Marks :=
  { m with
    closed := m.closed.filter fun k => !key.isPrefixOf k
    frozen := m.frozen.filter fun k => !key.isPrefixOf k }

/-- Closes a table. -/
def close (m : Marks) (key : Key) : Marks := { m with closed := key :: m.closed }

/-- Freezes a value. -/
def freeze (m : Marks) (key : Key) : Marks := { m with frozen := key :: m.frozen }

end Marks

end Toml

end Phrasebook
