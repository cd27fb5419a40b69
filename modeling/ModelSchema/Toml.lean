import ModelSchema.Text.Cut

/-!
# TOML values

The values of a TOML document, and the rules by which its lines build them: a key is defined once,
a header may open a table that was only implied before, and dotted keys extend no table but those
that dotted keys made.

## Main definitions

* `Toml.Value` — values.
* `Toml.Item`, `Toml.Entries` — a document while it is being read.
* `Toml.insertAt?`, `Toml.openTable?`, `Toml.openArrayTable?` — what a line does to it.
-/

namespace ModelSchema.Toml

/-- A value. Floating-point numbers and dates are only told from other values. -/
inductive Value where
  | string (s : String)
  | integer (n : Int)
  | float
  | boolean (b : Bool)
  | dateTime
  | array (items : List Value)
  | table (entries : List (String × Value))

/-- How a table came to be. -/
inductive TableKind where
  /-- Only as part of the path to another table. -/
  | implied
  /-- By a header. -/
  | headed
  /-- By a dotted key. -/
  | dotted
deriving DecidableEq, Repr

/-- What a key stands for while the document is being read. -/
inductive Item where
  | value (v : Value)
  | table (kind : TableKind) (entries : List (String × Item))
  | tables (elements : List (List (String × Item)))

/-- The keys of a table with what they stand for, in order. -/
abbrev Entries := List (String × Item)

namespace Item

/-- The value of an item of which at most `depth` levels are tables. -/
def toValue : Nat → Item → Value
  | _, .value v => v
  | 0, _ => .table []
  | depth + 1, .table _ entries => .table (entries.map fun (k, i) => (k, i.toValue depth))
  | depth + 1, .tables elements =>
    .array (elements.map fun entries => .table (entries.map fun (k, i) => (k, i.toValue depth)))

end Item

/-- The entries with `item` for `key`. -/
def put (entries : Entries) (key : String) (item : Item) : Entries :=
  if entries.any (·.1 == key) then entries.map fun e => if e.1 == key then (key, item) else e
  else entries ++ [(key, item)]

/-- The entries with a value under a dotted key, if it is free. The tables on the way must come
from dotted keys, or be implied ones that lead to such a table. -/
def insertAt? (entries : Entries) : List String → Value → Option Entries
  | [], _ => none
  | [key], v =>
    if entries.any (·.1 == key) then none else some (entries ++ [(key, .value v)])
  | key :: next :: keys, v =>
    match entries.lookup key with
    | none => (insertAt? [] (next :: keys) v).map fun inner =>
        entries ++ [(key, .table .dotted inner)]
    | some (.table kind inner) =>
      if kind = .headed ∨ (keys = [] ∧ kind ≠ .dotted) then none
      else (insertAt? inner (next :: keys) v).map fun inner => put entries key (.table kind inner)
    | some _ => none

/-- The entries changed by `f` at the table that a path leads to; of an array of tables the last
one counts, and missing tables are implied. -/
def modifyAt? (f : Entries → Option Entries) (entries : Entries) : List String → Option Entries
  | [] => f entries
  | key :: keys =>
    match entries.lookup key with
    | none => (modifyAt? f [] keys).map fun inner => entries ++ [(key, .table .implied inner)]
    | some (.table kind inner) =>
      (modifyAt? f inner keys).map fun inner => put entries key (.table kind inner)
    | some (.tables elements) =>
      match elements.getLast? with
      | none => none
      | some last =>
        (modifyAt? f last keys).map fun last =>
          put entries key (.tables (elements.dropLast ++ [last]))
    | some (.value _) => none

/-- The entries after the header of a table, which may have been implied before. -/
def openTable? (entries : Entries) (path : List String) : Option Entries :=
  match path.getLast? with
  | none => none
  | some key =>
    modifyAt? (fun inner =>
      match inner.lookup key with
      | none => some (inner ++ [(key, .table .headed [])])
      | some (.table .implied below) => some (put inner key (.table .headed below))
      | some _ => none) entries path.dropLast

/-- The entries after the header of an element of an array of tables. -/
def openArrayTable? (entries : Entries) (path : List String) : Option Entries :=
  match path.getLast? with
  | none => none
  | some key =>
    modifyAt? (fun inner =>
      match inner.lookup key with
      | none => some (inner ++ [(key, .tables [[]])])
      | some (.tables elements) => some (put inner key (.tables (elements ++ [[]])))
      | some _ => none) entries path.dropLast

end ModelSchema.Toml
