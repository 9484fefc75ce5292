import AspectWeaver.Toml.Item

/-!
# Building TOML tables

The rules by which the parts of a document come together. No key is given twice. A header opens a table
that was only implied so far, never one that is there already; a header of tables adds one more. Dotted
keys make the tables on their way, and may add only to a table that dotted keys have made.
-/

set_option autoImplicit false

namespace AspectWeaver.Toml.Entries

/-- The item under a key. -/
def get? (key : String) : Entries → Option Item
  | [] => none
  | (k, item) :: rest => if k = key then some item else get? key rest

/-- The entries with an item under a key, in the place of an older one or at the end. -/
def put (key : String) (item : Item) : Entries → Entries
  | [] => [(key, item)]
  | (k, old) :: rest => if k = key then (key, item) :: rest else (k, old) :: put key item rest

/-- Adds an item under a key that is not there yet. -/
def addNew (key : String) (item : Item) (t : Entries) : Option Entries :=
  match get? key t with
  | none => some (t ++ [(key, item)])
  | some _ => none

/-- Changes the last of some tables. -/
def changeLast (change : Entries → Option Entries) (tables : List Entries) :
    Option (List Entries) := do
  let last ← tables.getLast?
  let changed ← change last
  pure (tables.dropLast ++ [changed])

/-- Adds an item below the path of a dotted key. At the end of the path there must be a table that
dotted keys have made. -/
def addBelow (key : String) (item : Item) (made : Bool) : List String → Entries → Option Entries
  | [], t => if made then addNew key item t else none
  | k :: path, t =>
    match get? k t with
    | none => do
      let below ← addBelow key item true path []
      pure (put k (.table .dotted below) t)
    | some (.table origin entries) => do
      if origin = .header then failure
      let below ← addBelow key item (origin = .dotted) path entries
      pure (put k (.table origin below) t)
    | some (.tables tables) => do
      let tables ← changeLast (addBelow key item false path) tables
      pure (put k (.tables tables) t)
    | some _ => none

/-- Adds an item under a key that may be dotted. -/
def add (t : Entries) : List String → Item → Option Entries
  | [], _ => none
  | [key], item => addNew key item t
  | path, item => addBelow (path.getLastD "") item false path.dropLast t

/-- Changes the table at the path of a header; tables on the way that are not there are implied. Below
some tables the way leads into the last of them. -/
def changeAt (change : Entries → Option Entries) : List String → Entries → Option Entries
  | [], t => change t
  | k :: path, t =>
    match get? k t with
    | none => do
      let below ← changeAt change path []
      pure (put k (.table .implied below) t)
    | some (.table origin entries) => do
      let below ← changeAt change path entries
      pure (put k (.table origin below) t)
    | some (.tables tables) => do
      let tables ← changeLast (changeAt change path) tables
      pure (put k (.tables tables) t)
    | some _ => none

/-- Opens the table of a key. -/
def openTable (key : String) (t : Entries) : Option Entries :=
  match get? key t with
  | none => some (put key (.table .header []) t)
  | some (.table .implied entries) => some (put key (.table .header entries) t)
  | some _ => none

/-- Adds one more to the tables of a key. -/
def openTables (key : String) (t : Entries) : Option Entries :=
  match get? key t with
  | none => some (put key (.tables [[]]) t)
  | some (.tables tables) => some (put key (.tables (tables ++ [[]])) t)
  | some _ => none

/-- Applies what a header opens at the end of its path. -/
def atHeader (opening : String → Entries → Option Entries) (path : List String) (t : Entries) :
    Option Entries :=
  changeAt (opening (path.getLastD "")) path.dropLast t

end AspectWeaver.Toml.Entries
