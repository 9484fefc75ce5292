/-!
# TOML items

What a TOML document holds. Tables differ in how they came to be, since this decides in which ways they
may be extended later: by a header of their own, implied by the header of a table below them, or by a
dotted key. An inline table is closed and can never be extended.
-/

set_option autoImplicit false

namespace AspectWeaver.Toml

/-- A number with a fraction or an exponent, or one of the special numbers. -/
inductive FloatNumber where
  /-- The number `significand * 10 ^ exponent`. -/
  | finite (negative : Bool) (significand : Nat) (exponent : Int)
  | infinite (negative : Bool)
  | undefined
deriving DecidableEq, Inhabited, Repr

/-- A day of the calendar. -/
structure Date where
  year : Nat
  month : Nat
  day : Nat
deriving DecidableEq, Inhabited, Repr

/-- A time of the day; the fraction of the second is in nanoseconds. -/
structure Time where
  hour : Nat
  minute : Nat
  second : Nat
  nanosecond : Nat
deriving DecidableEq, Inhabited, Repr

/-- A date, a time, or both, perhaps with the distance from universal time in minutes. -/
structure Moment where
  date : Option Date
  time : Option Time
  offset : Option Int
deriving DecidableEq, Inhabited, Repr

/-- How a table came to be. -/
inductive Origin where
  /-- By a header of its own. -/
  | header
  /-- By the header of something below it. -/
  | implied
  /-- By a dotted key. -/
  | dotted
deriving DecidableEq, Inhabited, Repr

/-- Anything that stands under a key or in an array. -/
inductive Item where
  | text (s : String)
  | integer (n : Int)
  | float (x : FloatNumber)
  | bool (b : Bool)
  | moment (m : Moment)
  | array (items : List Item)
  /-- A table that is written as a value. -/
  | inlineTable (entries : List (String × Item))
  /-- A table that is written in parts. -/
  | table (origin : Origin) (entries : List (String × Item))
  /-- Tables that are written one after the other under the same header. -/
  | tables (tables : List (List (String × Item)))
deriving Inhabited, Repr

/-- What a table holds, in the order of writing. -/
abbrev Entries := List (String × Item)

end AspectWeaver.Toml
