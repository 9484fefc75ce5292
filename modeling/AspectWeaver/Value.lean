/-!
# Values

The values that methods take and return, their types, and the names of the types in messages. A call
carries any number of values; a method may also return none.
-/

set_option autoImplicit false

namespace AspectWeaver

inductive ValueType where
  | int32 | int64 | word32 | word64 | bool | text | unit
deriving DecidableEq, Inhabited, Repr

def ValueType.name : ValueType → String
  | .int32 => "i32"
  | .int64 => "i64"
  | .word32 => "u32"
  | .word64 => "u64"
  | .bool => "bool"
  | .text => "alloc::string::String"
  | .unit => "()"

/-- An argument or a result. -/
inductive Value where
  | int32 (n : Int32)
  | int64 (n : Int64)
  | word32 (n : UInt32)
  | word64 (n : UInt64)
  | bool (b : Bool)
  | text (s : String)
  | unit
deriving DecidableEq, Inhabited, Repr

namespace Value

def type : Value → ValueType
  | .int32 _ => .int32
  | .int64 _ => .int64
  | .word32 _ => .word32
  | .word64 _ => .word64
  | .bool _ => .bool
  | .text _ => .text
  | .unit => .unit

/-- The value itself when it has the type that is asked for. -/
def as? (t : ValueType) (v : Value) : Option Value := if v.type = t then some v else none

def word32? : Value → Option UInt32
  | .word32 n => some n
  | _ => none

def word64? : Value → Option UInt64
  | .word64 n => some n
  | _ => none

def text? : Value → Option String
  | .text s => some s
  | _ => none

end Value

end AspectWeaver
