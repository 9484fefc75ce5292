import AspectWeaver.Call.Instance
import AspectWeaver.Script.Syntax

/-!
# The stage

What scripts work on: a weaver, bindings that stand alone beside it, woven instances under names,
objects that count what happens to them, and a trace of lines.
-/

set_option autoImplicit false

namespace AspectWeaver.Script

/-- What an object keeps. -/
structure Counters where
  /-- How often bodies have run on the object. -/
  calls : Int64 := 0
  /-- A number for scripts to add to. -/
  state : Int64 := 0
deriving DecidableEq, Inhabited, Repr

/-- Whose bindings the calls on an instance go through. -/
inductive Home where
  | weaver
  | standAlone
deriving DecidableEq, Inhabited, Repr

/-- A woven instance that is kept under a name. -/
structure Kept where
  woven : WovenInstance Code
  home : Home
deriving Inhabited

/-- What scripts work on. -/
structure Stage where
  weaver : Weaver Code
  standAlone : Bindings Code
  /-- The names of the types whose objects have counters. -/
  countedTypes : List String
  /-- The counters of the objects on which something has happened. -/
  counters : Table Nat Counters
  /-- How often each counting interceptor has been called, by registry and number. -/
  tallies : Table (String × Nat) Int32
  instances : Table String Kept
  /-- Sets of advices that were put aside under names. -/
  snapshots : Table String (AdviceSet Code)
  /-- The lines traced so far, the newest last. -/
  trace : List String
deriving Inhabited

namespace Stage

/-- A stage on which nothing has happened. -/
def new (config : WeaverConfig) (countedTypes : List String) : Stage where
  weaver := Weaver.new "weaver" config
  standAlone := Bindings.empty "alone"
  countedTypes := countedTypes
  counters := Table.empty
  tallies := Table.empty
  instances := Table.empty
  snapshots := Table.empty
  trace := []

/-- Adds a line to the trace. -/
def note (line : String) (s : Stage) : Stage := { s with trace := s.trace ++ [line] }

/-- Puts another weaver in place of the old one. -/
def withWeaver (weaver : Weaver Code) (s : Stage) : Stage := { s with weaver := weaver }

/-- Puts other bindings in place of those that stand alone. -/
def withStandAlone (bindings : Bindings Code) (s : Stage) : Stage := { s with standAlone := bindings }

/-- The bindings of a home. -/
def bindingsOf (s : Stage) : Home → Bindings Code
  | .weaver => s.weaver.bindings
  | .standAlone => s.standAlone

/-- The counters of an object, if objects of its type have any. -/
def countersOf (s : Stage) (target : Target) : Option Counters :=
  if s.countedTypes.contains target.typeName then some ((s.counters.get? target.id).getD {}) else none

/-- Changes the counters of an object; other objects are left as they are. -/
def count (target : Target) (change : Counters → Counters) (s : Stage) : Stage :=
  match s.countersOf target with
  | some c => { s with counters := s.counters.insert target.id (change c) }
  | none => s

/-- Counts one more body that runs on an object. -/
def countCall (target : Target) (s : Stage) : Stage :=
  s.count target fun c => { c with calls := c.calls + 1 }

/-- Counts one more call of an interceptor. -/
def tally (i : Interceptor Code) (s : Stage) : Int32 × Stage :=
  let key := (i.registry, i.number)
  let n := (s.tallies.get? key).getD 0 + 1
  (n, { s with tallies := s.tallies.insert key n })

/-- Keeps a woven instance under a name, in place of an older one. -/
def keep (name : String) (woven : WovenInstance Code) (home : Home) (s : Stage) : Stage :=
  { s with instances := s.instances.insert name ⟨woven, home⟩ }

end Stage

end AspectWeaver.Script
