import AspectWeaver.Weaver

/-!
# The inventory

Types and aspects that a program publishes for loading, each under its name. Loading registers the
types, binds the methods marked for interceptors, and then registers the aspects.
-/

set_option autoImplicit false

namespace AspectWeaver

/-- What a program publishes, in the order of loading. -/
structure Inventory (β : Type) where
  types : List (String × TypeDescriptor β)
  aspects : List (String × Aspect β)
deriving Inhabited

namespace Weaver

variable [RegexEngine] {β : Type}

/-- Registers the types of an inventory. -/
def loadTypes (w : Weaver β) (types : List (String × TypeDescriptor β)) : Logged (Weaver β) :=
  types.foldlM (fun w (name, t) => do
    Logged.tell .debug ("  ├─ Loading type: " ++ name) []
    w.registerType t) w

/-- Registers the types with marked methods as targets of interceptors. -/
def loadTargets (w : Weaver β) : List (TypeDescriptor β) → Logged (Weaver β × Except WeaveError Unit)
  | [] => pure (w, .ok ())
  | t :: rest =>
    if (markedMethods t).isEmpty then loadTargets w rest
    else do
      match ← w.registerInterceptTarget t.name with
      | (w, .ok _) => loadTargets w rest
      | (w, .error e) => pure (w, .error e)

/-- Registers the aspects of an inventory; the first malformed one ends the loading. -/
def loadAspects (w : Weaver β) :
    List (String × Aspect β) → Logged (Weaver β × Except WeaveError Unit)
  | [] => pure (w, .ok ())
  | (name, a) :: rest => do
    Logged.tell .debug ("  ├─ Loading aspect: " ++ name) []
    match ← w.registerAspect a with
    | (w, .ok _) => loadAspects w rest
    | (w, .error e) => pure (w, .error e)

/-- Loads an inventory and gives the number of its aspects. -/
def loadRegistered (w : Weaver β) (inventory : Inventory β) :
    Logged (Weaver β × Except WeaveError Nat) := do
  let w ← w.loadTypes inventory.types
  match ← w.loadTargets (inventory.types.map Prod.snd) with
  | (w, .error e) => pure (w, .error e)
  | (w, .ok _) => do
    let count := inventory.aspects.length
    Logged.tell .info ("Auto-loading " ++ toString count ++ " aspect(s) from registry") []
    match ← w.loadAspects inventory.aspects with
    | (w, .error e) => pure (w, .error e)
    | (w, .ok _) => do
      Logged.tell .info "Loaded registered types and aspects"
        [("types", .number inventory.types.length), ("aspects", .number count),
          ("woven", .number w.registrations.size)]
      pure (w, .ok count)

/-- The weaver of a program: made from a configuration, and loaded if the configuration says so. An
inventory that cannot be loaded is only worth a log line. -/
def ofProgram (name : String) (config : WeaverConfig) (inventory : Inventory β) :
    Logged (Weaver β) := do
  let w := Weaver.new name config
  if config.autoLoad then
    match ← w.loadRegistered inventory with
    | (w, .ok _) => pure w
    | (w, .error e) => do
      Logged.tell .error ("Failed to load registered aspects: " ++ e.message) []
      pure w
  else pure w

end Weaver

end AspectWeaver
