import AspectWeaver.Call.Instance
import AspectWeaver.Config.Load
import AspectWeaver.Demo.Shop
import AspectWeaver.Regex.Standard

/-!
# A tour of the shop

The demonstration itself: it reads a configuration, weaves the shop, calls its methods, and says on the
way what came of it. A failure ends the tour; the lines written before it stay.
-/

set_option autoImplicit false

namespace AspectWeaver.Demo

/-- A configuration file that is there, with its content if it can be read. -/
structure ConfigurationFile where
  path : String
  content : Option ByteArray

/-- What a tour finds where it starts. -/
structure Surroundings where
  /-- The configuration file of the tour itself, if there is one. -/
  ownFile : Option ConfigurationFile
  /-- The setting of the environment that may name a configuration file. -/
  requested : Option String
  /-- The content of a file by its path, if it can be read. -/
  file : String → Option ByteArray

namespace Surroundings

/-- The configuration that the environment asks for. -/
def environmentConfiguration (s : Surroundings) : Except WeaveError Configuration :=
  Configuration.ofEnvironment s.requested s.file

/-- The configuration of the tour: its own file goes first. -/
def configuration (s : Surroundings) : Except WeaveError Configuration :=
  match s.ownFile with
  | some file => Configuration.ofFile file.path file.content
  | none => s.environmentConfiguration

/-- The weaver that every program has beside its own ones. It knows only the configuration that the
environment asks for, and does with the defaults if there is something wrong with that. -/
def globalWeaver (s : Surroundings) : Weaver ShopCode :=
  let config := match s.environmentConfiguration with
    | .ok c => c.weaver
    | .error _ => {}
  (Weaver.ofProgram "global" config shopInventory).value

end Surroundings

/-- How far a tour has come. -/
structure Progress where
  weaver : Weaver ShopCode
  world : World Stocks
  /-- The lines written so far, in order. -/
  lines : List String

/-- A step of a tour. -/
abbrev TourStep (α : Type) := Action Progress α

/-- Writes a line. -/
def say (line : String) : TourStep Unit :=
  Action.of fun p => (.ok (), { p with lines := p.lines ++ [line] })

/-- Takes a step of the weaver; a refusal ends the tour. -/
def weaving {α : Type} (step : Weaver ShopCode → Logged (Weaver ShopCode × Except WeaveError α)) :
    TourStep α :=
  Action.of fun p =>
    let taken := step p.weaver
    let (weaver, outcome) := taken.value
    (outcome.mapError Failure.ofWeave,
      { p with weaver := weaver, world := p.world.record taken.events })

/-- Makes a woven object of a type, which must be woven. -/
def wovenObject (typeName complaint : String) : TourStep (WovenInstance ShopCode) :=
  Action.of fun p =>
    let (made, world) := p.weaver.createWovenInstance typeName p.world
    let outcome := match made with
      | .ok (some woven) => .ok woven
      | .ok none => .error (Failure.ofText complaint)
      | .error e => .error (Failure.ofWeave e)
    (outcome, { p with world := world })

/-- What came of a call, in words. -/
def outcomeText : Except Failure (Option Value) → String
  | .ok (some (.word32 n)) => toString n
  | .ok (some (.word64 n)) => toString n
  | .ok (some _) => "<value>"
  | .ok none => "(none)"
  | .error f => "error: " ++ f.message

/-- Calls a method of a woven object and writes what came of it. -/
def call (label : String) (woven : WovenInstance ShopCode) (method : String) (params : List String)
    (args : List Value) : TourStep Unit := do
  let outcome ← Action.of fun p =>
    let (outcome, world) := (woven.invoke behaviours p.weaver.bindings method params args).start p.world
    (.ok outcome, { p with world := world })
  say ("   " ++ label ++ " -> " ++ outcomeText outcome)

/-- The line that counts the advices of a method. -/
def countLine (signature : Signature) (s : AdviceSet ShopCode) : String :=
  "📋 " ++ signature.text ++ ": " ++ toString s.before.length ++ " before, " ++
    toString s.after.length ++ " after, " ++ toString s.around.length ++ " around, " ++
    toString s.afterReturning.length ++ " afterReturning, " ++ toString s.afterThrowing.length ++
    " afterThrowing"

/-- The whole tour, with a configuration. -/
def tour (s : Surroundings) : TourStep Unit := do
  say ""
  say "╔════════════════════════════════════════════════════╗"
  say "║     Tapestry Weaving - Demo                        ║"
  say "╚════════════════════════════════════════════════════╝"
  say ""
  let configuration ← s.configuration.mapError Failure.ofWeave
  Action.of fun p => (.ok (), { p with weaver := Weaver.new "tour" configuration.weaver })
  let aspects ← weaving fun w => w.loadRegistered shopInventory
  say ("📦 Loaded " ++ toString aspects ++ " registered aspect(s)")
  let _ ← weaving fun w => w.registerAspect (.logging "shop.InventoryService.*(...)" 100 false)
  let _ ← weaving fun w => w.registerAspect (.performance 5 "shop.InventoryService.*(...)")
  let _ ← weaving fun w => w.registerAspect (.errorLogging "shop.InventoryService.take(String,u32)")
  let inventory ← wovenObject inventoryType "InventoryService should be woven"
  let pricing ← wovenObject pricingType "PricingService should be woven"
  let two := ["String", "u32"]
  say ""
  say "🔧 Calling woven methods"
  call "restock(widget, 20)" inventory "restock" two [.text "widget", .word32 20]
  call "take(widget, 5)" inventory "take" two [.text "widget", .word32 5]
  call "take(widget, 500)" inventory "take" two [.text "widget", .word32 500]
  call "take(gadget, 1)" inventory "take" two [.text "gadget", .word32 1]
  call "take(widget)" inventory "take" ["String"] [.text "widget"]
  call "quote(widget)" pricing "quote" ["String"] [.text "widget"]
  say ""
  say "🧵 Concurrent calls on one woven instance"
  [1, 2, 3, 4].forM fun pieces =>
    call "restock" inventory "restock" two [.text "widget", .word32 pieces]
  let signature := Signature.make inventoryType "take" two
  let bound ← Action.of fun p => (.ok (p.weaver.adviceSet? signature), p)
  match bound with
  | some set => do
    say ""
    say (countLine signature set)
  | none => pure ()
  say ""
  say ("🌐 Global weaver knows InventoryService: " ++ Text.truth (s.globalWeaver.isWoven inventoryType))
  say ""
  say "✅ Demo complete!"

/-- What a tour leaves behind. -/
structure Report where
  /-- The lines that it wrote. -/
  lines : List String
  /-- The failure that ended it, if one did. -/
  failure : Option Failure
  /-- What was logged on the way. -/
  log : List Event

/-- Takes the tour. -/
def run (s : Surroundings) : Report :=
  let (outcome, p) := (tour s).start ⟨Weaver.new "tour" {}, World.initial Table.empty, []⟩
  { lines := p.lines
    failure := match outcome with
      | .ok _ => none
      | .error f => some f
    log := p.world.log }

end AspectWeaver.Demo
