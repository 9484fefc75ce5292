import AspectWeaver.Demo.Tour

/-!
# The command line

Takes the tour of the shop: looks for the configuration files, writes the lines of the tour, and ends
with exit code 1 if it failed.
-/

set_option autoImplicit false

namespace AspectWeaver.Main

open AspectWeaver.Demo

/-- Where the tour looks for a configuration file of its own, in this order. -/
def ownPaths : List String := ["demos/weave-demo/tapestry.toml", "tapestry.toml"]

/-- The variable of the environment that may name a configuration file. -/
def requestVariable : String := "TAPESTRY_CONFIG"

/-- A configuration file, if it is there. -/
def findFile (path : String) : IO (Option ConfigurationFile) := do
  try
    let content ← IO.FS.readBinFile path
    pure (some ⟨path, some content⟩)
  catch e =>
    match e with
    | .noFileOrDirectory .. => pure none
    | _ => pure (some ⟨path, none⟩)

/-- The first configuration file of the tour itself that is there. -/
def findOwnFile : List String → IO (Option ConfigurationFile)
  | [] => pure none
  | path :: rest => do
    match ← findFile path with
    | some file => pure (some file)
    | none => findOwnFile rest

/-- What the tour finds where it starts. -/
def surroundings : IO Surroundings := do
  let ownFile ← findOwnFile ownPaths
  let requested ← IO.getEnv requestVariable
  let content ← match Configuration.requestedFile? requested with
    | some path => do pure ((← findFile path).bind (·.content))
    | none => pure none
  pure ⟨ownFile, requested, fun _ => content⟩

end AspectWeaver.Main

/-- Takes the tour and prints it. -/
def main : IO UInt32 := do
  let report := AspectWeaver.Demo.run (← AspectWeaver.Main.surroundings)
  for line in report.lines do
    IO.println line
  match report.failure with
  | none => pure 0
  | some f => do
    IO.eprintln ("Error: " ++ f.message)
    pure 1
