import LiveTemplates.CommandLine.Run
import LiveTemplates.Config.Json

set_option autoImplicit false

/-! # The command itself

Reads the files that matter into a tree, runs the command on it, writes the files that are new and
prints. -/

namespace LiveTemplates

namespace CommandLine

/-- The location of a path, with the steps back taken. -/
def locationOf (start : Location) (path : String) : Location :=
  (Path.components path).foldl
    (fun location part => if part = ".." then location.dropLast else location ++ [part])
    (if Path.isAbsolute path then [] else start)

/-- All locations on the way to one, the nearest to the root first. -/
def wayTo (location : Location) : List Location :=
  (List.range location.length).map fun n => location.take (n + 1)

/-- The absolute path of a location. -/
def pathOf (location : Location) : String :=
  String.join (location.map ("/" ++ ·))

/-- Put what stands at a location of the file system into a tree.

All files count as written at one moment: one run of the command reads each file once, so it never
compares two states of a file. -/
def observe (tree : Tree) (location : Location) : IO Tree := do
  let root ← IO.currentDir
  let path := root / pathOf location
  try
    let metadata ← path.metadata
    match metadata.type with
    | .dir => return tree.put location .folder
    | .file =>
      let content ← IO.FS.readBinFile path
      return tree.put location (.file content ⟨0⟩)
    | _ => return tree
  catch _ => return tree

/-- Put everything on the way to some paths into a tree. -/
def observeAll (tree : Tree) (paths : List String) : IO Tree :=
  (paths.flatMap fun path => wayTo (locationOf tree.start path)).foldlM observe tree

/-- The variables that can hold settings. -/
def readVariables : IO (List (String × String)) := do
  let names := Configuration.fieldKeys.flatMap fun key =>
    ["stencil_" ++ key, "STENCIL_" ++ key.map Char.toUpper]
  let values ← names.mapM fun name => do return (name, ← IO.getEnv name)
  return values.filterMap fun (name, value) => value.map fun value => (name, value)

/-- Write the files of a tree that are not in an earlier one. -/
def writeNew (before after : Tree) : IO Unit := do
  let root ← IO.currentDir
  for (location, node) in after.nodes do
    match node with
    | .file content _ =>
      if before.node? location ≠ some node then
        try
          IO.FS.createDirAll (root / pathOf location.dropLast)
          IO.FS.writeBinFile (root / pathOf location) content
        catch _ => pure ()
    | .folder => pure ()

end CommandLine

end LiveTemplates

open LiveTemplates in
open CommandLine in
/-- Run the command on the arguments and the files that are there. -/
def main (arguments : List String) : IO UInt32 := do
  let environment ← readVariables
  let start := Path.components (← IO.currentDir).toString
  let known ← observeAll { start } ("." :: paths { start } environment arguments)
  let known ← observeAll known (paths known environment arguments)
  let outcome := run known ⟨0⟩ environment arguments
  writeNew known outcome.files
  IO.print outcome.output
  match outcome.complaint with
  | some complaint => IO.eprintln ("error: " ++ complaint)
  | none =>
    if outcome.code = 2 then IO.eprint (helpText none)
  return .ofNat outcome.code
