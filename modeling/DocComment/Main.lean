import DocComment.Run

/-!
# The program

The outer layer of the program: it takes the arguments, the environment, the standard input and the
files that the arguments may lead to from the system, and gives back what the run leaves.
-/

open DocComment

namespace DocComment.Program

/-- The variables of the environment that a run asks for. -/
def variableNames : List String := ["TAGDOC_FORMAT", "TAGDOC_CODE_LANG", "RUST_LOG"]

/-- The environment, as far as a run asks for it. -/
def environment : IO CommandLine.Environment := do
  let given ← variableNames.mapM fun name ↦ do
    return (← IO.getEnv name).map fun value ↦ (name.toList, value.toList)
  return given.filterMap id

/-- A location as a path of the system. -/
def systemPath (loc : Location) := do
  return (← IO.currentDir) / String.ofList ('/' :: Text.join ['/'] loc)

/-- The entries directly at a location; where nothing can be listed, there are none. -/
def entriesIn (loc : Location) : IO (List (Location × Entry)) := do
  let directory ← systemPath loc
  let listed ← try directory.readDir catch _ => pure #[]
  listed.toList.mapM fun e ↦ do
    return (loc ++ [e.fileName.toList], if ← e.path.isDir then .directory else .file .bytes)

/-- The entries below a location; links to directories are not followed. -/
partial def entriesBelow (loc : Location) : IO (List (Location × Entry)) := do
  let entries ← entriesIn loc
  let below ← (entries.filter (·.2 = .directory)).mapM fun (loc, _) ↦ do
    let directory ← systemPath loc
    if (← directory.symlinkMetadata).type == .symlink then return [] else entriesBelow loc
  return entries ++ below.flatten

/-- The entries that the pieces of an argument may lead past, given the directories that they may
begin at. -/
def entriesAlong (directories : List Location) : List Text → IO (List (Location × Entry))
  | [] => return (← directories.mapM entriesIn).flatten
  | piece :: rest => do
    let list := if piece = ['*', '*'] then entriesBelow else entriesIn
    let entries := (← directories.mapM list).flatten
    let next :=
      if piece = [] ∨ piece = Path.dot then directories
      else if piece = Path.dotDot then directories.map Location.up
      else if piece.any fun c ↦ c = '*' ∨ c = '?' ∨ c = '[' then
        directories ++ directories.map Location.up ++
          (entries.filter (·.2 = .directory)).map Prod.fst
      else directories.map (· ++ [piece])
    return entries ++ (← entriesAlong next rest)

/-- The files around the arguments of a request, with the contents of its input files. -/
def treeFor (r : CommandLine.Request) : IO FileTree := do
  let mut tree : FileTree :=
    { workingDirectory := Path.names (← IO.currentDir).toString.toList }
  for p in r.output.toList ++ r.files do
    for (loc, entry) in ← entriesAlong [tree.origin p] p.pieces do
      unless tree.isAbove loc do
        tree := tree.put loc entry
  for p in Pages.inputFiles r tree do
    if let .ok loc := tree.locate p then
      let bytes ← IO.FS.readBinFile (String.ofList p)
      tree := tree.put loc (.file (.ofBytes bytes))
  return tree

/-- Write what a run has changed. -/
def writeChanges (before after : FileTree) : IO Unit := do
  for (loc, entry) in after.entries.reverse do
    if entry = .directory && before.get? loc ≠ some entry then
      IO.FS.createDirAll (← systemPath loc)
  for (steps, text) in before.changedFiles after do
    IO.FS.writeFile (String.ofList (Text.join ['/'] steps)) (String.ofList text)

end DocComment.Program

/-- Run the program on the system. -/
def main (arguments : List String) : IO UInt32 := do
  let arguments := arguments.map String.toList
  let environment ← Program.environment
  let request := CommandLine.parse arguments environment
  let (input, tree) ← match request with
    | .ok r =>
      if r.files.isEmpty then
        pure (Content.ofBytes (← (← IO.getStdin).readBinToEnd), {})
      else pure (Content.text [], ← Program.treeFor r)
    | .error _ => pure (Content.text [], {})
  let outcome := Run.run arguments environment input tree
  IO.eprint (String.ofList outcome.errors)
  IO.print (String.ofList outcome.output)
  Program.writeChanges tree outcome.tree
  return outcome.code.toUInt32
