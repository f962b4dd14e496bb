import DocComment.Failure
import DocComment.Wildcard.Select
import DocComment.Log.Event

/-!
# Input files

The arguments of a run select its input files.  An argument that leads to a file selects it; one
that leads to a directory selects the listings directly in it; any other is a pattern.  The result
is a sorted list without repetitions.
-/

namespace DocComment.Inputs

/-- The extension of a listing. -/
def listingExtension : Text := "json".toList

/-- The listings directly in a directory. -/
def inDirectory (t : FileTree) (directory : Path) : List Path :=
  match t.locate directory with
  | .ok loc => ((t.names loc).map directory.join).filter fun p ↦
      p.extension? = some listingExtension && t.isFile p
  | .error _ => []

/-- The files that a pattern selects. -/
def ofPattern (t : FileTree) (pattern : Text) : Except Wildcard.PatternError (List Path) :=
  (Wildcard.PathPattern.ofText pattern).map fun p ↦ (p.select t).filter t.isFile

/-- The files that an argument selects. -/
def ofArgument (t : FileTree) (argument : Path) : Except Wildcard.PatternError (List Path) :=
  if t.isFile argument then .ok [argument]
  else if t.isDirectory argument then .ok (inDirectory t argument)
  else ofPattern t argument

/-- The warning about an argument, if it is a pattern that selects nothing. -/
def warnings (t : FileTree) (argument : Path) (selected : List Path) : List Log.Event :=
  if selected.isEmpty && !t.isDirectory argument then
    [⟨.warn, .program, "no files matched: ".toList ++ argument, []⟩]
  else []

/-- What the arguments select, one after the other, up to the first malformed pattern. -/
def gather (t : FileTree) : List Path → List Log.Event × Except Failure (List Path)
  | [] => ([], .ok [])
  | argument :: rest =>
    match ofArgument t argument with
    | .error e => ([], .error (.invalidPattern argument e))
    | .ok selected =>
      let more := gather t rest
      (warnings t argument selected ++ more.1, more.2.map (selected ++ ·))

/-- The input files that the arguments select. -/
def expand (t : FileTree) (arguments : List Path) :
    List Log.Event × Except Failure (List Path) :=
  let gathered := gather t arguments
  (gathered.1, gathered.2.map Path.sort)

end DocComment.Inputs
