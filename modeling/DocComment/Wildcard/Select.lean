import DocComment.FileTree
import DocComment.Wildcard.Pattern

/-!
# Selecting files by a pattern

A pattern that is a path is followed component by component, an absolute one from the root and any
other from the working directory.  A component without wildcards names one entry; one with wildcards
selects among the entries of a directory; two asterisks go on with everything below it.  Entries are
spelt by the path that led to them.
-/

namespace DocComment.Wildcard

/-- A pattern cut at its slashes. -/
structure PathPattern where
  /-- The path that the components begin at: the root, or the dot. -/
  start : Path
  components : List Pattern
  /-- Whether a slash ends the pattern, so that it selects directories only. -/
  directoriesOnly : Bool
deriving DecidableEq, Repr

/-- Of neighbouring components that stand for any number of directories, the first one. -/
def collapse : List Pattern → List Pattern
  | p :: q :: rest =>
    if p.isRecursive && q.isRecursive then collapse (q :: rest) else p :: collapse (q :: rest)
  | ps => ps

/-- The pieces of a pattern between its slashes; a slash at the end opens no further piece. -/
def patternPieces (pattern : Text) : List Text :=
  let pieces := pattern.splitOn '/'
  if pattern.getLast? = some '/' then pieces.dropLast else pieces

/-- The path that a pattern begins at, and the pattern from there on. -/
def cutStart (pattern : Text) : Path × Text :=
  if Path.isAbsolute pattern then (['/'], pattern.drop 1) else (Path.dot, pattern)

/-- The pattern that a text is.  It has to be well-formed as a whole and in each component. -/
def PathPattern.ofText (t : Text) : Except PatternError PathPattern := do
  let _ ← Pattern.ofText t
  let (start, rest) := cutStart t
  let components ← (patternPieces rest).mapM Pattern.ofText
  return ⟨start, collapse components, t.getLast? == some '/'⟩

/-- An entry of a directory, as its path is spelt; entries of the working directory go by their
names alone. -/
def spell (directory : Path) (name : Text) : Path :=
  if directory.isHere then name else directory.join name

/-- Whether a pattern matches the last name of a path. -/
def matchesName (p : Pattern) (path : Path) : Bool := path.fileName?.any p.isMatch

/-- The entries of a directory. -/
def children (t : FileTree) (directory : Path) : List Path :=
  match t.locate directory with
  | .ok loc => (t.names loc).map (spell directory)
  | .error _ => []

/-- Everything below a directory. -/
def descendants (t : FileTree) (directory : Path) : List Path :=
  match t.locate directory with
  | .ok loc => (t.below loc).map (·.foldl spell directory)
  | .error _ => []

/-- The dots that a pattern with wildcards matches, which are gone through before the entries of a
directory; only a pattern that begins with a dot matches any. -/
def dots (p : Pattern) : List Text :=
  if p.head? = some (.char '.') then [Path.dotDot, Path.dot].filter p.isMatch else []

/-- The paths that the components of a pattern select, starting from a path. -/
def select (t : FileTree) (directoriesOnly : Bool) : List Pattern → Path → List Path
  | [], path => if directoriesOnly && !t.isDirectory path then [] else [path]
  | p :: rest, path =>
    match p.literal? with
    | some name =>
      let next := spell path name
      let isDots := name = Path.dot ∨ name = Path.dotDot
      if if isDots then t.isDirectory path else t.hasEntry next then
        select t directoriesOnly rest next
      else []
    | none =>
      if !t.isDirectory path then []
      else if p.isRecursive then
        match rest with
        | [] => (descendants t path).filter t.isDirectory
        | q :: rest =>
          ((descendants t path).filter (matchesName q)).flatMap (select t directoriesOnly rest)
      else
        ((dots p).map path.join ++ (children t path).filter (matchesName p)).flatMap
          (select t directoriesOnly rest)

/-- The paths that a pattern selects. -/
def PathPattern.select (p : PathPattern) (t : FileTree) : List Path :=
  Wildcard.select t p.directoriesOnly p.components p.start

end DocComment.Wildcard
