import DocComment.Text

/-!
# Paths

A path is a text, and it keeps the spelling it was given.  What counts is its components: the names
between the slashes, where repeated slashes and inner dots say nothing.  Paths are ordered
component by component, so `a/x` comes before `a-b/x`.
-/

namespace DocComment

/-- A path as it was spelt. -/
abbrev Path := Text

namespace Path

/-! ## Components -/

/-- One step of a path. -/
inductive Component where
  /-- The slash that an absolute path begins with. -/
  | root
  /-- The dot that a path may begin with. -/
  | here
  | up
  | name (n : Text)
deriving DecidableEq, Repr

/-- The dot, which stands for the directory itself. -/
def dot : Text := ['.']

/-- The two dots, which stand for the directory above. -/
def dotDot : Text := ['.', '.']

/-- Whether a path begins with a slash. -/
def isAbsolute (p : Path) : Bool := p.head? == some '/'

/-- The pieces of a path between its slashes. -/
def pieces (p : Path) : List Text := p.splitOn '/'

/-- A piece that is not the first one of its path; an empty piece and a dot are no step. -/
def Component.ofPiece? (piece : Text) : Option Component :=
  if piece = [] ∨ piece = dot then none
  else if piece = dotDot then some .up
  else some (.name piece)

/-- The components of a path. -/
def components (p : Path) : List Component :=
  let start : List Component :=
    if isAbsolute p then [.root] else if p.pieces.head? = some dot then [.here] else []
  start ++ p.pieces.filterMap Component.ofPiece?

/-- Whether a path is nothing but the dot. -/
def isHere (p : Path) : Bool := p.components == [.here]

/-- A directory with a name in it. -/
def join (directory : Path) (name : Text) : Path :=
  if directory = [] ∨ directory.getLast? = some '/' then directory ++ name
  else directory ++ '/' :: name

/-- The names among the components of a path. -/
def names (p : Path) : List Text :=
  p.components.filterMap fun
    | .name n => some n
    | .root | .here | .up => none

/-! ## Order -/

/-- The place of a component among components of other kinds. -/
def Component.rank : Component → Nat
  | root => 0
  | here => 1
  | up => 2
  | name _ => 3

/-- The name that a component consists of; the other kinds have none. -/
def Component.text : Component → Text
  | root | here | up => []
  | name n => n

/-- Components by kind, and names by their texts. -/
def Component.compare (a b : Component) : Ordering :=
  if a.rank < b.rank then .lt else if b.rank < a.rank then .gt else Text.compare a.text b.text

/-- Lists of components, the earlier components first. -/
def compareComponents : List Component → List Component → Ordering
  | [], [] => .eq
  | [], _ :: _ => .lt
  | _ :: _, [] => .gt
  | a :: as, b :: bs => (a.compare b).then (compareComponents as bs)

/-- Paths by their components. -/
def compare (p q : Path) : Ordering := compareComponents p.components q.components

/-- A sorted list of paths with one more, unless an equal one is there already. -/
def insert (p : Path) : List Path → List Path
  | [] => [p]
  | q :: rest =>
    match compare p q with
    | .lt => p :: q :: rest
    | .eq => q :: rest
    | .gt => q :: insert p rest

/-- The sorted list of some paths; of equal ones it has the first. -/
def sort (ps : List Path) : List Path := ps.foldl (fun sorted p ↦ insert p sorted) []

/-! ## Names -/

/-- The name of the file that a path leads to. -/
def fileName? (p : Path) : Option Text :=
  match p.components.getLast? with
  | some (.name n) => some n
  | _ => none

/-- A file name cut at its last dot; a dot at the beginning does not count. -/
def cutName (name : Text) : Text × Option Text :=
  let extension := (name.reverse.takeWhile (· ≠ '.')).reverse
  let stem := name.take (name.length - extension.length - 1)
  if stem = [] then (name, none) else (stem, some extension)

/-- The extension of a file. -/
def extension? (p : Path) : Option Text := p.fileName?.bind fun name ↦ (cutName name).2

/-- The name of a file without its extension. -/
def stem? (p : Path) : Option Text := p.fileName?.map fun name ↦ (cutName name).1

end Path

end DocComment
