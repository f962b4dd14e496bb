import DocComment.Path

/-!
# File trees

The files and directories below a root, one of which is the working directory.  An absolute path is
followed from the root and any other from the working directory, name by name; two dots lead up,
every name on the way has to be a directory, and names and paths may not be too long.
-/

namespace DocComment

/-- What a file holds: a text, or bytes that are not the encoding of one. -/
inductive Content where
  | text (t : Text)
  | bytes
deriving DecidableEq, Repr

/-- A file or a directory. -/
inductive Entry where
  | file (content : Content)
  | directory
deriving DecidableEq, Repr

/-- The names that lead to an entry from the root. -/
abbrev Location := List Text

/-- The directory above a location; above the root there is the root. -/
def Location.up (loc : Location) : Location := loc.dropLast

/-- The steps that lead from one location to another: two dots as often as it takes to go up, then
names. -/
def Location.stepsTo : Location → Location → List Text
  | here :: below, there :: goal =>
    if here = there then stepsTo below goal
    else List.replicate (below.length + 1) Path.dotDot ++ there :: goal
  | start, goal => List.replicate start.length Path.dotDot ++ goal

/-- The known files and directories, each with its location, and the working directory. -/
structure FileTree where
  entries : List (Location × Entry) := []
  /-- Where relative paths begin.  This directory and those above it are there without an entry. -/
  workingDirectory : Location := ["tmp".toList, "work".toList]
deriving DecidableEq, Repr

/-- Why a file or directory cannot be used. -/
inductive FileError where
  | notFound
  | alreadyExists
  | notADirectory
  | isADirectory
  | nameTooLong
  | notText
deriving DecidableEq, Repr

/-- The error in words. -/
def FileError.message : FileError → Text
  | notFound => "No such file or directory (os error 2)".toList
  | alreadyExists => "File exists (os error 17)".toList
  | notADirectory => "Not a directory (os error 20)".toList
  | isADirectory => "Is a directory (os error 21)".toList
  | nameTooLong => "File name too long (os error 36)".toList
  | notText => "stream did not contain valid UTF-8".toList

/-- What some bytes hold. -/
def Content.ofBytes (bytes : ByteArray) : Content :=
  match String.fromUTF8? bytes with
  | some s => .text s.toList
  | none => .bytes

/-- The text that some content is. -/
def Content.text? : Content → Except FileError Text
  | text t => .ok t
  | bytes => .error .notText

namespace FileTree

/-! ## Entries -/

/-- Whether a location is the working directory or a directory above it. -/
def isAbove (t : FileTree) (loc : Location) : Bool := loc.isPrefixOf t.workingDirectory

/-- The entry at a location. -/
def get? (t : FileTree) (loc : Location) : Option Entry :=
  if t.isAbove loc then some .directory else (t.entries.find? (·.1 = loc)).map Prod.snd

/-- The tree with an entry at a location, in place of the one that may be there. -/
def put (t : FileTree) (loc : Location) (e : Entry) : FileTree :=
  { t with entries := (loc, e) :: t.entries.filter (·.1 ≠ loc) }

@[simp] theorem isAbove_put (t : FileTree) (loc other : Location) (e : Entry) :
    (t.put loc e).isAbove other = t.isAbove other := rfl

theorem get?_put_self (t : FileTree) {loc : Location} (e : Entry)
    (h : t.isAbove loc = false) : (t.put loc e).get? loc = some e := by
  rw [get?, isAbove_put, h]
  simp [put]

theorem get?_put_of_ne (t : FileTree) {loc other : Location} (e : Entry) (h : other ≠ loc) :
    (t.put loc e).get? other = t.get? other := by
  have hfind : (t.entries.filter (·.1 ≠ loc)).find? (·.1 = other) =
      t.entries.find? (·.1 = other) := by
    rw [List.find?_filter]
    congr 1
    funext x
    by_cases hx : x.1 = other <;> simp [hx, h]
  have hne : decide (loc = other) = false := decide_eq_false (Ne.symm h)
  rw [get?, get?, isAbove_put, put, List.find?_cons, hne, hfind]

/-- Whether there is a directory at a location. -/
def isDirectoryAt (t : FileTree) (loc : Location) : Bool := t.get? loc == some .directory

/-- The locations of the directories that lead to the working directory, and of all entries. -/
def locations (t : FileTree) : List Location :=
  (List.range t.workingDirectory.length).map (fun n ↦ t.workingDirectory.take (n + 1)) ++
    t.entries.map Prod.fst

/-- The names of the entries directly in a directory. -/
def names (t : FileTree) (directory : Location) : List Text :=
  t.locations.filterMap fun loc ↦ if loc.dropLast = directory then loc.getLast? else none

/-- The names that lead from a directory to the entries below it. -/
def below (t : FileTree) (directory : Location) : List (List Text) :=
  t.locations.filterMap fun loc ↦ (directory.isPrefixOf? loc).filter (· ≠ [])

/-! ## Following paths -/

/-- The most bytes that a name may take. -/
def maxNameSize : Nat := 255

/-- The most bytes that a path may take. -/
def maxPathSize : Nat := 4095

/-- One step of a path, from a location that has to be a directory. -/
def enter (t : FileTree) (loc : Location) (piece : Text) : Except FileError Location :=
  match t.get? loc with
  | none => .error .notFound
  | some (.file _) => .error .notADirectory
  | some .directory =>
    if piece = [] ∨ piece = Path.dot then .ok loc
    else if piece = Path.dotDot then .ok loc.up
    else if piece.byteSize > maxNameSize then .error .nameTooLong
    else .ok (loc ++ [piece])

/-- The pieces of a path, followed one after the other. -/
def follow (t : FileTree) (loc : Location) : List Text → Except FileError Location
  | [] => .ok loc
  | piece :: rest => (t.enter loc piece).bind fun next ↦ t.follow next rest

/-- Where a path begins. -/
def origin (t : FileTree) (p : Path) : Location :=
  if p.isAbsolute then [] else t.workingDirectory

/-- Where a path leads; there need not be an entry. -/
def locate (t : FileTree) (p : Path) : Except FileError Location :=
  if p = [] then .error .notFound
  else if p.byteSize > maxPathSize then .error .nameTooLong
  else t.follow (t.origin p) p.pieces

/-- The entry that a path leads to. -/
def entry? (t : FileTree) (p : Path) : Option Entry := (t.locate p).toOption.bind t.get?

/-- Whether a path leads to an entry. -/
def hasEntry (t : FileTree) (p : Path) : Bool := (t.entry? p).isSome

/-- Whether a path leads to a directory. -/
def isDirectory (t : FileTree) (p : Path) : Bool := t.entry? p == some .directory

/-- Whether a path leads to a file. -/
def isFile (t : FileTree) (p : Path) : Bool := (t.entry? p).isSome && !t.isDirectory p

/-! ## Reading and writing -/

/-- The text of the file that a path leads to. -/
def read (t : FileTree) (p : Path) : Except FileError Text :=
  (t.locate p).bind fun loc ↦
    match t.get? loc with
    | some (.file content) => content.text?
    | some .directory => .error .isADirectory
    | none => .error .notFound

/-- Write the file that a path leads to; it need not be there, but its directory has to be. -/
def write (t : FileTree) (p : Path) (text : Text) : Except FileError FileTree :=
  (t.locate p).bind fun loc ↦
    match t.get? loc with
    | some .directory => .error .isADirectory
    | _ =>
      if t.isDirectoryAt loc.dropLast then .ok (t.put loc (.file (.text text)))
      else .error .notFound

/-! ## Making directories -/

/-- Make the directory that some pieces of a path lead to from where it begins; the one above has to
be there. -/
def makeDirectory (t : FileTree) (origin : Location) (pieces : List Text) :
    Except FileError FileTree :=
  let last := pieces.getLastD Path.dot
  (t.follow origin pieces.dropLast).bind fun above ↦
    (t.enter above last).bind fun loc ↦
      if last = Path.dot ∨ last = Path.dotDot ∨ (t.get? loc).isSome then .error .alreadyExists
      else .ok (t.put loc .directory)

/-- What becomes of an attempt to make a directory: the tree, and the error if there is no directory
now.  One that was there before is as good. -/
def orExisting (t : FileTree) (origin : Location) (pieces : List Text)
    (made : Except FileError FileTree) : FileTree × Option FileError :=
  match made with
  | .ok t' => (t', none)
  | .error e => (t, if (t.follow origin (pieces ++ [Path.dot])).isOk then none else some e)

/-- Make a directory; where something above it is missing, it is made after what an attempt at the
directories above leaves.  What that attempt has made stays, whatever fails later. -/
def makeBelow (t : FileTree) (origin : Location) (pieces : List Text)
    (above : FileTree × Option FileError) : FileTree × Option FileError :=
  match t.makeDirectory origin pieces with
  | .error .notFound =>
    match above with
    | (t', none) => t'.orExisting origin pieces (t'.makeDirectory origin pieces)
    | (t', some e) => (t', some e)
  | made => t.orExisting origin pieces made

/-- Make a directory and those above it that are missing; the pieces are given from the last to the
first. -/
def makeAll (t : FileTree) (origin : Location) : List Text → FileTree × Option FileError
  | [] => (t, none)
  | last :: above => t.makeBelow origin (last :: above).reverse (makeAll t origin above)

/-- The pieces of a path without the empty ones at its end. -/
def trimmedPieces (p : Path) : List Text :=
  (p.pieces.reverse.dropWhile List.isEmpty).reverse

/-- The pieces of a path that are steps, and the dot that it may begin with, from the last to the
first. -/
def stepsUp (p : Path) : List Text :=
  let start := if p.pieces.head? = some Path.dot then [Path.dot] else []
  (start ++ p.pieces.filter fun piece ↦ (Path.Component.ofPiece? piece).isSome).reverse

/-- Try to make the directory that a path leads to, and those above it that are missing: the tree
that is left, and the error that there was. -/
def tryDirectories (t : FileTree) (p : Path) : FileTree × Option FileError :=
  if p.byteSize > maxPathSize then (t, some .nameTooLong)
  else
    let origin := t.origin p
    t.makeBelow origin (trimmedPieces p) (t.makeAll origin (stepsUp p).tail)

/-- The tree in which a path leads to a directory, which is made if need be. -/
def makeDirectories (t : FileTree) (p : Path) : Except FileError FileTree :=
  match t.tryDirectories p with
  | (t', none) => .ok t'
  | (_, some e) => .error e

/-! ## Building and comparing -/

/-- The tree with a directory and all directories that lead to it from the working directory. -/
def addDirectory (t : FileTree) (names : List Text) : FileTree :=
  (List.range names.length).foldl
    (fun t n ↦ t.put (t.workingDirectory ++ names.take (n + 1)) .directory) t

/-- The tree with a file and all directories that lead to it from the working directory. -/
def addFile (t : FileTree) (names : List Text) (content : Content) : FileTree :=
  (t.addDirectory names.dropLast).put (t.workingDirectory ++ names) (.file content)

/-- The texts of the files that an earlier tree does not have, or has with another content, each
with the steps that lead to it from the working directory. -/
def changedFiles (before after : FileTree) : List (List Text × Text) :=
  after.entries.filterMap fun entry ↦
    match entry.2 with
    | .file (.text text) =>
      if before.get? entry.1 = some entry.2 then none
      else some (after.workingDirectory.stepsTo entry.1, text)
    | .file .bytes | .directory => none

end FileTree

end DocComment
