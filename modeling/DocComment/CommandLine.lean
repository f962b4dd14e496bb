import DocComment.Path

/-!
# The command line

The arguments of the program are read from left to right.  An option with a value takes it from the
same argument or from the next one; switches may share one hyphen; after two hyphens everything is
a file.  No option and no switch may be given twice.
-/

namespace DocComment.CommandLine

/-- The options that take a value. -/
inductive Setting where
  | output
  | format
  | codeLang
deriving DecidableEq, Repr

/-- The options that take none. -/
inductive Switch where
  | showPrivate
  | warnUnknown
  | verbose
  | help
  | version
deriving DecidableEq, Repr

/-- An option. -/
inductive Opt where
  | setting (s : Setting)
  | switch (s : Switch)
deriving DecidableEq, Repr

/-- The option with a long name. -/
def longOption? (name : Text) : Option Opt :=
  if name = "output".toList then some (.setting .output)
  else if name = "format".toList then some (.setting .format)
  else if name = "code-lang".toList then some (.setting .codeLang)
  else if name = "show-private".toList then some (.switch .showPrivate)
  else if name = "warn-unknown".toList then some (.switch .warnUnknown)
  else if name = "verbose".toList then some (.switch .verbose)
  else if name = "help".toList then some (.switch .help)
  else if name = "version".toList then some (.switch .version)
  else none

/-- The option with a name of one letter. -/
def shortOption? : Char → Option Opt
  | 'o' => some (.setting .output)
  | 'f' => some (.setting .format)
  | 'v' => some (.switch .verbose)
  | 'h' => some (.switch .help)
  | 'V' => some (.switch .version)
  | _ => none

/-- Why the arguments do not ask for a run. -/
inductive Stop where
  | wrongUsage
  | help
  | version
deriving DecidableEq, Repr

/-- What the arguments have said so far. -/
structure Given where
  settings : List (Setting × Text) := []
  switches : List Switch := []
  files : List Path := []
  /-- The option that waits for its value. -/
  pending : Option Setting := none
  /-- Whether everything is a file from here on. -/
  filesOnly : Bool := false
deriving DecidableEq, Repr

namespace Given

/-- The value of an option, if it was given. -/
def value? (g : Given) (s : Setting) : Option Text := g.settings.lookup s

/-- Give an option its value.  An output directory needs a name. -/
def set (g : Given) (s : Setting) (value : Text) : Except Stop Given :=
  if (g.value? s).isSome || (s = .output && value.isEmpty) then .error .wrongUsage
  else .ok { g with settings := (s, value) :: g.settings, pending := none }

/-- Give a switch. -/
def turnOn (g : Given) (s : Switch) : Except Stop Given :=
  match s with
  | .help => .error .help
  | .version => .error .version
  | s =>
    if g.switches.contains s then .error .wrongUsage
    else .ok { g with switches := s :: g.switches }

/-- Take the letters after a hyphen; the first one that needs a value has the rest for it. -/
def takeShort (g : Given) : Text → Except Stop Given
  | [] => .ok g
  | c :: rest =>
    match shortOption? c with
    | none => .error .wrongUsage
    | some (.switch s) => (g.turnOn s).bind fun g ↦ takeShort g rest
    | some (.setting s) =>
      match rest with
      | [] => .ok { g with pending := some s }
      | '=' :: value => g.set s value
      | value => g.set s value

/-- Take what follows two hyphens. -/
def takeLong (g : Given) (t : Text) : Except Stop Given :=
  let (name, value) := match t.splitFirst? (· = '=') with
    | some (name, value) => (name, some value)
    | none => (t, none)
  match longOption? name, value with
  | some (.setting s), some value => g.set s value
  | some (.setting s), none => .ok { g with pending := some s }
  | some (.switch s), none => g.turnOn s
  | some (.switch _), some _ | none, _ => .error .wrongUsage

/-- Take one argument. -/
def take (g : Given) (argument : Text) : Except Stop Given :=
  if g.filesOnly then .ok { g with files := g.files ++ [argument] }
  else match argument, g.pending with
    | '-' :: _ :: _, some _ => .error .wrongUsage
    | value, some s => g.set s value
    | ['-', '-'], none => .ok { g with filesOnly := true }
    | '-' :: '-' :: long, none => g.takeLong long
    | '-' :: c :: short, none => g.takeShort (c :: short)
    | file, none => .ok { g with files := g.files ++ [file] }

end Given

/-- What a run is asked to do. -/
structure Request where
  files : List Path
  output : Option Path
  format : Text
  codeLang : Text
  showPrivate : Bool
  warnUnknown : Bool
  verbose : Bool
deriving DecidableEq, Repr

/-- Values of the environment by their names. -/
abbrev Environment := List (Text × Text)

/-- Read the arguments; the format and the language may come from the environment. -/
def parse (arguments : List Text) (environment : Environment) : Except Stop Request := do
  let g ← arguments.foldlM Given.take {}
  if g.pending.isSome then .error .wrongUsage
  let ofEnvironment (s : Setting) (name missing : Text) : Text :=
    (g.value? s).getD ((environment.lookup name).getD missing)
  return {
    files := g.files
    output := g.value? .output
    format := ofEnvironment .format "TAGDOC_FORMAT".toList "markdown".toList
    codeLang := ofEnvironment .codeLang "TAGDOC_CODE_LANG".toList []
    showPrivate := g.switches.contains .showPrivate
    warnUnknown := g.switches.contains .warnUnknown
    verbose := g.switches.contains .verbose }

end DocComment.CommandLine
