import DocComment.Log.Filter
import DocComment.Pages

/-!
# Runs of the program

A run takes arguments, an environment, the standard input and a file tree, and leaves an exit code,
the texts on both outputs and a file tree.  Without input files it reads one comment from the
standard input and writes its record to the standard output; with input files it makes pages.
-/

namespace DocComment

/-- What a run leaves. -/
structure Outcome where
  code : Nat
  output : Text := []
  /-- What is written to the standard error. -/
  errors : Text := []
  tree : FileTree
deriving Repr

namespace Run

/-- The name of the program. -/
def programName : Text := "tagdoc".toList

/-- What the program answers when asked for its version. -/
def versionText : Text := programName ++ " 0.1.0\n".toList

/-- What the program answers when asked for help. -/
def helpText : Text :=
  ("Generate documentation from tagged doc-comments\n\n".toList ++
    "Usage: tagdoc [OPTIONS] [FILES]...\n\n".toList ++
    "  -o, --output <OUTPUT>        Output directory (required when files are given)\n".toList ++
    "  -f, --format <FORMAT>        Output format: markdown (default) or json\n".toList ++
    "      --code-lang <CODE_LANG>  Language for fenced example blocks\n".toList ++
    "      --show-private           Include units marked @private or @ignore\n".toList ++
    "      --warn-unknown           Warn about tags outside the known vocabulary\n".toList ++
    "  -v, --verbose                Log debug output to stderr\n".toList ++
    "  -h, --help                   Print help\n".toList ++
    "  -V, --version                Print version\n".toList)

/-- What the program answers when its arguments make no sense. -/
def usageHint : Text := "error: wrong usage. For more information, try '--help'.\n".toList

/-- The filter for the events of a run; a verbose run has one of its own. -/
def filter (r : CommandLine.Request) (environment : CommandLine.Environment) : Log.Filter :=
  Log.Filter.ofSetting
    (if r.verbose then some (programName ++ "=debug".toList)
    else environment.lookup "RUST_LOG".toList)

/-- What is written to the standard error: the events that pass, and the failure, if any. -/
def errorText (filter : Log.Filter) (events : List Log.Event) (failure : Option Failure) : Text :=
  ((events.filter filter.lets).map Log.Event.line ++ (failure.map Failure.report).getD []).flatMap
    (· ++ ['\n'])

/-- Read one comment: the events, and the text of its record. -/
def ofComment (r : CommandLine.Request) (input : Content) :
    List Log.Event × Except Failure Text :=
  match input.text? with
  | .error e => ([], .error (.unreadableInput e))
  | .ok comment =>
    let events := (if r.warnUnknown then Log.ofUnknownTags none comment else []) ++
      Log.ofDocument (Document.ofText comment)
    match parse comment with
    | .error e => (events, .error (.malformedComment e))
    | .ok record =>
      match Format.ofName? r.format with
      | none => (events, .error (.unknownFormat r.format))
      | some format => (events, .ok (format.renderRecord (Pages.optionsOf r) record))

/-- Do what a request asks for. -/
def ofRequest (r : CommandLine.Request) (filter : Log.Filter) (input : Content) (tree : FileTree) :
    Outcome :=
  if r.files.isEmpty then
    match ofComment r input with
    | (events, .error f) => ⟨1, [], errorText filter events (some f), tree⟩
    | (events, .ok text) => ⟨0, text, errorText filter events none, tree⟩
  else
    let report := Pages.run r tree
    ⟨if report.failure.isSome then 1 else 0, [],
      errorText filter report.events report.failure, report.tree⟩

/-- Run the program. -/
def run (arguments : List Text) (environment : CommandLine.Environment) (input : Content)
    (tree : FileTree) : Outcome :=
  match CommandLine.parse arguments environment with
  | .error .wrongUsage => { code := 2, errors := usageHint, tree }
  | .error .help => { code := 0, output := helpText, tree }
  | .error .version => { code := 0, output := versionText, tree }
  | .ok request => ofRequest request (filter request environment) input tree

end Run

end DocComment
