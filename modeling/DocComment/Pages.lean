import DocComment.CommandLine
import DocComment.Inputs
import DocComment.Listing
import DocComment.Log.Reading

/-!
# Pages of listings

Each input file that is a listing becomes a page in the output directory, named for the file.  A
file that is no listing is skipped, and so is one without units to document.  The first file that
cannot be read, or whose page cannot be written, ends the run; the pages before it stay.
-/

namespace DocComment.Pages

/-- How listings become pages. -/
structure Job where
  output : Path
  format : Format
  options : Markdown.Options
  warnUnknown : Bool
deriving DecidableEq, Repr

/-- What a run did: the events, the tree it left, and what ended it early. -/
structure Report where
  events : List Log.Event
  tree : FileTree
  failure : Option Failure
deriving Repr

/-- The path of the page of a listing. -/
def Job.pagePath (job : Job) (listing : Path) : Path :=
  job.output.join (listing.stem?.getD "index".toList ++ '.' :: job.format.extension)

/-- What is told while the units of a listing are read. -/
def Job.readingEvents (job : Job) (units : List DocUnit) : List Log.Event :=
  ⟨.debug, .units, "loaded units".toList, [Log.count "count" units.length]⟩ ::
    (if job.warnUnknown then
      units.flatMap fun u ↦ (u.comment.map (Log.ofUnknownTags (some u.name))).getD []
    else []) ++
    units.flatMap Log.ofUnit

/-- Make the page of one listing. -/
def Job.process (job : Job) (t : FileTree) (listing : Path) :
    List Log.Event × Except Failure FileTree :=
  match t.read listing with
  | .error e => ([], .error (.unreadable listing e))
  | .ok text =>
    match Listing.load text with
    | .error _ =>
      let message := "skipping ".toList ++ listing ++ ": invalid unit listing".toList
      ([⟨.warn, .program, message, []⟩], .ok t)
    | .ok units =>
      let documented := DocUnit.documentAll units
      let events := job.readingEvents units
      if documented.isEmpty then
        (events ++ [⟨.debug, .program, "no units in ".toList ++ listing, []⟩], .ok t)
      else
        let page := job.pagePath listing
        match t.write page (job.format.render job.options documented) with
        | .error e => (events, .error (.unwritable page e))
        | .ok t' =>
          (events ++ [⟨.debug, .program, "wrote ".toList ++ page,
            [Log.count "units" documented.length]⟩], .ok t')

/-- Make the pages of some listings, one after the other, up to the first failure. -/
def Job.processAll (job : Job) (t : FileTree) : List Path → Report
  | [] => ⟨[], t, none⟩
  | listing :: rest =>
    match job.process t listing with
    | (events, .error f) => ⟨events, t, some f⟩
    | (events, .ok t') =>
      let report := job.processAll t' rest
      { report with events := events ++ report.events }

/-- Make the pages of the listings that some arguments select. -/
def Job.run (job : Job) (t : FileTree) (arguments : List Path) : Report :=
  match Inputs.expand t arguments with
  | (events, .error f) => ⟨events, t, some f⟩
  | (events, .ok listings) =>
    let report := job.processAll t listings
    { report with events := events ++ report.events }

/-- How a request asks for pages to look. -/
def optionsOf (r : CommandLine.Request) : Markdown.Options := ⟨r.codeLang, r.showPrivate⟩

/-- The input files that a request selects, once its output directory is there. -/
def inputFiles (r : CommandLine.Request) (t : FileTree) : List Path :=
  let t := (r.output.map fun output ↦ (t.makeDirectories output).toOption.getD t).getD t
  match (Inputs.expand t r.files).2 with
  | .ok listings => listings
  | .error _ => []

/-- Make the pages that a request asks for. -/
def run (r : CommandLine.Request) (t : FileTree) : Report :=
  match r.output with
  | none => ⟨[], t, some .missingOutput⟩
  | some output =>
    match t.tryDirectories output with
    | (t, some e) => ⟨[], t, some (.outputDirectory output e)⟩
    | (t, none) =>
      match Format.ofName? r.format with
      | none => ⟨[], t, some (.unknownFormat r.format)⟩
      | some format => Job.run ⟨output, format, optionsOf r, r.warnUnknown⟩ t r.files

end DocComment.Pages
