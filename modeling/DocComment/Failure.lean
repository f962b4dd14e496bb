import DocComment.FileTree
import DocComment.Format
import DocComment.Wildcard.Pattern
import DocComment.Malformed

/-!
# Failures of a run

What ends a run early.  A failure is reported by what was being done and, on lines of their own, by
the cause.
-/

namespace DocComment

/-- What ends a run early. -/
inductive Failure where
  | unreadableInput (cause : FileError)
  | malformedComment (cause : Malformed)
  | missingOutput
  | outputDirectory (directory : Path) (cause : FileError)
  | unknownFormat (name : Text)
  | invalidPattern (pattern : Text) (cause : Wildcard.PatternError)
  | unreadable (file : Path) (cause : FileError)
  | unwritable (file : Path) (cause : FileError)
deriving DecidableEq, Repr

namespace Failure

/-- What was being done, in words. -/
def summary : Failure → Text
  | unreadableInput _ => "failed to read stdin".toList
  | malformedComment _ => "failed to parse doc-comment".toList
  | missingOutput => "--output is required when files are given".toList
  | outputDirectory directory _ => "failed to create output directory: ".toList ++ directory
  | unknownFormat name => Format.unknownMessage name
  | invalidPattern pattern _ => "invalid glob pattern: ".toList ++ pattern
  | unreadable file _ => "failed to read ".toList ++ file
  | unwritable file _ => "failed to write ".toList ++ file

/-- The cause in words, where there is one apart from the summary. -/
def cause? : Failure → Option Text
  | missingOutput | unknownFormat _ => none
  | malformedComment cause => some cause.message
  | invalidPattern _ cause => some cause.message
  | unreadableInput cause | outputDirectory _ cause | unreadable _ cause | unwritable _ cause =>
    some cause.message

/-- The report of a failure. -/
def report (f : Failure) : List Text :=
  ("Error: ".toList ++ f.summary) ::
    (f.cause?.map fun cause ↦ [[], "Caused by:".toList, "    ".toList ++ cause]).getD []

end Failure

end DocComment
