import DocComment.Main
import DocComment.Proofs.Anchors.Collision
import DocComment.Proofs.Pages.Kept
import DocComment.Proofs.Record.Append
import DocComment.Proofs.Record.WellFormed
import DocComment.Proofs.Document.Indent
import DocComment.Proofs.Document.Rearrange
import DocComment.Proofs.Markdown.Lines
import DocComment.Proofs.Markdown.Links
import DocComment.Proofs.Line.Partition
import DocComment.Proofs.Tag.Unknown
import DocComment.Proofs.Document.Complaint
import DocComment.Proofs.Document.Inert
import DocComment.Proofs.Document.Blanks
import DocComment.Proofs.Markdown.Suppressed
import DocComment.Proofs.Listing.Accepted
import DocComment.Proofs.Line.Blocks
import DocComment.Proofs.Pages.Effect
import DocComment.Proofs.Prose.Image
import DocComment.Proofs.Prose.Words
import DocComment.Proofs.Prose.Items
import DocComment.Proofs.CodeBlock.Kept
import DocComment.Proofs.Tag.Occurrences
import DocComment.Proofs.Record.Names
import DocComment.Proofs.Record.Entries
import DocComment.Proofs.Record.Brackets
import DocComment.Proofs.Markdown.Rows
import DocComment.Proofs.Markdown.Fences
import DocComment.Proofs.Markdown.ReadBack
import DocComment.Proofs.Inputs.Selected
import DocComment.Proofs.Anchors.Slug
