import DocComment.Prose

/-!
# Descriptions

The preamble of a comment is its description.  It is prose in which three marks put their line on
a line of its own: `- item` stays as it is, `<ul>item` becomes `- item`, and `<ol>item` becomes
`item`, which is expected to bring its number along.
-/

namespace DocComment.Description

/-- What a line of the preamble adds to the description. -/
def step (line : Text) : Prose.Step :=
  let t := line.trim
  if t.isEmpty then .paragraphBreak
  else if (t.after? "- ".toList).isSome then .item t
  else match t.after? "<ul>".toList, t.after? "<ol>".toList with
    | some item, _ => .item ("- ".toList ++ item)
    | none, some item => .item item
    | none, none => .words t

theorem step_of_isBlank {line : Text} (h : line.isBlank = true) : step line = .paragraphBreak := by
  rw [step, Text.trim_eq_nil_iff.2 h]
  rfl

/-- The description that a preamble amounts to. -/
def ofPreamble (preamble : List Text) : Option Text :=
  ((preamble.map step).foldl Prose.add {}).finish

end DocComment.Description
