import DocComment.Proofs.Text.Trim
import DocComment.Record.Fields

/-!
# Unbroken lines

The lines of a comment have none of the characters that end a line (`Line.unbroken_of_mem_split`),
and so it is with every line of the document that they are cut into (`Document.unbroken_ofText`).
What a marker leaves of a line is a part of it (`Tag.argument?_subset`), so the arguments of tags
are unbroken, too.
-/

namespace DocComment

/-! ## Texts -/

namespace Text

variable {t s : Text}

/-- No character of the text ends a line. -/
def Unbroken (t : Text) : Prop := ∀ c ∈ t, Line.isBreak c = false

/-- The only characters of the text that end a line are line feeds. -/
def OnlyFeeds (t : Text) : Prop := ∀ c ∈ t, Line.isBreak c = true → c = '\n'

/-- It is enough to look at the characters of the text. -/
instance (t : Text) : Decidable t.Unbroken :=
  List.decidableBAll (Line.isBreak · = false) t

instance (t : Text) : Decidable t.OnlyFeeds :=
  List.decidableBAll (fun c ↦ Line.isBreak c = true → c = '\n') t

theorem unbroken_nil : Unbroken [] := nofun

theorem Unbroken.cons {c : Char} (hc : Line.isBreak c = false) (h : t.Unbroken) :
    Unbroken (c :: t) :=
  List.forall_mem_cons.2 ⟨hc, h⟩

theorem Unbroken.append (h : t.Unbroken) (h' : s.Unbroken) : Unbroken (t ++ s) :=
  List.forall_mem_append.2 ⟨h, h'⟩

theorem Unbroken.mono (h : t.Unbroken) (hsubset : s ⊆ t) : s.Unbroken :=
  fun c hc ↦ h c (hsubset hc)

theorem OnlyFeeds.mono (h : t.OnlyFeeds) (hsubset : s ⊆ t) : s.OnlyFeeds :=
  fun c hc ↦ h c (hsubset hc)

theorem Unbroken.onlyFeeds (h : t.Unbroken) : t.OnlyFeeds := by
  intro c hc hbreak
  rw [h c hc] at hbreak
  cases hbreak

theorem Unbroken.notMem_feed (h : t.Unbroken) : '\n' ∉ t := by
  intro hmem
  cases h '\n' hmem

theorem OnlyFeeds.append (h : t.OnlyFeeds) (h' : s.OnlyFeeds) : OnlyFeeds (t ++ s) := by
  intro c hc
  rcases List.mem_append.1 hc with hc | hc
  · exact h c hc
  · exact h' c hc

theorem onlyFeeds_nil : OnlyFeeds [] := nofun

theorem onlyFeeds_feed : OnlyFeeds ['\n'] := fun _ hc _ ↦ List.mem_singleton.1 hc

theorem onlyFeeds_space : OnlyFeeds [' '] := Unbroken.onlyFeeds (.cons rfl unbroken_nil)

end Text

/-! ## Lines and documents -/

/-- The lines of a text are unbroken. -/
theorem Line.unbroken_of_mem_split {t line : Text} (h : line ∈ split t) : line.Unbroken := by
  induction t using split.induct generalizing line with
  | case1 => cases h
  | case2 rest ih =>
    rw [split] at h
    rcases List.mem_cons.1 h with rfl | h
    · exact Text.unbroken_nil
    · exact ih h
  | case3 c rest hreturn hbreak ih =>
    rw [split.eq_3 c rest hreturn, if_pos hbreak] at h
    rcases List.mem_cons.1 h with rfl | h
    · exact Text.unbroken_nil
    · exact ih h
  | case4 c rest hreturn hbreak hrest ih =>
    rw [split.eq_3 c rest hreturn, if_neg hbreak, hrest] at h
    rw [List.mem_singleton.1 h]
    exact .cons (Bool.eq_false_iff.2 hbreak) Text.unbroken_nil
  | case5 c rest hreturn hbreak first more hrest ih =>
    rw [split.eq_3 c rest hreturn, if_neg hbreak, hrest] at h
    rcases List.mem_cons.1 h with rfl | h
    · exact .cons (Bool.eq_false_iff.2 hbreak) (ih (hrest ▸ List.mem_cons_self))
    · exact ih (hrest ▸ List.mem_cons_of_mem first h)

/-- The lines of a section are unbroken. -/
def Section.Unbroken (s : Section) : Prop := ∀ line ∈ s.lines, line.Unbroken

namespace Document

variable {d : Document}

/-- The lines of a document are unbroken. -/
def Unbroken (d : Document) : Prop := ∀ line ∈ d.lines, line.Unbroken

theorem unbroken_ofText (t : Text) : (ofText t).Unbroken := by
  intro line hline
  rw [ofText, lines_ofLines] at hline
  exact Line.unbroken_of_mem_split hline

theorem Unbroken.preamble (h : d.Unbroken) : ∀ line ∈ d.preamble, line.Unbroken :=
  fun line hline ↦ h line (List.mem_append_left _ hline)

theorem Unbroken.sections (h : d.Unbroken) : ∀ s ∈ d.sections, s.Unbroken :=
  fun s hs line hline ↦ h line (List.mem_append_right _ (List.mem_flatMap.2 ⟨s, hs, hline⟩))

end Document

/-! ## Arguments -/

/-- The argument of a tag is a part of its line. -/
theorem Tag.argument?_subset {tag : Tag} {line argument : Text}
    (h : tag.argument? line = some argument) : argument ⊆ line := by
  refine List.Subset.trans ?_ (Text.trim_subset line)
  rw [argument?, Marker.argument?] at h
  split at h
  case h_1 =>
    rw [Option.ite_none_right_eq_some] at h
    rw [← Option.some_inj.1 h.2]
    exact List.nil_subset _
  case h_2 =>
    rw [Text.after?_eq_some_iff.1 h]
    exact List.subset_append_right _ _
  case h_3 =>
    rw [Text.after?_eq_some_iff.1 h]
    exact List.subset_append_right _ _

/-- A tag that a space has to follow has more behind the space. -/
theorem Tag.isBlank_of_argument? {tag : Tag} {line argument : Text} (hshape : tag.shape = .spaced)
    (h : tag.argument? line = some argument) : argument.isBlank = false := by
  rw [argument?, Marker.argument?, marker, hshape] at h
  have htrim := Text.after?_eq_some_iff.1 h
  rw [List.append_assoc] at htrim
  have hblank := Text.isBlank_of_trim_append htrim (List.cons_ne_nil ' ' argument)
  rwa [List.singleton_append, Text.isBlank, List.all_cons, ← Text.isBlank, Bool.and_eq_false_iff,
    or_iff_right] at hblank
  decide

namespace Section

variable {s : Section}

theorem Unbroken.argument {tag : Tag} {a : Text} (h : s.Unbroken) (ha : s.argument? tag = some a) :
    a.Unbroken :=
  (h s.header List.mem_cons_self).mono (Tag.argument?_subset ha)

theorem Unbroken.body (h : s.Unbroken) : ∀ line ∈ s.body, line.Unbroken :=
  fun line hline ↦ h line (List.mem_cons_of_mem s.header hline)

end Section

end DocComment
