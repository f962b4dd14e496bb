import DocComment.Proofs.Record.Entries

/-!
# Arguments with brackets

The address of an author and the type of an error stand in brackets.  Both are cut at the first
opening bracket and the first closing one behind it (`Text.Bracketed.IsFirstIn`), wherever further
brackets are; a closing bracket in front of all opening ones is part of the name.  There is such a
cut as soon as any opening bracket has a closing one somewhere behind it, and there is only one
(`Text.firstBrackets?_eq_some_iff`, `Text.exists_firstBrackets?`).

An author may do without: then the whole argument is the name.  An error has its type only when a
bracket opens the argument, and then the comment can only be read if it is closed.
-/

namespace DocComment

open Line (continuation)
open Prose (reflow)

/-! ## The first brackets -/

namespace Text

/-- A text with a pair of brackets in it: what stands before, in and behind them. -/
structure Bracketed where
  before : Text
  inside : Text
  behind : Text
deriving DecidableEq, Repr

namespace Bracketed

/-- The text with its brackets. -/
def text (b : Bracketed) : Text := b.before ++ '[' :: (b.inside ++ ']' :: b.behind)

/-- The brackets are the first ones of a text: nothing is opened before them, and nothing is closed
in them. -/
structure IsFirstIn (b : Bracketed) (t : Text) : Prop where
  text_eq : b.text = t
  before : '[' ∉ b.before
  inside : ']' ∉ b.inside

end Bracketed

/-- Some opening bracket has a closing one behind it. -/
def HasBrackets (t : Text) : Prop := ∃ b : Bracketed, b.text = t

/-- The cut at the first opening bracket and the first closing one behind it. -/
def firstBrackets? (t : Text) : Option Bracketed :=
  (t.splitFirst? (· = '[')).bind fun opened ↦
    (opened.2.splitFirst? (· = ']')).map fun closed ↦ ⟨opened.1, closed.1, closed.2⟩

variable {t : Text} {b : Bracketed}

theorem forall_decide_eq_false {t : Text} {c : Char} :
    (∀ d ∈ t, decide (d = c) = false) ↔ c ∉ t := by
  simp only [decide_eq_false_iff_not]
  exact List.forall_mem_ne'

theorem firstBrackets?_eq_some_iff : t.firstBrackets? = some b ↔ b.IsFirstIn t := by
  constructor
  · intro h
    obtain ⟨⟨before, rest⟩, hopened, h⟩ := Option.bind_eq_some_iff.1 h
    obtain ⟨⟨inside, behind⟩, hclosed, rfl⟩ := Option.map_eq_some_iff.1 h
    obtain ⟨hbefore, c, hc, rfl⟩ := splitFirst?_eq_some hopened
    obtain ⟨hinside, d, hd, rfl⟩ := splitFirst?_eq_some hclosed
    obtain rfl := of_decide_eq_true hc
    obtain rfl := of_decide_eq_true hd
    exact ⟨rfl, forall_decide_eq_false.1 hbefore, forall_decide_eq_false.1 hinside⟩
  · rintro ⟨rfl, hbefore, hinside⟩
    rw [firstBrackets?, Bracketed.text,
      splitFirst?_append (forall_decide_eq_false.2 hbefore) (decide_eq_true rfl), Option.bind_some,
      splitFirst?_append (forall_decide_eq_false.2 hinside) (decide_eq_true rfl), Option.map_some]

/-- Any brackets there are lead to the first ones. -/
theorem exists_firstBrackets? (h : t.HasBrackets) : ∃ b, t.firstBrackets? = some b := by
  obtain ⟨b, rfl⟩ := h
  obtain ⟨before, rest, hopened, more, rfl⟩ :=
    exists_splitFirst?_eq_some (p := (· = '[')) (decide_eq_true rfl) b.before
      (b.inside ++ ']' :: b.behind)
  obtain ⟨inside, behind, hclosed, -⟩ :=
    exists_splitFirst?_eq_some (p := (· = ']')) (decide_eq_true rfl) (more ++ b.inside) b.behind
  rw [List.append_assoc] at hclosed
  refine ⟨⟨before, inside, behind⟩, ?_⟩
  rw [firstBrackets?, Bracketed.text, hopened, Option.bind_some, hclosed, Option.map_some]

theorem firstBrackets?_eq_none (h : ¬t.HasBrackets) : t.firstBrackets? = none := by
  rw [Option.eq_none_iff_forall_ne_some]
  exact fun b hb ↦ h ⟨b, (firstBrackets?_eq_some_iff.1 hb).text_eq⟩

theorem Bracketed.IsFirstIn.existsUnique (h : b.IsFirstIn t) : ∃! b, Bracketed.IsFirstIn b t := by
  refine ⟨b, h, fun other hother ↦ ?_⟩
  rw [← firstBrackets?_eq_some_iff] at h hother
  exact Option.some_inj.1 (hother.symm.trans h)

theorem HasBrackets.existsUnique (h : t.HasBrackets) : ∃! b, Bracketed.IsFirstIn b t := by
  obtain ⟨b, hb⟩ := exists_firstBrackets? h
  exact (firstBrackets?_eq_some_iff.1 hb).existsUnique

end Text

open Text (Bracketed)

/-! ## Authors -/

/-- The author that an argument names.  With brackets in it, the name stands before the first ones
and the address in them; without, the argument is the name. -/
structure Author.IsReadFrom (argument : Text) (a : Author) : Prop where
  bracketed : argument.HasBrackets →
    (∃! b, Bracketed.IsFirstIn b argument) ∧
      ∀ b, Bracketed.IsFirstIn b argument → a = ⟨b.before.nonBlank?, b.inside.nonBlank?⟩
  plain : ¬argument.HasBrackets → a = ⟨some argument.trim, none⟩

namespace Author

theorem ofArgument_eq (argument : Text) :
    ofArgument argument =
      (argument.firstBrackets?.map fun b ↦ ⟨b.before.nonBlank?, b.inside.nonBlank?⟩).getD
        ⟨argument.nonBlank?, none⟩ := by
  rw [ofArgument, Text.firstBrackets?]
  cases argument.splitFirst? (· = '[') with
  | none => rfl
  | some opened =>
    rw [Option.bind_some, Option.bind_some]
    cases opened.2.splitFirst? (· = ']') <;> rfl

theorem isReadFrom_ofArgument {argument : Text} (h : argument.isBlank = false) :
    (ofArgument argument).IsReadFrom argument where
  bracketed hbrackets := by
    refine ⟨hbrackets.existsUnique, fun b hb ↦ ?_⟩
    rw [ofArgument_eq, Text.firstBrackets?_eq_some_iff.2 hb]
    rfl
  plain hnone := by
    rw [ofArgument_eq, Text.firstBrackets?_eq_none hnone, Option.map_none, Option.getD_none,
      Text.nonBlank?, h]
    rfl

end Author

/-! ## Errors -/

/-- The error that an argument names, with the lines below it.  When a bracket opens the argument,
the type stands up to the first closing one and the description begins behind it; otherwise there is
no type and the whole argument begins the description. -/
structure Throw.IsReadFrom (argument : Text) (body : List Text) (e : Throw) : Prop where
  bracketed : argument.head? = some '[' →
    (∃! b, Bracketed.IsFirstIn b argument) ∧
      ∀ b, Bracketed.IsFirstIn b argument →
        b.before = [] ∧ e = ⟨b.inside.nonBlank?, reflow b.behind body⟩
  plain : argument.head? ≠ some '[' → e = ⟨none, reflow argument body⟩

namespace Throw

variable {argument : Text} {body : List Text} {e : Throw}

theorem isReadFrom_of_ofArgument? (h : ofArgument? argument body = some e) :
    e.IsReadFrom argument body := by
  unfold ofArgument? at h
  split at h
  case h_1 rest =>
    obtain ⟨⟨type, behind⟩, hcut, rfl⟩ := Option.map_eq_some_iff.1 h
    obtain ⟨htype, c, hc, rfl⟩ := Text.splitFirst?_eq_some hcut
    obtain rfl := of_decide_eq_true hc
    have hfirst : Bracketed.IsFirstIn ⟨[], type, behind⟩ ('[' :: (type ++ ']' :: behind)) :=
      ⟨rfl, List.not_mem_nil, Text.forall_decide_eq_false.1 htype⟩
    refine ⟨fun _ ↦ ⟨hfirst.existsUnique, fun b hb ↦ ?_⟩, fun hhead ↦ absurd rfl hhead⟩
    obtain rfl := hfirst.existsUnique.unique hb hfirst
    exact ⟨rfl, rfl⟩
  case h_2 hother =>
    cases h
    refine ⟨fun hhead ↦ ?_, fun _ ↦ rfl⟩
    obtain ⟨rest, rfl⟩ := List.head?_eq_some_iff.1 hhead
    exact absurd rfl (hother rest)

end Throw

/-! ## Comments -/

/-- In a comment that can be read, every author and every error is cut out of its argument at the
first brackets, in line order: an author whenever there are any, an error when one opens the
argument. -/
theorem isReadFrom_of_parse {comment : Text} {r : Record} (h : parse comment = .ok r) :
    let lines := Line.split comment
    List.Forall₂ (fun o a ↦ Author.IsReadFrom o.argument a)
      (Tag.author.occurrences lines) r.authors ∧
    List.Forall₂ (fun o e ↦ Throw.IsReadFrom o.argument (continuation lines o.line) e)
      (Tag.throws.occurrences lines) r.throws := by
  intro lines
  obtain ⟨hreadable, rfl⟩ := Document.parse_eq_ok_iff.1 h
  rw [← Document.isSome_malformed?, Option.isSome_eq_false_iff, Option.isNone_iff_eq_none]
    at hreadable
  have horder := Document.inLineOrder_record hreadable
  constructor
  · rw [horder.authors, List.forall₂_map_right_iff, List.forall₂_same]
    intro o ho
    exact Author.isReadFrom_ofArgument (Tag.isBlank_of_mem_occurrences rfl ho)
  · have hthrows : List.Forall₂ Eq ((Tag.throws.occurrences lines).map (·.throw? lines))
        ((Document.ofLines lines).record.throws.map some) :=
      List.forall₂_eq_eq_eq ▸ horder.throws.symm
    rw [List.forall₂_map_left_iff, List.forall₂_map_right_iff] at hthrows
    exact hthrows.imp fun o e ↦ Throw.isReadFrom_of_ofArgument?

/-- Brackets in brackets and behind them, a closing one in front of an opening one, an address of
blanks, and an error whose brackets do not open the argument. -/
theorem isReadFrom_of_parse_nested :
    let comment := ("@author A [x [y] z] w\n@author ] B [c\n@author é[ ]\n" ++
      "@throws [T[0] d]\n e\n@throws x [T]").toList
    let r : Record :=
      { authors := [⟨some "A".toList, some "x [y".toList⟩, ⟨some "] B [c".toList, none⟩,
          ⟨some "é".toList, none⟩]
        throws := [⟨some "T[0".toList, some "d] e".toList⟩, ⟨none, some "x [T]".toList⟩] }
    parse comment = .ok r ∧
      Author.IsReadFrom "A [x [y] z] w".toList ⟨some "A".toList, some "x [y".toList⟩ ∧
      Author.IsReadFrom "] B [c".toList ⟨some "] B [c".toList, none⟩ ∧
      Author.IsReadFrom "é[ ]".toList ⟨some "é".toList, none⟩ ∧
      Throw.IsReadFrom "[T[0] d]".toList [" e".toList]
        ⟨some "T[0".toList, some "d] e".toList⟩ ∧
      Throw.IsReadFrom "x [T]".toList [] ⟨none, some "x [T]".toList⟩ := by
  intro comment r
  have h : parse comment = .ok r := by decide +kernel
  obtain ⟨hauthors, hthrows⟩ := isReadFrom_of_parse h
  have hauthorLines : Tag.author.occurrences (Line.split comment) =
      [⟨0, "A [x [y] z] w".toList⟩, ⟨1, "] B [c".toList⟩, ⟨2, "é[ ]".toList⟩] := by
    decide +kernel
  have hthrowLines : Tag.throws.occurrences (Line.split comment) =
      [⟨3, "[T[0] d]".toList⟩, ⟨5, "x [T]".toList⟩] := by
    decide +kernel
  have hbelow : continuation (Line.split comment) 3 = [" e".toList] ∧
      continuation (Line.split comment) 5 = [] := by
    decide +kernel
  rw [hauthorLines] at hauthors
  rw [hthrowLines] at hthrows
  simp only [r, List.forall₂_cons, hbelow.1, hbelow.2] at hauthors hthrows
  exact ⟨h, hauthors.1, hauthors.2.1, hauthors.2.2.1, hthrows.1, hthrows.2.1⟩

end DocComment
