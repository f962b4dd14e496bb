import DocComment.Slug

/-!
# Anchors

Headings of a page are addressed in page order: the first heading with a slug by the slug itself,
and every later one by the slug and the number of headings before it that share the slug.
-/

namespace DocComment

/-- The slugs of the headings so far, the latest first. -/
structure Anchors where
  slugs : List Text := []
deriving DecidableEq, Repr

namespace Anchors

/-- A slug with the number of earlier headings that share it, unless there is none. -/
def numbered (slug : Text) (earlier : Nat) : Text :=
  if earlier = 0 then slug else slug ++ '-' :: Text.ofNat earlier

/-- The anchor of the next heading. -/
def anchor (a : Anchors) (heading : Text) : Text :=
  let slug := Slug.ofHeading heading
  numbered slug (a.slugs.count slug)

/-- One more heading on the page. -/
def register (a : Anchors) (heading : Text) : Anchors := ⟨Slug.ofHeading heading :: a.slugs⟩

/-- More headings on the page, in order. -/
def registerAll (a : Anchors) (headings : List Text) : Anchors := headings.foldl register a

/-- The anchors of the next headings, in order. -/
def assign (a : Anchors) : List Text → List Text
  | [] => []
  | heading :: rest => a.anchor heading :: assign (a.register heading) rest

@[simp] theorem registerAll_nil (a : Anchors) : a.registerAll [] = a := rfl

@[simp] theorem registerAll_cons (a : Anchors) (heading : Text) (rest : List Text) :
    a.registerAll (heading :: rest) = (a.register heading).registerAll rest := rfl

theorem registerAll_append (a : Anchors) (before after : List Text) :
    a.registerAll (before ++ after) = (a.registerAll before).registerAll after :=
  List.foldl_append

@[simp] theorem length_assign (a : Anchors) (headings : List Text) :
    (a.assign headings).length = headings.length := by
  induction headings generalizing a with
  | nil => rfl
  | cons heading rest ih => simp [assign, ih]

end Anchors

/-- An item of an index that leads to an anchor. -/
def indexItem (title anchor : Text) : Text :=
  "* [".toList ++ title ++ "](#".toList ++ anchor ++ ")".toList

end DocComment
