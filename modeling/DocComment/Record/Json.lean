import DocComment.DocUnit
import DocComment.Json.Print

/-!
# Records as JSON

The value that stands for a record on a JSON page.  Every field is present; what is absent is null
or an empty array; a deprecation is `false`, `true` or its reason.
-/

namespace DocComment

open Json (ofText? ofTexts)

/-- The value of an author. -/
def Author.toJson (a : Author) : Json :=
  .object [("name".toList, ofText? a.name), ("email".toList, ofText? a.email)]

/-- The value of a deprecation. -/
def Deprecation.toJson : Deprecation → Json
  | .no => .bool false
  | .yes => .bool true
  | .reason text => .string text

/-- The value of an example. -/
def Example.toJson (e : Example) : Json :=
  .object [("caption".toList, ofText? e.caption), ("code".toList, .string e.code)]

/-- The value of a license. -/
def License.toJson (l : License) : Json :=
  .object [("name".toList, ofText? l.name), ("text".toList, ofText? l.text)]

/-- The value of a namespace. -/
def Namespace.toJson (n : Namespace) : Json :=
  .object [("name".toList, .string n.name), ("description".toList, ofText? n.description)]

/-- The value of a parameter. -/
def Parameter.toJson (p : Parameter) : Json :=
  .object [("name".toList, .string p.name), ("description".toList, .string p.description)]

/-- The value of an error that may be thrown. -/
def Throw.toJson (t : Throw) : Json :=
  .object [("type".toList, ofText? t.type), ("description".toList, ofText? t.description)]

/-- The value of a record. -/
def Record.toJson (r : Record) : Json :=
  .object [
    ("description".toList, ofText? r.description),
    ("author".toList, .array (r.authors.map Author.toJson)),
    ("copyright".toList, ofTexts r.copyright),
    ("deprecated".toList, r.deprecated.toJson),
    ("examples".toList, .array (r.examples.map Example.toJson)),
    ("global".toList, .bool r.isGlobal),
    ("ignore".toList, .bool r.isIgnored),
    ("license".toList, (r.license.map License.toJson).getD .null),
    ("memberof".toList, ofTexts r.memberOf),
    ("namespaces".toList, .array (r.namespaces.map Namespace.toJson)),
    ("parameters".toList, .array (r.parameters.map Parameter.toJson)),
    ("private".toList, .bool r.isPrivate),
    ("returns".toList, ofText? r.returns),
    ("since".toList, ofText? r.since),
    ("throws".toList, .array (r.throws.map Throw.toJson)),
    ("todo".toList, ofTexts r.todo),
    ("version".toList, ofText? r.version)]

/-- The value of a documented unit. -/
def DocumentedUnit.toJson (u : DocumentedUnit) : Json :=
  .object [
    ("name".toList, .string u.name),
    ("kind".toList, .string u.kind.word),
    ("docstring".toList, (u.record.map Record.toJson).getD .null)]

end DocComment
