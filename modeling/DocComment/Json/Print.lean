import DocComment.Json.Basic
import DocComment.Json.Quoted

/-!
# Writing JSON

Every element of an array and every member of an object stands on a line of its own, indented by
two spaces for each container around it; an empty container is written without a break.
-/

namespace DocComment.Json

/-- A new line at a depth. -/
def newLine (depth : Nat) : Text := '\n' :: List.replicate (2 * depth) ' '

mutual

/-- A value whose container stands at a depth. -/
def print (depth : Nat) : Json → Text
  | null => "null".toList
  | bool true => "true".toList
  | bool false => "false".toList
  | number literal => literal
  | string t => Quoted.write t
  | array [] => ['[', ']']
  | array (v :: vs) =>
    '[' :: newLine (depth + 1) ++ print (depth + 1) v ++ printElements (depth + 1) vs ++
      newLine depth ++ [']']
  | object [] => ['\x7b', '\x7d']
  | object (m :: ms) =>
    '\x7b' :: newLine (depth + 1) ++ printMember (depth + 1) m ++ printMembers (depth + 1) ms ++
      newLine depth ++ ['\x7d']

/-- The elements after the first. -/
def printElements (depth : Nat) : List Json → Text
  | [] => []
  | v :: vs => ',' :: newLine depth ++ print depth v ++ printElements depth vs

/-- A name and its value. -/
def printMember (depth : Nat) : Text × Json → Text
  | (name, v) => Quoted.write name ++ ": ".toList ++ print depth v

/-- The members after the first. -/
def printMembers (depth : Nat) : List (Text × Json) → Text
  | [] => []
  | m :: ms => ',' :: newLine depth ++ printMember depth m ++ printMembers depth ms

end

/-- A document: a value and a line feed. -/
def toText (v : Json) : Text := print 0 v ++ ['\n']

end DocComment.Json
