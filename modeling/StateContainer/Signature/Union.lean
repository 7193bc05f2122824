/-
This file takes the null type out of a signature that is a union of several
types. A union is written with bars between its members, or as an `Optional` of
a single type.

Only the bars outside of all brackets separate members. What is left are the
members other than the null type, trimmed and with bars between them again, and
whether there was a null type among them.
-/

import StateContainer.Signature.Token

namespace StateContainer.Signature

/-- The names of the generic type that adds the null type, each with its opening bracket. -/
def optionalForms : List String := ["Optional[", "typing.Optional["]

/-- The argument of a text that is one of the optional forms from its start to its last
character. -/
def optionalArgument? (text : List Char) : Option (List Char) :=
  optionalForms.findSome? fun form =>
    if form.toList.isPrefixOf text && text.getLast? = some ']' then
      some (Text.trim (text.drop form.toList.length).dropLast)
    else none

/-- How a character changes the depth of brackets. -/
def depthChange (c : Char) : Int :=
  match Token.ofChar? c with
  | some (.opening _) => 1
  | some (.closing _) => -1
  | _ => 0

/-- The members of a union: the pieces between the bars at depth zero. -/
def unionMembers (depth : Int) : List Char → List (List Char)
  | [] => [[]]
  | c :: rest =>
    let inner := depth + depthChange c
    if c = '|' && inner = 0 then [] :: unionMembers inner rest
    else
      match unionMembers inner rest with
      | [] => [[c]]
      | first :: others => (c :: first) :: others

/-- The text of the null type. -/
def nullMember : List Char := "None".toList

/-- The signature without the null type, and whether it admits null. -/
def splitOptional (signature : String) : String × Bool :=
  let text := Text.trim signature.toList
  match optionalArgument? text with
  | some argument => (String.ofList argument, true)
  | none =>
    let parts := (unionMembers 0 text).map Text.trim
    let members := parts.filter (· ≠ nullMember)
    (" | ".intercalate (members.map String.ofList), members.length ≠ parts.length)

end StateContainer.Signature
