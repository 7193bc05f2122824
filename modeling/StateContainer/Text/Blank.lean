/-
This file says what white space is, what it means to trim a text, and which parts
white space leaves of it.

White space is the Unicode class: the six blanks of ASCII, the four information
separators, the next-line control and the space characters of category `Zs`,
with the line and paragraph separators. The zero-width space is not in it.
-/

namespace StateContainer.Text

/-- Whether a character is white space. -/
def isBlank (c : Char) : Bool :=
  let code := c.toNat
  (9 ≤ code && code ≤ 13) || (28 ≤ code && code ≤ 32) || code == 0x85 || code == 0xA0 ||
    code == 0x1680 || (0x2000 ≤ code && code ≤ 0x200A) || code == 0x2028 || code == 0x2029 ||
    code == 0x202F || code == 0x205F || code == 0x3000

/-- The text without its leading white space. -/
def trimStart (text : List Char) : List Char :=
  text.dropWhile isBlank

/-- The text without its trailing white space. -/
def trimEnd (text : List Char) : List Char :=
  (text.reverse.dropWhile isBlank).reverse

/-- The text without the white space at both ends. -/
def trim (text : List Char) : List Char :=
  trimEnd (trimStart text)

@[simp] theorem trim_nil : trim [] = [] := rfl

/-- The parts of a text between runs of white space. -/
def parted : List Char → List (List Char)
  | [] => []
  | c :: rest =>
    if isBlank c then parted rest
    else
      match rest, parted rest with
      | next :: _, first :: others =>
        if isBlank next then [c] :: first :: others else (c :: first) :: others
      | _, others => [c] :: others

/-- A string without the white space at both ends. -/
def trimmed (text : String) : String :=
  String.ofList (trim text.toList)

end StateContainer.Text
