/-
This file reads the markup of console texts. A tag stands between brackets and
begins with a lower-case letter, a number sign, a slash or an at sign; any other
opening bracket is text. A tag changes how the text behind it looks, and a tag
with a slash ends what the tag of that look has begun, or, without a look, what
was begun last. Looks are not kept here: what remains is the text, in which the
names of pictures between colons give way to the pictures.

Backslashes in front of a tag stand for half as many; an odd one makes the tag
text. A tag that begins with an at sign names an action, whose parameters are
read when the tag is ended. Escaping a text puts a backslash in front of each tag and doubles those
that stand there already, and it doubles a single backslash at the end, so that
it does not act on a tag that follows. That last rule does not look at what
follows: without a tag behind it, the text keeps the second backslash.
-/

import StateContainer.Console.Action
import StateContainer.Console.Look
import StateContainer.Console.PictureTable

namespace StateContainer.Console

/-! ### Tags -/

/-- A text cut at its tags. -/
inductive Markup where
  /-- Text without a tag. -/
  | done (text : List Char)
  /-- Text, the inside of a tag behind it, and what follows the tag. -/
  | tag (before inside : List Char) (rest : Markup)
deriving Repr

namespace Markup

/-- Whether a character may begin the inside of a tag. -/
def opensTag (c : Char) : Bool :=
  c.isLower || c = '#' || c = '/' || c = '@'

/-- The inside of a tag and what follows its closing bracket, given what follows an opening
bracket up to the next one. -/
def splitTag? (segment : List Char) : Option (List Char × List Char) :=
  match segment.head?, segment.dropWhile (· ≠ ']') with
  | some first, _ :: after =>
    if opensTag first then some (segment.takeWhile (· ≠ ']'), after) else none
  | _, _ => none

/-- Puts a text in front. -/
def prepend (text : List Char) : Markup → Markup
  | done text' => done (text ++ text')
  | tag before inside rest => tag (text ++ before) inside rest

/-- Reads what follows an opening bracket, given the segments between this and the further
opening brackets. -/
def ofSegments : List (List Char) → Markup
  | [] => done []
  | segment :: others =>
    match splitTag? segment with
    | some (inside, after) => tag [] inside ((ofSegments others).prepend after)
    | none => (ofSegments others).prepend ('[' :: segment)

/-- Cuts a text at its tags. -/
def read (text : List Char) : Markup :=
  match Text.pieces '[' text with
  | [] => done []
  | first :: others => (ofSegments others).prepend first

/-- The text that was cut. -/
def written : Markup → List Char
  | done text => text
  | tag before inside rest => before ++ '[' :: inside ++ ']' :: rest.written

/-- Text in front is written in front. -/
theorem written_prepend (text : List Char) (m : Markup) :
    (m.prepend text).written = text ++ m.written := by
  cases m <;> simp [prepend, written]

/-- A tag and what follows it make up the segment. -/
theorem splitTag?_eq_some {segment inside after : List Char}
    (found : splitTag? segment = some (inside, after)) : segment = inside ++ ']' :: after := by
  unfold splitTag? at found
  split at found
  · next first c rest _ dropped =>
    split at found
    · obtain ⟨rfl, rfl⟩ := Prod.mk.inj (Option.some.inj found)
      have whole := List.takeWhile_append_dropWhile (p := fun c => decide (c ≠ ']')) (l := segment)
      rw [dropped] at whole
      have stop : c = ']' := by
        have head := List.head?_dropWhile_not (fun c => decide (c ≠ ']')) segment
        rw [dropped] at head
        simpa using head
      rw [stop] at whole
      exact whole.symm
    · simp at found
  · simp at found

/-- Segments are written with an opening bracket in front of each. -/
theorem written_ofSegments (segments : List (List Char)) :
    (ofSegments segments).written = segments.flatMap ('[' :: ·) := by
  induction segments with
  | nil => rfl
  | cons segment others inductionHypothesis =>
    unfold ofSegments
    split
    · next inside after found =>
      simp [written, written_prepend, inductionHypothesis, splitTag?_eq_some found]
    · simp [written_prepend, inductionHypothesis]

/-- Nothing is lost when a text is cut at its tags. -/
theorem written_read (text : List Char) : (read text).written = text := by
  have whole := Text.joined_pieces '[' text
  unfold read
  split
  · next none => exact absurd none (Text.pieces_ne_nil '[' text)
  · next first others cut =>
    rw [cut] at whole
    rw [written_prepend, written_ofSegments, ← whole]
    clear cut whole
    induction others generalizing first with
    | nil => simp [Text.joined]
    | cons next others inductionHypothesis =>
      simp [Text.joined, ← inductionHypothesis next]

/-! ### Escaping -/

/-- The number of backslashes at the end of a text. -/
def trailingSlashes (text : List Char) : Nat :=
  (text.reverse.takeWhile (· = '\\')).length

/-- A number of backslashes. -/
def slashes (count : Nat) : List Char :=
  List.replicate count '\\'

/-- The text with every tag escaped. -/
def escaped : Markup → List Char
  | done text => text
  | tag before inside rest =>
    before ++ slashes (trailingSlashes before + 1) ++ '[' :: inside ++ ']' :: rest.escaped

/-! ### Pictures -/

/-- The suffixes of names that ask for a picture or for a sign, each with the mark for that. -/
def pictureMarks : List (String × Char) :=
  [("-emoji", '\ufe0f'), ("-text", '\ufe0e')]

/-- The picture that a name in any case stands for, with the mark that its suffix asks for. -/
def pictureOf? (name : List Char) : Option (List Char) :=
  let lowered (name : List Char) : String := String.ofList (Text.lower name)
  let suffix := pictureMarks.find? fun (suffix, _) => suffix.toList.isSuffixOf name
  match suffix with
  | some (suffix, mark) =>
    (picture? (lowered (name.take (name.length - suffix.length)))).map (·.toList ++ [mark])
  | none => (picture? (lowered name)).map String.toList

/-- The text with pictures for their names between colons. A name has no blanks, and a colon
belongs to one name at most. -/
def withPictures (fuel : Nat) (text : List Char) : List Char :=
  match fuel, text with
  | fuel + 1, ':' :: rest =>
    let name := rest.takeWhile fun c => c ≠ ':' && !Text.isBlank c
    match rest.drop name.length with
    | ':' :: after =>
      ((pictureOf? name).getD (':' :: name ++ [':'])) ++ withPictures fuel after
    | _ => ':' :: withPictures fuel rest
  | fuel + 1, c :: rest => c :: withPictures fuel rest
  | _, rest => rest

/-! ### Showing -/

/-- Why markup cannot be shown. -/
inductive Error where
  /-- A tag at a position ends what was not begun. -/
  | unopened (inside : String) (position : Nat)
  /-- A tag at a position ends the last thing begun, and there is none. -/
  | nothingToClose (position : Nat)
  /-- A part of a color has no digits. -/
  | emptyColorPart
  /-- The parameters of an action cannot be read. -/
  | malformedAction (problem : String)
deriving DecidableEq, Repr

/-- The name of the class of an error. -/
def Error.className : Error → String
  | emptyColorPart => "ValueError"
  | _ => "MarkupError"

/-- The wording of an error. -/
def Error.message : Error → String
  | unopened inside position =>
    s!"closing tag '[{inside}]' at position {position} doesn't match any open tag"
  | nothingToClose position => s!"closing tag '[/]' at position {position} has nothing to close"
  | emptyColorPart => "invalid literal for int() with base 10: ''"
  | malformedAction problem => problem

/-- Text between tags without the backslashes in front of opening brackets. -/
def unescaped : List Char → List Char
  | [] => []
  | '\\' :: '[' :: rest => '[' :: unescaped rest
  | c :: rest => c :: unescaped rest

/-- What is shown of text between tags. -/
def shownText (text : List Char) : List Char :=
  let plain := unescaped text
  withPictures plain.length plain

/-- The look that a tag begins or ends. -/
def lookOf (inside : List Char) : Except Error (List Char) :=
  match normalLook (inside.takeWhile (· ≠ '=')) with
  | .ok look => .ok look
  | .error _ => .error .emptyColorPart

/-- What a tag has begun: a look, and what stands behind its equals sign. -/
structure Opened where
  look : List Char
  parameters : List Char := []
deriving DecidableEq, Repr

/-- Ends what a tag has begun. The parameters of an action are read then. -/
def Opened.close (opened : Opened) : Except Error Unit :=
  if opened.look.head? = some '@' && !opened.parameters.isEmpty then
    match actionProblem? opened.parameters with
    | some problem => .error (.malformedAction problem)
    | none => .ok ()
  else .ok ()

/-- What is still open after a tag at a position, given what was open before it, the last one
first. -/
def afterTag (position : Nat) (inside : List Char) (opened : List Opened) :
    Except Error (List Opened) :=
  match inside with
  | '/' :: name => do
    if (Text.trim (name.takeWhile (· ≠ '='))).isEmpty then
      match opened with
      | [] => .error (.nothingToClose position)
      | last :: others =>
        last.close
        return others
    else
      let look ← lookOf (Text.trim (name.takeWhile (· ≠ '=')))
      match opened.find? (·.look = look) with
      | some found =>
        found.close
        return opened.eraseP (·.look = look)
      | none => .error (.unopened (String.ofList inside) position)
  | _ => do
    let parameters := (inside.dropWhile (· ≠ '=')).drop 1
    return ⟨← lookOf inside, parameters⟩ :: opened

/-- The text that is shown of markup that begins at a position, with the given looks open. -/
def shownFrom (position : Nat) (opened : List Opened) : Markup → Except Error (List Char)
  | done text => .ok (shownText text)
  | tag before inside rest => do
    let count := trailingSlashes before
    let text := shownText (before.take (before.length - count)) ++ slashes (count / 2)
    let tagPosition := position + before.length
    let next := tagPosition + inside.length + 2
    if count % 2 = 1 then
      return text ++ shownText ('[' :: inside ++ [']']) ++ (← shownFrom next opened rest)
    else
      let opened ← afterTag tagPosition inside opened
      return text ++ (← shownFrom next opened rest)

end Markup

/-- A text written so that markup shows it as it is, as far as that can be done. -/
def escape (text : List Char) : List Char :=
  let escaped := (Markup.read text).escaped
  if Markup.trailingSlashes escaped = 1 then escaped ++ ['\\'] else escaped

/-- The text that is shown of markup. -/
def shown (markup : List Char) : Except Markup.Error (List Char) :=
  (Markup.read markup).shownFrom 0 []

end StateContainer.Console
