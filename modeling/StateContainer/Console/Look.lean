/-
This file holds the looks that texts on a console can have: attributes such as
bold, which may be switched off, too, a color, a color behind the text, and a
link. Two ways to write a look are told to be the same by its normal form.
-/

import StateContainer.Text.Blank
import StateContainer.Text.Case
import StateContainer.Text.Digit
import StateContainer.Text.Pieces

namespace StateContainer.Console

/-! ### Colors -/

/-- The names of the colors, several in a line. -/
def colorLines : List String := [
  "aquamarine1 aquamarine3 black blue blue1 blue3 blue_violet bright_black bright_blue",
  "bright_cyan bright_green bright_magenta bright_red bright_white bright_yellow cadet_blue",
  "chartreuse1 chartreuse2 chartreuse3 chartreuse4 cornflower_blue cornsilk1 cyan cyan1 cyan2",
  "cyan3 dark_blue dark_cyan dark_goldenrod dark_green dark_khaki dark_magenta",
  "dark_olive_green1 dark_olive_green2 dark_olive_green3 dark_orange dark_orange3 dark_red",
  "dark_sea_green dark_sea_green1 dark_sea_green2 dark_sea_green3 dark_sea_green4",
  "dark_slate_gray1 dark_slate_gray2 dark_slate_gray3 dark_turquoise dark_violet deep_pink1",
  "deep_pink2 deep_pink3 deep_pink4 deep_sky_blue1 deep_sky_blue2 deep_sky_blue3",
  "deep_sky_blue4 dodger_blue1 dodger_blue2 dodger_blue3 gold1 gold3 gray0 gray100 gray11",
  "gray15 gray19 gray23 gray27 gray3 gray30 gray35 gray37 gray39 gray42 gray46 gray50 gray53",
  "gray54 gray58 gray62 gray63 gray66 gray69 gray7 gray70 gray74 gray78 gray82 gray84 gray85",
  "gray89 gray93 green green1 green3 green4 green_yellow grey0 grey100 grey11 grey15 grey19",
  "grey23 grey27 grey3 grey30 grey35 grey37 grey39 grey42 grey46 grey50 grey53 grey54 grey58",
  "grey62 grey63 grey66 grey69 grey7 grey70 grey74 grey78 grey82 grey84 grey85 grey89 grey93",
  "honeydew2 hot_pink hot_pink2 hot_pink3 indian_red indian_red1 khaki1 khaki3 light_coral",
  "light_cyan1 light_cyan3 light_goldenrod1 light_goldenrod2 light_goldenrod3 light_green",
  "light_pink1 light_pink3 light_pink4 light_salmon1 light_salmon3 light_sea_green",
  "light_sky_blue1 light_sky_blue3 light_slate_blue light_slate_gray light_slate_grey",
  "light_steel_blue light_steel_blue1 light_steel_blue3 light_yellow3 magenta magenta1",
  "magenta2 magenta3 medium_orchid medium_orchid1 medium_orchid3 medium_purple medium_purple1",
  "medium_purple2 medium_purple3 medium_purple4 medium_spring_green medium_turquoise",
  "medium_violet_red misty_rose1 misty_rose3 navajo_white1 navajo_white3 navy_blue orange1",
  "orange3 orange4 orange_red1 orchid orchid1 orchid2 pale_green1 pale_green3 pale_turquoise1",
  "pale_turquoise4 pale_violet_red1 pink1 pink3 plum1 plum2 plum3 plum4 purple purple3 purple4",
  "red red1 red3 rosy_brown royal_blue1 salmon1 sandy_brown sea_green1 sea_green2 sea_green3",
  "sky_blue1 sky_blue2 sky_blue3 slate_blue1 slate_blue3 spring_green1 spring_green2",
  "spring_green3 spring_green4 steel_blue steel_blue1 steel_blue3 tan thistle1 thistle3",
  "turquoise2 turquoise4 violet wheat1 wheat4 white yellow yellow1 yellow2 yellow3 yellow4"]

/-- The names of the colors. -/
def colorWords : List String :=
  colorLines.flatMap (·.splitOn " ")

/-- Why a color cannot be read. -/
inductive ColorError where
  /-- It is none. -/
  | unknown
  /-- A part of it has no digits. -/
  | emptyPart
deriving DecidableEq, Repr

/-- What stands between the brackets behind a word. -/
def between? (word : String) (text : List Char) : Option (List Char) :=
  let head := word.toList ++ ['(']
  if head.isPrefixOf text && text.getLast? = some ')' && head.length < text.length then
    some ((text.drop head.length).dropLast)
  else none

/-- The number that digits write. -/
def numberOf (digits : List Char) : Nat :=
  Text.ofDigits 10 (digits.filterMap Text.digitValue?)

/-- Reads the three parts of a color. -/
def readParts (parts : List (List Char)) : Except ColorError Unit :=
  if parts.length ≠ 3 then .error .unknown
  else if parts.any List.isEmpty then .error .emptyPart
  else if parts.all fun part => numberOf part ≤ 255 then .ok ()
  else .error .unknown

/-- Reads a color in lower case: its name, its number, or its three parts. -/
def readColor (color : List Char) : Except ColorError Unit :=
  let isHex (c : Char) : Bool := c.isDigit || ('a' ≤ c && c ≤ 'f')
  if color = "default".toList || colorWords.contains (String.ofList color) then .ok ()
  else if color.head? = some '#' && color.length = 7 && (color.drop 1).all isHex then .ok ()
  else
    match between? "color" color, between? "rgb" color with
    | some digits, _ =>
      if digits.all Char.isDigit && 1 ≤ digits.length && digits.length ≤ 3 &&
          numberOf digits ≤ 255 then .ok ()
      else .error .unknown
    | none, some parts =>
      if parts.all (fun c => (Text.digitValue? c).isSome || c = ',') && !parts.isEmpty then
        readParts (Text.pieces ',' parts)
      else .error .unknown
    | none, none => .error .unknown

/-! ### Looks -/

/-- The attributes in the order in which they are written. -/
def lookAttributes : List String := [
  "bold", "dim", "italic", "underline", "blink", "blink2", "reverse", "conceal", "strike",
  "underline2", "frame", "encircle", "overline"]

/-- The short names of some attributes. -/
def shortAttributes : List (String × String) := [
  ("b", "bold"), ("d", "dim"), ("i", "italic"), ("u", "underline"), ("r", "reverse"),
  ("c", "conceal"), ("s", "strike"), ("uu", "underline2"), ("o", "overline")]

/-- The attribute of a name. -/
def attribute? (name : String) : Option String :=
  if lookAttributes.contains name then some name else shortAttributes.lookup name

/-- A look. -/
structure Look where
  /-- The attributes that are switched on or off, the last one first. -/
  switched : List (String × Bool) := []
  color : Option String := none
  background : Option String := none
  link : Option String := none
deriving Repr

/-- Reads a word that stands for itself: an attribute or a color. -/
def readWord (look : Look) (word : String) : Except ColorError Look :=
  match attribute? word with
  | some found => .ok { look with switched := (found, true) :: look.switched }
  | none => do
    readColor word.toList
    return { look with color := some word }

/-- Reads the words of a look, given what was read before. -/
def readWords (look : Look) : List String → Except ColorError Look
  | [] => .ok look
  | [word] =>
    let lowered := String.ofList (Text.lower word.toList)
    if lowered = "on" || lowered = "not" || lowered = "link" then .error .unknown
    else readWord look lowered
  | word :: next :: others =>
    let lowered := String.ofList (Text.lower word.toList)
    if lowered = "on" then do
      let color := Text.lower next.toList
      readColor color
      readWords { look with background := some (String.ofList color) } others
    else if lowered = "not" then
      match attribute? next with
      | some found => readWords { look with switched := (found, false) :: look.switched } others
      | none => .error .unknown
    else if lowered = "link" then readWords { look with link := some next } others
    else do readWords (← readWord look lowered) (next :: others)

/-- The look as it is written. -/
def Look.written (look : Look) : String :=
  let switched := lookAttributes.filterMap fun name =>
    (look.switched.lookup name).map fun on => if on then name else "not " ++ name
  let color := look.color.toList
  let background := look.background.toList.flatMap fun color => ["on", color]
  let link := look.link.toList.flatMap fun link => ["link", link]
  match switched ++ color ++ background ++ link with
  | [] => "none"
  | parts => " ".intercalate parts

/-- The normal form of a look: attributes in their order, then colors. What is no look stands for
itself in lower case. -/
def normalLook (text : List Char) : Except ColorError (List Char) :=
  if Text.trim text = "none".toList then .ok "none".toList
  else
    match readWords {} ((Text.parted text).map String.ofList) with
    | .ok look => .ok look.written.toList
    | .error .unknown => .ok (Text.lower (Text.trim text))
    | .error .emptyPart => .error .emptyPart

end StateContainer.Console
