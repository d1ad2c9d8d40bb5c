import Scenario.Text.LowerCase
import Scenario.Text.Words

/-! # Styles

A style is named by its words: attributes, which may be turned off, a colour, a colour behind the
text, and a link. Two names mean the same style if their normal forms are equal. -/

namespace Scenario.Text

/-- What a style says of a text. -/
structure Style where
  /-- The attributes that are turned on or off, the last word first. -/
  attributes : List (String × Bool) := []
  colour : Option String := none
  background : Option String := none
  link : Option String := none
deriving DecidableEq, Repr

namespace Style

/-- The attributes, in the order in which they are named. -/
def attributeNames : List String :=
  ["bold", "dim", "italic", "underline", "blink", "blink2", "reverse", "conceal", "strike",
   "underline2", "frame", "encircle", "overline"]

/-- The short names of attributes. -/
def shortNames : List (String × String) :=
  [("d", "dim"), ("b", "bold"), ("i", "italic"), ("u", "underline"), ("r", "reverse"),
   ("c", "conceal"), ("s", "strike"), ("uu", "underline2"), ("o", "overline")]

/-- The attribute with a name, long or short. -/
def attribute? (word : String) : Option String :=
  if attributeNames.contains word then some word else shortNames.lookup word

/-- The names of colours. -/
def colourTable : String := "
aquamarine1 aquamarine3 black blue blue1 blue3 blue_violet bright_black bright_blue bright_cyan
bright_green bright_magenta bright_red bright_white bright_yellow cadet_blue chartreuse1
chartreuse2 chartreuse3 chartreuse4 cornflower_blue cornsilk1 cyan cyan1 cyan2 cyan3 dark_blue
dark_cyan dark_goldenrod dark_green dark_khaki dark_magenta dark_olive_green1 dark_olive_green2
dark_olive_green3 dark_orange dark_orange3 dark_red dark_sea_green dark_sea_green1
dark_sea_green2 dark_sea_green3 dark_sea_green4 dark_slate_gray1 dark_slate_gray2
dark_slate_gray3 dark_turquoise dark_violet deep_pink1 deep_pink2 deep_pink3 deep_pink4
deep_sky_blue1 deep_sky_blue2 deep_sky_blue3 deep_sky_blue4 dodger_blue1 dodger_blue2
dodger_blue3 gold1 gold3 gray0 gray100 gray11 gray15 gray19 gray23 gray27 gray3 gray30 gray35
gray37 gray39 gray42 gray46 gray50 gray53 gray54 gray58 gray62 gray63 gray66 gray69 gray7 gray70
gray74 gray78 gray82 gray84 gray85 gray89 gray93 green green1 green3 green4 green_yellow grey0
grey100 grey11 grey15 grey19 grey23 grey27 grey3 grey30 grey35 grey37 grey39 grey42 grey46
grey50 grey53 grey54 grey58 grey62 grey63 grey66 grey69 grey7 grey70 grey74 grey78 grey82 grey84
grey85 grey89 grey93 honeydew2 hot_pink hot_pink2 hot_pink3 indian_red indian_red1 khaki1 khaki3
light_coral light_cyan1 light_cyan3 light_goldenrod1 light_goldenrod2 light_goldenrod3
light_green light_pink1 light_pink3 light_pink4 light_salmon1 light_salmon3 light_sea_green
light_sky_blue1 light_sky_blue3 light_slate_blue light_slate_gray light_slate_grey
light_steel_blue light_steel_blue1 light_steel_blue3 light_yellow3 magenta magenta1 magenta2
magenta3 medium_orchid medium_orchid1 medium_orchid3 medium_purple medium_purple1 medium_purple2
medium_purple3 medium_purple4 medium_spring_green medium_turquoise medium_violet_red misty_rose1
misty_rose3 navajo_white1 navajo_white3 navy_blue orange1 orange3 orange4 orange_red1 orchid
orchid1 orchid2 pale_green1 pale_green3 pale_turquoise1 pale_turquoise4 pale_violet_red1 pink1
pink3 plum1 plum2 plum3 plum4 purple purple3 purple4 red red1 red3 rosy_brown royal_blue1
salmon1 sandy_brown sea_green1 sea_green2 sea_green3 sky_blue1 sky_blue2 sky_blue3 slate_blue1
slate_blue3 spring_green1 spring_green2 spring_green3 spring_green4 steel_blue steel_blue1
steel_blue3 tan thistle1 thistle3 turquoise2 turquoise4 violet wheat1 wheat4 white yellow
yellow1 yellow2 yellow3 yellow4
"

/-- The names of colours, one by one. -/
def colourNames : List (List Char) := words colourTable.toList

/-- Whether characters are a number up to 255. -/
def isByte (cs : List Char) : Bool :=
  !cs.isEmpty && cs.all Char.isDigit &&
    cs.foldl (fun n c => n * 10 + (c.toNat - '0'.toNat)) 0 ≤ 255

/-- The characters between a beginning and an end. -/
def between? (first last : List Char) (cs : List Char) : Option (List Char) :=
  if first.isPrefixOf cs && last.isSuffixOf cs && first.length + last.length ≤ cs.length then
    some ((cs.drop first.length).take (cs.length - first.length - last.length))
  else none

/-- Whether a word in small letters names a colour: by a name, by six digits in base sixteen, by a
number, or by three parts. -/
def isColour (cs : List Char) : Bool :=
  cs == "default".toList || colourNames.contains cs ||
    (match between? ['#'] [] cs with
      | some digits =>
        digits.length == 6 && digits.all fun c => c.isDigit || ('a' ≤ c && c ≤ 'f')
      | none => false) ||
    (match between? "color(".toList [')'] cs with
      | some digits => digits.length ≤ 3 && isByte digits
      | none => false) ||
    match between? "rgb(".toList [')'] cs with
    | some parts => (parts.splitOn ',').length == 3 && (parts.splitOn ',').all isByte
    | none => false

/-- A word in small letters, if it names a colour. -/
def colour? (word : String) : Option String :=
  let small := lowerCase word
  if isColour small.toList then some small else none

/-- The style with words more. -/
def withWords (s : Style) : List String → Option Style
  | [] => some s
  | word :: rest =>
    match lowerCase word, rest with
    | "on", next :: rest => do withWords { s with background := some (← colour? next) } rest
    | "not", next :: rest => do
      withWords { s with attributes := (← attribute? next, false) :: s.attributes } rest
    | "link", next :: rest => withWords { s with link := some next } rest
    | small, rest =>
      if small = "on" ∨ small = "not" ∨ small = "link" then none
      else match attribute? small with
        | some a => withWords { s with attributes := (a, true) :: s.attributes } rest
        | none => do withWords { s with colour := some (← colour? small) } rest

/-- The words of a style in their normal order. -/
def normalWords (s : Style) : List String :=
  attributeNames.filterMap (fun a => (s.attributes.lookup a).map fun on =>
      if on then a else "not " ++ a) ++
    s.colour.toList ++ (s.background.map ("on " ++ ·)).toList ++ (s.link.map ("link " ++ ·)).toList

/-- The normal form of a style's name; what names no style is only put in small letters. -/
def normalName (name : List Char) : String :=
  let parts := words name
  if parts = ["none".toList] then "none"
  else match withWords {} (parts.map String.ofList) with
    | some s => if s.normalWords.isEmpty then "none" else " ".intercalate s.normalWords
    | none => lowerCase (String.ofList (strip name))

end Style

end Scenario.Text
