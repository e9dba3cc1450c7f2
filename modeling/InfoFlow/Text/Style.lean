/-!
# Styled text

Styles of terminal output. A styled text stands between the codes of its style and a reset; without
colour it is left bare.
-/

namespace InfoFlow.Text

/-- How strong a text is. -/
inductive Emphasis where
  | bold
  | dimmed
  deriving DecidableEq, Repr

/-- The colours that are used. -/
inductive Colour where
  | black
  | red
  | green
  | yellow
  | cyan
  | white
  | brightWhite
  deriving DecidableEq, Repr

/-- A style of a text. -/
structure Style where
  emphasis : Option Emphasis := none
  background : Option Colour := none
  foreground : Option Colour := none
  deriving DecidableEq, Repr

/-- The code of an emphasis. -/
def Emphasis.code : Emphasis → Nat
  | .bold => 1
  | .dimmed => 2

/-- The code of a colour of letters; that of a background is greater by ten. -/
def Colour.code : Colour → Nat
  | .black => 30
  | .red => 31
  | .green => 32
  | .yellow => 33
  | .cyan => 36
  | .white => 37
  | .brightWhite => 97

namespace Style

/-- The codes of a style: emphasis, background, letters. -/
def codes (s : Style) : List Nat :=
  (s.emphasis.map Emphasis.code).toList ++ (s.background.map (·.code + 10)).toList ++
    (s.foreground.map Colour.code).toList

/-- What ends every style. -/
def reset : String := "\x1b[0m"

/-- What starts a style. -/
def start (s : Style) : String :=
  "\x1b[" ++ ";".intercalate (s.codes.map toString) ++ "m"

/-- The text in a style. A reset inside the text does not end the style. -/
def paint (s : Style) (colour : Bool) (text : String) : String :=
  if colour then s.start ++ text.replace reset (reset ++ s.start) ++ reset else text

/-- Letters of a colour. -/
def letters (c : Colour) : Style where
  foreground := some c

/-- Bold letters of a colour. -/
def boldLetters (c : Colour) : Style where
  emphasis := some .bold
  foreground := some c

/-- Bold letters. -/
def bold : Style where
  emphasis := some .bold

/-- Dimmed letters. -/
def dimmed : Style where
  emphasis := some .dimmed

/-- Bold letters on a background. -/
def badge (letters background : Colour) : Style where
  emphasis := some .bold
  background := some background
  foreground := some letters

end Style

/-- A line of 60 equal characters. -/
def rule (c : Char) : String :=
  String.ofList (List.replicate 60 c)

end InfoFlow.Text
