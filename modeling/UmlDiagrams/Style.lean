import UmlDiagrams.Color

namespace UmlDiagrams

inductive Direction where
  | vertical | horizontal
deriving DecidableEq, Repr, Inhabited

def Direction.spellings : List (String × Direction) :=
  [("vertical", .vertical), ("horizontal", .horizontal)]

structure Style where
  background : String := "#FFFFFF"
  text : String := "#000000"
  primary : String := "#1E88E5"
  direction : Direction := .vertical
deriving DecidableEq, Repr

namespace Style

/-- The style with its colors read; the first color that is none rejects it. -/
def validated (s : Style) : Except Rejection Style :=
  return { s with
    background := ← Color.parse s.background
    text := ← Color.parse s.text
    primary := ← Color.parse s.primary }

end Style

inductive StyleEdit where
  | background (color : String)
  | text (color : String)
  | primary (color : String)
  | direction (direction : Direction)
  | all (style : Style)
deriving DecidableEq, Repr

def Style.apply : StyleEdit → Editing Style Unit
  | .background color => do
    let color ← Color.parse color
    modify fun s => { s with background := color }
  | .text color => do
    let color ← Color.parse color
    modify fun s => { s with text := color }
  | .primary color => do
    let color ← Color.parse color
    modify fun s => { s with primary := color }
  | .direction direction => modify fun s => { s with direction }
  | .all style => do
    let style ← style.validated
    set style

end UmlDiagrams
