/-!
# Palettes

The escape sequences around the coloured parts of a dump or a trace: names of structures are blue,
kinds green, failures red, and texts and positions dim. The plain palette is empty throughout, so a
plain rendering is the coloured one without its sequences.
-/

namespace OrderedChoice

/-- What is written before each kind of coloured text, and after it. -/
structure Palette where
  blue : String
  green : String
  red : String
  dim : String
  reset : String
deriving DecidableEq, Repr

namespace Palette

/-- The sixteen-colour sequences of terminals. -/
def coloured : Palette where
  blue := "\x1b[34m"
  green := "\x1b[32m"
  red := "\x1b[31m"
  dim := "\x1b[2m"
  reset := "\x1b[0m"

def plain : Palette where
  blue := ""
  green := ""
  red := ""
  dim := ""
  reset := ""

/-- The palette for output with or without colour. -/
def ofFlag (colour : Bool) : Palette :=
  if colour then coloured else plain

/-- Whether the palette colours anything. -/
def isColoured (palette : Palette) : Bool :=
  !palette.reset.isEmpty

theorem isColoured_ofFlag (colour : Bool) : (ofFlag colour).isColoured = colour := by
  cases colour <;> decide +kernel

/-- A name of a structure. -/
def name (palette : Palette) (text : String) : String :=
  palette.blue ++ text ++ palette.reset

/-- The name of a kind that was matched. -/
def kind (palette : Palette) (text : String) : String :=
  palette.green ++ text ++ palette.reset

/-- What failed. -/
def failure (palette : Palette) (text : String) : String :=
  palette.red ++ text ++ palette.reset

/-- What stands in the background. -/
def faint (palette : Palette) (text : String) : String :=
  palette.dim ++ text ++ palette.reset

end Palette

end OrderedChoice
