import Signpost.Text.Basic

/-!
# Terminal styles

A styled text stands between the control sequence that turns its style on and the one that turns it
off. When colours are off, the text stands alone.
-/

namespace Signpost

/-- A style of terminal text. -/
inductive Style where
  | dim
  | bold
  | red
  | yellow
  | cyan
  | brightRed
  | brightGreen
  | brightYellow
  | brightBlue
  | brightMagenta
deriving DecidableEq, Repr

namespace Style

/-- The numbers of the sequences that turn a style on and off. -/
def codes : Style → Nat × Nat
  | .dim => (2, 0)
  | .bold => (1, 0)
  | .red => (31, 39)
  | .yellow => (33, 39)
  | .cyan => (36, 39)
  | .brightRed => (91, 39)
  | .brightGreen => (92, 39)
  | .brightYellow => (93, 39)
  | .brightBlue => (94, 39)
  | .brightMagenta => (95, 39)

def sequence (code : Nat) : Text := '\x1b' :: '[' :: Text.ofNat code ++ ['m']

def paint (color : Bool) (style : Style) (t : Text) : Text :=
  if color then sequence style.codes.1 ++ t ++ sequence style.codes.2 else t

end Style

end Signpost
