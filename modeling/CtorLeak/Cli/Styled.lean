/-!
# Styled text

Text with changes of style in between.  On a terminal with colours a change of style is written as
escape sequences: first everything is reset, then each property is set.  This is how an outside
library for terminals writes them, whose code is not part of this development.
-/

namespace CtorLeak.Cli

inductive Color where
  | red | green | yellow
deriving DecidableEq, Repr

structure Style where
  bold : Bool := false
  dimmed : Bool := false
  color : Option Color := none
deriving DecidableEq, Repr

inductive Span where
  | text (s : String)
  | style (s : Style)
  | reset
deriving DecidableEq, Repr

/-- The escape sequence of a property. -/
def escape (code : Nat) : String := s!"\x1b[{code}m"

def Color.code : Color → Nat
  | red => 31
  | green => 32
  | yellow => 33

namespace Style

def codes (s : Style) : List Nat :=
  [0] ++ (if s.bold then [1] else []) ++ (if s.dimmed then [2] else []) ++
    (s.color.map Color.code).toList

end Style

/-- Whether a terminal shows colours, from its kind and from the wish for none, if they are set. -/
def showsColors (terminal noColors : Option String) : Bool :=
  (terminal.any fun kind => kind ≠ "dumb") && noColors.isNone

namespace Span

def render (colored : Bool) : Span → String
  | text s => s
  | style s => if colored then String.join (s.codes.map escape) else ""
  | reset => if colored then escape 0 else ""

def renderAll (colored : Bool) (spans : List Span) : String :=
  String.join (spans.map (render colored))

@[simp]
theorem render_text (colored : Bool) (s : String) : render colored (.text s) = s := rfl

@[simp]
theorem renderAll_nil (colored : Bool) : renderAll colored [] = "" := rfl

@[simp]
theorem renderAll_cons (colored : Bool) (span : Span) (spans : List Span) :
    renderAll colored (span :: spans) = render colored span ++ renderAll colored spans := by
  unfold renderAll
  rw [List.map_cons, String.join_cons]

@[simp]
theorem renderAll_append (colored : Bool) (xs ys : List Span) :
    renderAll colored (xs ++ ys) = renderAll colored xs ++ renderAll colored ys := by
  unfold renderAll
  rw [List.map_append, String.join_append]

end Span

end CtorLeak.Cli
