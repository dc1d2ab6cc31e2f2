import GameRunner.Library.Action
import GameRunner.Text.Search

/-!
# Drawing
-/

namespace GameRunner

namespace Builtin

/-- A negative frame means the frame that the calling instance shows. -/
def shownFrame (w : World) (frame : Int32) : Int32 :=
  if 0 ≤ frame then frame
  else ((w.self.bind w.instance?).map fun i => Number.toInt32 i.imageIndex).getD 0

/-- Draws a sprite in a style. -/
def paintSprite (args : List Value) (style : Except Fault SpriteStyle) : Except Fault Action := do
  let sprite ← int args 0
  let frame ← int args 1
  let x ← real args 2
  let y ← real args 3
  let style ← style
  return .paint fun _ w => some (.sprite sprite (shownFrame w frame) x y style)

/-- The style in the arguments behind the place of a sprite. -/
def styleOf (args : List Value) : Except Fault SpriteStyle := do
  return { xScale := ← real args 4, yScale := ← real args 5, angle := ← real args 6,
           blend := ← int args 7, alpha := ← real args 8 }

/-- Draws a text, where a number sign begins a new line. -/
def paintText : Builtin := .action fun args => do
  let x ← real args 0
  let y ← real args 1
  let content ← text args 2
  return .paint fun _ w => some (.text x y (Text.replaceChar content '#' '\n') w.pen)

/-- Draws a background that exists. -/
def paintBackground : Builtin := .action fun args => do
  let index ← int args 0
  let x ← real args 1
  let y ← real args 2
  return .paint fun s _ =>
    if (tableAt? s.game.backgrounds index).isSome then some (.background index x y false false)
    else none

/-- A function that changes the pen by an integer. -/
def penInt (f : Pen → Int32 → Pen) : Builtin := .action fun args => do
  let n ← int args 0
  return .setPen fun p => f p n

/-- Functions that draw. -/
def pictures : FunctionTable :=
  [("draw_sprite", .action fun args => paintSprite args (.ok {})),
    ("draw_sprite_ext", .action fun args => paintSprite args (styleOf args)),
    ("draw_text", paintText),
    ("draw_text_ext", paintText),
    ("draw_text_transformed", paintText),
    ("draw_rectangle", .action fun args => do
      let x1 ← real args 0
      let y1 ← real args 1
      let x2 ← real args 2
      let y2 ← real args 3
      let outline ← arg args 4
      return .paint fun _ w => some (.rectangle x1 y1 x2 y2 outline.toBool w.pen.color)),
    ("draw_background", paintBackground),
    ("draw_background_ext", paintBackground)]

/-- Functions that set how things are drawn. -/
def pens : FunctionTable :=
  [("draw_set_color", penInt fun p n => { p with color := n }),
    ("draw_set_colour", penInt fun p n => { p with color := n }),
    ("draw_get_color", asking fun _ => .ok fun _ w => .ofInt w.pen.color),
    ("draw_set_alpha", .action fun args => do
      let alpha ← real args 0
      return .setPen fun p => { p with alpha }),
    ("draw_get_alpha", asking fun _ => .ok fun _ w => .real w.pen.alpha),
    ("draw_set_font", penInt fun p n => { p with font := n }),
    ("draw_set_halign", penInt fun p n => { p with hAlign := n }),
    ("draw_set_valign", penInt fun p n => { p with vAlign := n }),
    ("draw_set_blend_mode", constant .zero),
    ("draw_set_blend_mode_ext", constant .zero)]

end Builtin

end GameRunner
