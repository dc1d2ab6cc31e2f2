import GameRunner.Number.Text
import GameRunner.Text.Quoted

/-!
# Drawing commands

What a game draws is a sequence of commands. Each has a line of text under which it is reported.
-/

namespace GameRunner

/-- A rectangle of the room and the rectangle of the window that it fills. -/
structure ViewRect where
  viewX : Int32
  viewY : Int32
  viewW : Int32
  viewH : Int32
  portX : Int32
  portY : Int32
  portW : Int32
  portH : Int32
  deriving Repr, DecidableEq

/-- Scaling, rotation and tint of a sprite. -/
structure SpriteStyle where
  xScale : Float := 1
  yScale : Float := 1
  angle : Float := 0
  blend : Int32 := 0xffffff
  alpha : Float := 1

/-- How text and shapes are drawn. -/
structure Pen where
  color : Int32 := 0
  alpha : Float := 1
  font : Int32 := -1
  hAlign : Int32 := 0
  vAlign : Int32 := 0

/-- A drawing command. -/
inductive DrawCommand
  | view (rect : ViewRect)
  | clear (color : Int32)
  | sprite (index frame : Int32) (x y : Float) (style : SpriteStyle)
  | background (index : Int32) (x y : Float) (tileX tileY : Bool)
  | tile (index x y depth : Int32)
  | text (x y : Float) (content : String) (pen : Pen)
  | rectangle (x1 y1 x2 y2 : Float) (outline : Bool) (color : Int32)

/-- A named record as it stands in a report. -/
def recordText (name : String) (fields : List (String × String)) : String :=
  let body := ", ".intercalate (fields.map fun f => f.1 ++ ": " ++ f.2)
  name ++ " \x7b " ++ body ++ " \x7d"

/-- A truth value as it stands in a report. -/
def flagText (b : Bool) : String := if b then "true" else "false"

/-- The report of a view. -/
def ViewRect.report (r : ViewRect) : String :=
  recordText "ViewRect" [("view_x", toString r.viewX), ("view_y", toString r.viewY),
    ("view_w", toString r.viewW), ("view_h", toString r.viewH), ("port_x", toString r.portX),
    ("port_y", toString r.portY), ("port_w", toString r.portW), ("port_h", toString r.portH)]

/-- The report of a style. -/
def SpriteStyle.report (s : SpriteStyle) : String :=
  recordText "SpriteStyle" [("xscale", Number.diagnosticText s.xScale),
    ("yscale", Number.diagnosticText s.yScale), ("angle", Number.diagnosticText s.angle),
    ("blend", toString s.blend), ("alpha", Number.diagnosticText s.alpha)]

/-- The report of a pen. -/
def Pen.report (p : Pen) : String :=
  recordText "DrawState" [("color", toString p.color), ("alpha", Number.diagnosticText p.alpha),
    ("font", toString p.font), ("halign", toString p.hAlign), ("valign", toString p.vAlign)]

/-- The report of a command. -/
def DrawCommand.report : DrawCommand → String
  | .view rect => "SetView(" ++ rect.report ++ ")"
  | .clear color => s!"Clear({color})"
  | .sprite index frame x y style =>
    recordText "Sprite" [("sprite", toString index), ("frame", toString frame),
      ("x", Number.diagnosticText x), ("y", Number.diagnosticText y), ("style", style.report)]
  | .background index x y tileX tileY =>
    recordText "Background" [("background", toString index), ("x", Number.diagnosticText x),
      ("y", Number.diagnosticText y), ("tile_x", flagText tileX), ("tile_y", flagText tileY)]
  | .tile index x y depth =>
    recordText "Tile" [("background", toString index), ("x", toString x),
      ("y", toString y), ("depth", toString depth)]
  | .text x y content pen =>
    recordText "Text" [("x", Number.diagnosticText x), ("y", Number.diagnosticText y),
      ("text", Text.quoted content), ("state", pen.report)]
  | .rectangle x1 y1 x2 y2 outline color =>
    recordText "Rectangle" [("x1", Number.diagnosticText x1), ("y1", Number.diagnosticText y1),
      ("x2", Number.diagnosticText x2), ("y2", Number.diagnosticText y2),
      ("outline", flagText outline), ("color", toString color)]

end GameRunner
