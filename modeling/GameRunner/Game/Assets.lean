/-!
# Assets

The immutable records of a game: pictures, fonts, paths and code. Tables refer to one another by
index, with `-1` for none.
-/

namespace GameRunner

/-- The entry of a table under an index; negative indices name nothing. -/
def tableAt? (table : Array α) (index : Int32) : Option α :=
  if 0 ≤ index then table[index.toInt.toNat]? else none

/-- General information about a game. -/
structure GameInfo where
  bytecodeVersion : UInt8 := 0
  name : String := ""
  displayName : String := ""
  gameId : Int32 := 0
  windowWidth : Int32 := 0
  windowHeight : Int32 := 0
  roomOrder : List Int32 := []
  deriving Repr, DecidableEq, Inhabited

/-- A rectangle of a texture page and its place in the picture it belongs to. -/
structure TextureItem where
  sourceX : UInt16
  sourceY : UInt16
  sourceWidth : UInt16
  sourceHeight : UInt16
  targetX : UInt16
  targetY : UInt16
  targetWidth : UInt16
  targetHeight : UInt16
  boundingWidth : UInt16
  boundingHeight : UInt16
  texturePage : UInt16
  deriving Repr, DecidableEq, Inhabited

/-- Where the image data of a texture page lies in the archive. -/
structure TexturePage where
  offset : Nat
  length : Nat
  deriving Repr, DecidableEq, Inhabited

/-- An animated picture with one texture item per frame, a collision box and an origin. -/
structure Sprite where
  name : String := ""
  width : Int32 := 0
  height : Int32 := 0
  marginLeft : Int32 := 0
  marginRight : Int32 := 0
  marginTop : Int32 := 0
  marginBottom : Int32 := 0
  originX : Int32 := 0
  originY : Int32 := 0
  frames : List Int32 := []
  deriving Repr, DecidableEq, Inhabited

/-- A picture to be drawn behind or before instances. -/
structure Background where
  name : String := ""
  textureItem : Int32 := -1
  deriving Repr, DecidableEq, Inhabited

/-- A corner of a path. -/
structure PathPoint where
  x : Float32
  y : Float32
  speed : Float32

/-- A polygon line along which instances can move. -/
structure Path where
  name : String := ""
  smooth : Bool := false
  closed : Bool := false
  precision : Int32 := 0
  points : List PathPoint := []

/-- The picture of one character of a font. -/
structure Glyph where
  character : UInt16
  x : UInt16
  y : UInt16
  width : UInt16
  height : UInt16
  shift : UInt16
  offset : UInt16
  deriving Repr, DecidableEq, Inhabited

/-- A font. -/
structure Font where
  name : String
  displayName : String
  emSize : Int32
  textureItem : Int32
  scaleX : Float32
  scaleY : Float32
  glyphs : List Glyph

/-- A compiled script or event body, with its place in the archive. -/
structure CodeEntry where
  name : String := ""
  locals : UInt16 := 0
  arguments : UInt16 := 0
  offset : Nat := 0
  bytes : ByteArray := .empty

/-- A named script. -/
structure Script where
  name : String
  code : Int32
  deriving Repr, DecidableEq, Inhabited

/-- A variable that code refers to, and the chain of its occurrences. -/
structure Variable where
  name : String
  instanceType : Int32
  id : Int32
  occurrences : Int32
  firstOccurrence : Int32
  deriving Repr, DecidableEq, Inhabited

/-- A function that code refers to, and the chain of its occurrences. -/
structure Function where
  name : String
  occurrences : Int32
  firstOccurrence : Int32
  deriving Repr, DecidableEq, Inhabited

end GameRunner
