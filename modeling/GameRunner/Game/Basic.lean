import GameRunner.Bytes
import GameRunner.Game.Assets
import GameRunner.Game.Rooms
import GameRunner.Text.Digits

/-!
# Games

A game is everything that an archive holds, as tables, together with the bytes that picture data is
taken from.
-/

namespace GameRunner

/-- The tables of a game. -/
structure Game where
  info : GameInfo := {}
  strings : Array String := #[]
  textureItems : Array TextureItem := #[]
  texturePages : Array TexturePage := #[]
  sprites : Array Sprite := #[]
  backgrounds : Array Background := #[]
  paths : Array Path := #[]
  fonts : Array Font := #[]
  code : Array CodeEntry := #[]
  objects : Array GameObject := #[]
  rooms : Array Room := #[]
  scripts : Array Script := #[]
  variableTable : Array Variable := #[]
  functionTable : Array Function := #[]
  buffer : ByteArray := .empty

namespace Game

/-- An object by index. -/
def object? (g : Game) (index : Int32) : Option GameObject := tableAt? g.objects index

/-- A sprite by index. -/
def sprite? (g : Game) (index : Int32) : Option Sprite := tableAt? g.sprites index

/-- A room by index. -/
def room? (g : Game) (index : Int32) : Option Room := tableAt? g.rooms index

/-- A path by index. -/
def path? (g : Game) (index : Int32) : Option Path := tableAt? g.paths index

/-- The name of a code entry. -/
def codeName (g : Game) (code : Int32) : String :=
  ((tableAt? g.code code).map (·.name)).getD "<invalid>"

/-- The name of an object. -/
def objectName (g : Game) (index : Int32) : String :=
  ((g.object? index).map (·.name)).getD "<none>"

/-- The index of the first room with a name. -/
def roomByName? (g : Game) (name : String) : Option Int32 :=
  (g.rooms.findIdx? fun r => r.name == name).map Int32.ofNat

/-- The index of the first object with a name. -/
def objectByName? (g : Game) (name : String) : Option Int32 :=
  (g.objects.findIdx? fun o => o.name == name).map Int32.ofNat

/-- The code of the first script with a name. -/
def scriptCode? (g : Game) (name : String) : Option Int32 :=
  (g.scripts.find? fun s => s.name == name).map (·.code)

/-- A 32-bit integer in decimal notation. -/
def readIndex? (s : String) : Option Int32 :=
  match Text.readInt? s with
  | some n => if -2147483648 ≤ n ∧ n ≤ 2147483647 then some (Int32.ofInt n) else none
  | none => none

/-- The room that a selector names: by index if it is a number, else by name. -/
def resolveRoom? (g : Game) (selector : String) : Option Int32 :=
  match readIndex? selector with
  | some index => if (g.room? index).isSome then some index else none
  | none => g.roomByName? selector

/-- The room that a game starts in. -/
def firstRoom (g : Game) : Int32 := g.info.roomOrder.head?.getD 0

/-- The image data of a texture page. -/
def texturePageBytes? (g : Game) (page : Nat) : Option ByteArray :=
  (g.texturePages[page]?).bind fun p => Bytes.slice? g.buffer p.offset p.length

end Game

end GameRunner
