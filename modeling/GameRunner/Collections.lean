import GameRunner.Dict
import GameRunner.Value

/-!
# Collections

Maps and lists that game code makes at run time and refers to by handle. Both kinds take their handles
from one counter, so no handle names a map and a list. Keys of maps are texts, and a map keeps the
order in which keys were added.
-/

namespace GameRunner

/-- The collections that exist, and the next free handle. -/
structure Collections where
  maps : Dict Int32 (Dict String Value) := .empty
  lists : Dict Int32 (List Value) := .empty
  nextId : Int32 := 0

namespace Collections

/-- The map with a handle. -/
def map? (c : Collections) (id : Int32) : Option (Dict String Value) := c.maps.get? id

/-- The list with a handle. -/
def list? (c : Collections) (id : Int32) : Option (List Value) := c.lists.get? id

/-- Makes an empty map. -/
def createMap (c : Collections) : Int32 × Collections :=
  (c.nextId, { c with maps := c.maps.insert c.nextId .empty, nextId := c.nextId + 1 })

/-- Makes an empty list. -/
def createList (c : Collections) : Int32 × Collections :=
  (c.nextId, { c with lists := c.lists.insert c.nextId [], nextId := c.nextId + 1 })

/-- Removes a map. -/
def destroyMap (c : Collections) (id : Int32) : Collections := { c with maps := c.maps.erase id }

/-- Removes a list. -/
def destroyList (c : Collections) (id : Int32) : Collections := { c with lists := c.lists.erase id }

/-- Changes a map, if there is one with the handle. -/
def modifyMap (c : Collections) (id : Int32) (f : Dict String Value → Dict String Value) :
    Collections :=
  match c.map? id with
  | some m => { c with maps := c.maps.insert id (f m) }
  | none => c

/-- Changes a list, if there is one with the handle. -/
def modifyList (c : Collections) (id : Int32) (f : List Value → List Value) : Collections :=
  match c.list? id with
  | some l => { c with lists := c.lists.insert id (f l) }
  | none => c

/-- Gives a map the entries of another one, if there are both. -/
def copyMap (c : Collections) (target source : Int32) : Collections :=
  match c.map? source with
  | some m => c.modifyMap target fun _ => m
  | none => c

/-- The key behind another one in a list of keys. -/
def keyAfter? (key : String) : List String → Option String
  | [] => none
  | k :: rest => if k = key then rest.head? else keyAfter? key rest

end Collections

end GameRunner
