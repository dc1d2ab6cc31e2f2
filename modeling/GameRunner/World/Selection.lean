import GameRunner.World.Basic

/-!
# Selecting instances

Code names instances by a number: one of the special selectors, the id of an instance, or an object,
which stands for its instances and those of its descendants.
-/

namespace GameRunner

namespace World

/-- An id by itself if it is that of a live instance. -/
def liveOnly (w : World) (id : Int32) : List Int32 := if w.isLive id then [id] else []

/-- The live instances of an object or of its descendants. -/
def ofKind (g : Game) (w : World) (object : Int32) : List Int32 :=
  (w.instances.live.filter fun i => g.isKindOf i.objectIndex object).map (·.id)

/-- The live instances of exactly an object. -/
def ofObject (w : World) (object : Int32) : List Int32 :=
  (w.instances.live.filter fun i => i.objectIndex = object).map (·.id)

/-- The live instances that a selector names. -/
def select (g : Game) (w : World) (selector self other : Int32) : List Int32 :=
  if selector = Selector.self then w.liveOnly self
  else if selector = Selector.other then w.liveOnly other
  else if selector = Selector.all then w.liveIds
  else if firstInstanceId ≤ selector then w.liveOnly selector
  else if 0 ≤ selector then w.ofKind g selector
  else []

/-- An id by itself if it is that of an instance. -/
def present? (w : World) (id : Int32) : Option Int32 :=
  if w.instances.contains id then some id else none

/-- The instance that a variable access with a selector means. -/
def resolve? (g : Game) (w : World) (selector self other : Int32) : Option Int32 :=
  if selector = Selector.other then w.present? other
  else if selector = Selector.global || selector = Selector.frame then none
  else if 0 ≤ selector then (w.select g selector self other).head?
  else w.present? self

/-- Self and other as selectors see them while a function is called. -/
def callers (w : World) : Int32 × Int32 :=
  let self := w.self.getD (-1)
  (self, w.other.getD self)

end World

end GameRunner
