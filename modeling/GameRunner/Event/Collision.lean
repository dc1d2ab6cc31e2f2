import GameRunner.Event.Fire
import GameRunner.Instance.Motion

/-!
# Collisions

An instance whose object has a collision handler for another object collides with the first instance
of that object that its box overlaps. There is at most one collision with each object in a frame.
-/

namespace GameRunner

namespace World

/-- Whether an instance is live, of a kind, and overlaps a box. -/
def isHit (g : Game) (w : World) (box : Box) (kind id : Int32) : Bool :=
  match w.instance? id with
  | none => false
  | some i => i.live && g.isKindOf i.objectIndex kind && ((i.box? g).map box.overlaps).getD false

/-- The first of some instances, other than a given one, that a box hits. -/
def firstHit? (g : Game) (w : World) (box : Box) (id kind : Int32) (ids : List Int32) :
    Option Int32 :=
  ids.find? fun other => other ≠ id && w.isHit g box kind other

/-- Lets an instance collide with each of the objects that it has handlers for. -/
def collide (exec : Exec) (s : Setup) (ids : List Int32) (w : World) (id : Int32) : Option World :=
  match w.instance? id with
  | none => some w
  | some i =>
    match i.box? s.game with
    | none => some w
    | some box =>
      (s.game.collisionTargets i.objectIndex).foldlM (fun w kind =>
        if w.isLive id then
          match w.firstHit? s.game box id kind ids with
          | some other => w.fire exec s id EventType.collision kind (some other)
          | none => some w
        else some w) w

/-- Lets all instances collide. -/
def runCollisions (exec : Exec) (s : Setup) (w : World) : Option World :=
  let ids := w.liveIds
  w.visitLive (collide exec s ids) ids

end World

end GameRunner
