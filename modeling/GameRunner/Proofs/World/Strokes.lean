import GameRunner.Machine.Access
import Mathlib.Tactic

/-!
# What the writing of variables changes

To write a variable is to change the global variables, whether rooms count as persistent, the views,
the key that counts as pressed last, or a variable or an element on an instance. A write through an
object does so on one instance after the other. Whatever all these changes have in common, every write
has.
-/

namespace GameRunner

/-- What a write can change at a time. -/
inductive Stroke : World → World → Prop
  | globals {w : World} (d : Dict String Value) : Stroke w { w with globals := d }
  | persistence {w : World} (rooms : List Bool) : Stroke w { w with roomPersistent := rooms }
  | views {w : World} {views : List View} : views.length = w.views.length →
    Stroke w { w with views }
  | lastKey {w : World} (key : Int32) : Stroke w { w with keys := { w.keys with last := key } }
  | store {w : World} (id : Int32) (name : String) (v : Value) :
    Stroke w (w.modify id fun i => i.store name v)
  | storeElement {w : World} (id : Int32) (name : String) (index : Int32) (v : Value) :
    Stroke w (w.modify id fun i => i.storeElement name index v)

/-- What writes change by and by. -/
abbrev Strokes : World → World → Prop := Relation.ReflTransGen Stroke

namespace Strokes

theorem foldl {γ : Type*} {f : World → γ → World} (h : ∀ w c, Strokes w (f w c)) (l : List γ)
    (w : World) : Strokes w (l.foldl f w) := by
  induction l generalizing w with
  | nil => exact .refl
  | cons c rest ih => exact (h w c).trans (ih (f w c))

theorem storeGlobal (w : World) (name : String) (v : Value) : Strokes w (w.storeGlobal name v) := by
  unfold World.storeGlobal
  split
  · exact .refl
  · exact .single (.lastKey v.toInt)
  · exact .single (.globals _)

theorem storeOn (w : World) (id : Int32) (name : String) (v : Value) :
    Strokes w (w.storeOn id name v) := by
  unfold World.storeOn
  split_ifs
  · exact .single (.persistence _)
  · exact .refl
  · exact .single (.store id name v)

theorem storeViewElement? {w v : World} {name : String} {index : Int32} {x : Value}
    (h : w.storeViewElement? name index x = some v) : Strokes w v := by
  obtain ⟨view, -, hview⟩ := Option.bind_eq_some_iff.mp h
  obtain ⟨changed, -, rfl⟩ := Option.map_eq_some_iff.mp hview
  exact .single (.views List.length_set)

theorem writeOn (w : World) (id : Int32) (name : String) (v : Value) (a : Option Frame.Address) :
    Strokes w (Frame.writeOn w id name v a) := by
  cases a with
  | none => exact storeOn w id name v
  | some a => exact .single (.storeElement id name a.index v)

theorem writeGlobal (w : World) (name : String) (v : Value) (a : Option Frame.Address) :
    Strokes w (Frame.writeGlobal w name v a) := by
  cases a with
  | none => exact .single (.globals _)
  | some a => exact .single (.globals _)

theorem writeThrough (g : Game) (w : World) (f : Frame) (name : String) (selector : Int32)
    (v : Value) (a : Option Frame.Address) :
    Strokes w (f.writeThrough g w name selector v a) := by
  unfold Frame.writeThrough
  split
  · next v hv =>
    obtain ⟨a, -, hv⟩ := Option.bind_eq_some_iff.mp hv
    exact storeViewElement? hv
  · unfold Frame.writeInstances Frame.writeNear
    dsimp only
    split_ifs
    · exact foldl (fun w id => writeOn w id name v a) _ w
    · exact writeOn w _ name v a
    · cases a with
      | none => exact storeGlobal w name v
      | some a => exact .single (.globals _)

/-- Writing a variable comes down to such changes. -/
theorem write (g : Game) (w : World) (f : Frame) (i : Instruction) :
    Strokes w (f.write g w i).2 := by
  unfold Frame.write
  split
  · exact .refl
  · next var _ =>
    dsimp only
    split_ifs
    · split
      · exact storeOn w _ var.name _
      · exact .refl
    · exact .refl
    · exact writeGlobal w var.name _ _
    · split
      · exact writeOn w _ var.name _ _
      · exact .refl
    · exact writeThrough g w _ var.name _ _ _

end Strokes

end GameRunner
