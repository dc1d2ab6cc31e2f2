import GameRunner.Proofs.Event.Inheritance

/-!
# Ancestors and what is inherited from them

Whether an object descends from another one is told by following parent links, and as many links are
followed as a lineage may have objects. The handlers that an object inherits are looked for among the
objects of its lineage, of which it is the first one itself. So the two agree on every ancestor but
the farthest: an object that is as many links away as a lineage may have objects counts as an
ancestor, and yet none of its handlers is inherited.
-/

namespace GameRunner

namespace Game

/-- What stands some number of parent links above an object. It need not be an object. -/
inductive Above (g : Game) : Int32 → Nat → Int32 → Prop
  | parent {object : Int32} {o : GameObject} : g.object? object = some o → Above g object 1 o.parent
  | farther {object ancestor : Int32} {o : GameObject} {links : Nat} :
    g.object? object = some o → Above g o.parent links ancestor → Above g object (links + 1) ancestor

/-- No object stands above itself. -/
def Acyclic (g : Game) : Prop := ∀ object links, ¬g.Above object links object

section Links

variable {g : Game} {object ancestor handling : Int32} {type : Nat} {subtype : Int32} {links n : Nat}
  {handler : EventHandler}

theorem any_lineageUpTo_iff (n : Nat) :
    ((g.lineageUpTo n object).any fun o => o.2.parent = ancestor) = true ↔
      ∃ links ≤ n, g.Above object links ancestor := by
  induction n generalizing object with
  | zero =>
    constructor
    · intro h
      simp [lineageUpTo] at h
    · rintro ⟨links, hlinks, habove⟩
      cases habove <;> omega
  | succ n ih =>
    cases ho : g.object? object with
    | none =>
      constructor
      · intro h
        simp [lineageUpTo, ho] at h
      · rintro ⟨links, -, habove⟩
        cases habove <;> simp_all
    | some o =>
      simp only [lineageUpTo, ho, List.any_cons, Bool.or_eq_true, decide_eq_true_eq, ih]
      constructor
      · rintro (rfl | ⟨links, hlinks, habove⟩)
        · exact ⟨1, Nat.succ_le_succ (Nat.zero_le n), .parent ho⟩
        · exact ⟨links + 1, Nat.succ_le_succ hlinks, .farther ho habove⟩
      · rintro ⟨links, hlinks, habove⟩
        cases habove with
        | parent ho' =>
          cases ho.symm.trans ho'
          exact .inl rfl
        | farther ho' habove =>
          cases ho.symm.trans ho'
          exact .inr ⟨_, Nat.le_of_succ_le_succ hlinks, habove⟩

/-- An ancestor is what stands above an object, at most as many links away as a lineage may have
objects. -/
theorem descends_iff :
    g.descends object ancestor = true ↔ ∃ links ≤ maxLineage, g.Above object links ancestor :=
  any_lineageUpTo_iff maxLineage

theorem Above.ne_missing (h : g.Above object links ancestor) : object ≠ -1 := by
  rintro rfl
  have hnone : g.object? (-1) = none := rfl
  generalize (-1 : Int32) = missing at h hnone
  cases h <;> simp_all

theorem parent_later {o : GameObject}
    (h : ∀ (k : Nat) (hk : k < g.objects.size),
      g.objects[k].parent = -1 ∨ (k : Int) < g.objects[k].parent.toInt)
    (ho : g.object? object = some o) : o.parent = -1 ∨ object.toInt < o.parent.toInt := by
  unfold object? tableAt? at ho
  split at ho
  · next hnonneg =>
    obtain ⟨hk, rfl⟩ := Array.getElem?_eq_some_iff.mp ho
    have hindex : ((object.toInt.toNat : Nat) : Int) = object.toInt :=
      Int.toNat_of_nonneg (Int32.le_iff_toInt_le.mp hnonneg)
    have hlater := h _ hk
    rwa [hindex] at hlater
  · cases ho

/-- Links that only lead to later objects never run in a circle. -/
theorem acyclic_of_later
    (h : ∀ (k : Nat) (hk : k < g.objects.size),
      g.objects[k].parent = -1 ∨ (k : Int) < g.objects[k].parent.toInt) :
    g.Acyclic := by
  have hlater : ∀ {object links ancestor}, g.Above object links ancestor →
      ancestor = -1 ∨ object.toInt < ancestor.toInt := by
    intro object links ancestor habove
    induction habove with
    | parent ho => exact parent_later h ho
    | farther ho habove ih =>
      have hparent := (parent_later h ho).resolve_left habove.ne_missing
      exact ih.imp_right hparent.trans
  intro object links habove
  exact lt_irrefl _ ((hlater habove).resolve_left habove.ne_missing)

theorem Nearest.exists_object (h : g.Nearest type subtype object links handling handler) :
    ∃ o, g.object? handling = some o ∧ o.handler? type subtype = some handler := by
  induction h with
  | here ho hown => exact ⟨_, ho, hown⟩
  | above _ _ _ ih => exact ih

/-- No object that stands nearer has a handler. -/
theorem Nearest.links_le (h : g.Nearest type subtype object links handling handler)
    (habove : g.Above object n handling) : links ≤ n := by
  induction h generalizing n with
  | here => exact Nat.zero_le n
  | above ho _ hnear ih =>
    cases habove with
    | parent ho' =>
      cases ho.symm.trans ho'
      cases hnear with
      | here => exact Nat.le_refl 1
      | above hp hnone hnear =>
        obtain ⟨p, hp', hown⟩ := hnear.exists_object
        cases hp.symm.trans hp'
        simp [hnone] at hown
    | farther ho' habove =>
      cases ho.symm.trans ho'
      exact Nat.succ_le_succ (ih habove)

/-- A handler is as many links away as objects have to be searched before it is found. -/
theorem nearest_of_found
    (hfound : handlerIn? type subtype (g.lineageUpTo (n + 1) object) = some (handling, handler))
    (hnone : handlerIn? type subtype (g.lineageUpTo n object) = none) :
    g.Nearest type subtype object n handling handler := by
  obtain ⟨links, hlinks, hnear⟩ := (handlerIn?_lineageUpTo_eq_some_iff (n + 1)).mp hfound
  have hfar : ¬links < n := by
    intro hlt
    have hsome := (handlerIn?_lineageUpTo_eq_some_iff n).mpr ⟨links, hlt, hnear⟩
    simp [hnone] at hsome
  have hlinks : links = n := by omega
  exact hlinks ▸ hnear

theorem Nearest.links_unique {handling' : Int32} {links' : Nat} {handler' : EventHandler}
    (h : g.Nearest type subtype object links handling handler)
    (h' : g.Nearest type subtype object links' handling' handler') : links = links' := by
  induction h generalizing links' with
  | here ho hown => cases h' <;> simp_all
  | above ho hown _ ih =>
    cases h' with
    | here => simp_all
    | above ho' _ h' =>
      cases ho.symm.trans ho'
      exact congrArg (· + 1) (ih h')

theorem Nearest.handler?_eq_none (h : g.Nearest type subtype object links handling handler)
    (hlinks : maxLineage ≤ links) : g.handler? object type subtype = none := by
  refine handler?_eq_none_of_far ?_
  intro links' handling' handler' h'
  exact h.links_unique h' ▸ hlinks

end Links

theorem mem_collisions_iff (o : GameObject) (kind : Int32) :
    kind ∈ ((o.events[EventType.collision]?).getD []).map (·.subtype) ↔
      (o.handler? EventType.collision kind).isSome := by
  unfold GameObject.handler?
  cases o.events[EventType.collision]? <;> simp

/-- The kinds that an object looks for in collisions are those for which it has or inherits a
handler. -/
theorem mem_collisionTargets_iff (g : Game) (object kind : Int32) :
    kind ∈ g.collisionTargets object ↔ (g.handler? object EventType.collision kind).isSome := by
  simp only [collisionTargets, List.mem_eraseDups, List.mem_flatMap, mem_collisions_iff, handler?,
    handlerIn?, List.isSome_findSome?, List.any_eq_true, Option.isSome_map]

end Game

/-- An object inherits the handler that another one has for an event: the event runs the actions of
that handler on every instance of the object, and a collision is looked for in the first place. -/
structure Inherits (s : Setup) (object : Int32) (type : Nat) (subtype handling : Int32)
    (handler : EventHandler) : Prop where
  fires : ∀ (exec : Exec) (w : World) (id : Int32) (other : Option Int32) (i : Instance),
    w.instance? id = some i → i.objectIndex = object →
      w.fire exec s id type subtype other =
        (World.reportEvent s w id object type subtype other).during ⟨type, subtype, handling⟩
          (World.runAll exec id other (handler.actions.filter (0 ≤ ·)))
  collides : type = EventType.collision → subtype ∈ s.game.collisionTargets object

/-- An event does nothing to the instances of an object beyond being reported, and a collision is not
even looked for. -/
structure Disregards (s : Setup) (object : Int32) (type : Nat) (subtype : Int32) : Prop where
  fires : ∀ (exec : Exec) (w : World) (id : Int32) (other : Option Int32) (i : Instance),
    w.instance? id = some i → i.objectIndex = object →
      w.fire exec s id type subtype other =
        some (World.reportEvent s w id object type subtype other)
  collides : type = EventType.collision → subtype ∉ s.game.collisionTargets object

theorem inherits_of_handler? {s : Setup} {object handling : Int32} {type : Nat} {subtype : Int32}
    {handler : EventHandler}
    (h : s.game.handler? object type subtype = some (handling, handler)) :
    Inherits s object type subtype handling handler := by
  constructor
  · rintro exec w id other i hi rfl
    exact World.fire_of_handler? hi h
  · rintro rfl
    rw [Game.mem_collisionTargets_iff, h]
    rfl

theorem disregards_of_handler? {s : Setup} {object : Int32} {type : Nat} {subtype : Int32}
    (h : s.game.handler? object type subtype = none) : Disregards s object type subtype := by
  constructor
  · intro exec w id other i hi hobject
    simp only [World.fire, hi, hobject, World.runHandler, h]
  · rintro rfl
    rw [Game.mem_collisionTargets_iff, h]
    simp

/-- An object inherits a handler from its ancestor, if no nearer object has one for the same event,
unless the ancestor is the farthest that there can be: then the event is disregarded. Parent links may
even run in a circle. -/
theorem inherits_from_ancestor (s : Setup) {object ancestor : Int32} {type : Nat} {subtype : Int32}
    {links : Nat} {handler : EventHandler} (hdescends : s.game.descends object ancestor = true)
    (hnear : s.game.Nearest type subtype object links ancestor handler) :
    links ≤ maxLineage ∧
      (links < maxLineage → Inherits s object type subtype ancestor handler) ∧
      (links = maxLineage → Disregards s object type subtype) := by
  obtain ⟨n, hn, habove⟩ := Game.descends_iff.mp hdescends
  refine ⟨(hnear.links_le habove).trans hn, ?_, ?_⟩
  · intro hlinks
    exact inherits_of_handler? (Game.handler?_eq_some_iff.mpr ⟨links, hlinks, hnear⟩)
  · intro hlinks
    exact disregards_of_handler? (hnear.handler?_eq_none hlinks.ge)

/-- A chain of objects, of which only the last handles anything: creations, and collisions with
instances of the sixth object. Either way it destroys the instance. -/
def chainSetup : Setup :=
  { Machine.farewellSetup with
    game :=
      { Machine.farewellSetup.game with
        objects := ((Array.range 32).map fun k => { parent := Int32.ofNat (k + 1) }) ++
          #[{ events := [[⟨0, [0]⟩], [], [], [], [⟨5, [0]⟩]] }] } }

theorem nearest_chainSetup :
    chainSetup.game.Nearest EventType.create 0 0 32 32 ⟨0, [0]⟩ ∧
      chainSetup.game.Nearest EventType.collision 5 0 32 32 ⟨5, [0]⟩ ∧
      chainSetup.game.Nearest EventType.collision 5 1 31 32 ⟨5, [0]⟩ := by
  refine ⟨?_, ?_, ?_⟩
  · exact Game.nearest_of_found (by decide +kernel) (by decide +kernel)
  · exact Game.nearest_of_found (by decide +kernel) (by decide +kernel)
  · exact Game.nearest_of_found (by decide +kernel) (by decide +kernel)

/-- The second object of the chain inherits from the last one; the first object does not. -/
theorem inherits_from_ancestor_chain :
    Inherits chainSetup 1 EventType.collision 5 32 ⟨5, [0]⟩ ∧
      Disregards chainSetup 0 EventType.collision 5 := by
  obtain ⟨-, hfirst, hsecond⟩ := nearest_chainSetup
  obtain ⟨-, hinherits, -⟩ := inherits_from_ancestor chainSetup (by decide +kernel) hsecond
  obtain ⟨-, -, hdisregards⟩ := inherits_from_ancestor chainSetup (by decide +kernel) hfirst
  exact ⟨hinherits (by decide), hdisregards rfl⟩

/-- The first object of the chain descends from the last one, which alone has handlers. Its handler of
creations would destroy an instance, but the event leaves it alive; and collisions with the kind that
it has a handler for are not looked for. -/
theorem descends_without_inheriting :
    chainSetup.game.Acyclic ∧ chainSetup.game.descends 0 32 = true ∧
      chainSetup.game.Nearest EventType.create 0 0 32 32 ⟨0, [0]⟩ ∧
      chainSetup.game.Nearest EventType.collision 5 0 32 32 ⟨5, [0]⟩ ∧
      ∃ w : World, (w.instance? 100001).map (·.objectIndex) = some 0 ∧
        (w.during ⟨EventType.create, 0, 32⟩
          (World.runAll (Machine.execute chainSetup 1) 100001 none [0])).map (·.isLive 100001) =
            some false ∧
        (w.fire (Machine.execute chainSetup 1) chainSetup 100001 EventType.create 0 none).map
          (·.isLive 100001) = some true ∧
        5 ∉ chainSetup.game.collisionTargets 0 := by
  have hlater : ∀ (k : Nat) (hk : k < chainSetup.game.objects.size),
      chainSetup.game.objects[k].parent = -1 ∨
        (k : Int) < chainSetup.game.objects[k].parent.toInt := by
    decide +kernel
  obtain ⟨hcreate, hcollision, -⟩ := nearest_chainSetup
  refine ⟨Game.acyclic_of_later hlater, by decide +kernel, hcreate, hcollision,
    { instances := ⟨[.create 100001 0 0 0], by decide⟩, nextId := 100002, generator := .ofSeed 1 },
    rfl, ?_, ?_, ?_⟩
  · decide +kernel
  · decide +kernel
  · decide +kernel

end GameRunner
