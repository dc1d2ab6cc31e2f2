import GameRunner.Library.Action

/-!
# Maps and lists
-/

namespace GameRunner

namespace Builtin

/-- A function that changes the collections and gives zero. -/
def collecting (f : List Value → Except Fault (Collections → Collections)) : Builtin :=
  .action fun args => do
    let change ← f args
    return .collect fun c => (.zero, change c)

/-- A function that looks at the map in its first argument. -/
def askingMap (f : Option (Dict String Value) → Value) : Builtin := asking fun args => do
  let id ← int args 0
  return fun _ w => f (w.collections.map? id)

/-- A function that looks at a key, in its second argument, of the map in its first. -/
def askingKey (f : Option (Dict String Value) → String → Value) : Builtin := asking fun args => do
  let key ← text args 1
  let id ← int args 0
  return fun _ w => f (w.collections.map? id) key

/-- A key as a value; undefined stands for none. -/
def keyValue (key : Option String) : Value := (key.map Value.str).getD .undefined

/-- The keys of a map, none if there is no map. -/
def keysOf (m : Option (Dict String Value)) : List String := (m.map Dict.keys).getD []

/-- Stores a value under a key of a map. -/
def storeKey : Builtin := collecting fun args => do
  let id ← int args 0
  let key ← text args 1
  let v ← arg args 2
  return fun c => c.modifyMap id fun m => m.insert key v

/-- Functions of maps. -/
def maps : FunctionTable :=
  [("ds_map_create", .action fun _ => .ok (.collect fun c =>
      let r := c.createMap; (.ofInt r.1, r.2))),
    ("ds_map_destroy", collecting fun args => do
      let id ← int args 0
      return fun c => c.destroyMap id),
    ("ds_map_add", storeKey),
    ("ds_map_set", storeKey),
    ("ds_map_replace", storeKey),
    ("ds_map_find_value", askingKey fun m key => (m.bind fun m => m.get? key).getD .undefined),
    ("ds_map_exists", askingKey fun m key => .ofBool ((m.map fun m => m.contains key).getD false)),
    ("ds_map_delete", collecting fun args => do
      let key ← text args 1
      let id ← int args 0
      return fun c => c.modifyMap id fun m => m.erase key),
    ("ds_map_size", askingMap fun m => .ofNat ((m.map Dict.size).getD 0)),
    ("ds_map_clear", collecting fun args => do
      let id ← int args 0
      return fun c => c.modifyMap id fun _ => .empty),
    ("ds_map_copy", collecting fun args => do
      let target ← int args 0
      let source ← int args 1
      return fun c => c.copyMap target source),
    ("ds_map_find_first", askingMap fun m => keyValue (keysOf m).head?),
    ("ds_map_find_last", askingMap fun m => keyValue (keysOf m).getLast?),
    ("ds_map_find_next", askingKey fun m key => keyValue (Collections.keyAfter? key (keysOf m))),
    ("ds_map_find_previous", askingKey fun m key =>
      keyValue (Collections.keyAfter? key (keysOf m).reverse))]

/-- Functions of lists. -/
def lists : FunctionTable :=
  [("ds_list_create", .action fun _ => .ok (.collect fun c =>
      let r := c.createList; (.ofInt r.1, r.2))),
    ("ds_list_destroy", collecting fun args => do
      let id ← int args 0
      return fun c => c.destroyList id),
    ("ds_list_add", collecting fun args => do
      let id ← int args 0
      return fun c => c.modifyList id fun l => l ++ args.drop 1),
    ("ds_list_find_value", asking fun args => do
      let index ← int args 1
      let id ← int args 0
      return fun _ w =>
        if 0 ≤ index then
          ((w.collections.list? id).bind fun l => l[index.toInt.toNat]?).getD .undefined
        else .undefined),
    ("ds_list_size", asking fun args => do
      let id ← int args 0
      return fun _ w => .ofNat (((w.collections.list? id).map List.length).getD 0))]

end Builtin

end GameRunner
