import GameRunner.Library.Action

/-!
# Keys, types, globals, assets and the host

Services that a host without sound, files or windows does not have are there as functions that do
nothing.
-/

namespace GameRunner

namespace Builtin

/-- A function that looks at a key. -/
def askingKeys (f : KeyState → Int32 → Bool) : Builtin := asking fun args => do
  let key ← int args 0
  return fun _ w => .ofBool (f w.keys key)

/-- A function of the first argument, which may be missing. -/
def ofFirst (f : Option Value → Value) : Builtin := .action fun args => .ok (.answer (f args.head?))

/-- A function of the size of an array, zero if the argument is none. -/
def arraySize (f : List (Int32 × List (Int32 × Value)) → Nat) : Builtin := compute fun args => do
  return .ofNat (((← arg args 0).rows?.map f).getD 0)

/-- A function that looks up an asset. -/
def askingAsset (find : Game → Int32 → Option α) (f : Option α → Value) : Builtin :=
  asking fun args => do
    let index ← int args 0
    return fun s _ => f (find s.game index)

/-- A name as a value. -/
def nameValue (name : Option String) : Value := .str (name.getD "<undefined>")

/-- Functions of keys. -/
def keys : FunctionTable :=
  [("keyboard_check", askingKeys KeyState.isHeld),
    ("keyboard_check_direct", askingKeys KeyState.isHeld),
    ("keyboard_check_pressed", askingKeys KeyState.isPressed),
    ("keyboard_check_released", askingKeys KeyState.isReleased),
    ("keyboard_clear", .action fun args => do return .clearKey (← int args 0))]

/-- Functions of the types of values. -/
def types : FunctionTable :=
  [("is_undefined", ofFirst fun v => .ofBool (match v with
      | some .undefined => true
      | none => true
      | _ => false)),
    ("is_string", ofFirst fun v => .ofBool (match v with
      | some (.str _) => true
      | _ => false)),
    ("is_real", ofFirst fun v => .ofBool (match v with
      | some (.real _) => true
      | _ => false)),
    ("is_array", ofFirst fun v => .ofBool (match v with
      | some (.array _) => true
      | _ => false)),
    ("typeof", ofFirst fun v => .str ((v.map Value.typeName).getD "undefined")),
    ("array_length_1d", arraySize Value.rowLength),
    ("array_length_2d", arraySize List.length)]

/-- Functions of global variables. -/
def globals : FunctionTable :=
  [("variable_global_exists", asking fun args => do
      let name ← text args 0
      return fun _ w => .ofBool (w.globals.contains name)),
    ("variable_global_get", asking fun args => do
      let name ← text args 0
      return fun _ w => (w.globals.get? name).getD .zero),
    ("variable_global_set", .action fun args => do
      return .setGlobal (← text args 0) (← arg args 1))]

/-- Functions of assets. -/
def assets : FunctionTable :=
  [("object_get_name", askingAsset Game.object? fun o => nameValue (o.map (·.name))),
    ("sprite_get_name", askingAsset Game.sprite? fun s => nameValue (s.map (·.name))),
    ("sprite_get_number", askingAsset Game.sprite? fun s => .ofNat ((s.map (·.frames.length)).getD 0)),
    ("sprite_get_width", askingAsset Game.sprite? fun s => .ofInt ((s.map (·.width)).getD 0)),
    ("sprite_get_height", askingAsset Game.sprite? fun s => .ofInt ((s.map (·.height)).getD 0))]

/-- Names of functions that do nothing and give zero. -/
def idleNames : List String :=
  ["audio_play_sound", "audio_stop_sound", "audio_stop_all", "audio_is_playing",
    "audio_sound_gain", "audio_sound_pitch", "audio_group_load", "audio_group_is_loaded",
    "audio_create_stream", "audio_destroy_stream", "audio_master_gain", "audio_channel_num",
    "sound_play", "sound_stop", "sound_stop_all", "sound_is_playing", "sound_volume",
    "sound_loop", "caster_load", "caster_play", "caster_stop", "caster_is_playing",
    "caster_loop", "caster_volume", "caster_position", "caster_free", "caster_set_volume",
    "caster_create", "ini_open", "ini_close", "ini_write_real", "ini_write_string",
    "os_get_info", "parameter_count", "sprite_prefetch", "sprite_prefetch_multi",
    "background_prefetch", "window_set_caption", "window_set_fullscreen", "window_set_size",
    "window_set_position", "window_center", "display_set_gui_size", "view_set_visible",
    "surface_free", "surface_set_target", "surface_reset_target", "application_surface_enable",
    "application_surface_draw_enable", "gamepad_get_device_count", "keyboard_key_press",
    "keyboard_key_release", "game_restart", "file_exists", "window_get_fullscreen",
    "surface_exists", "steam_initialised", "steam_stats_ready", "joystick_exists",
    "gamepad_is_connected"]

/-- Functions of the host. -/
def services : FunctionTable :=
  [("show_debug_message", .action fun args =>
      .ok (.say ("[debug] " ++ (args.head?.map Value.toText).getD ""))),
    ("show_message", .action fun args =>
      .ok (.say ("[message] " ++ (args.head?.map Value.toText).getD ""))),
    ("game_end", .action fun _ => .ok .quit),
    ("ini_read_real", .action fun args => .ok (.answer ((args[2]?).getD .zero))),
    ("ini_read_string", .action fun args => .ok (.answer ((args[2]?).getD (.str "")))),
    ("os_get_language", constant (.str "en")),
    ("os_get_region", constant (.str "US")),
    ("os_get_config", constant (.str "default")),
    ("environment_get_variable", constant (.str "")),
    ("parameter_string", constant (.str "")),
    ("get_timer", asking fun _ => .ok fun _ w => .real (w.clock.unix * 1000)),
    ("date_current_datetime", asking fun _ => .ok fun _ w =>
      .real (w.clock.unix / 86400000 + 25569)),
    ("window_get_caption", asking fun _ => .ok fun s _ => .str s.game.info.displayName),
    ("display_get_width", constant (.real 1920)),
    ("display_get_height", constant (.real 1080)),
    ("surface_create", constant (.real (-1))),
    ("surface_get_width", asking fun _ => .ok fun s _ => .ofInt s.game.info.windowWidth),
    ("surface_get_height", asking fun _ => .ok fun s _ => .ofInt s.game.info.windowHeight)] ++
  idleNames.map fun name => (name, constant .zero)

end Builtin

end GameRunner
