import GameRunner.Bytes

/-!
# Blocks

An archive is put together from blocks. Pointers are absolute, so the bytes of a block depend on the
position at which it is placed, but its size does not. Hence all positions are known before any byte
is written.
-/

namespace GameRunner.Archive

/-- A piece of an archive that can be placed anywhere. -/
structure Block where
  size : Nat
  bytes : (pos : Nat) → List UInt8
  length_bytes : ∀ pos, (bytes pos).length = size

namespace Block

/-- Bytes that are the same everywhere. -/
def ofBytes (l : List UInt8) : Block := ⟨l.length, fun _ => l, fun _ => rfl⟩

/-- Nothing. -/
def empty : Block := ofBytes []

/-- Bytes that are zero. -/
def zeros (n : Nat) : Block := ofBytes (List.replicate n 0)

/-- A 16-bit number. -/
def half (n : UInt16) : Block := ofBytes [n.toUInt8, (n >>> 8).toUInt8]

/-- A word that depends on where it stands. -/
def wordAt (f : Nat → UInt32) : Block := ⟨4, fun pos => Bytes.ofWord (f pos), fun _ => rfl⟩

/-- A word. -/
def word (w : UInt32) : Block := wordAt fun _ => w

/-- A signed number. -/
def int (n : Int32) : Block := word n.toUInt32

/-- A position or count. -/
def nat (n : Nat) : Block := word (UInt32.ofNat n)

/-- A condition. -/
def flag (b : Bool) : Block := word (if b then 1 else 0)

/-- A single-precision number. -/
def single (x : Float32) : Block := word x.toBits

/-- A pointer that leads to a distance from where it stands. -/
def pointer (distance : Nat) : Block := wordAt fun pos => UInt32.ofNat (pos + distance)

/-- Two blocks, one behind the other. -/
def append (a b : Block) : Block where
  size := a.size + b.size
  bytes pos := a.bytes pos ++ b.bytes (pos + a.size)
  length_bytes pos := by simp [a.length_bytes, b.length_bytes]

instance : Append Block := ⟨append⟩

@[simp] theorem size_append (a b : Block) : (a ++ b).size = a.size + b.size := rfl

@[simp] theorem bytes_append (a b : Block) (pos : Nat) :
    (a ++ b).bytes pos = a.bytes pos ++ b.bytes (pos + a.size) := rfl

/-- Blocks one behind the other. -/
def concat (items : List Block) : Block := items.foldr append empty

/-- Where blocks start that are placed one behind the other. -/
def positions (pos : Nat) : List Block → List Nat
  | [] => []
  | b :: rest => pos :: positions (pos + b.size) rest

@[simp] theorem length_positions (pos : Nat) (items : List Block) :
    (positions pos items).length = items.length := by
  induction items generalizing pos with
  | nil => rfl
  | cons b rest ih => simp [positions, ih]

/-- Pointers as bytes. -/
def pointerBytes (pointers : List Nat) : List UInt8 :=
  pointers.flatMap fun p => Bytes.ofWord (UInt32.ofNat p)

@[simp] theorem length_pointerBytes (pointers : List Nat) :
    (pointerBytes pointers).length = 4 * pointers.length := by
  induction pointers with
  | nil => rfl
  | cons p rest ih =>
    simp only [pointerBytes, List.flatMap_cons, List.length_append, List.length_cons] at *
    rw [ih, show (Bytes.ofWord (UInt32.ofNat p)).length = 4 from rfl]
    omega

/-- A count, as many pointers, and the blocks that they lead to. -/
def list (items : List Block) : Block where
  size := 4 + 4 * items.length + (concat items).size
  bytes pos :=
    let start := pos + 4 + 4 * items.length
    Bytes.ofWord (UInt32.ofNat items.length) ++ pointerBytes (positions start items) ++
      (concat items).bytes start
  length_bytes pos := by
    simp [Bytes.ofWord, (concat items).length_bytes]
    omega

/-- A chunk: a tag of four bytes, the size of the data and the data. -/
def chunk (tag : String) (data : Block) : Block :=
  ofBytes tag.toUTF8.data.toList ++ nat data.size ++ data

end Block

end GameRunner.Archive
