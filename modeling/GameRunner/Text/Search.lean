/-!
# Occurrences of one text in another

A needle is sought from the left, and the search goes on behind each occurrence found, so
occurrences do not overlap. The stretches between them determine counting and replacing.
-/

namespace GameRunner.Text

/-- The characters before and after the first occurrence of the needle. -/
def splitFirst? (needle : List Char) : List Char → Option (List Char × List Char)
  | [] => if needle.isEmpty then some ([], []) else none
  | c :: cs =>
    if needle.isPrefixOf (c :: cs) then some ([], (c :: cs).drop needle.length)
    else (splitFirst? needle cs).map fun parts => (c :: parts.1, parts.2)

/-- Puts a character in front of the first stretch. -/
def consFirst (c : Char) : List (List Char) → List (List Char)
  | [] => [[c]]
  | s :: rest => (c :: s) :: rest

/-- The stretches between the occurrences of a non-empty needle, after `skip` characters of the
occurrence found last. -/
def stretchesFrom (needle : List Char) : Nat → List Char → List (List Char)
  | _, [] => [[]]
  | skip + 1, _ :: cs => stretchesFrom needle skip cs
  | 0, c :: cs =>
    if needle.isPrefixOf (c :: cs) then [] :: stretchesFrom needle (needle.length - 1) cs
    else consFirst c (stretchesFrom needle 0 cs)

/-- The stretches between the occurrences of a needle; an empty needle does not occur. -/
def stretches (needle hay : List Char) : List (List Char) :=
  if needle.isEmpty then [hay] else stretchesFrom needle 0 hay

/-- How many occurrences of the needle there are. -/
def occurrences (needle hay : String) : Nat :=
  (stretches needle.toList hay.toList).length - 1

/-- The position of the first occurrence, counted from one; zero if there is none. An empty needle
occurs at the start. -/
def position (needle hay : String) : Nat :=
  match splitFirst? needle.toList hay.toList with
  | some (before, _) => before.length + 1
  | none => 0

/-- Replaces the first occurrence. An empty needle occurs at the start. -/
def replaceFirst (s needle replacement : String) : String :=
  match splitFirst? needle.toList s.toList with
  | some (before, after) => String.ofList (before ++ replacement.toList ++ after)
  | none => s

/-- Replaces every occurrence of a non-empty needle. -/
def replaceAll (s needle replacement : String) : String :=
  String.ofList (replacement.toList.intercalate (stretches needle.toList s.toList))

/-- Replaces one character by another. -/
def replaceChar (s : String) (c replacement : Char) : String :=
  String.ofList (s.toList.map fun d => if d = c then replacement else d)

end GameRunner.Text
