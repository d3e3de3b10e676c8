import HostScript.Text.Decimal

/-!
# Slots

Script files take turns with a small fixed set of names, so that a file which the host may still hold
open is not overwritten by the very next run. An index is handed out, and the one after it is next.
-/
namespace HostScript

/-- The number of names in rotation. -/
def slotCount : Nat := 32

/-- The name of the script file in a slot. -/
def slotFileName (index : Nat) : String := "macro_" ++ Text.naturalPadded 2 index ++ ".cs"

/-- The rotation: the index that comes next. -/
structure Slots where
  next : Nat
  next_lt : next < slotCount

namespace Slots

/-- The rotation that starts at a number, counted around. -/
def startingAt (start : Nat) : Slots := ⟨start % slotCount, Nat.mod_lt _ (by decide)⟩

/-- The index that is handed out, and the rotation after it. -/
def take (s : Slots) : Nat × Slots := (s.next, startingAt (s.next + 1))

/-- The file name that is handed out, and the rotation after it. -/
def takeName (s : Slots) : String × Slots := (slotFileName s.take.1, s.take.2)

/-- The first indexes that a rotation hands out. -/
def indexes (s : Slots) : Nat → List Nat
  | 0 => []
  | n + 1 => s.take.1 :: s.take.2.indexes n

end Slots

end HostScript
