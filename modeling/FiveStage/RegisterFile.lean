import FiveStage.Text.Layout

/-!
# The integer register file

Registers `x1` to `x31` hold a word each. `x0` has no storage: it reads as zero and a write to it
changes nothing, and the same goes for a number that names no register. The calling convention has
a name for each of the thirty-two.
-/

namespace FiveStage

/-- The calling-convention names of `x0` to `x31`. -/
def registerNames : Array String :=
  #["zero", "ra", "sp", "gp", "tp", "t0", "t1", "t2", "s0", "s1", "a0", "a1", "a2", "a3", "a4",
    "a5", "a6", "a7", "s2", "s3", "s4", "s5", "s6", "s7", "s8", "s9", "s10", "s11", "t3", "t4",
    "t5", "t6"]

/-- The name of register `i`, and `x??` for a number that names no register. -/
def registerName (i : Nat) : String :=
  registerNames[i]?.getD "x??"

/-- The contents of `x1` to `x31`. -/
structure RegisterFile where
  values : Vector Word 31
  deriving DecidableEq, Repr

namespace RegisterFile

/-- The register file in which every register holds zero. -/
def zero : RegisterFile :=
  ⟨Vector.replicate 31 0⟩

def read (regs : RegisterFile) : Nat → Word
  | 0 => 0
  | i + 1 => regs.values[i]?.getD 0

/-- The register file after `v` is written to register `i`. -/
def write (regs : RegisterFile) (i : Nat) (v : Word) : RegisterFile :=
  match i with
  | 0 => regs
  | i + 1 => ⟨regs.values.setIfInBounds i v⟩

@[simp]
theorem read_zero (regs : RegisterFile) : regs.read 0 = 0 := rfl

@[simp]
theorem write_zero (regs : RegisterFile) (v : Word) : regs.write 0 v = regs := rfl

theorem read_write_self (regs : RegisterFile) {i : Nat} (v : Word) (pos : i ≠ 0) (lt : i < 32) :
    (regs.write i v).read i = v := by
  cases i with
  | zero => exact absurd rfl pos
  | succ i => simp [read, write, show i < 31 by omega]

theorem read_write_of_ne (regs : RegisterFile) {i j : Nat} (v : Word) (ne : i ≠ j) :
    (regs.write i v).read j = regs.read j := by
  cases i with
  | zero => rfl
  | succ i =>
      cases j with
      | zero => rfl
      | succ j =>
          have : i ≠ j := fun h => ne (by rw [h])
          simp [read, write, this]

/-- The values of `x0` to `x31`. -/
def toList (regs : RegisterFile) : List Word :=
  (List.range 32).map regs.read

/-- One register in the listing, its name right-aligned in four columns. -/
def cell (regs : RegisterFile) (i : Nat) : String :=
  "x" ++ Text.padRight 2 (toString i) ++ " " ++ Text.padLeft 4 ' ' (registerName i) ++ "=" ++
    (regs.read i).hex

def text (regs : RegisterFile) : String :=
  String.join <| (List.range 16).map fun k =>
    regs.cell (2 * k) ++ "  " ++ regs.cell (2 * k + 1) ++ "\n"

end RegisterFile

end FiveStage
