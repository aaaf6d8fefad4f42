/-!
# Words and bytes

The machine word, its four byte lanes, and the merge of two words lane by lane that a
byte-enabled write performs.
-/

namespace FiveStage

/-- A machine word: 32 bits, with arithmetic modulo `2 ^ 32`. -/
abbrev Word := BitVec 32

/-- One byte of a word. -/
abbrev Byte := BitVec 8

namespace Word

/-- The byte in lane `i` of a word. Lane 0 is the least significant. -/
def lane (w : Word) (i : Nat) : Byte :=
  w.extractLsb' (8 * i) 8

/-- The word with the given lanes, lane 3 first. -/
def ofLanes (b3 b2 b1 b0 : Byte) : Word :=
  b3 ++ b2 ++ b1 ++ b0

/-- The word `old` with each lane enabled in `enable` taken from `new`. Bit `i` of `enable`
stands for lane `i`; the bits above bit 3 stand for nothing. -/
def merge (old new : Word) (enable : BitVec 8) : Word :=
  let choose (i : Nat) : Byte := if enable.getLsbD i then new.lane i else old.lane i
  ofLanes (choose 3) (choose 2) (choose 1) (choose 0)

/-- Whether the word is a multiple of four, as the address of an instruction word is. -/
def isAligned (w : Word) : Bool :=
  w.toNat % 4 == 0

end Word

end FiveStage
