import FiveStage.Word

/-!
# Byte lanes of loads and stores

The data port moves whole words. A narrow access uses the lanes of the naturally aligned unit that
contains its address, so a misaligned half or word is neither split nor refused.

The width of an access is the `funct3` field modulo four; what a load does with the lanes is the
whole field.
-/

namespace FiveStage.Lanes

/-- How many bytes an access moves. -/
inductive Width where
  | byte
  | half
  | word
  deriving DecidableEq, Repr

/-- The width that a `funct3` value asks for. -/
def Width.ofFunct3 (funct3 : Nat) : Width :=
  match funct3 % 4 with
  | 0 => .byte
  | 1 => .half
  | _ => .word

def Width.bytes : Width → Nat
  | .byte => 1
  | .half => 2
  | .word => 4

/-- The first lane of the naturally aligned unit that contains an address. -/
def Width.firstLane (width : Width) (address : Word) : Nat :=
  let offset := address.toNat % 4
  match width with
  | .byte => offset
  | .half => offset / 2 * 2
  | .word => 0

/-- The lanes of the access, one bit each. -/
def byteEnable (funct3 : Nat) (address : Word) : BitVec 8 :=
  let width := Width.ofFunct3 funct3
  let mask : BitVec 8 :=
    match width with
    | .byte => 0b0001
    | .half => 0b0011
    | .word => 0b1111
  mask <<< width.firstLane address

/-- The word that carries `value` in the lanes of a store. -/
def storeData (funct3 : Nat) (address value : Word) : Word :=
  value <<< (8 * (Width.ofFunct3 funct3).firstLane address)

/-- The register value that a load makes of the word it reads: the addressed byte or half,
extended by its sign (codes 0 and 1) or by zeros (codes 4 and 5), and otherwise the whole word. -/
def loadData (funct3 : Nat) (address word : Word) : Word :=
  let shifted := word >>> (8 * (Width.ofFunct3 funct3).firstLane address)
  match funct3 with
  | 0 => (shifted.setWidth 8).signExtend 32
  | 1 => (shifted.setWidth 16).signExtend 32
  | 4 => (shifted.setWidth 8).setWidth 32
  | 5 => (shifted.setWidth 16).setWidth 32
  | _ => word

end FiveStage.Lanes
