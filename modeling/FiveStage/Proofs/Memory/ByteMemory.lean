import FiveStage.Datapath.Lanes
import FiveStage.Memory.Storage

/-!
# The memory as bytes

A program sees an array of bytes, of which a load or store takes one, two or four, the least
significant first. The hardware has an array of words: it shifts a store into its lanes, writes
these lanes only, and shifts and extends what it has read for a load. Here the array of bytes is
defined, and the words are proved to refine it (`Storage.refines_bytes`), for every address. An
address stands for its place modulo the size, and an access for the naturally aligned unit that
contains its place.
-/

namespace FiveStage

open Lanes

/-! ## An array of bytes -/

/-- A nonempty array of bytes. -/
@[ext]
structure ByteMemory where
  bytes : Array Byte
  bytes_pos : 0 < bytes.size

/-- Byte `i` of a word, the least significant first. -/
def Word.byte (w : Word) (i : Nat) : Byte :=
  BitVec.ofNat 8 (w.toNat / Nat.pow 256 i)

/-- A number of some bits as a word, extended by its sign or by zeros. -/
def Word.extend (signed : Bool) (bits value : Nat) : Word :=
  if signed ∧ Nat.pow 2 bits ≤ 2 * value then BitVec.ofInt 32 (value - Nat.pow 2 bits)
  else BitVec.ofNat 32 value

/-- The loads. -/
inductive LoadKind where
  | lb
  | lh
  | lw
  | lbu
  | lhu
  deriving DecidableEq, Repr

namespace LoadKind

/-- The code of the load in its `funct3` field. -/
def code : LoadKind → Nat
  | lb => 0
  | lh => 1
  | lw => 2
  | lbu => 4
  | lhu => 5

def width : LoadKind → Width
  | lb | lbu => .byte
  | lh | lhu => .half
  | lw => .word

def isSigned : LoadKind → Bool
  | lb | lh | lw => true
  | lbu | lhu => false

end LoadKind

/-- The code of the store of a width in its `funct3` field. -/
def Lanes.Width.storeCode : Width → Nat
  | byte => 0
  | half => 1
  | word => 2

namespace ByteMemory

/-- The place of an address, which wraps around at the size. -/
def place (m : ByteMemory) (address : Nat) : Nat :=
  address % m.bytes.size

theorem place_lt (m : ByteMemory) (address : Nat) : m.place address < m.bytes.size :=
  Nat.mod_lt _ m.bytes_pos

/-- The byte at an address. -/
def get (m : ByteMemory) (address : Nat) : Byte :=
  have inside := m.place_lt address
  m.bytes[m.place address]

/-- The number of the naturally aligned unit that contains the address. -/
def unit (m : ByteMemory) (width : Width) (address : Word) : Nat :=
  m.place address.toNat / width.bytes

/-- The number that consecutive bytes stand for, the least significant first. -/
def value (m : ByteMemory) (first : Nat) : Nat → Nat
  | 0 => 0
  | count + 1 => m.value first count + Nat.pow 256 count * (m.get (first + count)).toNat

/-- The memory after a store: the bytes of the unit are those of the value. -/
def store (m : ByteMemory) (width : Width) (address value : Word) : ByteMemory where
  bytes := Array.ofFn fun place : Fin m.bytes.size =>
    if place.val / width.bytes = m.unit width address then value.byte (place.val % width.bytes)
    else m.bytes[place]
  bytes_pos := by simpa using m.bytes_pos

/-- What a load reads: the number in the unit, extended. -/
def load (m : ByteMemory) (kind : LoadKind) (address : Word) : Word :=
  Word.extend kind.isSigned (8 * kind.width.bytes)
    (m.value (m.unit kind.width address * kind.width.bytes) kind.width.bytes)

end ByteMemory

/-! ## Words of four lanes -/

namespace Word

theorem toNat_lane (w : Word) (i : Nat) :
    (w.lane i).toNat = w.toNat / Nat.pow 256 i % 256 := by
  unfold lane
  rw [BitVec.extractLsb'_toNat, Nat.shiftRight_eq_div_pow, Nat.pow_mul]
  rfl

theorem lane_eq_byte (w : Word) (i : Nat) : w.lane i = w.byte i := by
  apply BitVec.eq_of_toNat_eq
  rw [toNat_lane]
  exact (BitVec.toNat_ofNat (w.toNat / Nat.pow 256 i) 8).symm

/-- A word that is shifted up by some lanes has the lanes of the other one, so many further up. -/
theorem lane_shiftLeft (w : Word) {f j : Nat} (low : f ≤ j) (high : j < 4) :
    lane (w <<< (8 * f)) j = w.lane (j - f) := by
  apply BitVec.eq_of_getLsbD_eq
  intro i bit
  unfold lane
  rw [BitVec.getLsbD_extractLsb', BitVec.getLsbD_extractLsb', BitVec.getLsbD_shiftLeft]
  have below : 8 * j + i < 32 := by omega
  have above : ¬ 8 * j + i < 8 * f := by omega
  have bits : 8 * j + i - 8 * f = 8 * (j - f) + i := by omega
  simp only [below, above, bits, decide_true, decide_false, Bool.not_false, Bool.true_and]

theorem lane_ofLanes (b3 b2 b1 b0 : Byte) :
    (ofLanes b3 b2 b1 b0).lane 3 = b3 ∧ (ofLanes b3 b2 b1 b0).lane 2 = b2 ∧
      (ofLanes b3 b2 b1 b0).lane 1 = b1 ∧ (ofLanes b3 b2 b1 b0).lane 0 = b0 := by
  unfold ofLanes lane
  refine ⟨?_, ?_, ?_, ?_⟩
  all_goals
    apply BitVec.eq_of_getLsbD_eq
    intro i bit
    simp only [BitVec.getLsbD_extractLsb', BitVec.getLsbD_append]
    grind

/-- A merge has every lane from one of the two words. -/
theorem lane_merge (old new : Word) (enable : BitVec 8) {j : Nat} (small : j < 4) :
    (merge old new enable).lane j = if enable.getLsbD j then new.lane j else old.lane j := by
  have lanes := lane_ofLanes (if enable.getLsbD 3 then new.lane 3 else old.lane 3)
    (if enable.getLsbD 2 then new.lane 2 else old.lane 2)
    (if enable.getLsbD 1 then new.lane 1 else old.lane 1)
    (if enable.getLsbD 0 then new.lane 0 else old.lane 0)
  match j, small with
  | 0, _ => exact lanes.2.2.2
  | 1, _ => exact lanes.2.2.1
  | 2, _ => exact lanes.2.1
  | 3, _ => exact lanes.1

end Word

/-! ## Lanes of an access -/

namespace Lanes

theorem Width.ofFunct3_storeCode (width : Width) : ofFunct3 width.storeCode = width := by
  cases width <;> rfl

theorem Width.ofFunct3_code (kind : LoadKind) : ofFunct3 kind.code = kind.width := by
  cases kind <;> rfl

/-- The enabled lanes of a store are those of its unit. -/
theorem getLsbD_byteEnable (width : Width) (address : Word) {j : Nat} (small : j < 4) :
    (byteEnable width.storeCode address).getLsbD j = true ↔
      j / width.bytes = address.toNat % 4 / width.bytes := by
  unfold byteEnable
  rw [width.ofFunct3_storeCode]
  unfold Width.firstLane
  have bounded : address.toNat % 4 < 4 := Nat.mod_lt _ (by decide)
  generalize address.toNat % 4 = offset at bounded ⊢
  revert j
  revert offset
  cases width <;> decide

/-- The first lane of an access is the first byte of its unit. -/
theorem Width.firstLane_eq (width : Width) (address : Word) :
    width.firstLane address = address.toNat % 4 / width.bytes * width.bytes := by
  cases width with
  | byte => exact ((Nat.mul_one _).trans (Nat.div_one _)).symm
  | half => rfl
  | word => exact (Nat.mul_eq_zero.mpr (.inl (Nat.div_eq_of_lt (Nat.mod_lt _ (by decide))))).symm

/-- A store carries the bytes of its value in the lanes of its unit. -/
theorem lane_storeData (width : Width) (address value : Word) {j : Nat} (small : j < 4)
    (enabled : j / width.bytes = address.toNat % 4 / width.bytes) :
    (storeData width.storeCode address value).lane j = value.byte (j % width.bytes) := by
  have quotient := Nat.div_add_mod j width.bytes
  rw [Nat.mul_comm] at quotient
  unfold storeData
  rw [width.ofFunct3_storeCode, width.firstLane_eq, ← enabled,
    Word.lane_shiftLeft value (by omega) small, Word.lane_eq_byte]
  congr 1
  omega

end Lanes

/-! ## The bytes of a storage -/

namespace ByteMemory

variable (m : ByteMemory)

theorem size_store (width : Width) (address value : Word) :
    (m.store width address value).bytes.size = m.bytes.size :=
  Array.size_ofFn

theorem getElem_store (width : Width) (address value : Word) {place : Nat}
    (inside : place < m.bytes.size) (inside' : place < (m.store width address value).bytes.size) :
    (m.store width address value).bytes[place] =
      if place / width.bytes = m.unit width address then value.byte (place % width.bytes)
      else m.bytes[place] :=
  Array.getElem_ofFn _

end ByteMemory

/-- Two bytes are in one unit if they are in one word, and there in one unit. -/
theorem Lanes.Width.unit_eq_iff (width : Width) (p q : Nat) :
    p / width.bytes = q / width.bytes ↔
      p / 4 = q / 4 ∧ p % 4 / width.bytes = q % 4 / width.bytes := by
  cases width <;> simp only [bytes] <;> omega

theorem Lanes.Width.mod_mod (width : Width) (p : Nat) : p % 4 % width.bytes = p % width.bytes := by
  cases width <;> simp only [bytes] <;> omega

namespace Storage

variable (s : Storage)

/-- The bytes of the words, one word after the other. -/
def toBytes : ByteMemory where
  bytes := Array.ofFn fun place : Fin s.sizeBytes =>
    have inside := Nat.div_lt_of_lt_mul place.isLt
    s.words[place.val / 4].lane (place.val % 4)
  bytes_pos := by
    rw [Array.size_ofFn]
    exact Nat.mul_pos (by decide) s.words_pos

theorem size_toBytes : s.toBytes.bytes.size = 4 * s.words.size :=
  Array.size_ofFn

/-- The word in which a byte is, and its lane there. -/
theorem place_toBytes (address : Nat) :
    s.toBytes.place address / 4 = address / 4 % s.words.size ∧
      s.toBytes.place address % 4 = address % 4 := by
  unfold ByteMemory.place
  rw [s.size_toBytes]
  exact ⟨Nat.mod_mul_right_div_self .., Nat.mod_mul_right_mod ..⟩

theorem getElem_toBytes {place : Nat} (word : place / 4 < s.words.size)
    (inside : place < s.toBytes.bytes.size) :
    s.toBytes.bytes[place] = s.words[place / 4].lane (place % 4) :=
  Array.getElem_ofFn _

/-- Two addresses stand for one byte if they agree in lane and in word. -/
theorem place_eq_iff (a b : Word) :
    s.toBytes.place a.toNat = s.toBytes.place b.toNat ↔
      a.toNat % 4 = b.toNat % 4 ∧ s.index a = s.index b := by
  obtain ⟨wordA, laneA⟩ := s.place_toBytes a.toNat
  obtain ⟨wordB, laneB⟩ := s.place_toBytes b.toNat
  rw [Fin.ext_iff]
  change _ ↔ _ ∧ a.toNat / 4 % s.words.size = b.toNat / 4 % s.words.size
  omega

/-- What a write leaves in a word. -/
theorem getElem_write (address data : Word) (enable : BitVec 8) {place : Nat}
    (inside : place < s.words.size)
    (inside' : place < (s.write address data enable).words.size) :
    (s.write address data enable).words[place] =
      if (s.index address).val = place then Word.merge (s.read address) data enable
      else s.words[place] :=
  Array.getElem_set (s.index address).isLt inside'

/-- A store into the enabled lanes of a word is a store into bytes. -/
theorem toBytes_write (width : Width) (address value : Word) :
    (s.write address (storeData width.storeCode address value)
      (byteEnable width.storeCode address)).toBytes = s.toBytes.store width address value := by
  obtain ⟨word, lane⟩ := s.place_toBytes address.toNat
  refine ByteMemory.ext (Array.ext ?_ fun place inside inside' => ?_)
  · rw [size_toBytes, size_write, ByteMemory.size_store, size_toBytes]
  · have lanes : place % 4 < 4 := Nat.mod_lt _ (by decide)
    have covered := width.unit_eq_iff place (s.toBytes.place address.toNat)
    rw [word, lane] at covered
    have within : place < s.toBytes.bytes.size := by rwa [ByteMemory.size_store] at inside'
    have held : place / 4 < s.words.size := Nat.div_lt_of_lt_mul (s.size_toBytes ▸ within)
    rw [getElem_toBytes _ (by rwa [size_write]), getElem_write s _ _ _ held,
      ByteMemory.getElem_store _ _ _ _ within]
    unfold ByteMemory.unit
    by_cases found : (s.index address).val = place / 4
    · rw [if_pos found, Word.lane_merge _ _ _ lanes]
      by_cases enabled : place % 4 / width.bytes = address.toNat % 4 / width.bytes
      · rw [if_pos ((getLsbD_byteEnable width address lanes).mpr enabled),
          if_pos (covered.mpr ⟨found.symm, enabled⟩), lane_storeData width _ _ lanes enabled]
        rw [width.mod_mod]
      · rw [if_neg (mt (getLsbD_byteEnable width address lanes).mp enabled),
          if_neg fun unit => enabled (covered.mp unit).2, getElem_toBytes _ held]
        simp only [read, ← found]
        rfl
    · rw [if_neg found, if_neg fun unit => found (covered.mp unit).1.symm, getElem_toBytes _ held]

/-- The byte at an address is the lane of a word. -/
theorem get_toBytes {address place : Nat} (placed : s.toBytes.place address = place)
    (inside : place / 4 < s.words.size) :
    s.toBytes.get address = s.words[place / 4].lane (place % 4) := by
  subst placed
  exact s.getElem_toBytes inside (s.toBytes.place_lt address)

/-- The bytes of a unit stand for the number in its lanes. -/
theorem value_toBytes (width : Width) (address : Word) {count : Nat}
    (within : count ≤ width.bytes) :
    s.toBytes.value (s.toBytes.unit width address * width.bytes) count =
      (s.read address).toNat / Nat.pow 256 (width.firstLane address) % Nat.pow 256 count := by
  induction count with
  | zero => exact (Nat.mod_one _).symm
  | succ count ih =>
    obtain ⟨word, lane⟩ := s.place_toBytes address.toNat
    have bounded := (s.index address).isLt
    have index : (s.index address).val = address.toNat / 4 % s.words.size := rfl
    -- The unit does not reach beyond the word, nor beyond the memory.
    have same : (s.toBytes.unit width address * width.bytes + count) / 4 =
          (s.index address).val ∧
        (s.toBytes.unit width address * width.bytes + count) % 4 =
          width.firstLane address + count := by
      rw [width.firstLane_eq]
      unfold ByteMemory.unit
      cases width <;> simp only [Width.bytes] at * <;> omega
    have placed : s.toBytes.place (s.toBytes.unit width address * width.bytes + count) =
        s.toBytes.unit width address * width.bytes + count := by
      refine Nat.mod_eq_of_lt ?_
      rw [size_toBytes]
      omega
    have byte : s.toBytes.get (s.toBytes.unit width address * width.bytes + count) =
        (s.read address).lane (width.firstLane address + count) := by
      rw [s.get_toBytes placed (by rw [same.1]; exact bounded)]
      simp only [read, same]
      rfl
    unfold ByteMemory.value
    rw [ih (Nat.le_of_succ_le within), byte, Word.toNat_lane]
    simp only [Nat.pow_eq]
    rw [Nat.mod_pow_succ, Nat.div_div_eq_div_mul, ← Nat.pow_add]

end Storage

/-! ## Extension -/

namespace Word

theorem extend_eq_signExtend {bits : Nat} (x : BitVec bits) :
    x.signExtend 32 = extend true bits x.toNat := by
  unfold BitVec.signExtend extend
  rw [x.toInt_eq_toNat_cond, Nat.pow_eq]
  by_cases positive : 2 * x.toNat < 2 ^ bits
  · rw [if_pos positive, if_neg (by omega), BitVec.ofInt_natCast]
  · rw [if_neg positive, if_pos ⟨rfl, by omega⟩]

theorem extend_eq_setWidth {bits : Nat} (x : BitVec bits) :
    x.setWidth 32 = extend false bits x.toNat := by
  apply BitVec.eq_of_toNat_eq
  simp [extend]

end Word

namespace Storage

variable (s : Storage)

/-- What a load makes of the word that it reads is what it reads of the bytes. -/
theorem loadData_read (kind : LoadKind) (address : Word) :
    loadData kind.code address (s.read address) = s.toBytes.load kind address := by
  unfold ByteMemory.load
  rw [s.value_toBytes kind.width address (Nat.le_refl _)]
  have field (bits : Nat) : ((s.read address >>> (8 * kind.width.firstLane address)).setWidth
      bits).toNat = (s.read address).toNat / 256 ^ kind.width.firstLane address % 2 ^ bits := by
    rw [BitVec.toNat_setWidth, BitVec.toNat_ushiftRight, Nat.shiftRight_eq_div_pow, Nat.pow_mul]
  unfold loadData
  rw [Width.ofFunct3_code]
  cases kind with
  | lb => exact (Word.extend_eq_signExtend _).trans (congrArg _ (field 8))
  | lh => exact (Word.extend_eq_signExtend _).trans (congrArg _ (field 16))
  | lbu => exact (Word.extend_eq_setWidth _).trans (congrArg _ (field 8))
  | lhu => exact (Word.extend_eq_setWidth _).trans (congrArg _ (field 16))
  | lw =>
    have whole := Word.extend_eq_signExtend (s.read address)
    rw [BitVec.signExtend_eq] at whole
    refine whole.trans (congrArg _ ?_)
    change _ = (s.read address).toNat / 1 % 2 ^ 32
    rw [Nat.div_one, Nat.mod_eq_of_lt (s.read address).isLt]

end Storage

/-! ## Programs of loads and stores -/

/-- A load or a store. -/
inductive DataAccess where
  | store (width : Width) (address value : Word)
  | load (kind : LoadKind) (address : Word)
  deriving DecidableEq, Repr

/-- What the loads of a program read, in order, from bytes. -/
def ByteMemory.reads (m : ByteMemory) : List DataAccess → List Word
  | [] => []
  | .store width address value :: rest => (m.store width address value).reads rest
  | .load kind address :: rest => m.load kind address :: m.reads rest

namespace Storage

/-- What they read, in order, from words. -/
def reads (s : Storage) : List DataAccess → List Word
  | [] => []
  | .store width address value :: rest =>
      (s.write address (storeData width.storeCode address value)
        (byteEnable width.storeCode address)).reads rest
  | .load kind address :: rest => loadData kind.code address (s.read address) :: s.reads rest

theorem reads_toBytes (s : Storage) (program : List DataAccess) :
    s.reads program = s.toBytes.reads program := by
  induction program generalizing s with
  | nil => rfl
  | cons access rest ih =>
    cases access with
    | store width address value =>
      unfold reads ByteMemory.reads
      rw [ih, s.toBytes_write]
    | load kind address =>
      unfold reads ByteMemory.reads
      rw [ih, s.loadData_read]

/-- The words refine the bytes. Two addresses stand for the same byte if they agree in lane and in
word; a store changes the bytes of its naturally aligned unit to those of its value, and no other; a
load reads the number in its unit, extended by its sign or by zeros. So the loads of every program
read what they read from an array of bytes. -/
theorem refines_bytes (s : Storage) :
    (∀ a b : Word, s.toBytes.place a.toNat = s.toBytes.place b.toNat ↔
        a.toNat % 4 = b.toNat % 4 ∧ s.index a = s.index b) ∧
      (∀ width address value,
        (s.write address (storeData width.storeCode address value)
          (byteEnable width.storeCode address)).toBytes = s.toBytes.store width address value) ∧
      (∀ kind address,
        loadData kind.code address (s.read address) = s.toBytes.load kind address) ∧
      ∀ program, s.reads program = s.toBytes.reads program :=
  ⟨s.place_eq_iff, s.toBytes_write, s.loadData_read, s.reads_toBytes⟩

end Storage

end FiveStage
