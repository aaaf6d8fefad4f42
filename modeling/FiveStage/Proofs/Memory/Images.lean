import FiveStage.Program.Basic
import FiveStage.Proofs.Memory.ByteMemory

/-!
# Images in memory

An image is placed byte by byte, each byte by a masked write of its word, at addresses that wrap
around at the end of the address space and again at the size of the memory. A later byte overwrites
an earlier one of the same image if their addresses stand for one place, which takes both wraps: the
image runs beyond the last address, and the size does not divide the number of addresses. All other
bytes can be read back, and all other places keep what they held. Segments of a program are images
one after the other, so a place has the byte of the last segment that covers it. An image that is
too long changes nothing, and a program with such a segment is placed up to there.
-/

namespace FiveStage

open Lanes

namespace Storage

variable (s : Storage)

/-! ## One byte -/

/-- The byte at an address, as it is read with its word. -/
def byte (address : Word) : Byte :=
  (s.read address).lane (address.toNat % 4)

/-- The place of the byte at an address. -/
def place (address : Word) : Nat :=
  s.toBytes.place address.toNat

/-- What reads as a byte of its word is the byte in its place. -/
theorem getElem?_place (address : Word) :
    s.toBytes.bytes[s.place address]? = some (s.byte address) := by
  obtain ⟨word, lane⟩ := s.place_toBytes address.toNat
  have bounded : address.toNat / 4 % s.words.size < s.words.size := (s.index address).isLt
  have inside : s.place address < s.toBytes.bytes.size := s.toBytes.place_lt address.toNat
  have held : s.place address / 4 < s.words.size := by
    unfold place
    omega
  rw [Array.getElem?_eq_getElem inside, s.getElem_toBytes held]
  unfold byte read place
  simp only [word, lane]
  rfl

theorem place_lt (address : Word) : s.place address < s.toBytes.bytes.size :=
  s.toBytes.place_lt address.toNat

/-- A byte is written as a store of one byte. -/
theorem writeByte_eq (address : Word) (b : Byte) :
    s.writeByte address b =
      s.write address (storeData Width.byte.storeCode address (b.setWidth 32))
        (byteEnable Width.byte.storeCode address) :=
  rfl

theorem size_writeByte (address : Word) (b : Byte) :
    (s.writeByte address b).words.size = s.words.size :=
  s.size_write ..

/-- A byte that is written changes its place and no other. -/
theorem getElem?_writeByte (address : Word) (b : Byte) (place : Nat) :
    (s.writeByte address b).toBytes.bytes[place]? =
      if s.place address = place then some b else s.toBytes.bytes[place]? := by
  rw [s.writeByte_eq, s.toBytes_write]
  have low : Word.byte (b.setWidth 32) 0 = b := by
    change BitVec.ofNat 8 ((b.setWidth 32).toNat / 1) = b
    rw [Nat.div_one, BitVec.ofNat_toNat]
    simp
  by_cases inside : place < s.toBytes.bytes.size
  · have inside' : place < (s.toBytes.store .byte address (b.setWidth 32)).bytes.size := by
      rwa [ByteMemory.size_store]
    rw [Array.getElem?_eq_getElem inside', Array.getElem?_eq_getElem inside,
      ByteMemory.getElem_store _ _ _ _ inside]
    have unit : s.toBytes.unit .byte address = s.place address := Nat.div_one _
    simp only [Width.bytes, Nat.div_one, Nat.mod_one, low, unit, eq_comm (a := place)]
    split <;> rfl
  · have elsewhere : s.place address ≠ place := by
      have := s.place_lt address
      omega
    rw [if_neg elsewhere, Array.getElem?_eq_none (by rw [ByteMemory.size_store]; omega),
      Array.getElem?_eq_none (by omega)]

/-! ## An image -/

@[simp]
theorem place_writeByte (address : Word) (b : Byte) (a : Word) :
    (s.writeByte address b).place a = s.place a := by
  simp [place, ByteMemory.place, size_toBytes, size_writeByte]

/-- The address of the byte after next is that of a byte after the next one. -/
theorem succ_add_ofNat (address : Word) (i : Nat) :
    address + 1 + BitVec.ofNat 32 i = address + BitVec.ofNat 32 (i + 1) := by
  rw [BitVec.ofNat_add, BitVec.add_assoc, BitVec.add_comm (BitVec.ofNat 32 i)]
  rfl

theorem size_writeBytes (address : Word) (image : List Byte) :
    (s.writeBytes address image).words.size = s.words.size := by
  induction image generalizing s address with
  | nil => rfl
  | cons b rest ih =>
    rw [writeBytes, ih, size_writeByte]

theorem place_writeBytes (address : Word) (image : List Byte) (a : Word) :
    (s.writeBytes address image).place a = s.place a := by
  simp [place, ByteMemory.place, size_toBytes, size_writeBytes]

/-- What no address of an image stands for keeps its byte. -/
theorem kept_writeBytes {address : Word} {image : List Byte} {place : Nat}
    (apart : ∀ i < image.length, s.place (address + .ofNat 32 i) ≠ place) :
    (s.writeBytes address image).toBytes.bytes[place]? = s.toBytes.bytes[place]? := by
  induction image generalizing s address with
  | nil => rfl
  | cons b rest ih =>
    have first : s.place address ≠ place := by
      have zero := apart 0 (by simp)
      rwa [BitVec.add_zero] at zero
    rw [writeBytes, ih, getElem?_writeByte, if_neg first]
    intro i inside
    rw [place_writeByte, succ_add_ofNat]
    exact apart (i + 1) (by simpa using inside)

/-- The bytes at two addresses of one place are the same. -/
theorem byte_eq_of_getElem? {address : Word} {b : Byte}
    (found : s.toBytes.bytes[s.place address]? = some b) : s.byte address = b := by
  rw [getElem?_place] at found
  exact Option.some.inj found

/-- A byte of an image that no later one overwrites can be read back. -/
theorem byte_writeBytes {address : Word} {image : List Byte} {i : Nat} (inside : i < image.length)
    (last : ∀ j, i < j → j < image.length →
      s.place (address + .ofNat 32 j) ≠ s.place (address + .ofNat 32 i)) :
    (s.writeBytes address image).byte (address + .ofNat 32 i) = image[i] := by
  induction image generalizing s address i with
  | nil => simp at inside
  | cons b rest ih =>
    cases i with
    | zero =>
      -- The rest of the image leaves the first byte alone.
      rw [BitVec.add_zero] at last ⊢
      apply byte_eq_of_getElem?
      rw [place_writeBytes, writeBytes, kept_writeBytes, getElem?_writeByte, if_pos rfl]
      · rfl
      · intro j within
        rw [place_writeByte, succ_add_ofNat]
        exact last (j + 1) (by omega) (by simpa using within)
    | succ i =>
      rw [← succ_add_ofNat] at last ⊢
      refine ih (s.writeByte address b) (by simpa using inside) ?_
      intro j later within
      rw [place_writeByte, place_writeByte, succ_add_ofNat]
      exact last (j + 1) (by omega) (by simpa using within)

/-! ## Images that do not overwrite themselves -/

/-- The places of an image follow one another, modulo the size of the memory, if its addresses do
not wrap around or do so in step with the places. -/
theorem place_add {address : Word} {length i : Nat} (inside : i < length)
    (room : address.toNat + length ≤ Nat.pow 2 32 ∨ s.sizeBytes ∣ Nat.pow 2 32) :
    s.place (address + .ofNat 32 i) = (address.toNat + i) % s.sizeBytes := by
  have sum : (address + BitVec.ofNat 32 i).toNat = (address.toNat + i) % Nat.pow 2 32 := by
    rw [BitVec.toNat_add, BitVec.toNat_ofNat, Nat.add_mod_mod]
  unfold place ByteMemory.place
  rw [s.size_toBytes, sum]
  -- Either nothing wraps at the last address, or the wrap is a multiple of the size.
  rcases room with within | divides
  · have inner : address.toNat + i < Nat.pow 2 32 :=
      Nat.lt_of_lt_of_le (Nat.add_lt_add_left inside _) within
    rw [Nat.mod_eq_of_lt inner]
    rfl
  · exact Nat.mod_mod_of_dvd _ divides

/-- Then no two bytes of an image that is not longer than the memory have one place. -/
theorem place_ne {address : Word} {length i j : Nat} (fits : length ≤ s.sizeBytes)
    (room : address.toNat + length ≤ Nat.pow 2 32 ∨ s.sizeBytes ∣ Nat.pow 2 32)
    (later : i < j) (inside : j < length) :
    s.place (address + .ofNat 32 j) ≠ s.place (address + .ofNat 32 i) := by
  intro same
  rw [s.place_add inside room, s.place_add (Nat.lt_trans later inside) room] at same
  have multiple : s.sizeBytes ∣ j - i := by
    have difference : address.toNat + j - (address.toNat + i) = j - i := by omega
    rw [← difference]
    exact Nat.dvd_of_mod_eq_zero (Nat.sub_mod_eq_zero_of_mod_eq same)
  have short := Nat.le_of_dvd (by omega) multiple
  omega

/-- The storage `t` is `s` with an image placed at an address. -/
structure Places (s t : Storage) (address : Word) (image : List Byte) : Prop where
  size : t.words.size = s.words.size
  /-- A byte can be read back at its address, unless a later one has taken its place. -/
  placed : ∀ i (inside : i < image.length),
    (∀ j, i < j → j < image.length →
      s.place (address + .ofNat 32 j) ≠ s.place (address + .ofNat 32 i)) →
    t.byte (address + .ofNat 32 i) = image[i]
  /-- All can, if the image ends within the address space or the memory divides that. -/
  whole : address.toNat + image.length ≤ Nat.pow 2 32 ∨ s.sizeBytes ∣ Nat.pow 2 32 →
    ∀ i (inside : i < image.length), t.byte (address + .ofNat 32 i) = image[i]
  /-- A place that no byte of the image has keeps what it held. -/
  kept : ∀ place, (∀ i < image.length, s.place (address + .ofNat 32 i) ≠ place) →
    t.toBytes.bytes[place]? = s.toBytes.bytes[place]?

theorem places_writeBytes {address : Word} {image : List Byte}
    (fits : image.length ≤ s.sizeBytes) :
    s.Places (s.writeBytes address image) address image where
  size := s.size_writeBytes address image
  placed _ inside last := s.byte_writeBytes inside last
  whole room _ inside :=
    s.byte_writeBytes inside fun _ later within => s.place_ne fits room later within
  kept _ apart := s.kept_writeBytes apart

end Storage

namespace Memory

/-- The memory after an image was to be placed at an address, refused or not. -/
def loaded (m : Memory) (address : Word) (image : List Byte) : Memory :=
  match m.load address image with
  | .ok m => m
  | .error failure => failure.memory

variable (m : Memory) (address : Word) {image : List Byte}

/-- The error of an image that is too long for the memory. -/
def refusal (image : List Byte) : ImageTooLarge where
  start := address
  length := image.length
  size := m.sizeBytes

theorem load_of_long (long : m.sizeBytes < image.length) :
    m.load address image = .error { error := m.refusal address image, memory := m } :=
  if_pos long

theorem load_of_fits (fits : image.length ≤ m.sizeBytes) :
    m.load address image = .ok { m with storage := m.storage.writeBytes address image } :=
  if_neg (Nat.not_lt.mpr fits)

end Memory

/-! ## Segments -/

namespace Storage

/-- The storage after segments are placed in it, one after the other. -/
def writeSegments (s : Storage) (segments : List Segment) : Storage :=
  segments.foldl (fun s seg => s.writeBytes seg.address seg.bytes) s

variable (s : Storage)

theorem writeSegments_cons (seg : Segment) (rest : List Segment) :
    s.writeSegments (seg :: rest) = (s.writeBytes seg.address seg.bytes).writeSegments rest := rfl

theorem writeSegments_append (segments more : List Segment) :
    s.writeSegments (segments ++ more) = (s.writeSegments segments).writeSegments more := by
  simp [writeSegments]

theorem size_writeSegments (segments : List Segment) :
    (s.writeSegments segments).words.size = s.words.size := by
  induction segments generalizing s with
  | nil => rfl
  | cons seg rest ih => rw [writeSegments_cons, ih, size_writeBytes]

theorem place_writeSegments (segments : List Segment) (a : Word) :
    (s.writeSegments segments).place a = s.place a := by
  simp [place, ByteMemory.place, size_toBytes, size_writeSegments]

/-- What no segment covers keeps its byte. -/
theorem kept_writeSegments {segments : List Segment} {place : Nat}
    (apart : ∀ seg ∈ segments, ∀ i < seg.bytes.length,
      s.place (seg.address + .ofNat 32 i) ≠ place) :
    (s.writeSegments segments).toBytes.bytes[place]? = s.toBytes.bytes[place]? := by
  induction segments generalizing s with
  | nil => rfl
  | cons seg rest ih =>
    rw [writeSegments_cons, ih, kept_writeBytes s (apart seg (by simp))]
    intro other member i inside
    rw [place_writeBytes]
    exact apart other (by simp [member]) i inside

/-- What a segment has placed last can be read back, if no later segment covers it. -/
theorem byte_writeSegments (before : List Segment) {seg : Segment} {after : List Segment} {i : Nat}
    (inside : i < seg.bytes.length)
    (last : ∀ j, i < j → j < seg.bytes.length →
      s.place (seg.address + .ofNat 32 j) ≠ s.place (seg.address + .ofNat 32 i))
    (apart : ∀ later ∈ after, ∀ j < later.bytes.length,
      s.place (later.address + .ofNat 32 j) ≠ s.place (seg.address + .ofNat 32 i)) :
    (s.writeSegments (before ++ seg :: after)).byte (seg.address + .ofNat 32 i) =
      seg.bytes[i] := by
  rw [writeSegments_append, writeSegments_cons]
  have own : ((s.writeSegments before).writeBytes seg.address seg.bytes).byte
      (seg.address + .ofNat 32 i) = seg.bytes[i] := by
    refine byte_writeBytes _ inside ?_
    intro j later within
    rw [place_writeSegments, place_writeSegments]
    exact last j later within
  apply byte_eq_of_getElem?
  rw [place_writeSegments, kept_writeSegments, getElem?_place, own]
  intro later member j within
  rw [place_writeBytes, place_writeBytes, place_writeSegments, place_writeSegments]
  exact apart later member j within

end Storage

/-- Segments do not change the size of the memory that they are placed in. -/
theorem Memory.sizeBytes_writeSegments (m : Memory) (segments : List Segment) :
    sizeBytes { m with storage := m.storage.writeSegments segments } = m.sizeBytes :=
  congrArg (4 * ·) (m.storage.size_writeSegments segments)

namespace Program

/-- The storage `t` is `s` with a program placed in it. -/
structure Placed (p : Program) (s t : Storage) : Prop where
  size : t.words.size = s.words.size
  /-- An address has the byte of the last segment that covers its place. -/
  covered : ∀ before seg after, p.segments = before ++ seg :: after →
    ∀ i (inside : i < seg.bytes.length),
      (∀ j, i < j → j < seg.bytes.length →
        s.place (seg.address + .ofNat 32 j) ≠ s.place (seg.address + .ofNat 32 i)) →
      (∀ later ∈ after, ∀ j < later.bytes.length,
        s.place (later.address + .ofNat 32 j) ≠ s.place (seg.address + .ofNat 32 i)) →
      t.byte (seg.address + .ofNat 32 i) = seg.bytes[i]
  /-- A place that no segment covers keeps what it held. -/
  kept : ∀ place, (∀ seg ∈ p.segments, ∀ i < seg.bytes.length,
      s.place (seg.address + .ofNat 32 i) ≠ place) →
    t.toBytes.bytes[place]? = s.toBytes.bytes[place]?

theorem placed_writeSegments (p : Program) (s : Storage) :
    p.Placed s (s.writeSegments p.segments) where
  size := s.size_writeSegments p.segments
  covered before seg after split i inside last apart := by
    rw [split]
    exact s.byte_writeSegments before inside last apart
  kept _ apart := s.kept_writeSegments apart

/-- Segments that fit are placed one after the other. -/
theorem place_append {fitting : List Segment} {m : Memory}
    (fits : ∀ seg ∈ fitting, seg.bytes.length ≤ m.sizeBytes) (rest : List Segment) :
    place (fitting ++ rest) m =
      place rest { m with storage := m.storage.writeSegments fitting } := by
  induction fitting generalizing m with
  | nil => rfl
  | cons seg fitting ih =>
    have size := m.sizeBytes_writeSegments [seg]
    rw [List.cons_append, place, m.load_of_fits seg.address (fits seg (by simp))]
    exact ih fun later member => size.symm ▸ fits later (List.mem_cons_of_mem _ member)

theorem place_of_fits {segments : List Segment} {m : Memory}
    (fits : ∀ seg ∈ segments, seg.bytes.length ≤ m.sizeBytes) :
    place segments m = .ok { m with storage := m.storage.writeSegments segments } := by
  have placed := place_append fits []
  rwa [List.append_nil] at placed

/-- A segment that does not fit stops the placement, and those before it stay. -/
theorem place_of_long {before : List Segment} {seg : Segment} {m : Memory}
    (fits : ∀ earlier ∈ before, earlier.bytes.length ≤ m.sizeBytes)
    (long : m.sizeBytes < seg.bytes.length) (after : List Segment) :
    place (before ++ seg :: after) m =
      .error
        { error := .tooLarge (m.refusal seg.address seg.bytes)
          memory := { m with storage := m.storage.writeSegments before } } := by
  have size := m.sizeBytes_writeSegments before
  rw [place_append fits, place, Memory.load_of_long _ seg.address (size.symm ▸ long)]
  unfold Memory.refusal
  rw [size]

/-- The segments fit, or there is a first one that does not. -/
theorem fits_or_first_long (p : Program) (m : Memory) :
    (∀ seg ∈ p.segments, seg.bytes.length ≤ m.sizeBytes) ∨
      ∃ before seg after, p.segments = before ++ seg :: after ∧
        (∀ earlier ∈ before, earlier.bytes.length ≤ m.sizeBytes) ∧
        m.sizeBytes < seg.bytes.length := by
  cases found : p.segments.find? fun seg => m.sizeBytes < seg.bytes.length with
  | none =>
    refine .inl fun seg member => ?_
    simpa using List.find?_eq_none.mp found seg member
  | some seg =>
    obtain ⟨long, before, after, split, fits⟩ := List.find?_eq_some_iff_append.mp found
    exact .inr ⟨before, seg, after, split, by simpa using fits, by simpa using long⟩

end Program

/-- Loading an image places every byte. An image is refused exactly if it is longer than the memory,
which is left alone then. Otherwise its bytes can be read back at their addresses, except where a
later byte of it has the same place; that takes an image which runs beyond the last address, and a
memory whose size does not divide the number of addresses. No other place changes. A program that
fits leaves at an address the byte of the last segment that covers its place. One that does not is
refused for its first segment that is too long, and what comes before that is placed. -/
theorem Memory.images_placed (m : Memory) :
    (∀ address image,
      (m.sizeBytes < image.length ∧
          m.load address image = .error { error := m.refusal address image, memory := m } ∧
          m.loaded address image = m) ∨
        (image.length ≤ m.sizeBytes ∧
          ∃ s, m.load address image = .ok { m with storage := s } ∧
            m.storage.Places s address image)) ∧
      ∀ p : Program,
        ((∃ before seg after, p.segments = before ++ seg :: after ∧
            (∀ earlier ∈ before, earlier.bytes.length ≤ m.sizeBytes) ∧
            m.sizeBytes < seg.bytes.length ∧
            ∃ s, p.loadInto m =
                .error
                  { error := .tooLarge (m.refusal seg.address seg.bytes)
                    memory := { m with storage := s } } ∧
              ({ p with segments := before } : Program).Placed m.storage s) ∨
          ((∀ seg ∈ p.segments, seg.bytes.length ≤ m.sizeBytes) ∧
            ∃ s, p.loadInto m = .ok { m with storage := s } ∧ p.Placed m.storage s)) := by
  refine ⟨fun address image => ?_, fun p => ?_⟩
  · by_cases long : m.sizeBytes < image.length
    · have refused := m.load_of_long address long
      refine .inl ⟨long, refused, ?_⟩
      unfold loaded
      rw [refused]
    · have fits := Nat.not_lt.mp long
      exact .inr ⟨fits, _, m.load_of_fits address fits, m.storage.places_writeBytes fits⟩
  · rcases p.fits_or_first_long m with fits | ⟨before, seg, after, split, fits, long⟩
    · exact .inr ⟨fits, _, Program.place_of_fits fits, p.placed_writeSegments m.storage⟩
    · refine .inl ⟨before, seg, after, split, fits, long, _, ?_,
        Program.placed_writeSegments { p with segments := before } m.storage⟩
      unfold Program.loadInto
      rw [split]
      exact Program.place_of_long fits long after

/-- Three bytes across the last address, in a memory of sixteen bytes. -/
theorem Memory.images_placed_across :
    ∃ s, (create 16 1).load 0xFFFFFFFE [1, 2, 3] = .ok { create 16 1 with storage := s } ∧
      s.byte 0xFFFFFFFE = 1 ∧ s.byte 0xFFFFFFFF = 2 ∧ s.byte 0 = 3 := by
  have placed := (images_placed (create 16 1)).1 0xFFFFFFFE [1, 2, 3]
  rcases placed with ⟨long, -⟩ | ⟨-, s, loaded, places⟩
  · exact absurd long (by decide)
  · have back := places.whole (.inr (by decide))
    exact ⟨s, loaded, back 0 (by decide), back 1 (by decide), back 2 (by decide)⟩

/-- Eight bytes across the last address overwrite themselves in a memory of twelve bytes: the fifth
has the place of the first. -/
theorem Memory.image_overwritten :
    let image : List Byte := [1, 2, 3, 4, 5, 6, 7, 8]
    image.length ≤ (create 12 1).sizeBytes ∧
      ((create 12 1).load 0xFFFFFFFC image).toOption.isSome = true ∧
      ((create 12 1).loaded 0xFFFFFFFC image).storage.byte (0xFFFFFFFC + .ofNat 32 0) = 5 := by
  decide +kernel

end FiveStage
