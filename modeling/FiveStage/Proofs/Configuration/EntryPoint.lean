import FiveStage.Program.ObjectFile
import FiveStage.Proofs.Memory.Images
import FiveStage.Simulator

/-!
# Entry points

A simulator checks the configuration that it is given, and then lets the entry point of the program
replace the reset address. So of the configuration that it runs under everything holds that the
checks are for, but for the alignment of that address: it is not looked at again
(`Simulator.build_valid_iff`). An executable names any address as its entry point.
-/

namespace FiveStage

theorem Memory.sizeBytes_create {bytes : Nat} (latency : Nat) (some : bytes ≠ 0)
    (whole : bytes % 4 = 0) : (create bytes latency).sizeBytes = bytes := by
  have size : (create bytes latency).sizeBytes = 4 * max (bytes / 4) 1 :=
    congrArg (4 * ·) Array.size_replicate
  omega

namespace Program

/-- A program is placed in a memory if each of its segments fits. -/
theorem exists_loadInto_iff (p : Program) (m : Memory) :
    (∃ placed, p.loadInto m = .ok placed) ↔
      ∀ seg ∈ p.segments, seg.bytes.length ≤ m.sizeBytes := by
  unfold loadInto
  constructor
  · rintro ⟨placed, loaded⟩
    rcases p.fits_or_first_long m with fits | ⟨before, seg, after, split, fits, long⟩
    · exact fits
    · rw [split, place_of_long fits long] at loaded
      cases loaded
  · exact fun fits => ⟨_, place_of_fits fits⟩

end Program

/-! ## The entry point of an executable -/

theorem toNat_of_narrowAddress {address : BitVec 64} {w : Word}
    (narrow : narrowAddress address = .ok w) : w.toNat = address.toNat := by
  unfold narrowAddress at narrow
  split at narrow
  case isTrue small =>
    cases narrow
    exact (BitVec.toNat_setWidth ..).trans (Nat.mod_eq_of_lt small)
  case isFalse => cases narrow

/-- The program in an object file starts at the address that the file names. -/
theorem Program.entry_of_ofObjectFile {file : ObjectFile} {loaded : LoadedProgram}
    (accepted : ofObjectFile file = .ok loaded) :
    ∃ entry, loaded.program.entry = some entry ∧ entry.toNat = file.entry.toNat := by
  unfold ofObjectFile at accepted
  dsimp only [bind, Except.bind, pure, Except.pure] at accepted
  split at accepted
  case isFalse => cases accepted
  case isTrue =>
    split at accepted
    · cases accepted
    split at accepted
    · cases accepted
    case _ entry narrow =>
      cases accepted
      exact ⟨entry, rfl, toNat_of_narrowAddress narrow⟩

/-! ## The configuration of a simulator -/

namespace Simulator

variable {config : Configuration} {program : Program} {operation : Operation}

/-- The entry point is all that may be wrong with the configuration that a program runs under. -/
theorem fault_effective (valid : config.Valid) (program : Program) :
    (effective config program).fault? =
      (program.entry.filter (!·.isAligned)).map (.misaligned "reset_pc") := by
  unfold effective
  cases entry : program.entry with
  | none => exact Configuration.fault_eq_none_iff.mpr valid
  | some e =>
    dsimp only
    cases aligned : e.isAligned with
    | false =>
      -- The reset address is the first that is checked.
      unfold Configuration.fault? Configuration.addresses
      rw [List.find?_cons_of_pos (by simp [aligned]), Option.filter_some, aligned]
      rfl
    | true =>
      rw [Option.filter_some, aligned]
      refine Configuration.fault_eq_none_iff.mpr ⟨?_, valid.size, valid.latency⟩
      intro name value member
      rcases List.mem_cons.mp member with reset | vector
      · cases reset
        exact aligned
      · exact valid.aligned name value (.tail _ vector)

/-- There is a simulator for every valid configuration and every program that fits its memories. -/
theorem exists_build_iff :
    (∃ s, build config program operation = .ok s) ↔
      config.validate = .ok () ∧
        ∀ seg ∈ program.segments, seg.bytes.length ≤ config.memory.sizeBytes := by
  constructor
  · rintro ⟨s, built⟩
    obtain ⟨valid, imem, -, placed, -⟩ := build_eq_ok_iff.mp built
    have size := (Configuration.validate_eq_ok_iff.mp valid).size
    have fits := (program.exists_loadInto_iff _).mp ⟨imem, placed⟩
    rw [Memory.sizeBytes_create _ size.1 size.2] at fits
    exact ⟨valid, fits⟩
  · rintro ⟨valid, fits⟩
    have size := (Configuration.validate_eq_ok_iff.mp valid).size
    have placed (latency : Nat) :
        ∃ m, program.loadInto (.create config.memory.sizeBytes latency) = .ok m := by
      rw [program.exists_loadInto_iff, Memory.sizeBytes_create _ size.1 size.2]
      exact fits
    obtain ⟨imem, fetched⟩ := placed config.memory.fetchLatency
    obtain ⟨dmem, loaded⟩ := placed config.memory.dataLatency
    exact ⟨_, build_eq_ok_iff.mpr ⟨valid, imem, dmem, fetched, loaded, rfl⟩⟩

/-- A simulator exists for every valid configuration and every program that fits. The configuration
that it exposes is the one that its pipeline is made from: the given one, but that the entry point
of the program is the reset address. It passes the checks exactly if that entry point is aligned,
and otherwise the reset address is the fault. So it does for every raw program, and for an
executable, whatever the reader of object files finds in it, exactly if the entry that the file
names is a multiple of four. -/
theorem build_valid_iff (config : Configuration) (program : Program) (operation : Operation) :
    ((∃ s, build config program operation = .ok s) ↔
      config.validate = .ok () ∧
        ∀ seg ∈ program.segments, seg.bytes.length ≤ config.memory.sizeBytes) ∧
      ∀ s, build config program operation = .ok s →
        s.config = effective config program ∧
          (∃ imem dmem, s.pipeline =
            .create s.config imem dmem (.reference s.config.coprocessors.latency operation)) ∧
          s.config.fault? =
            (program.entry.filter (!·.isAligned)).map (.misaligned "reset_pc") ∧
          (s.config.validate = .ok () ↔ ∀ entry ∈ program.entry, entry.isAligned = true) ∧
          (∀ image base, program = .ofRaw image base → s.config.validate = .ok ()) ∧
          ∀ file loaded, Program.ofObjectFile file = .ok loaded → program = loaded.program →
            (s.config.validate = .ok () ↔ file.entry.toNat % 4 = 0) := by
  refine ⟨exists_build_iff, fun s built => ?_⟩
  obtain ⟨valid, imem, dmem, -, -, rfl⟩ := build_eq_ok_iff.mp built
  have fault := fault_effective (Configuration.validate_eq_ok_iff.mp valid) program
  have valid_iff : (effective config program).validate = .ok () ↔
      ∀ entry ∈ program.entry, entry.isAligned = true := by
    rw [Configuration.validate_eq_ok_iff_fault, fault]
    simp [Option.filter_eq_none_iff]
  refine ⟨rfl, ⟨imem, dmem, rfl⟩, fault, valid_iff, ?_, ?_⟩
  · rintro image base rfl
    exact valid_iff.mpr nofun
  · rintro file loaded accepted rfl
    obtain ⟨entry, named, same⟩ := Program.entry_of_ofObjectFile accepted
    rw [valid_iff, named, ← same]
    simp [Word.isAligned]

/-- A program of two instructions at 0x400, an addition and a call of the environment. -/
def calling (entry : Word) : Program where
  entry := some entry
  segments := [{ address := 0x400, bytes := [0x93, 0, 0x70, 0, 0x73, 0, 0, 0] }]

/-- The same program as an executable. -/
def callingObject (entry : Word) : ObjectFile where
  isElf := true
  is64 := false
  littleEndian := true
  isRiscv32 := true
  entry := entry.setWidth 64
  segments := [{ address := 0x400, contents := .ok [0x93, 0, 0x70, 0, 0x73, 0, 0, 0] }]

theorem build_calling (entry : Word) : ∃ s, build {} (calling entry) = .ok s := by
  refine exists_build_iff.mpr ⟨rfl, fun seg member => ?_⟩
  cases List.mem_singleton.mp member
  decide

/-- Started where its first instruction is, the executable runs under a valid configuration. -/
theorem build_valid_iff_calling :
    ∃ s, build {} (calling 0x400) = .ok s ∧ s.config.validate = .ok () := by
  obtain ⟨s, built⟩ := build_calling 0x400
  obtain ⟨-, -, -, -, -, executable⟩ := (build_valid_iff {} (calling 0x400) _).2 s built
  exact ⟨s, built, (executable (callingObject 0x400) _ rfl rfl).mpr (by decide)⟩

/-- Started in the middle of that instruction, it runs under one that is not. -/
theorem build_of_misaligned_entry :
    (Program.ofObjectFile (callingObject 0x402)).toOption.map (·.program) = some (calling 0x402) ∧
      ∃ s, build {} (calling 0x402) = .ok s ∧ s.config.pipeline.resetPc = 0x402 ∧
        s.config.validate = .error (.misaligned "reset_pc" 0x402) := by
  refine ⟨by decide +kernel, ?_⟩
  obtain ⟨s, built⟩ := build_calling 0x402
  obtain ⟨-, imem, dmem, -, -, rfl⟩ := build_eq_ok_iff.mp built
  have fault : (effective {} (calling 0x402)).fault? = some (.misaligned "reset_pc" 0x402) := by
    decide +kernel
  refine ⟨_, built, rfl, ?_⟩
  unfold Configuration.validate
  rw [fault]

end Simulator

end FiveStage
