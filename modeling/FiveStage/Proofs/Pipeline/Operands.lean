import FiveStage.Proofs.Pipeline.Flow

/-!
# Operands

An operand that decode hands on is the value that its register has once every older instruction has
written. That is what forwarding and its interlocks are for: an instruction in the memory stage is
as good as written, and one in the execute stage is waited for if its value is still to be loaded.
-/

namespace FiveStage

/-- An empty stage writes nothing. -/
theorem Producer.produces_empty (r : Nat) : ({} : Producer).produces r = false := by
  simp [produces]

namespace RegisterFile

/-- The value of a register once the producer in the execute stage has written as well. -/
def ahead (regs : RegisterFile) (ex : Producer) (r : Nat) : Word :=
  if ex.produces r then ex.value else regs.read r

@[simp]
theorem ahead_empty (regs : RegisterFile) (r : Nat) : regs.ahead {} r = regs.read r :=
  if_neg (by rw [Producer.produces_empty]; decide)

theorem read_commit (regs : RegisterFile) {w : MemWb} (small : w.rd < 32) (r : Nat) :
    (regs.commit (some w)).read r = regs.ahead w.producer r := by
  unfold commit ahead Producer.produces MemWb.producer
  by_cases writes : w.writes = true
  · by_cases same : w.rd = r
    · subst same
      by_cases zero : w.rd = 0
      · simp [zero]
      · simp [writes, zero, regs.read_write_self w.value zero small]
    · simp [writes, same, regs.read_write_of_ne w.value same]
  · simp [writes]

/-- The memory stage is as good as writeback. -/
theorem read_commit_entry (regs : RegisterFile) {memory : MemoryOutcome}
    (small : ∀ w ∈ memory.latched?, w.rd < 32) (r : Nat) :
    (regs.commit memory.latched?).read r = regs.ahead memory.producer r := by
  cases memory with
  | idle => exact (regs.ahead_empty r).symm
  | waiting pc address => exact (regs.ahead_empty r).symm
  | done w => exact regs.read_commit (small w rfl) r

end RegisterFile

/-- The operand is taken from the youngest older instruction that writes it. -/
theorem Forwarded.resolve_value (regs : RegisterFile) (ex : Producer) {memory : MemoryOutcome}
    (small : ∀ w ∈ memory.latched?, w.rd < 32) (r : Nat) :
    (resolve r (regs.read r) ex memory.producer).value =
      (regs.commit memory.latched?).ahead ex r := by
  unfold RegisterFile.ahead
  rw [regs.read_commit_entry small r]
  unfold resolve RegisterFile.ahead
  by_cases young : ex.produces r = true <;> by_cases old : memory.producer.produces r = true <;>
    simp [young, old]

/-! ## From execute to the memory stage -/

/-- What execute will write is the result of the instruction that it is done with. -/
def Latches.producer (latches : Latches) : Producer :=
  latches.exMem.elim {} ExMem.producer

theorem ExecuteOutcome.producer_eq (x : ExecuteOutcome) :
    x.producer = x.latched?.elim {} ExMem.producer := by
  cases x <;> rfl

/-- The entry `w` is what the memory stage makes of the instruction in `x`. Only a load has another
value than execute left. -/
structure ExMem.Becomes (x : ExMem) (w : MemWb) : Prop where
  pc : w.pc = x.pc
  inst : w.inst = x.inst
  rd : w.rd = x.rd
  writes : w.writes = x.writes
  value : x.ctrl.memRead = false → w.value = x.result

namespace ExMem

theorem becomes_complete (x : ExMem) : x.Becomes (x.complete x.result) :=
  ⟨rfl, rfl, rfl, rfl, fun _ => rfl⟩

theorem becomes_accessed (x : ExMem) (data : Word) : x.Becomes (x.accessed data) :=
  ⟨rfl, rfl, rfl, rfl, fun notLoad => if_neg (by simp [notLoad])⟩

/-- What an instruction writes is known before its access, unless it loads. -/
theorem Becomes.read_commit {x : ExMem} {w : MemWb} (h : x.Becomes w) (small : x.rd < 32)
    {r : Nat} (known : x.producer.produces r = true → x.producer.isLoad = false)
    (regs : RegisterFile) :
    (regs.commit (some w)).read r = regs.ahead x.producer r := by
  have same : w.producer.produces r = x.producer.produces r := by
    unfold Producer.produces MemWb.producer producer
    rw [h.rd, h.writes]
  rw [regs.read_commit (h.rd ▸ small)]
  unfold RegisterFile.ahead
  rw [same]
  by_cases produced : x.producer.produces r = true
  · rw [if_pos produced, if_pos produced]
    exact h.value (known produced)
  · rw [if_neg produced, if_neg produced]

end ExMem

namespace Core

variable {δ : Type} [MemoryPort δ] {p : Core} {x : ExMem}

theorem memoryWork_of_none (empty : p.latches.exMem = none) (dmem : δ) :
    p.memoryWork dmem = (.idle, dmem) := by
  unfold memoryWork
  rw [empty]
  rfl

theorem memoryWork_of_pass (entry : p.latches.exMem = some x) (pass : x.request? = none)
    (dmem : δ) : p.memoryWork dmem = (.done (x.complete x.result), dmem) := by
  unfold memoryWork memoryStage
  rw [entry]
  simp only [pass]
  rfl

theorem memoryWork_of_request {req : MemoryRequest} (entry : p.latches.exMem = some x)
    (access : x.request? = some req) (dmem : δ) :
    p.memoryWork dmem =
      let answer := MemoryPort.access dmem req
      (if answer.1.ready then .done (x.accessed answer.1.data) else .waiting x.pc req.address,
        answer.2) := by
  unfold memoryWork memoryStage
  rw [entry]
  simp only [access]
  rfl

/-- A memory stage that does not wait is done with its instruction. -/
theorem memoryWork_done (entry : p.latches.exMem = some x) {dmem : δ}
    (quiet : (p.memoryWork dmem).1.apply {} = {}) :
    ∃ w, (p.memoryWork dmem).1 = .done w ∧ x.Becomes w := by
  cases access : x.request? with
  | none =>
    rw [memoryWork_of_pass entry access]
    exact ⟨_, rfl, x.becomes_complete⟩
  | some req =>
    rw [memoryWork_of_request entry access] at quiet ⊢
    by_cases ready : (MemoryPort.access dmem req).1.ready = true
    · simp only [ready]
      exact ⟨_, rfl, x.becomes_accessed _⟩
    · simp only [ready] at quiet
      cases congrArg Interlock.stallPoint quiet

end Core

/-! ## Decode -/

namespace IdEx

/-- The source of the next program counter after the instruction. -/
def select (e : IdEx) : PcSource :=
  .ofControl e.ctrl (e.ctrl.branch && branchTaken e.inst.funct3.toNat e.rv1 e.rv2)

/-- Where execution goes on after the instruction. -/
def target (e : IdEx) : Word :=
  e.select.nextPc e.inst e.pc e.rv1

/-- Where decode sends fetch, if not straight on. -/
def redirect? (e : IdEx) : Option (PcSource × Word) :=
  if e.select.redirects then some (e.select, e.target) else none

theorem target_of_redirect {e : IdEx} {select : PcSource} {target : Word}
    (leave : e.redirect? = some (select, target)) : e.target = target := by
  unfold redirect? at leave
  by_cases redirects : e.select.redirects = true
  · rw [if_pos redirects] at leave
    cases leave
    rfl
  · rw [if_neg redirects] at leave
    cases leave

theorem target_of_straight {e : IdEx} (straight : e.redirect? = none) : e.target = e.pc + 4 := by
  unfold redirect? at straight
  unfold target
  cases select : e.select with
  | sequential => rfl
  | _ => simp [select, PcSource.redirects] at straight

end IdEx

/-- The entry that decode makes of a word whose operands have the given values. -/
def IfId.entry (f : IfId) (value : Nat → Word) : IdEx :=
  let ctrl := Control.decode f.inst
  let sources := f.inst.sources ctrl
  { pc := f.pc
    inst := f.inst
    rs1 := sources.rs1
    rs2 := sources.rs2
    rd := f.inst.rd.toNat
    imm := f.inst.immediate ctrl.format
    rv1 := value sources.rs1
    rv2 := value sources.rs2
    ctrl }

/-- The entry depends on the values of its two source registers only. -/
theorem IfId.entry_congr {f : IfId} {value value' : Nat → Word}
    (agree : ∀ r, r = (f.entry value).rs1 ∨ r = (f.entry value).rs2 → value r = value' r) :
    f.entry value = f.entry value' := by
  have first : value _ = value' _ := agree _ (.inl rfl)
  have second : value _ = value' _ := agree _ (.inr rfl)
  unfold IfId.entry at *
  simp only [first, second]

/-- Decode drops the word, waits for an operand, or hands the word on with operands that the
execute stage knows. -/
theorem IfId.decode_cases (f : IfId) (forwarding : Bool) (regs : RegisterFile) (ex mem : Producer) :
    (f.inst.isUnrecognised = true ∧ f.decode forwarding regs ex mem = .dropped f) ∨
      (∃ reason, (f.decode forwarding regs ex mem).apply {} =
        ({} : Interlock).stall reason .decode) ∨
      (f.inst.isUnrecognised = false ∧
        ∃ (e : IdEx) (hazards : Operands Hazard) (operands : Operands Forwarded),
          e = f.entry (fun r => (Forwarded.resolve r (regs.read r) ex mem).value) ∧
          (∀ r, r = e.rs1 ∨ r = e.rs2 → ex.produces r = true → ex.isLoad = false) ∧
          f.decode forwarding regs ex mem = .issued e hazards operands e.redirect?) := by
  unfold IfId.decode
  by_cases empty : f.inst.isUnrecognised = true
  · rw [if_pos empty]
    exact .inl ⟨empty, rfl⟩
  · rw [if_neg empty]
    refine .inr ?_
    by_cases load : FiveStage.loadUse [(f.inst.sources (Control.decode f.inst)).rs1,
        (f.inst.sources (Control.decode f.inst)).rs2] ex = true
    · rw [if_pos load]
      exact .inl ⟨_, rfl⟩
    · rw [if_neg load]
      split
      · exact .inl ⟨_, rfl⟩
      · refine .inr ⟨by simpa using empty, _, _, _, rfl, ?_, rfl⟩
        intro r source produced
        rw [← Bool.not_eq_true]
        intro isLoad
        refine load ?_
        rcases source with rfl | rfl <;>
          simp_all [FiveStage.loadUse, IfId.entry]

/-- Decode does not wait with an instruction that it issues. -/
theorem DecodeOutcome.apply_issued_ne (e : IdEx) (hazards : Operands Hazard)
    (operands : Operands Forwarded) (redirect : Option (PcSource × Word)) (reason : StallReason) :
    (issued e hazards operands redirect).apply {} ≠ ({} : Interlock).stall reason .decode := by
  intro wait
  cases redirect with
  | none => cases congrArg Interlock.stallPoint wait
  | some way => cases congrArg Interlock.stallPoint wait

/-- What decode hands on has the operands that forwarding finds. -/
theorem decodeStage_entry {forwarding : Bool} {ifId : Option IfId} {regs : RegisterFile}
    {ex mem : Producer} {e : IdEx}
    (entry : e ∈ (decodeStage {} forwarding ifId regs ex mem).latched?) :
    (∃ f : IfId, e = f.entry fun r => (Forwarded.resolve r (regs.read r) ex mem).value) ∧
      ∀ r, r = e.rs1 ∨ r = e.rs2 → ex.produces r = true → ex.isLoad = false := by
  cases ifId with
  | none => cases entry
  | some f =>
    change e ∈ (f.decode forwarding regs ex mem).latched? at entry
    rcases f.decode_cases forwarding regs ex mem with
      ⟨-, dropped⟩ | ⟨reason, wait⟩ | ⟨-, issued, hazards, operands, same, known, decoded⟩
    · rw [dropped] at entry
      cases entry
    · cases outcome : f.decode forwarding regs ex mem with
      | issued issued hazards operands redirect =>
        rw [outcome] at wait
        exact (DecodeOutcome.apply_issued_ne _ _ _ _ _ wait).elim
      | _ =>
        rw [outcome] at entry
        cases entry
    · rw [decoded] at entry
      cases entry
      exact ⟨⟨f, same⟩, known⟩

/-! ## Instructions that know their operands -/

/-- The instruction has the operands that its registers hold once the instruction in front of it has
written, and that one does not still have to load them. -/
structure IdEx.Informed (e : IdEx) (regs : RegisterFile) (ex : Producer) : Prop where
  entry : ∃ f : IfId, e = f.entry (regs.ahead ex)
  known : ∀ r, r = e.rs1 ∨ r = e.rs2 → ex.produces r = true → ex.isLoad = false

namespace IdEx.Informed

variable {e : IdEx} {regs : RegisterFile}

/-- The instruction in front is done. -/
theorem written {x : ExMem} {w : MemWb} (h : e.Informed regs x.producer) (becomes : x.Becomes w)
    (small : x.rd < 32) : e.Informed (regs.commit (some w)) {} := by
  obtain ⟨⟨f, rfl⟩, known⟩ := h
  refine ⟨⟨f, IfId.entry_congr fun r source => ?_⟩, fun _ _ _ => rfl⟩
  rw [RegisterFile.ahead_empty, becomes.read_commit small (known r source)]

end IdEx.Informed

/-- Decode issues an instruction with the operands behind the one that execute hands on. -/
theorem decodeStage_informed {forwarding : Bool} {ifId : Option IfId} {regs : RegisterFile}
    {ex : Producer} {memory : MemoryOutcome} {e : IdEx}
    (small : ∀ w ∈ memory.latched?, w.rd < 32)
    (issued : e ∈ (decodeStage {} forwarding ifId regs ex memory.producer).latched?) :
    e.Informed (regs.commit memory.latched?) ex := by
  obtain ⟨⟨f, rfl⟩, known⟩ := decodeStage_entry issued
  exact ⟨⟨f, IfId.entry_congr fun r _ => Forwarded.resolve_value regs ex small r⟩, known⟩

end FiveStage
