import FiveStage.Pipeline.Tick

/-!
# Pipeline snapshots

The state of a pipeline between two cycles as a one-line text: the program counter, the four latches
with every field, the names of the coprocessors, and the number of cycles done.
-/

namespace FiveStage

def Control.snapshot (c : Control) : String :=
  Text.record "ControlSignals" <|
    c.lines.map (fun (name, value) => (name, Text.bool value)) ++
      [("imm_type", c.format.name), ("alu_op", c.aluOp.name)]

def Slot.snapshot (s : Slot) : String :=
  "Cp" ++ toString s.index

def Word.decimal (w : Word) : String :=
  toString w.toNat

def IfId.snapshot (e : IfId) : String :=
  Text.record "IfIdEntry" [("pc", Word.decimal e.pc), ("inst", Word.decimal e.inst)]

def IdEx.snapshot (e : IdEx) : String :=
  Text.record "IdExEntry"
    [("pc", Word.decimal e.pc), ("inst", Word.decimal e.inst), ("rs1", toString e.rs1),
      ("rs2", toString e.rs2), ("rd", toString e.rd), ("imm", toString e.imm.toInt),
      ("rv1", Word.decimal e.rv1), ("rv2", Word.decimal e.rv2), ("ctrl", e.ctrl.snapshot)]

def ExMem.snapshot (e : ExMem) : String :=
  Text.record "ExMemEntry"
    [("pc", Word.decimal e.pc), ("inst", Word.decimal e.inst), ("rd", toString e.rd),
      ("writes_register", Text.bool e.writes), ("result", Word.decimal e.result),
      ("store_data", Word.decimal e.storeData),
      ("coprocessor", Text.optional (e.coprocessor.map (·.snapshot))), ("ctrl", e.ctrl.snapshot)]

def MemWb.snapshot (e : MemWb) : String :=
  Text.record "MemWbEntry"
    [("pc", Word.decimal e.pc), ("inst", Word.decimal e.inst), ("rd", toString e.rd),
      ("writes_register", Text.bool e.writes), ("value", Word.decimal e.value),
      ("coprocessor", Text.optional (e.coprocessor.map (·.snapshot))), ("ctrl", e.ctrl.snapshot)]

def Pipeline.snapshot {ι δ σ : Type} [Coprocessor σ] (p : Pipeline ι δ σ) : String :=
  let latches := p.core.latches
  Text.openRecord "PipelineSequencer"
    [("pc", p.core.pc.hex),
      ("if_id", Text.optional (latches.ifId.map (·.snapshot))),
      ("id_ex", Text.optional (latches.idEx.map (·.snapshot))),
      ("ex_mem", Text.optional (latches.exMem.map (·.snapshot))),
      ("mem_wb", Text.optional (latches.memWb.map (·.snapshot))),
      ("coprocessors", Bank.text p.bank),
      ("cycle", toString p.core.cycle)]

end FiveStage
