import FiveStage.Coprocessor.Reference
import FiveStage.Memory.Timed
import FiveStage.Proofs.Pipeline.Causes
import FiveStage.Proofs.Pipeline.Combination

/-!
# Passages

Every word that fetch hands on passes through the pipeline, and this module keeps the book of it:
a `Passage` is the word with the place where it is, or with the way in which it left. The book has
one passage for each accepted word, in the order of fetching, and a cycle moves each passage as the
interlock of its report says. That nothing is lost, doubled or reordered is the one equation between
the book and the machine: the passages that are still alive are those of the retired instructions
and then of the four latches, the oldest first. A step keeps it (`tick_passages`), whatever the
cycle does, and so does a run.
-/

namespace FiveStage

/-- The word that was fetched for the instruction. -/
def IdEx.word (e : IdEx) : IfId where
  pc := e.pc
  inst := e.inst

/-- The word that was fetched for the instruction. -/
def ExMem.word (x : ExMem) : IfId where
  pc := x.pc
  inst := x.inst

/-- The word that was fetched for the instruction. -/
def MemWb.word (w : MemWb) : IfId where
  pc := w.pc
  inst := w.inst

/-- Where an accepted word is, or how it left the pipeline. -/
inductive Place where
  /-- It is in the latch in front of the stage. -/
  | latched (stage : Stage)
  | retired
  /-- Decode found no instruction in it. -/
  | dropped
  /-- It disappeared from the latch in front of the stage, in a cycle with these flushes. -/
  | discarded (stage : Stage) (flushes : FlushSet)
  deriving DecidableEq, Repr

/-- Whether the word is on its way or has taken effect. -/
def Place.isLive : Place → Bool
  | latched _ => true
  | retired => true
  | _ => false

/-- An accepted word and where it is. -/
structure Passage where
  word : IfId
  place : Place
  deriving DecidableEq, Repr

/-- Where a word goes from the latch in front of a stage that advances. -/
def IfId.onward (word : IfId) : Stage → Place
  | .fetch => .latched .decode
  | .decode => if word.inst.isUnrecognised then .dropped else .latched .execute
  | .execute => .latched .memory
  | .memory => .latched .writeback
  | .writeback => .retired

namespace Passage

/-- The passage after a cycle. A word that has left the pipeline stays where it is. -/
def next (interlock : Interlock) (g : Passage) : Passage :=
  match g.place with
  | .latched stage =>
      match interlock.fate stage with
      | .advance => { g with place := g.word.onward stage }
      | .hold => g
      | .discard => { g with place := .discarded stage interlock.flushes }
  | _ => g

/-- What is true of a word in its place. A dropped word sets no control line and belongs to no unit.
A trap discards from execute downwards, an interrupt from the memory stage downwards, and nothing
else discards anything. -/
def Justified (g : Passage) : Prop :=
  match g.place with
  | .latched stage => stage ≠ .fetch
  | .retired => True
  | .dropped => Control.decode g.word.inst = .bubble ∧ g.word.inst.slot? = none
  | .discarded stage flushes =>
      (flushes.toList = [.exception] ∧ stage ∈ [Stage.decode, .execute]) ∨
        (flushes.toList = [.interrupt] ∧ stage ∈ [Stage.decode, .execute, .memory])

/-- The passages of the word in the latch in front of a stage, if there is one. -/
def waiting (stage : Stage) (word : Option IfId) : List Passage :=
  word.toList.map ({ word := ·, place := .latched stage })

/-- The passages of retired instructions. -/
def departed (retired : List MemWb) : List Passage :=
  retired.map ({ word := ·.word, place := .retired })

/-- The passages that are still alive after a cycle. -/
def survivors (interlock : Interlock) (book : List Passage) : List Passage :=
  (book.map (next interlock)).filter (·.place.isLive)

end Passage

open Passage in
/-- The passages of the words in the latches, the oldest first. -/
def Latches.passages (l : Latches) : List Passage :=
  waiting .writeback (l.memWb.map (·.word)) ++ waiting .memory (l.exMem.map (·.word)) ++
    waiting .execute (l.idEx.map (·.word)) ++ waiting .decode l.ifId

/-! ## One passage -/

namespace Passage

variable {c : Interlock} {g : Passage}

/-- A word that advances has a place that it may have. -/
theorem justified_onward (word : IfId) (stage : Stage) :
    Justified { word, place := word.onward stage } := by
  unfold Justified
  cases stage with
  | decode =>
    cases empty : word.inst.isUnrecognised with
    | false =>
      simp only [IfId.onward, empty]
      exact nofun
    | true =>
      simp only [IfId.onward, empty]
      unfold Instruction.isUnrecognised at empty
      rw [Bool.and_eq_true, Option.isNone_iff_eq_none, beq_iff_eq] at empty
      exact empty.symm
  | writeback => trivial
  | _ => exact nofun

/-- A passage is that of one word. -/
theorem next_word (c : Interlock) (g : Passage) : (g.next c).word = g.word := by
  unfold next
  split
  · split <;> rfl
  · rfl

/-- A word that has retired or left stays where it is. -/
theorem next_of_settled (settled : ∀ stage, g.place ≠ .latched stage) : g.next c = g := by
  unfold next
  split
  · exact absurd ‹_› (settled _)
  · rfl

/-- A word does not come back. -/
theorem isLive_of_next (live : (g.next c).place.isLive = true) : g.place.isLive = true := by
  cases place : g.place with
  | latched stage => rfl
  | retired => rfl
  | _ =>
    rw [next_of_settled (by simp [place]), place] at live
    cases live

theorem survivors_append (c : Interlock) (book more : List Passage) :
    survivors c (book ++ more) = survivors c book ++ survivors c more := by
  simp [survivors]

/-- The words that have left have no part in what is alive later. -/
theorem survivors_filter (c : Interlock) (book : List Passage) :
    survivors c (book.filter (·.place.isLive)) = survivors c book := by
  unfold survivors
  induction book with
  | nil => rfl
  | cons g book ih =>
    cases alive : g.place.isLive with
    | true => simp [alive, ih, List.filter_cons]
    | false =>
      have gone : (g.next c).place.isLive = false := by
        rw [← Bool.not_eq_true]
        intro live
        rw [isLive_of_next live] at alive
        cases alive
      simp [alive, gone, ih]

theorem survivors_departed (c : Interlock) (retired : List MemWb) :
    survivors c (departed retired) = departed retired := by
  induction retired with
  | nil => rfl
  | cons w retired ih => exact congrArg (List.cons _) ih

/-- The passage of the word that stays in front of a stage. -/
def kept (c : Interlock) (stage : Stage) (word : Option IfId) : List Passage :=
  if c.fate stage = .hold then waiting stage word else []

/-- The passage of the word that a stage is done with, if it is alive. -/
def done (stage : Stage) (word : Option IfId) : List Passage :=
  (word.toList.map fun w => { word := w, place := w.onward stage }).filter (·.place.isLive)

/-- The passage of the word that leaves a stage alive. -/
def handed (c : Interlock) (stage : Stage) (word : Option IfId) : List Passage :=
  if c.fate stage = .advance then done stage word else []

/-- What is in front of a stage is handed on, or stays, or disappears. -/
theorem survivors_waiting (c : Interlock) (stage : Stage) (word : Option IfId) :
    survivors c (waiting stage word) = handed c stage word ++ kept c stage word := by
  unfold survivors handed kept
  cases word with
  | none => cases fate : c.fate stage <;> simp [waiting, done]
  | some w => cases fate : c.fate stage <;> simp [waiting, done, next, fate, Place.isLive]

theorem done_writeback (entry : Option MemWb) :
    done .writeback (entry.map (·.word)) = departed entry.toList := by
  cases entry <;> rfl

theorem done_memory (word : Option IfId) : done .memory word = waiting .writeback word := by
  cases word <;> rfl

theorem done_execute (word : Option IfId) : done .execute word = waiting .memory word := by
  cases word <;> rfl

/-- Decode hands on the words that are instructions. -/
theorem done_decode (word : Option IfId) :
    done .decode word = waiting .execute (word.filter fun w => !w.inst.isUnrecognised) := by
  cases word with
  | none => rfl
  | some w =>
    cases empty : w.inst.isUnrecognised <;>
      simp [done, waiting, IfId.onward, empty, Place.isLive, Option.filter_some]

/-- A latch holds what stays in front of its stage, or what the stage before hands on: a stage that
is held holds the stage before as well, so nothing is overwritten. -/
theorem waiting_nextEntry {α : Type} (word : α → IfId) {stage before : Stage}
    (feeder : stage.feeder? = some before) (young : before ≤ stage) {current incoming : Option α}
    {taken : Option IfId}
    (hands : c.fate before = .advance → waiting stage (incoming.map word) = done before taken) :
    waiting stage ((Latches.nextEntry c stage current incoming).map word) =
      kept c stage (current.map word) ++ handed c before taken := by
  unfold Latches.nextEntry kept handed
  by_cases hold : c.fate stage = .hold
  · rw [if_pos hold, if_pos hold, if_neg (c.fate_of_hold hold young), List.append_nil]
  · rw [if_neg hold, if_neg hold, feeder, List.nil_append]
    by_cases advance : c.fate before = .advance
    · simp only [if_pos advance]
      exact hands advance
    · simp only [if_neg advance]
      rfl

/-- The first latch holds what stays in front of decode, or the word that is accepted. -/
theorem waiting_accepted (c : Interlock) (current incoming : Option IfId) :
    waiting .decode (Latches.nextEntry c .decode current incoming) =
      kept c .decode current ++ waiting .decode (Latches.nextEntry c .decode none incoming) := by
  unfold Latches.nextEntry kept
  by_cases hold : c.fate .decode = .hold
  · simp only [if_pos hold]
    exact (List.append_nil _).symm
  · simp only [if_neg hold]
    rfl

end Passage

/-! ## The stages hand on what they took -/

namespace Core

variable {δ σ : Type} [MemoryPort δ] [Coprocessor σ] {p : Core} {dmem : δ} {bank : Bank σ}

theorem memoryWork_word (quiet : (p.memoryWork dmem).1.apply {} = {}) :
    (p.memoryWork dmem).1.latched?.map (·.word) = p.latches.exMem.map (·.word) := by
  cases entry : p.latches.exMem with
  | none =>
    rw [memoryWork_of_none entry]
    rfl
  | some x =>
    obtain ⟨w, done, becomes⟩ := memoryWork_done entry quiet
    rw [done]
    change some (MemWb.word w) = some x.word
    unfold MemWb.word ExMem.word
    rw [becomes.pc, becomes.inst]

theorem executeWork_word (quiet : (p.executeWork bank).1.apply {} = {}) :
    (p.executeWork bank).1.latched?.map (·.word) = p.latches.idEx.map (·.word) := by
  cases entry : p.latches.idEx with
  | none =>
    rw [(executeWork_of_none entry bank).1]
    rfl
  | some e =>
    obtain ⟨x, done, becomes⟩ := executeWork_of_quiet entry quiet
    rw [done]
    change some (ExMem.word x) = some e.word
    unfold ExMem.word IdEx.word
    rw [becomes.pc, becomes.inst]

end Core

/-- Decode hands on a word that is an instruction, or waits for its operands. -/
theorem decodeStage_word {forwarding : Bool} {ifId : Option IfId} {regs : RegisterFile}
    {ex mem : Producer}
    (straight : ((decodeStage {} forwarding ifId regs ex mem).apply {}).stallPoint = none) :
    (decodeStage {} forwarding ifId regs ex mem).latched?.map (·.word) =
      ifId.filter fun f => !f.inst.isUnrecognised := by
  cases ifId with
  | none => rfl
  | some f =>
    change (f.decode forwarding regs ex mem).latched?.map (·.word) = _
    rcases f.decode_cases forwarding regs ex mem with
      ⟨empty, dropped⟩ | ⟨reason, wait⟩ | ⟨recognised, e, hazards, operands, entry, -, issued⟩
    · rw [dropped]
      simp [empty, DecodeOutcome.latched?, Option.filter_some]
    · change ((f.decode forwarding regs ex mem).apply {}).stallPoint = none at straight
      rw [wait] at straight
      cases straight
    · rw [issued, entry]
      simp [recognised, DecodeOutcome.latched?, IfId.entry, IdEx.word, Option.filter_some]

/-- In a cycle that started from `p` with the interlock `asked`, a stage that advances hands on the
word that it took. -/
structure Cycle.HandsOn {ι δ σ : Type} (c : Cycle ι δ σ) (p : Core) (asked : Interlock) : Prop where
  retired : c.retired = if asked.fate .writeback = .advance then p.latches.memWb else none
  memory : asked.fate .memory = .advance →
    c.memory.latched?.map (·.word) = p.latches.exMem.map (·.word)
  execute : asked.fate .execute = .advance →
    c.execute.latched?.map (·.word) = p.latches.idEx.map (·.word)
  decode : asked.fate .decode = .advance →
    c.decode.latched?.map (·.word) = p.latches.ifId.filter fun f => !f.inst.isUnrecognised

/-- No stage drops its word unless it asks for a stall or a flush. -/
theorem Flow.handsOn {ι δ σ : Type} [MemoryPort ι] [MemoryPort δ] [Coprocessor σ] {p : Core}
    {imem : ι} {dmem : δ} {bank : Bank σ} {inputs : Inputs} {c : Cycle ι δ σ}
    (flow : Flow p imem dmem bank inputs c) : c.HandsOn p c.interlock := by
  cases flow with
  | interrupted stall =>
    rw [p.interlock_interrupted]
    cases stall <;> exact ⟨rfl, nofun, nofun, nofun⟩
  | held => exact ⟨rfl, nofun, nofun, nofun⟩
  | dataWaiting wait =>
    rw [p.interlock_dataWaiting wait]
    exact ⟨rfl, nofun, nofun, nofun⟩
  | coprocessorWaiting memory wait =>
    rw [p.interlock_coprocessorWaiting memory wait]
    exact ⟨rfl, fun _ => Core.memoryWork_word memory, nofun, nofun⟩
  | trapped memory raised =>
    rw [p.interlock_trapped memory raised]
    exact ⟨rfl, fun _ => Core.memoryWork_word memory, nofun, nofun⟩
  | operandWaiting memory execute wait =>
    rw [p.interlock_operandWaiting memory execute wait]
    exact ⟨rfl, fun _ => Core.memoryWork_word memory, fun _ => Core.executeWork_word execute,
      nofun⟩
  | redirected memory execute leave =>
    have straight := congrArg Interlock.stallPoint leave
    rw [p.interlock_redirected memory execute leave]
    exact ⟨rfl, fun _ => Core.memoryWork_word memory, fun _ => Core.executeWork_word execute,
      fun _ => decodeStage_word straight⟩
  | straight memory execute decode =>
    have straight := congrArg Interlock.stallPoint decode
    rw [p.interlock_straight memory execute decode]
    refine ⟨?_, fun _ => Core.memoryWork_word memory, fun _ => Core.executeWork_word execute,
      fun _ => decodeStage_word straight⟩
    cases (p.fetchWork imem).1 <;> rfl

/-! ## A cycle keeps the book -/

namespace Pipeline

open Passage

variable {ι δ σ : Type} [MemoryPort ι] [MemoryPort δ] [Coprocessor σ]

/-- What is alive of the words in the latches, with the word that the cycle accepts, is what the
cycle retires and what it leaves in the latches. -/
theorem tick_passages (p : Pipeline ι δ σ) (inputs : Inputs) :
    survivors (p.tick inputs).report.interlock p.core.latches.passages ++
        waiting .decode (p.accepted inputs) =
      departed (p.tick inputs).report.retired.toList ++
        (p.tick inputs).next.core.latches.passages := by
  have hands := (evaluate_flow p.core p.imem p.dmem p.bank inputs).handsOn
  unfold accepted Cycle.accepted
  change survivors (p.core.evaluate p.imem p.dmem p.bank inputs).interlock
      p.core.latches.passages ++ _ =
    departed (p.core.evaluate p.imem p.dmem p.bank inputs).retired.toList ++
      (p.core.latches.next (p.core.evaluate p.imem p.dmem p.bank inputs).interlock
        (p.core.evaluate p.imem p.dmem p.bank inputs).incoming).passages
  generalize p.core.evaluate p.imem p.dmem p.bank inputs = c at hands ⊢
  have retired : departed c.retired.toList =
      handed c.interlock .writeback (p.core.latches.memWb.map (·.word)) := by
    rw [hands.retired]
    unfold handed
    split
    · exact (done_writeback _).symm
    · rfl
  have memWb :
      waiting .writeback ((p.core.latches.next c.interlock c.incoming).memWb.map (·.word)) =
        kept c.interlock .writeback (p.core.latches.memWb.map (·.word)) ++
          handed c.interlock .memory (p.core.latches.exMem.map (·.word)) :=
    waiting_nextEntry _ rfl (by decide) fun advance =>
      (congrArg _ (hands.memory advance)).trans (done_memory _).symm
  have exMem : waiting .memory ((p.core.latches.next c.interlock c.incoming).exMem.map (·.word)) =
      kept c.interlock .memory (p.core.latches.exMem.map (·.word)) ++
        handed c.interlock .execute (p.core.latches.idEx.map (·.word)) :=
    waiting_nextEntry _ rfl (by decide) fun advance =>
      (congrArg _ (hands.execute advance)).trans (done_execute _).symm
  have idEx : waiting .execute ((p.core.latches.next c.interlock c.incoming).idEx.map (·.word)) =
      kept c.interlock .execute (p.core.latches.idEx.map (·.word)) ++
        handed c.interlock .decode p.core.latches.ifId :=
    waiting_nextEntry _ rfl (by decide) fun advance =>
      (congrArg _ (hands.decode advance)).trans (done_decode _).symm
  have ifId : waiting .decode (p.core.latches.next c.interlock c.incoming).ifId = _ :=
    waiting_accepted c.interlock p.core.latches.ifId c.incoming.ifId
  -- What a stage keeps and what the stage before it hands on meet in one latch.
  unfold Latches.passages
  rw [retired, memWb, exMem, idEx, ifId]
  simp only [survivors_append, survivors_waiting, List.append_assoc]

/-! ## Who is discarded -/

/-- What a cycle discards from a latch, it discards for a trap or an interrupt. -/
theorem tick_discards (p : Pipeline ι δ σ) (inputs : Inputs) {stage : Stage}
    (discards : (p.tick inputs).report.interlock.fate stage = .discard) (latch : stage ≠ .fetch) :
    ((p.tick inputs).report.interlock.flushes.toList = [.exception] ∧
        stage ∈ [Stage.decode, .execute]) ∨
      ((p.tick inputs).report.interlock.flushes.toList = [.interrupt] ∧
        stage ∈ [Stage.decode, .execute, .memory]) := by
  cases p.tick_turn inputs with
  | fetch _ interlock =>
    rw [interlock] at discards
    cases discards
  | @stall reason point _ interlock =>
    rw [interlock, Interlock.fate_stall] at discards
    split at discards <;> cases discards
  | branch _ _ _ _ interlock =>
    rw [interlock] at discards
    cases stage with
    | fetch => exact absurd rfl latch
    | _ => cases discards
  | exception interlock =>
    rw [interlock] at discards ⊢
    refine .inl ⟨rfl, ?_⟩
    cases stage with
    | fetch => exact absurd rfl latch
    | decode => decide
    | execute => decide
    | _ => cases discards
  | @interrupt stall _ interlock =>
    rw [interlock] at discards ⊢
    refine .inr ⟨by cases stall <;> rfl, ?_⟩
    cases stage with
    | fetch => exact absurd rfl latch
    | writeback => cases stall <;> cases discards
    | _ => decide

/-- A branch discards nothing from a latch: every latch moves on. -/
theorem tick_branch (p : Pipeline ι δ σ) (inputs : Inputs)
    (branch : (p.tick inputs).report.interlock.flushes.toList = [.branchMispredict]) {stage : Stage}
    (latch : stage ≠ .fetch) : (p.tick inputs).report.interlock.fate stage = .advance := by
  cases p.tick_turn inputs with
  | fetch _ interlock =>
    rw [interlock] at branch
    cases branch
  | stall _ interlock =>
    rw [interlock] at branch
    cases branch
  | branch _ _ _ _ interlock =>
    rw [interlock]
    cases stage with
    | fetch => exact absurd rfl latch
    | _ => rfl
  | exception interlock =>
    rw [interlock] at branch
    cases branch
  | @interrupt stall _ interlock =>
    rw [interlock] at branch
    cases stall <;> cases branch

/-- A word that can be where it is can be where the cycle brings it. -/
theorem tick_justified (p : Pipeline ι δ σ) (inputs : Inputs) {g : Passage}
    (justified : g.Justified) : (g.next (p.tick inputs).report.interlock).Justified := by
  obtain ⟨word, place⟩ := g
  cases place with
  | latched stage =>
    unfold next
    cases fate : (p.tick inputs).report.interlock.fate stage with
    | advance =>
      simp only [fate]
      exact justified_onward word stage
    | hold =>
      simp only [fate]
      exact justified
    | discard =>
      simp only [fate]
      exact p.tick_discards inputs fate justified
  | _ => exact justified

/-- What writeback holds retires in the next cycle in which the environment does not stall, and
stays until then. -/
theorem tick_retired (p : Pipeline ι δ σ) (inputs : Inputs) :
    (inputs.externalStall = false → (p.tick inputs).report.retired = p.core.latches.memWb) ∧
      (inputs.externalStall = true → (p.tick inputs).report.retired = none ∧
        (p.tick inputs).next.core.latches.memWb = p.core.latches.memWb) := by
  have retired : (p.tick inputs).report.retired =
      if inputs.externalStall then none else p.core.latches.memWb :=
    retire_requested p.core inputs p.core.latches.memWb
  refine ⟨fun free => by rw [retired, free]; rfl, fun stall => ⟨by rw [retired, stall]; rfl, ?_⟩⟩
  obtain ⟨c, flow, edge⟩ := p.tick_flow inputs
  rw [edge]
  change (p.core.latches.next c.interlock c.incoming).memWb = _
  cases flow with
  | interrupted =>
    rw [(p.core.leavesAt_interrupted p.imem p.dmem p.bank _).latches_eq]
    exact if_pos stall
  | held => rw [(p.core.leavesAt_held p.imem p.dmem p.bank).latches_eq]
  | _ => cases stall

/-! ## Every run keeps the book -/

/-- The book after a schedule, which was `book` before it. -/
def follow (p : Pipeline ι δ σ) (book : List Passage) : Schedule → List Passage
  | [] => book
  | inputs :: rest =>
      let t := p.tick inputs
      t.next.follow (book.map (next t.report.interlock) ++ waiting .decode (p.accepted inputs)) rest

/-- The book of a run: one passage for each word that is fetched, in order. -/
def passages (p : Pipeline ι δ σ) (schedule : Schedule) : List Passage :=
  p.follow [] schedule

theorem follow_append (p : Pipeline ι δ σ) (book : List Passage) (schedule : Schedule)
    (inputs : Inputs) :
    p.follow book (schedule ++ [inputs]) =
      (p.follow book schedule).map (next ((p.run schedule).tick inputs).report.interlock) ++
        waiting .decode ((p.run schedule).accepted inputs) := by
  induction schedule generalizing p book with
  | nil => rfl
  | cons first rest ih => exact ih (p.tick first).next _

/-- There is one passage for each word that is fetched. -/
theorem follow_words (p : Pipeline ι δ σ) (book : List Passage) (schedule : Schedule) :
    (p.follow book schedule).map (·.word) = book.map (·.word) ++ p.fetches schedule := by
  induction schedule generalizing p book with
  | nil => exact (List.append_nil _).symm
  | cons inputs rest ih =>
    have kept : (book.map (next (p.tick inputs).report.interlock)).map (·.word) =
        book.map (·.word) := by
      rw [List.map_map]
      exact List.map_congr_left fun g _ => next_word _ g
    have entered : (waiting .decode (p.accepted inputs)).map (·.word) =
        (p.accepted inputs).toList := by
      cases p.accepted inputs <;> rfl
    rw [fetches_cons, ← List.append_assoc, ← entered, ← kept, ← List.map_append]
    exact ih (p.tick inputs).next _

/-- What is alive is what has retired and what is in the latches. -/
theorem follow_live (p : Pipeline ι δ σ) (book : List Passage) (schedule : Schedule)
    (earlier : List MemWb)
    (live : book.filter (·.place.isLive) = departed earlier ++ p.core.latches.passages) :
    (p.follow book schedule).filter (·.place.isLive) =
      departed (earlier ++ p.retired schedule) ++ (p.run schedule).core.latches.passages := by
  induction schedule generalizing p book earlier with
  | nil =>
    rw [show earlier ++ p.retired [] = earlier from List.append_nil _]
    exact live
  | cons inputs rest ih =>
    rw [retired_cons, ← List.append_assoc]
    refine ih (p.tick inputs).next _ _ ?_
    have entered : (waiting .decode (p.accepted inputs)).filter (·.place.isLive) =
        waiting .decode (p.accepted inputs) := by
      cases p.accepted inputs <;> rfl
    calc (book.map (next (p.tick inputs).report.interlock) ++
          waiting .decode (p.accepted inputs)).filter (·.place.isLive)
      _ = survivors (p.tick inputs).report.interlock (book.filter (·.place.isLive)) ++
          waiting .decode (p.accepted inputs) := by
        rw [List.filter_append, entered, survivors_filter]
        rfl
      _ = departed earlier ++ (departed (p.tick inputs).report.retired.toList ++
          (p.tick inputs).next.core.latches.passages) := by
        rw [live, survivors_append, survivors_departed, List.append_assoc, p.tick_passages]
      _ = _ := by
        unfold departed
        rw [List.map_append, List.append_assoc]

theorem follow_justified (p : Pipeline ι δ σ) (book : List Passage) (schedule : Schedule)
    (justified : ∀ g ∈ book, g.Justified) : ∀ g ∈ p.follow book schedule, g.Justified := by
  induction schedule generalizing p book with
  | nil => exact justified
  | cons inputs rest ih =>
    refine ih (p.tick inputs).next _ fun g member => ?_
    rcases List.mem_append.mp member with old | fresh
    · obtain ⟨g, earlier, rfl⟩ := List.mem_map.mp old
      exact p.tick_justified inputs (justified g earlier)
    · obtain ⟨word, _, rfl⟩ := List.mem_map.mp fresh
      exact nofun

/-- A word is accepted when the port answers the read of the program counter. -/
theorem accepted_answer (p : Pipeline ι δ σ) (inputs : Inputs) {f : IfId}
    (accepted : p.accepted inputs = some f) :
    f.pc = p.core.pc ∧
      (MemoryPort.access p.imem (.read p.core.pc)).1 = { ready := true, data := f.inst } := by
  cases p.tick_turn inputs with
  | fetch ready _ _ _ taken =>
    rw [taken] at accepted
    cases accepted
    exact ⟨rfl, ready⟩
  | stall _ _ _ _ taken => cases taken.symm.trans accepted
  | branch _ _ _ _ _ _ _ taken => cases taken.symm.trans accepted
  | exception _ _ _ taken => cases taken.symm.trans accepted
  | interrupt _ _ _ taken => cases taken.symm.trans accepted

/-- The book of a run accounts for the words that fetch has handed on. -/
structure Accounted (p : Pipeline ι δ σ) (schedule : Schedule) : Prop where
  /-- There is one passage for each of them, in the order of fetching. -/
  words : (p.passages schedule).map (·.word) = p.fetches schedule
  /-- The passages that are alive are those of the retired instructions, in the order of retiring,
  and of the instructions in the latches, the oldest first. -/
  live : (p.passages schedule).filter (·.place.isLive) =
    departed (p.retired schedule) ++ (p.run schedule).core.latches.passages
  /-- All others have left for a reason. -/
  justified : ∀ g ∈ p.passages schedule, g.Justified

/-- How a cycle that starts from `p` treats the words on their way. -/
structure Treats (p : Pipeline ι δ σ) (inputs : Inputs) : Prop where
  /-- The word that enters is the one that the instruction port answers with. -/
  accepted : ∀ f, p.accepted inputs = some f → f.pc = p.core.pc ∧
    (MemoryPort.access p.imem (.read p.core.pc)).1 = { ready := true, data := f.inst }
  /-- A branch lets every latch move on. -/
  branch : (p.tick inputs).report.interlock.flushes.toList = [.branchMispredict] →
    ∀ stage, stage ≠ .fetch → (p.tick inputs).report.interlock.fate stage = .advance
  /-- What is in the last latch retires, unless the environment stalls. -/
  retires : inputs.externalStall = false →
    (p.tick inputs).report.retired = p.core.latches.memWb
  stays : inputs.externalStall = true → (p.tick inputs).report.retired = none ∧
    (p.tick inputs).next.core.latches.memWb = p.core.latches.memWb

/-- No instruction is lost, doubled or reordered. Whatever the ports, the coprocessors and the
environment do after reset, each accepted word has one place at every later time: it is in one
latch, or it has retired once, or decode has dropped it because it is no instruction, or a trap or
an interrupt has discarded it. -/
theorem fetched_once (config : Configuration) (imem : ι) (dmem : δ) (bank : Bank σ)
    (schedule : Schedule) :
    let p := create config imem dmem bank
    let now := p.run schedule
    p.Accounted schedule ∧ ∀ inputs,
      p.passages (schedule ++ [inputs]) =
          (p.passages schedule).map (next (now.tick inputs).report.interlock) ++
            waiting .decode (now.accepted inputs) ∧
        now.Treats inputs := by
  intro p now
  refine ⟨⟨follow_words p [] schedule, ?_, ?_⟩, fun inputs => ⟨?_, ?_⟩⟩
  · exact follow_live p [] schedule [] rfl
  · exact follow_justified p [] schedule nofun
  · exact follow_append p [] schedule inputs
  · exact
      { accepted := fun _ => now.accepted_answer inputs
        branch := fun branch _ => now.tick_branch inputs branch
        retires := (now.tick_retired inputs).1
        stays := (now.tick_retired inputs).2 }

/-- Increments from every address, and an interrupt in the sixth cycle. -/
example :
    let memory := (Memory.create 4 1).write 0 0x00108093 0xF
    let p := create {} memory memory (Bank.reference (.const 1))
    (p.passages [{}, {}, {}, {}, {}, { interrupt := true }, {}, {}]).map (·.place) =
      [.retired, .retired, .discarded .memory { interrupt := true },
        .discarded .execute { interrupt := true }, .discarded .decode { interrupt := true },
        .latched .execute, .latched .decode] := by
  decide +kernel

end Pipeline

end FiveStage
