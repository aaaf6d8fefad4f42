import FiveStage.Coprocessor.Recorded
import FiveStage.Proofs.Coprocessor.ReferenceBank
import FiveStage.Proofs.Coprocessor.Stimulus

/-!
# Presentations to a fixed-latency unit

A unit with a fixed latency is offered operations, is clocked without an offer, and is told of
retired instructions and of traps, in any order. What it has to count is read off the record of all
that: how often an operation was presented since an offer was last answered, another operation was
offered, or a trap was taken. The one register of the unit holds this number, for every operation at
once (`Counted`), so that each offer is answered in exactly the cycle that completes the latency.
-/

namespace FiveStage

namespace Stimulus

/-- Whether a unit with a fixed latency takes no notice: nothing is offered in the cycle, or an
instruction retires. -/
def isPause : Stimulus → Bool
  | clocked none => true
  | retired => true
  | _ => false

end Stimulus

namespace UnitEvent

/-- Whether an event lets the earlier presentations of an operation count. A trap does not, nor does
an offer that is answered or that is of another operation. -/
def keeps (req : Offload) : UnitEvent → Bool
  | cycle (some offload) response => offload = req && !response.ready
  | trapTaken _ => false
  | _ => true

/-- An offer and its answer. -/
def answer? : UnitEvent → Option (Offload × CoprocessorResponse)
  | cycle (some offload) response => some (offload, response)
  | _ => none

end UnitEvent

namespace RecordedUnit

variable {σ : Type}

/-- How often an operation was presented since the unit was new, an offer was answered, another
operation was offered or a trap was taken. -/
def presented (u : RecordedUnit σ) (req : Offload) : Nat :=
  (u.record.takeWhile (·.keeps req)).countP (·.offload?.isSome)

/-- The offers so far with their answers, in order. -/
def answers (u : RecordedUnit σ) : List (Offload × CoprocessorResponse) :=
  u.history.filterMap (·.answer?)

variable [Coprocessor σ] (u : RecordedUnit σ) (req : Offload)

@[simp]
theorem presented_idle : (Coprocessor.respond u none).2.presented req = u.presented req := by
  simp [presented, Coprocessor.respond, note, UnitEvent.keeps, UnitEvent.offload?]

@[simp]
theorem presented_retired : (Coprocessor.retired u).presented req = u.presented req := by
  simp [presented, Coprocessor.retired, note, UnitEvent.keeps, UnitEvent.offload?]

@[simp]
theorem presented_trapTaken (trap : Trap) : (Coprocessor.trapTaken u trap).presented req = 0 := by
  simp [presented, Coprocessor.trapTaken, note, UnitEvent.keeps]

/-- An offer that is not answered counts for its own operation and ends the count of all others. -/
theorem presented_offered (offload : Offload) :
    (Coprocessor.respond u (some offload)).2.presented req =
      if offload = req ∧ (Coprocessor.respond u (some offload)).1.ready = false then
        u.presented req + 1
      else 0 := by
  have record : (Coprocessor.respond u (some offload)).2.record =
      .cycle (some offload) (Coprocessor.respond u (some offload)).1 :: u.record := rfl
  unfold presented
  rw [record]
  by_cases same : offload = req
  · subst same
    cases ready : (Coprocessor.respond u (some offload)).1.ready <;>
      simp [ready, UnitEvent.keeps, UnitEvent.offload?]
  · simp [same, UnitEvent.keeps]

end RecordedUnit

/-! ## The count of a unit -/

namespace FixedLatencyUnit

/-- An offer is answered in the last cycle of the latency, and is in flight until then. -/
theorem respond_some (u : FixedLatencyUnit) (req : Offload) :
    u.respond (some req) =
      if u.presentations req < u.latency then
        ({}, { u with inFlight := some { offload := req, elapsed := u.presentations req } })
      else (completion u.operation req, { u with inFlight := none }) := rfl

@[simp]
theorem latency_respond (u : FixedLatencyUnit) (offload : Option Offload) :
    (u.respond offload).2.latency = u.latency := by
  cases offload with
  | none => rfl
  | some req =>
    rw [respond_some]
    split <;> rfl

/-- A complete operation is answered with what it computes, or with an exception. -/
theorem completion_eq (operation : Operation) (req : Offload) :
    completion operation req =
      { ready := true, data := (operation req).getD 0, exception := (operation req).isNone } := by
  unfold completion
  cases operation req <;> rfl

end FixedLatencyUnit

namespace RecordedUnit

/-- The register of the unit agrees with its record: in flight is the operation that was presented
and not answered, if there is one, and its cycles are its presentations. -/
structure Counted (u : RecordedUnit FixedLatencyUnit) (latency : Nat) (operation : Operation) :
    Prop where
  latency_eq : u.unit.latency = latency
  operation_eq : u.unit.operation = operation
  inFlight_iff : ∀ f, u.unit.inFlight = some f ↔ 1 ≤ f.elapsed ∧ f.elapsed = u.presented f.offload
  presented_lt : ∀ req, u.presented req < latency

namespace Counted

variable {u u' : RecordedUnit FixedLatencyUnit} {latency : Nat} {operation : Operation}

theorem create (name : String) (positive : 1 ≤ latency) :
    Counted { unit := .create name latency operation } latency operation where
  latency_eq := Nat.max_eq_left positive
  operation_eq := rfl
  inFlight_iff f := by
    simp [FixedLatencyUnit.create, presented]
    omega
  presented_lt _ := positive

variable (h : u.Counted latency operation)
include h

/-- A pause changes neither the register nor the count. -/
theorem of_pause (unit : u'.unit = u.unit) (presented : ∀ req, u'.presented req = u.presented req) :
    u'.Counted latency operation := by
  refine ⟨?_, ?_, fun f => ?_, fun req => ?_⟩
  · rw [unit, h.latency_eq]
  · rw [unit, h.operation_eq]
  · rw [unit, presented, h.inFlight_iff]
  · rw [presented]
    exact h.presented_lt req

/-- The unit counts the offer that it is shown as one presentation more. -/
theorem presentations_eq (req : Offload) : u.unit.presentations req = u.presented req + 1 := by
  -- An operation with a presentation on record is the one in flight.
  have inFlight (positive : 1 ≤ u.presented req) :
      u.unit.inFlight = some ⟨req, u.presented req⟩ :=
    (h.inFlight_iff ⟨req, u.presented req⟩).mpr ⟨positive, rfl⟩
  unfold FixedLatencyUnit.presentations
  by_cases positive : 1 ≤ u.presented req
  · simp [inFlight positive]
  · have unseen : u.presented req = 0 := by omega
    cases started : u.unit.inFlight with
    | none => simp [unseen]
    | some f =>
      obtain ⟨elapsed_pos, elapsed_eq⟩ := (h.inFlight_iff f).mp started
      have other : f.offload ≠ req := by
        intro same
        rw [same] at elapsed_eq
        omega
      simp [other, unseen]

theorem respond_early {req : Offload} (early : u.presented req + 1 < latency) :
    u.unit.respond (some req) =
      ({}, { u.unit with inFlight := some ⟨req, u.presented req + 1⟩ }) := by
  rw [FixedLatencyUnit.respond_some, h.presentations_eq]
  exact if_pos (h.latency_eq ▸ early)

theorem respond_late {req : Offload} (late : latency ≤ u.presented req + 1) :
    u.unit.respond (some req) =
      ({ ready := true, data := (operation req).getD 0, exception := (operation req).isNone },
        { u.unit with inFlight := none }) := by
  rw [FixedLatencyUnit.respond_some, h.presentations_eq, ← h.operation_eq,
    ← FixedLatencyUnit.completion_eq]
  exact if_neg (h.latency_eq ▸ Nat.not_lt.mpr late)

theorem ready_iff (req : Offload) :
    (u.unit.respond (some req)).1.ready = true ↔ u.presented req + 1 = latency := by
  have bounded := h.presented_lt req
  by_cases early : u.presented req + 1 < latency
  · rw [h.respond_early early]
    simp
    omega
  · rw [h.respond_late (Nat.not_lt.mp early)]
    simp
    omega

theorem offered (req : Offload) :
    (Coprocessor.respond u (some req)).2.Counted latency operation := by
  have bounded := h.presented_lt req
  have presented := u.presented_offered
  refine ⟨(u.unit.latency_respond _).trans h.latency_eq,
    (u.unit.operation_respond _).trans h.operation_eq, ?_, ?_⟩
  · -- The register holds the offer if it is early, so no other operation may count from here on.
    rintro ⟨offload, elapsed⟩
    rw [presented]
    change (u.unit.respond (some req)).2.inFlight = _ ↔
      _ ∧ _ = if req = offload ∧ (u.unit.respond (some req)).1.ready = false then _ else _
    by_cases early : u.presented req + 1 < latency
    · rw [h.respond_early early]
      by_cases same : req = offload
      · subst same
        simp
        omega
      · simp [same]
        omega
    · rw [h.respond_late (Nat.not_lt.mp early)]
      simp
      omega
  · intro other
    have otherBounded := h.presented_lt other
    rw [presented]
    change (if req = other ∧ (u.unit.respond (some req)).1.ready = false then _ else _) < _
    by_cases early : u.presented req + 1 < latency
    · rw [h.respond_early early]
      by_cases same : req = other
      · subst same
        simpa using early
      · simp [same]
        omega
    · rw [h.respond_late (Nat.not_lt.mp early)]
      simp
      omega

/-- Whatever happens to the unit, its register goes on agreeing with its record. -/
theorem step (stimulus : Stimulus) : (Coprocessor.step u stimulus).Counted latency operation := by
  cases stimulus with
  | clocked offload =>
    cases offload with
    | none => exact h.of_pause rfl (by simp [Coprocessor.step])
    | some req => exact h.offered req
  | retired => exact h.of_pause rfl (by simp [Coprocessor.step])
  | trapTaken trap =>
    refine ⟨h.latency_eq, h.operation_eq, fun f => ?_, fun req => ?_⟩
    · simp [Coprocessor.step, Coprocessor.trapTaken, note, FixedLatencyUnit.trapTaken, presented,
        UnitEvent.keeps]
      omega
    · have bounded := h.presented_lt req
      simp [Coprocessor.step]
      omega

theorem after (history : List Stimulus) :
    (Coprocessor.after u history).Counted latency operation := by
  induction history generalizing u with
  | nil => exact h
  | cons stimulus rest ih => exact ih (h.step stimulus)

end Counted

/-! ## Pauses -/

section Pauses

variable {u u' : RecordedUnit FixedLatencyUnit}

/-- What a history adds to the answers depends on the unit alone. -/
theorem answers_step (u : RecordedUnit FixedLatencyUnit) (stimulus : Stimulus) :
    (Coprocessor.step u stimulus).answers =
      u.answers ++
        match stimulus with
        | .clocked (some req) => [(req, (u.unit.respond (some req)).1)]
        | _ => [] := by
  unfold answers
  cases stimulus with
  | clocked offload =>
    rw [Coprocessor.step, history_respond, List.filterMap_append]
    cases offload <;> rfl
  | retired =>
    rw [Coprocessor.step, history_retired, List.filterMap_append]
    rfl
  | trapTaken trap =>
    rw [Coprocessor.step, history_trapTaken, List.filterMap_append]
    rfl

/-- A unit that misses all pauses gives the same answers and ends in the same state. -/
theorem after_pauses (unit : u.unit = u'.unit) (answers : u.answers = u'.answers)
    (history : List Stimulus) :
    (Coprocessor.after u history).unit =
        (Coprocessor.after u' (history.filter (!·.isPause))).unit ∧
      (Coprocessor.after u history).answers =
        (Coprocessor.after u' (history.filter (!·.isPause))).answers := by
  induction history generalizing u u' with
  | nil => exact ⟨unit, answers⟩
  | cons stimulus rest ih =>
    have stepped := u.answers_step stimulus
    have stepped' := u'.answers_step stimulus
    cases stimulus with
    | clocked offload =>
      cases offload with
      | none => exact ih unit (by rw [stepped, List.append_nil, answers])
      | some req =>
        refine ih ?_ (by rw [stepped, stepped', unit, answers])
        exact congrArg (fun unit => (FixedLatencyUnit.respond unit (some req)).2) unit
    | retired => exact ih unit (by rw [stepped, List.append_nil, answers])
    | trapTaken trap =>
      refine ih ?_ (by rw [stepped, stepped', answers])
      exact congrArg FixedLatencyUnit.trapTaken unit

end Pauses

/-- How a unit of the given latency goes on from its record. An offer is answered if it completes
the latency, then with the result of its operation; the unit is busy while presentations of an
operation count, and answers a cycle without an offer when it is not. -/
structure OnTime (u : RecordedUnit FixedLatencyUnit) (latency : Nat) (operation : Operation) :
    Prop where
  ready : ∀ req,
    (Coprocessor.respond u (some req)).1.ready = true ↔ u.presented req + 1 = latency
  complete : ∀ req, (Coprocessor.respond u (some req)).1.ready = true →
    (Coprocessor.respond u (some req)).1.data = (operation req).getD 0 ∧
      (Coprocessor.respond u (some req)).1.exception = (operation req).isNone
  waiting : ∀ req, (Coprocessor.respond u (some req)).1.ready = false →
    (Coprocessor.respond u (some req)).1 = {}
  busy : u.unit.isBusy = true ↔ ∃ req, 1 ≤ u.presented req ∧ u.presented req < latency
  idle : (Coprocessor.respond u none).1.ready = true ↔ u.unit.isBusy = false
  elapsed : ∀ f, u.unit.inFlight = some f → f.elapsed = u.presented f.offload ∧ f.elapsed < latency

theorem Counted.onTime {u : RecordedUnit FixedLatencyUnit} {latency : Nat} {operation : Operation}
    (h : u.Counted latency operation) : u.OnTime latency operation where
  ready := h.ready_iff
  complete req ready := by
    have whole := (h.ready_iff req).mp ready
    change (u.unit.respond (some req)).1.data = _ ∧ (u.unit.respond (some req)).1.exception = _
    rw [h.respond_late (Nat.le_of_eq whole.symm)]
    exact ⟨rfl, rfl⟩
  waiting req unready := by
    have bounded := h.presented_lt req
    have incomplete : ¬ u.presented req + 1 = latency := by
      rw [← h.ready_iff]
      exact Bool.eq_false_iff.mp unready
    change (u.unit.respond (some req)).1 = {}
    rw [h.respond_early (by omega)]
  busy := by
    unfold FixedLatencyUnit.isBusy
    rw [Option.isSome_iff_exists]
    constructor
    · rintro ⟨f, started⟩
      obtain ⟨positive, elapsed⟩ := (h.inFlight_iff f).mp started
      exact ⟨f.offload, elapsed ▸ positive, h.presented_lt f.offload⟩
    · rintro ⟨req, positive, -⟩
      exact ⟨⟨req, u.presented req⟩, (h.inFlight_iff _).mpr ⟨positive, rfl⟩⟩
  idle := by
    change (!u.unit.isBusy) = true ↔ _
    simp
  elapsed f started := by
    obtain ⟨-, elapsed⟩ := (h.inFlight_iff f).mp started
    exact ⟨elapsed, elapsed ▸ h.presented_lt f.offload⟩

end RecordedUnit

namespace FixedLatencyUnit

/-- A new unit of any latency, after anything that can happen to it, answers an offer exactly if
that is the last presentation of its latency, counted since the unit was new, an offer was answered,
another operation was offered or a trap was taken. Cycles without an offer and retired instructions
in between make no difference, neither to the answers nor to the state, and the cycles of what is in
flight can be counted one further in a word of 32 bits. -/
theorem answers_onTime (name : String) {latency : Nat} (positive : 1 ≤ latency)
    (bounded : latency ≤ 0xFFFFFFFF) (operation : Operation) (history : List Stimulus) :
    let fresh : RecordedUnit FixedLatencyUnit := { unit := create name latency operation }
    let now := Coprocessor.after fresh history
    let hurried := Coprocessor.after fresh (history.filter (!·.isPause))
    now.OnTime latency operation ∧ (now.unit = hurried.unit ∧ now.answers = hurried.answers) ∧
      ∀ f, now.unit.inFlight = some f → f.elapsed + 1 ≤ 0xFFFFFFFF := by
  intro fresh now hurried
  have counted : now.Counted latency operation :=
    (RecordedUnit.Counted.create name positive).after history
  refine ⟨counted.onTime, RecordedUnit.after_pauses rfl rfl history, ?_⟩
  intro f started
  obtain ⟨-, early⟩ := counted.onTime.elapsed f started
  omega

/-- An operation that a trap has cut off starts anew: with a latency of three it is answered when it
is presented for the third time after the trap, though there is a pause before. -/
theorem answers_onTime_restarted :
    let req : Offload := { instruction := 0x0000000B, a := 5, b := 0 }
    let history : List Stimulus :=
      [.clocked (some req), .clocked (some req),
        .trapTaken { cause := .externalInterrupt, pc := 0 }, .clocked (some req), .clocked none,
        .retired, .clocked (some req)]
    let now := Coprocessor.after
      ({ unit := create "CP2" 3 fun req => some req.a } : RecordedUnit FixedLatencyUnit) history
    1 ≤ 3 ∧ 3 ≤ 0xFFFFFFFF ∧ now.presented req = 2 ∧
      (Coprocessor.respond now (some req)).1.ready = true := by
  intro req history now
  have onTime := (answers_onTime "CP2" (by decide : 1 ≤ 3) (by decide) (fun req => some req.a)
    history).1
  exact ⟨by decide, by decide, by decide, (onTime.ready req).mpr (by decide)⟩

end FixedLatencyUnit

end FiveStage
