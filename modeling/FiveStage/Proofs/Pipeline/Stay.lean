import FiveStage.Proofs.Pipeline.Handshake

/-!
# Stays

An instruction stays in a stage from the cycle after one that did not hold the stage up to the first
cycle that does not hold it. This module says what passes on a channel during such a stay, if each
cycle that holds the stage adds to a count of the state what passes in it.
-/

namespace FiveStage

variable {ι δ σ α β : Type} [MemoryPort ι] [MemoryPort δ] [Coprocessor σ]

/-- What is in `stage` after the schedule `before` has entered it then, and is held there for the
cycles of `during`. -/
structure Pipeline.Stays (p : Pipeline ι δ σ) (stage : Stage) (before during : Schedule) :
    Prop where
  enters : ∀ earlier inputs, before = earlier ++ [inputs] →
    ((p.run earlier).tick inputs).report.interlock.fate stage ≠ .hold
  held : ∀ r ∈ (p.run before).reports during, r.interlock.fate stage = .hold

namespace Pipeline

/-- What every cycle of a run keeps, the run keeps. -/
theorem run_invariant (inv : Pipeline ι δ σ → Prop) {p : Pipeline ι δ σ} (start : inv p)
    (schedule : Schedule)
    (step : ∀ earlier inputs, earlier ++ [inputs] <+: schedule → inv (p.run earlier) →
      inv ((p.run earlier).tick inputs).next) : inv (p.run schedule) := by
  induction schedule generalizing p with
  | nil => exact start
  | cons inputs rest ih =>
    have next := step [] inputs (List.prefix_append [inputs] rest) start
    exact ih next fun earlier later begins =>
      step (inputs :: earlier) later (List.cons_prefix_cons.mpr ⟨rfl, begins⟩)

/-- A stay that begins with the last cycle of a schedule. -/
theorem Stays.of_last {p : Pipeline ι δ σ} {stage : Stage} {before during : Schedule}
    (earlier : Schedule) (inputs : Inputs) (split : before = earlier ++ [inputs])
    (enters : ((p.run earlier).tick inputs).report.interlock.fate stage ≠ .hold)
    (held : ∀ r ∈ (p.run before).reports during, r.interlock.fate stage = .hold) :
    p.Stays stage before during := by
  refine ⟨fun earlier' inputs' split' => ?_, held⟩
  obtain ⟨rfl, rfl⟩ := List.append_singleton_inj.mp (split.symm.trans split')
  exact enters

/-- A stay that begins at the start. -/
theorem Stays.of_nil {p : Pipeline ι δ σ} {stage : Stage} {during : Schedule}
    (held : ∀ r ∈ p.reports during, r.interlock.fate stage = .hold) : p.Stays stage [] during where
  enters earlier _ split := by cases earlier <;> cases split
  held := held

/-- What is in a stage at the end of a schedule entered it then, or earlier and was held since. -/
theorem exists_stays (p : Pipeline ι δ σ) (stage : Stage) (schedule : Schedule) :
    ∃ before during, schedule = before ++ during ∧ p.Stays stage before during := by
  induction schedule generalizing p with
  | nil => exact ⟨[], [], rfl, .of_nil (List.forall_mem_nil _)⟩
  | cons inputs rest ih =>
    obtain ⟨before, during, rfl, stay⟩ := ih (p.tick inputs).next
    cases before with
    | nil =>
      by_cases hold : (p.tick inputs).report.interlock.fate stage = .hold
      · have held : ∀ r ∈ p.reports (inputs :: during), r.interlock.fate stage = .hold := by
          rw [p.reports_cons]
          exact List.forall_mem_cons.mpr ⟨hold, stay.held⟩
        exact ⟨[], inputs :: during, rfl, .of_nil held⟩
      · have entered : p.Stays stage [inputs] during := .of_last [] inputs rfl hold stay.held
        exact ⟨[inputs], during, rfl, entered⟩
    | cons first more =>
      refine ⟨inputs :: first :: more, during, rfl, fun earlier last split => ?_, stay.held⟩
      cases earlier with
      | nil => cases split
      | cons head earlier =>
        cases (List.cons.inj split).1
        exact stay.enters earlier last (List.cons.inj split).2

/-- What holds at the start, and after each cycle that does not hold the stage, holds when an
instruction enters it. -/
theorem Stays.entered {p : Pipeline ι δ σ} {stage : Stage} {before during : Schedule}
    (stay : p.Stays stage before during) (fresh : Pipeline ι δ σ → Prop) (start : fresh p)
    (exits : ∀ earlier inputs, before = earlier ++ [inputs] →
      ((p.run earlier).tick inputs).report.interlock.fate stage ≠ .hold →
        fresh ((p.run earlier).tick inputs).next) :
    fresh (p.run before) := by
  rcases before.eq_nil_or_concat with rfl | ⟨earlier, inputs, rfl⟩
  · exact start
  · have last : earlier.concat inputs = earlier ++ [inputs] := List.concat_eq_append
    rw [last, p.run_append]
    exact exits earlier inputs last (stay.enters earlier inputs last)

end Pipeline

namespace Channel

theorem along_append (c : Channel ι δ σ α β) (p : Pipeline ι δ σ) (schedule more : Schedule) :
    c.along p (schedule ++ more) = c.along p schedule ++ c.along (p.run schedule) more := by
  induction schedule generalizing p with
  | nil => rfl
  | cons inputs rest ih =>
    change c.traffic p inputs ++ c.along (p.tick inputs).next (rest ++ more) = _
    rw [ih, ← List.append_assoc]
    rfl

theorem along_singleton (c : Channel ι δ σ α β) (p : Pipeline ι δ σ) (inputs : Inputs) :
    c.along p [inputs] = c.traffic p inputs :=
  List.append_nil _

/-- If each cycle that holds the stage keeps what stands in the state and counts what passes in it,
then so does a run of such cycles. -/
theorem along_held (c : Channel ι δ σ α β) {stage : Stage} (stands : Pipeline ι δ σ → Prop)
    (passes : α → Prop) (count : Pipeline ι δ σ → Nat)
    (step : ∀ p inputs, stands p → (p.tick inputs).report.interlock.fate stage = .hold →
      stands (p.tick inputs).next ∧ (∀ a ∈ c.traffic p inputs, passes a) ∧
        count (p.tick inputs).next = count p + (c.traffic p inputs).length)
    {p : Pipeline ι δ σ} (start : stands p) (schedule : Schedule)
    (held : ∀ r ∈ p.reports schedule, r.interlock.fate stage = .hold) :
    stands (p.run schedule) ∧ (∀ a ∈ c.along p schedule, passes a) ∧
      count (p.run schedule) = count p + (c.along p schedule).length := by
  induction schedule generalizing p with
  | nil => exact ⟨start, nofun, rfl⟩
  | cons inputs rest ih =>
    have now := held _ (List.mem_cons_self ..)
    obtain ⟨next, passed, counted⟩ := step p inputs start now
    obtain ⟨last, later, total⟩ := ih next fun r member => held r (List.mem_cons_of_mem _ member)
    refine ⟨last, fun a member => ?_, ?_⟩
    · rcases List.mem_append.mp member with first | other
      · exact passed a first
      · exact later a other
    · have length : (c.along p (inputs :: rest)).length =
          (c.traffic p inputs).length + (c.along (p.tick inputs).next rest).length :=
        List.length_append
      rw [p.run_cons, total, counted, length]
      omega

end Channel

end FiveStage
