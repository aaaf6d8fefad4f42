import FiveStage.Pipeline.Latches

/-!
# The combination rule

In a cycle the environment and the stages ask for any number of stalls and flushes, one after the
other, and the interlock is updated as they come: two sets, the oldest stage that stalls, and the
first of the flushes at the oldest stage. What it comes to is a fact about the demands and not about
their order (`Combines`). From one end of the pipeline to the other the fates then go from
discarding over holding to advancing, so that at the clock edge no instruction meets another
(`Latches.Moves`).
-/

namespace FiveStage

/-! ## Demands -/

/-- A stall or a flush that is asked for. -/
inductive Demand where
  | stall (reason : StallReason) (stage : Stage)
  | flush (reason : FlushReason) (stage : Stage) (target : Word)
  deriving DecidableEq, Repr

namespace Demand

/-- The stage that a stall holds. -/
def stalled? : Demand → Option Stage
  | stall _ stage => some stage
  | flush .. => none

/-- The stage that a flush empties, with the address that it sends fetch to. -/
def redirect? : Demand → Option Redirect
  | stall .. => none
  | flush _ stage target => some { stage, target }

variable {demands : List Demand}

theorem mem_stalled {stage : Stage} :
    stage ∈ demands.filterMap (·.stalled?) ↔ ∃ reason, stall reason stage ∈ demands := by
  rw [List.mem_filterMap]
  constructor
  · rintro ⟨demand, member, found⟩
    cases demand with
    | stall reason point =>
      cases found
      exact ⟨reason, member⟩
    | flush => cases found
  · rintro ⟨reason, member⟩
    exact ⟨_, member, rfl⟩

theorem mem_redirects {r : Redirect} :
    r ∈ demands.filterMap (·.redirect?) ↔ ∃ reason, flush reason r.stage r.target ∈ demands := by
  rw [List.mem_filterMap]
  constructor
  · rintro ⟨demand, member, found⟩
    cases demand with
    | stall => cases found
    | flush reason point target =>
      cases found
      exact ⟨reason, member⟩
  · rintro ⟨reason, member⟩
    exact ⟨_, member, rfl⟩

end Demand

namespace Interlock

/-- The interlock after one more demand. -/
def ask (c : Interlock) : Demand → Interlock
  | .stall reason stage => c.stall reason stage
  | .flush reason stage target => c.flush reason stage target

/-- The interlock that demands come to, the first one first. -/
def ofDemands (demands : List Demand) : Interlock :=
  demands.foldl ask {}

end Interlock

/-! ## The first at the oldest stage -/

/-- The oldest stage that has a property. -/
def Stage.IsOldest (p : Stage → Prop) (stage : Stage) : Prop :=
  p stage ∧ ∀ other, p other → other ≤ stage

section FirstOldest

variable {α : Type} (stage : α → Stage)

/-- What comes first in a list of all that are at its oldest stage. -/
inductive FirstOldest : List α → Option α → Prop where
  | empty : FirstOldest [] none
  | first {before after : List α} {a : α} (younger : ∀ b ∈ before, stage b < stage a)
      (notOlder : ∀ b ∈ after, stage b ≤ stage a) : FirstOldest (before ++ a :: after) (some a)

/-- The older one of what is chosen so far and what comes next. -/
def orOlder (best : Option α) (a : α) : Option α :=
  match best with
  | none => some a
  | some b => if stage b < stage a then some a else some b

namespace FirstOldest

variable {stage : α → Stage} {l : List α} {best : Option α} (h : FirstOldest stage l best)
include h

theorem mem {a : α} (chosen : best = some a) : a ∈ l := by
  cases h with
  | empty => cases chosen
  | first =>
    cases chosen
    exact List.mem_append_right _ (.head _)

theorem le {a b : α} (chosen : best = some a) (member : b ∈ l) : stage b ≤ stage a := by
  cases h with
  | empty => cases chosen
  | first younger notOlder =>
    cases chosen
    rcases List.mem_append.mp member with earlier | later
    · exact Nat.le_of_lt (younger b earlier)
    · rcases List.mem_cons.mp later with rfl | later
      · exact Nat.le_refl _
      · exact notOlder b later

theorem append_singleton (a : α) : FirstOldest stage (l ++ [a]) (orOlder stage best a) := by
  unfold orOlder
  cases best with
  | none =>
    cases h
    exact .first nofun nofun
  | some b =>
    dsimp only
    split
    case isTrue older =>
      refine .first (fun c member => ?_) nofun
      exact Nat.lt_of_le_of_lt (h.le rfl member) older
    case isFalse stays =>
      cases h with
      | @first before after _ younger notOlder =>
        rw [List.append_assoc]
        refine .first younger fun c member => ?_
        rcases List.mem_append.mp member with earlier | last
        · exact notOlder c earlier
        · cases List.mem_singleton.mp last
          exact Nat.le_of_not_lt stays

/-- Its stage is the oldest of all. -/
theorem stage_eq_some_iff (s : Stage) :
    best.map stage = some s ↔ s.IsOldest fun t => ∃ a ∈ l, stage a = t := by
  constructor
  · intro chosen
    obtain ⟨a, found, rfl⟩ := Option.map_eq_some_iff.mp chosen
    refine ⟨⟨a, h.mem found, rfl⟩, ?_⟩
    rintro - ⟨b, member, rfl⟩
    exact h.le found member
  · rintro ⟨⟨a, member, rfl⟩, oldest⟩
    cases chosen : best with
    | none =>
      subst chosen
      cases h
      cases member
    | some b =>
      have young := oldest (stage b) ⟨b, h.mem chosen, rfl⟩
      exact congrArg some (Stage.le_antisymm young (h.le chosen member))

end FirstOldest

end FirstOldest

/-! ## What demands come to -/

namespace Interlock

theorem stallPoint_stall (c : Interlock) (reason : StallReason) (stage : Stage) :
    (c.stall reason stage).stallPoint = orOlder id c.stallPoint stage := by
  unfold stall orOlder
  cases c.stallPoint <;> rfl

theorem redirect_flush (c : Interlock) (reason : FlushReason) (stage : Stage) (target : Word) :
    (c.flush reason stage target).redirect =
      orOlder (·.stage) c.redirect { stage, target } := by
  unfold flush orOlder
  cases c.redirect <;> rfl

/-- The interlock `c` is what the demands come to, as it is updated. -/
structure Gathers (c : Interlock) (demands : List Demand) : Prop where
  stalls : ∀ reason, c.stalls.contains reason = true ↔ ∃ stage, .stall reason stage ∈ demands
  flushes : ∀ reason, c.flushes.contains reason = true ↔
    ∃ stage target, .flush reason stage target ∈ demands
  stallPoint : FirstOldest id (demands.filterMap (·.stalled?)) c.stallPoint
  redirect : FirstOldest (·.stage) (demands.filterMap (·.redirect?)) c.redirect

/-- The interlock `c` is what the demands come to. -/
structure Combines (c : Interlock) (demands : List Demand) : Prop where
  /-- The reasons are those that were given. -/
  stalls : ∀ reason, c.stalls.contains reason = true ↔ ∃ stage, .stall reason stage ∈ demands
  flushes : ∀ reason, c.flushes.contains reason = true ↔
    ∃ stage target, .flush reason stage target ∈ demands
  /-- The points are the oldest stages that were given. -/
  stallPoint : ∀ stage, c.stallPoint = some stage ↔
    stage.IsOldest fun point => ∃ reason, .stall reason point ∈ demands
  flushPoint : ∀ stage, c.flushPoint = some stage ↔
    stage.IsOldest fun point => ∃ reason target, .flush reason point target ∈ demands
  /-- The target is that of the first flush at the oldest stage. -/
  redirect : FirstOldest (·.stage) (demands.filterMap (·.redirect?)) c.redirect

/-- The interlocks `c` and `d` agree, up to where fetch goes. -/
structure Agrees (c d : Interlock) : Prop where
  stalls : c.stalls = d.stalls
  flushes : c.flushes = d.flushes
  stallPoint : c.stallPoint = d.stallPoint
  flushPoint : c.flushPoint = d.flushPoint
  fate : ∀ stage, c.fate stage = d.fate stage

namespace Gathers

variable {c : Interlock} {demands : List Demand}

theorem empty : ({} : Interlock).Gathers [] where
  stalls reason := by cases reason <;> exact ⟨nofun, nofun⟩
  flushes reason := by cases reason <;> exact ⟨nofun, nofun⟩
  stallPoint := .empty
  redirect := .empty

/-- A demand that comes last is taken into account. -/
theorem ask (h : c.Gathers demands) (demand : Demand) :
    (c.ask demand).Gathers (demands ++ [demand]) := by
  cases demand with
  | stall reason stage =>
    refine ⟨fun other => ?_, fun other => ?_, ?_, ?_⟩
    · change (c.stalls.insert reason).contains other = true ↔ _
      rw [StallSet.contains_insert, Bool.or_eq_true, beq_iff_eq, h.stalls]
      grind
    · change c.flushes.contains other = true ↔ _
      simp [h.flushes]
    · rw [List.filterMap_append]
      exact c.stallPoint_stall reason stage ▸ h.stallPoint.append_singleton stage
    · rw [List.filterMap_append]
      exact (List.append_nil _).symm ▸ h.redirect
  | flush reason stage target =>
    refine ⟨fun other => ?_, fun other => ?_, ?_, ?_⟩
    · change c.stalls.contains other = true ↔ _
      simp [h.stalls]
    · change (c.flushes.insert reason).contains other = true ↔ _
      rw [FlushSet.contains_insert, Bool.or_eq_true, beq_iff_eq, h.flushes]
      grind
    · rw [List.filterMap_append]
      exact (List.append_nil _).symm ▸ h.stallPoint
    · rw [List.filterMap_append]
      exact c.redirect_flush reason stage target ▸ h.redirect.append_singleton _

/-- What was asked before is followed by what is asked now. -/
theorem foldl_ask (h : c.Gathers demands) (more : List Demand) :
    (more.foldl Interlock.ask c).Gathers (demands ++ more) := by
  induction more generalizing c demands with
  | nil => exact (List.append_nil demands).symm ▸ h
  | cons demand rest ih =>
    rw [List.append_cons]
    exact ih (h.ask demand)

theorem ofDemands (demands : List Demand) : (Interlock.ofDemands demands).Gathers demands :=
  empty.foldl_ask demands

theorem combines (h : c.Gathers demands) : c.Combines demands where
  stalls := h.stalls
  flushes := h.flushes
  stallPoint stage := by
    have oldest := h.stallPoint.stage_eq_some_iff stage
    simpa only [Option.map_id, id, Demand.mem_stalled, exists_eq_right] using oldest
  flushPoint stage := by
    have oldest := h.redirect.stage_eq_some_iff stage
    simp only [Demand.mem_redirects] at oldest
    rw [flushPoint, oldest]
    have same (point : Stage) :
        (∃ r : Redirect, (∃ reason, Demand.flush reason r.stage r.target ∈ demands) ∧
          r.stage = point) ↔ ∃ reason target, Demand.flush reason point target ∈ demands := by
      constructor
      · rintro ⟨r, ⟨reason, member⟩, rfl⟩
        exact ⟨reason, r.target, member⟩
      · rintro ⟨reason, target, member⟩
        exact ⟨⟨point, target⟩, ⟨reason, member⟩, rfl⟩
    simp only [same]
  redirect := h.redirect

end Gathers

theorem flushed_eq (c : Interlock) (stage : Stage) :
    c.flushed stage = c.flushPoint.any (stage ≤ ·) := by
  unfold flushed flushPoint
  rw [Option.any_map]

/-- What becomes of the stages follows from the two points. -/
theorem fate_congr {c d : Interlock} (stall : c.stallPoint = d.stallPoint)
    (flush : c.flushPoint = d.flushPoint) (stage : Stage) : c.fate stage = d.fate stage := by
  unfold fate
  rw [flushed_eq, flushed_eq, stall, flush]

namespace Combines

variable {c d : Interlock} {demands other : List Demand} (h : c.Combines demands)
  (h' : d.Combines other) (same : ∀ demand, demand ∈ demands ↔ demand ∈ other)
include h h' same

/-- What demands come to does not depend on their order, but for the target of the flush. -/
theorem agrees : c.Agrees d := by
  have stalls : c.stalls = d.stalls := by
    refine StallSet.ext_contains fun reason => Bool.eq_iff_iff.mpr ?_
    rw [h.stalls, h'.stalls]
    simp only [same]
  have flushes : c.flushes = d.flushes := by
    refine FlushSet.ext_contains fun reason => Bool.eq_iff_iff.mpr ?_
    rw [h.flushes, h'.flushes]
    simp only [same]
  have stallPoint : c.stallPoint = d.stallPoint := by
    refine Option.ext fun stage => ?_
    rw [h.stallPoint, h'.stallPoint]
    simp only [same]
  have flushPoint : c.flushPoint = d.flushPoint := by
    refine Option.ext fun stage => ?_
    rw [h.flushPoint, h'.flushPoint]
    simp only [same]
  exact ⟨stalls, flushes, stallPoint, flushPoint, fate_congr stallPoint flushPoint⟩

/-- Nor does the target, if the flushes at the oldest stage have one target. -/
theorem target_eq
    (shared : ∀ reason reason' stage target target', c.flushPoint = some stage →
      .flush reason stage target ∈ demands → .flush reason' stage target' ∈ demands →
      target = target') : c.target = d.target := by
  have points : c.redirect.map (·.stage) = d.redirect.map (·.stage) :=
    (h.agrees h' same).flushPoint
  unfold target
  cases first : c.redirect with
  | none =>
    rw [first] at points
    rw [Option.map_eq_none_iff.mp points.symm]
  | some r =>
    rw [first] at points
    obtain ⟨r', first', stage⟩ := Option.map_eq_some_iff.mp points.symm
    obtain ⟨reason, member⟩ := Demand.mem_redirects.mp (h.redirect.mem first)
    obtain ⟨reason', member'⟩ := Demand.mem_redirects.mp (h'.redirect.mem first')
    rw [stage, ← same] at member'
    have point : c.flushPoint = some r.stage := by
      rw [Interlock.flushPoint, first]
      rfl
    rw [first']
    exact congrArg some (shared reason reason' _ _ _ point member member')

end Combines

/-! ## Fates along the pipeline -/

theorem fate_eq_advance_iff (c : Interlock) (stage : Stage) :
    c.fate stage = .advance ↔
      c.flushed stage = false ∧ c.stallPoint.any (stage ≤ ·) = false := by
  unfold fate
  split
  case isTrue flushed => simp [flushed]
  case isFalse live => split <;> simp_all

/-- A stage advances if a younger one does. -/
theorem fate_of_advance {c : Interlock} {stage before : Stage}
    (advance : c.fate before = .advance) (young : before ≤ stage) : c.fate stage = .advance := by
  have mono (point : Option Stage) (free : point.any (before ≤ ·) = false) :
      point.any (stage ≤ ·) = false := by
    cases point with
    | none => rfl
    | some oldest =>
      simp only [Option.any_some, decide_eq_false_iff_not] at free ⊢
      exact fun old => free (Nat.le_trans young old)
  rw [fate_eq_advance_iff, flushed_eq] at advance ⊢
  exact ⟨mono _ advance.1, mono _ advance.2⟩

/-- A stage that is held holds all younger stages, unless they are emptied. -/
theorem fate_of_hold {c : Interlock} {stage before : Stage} (hold : c.fate stage = .hold)
    (young : before ≤ stage) : c.fate before ≠ .advance := by
  intro advance
  rw [fate_of_advance advance young] at hold
  cases hold

/-- The number of stages up to a point. -/
def depth (point : Option Stage) : Nat :=
  point.elim 0 (·.age + 1)

/-- From the youngest stage to the oldest, first all are emptied, then all are held, and then all
advance. -/
theorem fates_eq (c : Interlock) :
    Stage.all.map c.fate =
      .replicate (depth c.flushPoint) .discard ++
        .replicate (depth c.stallPoint - depth c.flushPoint) .hold ++
        .replicate (5 - max (depth c.stallPoint) (depth c.flushPoint)) .advance := by
  obtain ⟨stalls, flushes, stallPoint, redirect⟩ := c
  rcases stallPoint with _ | stall <;> rcases redirect with _ | ⟨flush, target⟩
  · rfl
  · cases flush <;> rfl
  · cases stall <;> rfl
  · cases stall <;> cases flush <;> rfl

end Interlock

/-! ## The clock edge -/

/-- What the latch in front of a stage holds. There is none in front of fetch. -/
def Stage.Entry : Stage → Type
  | .fetch => Empty
  | .decode => IfId
  | .execute => IdEx
  | .memory => ExMem
  | .writeback => MemWb

namespace Latches

/-- What is in a stage, and among entries on their way what goes into it. -/
def entry (l : Latches) : (stage : Stage) → Option stage.Entry
  | .fetch => none
  | .decode => l.ifId
  | .execute => l.idEx
  | .memory => l.exMem
  | .writeback => l.memWb

theorem entry_next (c : Interlock) (current incoming : Latches) (stage : Stage) :
    (next c current incoming).entry stage =
      nextEntry c stage (current.entry stage) (incoming.entry stage) := by
  cases stage with
  | fetch =>
    unfold nextEntry
    split <;> rfl
  | _ => rfl

/-- The latches `after` are what becomes of `current` at the clock edge, and no entry meets another:
every one is where it was, or in the next stage, or gone. -/
structure Moves (c : Interlock) (current incoming after : Latches) : Prop where
  held : ∀ stage, c.fate stage = .hold → after.entry stage = current.entry stage
  /-- What a stage that advances hands on is in the stage that it feeds, and nothing gets lost. -/
  advanced : ∀ before stage, stage.feeder? = some before → c.fate before = .advance →
    after.entry stage = incoming.entry stage ∧
      ((current.entry before).isSome = true → (after.entry stage).isSome = true)
  /-- It overwrites nothing, as what was there advances itself. -/
  vacated : ∀ before stage, stage.feeder? = some before → c.fate before = .advance →
    c.fate stage = .advance
  /-- Nothing comes after a stage that is held or emptied. -/
  emptied : ∀ before stage, stage.feeder? = some before → c.fate before ≠ .advance →
    c.fate stage ≠ .hold → after.entry stage = none

theorem moves_next {c : Interlock} {current incoming : Latches}
    (handsOn : ∀ before stage, stage.feeder? = some before → c.fate before = .advance →
      (current.entry before).isSome = true → (incoming.entry stage).isSome = true) :
    Moves c current incoming (next c current incoming) where
  held stage hold := by
    rw [entry_next]
    exact if_pos hold
  advanced before stage feeds advance := by
    have vacated := Interlock.fate_of_advance advance (Stage.le_of_feeder feeds)
    have taken : (next c current incoming).entry stage = incoming.entry stage := by
      rw [entry_next, nextEntry, vacated, feeds]
      simp only [advance, if_true, reduceCtorEq, if_false]
    exact ⟨taken, fun occupied => taken ▸ handsOn before stage feeds advance occupied⟩
  vacated before stage feeds advance :=
    Interlock.fate_of_advance advance (Stage.le_of_feeder feeds)
  emptied before stage feeds stopped free := by
    rw [entry_next, nextEntry, if_neg free, feeds]
    exact if_neg stopped

end Latches

/-- Interlocks obey the combination rule. Whatever stalls and flushes are asked for, in any order,
the reasons on record are those that were given, the points are the oldest stages that were given,
and fetch goes where the first flush at the oldest stage sends it; in another order the demands come
to the same, and to the same target if the flushes at the oldest stage agree on one. Along the
pipeline the fates are first to be emptied, then to be held, then to advance, so what feeds a stage
that is held never advances; and at the clock edge what is held stays, what advances is in the next
stage, nothing is overwritten, and nothing comes after what is held or emptied. -/
theorem Interlock.demands_combine (demands : List Demand) :
    let c := ofDemands demands
    c.Combines demands ∧
      (∀ other, other.Perm demands →
        c.Agrees (ofDemands other) ∧
          ((∀ reason reason' stage target target', c.flushPoint = some stage →
              .flush reason stage target ∈ demands → .flush reason' stage target' ∈ demands →
              target = target') →
            c.target = (ofDemands other).target)) ∧
      (∃ i j k, Stage.all.map c.fate =
        .replicate i .discard ++ .replicate j .hold ++ .replicate k .advance) ∧
      (∀ before stage, stage.feeder? = some before → c.fate stage = .hold →
        c.fate before ≠ .advance) ∧
      ∀ current incoming : Latches,
        (∀ before stage, stage.feeder? = some before → c.fate before = .advance →
          (current.entry before).isSome = true → (incoming.entry stage).isSome = true) →
        Latches.Moves c current incoming (Latches.next c current incoming) := by
  intro c
  have combines : c.Combines demands := (Gathers.ofDemands demands).combines
  refine ⟨combines, fun other perm => ?_, ⟨_, _, _, c.fates_eq⟩, ?_, ?_⟩
  · have combines' := (Gathers.ofDemands other).combines
    have same (demand : Demand) : demand ∈ demands ↔ demand ∈ other := perm.mem_iff.symm
    exact ⟨combines.agrees combines' same, combines.target_eq combines' same⟩
  · exact fun before stage feeds hold => fate_of_hold hold (Stage.le_of_feeder feeds)
  · exact fun current incoming handsOn => Latches.moves_next handsOn

/-- A decoding instruction that waits, with an instruction in the memory stage that does not, while
fetch is redirected: the target is the same in the other order, and both go as their fates say. -/
theorem Interlock.demands_combine_redirect :
    let demands := [.flush .branchMispredict .fetch 32, .stall .loadUseHazard .decode]
    let access : ExMem :=
      { pc := 0, inst := 0x00002083, rd := 1, writes := true, result := 0, storeData := 0
        coprocessor := none, ctrl := .decode 0x00002083 }
    let current : Latches := { ifId := some { pc := 4, inst := 0x00008063 }, exMem := some access }
    let incoming : Latches := { memWb := some (access.accessed 7) }
    (ofDemands demands).target = (ofDemands demands.reverse).target ∧
      Latches.Moves (ofDemands demands) current incoming
        (Latches.next (ofDemands demands) current incoming) := by
  intro demands access current incoming
  obtain ⟨-, orders, -, -, edge⟩ := demands_combine demands
  refine ⟨(orders demands.reverse demands.reverse_perm).2 ?_, edge current incoming ?_⟩
  · intro reason reason' stage target target' _ member member'
    simp only [demands, List.mem_cons, List.not_mem_nil, Demand.flush.injEq, reduceCtorEq,
      or_false] at member member'
    rw [member.2.2, member'.2.2]
  · intro before stage feeds advance occupied
    cases stage with
    | fetch => cases feeds
    | execute => cases feeds; cases advance
    | writeback => rfl
    | _ => cases feeds; cases occupied

end FiveStage
