import HoprTypes.Lib.Guarded
import HoprTypes.Telemetry.Gauges

/-!
# Gauge guards

A guard increments its gauge when it is made and decrements it by the same amount when it is
dropped.  Any number of guards of one gauge are made, held and dropped by different threads,
in any order of their atomic steps.
-/

set_option autoImplicit false

namespace HoprTypes.Telemetry

open Interleaving

/-! ## Guards of a gauge without labels -/

structure GaugeGuard where
  by_ : Rat
deriving DecidableEq

namespace GaugeGuard

def new (guard : GaugeGuard) : SimpleGauge.Call := SimpleGauge.increment guard.by_

def drop (guard : GaugeGuard) : SimpleGauge.Call := SimpleGauge.decrement guard.by_

def guarding : Guarding GaugeGuard SimpleGauge.Call where
  allowed _ := True
  acquire := new
  release := drop

/-- What a guard stands for in the shadow: its destructor writes there last. -/
def counted : Phase GaugeGuard SimpleGauge.Call → Rat
  | .creating .. => 0
  | .held guard | .dropping guard _ => guard.by_

/-- What a guard stands for in the exported total: its calls report there first. -/
def reported : Phase GaugeGuard SimpleGauge.Call → Rat
  | .creating guard (.fetchAdd ..) | .held guard | .dropping guard (.add _) => guard.by_
  | _ => 0

end GaugeGuard

namespace SimpleGauge

def Call.delta? : Call → Option Rat
  | .add delta | .fetchAdd delta _ => some delta
  | .swap _ | .addDifference _ => none

/-- What a call that adds has still to add to the shadow, and to the exported total. -/
def pending : Call → Rat × Rat
  | .add delta => (delta, delta)
  | .fetchAdd delta _ => (delta, 0)
  | .swap _ | .addDifference _ => (0, 0)

/-- A step of a call that adds keeps both sides with what the call has still to add there. -/
theorem Taken.conserves_pending {gauge gauge' : SimpleGauge} {others : List Call} {call : Call}
    {next : Option Call} (adds : call.delta?.isSome)
    (taken : Taken gauge others call gauge' next) :
    (gauge'.shadow, gauge'.exported) + (next.toList.map pending).sum =
      (gauge.shadow, gauge.exported) + pending call := by
  cases taken with
  | add delta => simp [pending]
  | @fetchAdd delta shadow' phase following step =>
      have kept := step.conserves
      cases following with
      | none => simpa [pending] using kept
      | some next => simpa [pending] using kept
  | swap value => cases adds
  | addDifference delta => cases adds

theorem Taken.keeps_delta {gauge gauge' : SimpleGauge} {others : List Call} {call : Call}
    {next : Option Call} (adds : call.delta?.isSome)
    (taken : Taken gauge others call gauge' next) :
    ∀ call' ∈ next, call'.delta? = call.delta? := by
  intro call' member
  cases taken with
  | add delta =>
      obtain rfl := Option.some.inj member
      rfl
  | fetchAdd step =>
      obtain ⟨phase, _, rfl⟩ := Option.map_eq_some_iff.mp member
      rfl
  | swap value => cases adds
  | addDifference delta => cases adds

end SimpleGauge

namespace GaugeGuard

theorem adds : Adds SimpleGauge.system guarding (fun _ call => call.delta?.isSome)
    (fun guard call => call.delta? = some guard.by_)
    (fun guard call => call.delta? = some (-guard.by_))
    (fun gauge => (gauge.shadow, gauge.exported)) SimpleGauge.pending
    (fun guard => (guard.by_, guard.by_)) where
  acquires _ _ _ := ⟨rfl, rfl, rfl⟩
  releases _ _ _ := ⟨rfl, rfl, rfl⟩
  stable _ _ valid := valid
  keeps := by
    intro shared others call shared' next valid taken call' member
    have same := SimpleGauge.Taken.keeps_delta valid taken call' member
    rw [same]
    exact ⟨valid, fun _ => ⟨id, id⟩⟩
  conserves valid taken := SimpleGauge.Taken.conserves_pending valid taken

theorem contribution_eq {shared : SimpleGauge} {phase : Phase GaugeGuard SimpleGauge.Call}
    (valid : ValidPhase guarding (fun (_ : SimpleGauge) call => call.delta?.isSome)
      (fun guard call => call.delta? = some guard.by_)
      (fun guard call => call.delta? = some (-guard.by_)) shared phase) :
    contribution SimpleGauge.pending (fun guard => (guard.by_, guard.by_)) phase =
      (counted phase, reported phase) := by
  cases phase with
  | held guard => rfl
  | creating guard call =>
      have same := valid.2.2
      cases call with
      | add delta =>
          obtain rfl := Option.some.inj same
          exact sub_self (guard.by_, guard.by_)
      | fetchAdd delta phase =>
          obtain rfl := Option.some.inj same
          simp [contribution, SimpleGauge.pending, counted, reported]
      | swap value => cases same
      | addDifference delta => cases same
  | dropping guard call =>
      have same := valid.2.2
      cases call with
      | add delta =>
          obtain rfl := Option.some.inj same
          simp [contribution, SimpleGauge.pending, counted, reported]
      | fetchAdd delta phase =>
          obtain rfl := Option.some.inj same
          simp [contribution, SimpleGauge.pending, counted, reported]
      | swap value => cases same
      | addDifference delta => cases same

theorem gauge_eq {init : SimpleGauge}
    {state : State SimpleGauge (Phase GaugeGuard SimpleGauge.Call)}
    (reached : Reachable (guarded SimpleGauge.system guarding) init state) :
    state.shared.shadow = init.shadow + (state.calls.map counted).sum ∧
      state.shared.exported = init.exported + (state.calls.map reported).sum := by
  have total := adds.balance_eq reached
  have phases := List.map_congr_left fun phase member =>
    contribution_eq (adds.validPhases reached phase member)
  rw [phases, sum_map_pair] at total
  exact ⟨congrArg Prod.fst total, congrArg Prod.snd total⟩

end GaugeGuard

/-! ## Guards of a gauge with labels -/

structure MultiGaugeGuard where
  labels : LabelValues
  by_ : Rat
deriving DecidableEq

namespace MultiGaugeGuard

def new (guard : MultiGaugeGuard) : MultiGauge.Call :=
  MultiGauge.increment guard.labels guard.by_

def drop (guard : MultiGaugeGuard) : MultiGauge.Call :=
  MultiGauge.decrement guard.labels guard.by_

def guarding (labels : List String) : Guarding MultiGaugeGuard MultiGauge.Call where
  allowed guard := labels.length = guard.labels.length
  acquire := new
  release := drop

def amount (labelValues : LabelValues) (guard : MultiGaugeGuard) : Rat :=
  if guard.labels = labelValues then guard.by_ else 0

/-- What a guard stands for in the shadow of a label set. -/
def counted (labelValues : LabelValues) : Phase MultiGaugeGuard MultiGauge.Call → Rat
  | .creating .. => 0
  | .held guard | .dropping guard _ => amount labelValues guard

/-- What a guard stands for in the exported total of a label set. -/
def reported (labelValues : LabelValues) : Phase MultiGaugeGuard MultiGauge.Call → Rat
  | .creating _ (.add ..) => 0
  | .creating guard _ | .held guard | .dropping guard (.add ..) => amount labelValues guard
  | .dropping .. => 0

end MultiGaugeGuard

namespace MultiGauge

variable {labels : List String} {debugAssertions : Bool} {labelValues : LabelValues}

def Call.delta? : Call → Option (LabelValues × Rat)
  | .add key delta | .checkShadow key (.add delta) | .insertShadow key (.add delta)
  | .lookup key (.add delta) | .fetchAdd key delta _ => some (key, delta)
  | _ => none

/-- What a call has still to report for a label set. -/
def unreported (labelValues : LabelValues) : Call → Rat
  | .add key delta => if key = labelValues then delta else 0
  | _ => 0

/-- What a call that adds has still to add to the shadow of a label set, and to its total. -/
def pending (labels : List String) (labelValues : LabelValues) (call : Call) : Rat × Rat :=
  (debt labels labelValues call + unreported labelValues call, unreported labelValues call)

/-- A call that adds, for as many label values as there are labels. -/
def ValidAdd (debugAssertions : Bool) (gauge : MultiGauge labels) (call : Call) : Prop :=
  Valid debugAssertions gauge call ∧
    ∃ key delta, call.delta? = some (key, delta) ∧ labels.length = key.length

theorem labelsToAttributes_of_length {key : LabelValues} (exactly : labels.length = key.length) :
    labelsToAttributes debugAssertions labels key = some (labels.zip key) := by
  simp [labelsToAttributes, exactly]

theorem exportedTotal_report (gauge : MultiGauge labels) {key : LabelValues} (delta : Rat)
    (keyLength : labels.length = key.length) (exactly : labels.length = labelValues.length) :
    (gauge.report (labels.zip key) delta).exportedTotal labelValues =
      gauge.exportedTotal labelValues + (if key = labelValues then delta else 0) := by
  unfold exportedTotal report
  dsimp only
  by_cases same : key = labelValues
  · rw [if_pos same, same, Function.update_self]
  · have differ : labels.zip labelValues ≠ labels.zip key :=
      fun zips => same (zip_injective keyLength exactly zips.symm)
    rw [if_neg same, Function.update_of_ne differ, add_zero]

theorem Taken.keeps_delta {gauge gauge' : MultiGauge labels} {others : List Call} {call : Call}
    {next : Option Call} {key : LabelValues} {delta : Rat} (adds : call.delta? = some (key, delta))
    (taken : Taken debugAssertions gauge others call gauge' next) :
    ∀ call' ∈ next, call'.delta? = some (key, delta) := by
  intro call' member
  cases taken with
  | addPanics | lookupPanics | lookupMissing | addDifference => cases member
  | lookupSet | swap => cases adds
  | add labeled =>
      obtain rfl := Option.some.inj member
      exact adds
  | @present _ update found | @absent _ update missing | @insert _ update writable =>
      obtain rfl := Option.some.inj member
      cases update with
      | add => exact adds
      | set => cases adds
  | lookupAdd found =>
      obtain rfl := Option.some.inj member
      exact adds
  | fetchAdd found step =>
      obtain ⟨phase, _, rfl⟩ := Option.map_eq_some_iff.mp member
      exact adds

/-- A step of a call that adds keeps a total with what the call has still to report for it. -/
theorem Taken.conserves_exported {gauge gauge' : MultiGauge labels} {others : List Call}
    {call : Call} {next : Option Call} (exactly : labels.length = labelValues.length)
    (valid : ValidAdd debugAssertions gauge call)
    (taken : Taken debugAssertions gauge others call gauge' next) :
    gauge'.exportedTotal labelValues + (next.toList.map (unreported labelValues)).sum =
      gauge.exportedTotal labelValues + unreported labelValues call := by
  obtain ⟨_, key, delta, adds, keyLength⟩ := valid
  cases taken with
  | lookupSet | lookupPanics | swap | addDifference => cases adds
  | add labeled =>
      obtain ⟨rfl, rfl⟩ := Prod.mk.inj (Option.some.inj adds)
      rw [labelsToAttributes_of_length keyLength] at labeled
      obtain rfl := Option.some.inj labeled
      rw [exportedTotal_report gauge _ keyLength exactly]
      simp [unreported]
  | addPanics panics =>
      obtain ⟨rfl, rfl⟩ := Prod.mk.inj (Option.some.inj adds)
      rw [labelsToAttributes_of_length keyLength] at panics
      cases panics
  | present | absent | insert | lookupAdd | lookupMissing => simp [unreported, exportedTotal, store]
  | @fetchAdd _ _ _ _ _ following =>
      cases following <;> simp [unreported, exportedTotal, store]

end MultiGauge

namespace MultiGaugeGuard

variable {labels : List String} {debugAssertions : Bool} {labelValues : LabelValues}

/-- Guards add to the shadow and to the exported total of each label set. -/
theorem adds (exactly : labels.length = labelValues.length) :
    Adds (MultiGauge.system debugAssertions labels) (guarding labels)
      (MultiGauge.ValidAdd debugAssertions)
      (fun guard call => call.delta? = some (guard.labels, guard.by_))
      (fun guard call => call.delta? = some (guard.labels, -guard.by_))
      (fun gauge => ((gauge.get labelValues).getD 0, gauge.exportedTotal labelValues))
      (MultiGauge.pending labels labelValues)
      (fun guard => (amount labelValues guard, amount labelValues guard)) where
  acquires := by
    intro _ guard allowed
    refine ⟨⟨.inr allowed, guard.labels, guard.by_, rfl, allowed⟩, rfl, ?_⟩
    simp [guarding, new, MultiGauge.increment, MultiGauge.pending, MultiGauge.debt,
      MultiGauge.unreported, amount]
  releases := by
    intro _ guard allowed
    refine ⟨⟨.inr allowed, guard.labels, -guard.by_, rfl, allowed⟩, rfl, ?_⟩
    by_cases same : guard.labels = labelValues
    · simp [guarding, drop, MultiGauge.decrement, MultiGauge.pending, MultiGauge.debt,
        MultiGauge.unreported, amount, same]
    · simp [guarding, drop, MultiGauge.decrement, MultiGauge.pending, MultiGauge.debt,
        MultiGauge.unreported, amount, same]
  stable := by
    intro _ _ _ _ _ taken other valid
    exact ⟨valid.1.stable fun _ found => MultiGauge.Taken.isSome_shadow taken found, valid.2⟩
  keeps := by
    intro _ _ call _ next valid taken call' member
    obtain ⟨isValid, key, delta, isAdd, keyLength⟩ := valid
    have same := MultiGauge.Taken.keeps_delta isAdd taken call' member
    refine ⟨⟨MultiGauge.Taken.keeps isValid taken call' member, key, delta, same, keyLength⟩, ?_⟩
    rw [same, isAdd]
    exact fun _ => ⟨id, id⟩
  conserves := by
    intro gauge others call gauge' next valid taken
    have lead := MultiGauge.Taken.conserves exactly valid.1 taken
    have reports := MultiGauge.Taken.conserves_exported exactly valid taken
    unfold MultiGauge.balance at lead
    have sums : (next.toList.map fun call => MultiGauge.debt labels labelValues call +
        MultiGauge.unreported labelValues call).sum =
          (next.toList.map (MultiGauge.debt labels labelValues)).sum +
            (next.toList.map (MultiGauge.unreported labelValues)).sum := by
      cases next <;> simp
    unfold MultiGauge.pending
    rw [sum_map_pair, sums]
    refine Prod.ext ?_ reports
    simp only [Prod.mk_add_mk]
    linarith

theorem contribution_eq {gauge : MultiGauge labels} {phase : Phase MultiGaugeGuard MultiGauge.Call}
    (valid : ValidPhase (guarding labels) (MultiGauge.ValidAdd debugAssertions)
      (fun guard call => call.delta? = some (guard.labels, guard.by_))
      (fun guard call => call.delta? = some (guard.labels, -guard.by_)) gauge phase) :
    contribution (MultiGauge.pending labels labelValues)
        (fun guard => (amount labelValues guard, amount labelValues guard)) phase =
      (counted labelValues phase, reported labelValues phase) := by
  cases phase with
  | held guard => rfl
  | creating guard call =>
      have same := valid.2.2
      cases call with
      | swap | addDifference => cases same
      | add | fetchAdd =>
          obtain ⟨rfl, rfl⟩ := Prod.mk.inj (Option.some.inj same)
          apply Prod.ext <;> simp [contribution, MultiGauge.pending, MultiGauge.debt,
            MultiGauge.unreported, counted, reported, amount]
      | checkShadow key update | insertShadow key update | lookup key update =>
          cases update with
          | set => cases same
          | add =>
              obtain ⟨rfl, rfl⟩ := Prod.mk.inj (Option.some.inj same)
              simp [contribution, MultiGauge.pending, MultiGauge.debt, MultiGauge.unreported,
                counted, reported, amount]
  | dropping guard call =>
      have same := valid.2.2
      cases call with
      | swap | addDifference => cases same
      | add | fetchAdd =>
          obtain ⟨rfl, rfl⟩ := Prod.mk.inj (Option.some.inj same)
          simp only [contribution, MultiGauge.pending, MultiGauge.debt, MultiGauge.unreported,
            counted, reported, amount]
          split_ifs <;> simp
      | checkShadow key update | insertShadow key update | lookup key update =>
          cases update with
          | set => cases same
          | add =>
              obtain ⟨rfl, rfl⟩ := Prod.mk.inj (Option.some.inj same)
              simp only [contribution, MultiGauge.pending, MultiGauge.debt, MultiGauge.unreported,
                counted, reported, amount]
              split_ifs <;> simp

theorem sum_amount (guards : List MultiGaugeGuard) :
    (guards.map (amount labelValues)).sum =
      ((guards.filter (·.labels = labelValues)).map (·.by_)).sum := by
  induction guards with
  | nil => rfl
  | cons guard guards ih =>
      rw [List.map_cons, List.sum_cons, ih, amount]
      by_cases same : guard.labels = labelValues
      · simp [same]
      · simp [same]

theorem gauge_eq {init : MultiGauge labels}
    {state : State (MultiGauge labels) (Phase MultiGaugeGuard MultiGauge.Call)}
    (exactly : labels.length = labelValues.length)
    (reached : Reachable (guarded (MultiGauge.system debugAssertions labels) (guarding labels))
      init state) :
    (state.shared.get labelValues).getD 0 =
        (init.get labelValues).getD 0 + (state.calls.map (counted labelValues)).sum ∧
      state.shared.exportedTotal labelValues =
        init.exportedTotal labelValues + (state.calls.map (reported labelValues)).sum := by
  have law := @adds labels debugAssertions labelValues exactly
  have total := law.balance_eq reached
  have phases : ∀ phase ∈ state.calls, contribution (MultiGauge.pending labels labelValues)
      (fun guard => (amount labelValues guard, amount labelValues guard)) phase =
        (counted labelValues phase, reported labelValues phase) :=
    fun phase member => contribution_eq (law.validPhases reached phase member)
  rw [List.map_congr_left phases, sum_map_pair] at total
  exact ⟨congrArg Prod.fst total, congrArg Prod.snd total⟩

end MultiGaugeGuard

/-! ## Gauges count their guards -/

/-- Whatever the order of all atomic steps, a gauge returns the sum of the guards that are
held or being dropped.  Its exported total counts those whose constructor has reported and
whose destructor has not; once no guard is on its way, both count the guards held. -/
theorem guards_counted :
    (∀ state, Reachable (guarded SimpleGauge.system GaugeGuard.guarding) SimpleGauge.new state →
      state.shared.get = (state.calls.map GaugeGuard.counted).sum ∧
        state.shared.exported = (state.calls.map GaugeGuard.reported).sum ∧
        ∀ guards : List GaugeGuard, state.calls = guards.map Phase.held →
          state.shared = ⟨(guards.map (·.by_)).sum, (guards.map (·.by_)).sum⟩) ∧
      ∀ (debugAssertions : Bool) (labels : List String) (gauge : MultiGauge labels),
        MultiGauge.new labels = .ok gauge → ∀ state,
          Reachable (guarded (MultiGauge.system debugAssertions labels)
            (MultiGaugeGuard.guarding labels)) gauge state →
          ∀ labelValues : LabelValues, labels.length = labelValues.length →
            (state.shared.get labelValues).getD 0 =
                (state.calls.map (MultiGaugeGuard.counted labelValues)).sum ∧
              state.shared.exportedTotal labelValues =
                (state.calls.map (MultiGaugeGuard.reported labelValues)).sum ∧
              ∀ guards : List MultiGaugeGuard, state.calls = guards.map Phase.held →
                (state.shared.get labelValues).getD 0 =
                    ((guards.filter (·.labels = labelValues)).map (·.by_)).sum ∧
                  state.shared.exportedTotal labelValues =
                    ((guards.filter (·.labels = labelValues)).map (·.by_)).sum := by
  constructor
  · intro state reached
    obtain ⟨shadow, exported⟩ := GaugeGuard.gauge_eq reached
    rw [SimpleGauge.new, zero_add] at shadow exported
    refine ⟨shadow, exported, fun guards held => ?_⟩
    rw [held, List.map_map] at shadow exported
    obtain ⟨shared, calls⟩ := state
    obtain ⟨total, value⟩ := shared
    exact congrArg₂ SimpleGauge.mk exported shadow
  · intro debugAssertions labels gauge made state reached labelValues exactly
    obtain ⟨shadow, exported⟩ := MultiGaugeGuard.gauge_eq exactly reached
    have fresh : (gauge.get labelValues).getD 0 = 0 ∧ gauge.exportedTotal labelValues = 0 := by
      unfold MultiGauge.new at made
      split_ifs at made
      rw [← Except.ok.inj made]
      exact ⟨rfl, rfl⟩
    rw [fresh.1, zero_add] at shadow
    rw [fresh.2, zero_add] at exported
    refine ⟨shadow, exported, fun guards held => ?_⟩
    rw [held, List.map_map] at shadow exported
    rw [← MultiGaugeGuard.sum_amount]
    exact ⟨shadow, exported⟩

theorem reachable_held : Reachable (guarded SimpleGauge.system GaugeGuard.guarding)
    SimpleGauge.new ⟨⟨0 + 2, 0 + 2⟩, [.held ⟨2⟩]⟩ := by
  refine .head (.start (.creating ⟨2⟩ (GaugeGuard.new ⟨2⟩)) ⟨⟨2⟩, trivial, rfl⟩) ?_
  refine .head (.advance [] [] (GuardStep.create (.add _ _ 2))) ?_
  refine .head (.advance [] [] (GuardStep.create (.fetchAdd _ _ (.load _)))) ?_
  have last : SimpleGauge.Taken ⟨0 + 2, 0⟩ [] (.fetchAdd 2 (.compareExchange 0))
      ⟨0 + 2, 0 + 2⟩ none := @SimpleGauge.Taken.fetchAdd _ _ 2 _ _ none (.exchanged 0)
  have ends : GuardStep SimpleGauge.system GaugeGuard.guarding ⟨0 + 2, 0⟩ []
      (.creating ⟨2⟩ (.fetchAdd 2 (.compareExchange 0))) ⟨0 + 2, 0 + 2⟩ (some (.held ⟨2⟩)) :=
    GuardStep.held (GaugeGuard.mk 2) last
  have lastStep :=
    @Step.advance _ _ (guarded SimpleGauge.system GaugeGuard.guarding) [] [] _ _ _ _ ends
  exact .single lastStep

def heldOnce (created : MultiGauge ["peer"]) : MultiGauge ["peer"] :=
  let inserted := (created.report (["peer"].zip ["a"]) 2).store ["a"] 0
  (inserted.store ["a"] 0).store ["a"] (0 + 2)

theorem reachable_heldOnce {created : MultiGauge ["peer"]}
    (made : MultiGauge.new ["peer"] = .ok created) :
    Reachable (guarded (MultiGauge.system true ["peer"]) (MultiGaugeGuard.guarding ["peer"]))
      created ⟨heldOnce created, [.held ⟨["a"], 2⟩]⟩ := by
  obtain rfl := Except.ok.inj made
  refine .head (.start (.creating ⟨["a"], 2⟩ (MultiGaugeGuard.new ⟨["a"], 2⟩))
    ⟨⟨["a"], 2⟩, rfl, rfl⟩) ?_
  refine .head (.advance [] [] (GuardStep.create (.add rfl))) ?_
  refine .head (.advance [] [] (GuardStep.create (.absent rfl))) ?_
  refine .head (.advance [] [] (GuardStep.create (.insert (by simp [callsOf])))) ?_
  refine .head (.advance [] [] (GuardStep.create (.lookupAdd rfl))) ?_
  refine .head (.advance [] [] (GuardStep.create (.fetchAdd rfl (.load _)))) ?_
  have last : MultiGauge.Taken true
      ((((⟨fun _ => 0, fun _ => none⟩ : MultiGauge ["peer"]).report (["peer"].zip ["a"]) 2).store
        ["a"] 0).store ["a"] 0) [] (.fetchAdd ["a"] 2 (.compareExchange 0))
      (heldOnce ⟨fun _ => 0, fun _ => none⟩) none :=
    @MultiGauge.Taken.fetchAdd _ true _ [] ["a"] 2 0 _ _ none rfl (.exchanged 0)
  have ends : GuardStep (MultiGauge.system true ["peer"]) (MultiGaugeGuard.guarding ["peer"]) _ []
      (.creating ⟨["a"], 2⟩ (.fetchAdd ["a"] 2 (.compareExchange 0)))
      (heldOnce ⟨fun _ => 0, fun _ => none⟩) (some (.held ⟨["a"], 2⟩)) :=
    GuardStep.held (MultiGaugeGuard.mk ["a"] 2) last
  have lastStep := @Step.advance _ _ (guarded (MultiGauge.system true ["peer"])
    (MultiGaugeGuard.guarding ["peer"])) [] [] _ _ _ _ ends
  exact .single lastStep

theorem guards_counted_held :
    (⟨0 + 2, 0 + 2⟩ : SimpleGauge) = ⟨([⟨2⟩].map GaugeGuard.by_).sum,
        ([⟨2⟩].map GaugeGuard.by_).sum⟩ ∧
      ∀ created, MultiGauge.new ["peer"] = .ok created →
        (heldOnce created).exportedTotal ["a"] = 2 + 0 := by
  constructor
  · exact (guards_counted.1 _ reachable_held).2.2 [⟨2⟩] rfl
  · intro created made
    have counted :=
      guards_counted.2 true ["peer"] created made _ (reachable_heldOnce made) ["a"] rfl
    exact (counted.2.2 [⟨["a"], 2⟩] rfl).2

end HoprTypes.Telemetry
