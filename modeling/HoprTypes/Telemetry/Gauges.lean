import HoprTypes.Lib.Interleaving
import Mathlib.Algebra.Order.Field.Rat
import Mathlib.Tactic.Linarith
import Mathlib.Tactic.Ring

/-!
# Gauges

A gauge keeps its value in a shadow cell and reports deltas to an up-down counter, in two
separate atomic steps.  Calls of any number of threads interleave; the exported total is the
sum of all reported deltas.
-/

set_option autoImplicit false

namespace HoprTypes.Telemetry

open Interleaving

/-! ## The atomic cell -/

/-- The loop of `fetch_add`: a load, then a compare-and-swap with the loaded value. -/
inductive FetchAdd where
  | load
  | compareExchange (current : Rat)
deriving DecidableEq

/-- A weak compare-and-swap may also fail where the cell holds the loaded value. -/
inductive FetchAddStep (delta : Rat) : Rat → FetchAdd → Rat → Option FetchAdd → Prop where
  | load (cell : Rat) : FetchAddStep delta cell .load cell (some (.compareExchange cell))
  | exchanged (cell : Rat) :
      FetchAddStep delta cell (.compareExchange cell) (cell + delta) none
  | failed (cell current : Rat) :
      FetchAddStep delta cell (.compareExchange current) cell (some .load)

theorem FetchAddStep.conserves {delta cell cell' : Rat} {phase : FetchAdd}
    {next : Option FetchAdd} (taken : FetchAddStep delta cell phase cell' next) :
    cell' + (next.toList.map fun _ => delta).sum = cell + delta := by
  cases taken with
  | load => simp
  | exchanged => simp
  | failed => simp

/-! ## A gauge without labels -/

structure SimpleGauge where
  /-- The total of the up-down counter. -/
  exported : Rat
  shadow : Rat
deriving DecidableEq

namespace SimpleGauge

def new : SimpleGauge := ⟨0, 0⟩

def get (gauge : SimpleGauge) : Rat := gauge.shadow

inductive Call where
  | add (delta : Rat)
  | fetchAdd (delta : Rat) (phase : FetchAdd)
  | swap (value : Rat)
  | addDifference (delta : Rat)
deriving DecidableEq

def increment (delta : Rat) : Call := .add delta

def decrement (delta : Rat) : Call := .add (-delta)

def set (value : Rat) : Call := .swap value

inductive Taken : SimpleGauge → List Call → Call → SimpleGauge → Option Call → Prop where
  | add (gauge : SimpleGauge) (others : List Call) (delta : Rat) :
      Taken gauge others (.add delta) { gauge with exported := gauge.exported + delta }
        (some (.fetchAdd delta .load))
  | fetchAdd (gauge : SimpleGauge) (others : List Call) {delta shadow' : Rat} {phase : FetchAdd}
      {next : Option FetchAdd} (step : FetchAddStep delta gauge.shadow phase shadow' next) :
      Taken gauge others (.fetchAdd delta phase) { gauge with shadow := shadow' }
        (next.map (.fetchAdd delta))
  | swap (gauge : SimpleGauge) (others : List Call) (value : Rat) :
      Taken gauge others (.swap value) { gauge with shadow := value }
        (some (.addDifference (value - gauge.shadow)))
  | addDifference (gauge : SimpleGauge) (others : List Call) (delta : Rat) :
      Taken gauge others (.addDifference delta) { gauge with exported := gauge.exported + delta }
        none

def system : System SimpleGauge Call where
  starts call := ∃ value, call = increment value ∨ call = decrement value ∨ call = set value
  step := Taken

/-- What the shadow is ahead of the exported total. -/
def balance (gauge : SimpleGauge) : Rat := gauge.shadow - gauge.exported

/-- What a call has still to add to the shadow, or to take from it by a report. -/
def debt : Call → Rat
  | .fetchAdd delta _ => delta
  | .addDifference delta => -delta
  | _ => 0

theorem conserves : Conserves system (fun _ _ => True) balance debt where
  starts := by
    rintro shared call ⟨value, rfl | rfl | rfl⟩
    · exact ⟨trivial, rfl⟩
    · exact ⟨trivial, rfl⟩
    · exact ⟨trivial, rfl⟩
  stable _ _ _ := trivial
  keeps _ _ _ _ := trivial
  conserves := by
    intro shared others call shared' next _ taken
    cases taken with
    | add delta =>
        simp only [balance, debt, Option.toList_some, List.map_cons, List.map_nil,
          List.sum_cons, List.sum_nil]
        ring
    | @fetchAdd delta shadow' phase following step =>
        have kept := step.conserves
        have debts : ((following.map (Call.fetchAdd delta)).toList.map debt).sum =
            (following.toList.map fun _ => delta).sum := by
          cases following <;> rfl
        rw [debts]
        simp only [balance, debt]
        linarith
    | swap value =>
        simp only [balance, debt, Option.toList_some, List.map_cons, List.map_nil,
          List.sum_cons, List.sum_nil]
        ring
    | addDifference delta =>
        simp only [balance, debt, Option.toList_none, List.map_nil, List.sum_nil]
        ring

end SimpleGauge

/-! ## A gauge with labels -/

abbrev LabelValues := List String

abbrev Attributes := List (String × String)

/-- The attributes of the exported deltas; a debug build panics for a wrong number of values. -/
def labelsToAttributes (debugAssertions : Bool) (keys : List String) (values : LabelValues) :
    Option Attributes :=
  if debugAssertions && keys.length != values.length then none else some (keys.zip values)

structure MultiGauge (labels : List String) where
  /-- The totals of the up-down counter, for each list of attributes. -/
  exported : Attributes → Rat
  shadow : LabelValues → Option Rat

namespace MultiGauge

def new (labels : List String) : Except String (MultiGauge labels) :=
  if labels = [] then .error "at least a single label must be specified"
  else .ok ⟨fun _ => 0, fun _ => none⟩

variable {labels : List String}

def get (gauge : MultiGauge labels) (labelValues : LabelValues) : Option Rat :=
  gauge.shadow labelValues

/-- The sum of the deltas reported with the attributes of a label set. -/
def exportedTotal (gauge : MultiGauge labels) (labelValues : LabelValues) : Rat :=
  gauge.exported (labels.zip labelValues)

def report (gauge : MultiGauge labels) (attributes : Attributes) (delta : Rat) :
    MultiGauge labels :=
  { gauge with
    exported := Function.update gauge.exported attributes (gauge.exported attributes + delta) }

def store (gauge : MultiGauge labels) (key : LabelValues) (value : Rat) : MultiGauge labels :=
  { gauge with shadow := Function.update gauge.shadow key (some value) }

inductive Update where
  | add (delta : Rat)
  | set (value : Rat)
deriving DecidableEq

/-- The next atomic step of a call.  From the lookup on, a call holds the read lock. -/
inductive Call where
  | add (key : LabelValues) (delta : Rat)
  | checkShadow (key : LabelValues) (update : Update)
  | insertShadow (key : LabelValues) (update : Update)
  | lookup (key : LabelValues) (update : Update)
  | fetchAdd (key : LabelValues) (delta : Rat) (phase : FetchAdd)
  | swap (key : LabelValues) (attributes : Attributes) (value : Rat)
  | addDifference (attributes : Attributes) (delta : Rat)
deriving DecidableEq

def Call.holdsReadLock : Call → Bool
  | .fetchAdd .. | .swap .. | .addDifference .. => true
  | _ => false

def increment (labelValues : LabelValues) (delta : Rat) : Call := .add labelValues delta

def decrement (labelValues : LabelValues) (delta : Rat) : Call := .add labelValues (-delta)

def set (labelValues : LabelValues) (value : Rat) : Call := .checkShadow labelValues (.set value)

inductive Taken (debugAssertions : Bool) :
    MultiGauge labels → List Call → Call → MultiGauge labels → Option Call → Prop where
  | add {gauge : MultiGauge labels} {others : List Call} {key : LabelValues} {delta : Rat}
      {attributes : Attributes}
      (labeled : labelsToAttributes debugAssertions labels key = some attributes) :
      Taken debugAssertions gauge others (.add key delta) (gauge.report attributes delta)
        (some (.checkShadow key (.add delta)))
  | addPanics {gauge : MultiGauge labels} {others : List Call} {key : LabelValues} {delta : Rat}
      (panics : labelsToAttributes debugAssertions labels key = none) :
      Taken debugAssertions gauge others (.add key delta) gauge none
  | present {gauge : MultiGauge labels} {others : List Call} {key : LabelValues} {update : Update}
      (found : (gauge.shadow key).isSome) :
      Taken debugAssertions gauge others (.checkShadow key update) gauge
        (some (.lookup key update))
  | absent {gauge : MultiGauge labels} {others : List Call} {key : LabelValues} {update : Update}
      (missing : gauge.shadow key = none) :
      Taken debugAssertions gauge others (.checkShadow key update) gauge
        (some (.insertShadow key update))
  -- The write lock is free while no other call holds the read lock.
  | insert {gauge : MultiGauge labels} {others : List Call} {key : LabelValues} {update : Update}
      (writable : ∀ other ∈ others, other.holdsReadLock = false) :
      Taken debugAssertions gauge others (.insertShadow key update)
        (gauge.store key ((gauge.shadow key).getD 0)) (some (.lookup key update))
  | lookupAdd {gauge : MultiGauge labels} {others : List Call} {key : LabelValues} {delta : Rat}
      (found : (gauge.shadow key).isSome) :
      Taken debugAssertions gauge others (.lookup key (.add delta)) gauge
        (some (.fetchAdd key delta .load))
  | lookupSet {gauge : MultiGauge labels} {others : List Call} {key : LabelValues} {value : Rat}
      {attributes : Attributes}
      (labeled : labelsToAttributes debugAssertions labels key = some attributes)
      (found : (gauge.shadow key).isSome) :
      Taken debugAssertions gauge others (.lookup key (.set value)) gauge
        (some (.swap key attributes value))
  | lookupPanics {gauge : MultiGauge labels} {others : List Call} {key : LabelValues} {value : Rat}
      (panics : labelsToAttributes debugAssertions labels key = none) :
      Taken debugAssertions gauge others (.lookup key (.set value)) gauge none
  | lookupMissing {gauge : MultiGauge labels} {others : List Call} {key : LabelValues}
      {update : Update} (missing : gauge.shadow key = none) :
      Taken debugAssertions gauge others (.lookup key update) gauge none
  | fetchAdd {gauge : MultiGauge labels} {others : List Call} {key : LabelValues}
      {delta cell cell' : Rat} {phase : FetchAdd} {next : Option FetchAdd}
      (found : gauge.shadow key = some cell) (step : FetchAddStep delta cell phase cell' next) :
      Taken debugAssertions gauge others (.fetchAdd key delta phase) (gauge.store key cell')
        (next.map (.fetchAdd key delta))
  | swap {gauge : MultiGauge labels} {others : List Call} {key : LabelValues}
      {attributes : Attributes} {value previous : Rat}
      (found : gauge.shadow key = some previous) :
      Taken debugAssertions gauge others (.swap key attributes value) (gauge.store key value)
        (some (.addDifference attributes (value - previous)))
  | addDifference {gauge : MultiGauge labels} {others : List Call} {attributes : Attributes}
      {delta : Rat} :
      Taken debugAssertions gauge others (.addDifference attributes delta)
        (gauge.report attributes delta) none

/-- The label values that calls may have: of the right number, unless assertions check it. -/
def Allowed (debugAssertions : Bool) (labels : List String) (key : LabelValues) : Prop :=
  debugAssertions = true ∨ labels.length = key.length

def system (debugAssertions : Bool) (labels : List String) :
    System (MultiGauge labels) Call where
  starts call := ∃ key value, Allowed debugAssertions labels key ∧
    (call = increment key value ∨ call = decrement key value ∨ call = set key value)
  step := Taken debugAssertions

/-! ### The invariant -/

/-- What a call relies on: its entry exists once it was ensured, and its attributes are those
of its label values. -/
def Valid (debugAssertions : Bool) (gauge : MultiGauge labels) : Call → Prop
  | .add key _ | .checkShadow key _ | .insertShadow key _ => Allowed debugAssertions labels key
  | .lookup key _ => Allowed debugAssertions labels key ∧ (gauge.shadow key).isSome
  | .fetchAdd key _ _ => (gauge.shadow key).isSome
  | .swap key attributes _ =>
      labels.length = key.length ∧ attributes = labels.zip key ∧ (gauge.shadow key).isSome
  | .addDifference .. => True

/-- What the shadow of a label set is ahead of its exported total. -/
def balance (labelValues : LabelValues) (gauge : MultiGauge labels) : Rat :=
  (gauge.get labelValues).getD 0 - gauge.exportedTotal labelValues

/-- What a call has still to add to the shadow of a label set, or to take by a report. -/
def debt (labels : List String) (labelValues : LabelValues) : Call → Rat
  | .checkShadow key (.add delta) | .insertShadow key (.add delta) | .lookup key (.add delta)
  | .fetchAdd key delta _ => if key = labelValues then delta else 0
  | .addDifference attributes delta => if attributes = labels.zip labelValues then -delta else 0
  | _ => 0

theorem zip_injective {left right : LabelValues} (leftLength : labels.length = left.length)
    (rightLength : labels.length = right.length) (same : labels.zip left = labels.zip right) :
    left = right := by
  have values := congrArg (List.map Prod.snd) same
  rw [List.map_snd_zip leftLength.ge, List.map_snd_zip rightLength.ge] at values
  exact values

theorem labelsToAttributes_eq_some {debugAssertions : Bool} {key : LabelValues}
    {attributes : Attributes} (allowed : Allowed debugAssertions labels key)
    (labeled : labelsToAttributes debugAssertions labels key = some attributes) :
    labels.length = key.length ∧ attributes = labels.zip key := by
  unfold labelsToAttributes at labeled
  split_ifs at labeled with mismatch
  refine ⟨?_, (Option.some.inj labeled).symm⟩
  rcases allowed with debug | exact
  · simpa [debug] using mismatch
  · exact exact

/-! ### How a step changes the balance -/

theorem balance_report (labelValues : LabelValues) (gauge : MultiGauge labels)
    (attributes : Attributes) (delta : Rat) :
    balance labelValues (gauge.report attributes delta) +
        (if attributes = labels.zip labelValues then delta else 0) = balance labelValues gauge := by
  unfold balance exportedTotal report get
  dsimp only
  by_cases same : attributes = labels.zip labelValues
  · rw [if_pos same, same, Function.update_self]
    ring
  · rw [if_neg same, Function.update_of_ne (Ne.symm same)]
    ring

theorem balance_store (labelValues : LabelValues) (gauge : MultiGauge labels) (key : LabelValues)
    (value : Rat) :
    balance labelValues (gauge.store key value) =
      balance labelValues gauge +
        (if key = labelValues then value - (gauge.shadow key).getD 0 else 0) := by
  unfold balance exportedTotal store get
  dsimp only
  by_cases same : key = labelValues
  · rw [if_pos same, same, Function.update_self, Option.getD_some]
    ring
  · rw [if_neg same, Function.update_of_ne (Ne.symm same)]
    ring

theorem isSome_store {gauge : MultiGauge labels} {key other : LabelValues} {value : Rat}
    (found : (gauge.shadow other).isSome) : ((gauge.store key value).shadow other).isSome := by
  unfold store
  dsimp only
  by_cases same : other = key
  · rw [same, Function.update_self]
    rfl
  · rw [Function.update_of_ne same]
    exact found

theorem isSome_store_self (gauge : MultiGauge labels) (key : LabelValues) (value : Rat) :
    ((gauge.store key value).shadow key).isSome := by
  unfold store
  dsimp only
  rw [Function.update_self]
  rfl

/-- Entries are never removed. -/
theorem Taken.isSome_shadow {debugAssertions : Bool} {gauge gauge' : MultiGauge labels}
    {others : List Call} {call : Call} {next : Option Call}
    (taken : Taken debugAssertions gauge others call gauge' next) {key : LabelValues}
    (found : (gauge.shadow key).isSome) : (gauge'.shadow key).isSome := by
  cases taken with
  | insert | fetchAdd | swap => exact isSome_store found
  | add | addPanics | present | absent | lookupAdd | lookupSet | lookupPanics | lookupMissing
  | addDifference => exact found

theorem Valid.stable {debugAssertions : Bool} {gauge gauge' : MultiGauge labels} {other : Call}
    (grows : ∀ key, (gauge.shadow key).isSome → (gauge'.shadow key).isSome)
    (valid : Valid debugAssertions gauge other) : Valid debugAssertions gauge' other := by
  cases other with
  | add | checkShadow | insertShadow | addDifference => exact valid
  | lookup => exact ⟨valid.1, grows _ valid.2⟩
  | fetchAdd => exact grows _ valid
  | swap => exact ⟨valid.1, valid.2.1, grows _ valid.2.2⟩

theorem Taken.keeps {debugAssertions : Bool} {gauge gauge' : MultiGauge labels}
    {others : List Call} {call : Call} {next : Option Call}
    (valid : Valid debugAssertions gauge call)
    (taken : Taken debugAssertions gauge others call gauge' next) :
    ∀ call' ∈ next, Valid debugAssertions gauge' call' := by
  intro call' member
  cases taken with
  | addPanics | lookupPanics | lookupMissing | addDifference => cases member
  | add labeled =>
      obtain rfl := Option.some.inj member
      exact valid
  | present found =>
      obtain rfl := Option.some.inj member
      exact ⟨valid, found⟩
  | absent missing =>
      obtain rfl := Option.some.inj member
      exact valid
  | insert writable =>
      obtain rfl := Option.some.inj member
      exact ⟨valid, isSome_store_self gauge _ _⟩
  | lookupAdd found =>
      obtain rfl := Option.some.inj member
      exact found
  | lookupSet labeled found =>
      obtain rfl := Option.some.inj member
      obtain ⟨length, attributes⟩ := labelsToAttributes_eq_some valid.1 labeled
      exact ⟨length, attributes, found⟩
  | fetchAdd found step =>
      obtain ⟨phase, _, rfl⟩ := Option.map_eq_some_iff.mp member
      exact isSome_store_self gauge _ _
  | swap found =>
      obtain rfl := Option.some.inj member
      trivial

/-- One step keeps the balance of a label set together with the debt of the call. -/
theorem Taken.conserves {debugAssertions : Bool} {gauge gauge' : MultiGauge labels}
    {others : List Call} {call : Call} {next : Option Call} {labelValues : LabelValues}
    (exactly : labels.length = labelValues.length) (valid : Valid debugAssertions gauge call)
    (taken : Taken debugAssertions gauge others call gauge' next) :
    balance labelValues gauge' + (next.toList.map (debt labels labelValues)).sum =
      balance labelValues gauge + debt labels labelValues call := by
  cases taken with
  | addPanics | lookupPanics | lookupAdd | lookupSet => simp [debt]
  | @present key update found => cases update <;> simp [debt]
  | @absent key update missing => cases update <;> simp [debt]
  | lookupMissing missing =>
      have found := valid.2
      rw [missing] at found
      cases found
  | @add key delta attributes labeled =>
      obtain ⟨length, rfl⟩ := labelsToAttributes_eq_some valid labeled
      have reported := balance_report labelValues gauge (labels.zip key) delta
      have sameKey : labels.zip key = labels.zip labelValues ↔ key = labelValues :=
        ⟨zip_injective length exactly, congrArg labels.zip⟩
      simp only [sameKey] at reported
      simp only [Option.toList_some, List.map_cons, List.map_nil, List.sum_cons, List.sum_nil, debt]
      linarith
  | @insert key update writable =>
      have stored := balance_store labelValues gauge key
        ((gauge.shadow key).getD 0)
      rw [sub_self, ite_self, add_zero] at stored
      cases update <;> simp [debt, stored]
  | @fetchAdd key delta cell cell' phase following found step =>
      have stored := balance_store labelValues gauge key cell'
      have kept := step.conserves
      have debts : ((following.map (Call.fetchAdd key delta)).toList.map
          (debt labels labelValues)).sum =
            if key = labelValues then (following.toList.map fun _ => delta).sum else 0 := by
        cases following <;> simp [debt]
      rw [found, Option.getD_some] at stored
      rw [debts, stored]
      simp only [debt]
      split_ifs
      · linarith
      · ring
  | @swap key attributes value previous found =>
      obtain ⟨length, rfl, _⟩ := valid
      have stored := balance_store labelValues gauge key value
      have sameKey : labels.zip key = labels.zip labelValues ↔ key = labelValues :=
        ⟨zip_injective length exactly, congrArg labels.zip⟩
      rw [found, Option.getD_some] at stored
      simp only [Option.toList_some, List.map_cons, List.map_nil, List.sum_cons, List.sum_nil,
        debt, stored, sameKey]
      split_ifs
      · ring
      · ring
  | @addDifference attributes delta =>
      have reported := balance_report labelValues gauge attributes delta
      simp only [Option.toList_none, List.map_nil, List.sum_nil, debt]
      split_ifs at reported ⊢
      · linarith
      · linarith

theorem conserves {debugAssertions : Bool} {labelValues : LabelValues}
    (exactly : labels.length = labelValues.length) :
    Conserves (system debugAssertions labels) (Valid debugAssertions) (balance labelValues)
      (debt labels labelValues) where
  starts := by
    rintro gauge call ⟨key, value, allowed, rfl | rfl | rfl⟩
    · exact ⟨allowed, rfl⟩
    · exact ⟨allowed, rfl⟩
    · exact ⟨allowed, rfl⟩
  stable taken other valid := valid.stable fun _ found => Taken.isSome_shadow taken found
  keeps valid taken := Taken.keeps valid taken
  conserves valid taken := Taken.conserves exactly valid taken

end MultiGauge

/-! ## No update is lost -/

/-- Whenever no call is in flight, the exported totals are the values the gauges return. -/
theorem no_update_lost :
    (∀ state, Reachable SimpleGauge.system SimpleGauge.new state → state.calls = [] →
      state.shared.exported = state.shared.get) ∧
      ∀ (debugAssertions : Bool) (labels : List String) (gauge : MultiGauge labels),
        MultiGauge.new labels = .ok gauge → ∀ state,
          Reachable (MultiGauge.system debugAssertions labels) gauge state → state.calls = [] →
            ∀ labelValues : LabelValues, labels.length = labelValues.length →
              state.shared.exportedTotal labelValues =
                (state.shared.get labelValues).getD 0 := by
  constructor
  · intro state reached quiet
    have balanced := SimpleGauge.conserves.balance_eq reached quiet
    unfold SimpleGauge.balance SimpleGauge.new at balanced
    rw [SimpleGauge.get]
    linarith
  · intro debugAssertions labels gauge made state reached quiet labelValues exactly
    have balanced := (MultiGauge.conserves exactly).balance_eq reached quiet
    have start : MultiGauge.balance labelValues gauge = 0 := by
      unfold MultiGauge.new at made
      split_ifs at made
      rw [← Except.ok.inj made]
      exact sub_self (0 : Rat)
    rw [start, MultiGauge.balance] at balanced
    linarith

/-- An increment by 2 reports, is overtaken by a `set` to 5, and then adds to the shadow. -/
theorem overtaken_increment :
    Reachable SimpleGauge.system SimpleGauge.new ⟨⟨0 + 2 + (5 - 0), 5 + 2⟩, []⟩ := by
  refine .head (.start (SimpleGauge.increment 2) ⟨2, .inl rfl⟩) ?_
  refine .head (.start (SimpleGauge.set 5) ⟨5, .inr (.inr rfl)⟩) ?_
  refine .head (.advance [SimpleGauge.set 5] [] (.add _ _ 2)) ?_
  refine .head (.advance [] _ (.swap _ _ 5)) ?_
  refine .head (.advance [_] [] (.fetchAdd _ _ (.load _))) ?_
  refine .head (.advance [] _ (.addDifference _ _ _)) ?_
  have last : SimpleGauge.Taken ⟨0 + 2 + (5 - 0), 5⟩ []
      (.fetchAdd 2 (.compareExchange 5)) ⟨0 + 2 + (5 - 0), 5 + 2⟩ none :=
    @SimpleGauge.Taken.fetchAdd _ _ 2 _ _ none (.exchanged 5)
  have lastStep : Step SimpleGauge.system
      ⟨⟨0 + 2 + (5 - 0), 5⟩, [.fetchAdd 2 (.compareExchange 5)]⟩
      ⟨⟨0 + 2 + (5 - 0), 5 + 2⟩, []⟩ := @Step.advance _ _ _ [] [] _ _ _ none last
  exact .single lastStep

/-- The gauge with a label after a `set` to 5 and before an increment by 2 adds to the shadow. -/
def twiceCreated (created : MultiGauge ["peer"]) : MultiGauge ["peer"] :=
  let reported := created.report (["peer"].zip ["a"]) 2
  let inserted := (reported.store ["a"] 0).store ["a"] 0
  let swapped := inserted.store ["a"] 5
  let loaded := swapped.store ["a"] 5
  loaded.report (["peer"].zip ["a"]) (5 - 0)

theorem reachable_twiceCreated {created : MultiGauge ["peer"]}
    (made : MultiGauge.new ["peer"] = .ok created) :
    Reachable (MultiGauge.system true ["peer"]) created
      ⟨(twiceCreated created).store ["a"] (5 + 2), []⟩ := by
  obtain rfl := Except.ok.inj made
  refine .head (.start (MultiGauge.increment ["a"] 2) ⟨["a"], 2, .inl rfl, .inl rfl⟩) ?_
  refine .head (.start (MultiGauge.set ["a"] 5) ⟨["a"], 5, .inl rfl, .inr (.inr rfl)⟩) ?_
  refine .head (.advance [_] [] (.add rfl)) ?_
  refine .head (.advance [] _ (.absent rfl)) ?_
  refine .head (.advance [_] [] (.absent rfl)) ?_
  refine .head (.advance [] _ (.insert (by decide))) ?_
  refine .head (.advance [_] [] (.insert (by decide))) ?_
  refine .head (.advance [] _ (.lookupSet rfl rfl)) ?_
  refine .head (.advance [] _ (.swap rfl)) ?_
  refine .head (.advance [_] [] (.lookupAdd rfl)) ?_
  refine .head (.advance [_] [] (.fetchAdd rfl (.load _))) ?_
  refine .head (.advance [] _ .addDifference) ?_
  have last : MultiGauge.Taken true (twiceCreated ⟨fun _ => 0, fun _ => none⟩) []
      (.fetchAdd ["a"] 2 (.compareExchange 5))
      ((twiceCreated ⟨fun _ => 0, fun _ => none⟩).store ["a"] (5 + 2)) none :=
    @MultiGauge.Taken.fetchAdd _ true _ [] ["a"] 2 5 _ _ none rfl (.exchanged 5)
  have lastStep : Step (MultiGauge.system true ["peer"])
      ⟨twiceCreated ⟨fun _ => 0, fun _ => none⟩, [.fetchAdd ["a"] 2 (.compareExchange 5)]⟩
      ⟨(twiceCreated ⟨fun _ => 0, fun _ => none⟩).store ["a"] (5 + 2), []⟩ :=
    @Step.advance _ _ _ [] [] _ _ _ none last
  exact .single lastStep

theorem no_update_lost_twiceCreated :
    (0 + 2 + (5 - 0) : Rat) = 5 + 2 ∧
      ∀ created, MultiGauge.new ["peer"] = .ok created →
        ((twiceCreated created).store ["a"] (5 + 2)).exportedTotal ["a"] = 5 + 2 := by
  constructor
  · exact no_update_lost.1 _ overtaken_increment rfl
  · intro created made
    exact no_update_lost.2 true ["peer"] created made _ (reachable_twiceCreated made) rfl ["a"] rfl

end HoprTypes.Telemetry
