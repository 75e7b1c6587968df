import HoprTypes.Telemetry.PrefixProviders

/-!
# The life of the global metric state

The state is made once: by `initWithProvider`, or on demand by the first metric or the first
export.  Until then registrations are refused; afterwards it is never replaced.
-/

set_option autoImplicit false

namespace HoprTypes.Telemetry

open HoprTypes.Primitive RankedTable

variable {Exporter Provider Meter : Type}

inductive MetricCall (Exporter Provider : Type) where
  | initWithProvider (exporter : Exporter) (provider : Provider)
  | registerPrefixProvider (text : String) (provider : Provider)
  | meterForMetric (metricName : String)
  | gatherAllMetrics

inductive MetricAnswer (Exporter Meter : Type) where
  | done (success : Bool)
  | meter (meter : Meter)
  | exportedBy (exporter : Exporter)
deriving DecidableEq

namespace MetricCall

/-- A call answered in a state, and the state it leaves. -/
def step (sdk : MetricSdk Exporter Provider Meter)
    (state : Option (GlobalMetricState Exporter Provider)) :
    MetricCall Exporter Provider →
      MetricAnswer Exporter Meter × Option (GlobalMetricState Exporter Provider)
  | .initWithProvider exporter provider =>
      let (success, state') := Telemetry.initWithProvider exporter provider state
      (.done success, state')
  | .registerPrefixProvider text provider =>
      let (success, state') := Telemetry.registerPrefixProvider text provider state
      (.done success, state')
  | .meterForMetric metricName =>
      (.meter (Telemetry.meterForMetric sdk metricName state), some (globalState sdk state))
  | .gatherAllMetrics =>
      (.exportedBy (globalState sdk state).exporter, some (globalState sdk state))

/-- The state after a sequence of calls of a new process. -/
def run (sdk : MetricSdk Exporter Provider Meter) (calls : List (MetricCall Exporter Provider)) :
    Option (GlobalMetricState Exporter Provider) :=
  calls.foldl (fun state call => (call.step sdk state).2) none

def opens : MetricCall Exporter Provider → Bool
  | .registerPrefixProvider .. => false
  | _ => true

def made (sdk : MetricSdk Exporter Provider Meter) :
    MetricCall Exporter Provider → Exporter × Provider
  | .initWithProvider exporter provider => (exporter, provider)
  | _ => sdk.build

/-- What a process has for exporter and default provider: those of its first opening call. -/
def origin (sdk : MetricSdk Exporter Provider Meter)
    (calls : List (MetricCall Exporter Provider)) : Exporter × Provider :=
  match calls.find? opens with
  | some call => call.made sdk
  | none => sdk.build

def registration? : MetricCall Exporter Provider → Option (String × Provider)
  | .registerPrefixProvider text provider => some (text, provider)
  | _ => none

/-- The registrations that follow the first opening call. -/
def registrations (calls : List (MetricCall Exporter Provider)) : List (String × Provider) :=
  (calls.dropWhile fun call => !call.opens).filterMap registration?

theorem run_concat (sdk : MetricSdk Exporter Provider Meter)
    (calls : List (MetricCall Exporter Provider)) (call : MetricCall Exporter Provider) :
    run sdk (calls ++ [call]) = (call.step sdk (run sdk calls)).2 := by
  simp [run]

theorem origin_concat (sdk : MetricSdk Exporter Provider Meter)
    {calls : List (MetricCall Exporter Provider)} (opened : calls.any opens = true)
    (call : MetricCall Exporter Provider) : origin sdk (calls ++ [call]) = origin sdk calls := by
  obtain ⟨first, member, isOpening⟩ := List.any_eq_true.mp opened
  have found : (calls.find? opens).isSome := List.find?_isSome.mpr ⟨first, member, isOpening⟩
  unfold origin
  rw [List.find?_append, Option.or_of_isSome found]

theorem registrations_concat {calls : List (MetricCall Exporter Provider)}
    (opened : calls.any opens = true) (call : MetricCall Exporter Provider) :
    registrations (calls ++ [call]) = registrations calls ++ call.registration?.toList := by
  unfold registrations
  have stops : (calls.dropWhile fun call => !call.opens).isEmpty = false := by
    cases rest : calls.dropWhile fun call => !call.opens with
    | cons => rfl
    | nil =>
        obtain ⟨first, member, isOpening⟩ := List.any_eq_true.mp opened
        have closed := List.dropWhile_eq_nil_iff.mp rest first member
        rw [isOpening] at closed
        cases closed
  have last : [call].filterMap registration? = call.registration?.toList := by
    cases call <;> rfl
  rw [List.dropWhile_append, stops, if_neg (by simp), List.filterMap_append, last]

theorem opens_first (sdk : MetricSdk Exporter Provider Meter)
    {calls : List (MetricCall Exporter Provider)} {call : MetricCall Exporter Provider}
    (closed : calls.any opens = false) (isOpening : call.opens = true) :
    origin sdk (calls ++ [call]) = call.made sdk ∧ registrations (calls ++ [call]) = [] := by
  have none : ∀ earlier ∈ calls, earlier.opens = false := by simpa using closed
  constructor
  · unfold origin
    rw [List.find?_append, List.find?_eq_none.mpr (by simpa using none)]
    simp [isOpening]
  · unfold registrations
    have skipped : (calls ++ [call]).dropWhile (fun call => !call.opens) = [call] := by
      rw [List.dropWhile_append, List.dropWhile_eq_nil_iff.mpr (by simpa using none)]
      simp [isOpening]
    rw [skipped]
    cases call with
    | registerPrefixProvider => cases isOpening
    | initWithProvider | meterForMetric | gatherAllMetrics => rfl

/-- The state exists exactly after an opening call; it keeps what that call made it with, and a
table for the registrations since. -/
theorem run_eq (sdk : MetricSdk Exporter Provider Meter)
    (calls : List (MetricCall Exporter Provider)) :
    (calls.any opens = false → run sdk calls = none) ∧
      (calls.any opens = true → ∃ entries,
        run sdk calls = some ⟨(origin sdk calls).1, (origin sdk calls).2, entries⟩ ∧
          Represents (registrations calls) entries) := by
  induction calls using List.reverseRecOn with
  | nil => exact ⟨fun _ => rfl, fun opened => by cases opened⟩
  | append_singleton calls call ih =>
      rw [run_concat, List.any_append]
      cases opened : calls.any opens with
      | false =>
          rw [ih.1 opened]
          cases isOpening : call.opens with
          | false =>
              cases call with
              | registerPrefixProvider text provider =>
                  simp [step, Telemetry.registerPrefixProvider, isOpening]
              | initWithProvider | meterForMetric | gatherAllMetrics => cases isOpening
          | true =>
              obtain ⟨made, noneYet⟩ := opens_first sdk opened isOpening
              rw [made, noneYet]
              refine ⟨fun closed => by simp [isOpening] at closed,
                fun _ => ⟨[], ?_, represents_nil⟩⟩
              cases call with
              | registerPrefixProvider => cases isOpening
              | initWithProvider | meterForMetric | gatherAllMetrics => rfl
      | true =>
          refine ⟨fun closed => by simp at closed, fun _ => ?_⟩
          obtain ⟨entries, state, represents⟩ := ih.2 opened
          rw [state, origin_concat sdk opened, registrations_concat opened]
          cases call with
          | initWithProvider | meterForMetric | gatherAllMetrics =>
              refine ⟨entries, rfl, ?_⟩
              rw [show registration? _ = none from rfl, Option.toList_none, List.append_nil]
              exact represents
          | registerPrefixProvider text provider =>
              rw [registration?, Option.toList_some]
              by_cases empty : text = ""
              · subst empty
                exact ⟨entries, rfl, represents.refuse provider⟩
              · refine ⟨_, ?_, represents.register empty provider⟩
                simp [step, Telemetry.registerPrefixProvider, empty]

end MetricCall

/-- What a call answers after any earlier calls of a process: only the first opening call can
initialize; registrations count from there on; a metric takes the provider registered last for
the longest registered start of its name, or else the default provider the state was made
with; every export goes to the exporter it was made with. -/
theorem metric_answers (sdk : MetricSdk Exporter Provider Meter)
    (earlier : List (MetricCall Exporter Provider)) :
    (∀ exporter provider,
        ((MetricCall.initWithProvider exporter provider).step sdk (MetricCall.run sdk earlier)).1 =
          .done (!earlier.any MetricCall.opens)) ∧
      (∀ text provider,
        ((MetricCall.registerPrefixProvider text provider).step sdk
            (MetricCall.run sdk earlier)).1 =
          .done (earlier.any MetricCall.opens && decide (text ≠ ""))) ∧
      (∀ metricName, ∃ selected,
        Selects (MetricCall.registrations earlier) metricName selected ∧
          ((MetricCall.meterForMetric metricName).step sdk (MetricCall.run sdk earlier)).1 =
            .meter (sdk.meter (selected.getD (MetricCall.origin sdk earlier).2) "hopr")) ∧
      (MetricCall.gatherAllMetrics.step sdk (MetricCall.run sdk earlier)).1 =
        .exportedBy (MetricCall.origin sdk earlier).1 := by
  obtain ⟨whenClosed, whenOpened⟩ := MetricCall.run_eq sdk earlier
  cases opened : earlier.any MetricCall.opens with
  | false =>
      have none : ∀ call ∈ earlier, call.opens = false := by simpa using opened
      have made : MetricCall.origin sdk earlier = sdk.build := by
        unfold MetricCall.origin
        rw [List.find?_eq_none.mpr (by simpa using none)]
      have unregistered : MetricCall.registrations earlier = [] := by
        unfold MetricCall.registrations
        rw [List.dropWhile_eq_nil_iff.mpr (by simpa using none), List.filterMap_nil]
      rw [whenClosed opened, made, unregistered]
      refine ⟨fun _ _ => rfl, fun text provider => ?_, fun metricName => ?_, rfl⟩
      · by_cases empty : text = "" <;>
          simp [MetricCall.step, registerPrefixProvider, empty]
      · exact ⟨Option.none, .none (by simp), rfl⟩
  | true =>
      obtain ⟨entries, state, represents⟩ := whenOpened opened
      rw [state]
      refine ⟨fun _ _ => rfl, fun text provider => ?_, fun metricName => ?_, rfl⟩
      · by_cases empty : text = "" <;>
          simp [MetricCall.step, registerPrefixProvider, empty]
      · refine ⟨_, represents.selects metricName, ?_⟩
        unfold MetricCall.step meterForMetric globalState
        dsimp only [Option.getD_some]
        cases entries.find? fun entry => startsWith metricName entry.prefixText with
        | none => rfl
        | some entry => rfl

end HoprTypes.Telemetry
