import HoprTypes.Lib.RankedTable
import HoprTypes.Primitive.Primitives

/-!
# Meter providers by metric-name prefix

Providers are registered for prefixes of metric names and kept sorted by the length of the
prefix, longest first.  A metric takes the first provider whose prefix its name starts with, or
the default provider.
-/

set_option autoImplicit false

namespace HoprTypes.Telemetry

open HoprTypes.Primitive RankedTable

def byteLen (text : String) : Nat := (utf8 text).length

def startsWith (text start : String) : Bool := (utf8 start).isPrefixOf (utf8 text)

theorem utf8_injective {left right : String} (same : utf8 left = utf8 right) : left = right := by
  have bytes : left.toUTF8 = right.toUTF8 := by
    cases hl : left.toUTF8 with
    | mk leftData =>
        cases hr : right.toUTF8 with
        | mk rightData =>
            simp only [utf8, hl, hr] at same
            rw [Array.toList_inj.mp same]
  exact String.toByteArray_inj.mp bytes

theorem start_unique {text first second : String} (startsFirst : startsWith text first = true)
    (startsSecond : startsWith text second = true) (sameLength : byteLen first = byteLen second) :
    first = second := by
  have firstPrefix := List.isPrefixOf_iff_prefix.mp startsFirst
  have secondPrefix := List.isPrefixOf_iff_prefix.mp startsSecond
  have inner := List.prefix_of_prefix_length_le firstPrefix secondPrefix (le_of_eq sameLength)
  exact utf8_injective (inner.eq_of_length sameLength)

/-! ## The registry -/

structure PrefixProvider (Provider : Type) where
  prefixText : String
  provider : Provider

structure GlobalMetricState (Exporter Provider : Type) where
  exporter : Exporter
  provider : Provider
  prefixProviders : List (PrefixProvider Provider)

/-- What the metrics use of the SDK: the exporter and provider built on demand, and the meters
of a provider. -/
structure MetricSdk (Exporter Provider Meter : Type) where
  build : Exporter × Provider
  meter : Provider → String → Meter

variable {Exporter Provider Meter : Type}

/-- The state is created on demand. -/
def globalState (sdk : MetricSdk Exporter Provider Meter)
    (state : Option (GlobalMetricState Exporter Provider)) : GlobalMetricState Exporter Provider :=
  state.getD ⟨sdk.build.1, sdk.build.2, []⟩

/-- `false` when the state exists already, which then stays as it is. -/
def initWithProvider (exporter : Exporter) (provider : Provider)
    (state : Option (GlobalMetricState Exporter Provider)) :
    Bool × Option (GlobalMetricState Exporter Provider) :=
  match state with
  | some existing => (false, some existing)
  | none => (true, some ⟨exporter, provider, []⟩)

/-- The first provider of the prefix is replaced; a new prefix is pushed and the list sorted. -/
def registerIn (entries : List (PrefixProvider Provider)) (text : String) (provider : Provider) :
    List (PrefixProvider Provider) :=
  match updateFirst (fun entry => decide (entry.prefixText = text))
      (fun entry => { entry with provider := provider }) entries with
  | some replaced => replaced
  | none => sortByRank (fun entry => byteLen entry.prefixText) (entries ++ [⟨text, provider⟩])

def registerPrefixProvider (text : String) (provider : Provider)
    (state : Option (GlobalMetricState Exporter Provider)) :
    Bool × Option (GlobalMetricState Exporter Provider) :=
  if text = "" then (false, state)
  else
    match state with
    | none => (false, none)
    | some state =>
        (true, some { state with
          prefixProviders := registerIn state.prefixProviders text provider })

def meterForMetric (sdk : MetricSdk Exporter Provider Meter) (metricName : String)
    (state : Option (GlobalMetricState Exporter Provider)) : Meter :=
  let state := globalState sdk state
  match state.prefixProviders.find? fun entry => startsWith metricName entry.prefixText with
  | some entry => sdk.meter entry.provider "hopr"
  | none => sdk.meter state.provider "hopr"

def registerAll (calls : List (String × Provider))
    (state : Option (GlobalMetricState Exporter Provider)) :
    Option (GlobalMetricState Exporter Provider) :=
  calls.foldl (fun state call => (registerPrefixProvider call.1 call.2 state).2) state

/-! ## The registrations a table stands for -/

def latest (calls : List (String × Provider)) (text : String) : Option Provider :=
  (calls.reverse.find? fun call => decide (call.1 = text)).map Prod.snd

theorem latest_concat (calls : List (String × Provider)) (call : String × Provider)
    (text : String) :
    latest (calls ++ [call]) text = if call.1 = text then some call.2 else latest calls text := by
  by_cases same : call.1 = text
  · simp [latest, same]
  · simp [latest, same]

theorem latest_isSome (calls : List (String × Provider)) (text : String) :
    (∃ provider, latest calls text = some provider) ↔ text ∈ calls.map Prod.fst := by
  induction calls using List.reverseRecOn with
  | nil => simp [latest]
  | append_singleton calls call ih =>
      rw [latest_concat, List.map_append, List.mem_append]
      by_cases same : call.1 = text
      · simp [same]
      · simp only [if_neg same, ih, List.map_singleton, List.mem_singleton]
        constructor
        · exact Or.inl
        · rintro (before | here)
          · exact before
          · exact absurd here.symm same

/-- Distinct prefixes, the longest first, each with the provider registered for it last. -/
structure Represents (calls : List (String × Provider))
    (entries : List (PrefixProvider Provider)) : Prop where
  kept : Kept PrefixProvider.prefixText (fun entry => byteLen entry.prefixText) entries
  mem_iff : ∀ entry, entry ∈ entries ↔
    entry.prefixText ≠ "" ∧ latest calls entry.prefixText = some entry.provider

theorem represents_nil : Represents ([] : List (String × Provider)) [] where
  kept := ⟨List.nodup_nil, List.Pairwise.nil⟩
  mem_iff := by
    intro entry
    simp [latest]

theorem Represents.mem_prefixes {calls : List (String × Provider)}
    {entries : List (PrefixProvider Provider)} (represents : Represents calls entries)
    (text : String) :
    text ∈ entries.map PrefixProvider.prefixText ↔ text ≠ "" ∧ text ∈ calls.map Prod.fst := by
  rw [List.mem_map, ← latest_isSome]
  constructor
  · rintro ⟨entry, member, rfl⟩
    obtain ⟨nonEmpty, found⟩ := (represents.mem_iff entry).mp member
    exact ⟨nonEmpty, entry.provider, found⟩
  · rintro ⟨nonEmpty, provider, found⟩
    exact ⟨⟨text, provider⟩, (represents.mem_iff _).mpr ⟨nonEmpty, found⟩, rfl⟩

theorem Represents.of_members {calls : List (String × Provider)}
    {entries result : List (PrefixProvider Provider)} (represents : Represents calls entries)
    {text : String} (nonEmpty : text ≠ "") {provider : Provider}
    (kept : Kept PrefixProvider.prefixText (fun entry => byteLen entry.prefixText) result)
    (members : ∀ entry, entry ∈ result ↔
      (entry ∈ entries ∧ entry.prefixText ≠ text) ∨ entry = ⟨text, provider⟩) :
    Represents (calls ++ [(text, provider)]) result where
  kept := kept
  mem_iff := by
    intro entry
    rw [members, latest_concat]
    by_cases same : text = entry.prefixText
    · rw [if_pos same]
      constructor
      · rintro (⟨_, different⟩ | rfl)
        · exact absurd same.symm different
        · exact ⟨nonEmpty, rfl⟩
      · rintro ⟨_, last⟩
        right
        cases entry with
        | mk entryText entryProvider =>
            simp only [Option.some.injEq] at last same
            rw [← last, ← same]
    · rw [if_neg same]
      constructor
      · rintro (⟨member, _⟩ | rfl)
        · exact (represents.mem_iff entry).mp member
        · exact absurd rfl same
      · intro registered
        exact Or.inl ⟨(represents.mem_iff entry).mpr registered, fun here => same here.symm⟩

/-- A registration of a non-empty prefix, whether it replaces a provider or is sorted in. -/
theorem Represents.register {calls : List (String × Provider)}
    {entries : List (PrefixProvider Provider)} (represents : Represents calls entries)
    {text : String} (nonEmpty : text ≠ "") (provider : Provider) :
    Represents (calls ++ [(text, provider)]) (registerIn entries text provider) := by
  unfold registerIn
  cases updated : updateFirst
      (fun entry : PrefixProvider Provider => decide (entry.prefixText = text))
      (fun entry => { entry with provider := provider }) entries with
  | some replaced =>
      obtain ⟨kept, members⟩ := represents.kept.update
        (fun entry => { entry with provider := provider }) (fun _ => rfl) (fun _ => rfl) updated
      apply represents.of_members nonEmpty kept
      intro entry
      rw [members]
      constructor
      · rintro (other | ⟨old, _, oldText, rfl⟩)
        · exact Or.inl other
        · exact Or.inr (by rw [oldText])
      · rintro (other | rfl)
        · exact Or.inl other
        · -- The replaced entry exists, since the search for it succeeded.
          obtain ⟨front, old, back, split, isWanted, _⟩ := updateFirst_eq_some updated
          have oldText : old.prefixText = text := of_decide_eq_true isWanted
          exact Or.inr ⟨old, by simp [split], oldText, by rw [oldText]⟩
  | none =>
      have fresh : ∀ old ∈ entries, old.prefixText ≠ text := by
        intro old member
        exact of_decide_eq_false (updateFirst_eq_none.mp updated old member)
      apply represents.of_members nonEmpty (represents.kept.push fresh)
      intro entry
      rw [mem_sortByRank, List.mem_append, List.mem_singleton]
      constructor
      · rintro (member | isNew)
        · exact Or.inl ⟨member, fresh entry member⟩
        · exact Or.inr isNew
      · rintro (⟨member, _⟩ | isNew)
        · exact Or.inl member
        · exact Or.inr isNew

theorem Represents.refuse {calls : List (String × Provider)}
    {entries : List (PrefixProvider Provider)} (represents : Represents calls entries)
    (provider : Provider) : Represents (calls ++ [("", provider)]) entries where
  kept := represents.kept
  mem_iff := by
    intro entry
    rw [represents.mem_iff, latest_concat]
    constructor
    · rintro ⟨nonEmpty, found⟩
      rw [if_neg nonEmpty.symm]
      exact ⟨nonEmpty, found⟩
    · rintro ⟨nonEmpty, found⟩
      rw [if_neg nonEmpty.symm] at found
      exact ⟨nonEmpty, found⟩

/-- The table after any registrations; the rest of the state stays as it was made. -/
theorem registerAll_represents (exporter : Exporter) (provider : Provider)
    (calls : List (String × Provider)) :
    ∃ entries, registerAll calls (some (⟨exporter, provider, []⟩ :
        GlobalMetricState Exporter Provider)) = some ⟨exporter, provider, entries⟩ ∧
      Represents calls entries := by
  induction calls using List.reverseRecOn with
  | nil => exact ⟨[], rfl, represents_nil⟩
  | append_singleton calls call ih =>
      obtain ⟨entries, before, represents⟩ := ih
      have step : registerAll (calls ++ [call]) (some (⟨exporter, provider, []⟩ :
          GlobalMetricState Exporter Provider)) =
          (registerPrefixProvider call.1 call.2 (some ⟨exporter, provider, entries⟩)).2 := by
        rw [← before]
        simp [registerAll]
      rw [step]
      by_cases empty : call.1 = ""
      · refine ⟨entries, by simp [registerPrefixProvider, empty], ?_⟩
        have same : call = ("", call.2) := Prod.ext empty rfl
        rw [same]
        exact represents.refuse call.2
      · exact ⟨_, by simp [registerPrefixProvider, empty], represents.register empty call.2⟩

/-! ## The provider of a metric -/

/-- The provider registered last for the longest registered start of the name, if any. -/
inductive Selects (calls : List (String × Provider)) (metricName : String) :
    Option Provider → Prop where
  | longest {text : String} {provider : Provider} (nonEmpty : text ≠ "")
      (starts : startsWith metricName text = true) (last : latest calls text = some provider)
      (longest : ∀ other ∈ calls.map Prod.fst, other ≠ "" → startsWith metricName other = true →
        byteLen other ≤ byteLen text) : Selects calls metricName (some provider)
  | none (unmatched : ∀ other ∈ calls.map Prod.fst, other ≠ "" →
      startsWith metricName other = false) : Selects calls metricName none

theorem Selects.unique {calls : List (String × Provider)} {metricName : String}
    {first second : Option Provider} (selectsFirst : Selects calls metricName first)
    (selectsSecond : Selects calls metricName second) : first = second := by
  cases selectsFirst with
  | @longest text provider nonEmpty starts last longest =>
      have registered := (latest_isSome calls text).mp ⟨provider, last⟩
      cases selectsSecond with
      | @longest otherText otherProvider otherNonEmpty otherStarts otherLast otherLongest =>
          have otherRegistered := (latest_isSome calls otherText).mp ⟨otherProvider, otherLast⟩
          have sameLength : byteLen text = byteLen otherText :=
            le_antisymm (otherLongest text registered nonEmpty starts)
              (longest otherText otherRegistered otherNonEmpty otherStarts)
          rw [start_unique starts otherStarts sameLength, otherLast] at last
          exact last.symm
      | none unmatched =>
          rw [unmatched text registered nonEmpty] at starts
          cases starts
  | none unmatched =>
      cases selectsSecond with
      | @longest text provider nonEmpty starts last longest =>
          rw [unmatched text ((latest_isSome calls text).mp ⟨provider, last⟩) nonEmpty] at starts
          cases starts
      | none _ => rfl

theorem Represents.selects {calls : List (String × Provider)}
    {entries : List (PrefixProvider Provider)} (represents : Represents calls entries)
    (metricName : String) :
    Selects calls metricName
      ((entries.find? fun entry => startsWith metricName entry.prefixText).map
        PrefixProvider.provider) := by
  have entryOf : ∀ other ∈ calls.map Prod.fst, other ≠ "" →
      ∃ entry ∈ entries, entry.prefixText = other := by
    intro other registered nonEmpty
    exact List.mem_map.mp ((represents.mem_prefixes other).mpr ⟨nonEmpty, registered⟩)
  cases found : entries.find? fun entry => startsWith metricName entry.prefixText with
  | some entry =>
      obtain ⟨nonEmpty, last⟩ := (represents.mem_iff entry).mp (List.mem_of_find?_eq_some found)
      have starts := List.find?_some found
      refine Selects.longest nonEmpty starts last ?_
      intro other registered otherNonEmpty otherStarts
      obtain ⟨otherEntry, member, rfl⟩ := entryOf other registered otherNonEmpty
      exact represents.kept.find?_highest found member otherStarts
  | none =>
      apply Selects.none
      intro other registered nonEmpty
      obtain ⟨entry, member, rfl⟩ := entryOf other registered nonEmpty
      simpa using List.find?_eq_none.mp found entry member

/-- The ways to initialize the state, with the default provider it then has. -/
inductive Initialized (sdk : MetricSdk Exporter Provider Meter) :
    Option (GlobalMetricState Exporter Provider) → Provider → Prop where
  | withProvider (exporter : Exporter) (provider : Provider) :
      Initialized sdk (initWithProvider exporter provider none).2 provider
  | onDemand : Initialized sdk (some (globalState sdk none)) sdk.build.2

theorem Initialized.eq {sdk : MetricSdk Exporter Provider Meter}
    {state : Option (GlobalMetricState Exporter Provider)} {provider : Provider}
    (initialized : Initialized sdk state provider) :
    ∃ exporter, state = some ⟨exporter, provider, []⟩ := by
  cases initialized with
  | withProvider exporter => exact ⟨exporter, rfl⟩
  | onDemand => exact ⟨sdk.build.1, rfl⟩

/-- After any registrations, a metric uses the provider registered last for the longest
registered prefix of its name, or else the default provider, and every registered prefix is kept
exactly once. -/
theorem meterForMetric_longest_prefix {sdk : MetricSdk Exporter Provider Meter}
    {init : Option (GlobalMetricState Exporter Provider)} {provider : Provider}
    (initialized : Initialized sdk init provider) (calls : List (String × Provider)) :
    (∀ metricName, ∃ selected, Selects calls metricName selected ∧
        meterForMetric sdk metricName (registerAll calls init) =
          sdk.meter (selected.getD provider) "hopr") ∧
      ∃ state, registerAll calls init = some state ∧
        ∀ text, (state.prefixProviders.map PrefixProvider.prefixText).count text =
          if text ≠ "" ∧ text ∈ calls.map Prod.fst then 1 else 0 := by
  obtain ⟨exporter, rfl⟩ := initialized.eq
  obtain ⟨entries, after, represents⟩ := registerAll_represents exporter provider calls
  rw [after]
  refine ⟨?_, _, rfl, ?_⟩
  · intro metricName
    refine ⟨_, represents.selects metricName, ?_⟩
    change (match entries.find? fun entry => startsWith metricName entry.prefixText with
      | some entry => sdk.meter entry.provider "hopr"
      | none => sdk.meter provider "hopr") = _
    cases entries.find? fun entry => startsWith metricName entry.prefixText with
    | some entry => rfl
    | none => rfl
  · intro text
    by_cases registered : text ≠ "" ∧ text ∈ calls.map Prod.fst
    · rw [if_pos registered]
      exact List.count_eq_one_of_mem represents.kept.nodup
        ((represents.mem_prefixes text).mpr registered)
    · rw [if_neg registered]
      apply List.count_eq_zero_of_not_mem
      intro member
      exact registered ((represents.mem_prefixes text).mp member)

def numberedSdk : MetricSdk Unit Nat (Nat × String) where
  build := ((), 0)
  meter provider scope := (provider, scope)

theorem meterForMetric_longest_prefix_numbered :
    (∀ metricName, ∃ selected,
        Selects [("hopr_", 1), ("hopr_packet_", 2), ("hopr_", 3)] metricName selected ∧
          meterForMetric numberedSdk metricName
              (registerAll [("hopr_", 1), ("hopr_packet_", 2), ("hopr_", 3)]
                (some (globalState numberedSdk none))) =
            numberedSdk.meter (selected.getD 0) "hopr") ∧
      ∃ state, registerAll [("hopr_", 1), ("hopr_packet_", 2), ("hopr_", 3)]
          (some (globalState numberedSdk none)) = some state ∧
        ∀ text, (state.prefixProviders.map PrefixProvider.prefixText).count text =
          if text ≠ "" ∧ text ∈ ["hopr_", "hopr_packet_", "hopr_"] then 1 else 0 :=
  meterForMetric_longest_prefix Initialized.onDemand
    [("hopr_", 1), ("hopr_packet_", 2), ("hopr_", 3)]

end HoprTypes.Telemetry
