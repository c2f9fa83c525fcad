import EventLink.Telemetry.Ledger
/-!
What a ledger says about the measurements that it recorded.

The entries of a ledger come in the order of their first measurements, which says nothing about their
values.  A counter holds how many measurements of its series were recorded, counters that differ in
their attributes add up, and the series of the status holds the latest status.
-/
namespace EventLink

def Measurement.status? : Measurement → Option LinkStatus
  | status s => some s
  | _ => none

theorem Measurement.update_of_counter {m : Measurement} (counter : m.series ≠ .linkStatus)
    (old : Option Int) : m.update old = old.getD 0 + 1 := by
  cases m with
  | status s => exact absurd rfl counter
  | _ => rfl

theorem Measurement.status?_of_counter {m : Measurement} (counter : m.series ≠ .linkStatus) :
    m.status? = none := by
  cases m with
  | status s => exact absurd rfl counter
  | _ => rfl

theorem Measurement.exists_of_series {m : Measurement} (h : m.series = .linkStatus) :
    ∃ s, m = .status s := by
  cases m with
  | status s => exact ⟨s, rfl⟩
  | _ => cases h

namespace Ledger

variable (ledger : Ledger) (m : Measurement) (measurements : List Measurement)

def recordAll : Ledger :=
  measurements.foldl record ledger

/-- The value of a counter; nothing is counted that was never recorded. -/
def count (series : Series) : Int :=
  (ledger.value? series).getD 0

/-- The sum of the values of some entries. -/
def sumOf (among : Series → Bool) : List (Series × Int) → Int
  | [] => 0
  | (series, value) :: rest => (if among series then value else 0) + sumOf among rest

/-- The sum of the values of some series. -/
def total (among : Series → Bool) : Int :=
  sumOf among ledger.entries

theorem lookup_cons (series first : Series) (value : Int) (rest : List (Series × Int)) :
    ((first, value) :: rest).lookup series =
      if series = first then some value else rest.lookup series := by
  rw [List.lookup_cons]
  by_cases hsame : series = first
  · simp [hsame]
  · rw [if_neg hsame, beq_false_of_ne hsame]

theorem lookup_recordIn (series : Series) (entries : List (Series × Int)) :
    (recordIn m entries).lookup series =
      if series = m.series then some (m.update (entries.lookup series))
      else entries.lookup series := by
  induction entries with
  | nil => rw [recordIn, lookup_cons]; rfl
  | cons entry rest ih =>
    obtain ⟨first, value⟩ := entry
    rw [recordIn, lookup_cons]
    by_cases hfirst : first = m.series
    · subst hfirst
      rw [if_pos rfl, lookup_cons]
      by_cases hsame : series = m.series <;> simp [hsame]
    · rw [if_neg hfirst, lookup_cons, ih]
      by_cases hsame : series = first
      · simp [hsame, hfirst]
      · simp [hsame]

/-- A measurement changes the value of its own series. -/
theorem value?_record (series : Series) :
    (ledger.record m).value? series =
      if series = m.series then some (m.update (ledger.value? series))
      else ledger.value? series :=
  lookup_recordIn m series ledger.entries

/-- A measurement of a counter raises the sum of the counters that it belongs to by one. -/
theorem sumOf_recordIn {among : Series → Bool} (counters : among .linkStatus = false)
    (entries : List (Series × Int)) :
    sumOf among (recordIn m entries) = sumOf among entries + if among m.series then 1 else 0 := by
  have raised (old : Option Int) (h : among m.series = true) : m.update old = old.getD 0 + 1 := by
    refine Measurement.update_of_counter ?_ old
    intro hstatus
    rw [hstatus, counters] at h
    exact absurd h (by decide)
  induction entries with
  | nil =>
    by_cases hcounted : among m.series = true
    · simp [recordIn, sumOf, hcounted, raised none hcounted]
    · simp [recordIn, sumOf, hcounted]
  | cons entry rest ih =>
    obtain ⟨first, value⟩ := entry
    rw [recordIn]
    by_cases hfirst : first = m.series
    · subst hfirst
      rw [if_pos rfl, sumOf, sumOf]
      by_cases hcounted : among m.series = true
      · simp only [if_pos hcounted, raised (some value) hcounted, Option.getD_some]
        omega
      · simp only [if_neg hcounted]
        omega
    · rw [if_neg hfirst, sumOf, sumOf, ih]
      omega

/-- Records measurements after others. -/
theorem recordAll_append (later : List Measurement) :
    ledger.recordAll (measurements ++ later) = (ledger.recordAll measurements).recordAll later :=
  List.foldl_append

theorem total_record {among : Series → Bool} (counters : among .linkStatus = false) :
    (ledger.record m).total among = ledger.total among + if among m.series then 1 else 0 :=
  sumOf_recordIn m counters ledger.entries

/-- A sum of counters grows by the number of their measurements. -/
theorem total_recordAll {among : Series → Bool} (counters : among .linkStatus = false) :
    (ledger.recordAll measurements).total among =
      ledger.total among + measurements.countP fun (m : Measurement) => among m.series := by
  induction measurements generalizing ledger with
  | nil => simp [recordAll]
  | cons m rest ih =>
    rw [recordAll, List.foldl_cons, ← recordAll, ih, total_record ledger m counters,
      List.countP_cons]
    push_cast
    split <;> omega

/-- A counter grows by the number of its measurements. -/
theorem count_recordAll {series : Series} (counter : series ≠ .linkStatus) :
    (ledger.recordAll measurements).count series =
      ledger.count series + measurements.countP fun (m : Measurement) => m.series = series := by
  induction measurements generalizing ledger with
  | nil => simp [recordAll]
  | cons m rest ih =>
    rw [recordAll, List.foldl_cons, ← recordAll, ih, count, value?_record, List.countP_cons]
    by_cases hsame : series = m.series
    · rw [if_pos hsame, Measurement.update_of_counter (hsame ▸ counter), Option.getD_some, ← count,
        if_pos (decide_eq_true hsame.symm)]
      omega
    · rw [if_neg hsame, if_neg (by simpa using Ne.symm hsame), Nat.add_zero, ← count]

/-- The series of the status holds the latest status. -/
theorem value?_linkStatus_recordAll :
    (ledger.recordAll measurements).value? .linkStatus =
      ((measurements.filterMap Measurement.status?).getLast?.map LinkStatus.gauge).or
        (ledger.value? .linkStatus) := by
  induction measurements generalizing ledger with
  | nil => rfl
  | cons m rest ih =>
    rw [recordAll, List.foldl_cons, ← recordAll, ih, value?_record, List.filterMap_cons]
    by_cases hstatus : m.series = .linkStatus
    · obtain ⟨s, rfl⟩ := Measurement.exists_of_series hstatus
      simp only [Measurement.status?, List.getLast?_cons]
      cases (rest.filterMap Measurement.status?).getLast? <;> rfl
    · rw [if_neg (Ne.symm hstatus), Measurement.status?_of_counter hstatus]

end Ledger

end EventLink
