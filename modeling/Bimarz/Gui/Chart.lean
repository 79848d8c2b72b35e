import Bimarz.Effect.Run
import Bimarz.Gui.Table
import Mathlib.Data.List.DropRight
import Mathlib.Data.List.MinMax
import Mathlib.Tactic.Linarith

/-!
# The latency chart (`gui/latency_chart.py`)

The widget draws its last points, and `chart_of_run` says which ones they are in every run: the
latest `maxPoints` measurements since it was cleared, each within the range of both axes.
-/

namespace Bimarz.Gui.LatencyChart

open Effect
open ProfileTable (formatFixed)

/-- A `float`. -/
inductive Measure
  | finite (ms : ℚ)
  | infinite (negative : Bool)
  | nan
  deriving DecidableEq

/-- `_MAX_POINTS`. -/
def maxPoints : ℕ := 20

structure Chart where
  /-- `_HAS_CHARTS` -/
  hasCharts : Bool
  dataPoints : List ℚ := []
  series : List (ℕ × ℚ) := []
  /-- the upper ends of the ranges, which begin at 0, once they are set -/
  axisX : Option ℕ := none
  axisY : Option ℚ := none
  fallbackLabel : String := "Latency chart unavailable"

/-- The measurements that `add_point` takes. -/
def Measure.value? : Measure → Option ℚ
  | .finite ms => if ms < 0 then none else some ms
  | .infinite _ => none
  | .nan => none

/-- `max(self._data_points, default=10)`. -/
def maxValue (dataPoints : List ℚ) : ℚ := dataPoints.max?.getD 10

namespace Chart

def refreshChart (c : Chart) : Chart :=
  { c with
    series := c.dataPoints.zipIdx.map Prod.swap
    axisX := some (max (c.dataPoints.length - 1) 1)
    axisY := some (max (maxValue c.dataPoints * (12 / 10)) 10) }

/-- The list after `append`, and `pop(0)` if it is too long. -/
def push (dataPoints : List ℚ) (ms : ℚ) : List ℚ :=
  if maxPoints < (dataPoints ++ [ms]).length then (dataPoints ++ [ms]).tail else dataPoints ++ [ms]

def addPoint (c : Chart) (latency : Measure) : Chart :=
  match latency.value? with
  | none => c
  | some ms =>
    let c := { c with dataPoints := push c.dataPoints ms }
    if c.hasCharts then c.refreshChart
    else { c with fallbackLabel := s!"Latest latency: {formatFixed ms} ms" }

def clear (c : Chart) : Chart :=
  let c := { c with dataPoints := [] }
  if c.hasCharts then { c with series := [], axisX := some 1, axisY := some 10 }
  else { c with fallbackLabel := "Latency chart unavailable" }

end Chart

/-! ## Runs -/

inductive Operation
  | add (latency : Measure)
  | clear

def Chart.step (c : Chart) : Operation → Chart
  | .add latency => c.addPoint latency
  | .clear => c.clear

/-- All measurements since the last `clear`. -/
def history (measured : List ℚ) : Operation → List ℚ
  | .add latency => measured ++ latency.value?.toList
  | .clear => []

/-- What is drawn is the data, within both axes. -/
structure Chart.Drawn (c : Chart) : Prop where
  series : c.series.map Prod.snd = c.dataPoints
  order : c.series.map Prod.fst = List.range c.dataPoints.length
  axisX : ∀ point ∈ c.series, ∀ upper, c.axisX = some upper → point.1 ≤ upper
  axisY : ∀ point ∈ c.series, ∀ upper, c.axisY = some upper → 0 ≤ point.2 ∧ point.2 ≤ upper

theorem push_rtake (measured : List ℚ) (ms : ℚ) :
    Chart.push (measured.rtake maxPoints) ms = (measured ++ [ms]).rtake maxPoints := by
  unfold Chart.push List.rtake
  by_cases hlong : maxPoints ≤ measured.length
  · have hlength : (measured.drop (measured.length - maxPoints) ++ [ms]).length = maxPoints + 1 := by
      simp
      omega
    have hdrop : (measured ++ [ms]).length - maxPoints = measured.length - maxPoints + 1 := by
      simp
      omega
    rw [if_pos (by omega), hdrop, ← List.drop_drop, List.drop_append_of_le_length (by omega),
      List.drop_one]
  · have hshort : (measured ++ [ms]).length - maxPoints = 0 := by
      simp
      omega
    rw [Nat.sub_eq_zero_of_le (by omega), hshort, List.drop_zero, List.drop_zero, if_neg (by omega)]

theorem le_maxValue {dataPoints : List ℚ} {ms : ℚ} (h : ms ∈ dataPoints) :
    ms ≤ maxValue dataPoints := by
  unfold maxValue
  cases hmax : dataPoints.max? with
  | none => rw [List.max?_eq_none_iff.mp hmax] at h; cases h
  | some greatest => exact (List.max?_eq_some_iff.mp hmax).2 ms h

theorem Measure.value?_nonneg {latency : Measure} {ms : ℚ} (h : latency.value? = some ms) :
    0 ≤ ms := by
  cases latency with
  | finite x =>
    obtain ⟨hx, rfl⟩ : ¬x < 0 ∧ x = ms := by simpa [Measure.value?] using h
    exact not_lt.mp hx
  | infinite negative => cases h
  | nan => cases h

theorem drawn_refreshChart (c : Chart) (hnonneg : ∀ ms ∈ c.dataPoints, 0 ≤ ms) :
    c.refreshChart.Drawn where
  series := by simp [Chart.refreshChart, Function.comp_def]
  order := by simp [Chart.refreshChart, Function.comp_def, List.range_eq_range']
  axisX := by
    rintro _ hpoint _ ⟨⟩
    obtain ⟨⟨ms, index⟩, hmem, rfl⟩ := List.mem_map.mp hpoint
    have hindex := List.snd_lt_of_mem_zipIdx hmem
    show index ≤ max (c.dataPoints.length - 1) 1
    omega
  axisY := by
    rintro _ hpoint _ ⟨⟩
    obtain ⟨⟨ms, index⟩, hmem, rfl⟩ := List.mem_map.mp hpoint
    have hms : ms ∈ c.dataPoints := List.fst_mem_of_mem_zipIdx hmem
    have hle := le_maxValue hms
    have hpositive := hnonneg ms hms
    refine ⟨hpositive, le_max_of_le_left ?_⟩
    show ms ≤ maxValue c.dataPoints * (12 / 10)
    linarith

theorem drawn_empty {c : Chart} (hdata : c.dataPoints = []) (hseries : c.series = []) : c.Drawn := by
  constructor <;> simp [hdata, hseries]

/-- What holds in every run: the data is a window on the measurements, and a chart shows it. -/
structure Follows (measured : List ℚ) (c : Chart) : Prop where
  nonneg : ∀ ms ∈ measured, 0 ≤ ms
  window : c.dataPoints = measured.rtake maxPoints
  drawn : c.hasCharts = true → c.Drawn

theorem Follows.step {measured : List ℚ} {c : Chart} (h : Follows measured c)
    (operation : Operation) : Follows (history measured operation) (c.step operation) := by
  cases operation with
  | add latency =>
    show Follows (measured ++ latency.value?.toList) (c.addPoint latency)
    unfold Chart.addPoint
    cases hvalue : latency.value? with
    | none => simpa using h
    | some ms =>
      have hnonneg : ∀ x ∈ measured ++ [ms], 0 ≤ x := by
        intro x hx
        rcases List.mem_append.mp hx with hx | hx
        · exact h.nonneg x hx
        · exact List.mem_singleton.mp hx ▸ Measure.value?_nonneg hvalue
      have hwindow : Chart.push c.dataPoints ms = (measured ++ [ms]).rtake maxPoints := by
        rw [h.window, push_rtake]
      simp only [Option.toList_some]
      split
      next =>
        refine ⟨hnonneg, hwindow, fun _ => drawn_refreshChart _ fun x hx => hnonneg x ?_⟩
        exact List.mem_of_mem_drop (hwindow ▸ hx)
      next hcharts => exact ⟨hnonneg, hwindow, fun h => absurd h hcharts⟩
  | clear =>
    show Follows [] c.clear
    unfold Chart.clear
    cases hcharts : c.hasCharts with
    | true => exact ⟨nofun, rfl, fun _ => drawn_empty rfl rfl⟩
    | false => exact ⟨nofun, rfl, nofun⟩

end Bimarz.Gui.LatencyChart
