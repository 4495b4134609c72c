import CounterBoard.Dashboard
import CounterBoard.Proofs.Carrying

/-!
The chart of a series whose points have a value for each kind: nothing fails while it is drawn, and
it has a line for each kind. A resampled log is such a series, and the line of a counter shows what
that counter holds where the cursor has come.
-/

set_option autoImplicit false
set_option relaxedAutoImplicit false

namespace CounterBoard

open CounterBoard.Time

theorem mapM_eq_ok {α β ε : Type} {f : α → Except ε β} {g : α → β} {l : List α}
    (h : ∀ a ∈ l, f a = .ok (g a)) : l.mapM f = .ok (l.map g) := by
  induction l with
  | nil => rfl
  | cons a l ih =>
    rw [List.mapM_cons, h a List.mem_cons_self, ih fun b hb => h b (List.mem_cons_of_mem a hb)]
    rfl

def ChartStyle.dataset (style : ChartStyle) (kind : CounterKind) (data : List UInt64) : Dataset :=
  ⟨(style.line kind).label, (style.line kind).borderColor, (style.line kind).backgroundColor, data⟩

namespace Series

variable {series : Series} {index : Nat}

/-- The values of all points in one place, with a zero where a point has none. -/
def line (series : Series) (index : Nat) : List UInt64 :=
  series.points.map fun p => p.values[index]?.getD 0

@[simp]
theorem length_line (series : Series) (index : Nat) :
    (series.line index).length = series.timestamps.length := by
  simp [line, timestamps]

theorem valuesAt_eq_ok (hwide : ∀ p ∈ series.points, index < p.values.length) :
    series.valuesAt index = .ok (series.line index) := by
  refine mapM_eq_ok fun p hp => ?_
  rw [GridPoint.value, List.getElem?_eq_getElem (hwide p hp)]
  rfl

def IsFilled (series : Series) : Prop :=
  ∀ p ∈ series.points, series.kinds.length ≤ p.values.length

instance (series : Series) : Decidable series.IsFilled :=
  inferInstanceAs (Decidable (∀ p ∈ series.points, series.kinds.length ≤ p.values.length))

end Series

namespace Chart

variable {series : Series} {style : ChartStyle}

/-- The chart of a series whose points have all the values that it needs. -/
def ofFilled (series : Series) (style : ChartStyle) : Chart :=
  ⟨series.timestamps, series.kinds.zipIdx.map fun (kind, index) =>
    style.dataset kind (series.line index)⟩

theorem datasetOf_eq_ok {kind : CounterKind} {index : Nat}
    (hwide : ∀ p ∈ series.points, index < p.values.length) :
    datasetOf series style kind index = .ok (style.dataset kind (series.line index)) := by
  rw [datasetOf, Series.valuesAt_eq_ok hwide]
  rfl

theorem ofSeries_of_isFilled (h : series.IsFilled) :
    ofSeries series style = .ok (ofFilled series style) := by
  have hdatasets : ∀ a ∈ series.kinds.zipIdx,
      datasetOf series style a.1 a.2 = .ok (style.dataset a.1 (series.line a.2)) := by
    rintro ⟨kind, index⟩ ha
    have hlt : index < series.kinds.length :=
      (List.getElem?_eq_some_iff.mp (List.mem_zipIdx_iff_getElem?.mp ha)).1
    exact datasetOf_eq_ok fun p hp => Nat.lt_of_lt_of_le hlt (h p hp)
  change (series.kinds.zipIdx.mapM (fun a => datasetOf series style a.1 a.2) >>=
    fun datasets => _) = _
  rw [mapM_eq_ok hdatasets]
  rfl

end Chart

namespace Window

variable {selection : Selection} {now : Instant} (w : Window selection now)

def line (log : Log) (mode : Sampling) (c : Counter) : List UInt64 :=
  (List.range selection.gridLength).map fun k => c.after (w.reach log mode (k + 1))

def chart (log : Log) (mode : Sampling) (style : ChartStyle) : Chart :=
  ⟨w.points, log.counters.map fun c => style.dataset c.kind (w.line log mode c)⟩

theorem line_series {log : Log} {mode : Sampling} {index : Nat} {c : Counter}
    (hc : log.counters[index]? = some c) : (w.series log mode).line index = w.line log mode c := by
  simp [Series.line, series, line, Log.rowAfter, hc]

theorem isFilled_series (log : Log) (mode : Sampling) : (w.series log mode).IsFilled := by
  intro p hp
  obtain ⟨k, -, rfl⟩ := List.mem_map.mp hp
  simp [series, Log.kinds, Log.rowAfter]

theorem timestamps_series (log : Log) (mode : Sampling) :
    (w.series log mode).timestamps = w.points := by
  simp [Series.timestamps, series, points]

theorem ofSeries_series (log : Log) (mode : Sampling) (style : ChartStyle) :
    Chart.ofSeries (w.series log mode) style = .ok (w.chart log mode style) := by
  have hlines : log.kinds.zipIdx.map (fun p => style.dataset p.1 ((w.series log mode).line p.2)) =
      log.counters.map fun c => style.dataset c.kind (w.line log mode c) := by
    apply List.ext_getElem
    · simp [Log.kinds]
    · intro i hi hi'
      have hlt : i < log.counters.length := by simpa using hi'
      simp [Log.kinds, w.line_series (List.getElem?_eq_getElem hlt)]
  rw [Chart.ofSeries_of_isFilled (w.isFilled_series log mode), Chart.ofFilled,
    w.timestamps_series]
  exact congrArg (fun datasets => Except.ok (Chart.mk w.points datasets)) hlines

theorem length_labels_chart (log : Log) (mode : Sampling) (style : ChartStyle) :
    (w.chart log mode style).labels.length = selection.gridLength := by
  simp [chart, points]

end Window

namespace Dashboard

variable {d : Dashboard} {now : Instant}

theorem chart_eq (w : Window d.selection now) :
    d.chart now = .ok (w.chart d.store.log d.sampling d.style) := by
  rw [chart, w.resample_eq d.store.log d.sampling]
  exact w.ofSeries_series d.store.log d.sampling d.style

theorem nonempty_window_of_chart {chart : Chart} (h : d.chart now = .ok chart) :
    Nonempty (Window d.selection now) := by
  apply (Window.resample_isOk_iff d.store.log d.selection now d.sampling).mp
  obtain ⟨series, hseries, -⟩ := exists_of_bind_eq_ok h
  exact ⟨series, hseries⟩

theorem length_labels_of_chart {chart : Chart} (h : d.chart now = .ok chart) :
    chart.labels.length = d.selection.gridLength := by
  obtain ⟨w⟩ := nonempty_window_of_chart h
  rw [chart_eq w] at h
  cases h
  exact w.length_labels_chart d.store.log d.sampling d.style

theorem frame?_of_ready (hready : d.state = .ready) (w : Window d.selection now) :
    d.frame? now = .ok (some (w.chart d.store.log d.sampling d.style)) := by
  rw [frame?, if_pos hready, chart_eq w]
  rfl

theorem frame?_of_not_ready (hready : d.state ≠ .ready) : d.frame? now = .ok none :=
  if_neg hready

end Dashboard

end CounterBoard
