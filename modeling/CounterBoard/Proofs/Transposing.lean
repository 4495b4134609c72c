import CounterBoard.Proofs.Drawing
import Mathlib.Data.Finset.Max

/-!
The columns of any series, read in two ways: by the place of a kind among the kinds, and by the
label of its line on the chart. Points may have more or fewer values than there are kinds, and a
kind may come several times. A chart cannot be drawn exactly if some point is too narrow, and then
it is the narrowest point that is complained of. Where it can be drawn, both ways read the same.
-/

set_option autoImplicit false
set_option relaxedAutoImplicit false

namespace CounterBoard

open CounterBoard.Time

theorem mapM_eq_error {α β ε : Type} {f : α → Except ε β} {front back : List α} {a : α} {e : ε}
    (hfront : ∀ b ∈ front, ∃ c, f b = .ok c) (ha : f a = .error e) :
    (front ++ a :: back).mapM f = .error e := by
  induction front with
  | nil =>
    rw [List.nil_append, List.mapM_cons, ha]
    rfl
  | cons b front ih =>
    obtain ⟨c, hc⟩ := hfront b List.mem_cons_self
    have htail := ih fun d hd => hfront d (List.mem_cons_of_mem b hd)
    rw [List.cons_append, List.mapM_cons, hc, htail]
    rfl

namespace Series

variable {series : Series} {index : Nat}

theorem map_some_line (hwide : ∀ p ∈ series.points, index < p.values.length) :
    (series.line index).map some = series.points.map fun p => p.values[index]? := by
  rw [line, List.map_map]
  refine List.map_congr_left fun p hp => ?_
  rw [Function.comp_apply, List.getElem?_eq_getElem (hwide p hp)]
  rfl

theorem valuesAt_eq_error {p : GridPoint} (hp : p ∈ series.points)
    (hnarrowest : ∀ q ∈ series.points, p.values.length ≤ q.values.length) :
    series.valuesAt p.values.length =
      .error (.missingColumn p.values.length p.values.length) := by
  cases hfirst : series.points.find? (fun q => q.values.length ≤ p.values.length) with
  | none =>
    have hwider := List.find?_eq_none.mp hfirst p hp
    simp at hwider
  | some q =>
    obtain ⟨hnarrow, front, back, hsplit, hfront⟩ := List.find?_eq_some_iff_append.mp hfirst
    have hq : q ∈ series.points := List.mem_of_find?_eq_some hfirst
    have hwidth : q.values.length = p.values.length :=
      Nat.le_antisymm (of_decide_eq_true hnarrow) (hnarrowest q hq)
    rw [valuesAt, hsplit]
    apply mapM_eq_error
    · intro r hr
      have hwide : p.values.length < r.values.length := by simpa using hfront r hr
      exact ⟨r.values[p.values.length], by rw [GridPoint.value, List.getElem?_eq_getElem hwide]⟩
    · rw [GridPoint.value, List.getElem?_eq_none (Nat.le_of_eq hwidth), hwidth]

theorem exists_narrowest (h : ¬ series.IsFilled) :
    ∃ p ∈ series.points, p.values.length < series.kinds.length ∧
      ∀ q ∈ series.points, p.values.length ≤ q.values.length := by
  simp only [IsFilled, not_forall, not_le] at h
  obtain ⟨q, hq, hnarrow⟩ := h
  obtain ⟨p, hp, hle⟩ := series.points.toFinset.exists_min_image (fun p => p.values.length)
    ⟨q, List.mem_toFinset.mpr hq⟩
  have hnarrowest : ∀ r ∈ series.points, p.values.length ≤ r.values.length :=
    fun r hr => hle r (List.mem_toFinset.mpr hr)
  exact ⟨p, List.mem_toFinset.mp hp, Nat.lt_of_le_of_lt (hnarrowest q hq) hnarrow, hnarrowest⟩

theorem column_eq_ok (hfilled : series.IsFilled) (kind : CounterKind) :
    series.column kind = .ok ((series.kinds.findIdx? (· = kind)).map series.line) := by
  rw [column]
  cases hplace : series.kinds.findIdx? (· = kind) with
  | none => rfl
  | some place =>
    have hlt := (List.findIdx?_eq_some_iff_getElem.mp hplace).1
    have hwide : ∀ p ∈ series.points, place < p.values.length :=
      fun p hp => Nat.lt_of_lt_of_le hlt (hfilled p hp)
    simp only [valuesAt_eq_ok hwide]
    rfl

end Series

namespace Chart

variable {series : Series} {style : ChartStyle}

/-- Columns are drawn one after the other, so the first that fails is the one after the last value
of the narrowest point. -/
theorem ofSeries_of_narrowest {p : GridPoint} (hp : p ∈ series.points)
    (hnarrow : p.values.length < series.kinds.length)
    (hnarrowest : ∀ q ∈ series.points, p.values.length ≤ q.values.length) :
    ofSeries series style = .error (.missingColumn p.values.length p.values.length) := by
  have hsplit : series.kinds.zipIdx = (series.kinds.take p.values.length).zipIdx ++
      (series.kinds[p.values.length], p.values.length) ::
        (series.kinds.drop (p.values.length + 1)).zipIdx (p.values.length + 1) := by
    conv =>
      lhs
      rw [← List.take_append_drop p.values.length series.kinds, List.drop_eq_getElem_cons hnarrow]
    rw [List.zipIdx_append, List.zipIdx_cons, List.length_take, Nat.min_eq_left hnarrow.le,
      Nat.zero_add]
  have hfront : ∀ a ∈ (series.kinds.take p.values.length).zipIdx,
      ∃ dataset, datasetOf series style a.1 a.2 = .ok dataset := by
    rintro ⟨kind, index⟩ ha
    have hlt := (List.getElem?_eq_some_iff.mp (List.mem_zipIdx_iff_getElem?.mp ha)).1
    rw [List.length_take] at hlt
    have hbelow : index < p.values.length := by omega
    exact ⟨_, datasetOf_eq_ok fun q hq => Nat.lt_of_lt_of_le hbelow (hnarrowest q hq)⟩
  have hlast : datasetOf series style series.kinds[p.values.length] p.values.length =
      .error (.missingColumn p.values.length p.values.length) := by
    rw [datasetOf, Series.valuesAt_eq_error hp hnarrowest]
    rfl
  have hcolumns : series.kinds.zipIdx.mapM (fun a => datasetOf series style a.1 a.2) =
      .error (.missingColumn p.values.length p.values.length) := by
    rw [hsplit]
    exact mapM_eq_error hfront hlast
  change (series.kinds.zipIdx.mapM (fun a => datasetOf series style a.1 a.2) >>=
    fun datasets => _) = _
  rw [hcolumns]
  rfl

theorem ofSeries_eq_error_iff {fault : Fault} :
    ofSeries series style = .error fault ↔
      ∃ p ∈ series.points, p.values.length < series.kinds.length ∧
        (∀ q ∈ series.points, p.values.length ≤ q.values.length) ∧
          fault = .missingColumn p.values.length p.values.length := by
  constructor
  · intro hfault
    by_cases hfilled : series.IsFilled
    · rw [ofSeries_of_isFilled hfilled] at hfault
      cases hfault
    · obtain ⟨p, hp, hnarrow, hnarrowest⟩ := Series.exists_narrowest hfilled
      rw [ofSeries_of_narrowest hp hnarrow hnarrowest] at hfault
      exact ⟨p, hp, hnarrow, hnarrowest, (Except.error.inj hfault).symm⟩
  · rintro ⟨p, hp, hnarrow, hnarrowest, rfl⟩
    exact ofSeries_of_narrowest hp hnarrow hnarrowest

theorem ofSeries_eq_ok_iff {chart : Chart} :
    ofSeries series style = .ok chart ↔ series.IsFilled ∧ chart = ofFilled series style := by
  constructor
  · intro h
    by_cases hfilled : series.IsFilled
    · rw [ofSeries_of_isFilled hfilled] at h
      exact ⟨hfilled, (Except.ok.inj h).symm⟩
    · obtain ⟨p, hp, hnarrow, hnarrowest⟩ := Series.exists_narrowest hfilled
      rw [ofSeries_of_narrowest hp hnarrow hnarrowest] at h
      cases h
  · rintro ⟨hfilled, rfl⟩
    exact ofSeries_of_isFilled hfilled

theorem map_data_dataset? (hlabels : ∀ a b, (style.line a).label = (style.line b).label → a = b)
    (series : Series) (kind : CounterKind) :
    ((ofFilled series style).dataset? (style.line kind).label).map Dataset.data =
      (series.kinds.findIdx? (· = kind)).map series.line := by
  have htest : ((fun d : Dataset => decide (d.label = (style.line kind).label)) ∘
      fun a : CounterKind × Nat => style.dataset a.1 (series.line a.2)) =
        fun a => decide (a.1 = kind) := by
    funext a
    exact decide_eq_decide.mpr ⟨hlabels a.1 kind, fun h => h ▸ rfl⟩
  rw [dataset?, ofFilled]
  change (List.find? _ (series.kinds.zipIdx.map fun a => _)).map _ = _
  rw [List.find?_map, htest, List.findIdx?_eq_fst_find?_zipIdx, Option.map_map, Option.map_map]
  rfl

end Chart

/-- A chart of a series cannot be drawn if a point has fewer values than there are kinds, and then
the narrowest point is complained of. Otherwise it has a line for each kind, over all points, and
under labels of their own the line of a kind is its column; a kind without the one is without the
other. -/
theorem columns_read_alike (series : Series) (style : ChartStyle) :
    ((∃ fault, Chart.ofSeries series style = .error fault) ↔
      ∃ p ∈ series.points, p.values.length < series.kinds.length) ∧
    (∀ fault, Chart.ofSeries series style = .error fault →
      ∃ p ∈ series.points, (∀ q ∈ series.points, p.values.length ≤ q.values.length) ∧
        fault = .missingColumn p.values.length p.values.length) ∧
    (∀ kind fault, series.column kind = .error fault →
      ∃ found, Chart.ofSeries series style = .error found) ∧
    ∀ chart, Chart.ofSeries series style = .ok chart →
      chart.labels = series.timestamps ∧
      chart.datasets.length = series.kinds.length ∧
      (∀ (index : Nat) (kind : CounterKind), series.kinds[index]? = some kind →
        ∃ data, chart.datasets[index]? = some (style.dataset kind data) ∧
          data.length = chart.labels.length ∧
          data.map some = series.points.map fun p => p.values[index]?) ∧
      ((∀ a b, (style.line a).label = (style.line b).label → a = b) →
        ∀ kind, series.column kind =
          .ok ((chart.dataset? (style.line kind).label).map Dataset.data)) := by
  have hnarrow : (∃ p ∈ series.points, p.values.length < series.kinds.length) →
      ∃ fault, Chart.ofSeries series style = .error fault := by
    rintro ⟨q, hq, hlt⟩
    obtain ⟨p, hp, hless, hnarrowest⟩ :=
      Series.exists_narrowest fun hfilled => Nat.not_le.mpr hlt (hfilled q hq)
    exact ⟨_, Chart.ofSeries_of_narrowest hp hless hnarrowest⟩
  refine ⟨⟨?_, hnarrow⟩, ?_, ?_, ?_⟩
  · rintro ⟨fault, hfault⟩
    obtain ⟨p, hp, hless, -, -⟩ := Chart.ofSeries_eq_error_iff.mp hfault
    exact ⟨p, hp, hless⟩
  · intro fault hfault
    obtain ⟨p, hp, -, hnarrowest, rfl⟩ := Chart.ofSeries_eq_error_iff.mp hfault
    exact ⟨p, hp, hnarrowest, rfl⟩
  · intro kind fault hfault
    by_contra hdrawn
    have hfilled : series.IsFilled := by
      intro p hp
      exact Nat.not_lt.mp fun hlt => hdrawn (hnarrow ⟨p, hp, hlt⟩)
    rw [Series.column_eq_ok hfilled] at hfault
    cases hfault
  · intro chart hchart
    obtain ⟨hfilled, rfl⟩ := Chart.ofSeries_eq_ok_iff.mp hchart
    refine ⟨rfl, by simp [Chart.ofFilled], ?_, ?_⟩
    · intro index kind hkind
      have hlt := (List.getElem?_eq_some_iff.mp hkind).1
      refine ⟨series.line index, ?_, series.length_line index, Series.map_some_line
        fun p hp => Nat.lt_of_lt_of_le hlt (hfilled p hp)⟩
      simp [Chart.ofFilled, hkind]
    · intro hlabels kind
      rw [Series.column_eq_ok hfilled, Chart.map_data_dataset? hlabels]

private def raggedSeries : Series where
  selection := .standard
  kinds := [.connections, .completed, .torrents]
  points := [⟨⟨1720000800, 0, by decide⟩, [1, 2, 3]⟩, ⟨⟨1720000860, 0, by decide⟩, [4]⟩,
    ⟨⟨1720000920, 0, by decide⟩, [5, 6]⟩]
  consumed := 0

private def repeatedSeries : Series where
  selection := .standard
  kinds := [.torrents, .connections, .torrents]
  points := [⟨⟨1720000800, 0, by decide⟩, [7, 1, 8, 9]⟩,
    ⟨⟨1720000860, 0, by decide⟩, [7, 2, 8]⟩]
  consumed := 2

private theorem label_standard_injective (a b : CounterKind)
    (h : (ChartStyle.standard.line a).label = (ChartStyle.standard.line b).label) : a = b := by
  revert h
  cases a <;> cases b <;> simp [ChartStyle.line, ChartStyle.standard, LineStyle.tinted]

theorem columns_read_alike_repeatedTorrents :
    (∃ p ∈ raggedSeries.points, (∀ q ∈ raggedSeries.points, p.values.length ≤ q.values.length) ∧
      Chart.ofSeries raggedSeries .standard =
        .error (.missingColumn p.values.length p.values.length)) ∧
    raggedSeries.column .torrents = .error (.missingColumn 1 2) ∧
    ∃ chart, Chart.ofSeries repeatedSeries .standard = .ok chart ∧
      chart.labels = repeatedSeries.timestamps ∧
      (∃ data, chart.datasets[2]? = some (ChartStyle.standard.dataset .torrents data) ∧
        data.length = chart.labels.length ∧
        data.map some = repeatedSeries.points.map fun p => p.values[2]?) ∧
      repeatedSeries.column .torrents =
        .ok ((chart.dataset? (ChartStyle.standard.line .torrents).label).map Dataset.data) ∧
      repeatedSeries.column .completed =
        .ok ((chart.dataset? (ChartStyle.standard.line .completed).label).map Dataset.data) := by
  have hcolumn : raggedSeries.column .torrents = .error (.missingColumn 1 2) := rfl
  obtain ⟨-, hnarrowest, hfails, -⟩ := columns_read_alike raggedSeries .standard
  obtain ⟨found, hfound⟩ := hfails _ _ hcolumn
  obtain ⟨p, hp, hwidth, rfl⟩ := hnarrowest found hfound
  obtain ⟨-, -, -, hdrawn⟩ := columns_read_alike repeatedSeries .standard
  obtain ⟨hlabels, -, hlines, hcolumns⟩ := hdrawn _ rfl
  exact ⟨⟨p, hp, hwidth, hfound⟩, hcolumn, _, rfl, hlabels, hlines 2 .torrents rfl,
    hcolumns label_standard_injective .torrents, hcolumns label_standard_injective .completed⟩

end CounterBoard
