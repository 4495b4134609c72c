import CounterBoard.Proofs.FirstFault

/-!
Any log, served as a snapshot. A snapshot has one column for each kind of counter that it cannot do
without, and of several counters of a kind the last one is served. What is served can be read again
if all years are plain and no column is missing that entries need; then it is served the same
once more.
-/

set_option autoImplicit false
set_option relaxedAutoImplicit false

namespace CounterBoard

open CounterBoard.Time

def lastOfKind (kind : CounterKind) (counters : List Counter) : Option Counter :=
  (counters.filter fun c => c.kind = kind).getLast?

theorem lastOfKind_append_singleton (kind : CounterKind) (counters : List Counter) (c : Counter) :
    lastOfKind kind (counters ++ [c]) =
      if c.kind = kind then some c else lastOfKind kind counters := by
  by_cases h : c.kind = kind <;> simp [lastOfKind, h]

theorem mem_of_lastOfKind {kind : CounterKind} {counters : List Counter} {c : Counter}
    (h : lastOfKind kind counters = some c) : c ∈ counters ∧ c.kind = kind := by
  have hmem := List.mem_of_getLast? h
  simpa using hmem

theorem lastOfKind_isSome_iff {kind : CounterKind} {counters : List Counter} :
    (lastOfKind kind counters).isSome ↔ kind ∈ counters.map Counter.kind := by
  rw [lastOfKind, List.getLast?_isSome, ne_eq, List.filter_eq_nil_iff]
  simp

namespace Snapshot

theorem length_column {entries : Nat} {c : Counter} (h : c.Fits entries) :
    (column entries c.values).length = entries := by
  rcases c with ⟨kind, values | value⟩
  · exact h values.length rfl
  · exact List.length_replicate

theorem getElem?_column {entries place : Nat} (c : Counter) (hplace : place < entries) :
    (column entries c.values)[place]? = c.valueAt place := by
  rcases c with ⟨kind, values | value⟩
  · rfl
  · simp [column, Counter.valueAt, hplace]

/-- The column that is served for a kind of counter; an empty one if there is no such counter. -/
def columnOf (log : Log) (kind : CounterKind) : List UInt64 :=
  (lastOfKind kind log.counters).elim [] fun c => column log.length c.values

theorem foldl_putCounter (entries : Nat) (texts : List String) (counters : List Counter) :
    counters.foldl (putCounter entries) ⟨none, texts, [], []⟩ =
      { torrents := (lastOfKind .torrents counters).map fun c => torrentsOf c.values
        times := texts
        connections :=
          (lastOfKind .connections counters).elim [] fun c => column entries c.values
        completed :=
          (lastOfKind .completed counters).elim [] fun c => column entries c.values } := by
  induction counters using List.reverseRecOn with
  | nil => rfl
  | append_singleton counters c ih =>
    rw [List.foldl_append, ih]
    simp only [lastOfKind_append_singleton]
    rcases c with ⟨kind, values⟩
    cases kind <;> rfl

theorem ofLog_eq (log : Log) :
    ofLog log = {
      torrents := (lastOfKind .torrents log.counters).map fun c => torrentsOf c.values
      times := offsetTexts log.times
      connections := columnOf log .connections
      completed := columnOf log .completed } :=
  foldl_putCounter log.length (offsetTexts log.times) log.counters

theorem toCounter_torrentsOf {c : Counter} (h : c.kind = .torrents) :
    (torrentsOf c.values).toCounter = c := by
  rcases c with ⟨kind, values | value⟩ <;> cases h <;> rfl

theorem counters_ofLog (log : Log) :
    (ofLog log).counters = ⟨.connections, .series (columnOf log .connections)⟩ ::
      ⟨.completed, .series (columnOf log .completed)⟩ ::
        (lastOfKind .torrents log.counters).toList := by
  rw [ofLog_eq, counters]
  congr 2
  cases hlast : lastOfKind .torrents log.counters with
  | none => rfl
  | some c =>
    have hkind := (mem_of_lastOfKind hlast).2
    simp [toCounter_torrentsOf hkind]

theorem length_columnOf {log : Log} {kind : CounterKind} (h : kind ∈ log.kinds) :
    (columnOf log kind).length = log.length := by
  obtain ⟨c, hc⟩ := Option.isSome_iff_exists.mp (lastOfKind_isSome_iff.mpr h)
  rw [columnOf, hc]
  exact length_column (log.aligned c (mem_of_lastOfKind hc).1)

theorem columnOf_eq_nil {log : Log} {kind : CounterKind} (h : kind ∉ log.kinds) :
    columnOf log kind = [] := by
  have hnone : lastOfKind kind log.counters = none := by
    rw [← Option.not_isSome_iff_eq_none]
    exact fun hsome => h (lastOfKind_isSome_iff.mp hsome)
  rw [columnOf, hnone]
  rfl

theorem getElem?_columnOf {log : Log} {place : Nat} (kind : CounterKind)
    (hplace : place < log.length) :
    (columnOf log kind)[place]? =
      (lastOfKind kind log.counters).bind fun c => c.valueAt place := by
  rw [columnOf]
  cases lastOfKind kind log.counters with
  | none => rfl
  | some c => exact getElem?_column c hplace

theorem toLog_ofLog_of_plain {log : Log} (hyears : ∀ t ∈ log.times, t.HasPlainYear) (zone : Zone) :
    (ofLog log).toLog zone = Log.ofColumns log.times (ofLog log).counters := by
  have htimes : (ofLog log).times = offsetTexts log.times := by rw [ofLog_eq]
  rw [toLog, htimes, parseTimes_offsetTexts zone hyears]
  rfl

theorem columns_ofLog_eq (log : Log) :
    ∃ rest, (ofLog log).columns = (.connections, columnOf log .connections) ::
      (.completed, columnOf log .completed) :: rest ∧
        ∀ column ∈ rest, column.2.length = log.length := by
  rw [ofLog_eq, columns]
  cases hlast : lastOfKind .torrents log.counters with
  | none => exact ⟨[], rfl, by simp⟩
  | some c =>
    have hfits := log.aligned c (mem_of_lastOfKind hlast).1
    rcases c with ⟨kind, values | value⟩
    · refine ⟨[(.torrents, values)], rfl, ?_⟩
      intro column hcolumn
      obtain rfl := List.mem_singleton.mp hcolumn
      exact hfits values.length rfl
    · exact ⟨[], rfl, by simp⟩

theorem exists_toLog_ofLog {log : Log} (hyears : ∀ t ∈ log.times, t.HasPlainYear)
    (hkinds : log.times = [] ∨ .connections ∈ log.kinds ∧ .completed ∈ log.kinds) (zone : Zone) :
    ∃ again, (ofLog log).toLog zone = .ok again := by
  have hlength : ∀ kind, log.times = [] ∨ kind ∈ log.kinds →
      (columnOf log kind).length = log.times.length := by
    intro kind hkind
    by_cases hmem : kind ∈ log.kinds
    · exact length_columnOf hmem
    · have hempty : log.times = [] := hkind.resolve_right hmem
      rw [columnOf_eq_nil hmem, hempty]
      rfl
  have hfits : ∀ c ∈ (ofLog log).counters, c.Fits log.times.length := by
    obtain ⟨rest, hcolumns, hrest⟩ := columns_ofLog_eq log
    apply fits_of_mem_counters
    intro column hcolumn
    rw [hcolumns] at hcolumn
    rcases List.mem_cons.mp hcolumn with rfl | hcolumn
    · exact hlength .connections (hkinds.imp_right And.left)
    · rcases List.mem_cons.mp hcolumn with rfl | hcolumn
      · exact hlength .completed (hkinds.imp_right And.right)
      · exact hrest column hcolumn
  exact ⟨_, (toLog_ofLog_of_plain hyears zone).trans (Log.ofColumns_eq_ok hfits)⟩

theorem toLog_ofLog_of_not_plain {log : Log} {place : Nat} {t : Instant}
    (ht : log.times[place]? = some t) (hyear : ¬ t.HasPlainYear)
    (hfirst : ∀ before u, before < place → log.times[before]? = some u → u.HasPlainYear)
    (zone : Zone) :
    (ofLog log).toLog zone = .error (.invalidTimestamp place (String.ofList t.offsetText)) := by
  have htimes : (ofLog log).times = offsetTexts log.times := by rw [ofLog_eq]
  rw [toLog, htimes, parseTimes_offsetTexts_of_not zone ht hyear hfirst, Nat.zero_add]
  rfl

theorem toLog_ofLog_of_missing {log : Log} (hyears : ∀ t ∈ log.times, t.HasPlainYear)
    (htimes : log.times ≠ []) {place : Nat} {kind : CounterKind}
    (hcolumn : (ofLog log).columns[place]? = some (kind, columnOf log kind))
    (hnone : kind ∉ log.kinds)
    (hfirst : ∀ before other, before < place → (ofLog log).columns[before]? = some other →
      other.2.length = log.times.length) (zone : Zone) :
    (ofLog log).toLog zone = .error (.lengthMismatch kind log.length 0) := by
  have hlength : ([] : List UInt64).length ≠ log.times.length := by
    rw [List.length_nil]
    exact (List.length_pos_iff.mpr htimes).ne
  rw [columnOf_eq_nil hnone] at hcolumn
  rw [toLog_ofLog_of_plain hyears, ofColumns_eq_error hcolumn hlength hfirst]
  rfl

theorem toLog_ofLog_of_no_connections {log : Log} (hyears : ∀ t ∈ log.times, t.HasPlainYear)
    (htimes : log.times ≠ []) (hnone : .connections ∉ log.kinds) (zone : Zone) :
    (ofLog log).toLog zone = .error (.lengthMismatch .connections log.length 0) := by
  obtain ⟨rest, hcolumns, -⟩ := columns_ofLog_eq log
  have hfirst : (ofLog log).columns[0]? = some (.connections, columnOf log .connections) := by
    rw [hcolumns]
    rfl
  exact toLog_ofLog_of_missing hyears htimes hfirst hnone (by omega) zone

theorem toLog_ofLog_of_no_completed {log : Log} (hyears : ∀ t ∈ log.times, t.HasPlainYear)
    (htimes : log.times ≠ []) (hsome : .connections ∈ log.kinds) (hnone : .completed ∉ log.kinds)
    (zone : Zone) :
    (ofLog log).toLog zone = .error (.lengthMismatch .completed log.length 0) := by
  obtain ⟨rest, hcolumns, -⟩ := columns_ofLog_eq log
  have hsecond : (ofLog log).columns[1]? = some (.completed, columnOf log .completed) := by
    rw [hcolumns]
    rfl
  have hfront : ∀ before other, before < 1 → (ofLog log).columns[before]? = some other →
      other.2.length = log.times.length := by
    intro before other hbefore hother
    obtain rfl : before = 0 := by omega
    rw [hcolumns] at hother
    cases hother
    exact length_columnOf hsome
  exact toLog_ofLog_of_missing hyears htimes hsecond hnone hfront zone

theorem of_toLog_ofLog {log again : Log} {zone : Zone}
    (h : (ofLog log).toLog zone = .ok again) :
    again.times = log.times ∧ again.counters = (ofLog log).counters ∧ ofLog again = ofLog log := by
  have htexts : (ofLog log).times = offsetTexts log.times := by rw [ofLog_eq]
  obtain ⟨hparse, hcounters⟩ := of_toLog_eq_ok h
  have hyears : ∀ t ∈ log.times, t.HasPlainYear := by
    rcases forall_or_exists_first Instant.HasPlainYear log.times with
      hyears | ⟨place, t, ht, hyear, hfirst⟩
    · exact hyears
    · rw [toLog_ofLog_of_not_plain ht hyear hfirst] at h
      cases h
  have htimes : again.times = log.times := by
    rw [htexts, parseTimes_offsetTexts zone hyears] at hparse
    exact (Except.ok.inj hparse).symm
  refine ⟨htimes, hcounters, ?_⟩
  rw [ofLog_of_counters_eq hcounters, htimes, ← htexts]

/-- Serving is a normal form. What is served of a log can be read again, in any zone, if all its
years are plain and entries do not lack connections or completed connections; otherwise the first
year that is not plain is complained of, and else the first column that is missing. What is read
again has the values of the last counter of each kind, and is served the same. -/
theorem serving_normalizes (log : Log) (zone : Zone) :
    ((∃ again, (ofLog log).toLog zone = .ok again) ↔
      (∀ t ∈ log.times, t.HasPlainYear) ∧
        (log.times = [] ∨ .connections ∈ log.kinds ∧ .completed ∈ log.kinds)) ∧
    (∀ place t, log.times[place]? = some t → ¬ t.HasPlainYear →
      (∀ before u, before < place → log.times[before]? = some u → u.HasPlainYear) →
      (ofLog log).toLog zone =
        .error (.invalidTimestamp place (String.ofList t.offsetText))) ∧
    ((∀ t ∈ log.times, t.HasPlainYear) → log.times ≠ [] →
      (.connections ∉ log.kinds →
        (ofLog log).toLog zone = .error (.lengthMismatch .connections log.length 0)) ∧
      (.connections ∈ log.kinds → .completed ∉ log.kinds →
        (ofLog log).toLog zone = .error (.lengthMismatch .completed log.length 0))) ∧
    ∀ again, (ofLog log).toLog zone = .ok again →
      again.times = log.times ∧
      (∃ connections completed,
        again.counters = ⟨.connections, .series connections⟩ :: ⟨.completed, .series completed⟩ ::
          (lastOfKind .torrents log.counters).toList ∧
        ∀ place < log.length,
          connections[place]? =
            (lastOfKind .connections log.counters).bind (fun c => c.valueAt place) ∧
          completed[place]? =
            (lastOfKind .completed log.counters).bind fun c => c.valueAt place) ∧
      ofLog again = ofLog log := by
  refine ⟨⟨?_, ?_⟩, ?_, ?_, ?_⟩
  · -- Each of the faults below would show, so there is none.
    rintro ⟨again, hagain⟩
    rcases forall_or_exists_first Instant.HasPlainYear log.times with
      hyears | ⟨place, t, ht, hyear, hfirst⟩
    · refine ⟨hyears, ?_⟩
      by_contra hlacks
      obtain ⟨htimes, hmissing⟩ := not_or.mp hlacks
      by_cases hconnections : .connections ∈ log.kinds
      · have hcompleted : .completed ∉ log.kinds := fun h => hmissing ⟨hconnections, h⟩
        rw [toLog_ofLog_of_no_completed hyears htimes hconnections hcompleted] at hagain
        cases hagain
      · rw [toLog_ofLog_of_no_connections hyears htimes hconnections] at hagain
        cases hagain
    · rw [toLog_ofLog_of_not_plain ht hyear hfirst] at hagain
      cases hagain
  · rintro ⟨hyears, hkinds⟩
    exact exists_toLog_ofLog hyears hkinds zone
  · intro place t ht hyear hfirst
    exact toLog_ofLog_of_not_plain ht hyear hfirst zone
  · intro hyears htimes
    constructor
    · intro hnone
      exact toLog_ofLog_of_no_connections hyears htimes hnone zone
    · intro hsome hnone
      exact toLog_ofLog_of_no_completed hyears htimes hsome hnone zone
  · intro again hagain
    obtain ⟨htimes, hcounters, hserved⟩ := of_toLog_ofLog hagain
    refine ⟨htimes, ⟨_, _, hcounters.trans (counters_ofLog log), ?_⟩, hserved⟩
    intro place hplace
    exact ⟨getElem?_columnOf .connections hplace, getElem?_columnOf .completed hplace⟩

private def mixedLog : Log where
  times := [⟨1341100799, 1000000000, by decide⟩, ⟨1341100800, 0, by decide⟩]
  counters := [⟨.connections, .series [1, 2]⟩, ⟨.torrents, .constant 3⟩,
    ⟨.completed, .constant 9⟩, ⟨.connections, .constant 5⟩, ⟨.torrents, .series [4, 6]⟩]
  aligned := by decide

private def lackingLog (seconds : Int) (h : Representable seconds 0) : Log where
  times := [⟨seconds, 0, h⟩]
  counters := [⟨.connections, .series [1]⟩]
  aligned := by
    intro c hc length hlength
    obtain rfl := List.mem_singleton.mp hc
    cases hlength
    rfl

theorem serving_normalizes_mixedLog :
    (∃ again, (ofLog mixedLog).toLog .sydney = .ok again ∧ again.times = mixedLog.times ∧
      ofLog again = ofLog mixedLog) ∧
      (ofLog (lackingLog 0 (by decide))).toLog .utc = .error (.lengthMismatch .completed 1 0) ∧
      (ofLog (lackingLog (-62167219201) (by decide))).toLog .utc =
        .error (.invalidTimestamp 0 "-0001-12-31T23:59:59+00:00") := by
  have hyears : ∀ t ∈ mixedLog.times, t.HasPlainYear := by decide
  obtain ⟨hok, -, -, hagain⟩ := serving_normalizes mixedLog .sydney
  obtain ⟨again, hread⟩ := hok.mpr ⟨hyears, .inr (by decide)⟩
  obtain ⟨htimes, -, hserved⟩ := hagain again hread
  obtain ⟨-, -, hlacks, -⟩ := serving_normalizes (lackingLog 0 (by decide)) .utc
  obtain ⟨-, hearly, -⟩ := serving_normalizes (lackingLog (-62167219201) (by decide)) .utc
  refine ⟨⟨again, hread, htimes, hserved⟩, ?_, ?_⟩
  · exact (hlacks (by decide) (by decide)).2 (by decide) (by decide)
  · have htext : String.ofList (⟨-62167219201, 0, by decide⟩ : Instant).offsetText =
        "-0001-12-31T23:59:59+00:00" := by decide
    rw [← htext]
    exact hearly 0 _ rfl (by decide) (by omega)

end Snapshot

end CounterBoard
