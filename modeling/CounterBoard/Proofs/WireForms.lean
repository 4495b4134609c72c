import CounterBoard.Proofs.JsonText
import CounterBoard.Proofs.ZuluText
import CounterBoard.Wire.Chart
import CounterBoard.Wire.Snapshot

/-!
The JSON forms of the domain, read back. Each form is an object whose members are read into its
fields, so it comes back whole if the forms of its parts do. Torrents are told apart by their first
character, and a snapshot without torrents comes back without them, since the field is not needed.
-/

set_option autoImplicit false
set_option relaxedAutoImplicit false

namespace CounterBoard

open CounterBoard.Json
open CounterBoard.Time

theorem Granularity.readsBack (g : Granularity) : ReadsBack read g.write g := by
  apply readsBack_choice
  cases g <;> rfl

theorem Lookback.readsBack (l : Lookback) : ReadsBack read l.write l := by
  apply readsBack_choice
  cases l <;> rfl

theorem CounterKind.readsBack (kind : CounterKind) : ReadsBack read kind.write kind := by
  apply readsBack_choice
  cases kind <;> rfl

theorem Time.Instant.readsBack (t : Instant) : ReadsBack read t.write t where
  starts := (readsBack_string _).starts
  reads rest hrest := by
    refine bind_eq_of_ok ((readsBack_string _).reads rest hrest) ?_
    simp only [String.toList_ofList, relaxed?_zuluText]

theorem Selection.readsBack (s : Selection) : ReadsBack read s.write s := by
  refine readsBack_object ⟨s.granularity, s.lookback⟩ ?_ rfl
  refine .member rfl rfl (readsBack_kept s.granularity.readsBack _) ?_
  refine .member rfl rfl (readsBack_kept s.lookback.readsBack _) ?_
  exact .done _

theorem readsBack_counts (values : List UInt64) :
    ReadsBack (array Json.count) (writeArray writeCount values) values :=
  readsBack_array fun v _ => readsBack_count v

theorem GridPoint.readsBack (p : GridPoint) : ReadsBack read p.write p := by
  refine readsBack_object ⟨p.timestamp, p.values⟩ ?_ rfl
  refine .member rfl rfl (readsBack_kept p.timestamp.readsBack _) ?_
  refine .member rfl rfl (readsBack_kept (readsBack_counts p.values) _) ?_
  exact .done _

theorem Series.readsBack {s : Series} (h : s.consumed < UInt64.size) :
    ReadsBack read s.write s := by
  have hkinds : ReadsBack (array CounterKind.read) (writeArray CounterKind.write s.kinds) s.kinds :=
    readsBack_array fun kind _ => kind.readsBack
  have hpoints : ReadsBack (array GridPoint.read) (writeArray GridPoint.write s.points) s.points :=
    readsBack_array fun p _ => p.readsBack
  have hconsumed : (UInt64.ofNat s.consumed).toNat = s.consumed := UInt64.toNat_ofNat_of_lt h
  refine readsBack_object ⟨s.selection, s.kinds, s.points, UInt64.ofNat s.consumed⟩ ?_ ?_
  · refine .member rfl rfl (readsBack_kept s.selection.readsBack _) ?_
    refine .member rfl rfl (readsBack_kept hkinds _) ?_
    refine .member rfl rfl (readsBack_kept hpoints _) ?_
    refine .member rfl rfl (readsBack_kept (readsBack_decimal h) _) ?_
    exact .done _
  · simp [complete?, hconsumed]

theorem Dataset.readsBack (d : Dataset) : ReadsBack read d.write d := by
  refine readsBack_object ⟨d.label, d.borderColor, d.backgroundColor, d.data⟩ ?_ rfl
  refine .member rfl rfl (readsBack_kept (readsBack_string d.label) _) ?_
  refine .member rfl rfl (readsBack_kept (readsBack_string d.borderColor) _) ?_
  refine .member rfl rfl (readsBack_kept (readsBack_string d.backgroundColor) _) ?_
  refine .member rfl rfl (readsBack_kept (readsBack_counts d.data) _) ?_
  exact .done _

theorem Chart.readsBack (c : Chart) : ReadsBack read c.write c := by
  have hlabels : ReadsBack (array Instant.read) (writeArray Instant.write c.labels) c.labels :=
    readsBack_array fun t _ => t.readsBack
  have hdatasets :
      ReadsBack (array Dataset.read) (writeArray Dataset.write c.datasets) c.datasets :=
    readsBack_array fun d _ => d.readsBack
  refine readsBack_object ⟨c.labels, c.datasets⟩ ?_ rfl
  refine .member rfl rfl (readsBack_kept hlabels _) ?_
  refine .member rfl rfl (readsBack_kept hdatasets _) ?_
  exact .done _

theorem Torrents.readsBack (torrents : Torrents) : ReadsBack read torrents.write torrents where
  starts := by
    cases torrents with
    | count value => exact (readsBack_count value).starts
    | series column => exact (readsBack_counts column).starts
  reads rest hrest := by
    cases torrents with
    | count value =>
      obtain ⟨c, t, htext, hdigit⟩ := Text.exists_digit_of_decimal value.toNat
      have hcount := (readsBack_count value).reads rest hrest
      have hbracket : c ≠ '[' := by
        rintro rfl
        cases hdigit
      rw [writeCount, htext, written_cons] at hcount
      rw [write, writeCount, htext, written_cons, read,
        blanks_of_startsValue (startsValue_of_isDigit hdigit)]
      split
      · next heq => exact absurd (Option.some.inj (List.cons.inj heq).1) hbracket
      · exact bind_eq_of_ok hcount rfl
    | series column =>
      exact bind_eq_of_ok ((readsBack_counts column).reads rest hrest) rfl

theorem Snapshot.readsBack (s : Snapshot) : ReadsBack read s.write s := by
  have htimes : ReadsBack (array string) (writeArray writeString s.times) s.times :=
    readsBack_array fun text _ => readsBack_string text
  obtain ⟨torrents, times, connections, completed⟩ := s
  have hcolumns : ∀ given : Option (Option Torrents), Fills fields ⟨given, none, none, none⟩
      [("times", writeArray writeString times),
        ("connections", writeArray writeCount connections),
        ("completed", writeArray writeCount completed)] ⟨given, times, connections, completed⟩ := by
    intro given
    refine .member rfl rfl (readsBack_kept htimes _) ?_
    refine .member rfl rfl (readsBack_kept (readsBack_counts connections) _) ?_
    refine .member rfl rfl (readsBack_kept (readsBack_counts completed) _) ?_
    exact .done _
  cases torrents with
  | none => exact readsBack_object _ (hcolumns none) rfl
  | some torrents =>
    refine readsBack_object ⟨some (some torrents), times, connections, completed⟩ ?_ rfl
    refine .member rfl rfl (readsBack_kept (readsBack_nullable torrents.readsBack) _) ?_
    exact hcolumns (some (some torrents))

/-- Whatever is written of the domain is read as what it was. -/
theorem wire_forms_read_back :
    (∀ s : Snapshot, decode Snapshot.read (String.ofList s.write) = .ok s) ∧
      (∀ s : Selection, decode Selection.read (String.ofList s.write) = .ok s) ∧
      (∀ p : GridPoint, decode GridPoint.read (String.ofList p.write) = .ok p) ∧
      (∀ s : Series, s.consumed < UInt64.size →
        decode Series.read (String.ofList s.write) = .ok s) ∧
      (∀ d : Dataset, decode Dataset.read (String.ofList d.write) = .ok d) ∧
      ∀ c : Chart, decode Chart.read (String.ofList c.write) = .ok c := by
  refine ⟨?_, ?_, ?_, ?_, ?_, ?_⟩
  · intro s
    exact s.readsBack.decode
  · intro s
    exact s.readsBack.decode
  · intro p
    exact p.readsBack.decode
  · intro s hconsumed
    exact (Series.readsBack hconsumed).decode
  · intro d
    exact d.readsBack.decode
  · intro c
    exact c.readsBack.decode

private def leapSeries : Series where
  selection := ⟨.minute, .fiveHours⟩
  kinds := [.torrents, .connections]
  points := [⟨⟨-1, 7000, by decide⟩, [18446744073709551615, 0]⟩,
    ⟨⟨1483228799, 1000000001, by decide⟩, []⟩]
  consumed := 18446744073709551615

theorem wire_forms_read_back_leapSeries :
    leapSeries.consumed < UInt64.size ∧
      String.ofList leapSeries.write =
        "\x7b\"selection\":\x7b\"granularity\":\"minute\",\"lookback\":\"five_hours\"\x7d," ++
          "\"kinds\":[\"torrents\",\"connections\"],\"points\":[" ++
          "\x7b\"timestamp\":\"1969-12-31T23:59:59.000007Z\"," ++
          "\"values\":[18446744073709551615,0]\x7d," ++
          "\x7b\"timestamp\":\"2016-12-31T23:59:60.000000001Z\",\"values\":[]\x7d]," ++
          "\"consumed\":18446744073709551615\x7d" ∧
      decode Series.read (String.ofList leapSeries.write) = .ok leapSeries := by
  have hconsumed : leapSeries.consumed < UInt64.size := by decide
  refine ⟨hconsumed, by decide +kernel, ?_⟩
  exact wire_forms_read_back.2.2.2.1 leapSeries hconsumed

end CounterBoard
