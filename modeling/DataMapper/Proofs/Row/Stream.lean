import DataMapper.Row.Stream
import Mathlib.Data.List.Forall2

/-!
# What a stream of rows gives

A run over a source is a number of rounds, a round being a look, a pull and the mapping of the
row.  `RowSource.Hands` says which rows are handed out in the rounds before the last one, and
`RowSource.Stops` what the last round can do, with one rule for each way out: the look finds a
cancellation and nothing is pulled, the pull gives the end, a failure, a cancellation or a panic,
or it gives a row that does not map.

`RowSource.mapRows` gives an outcome exactly when rows are handed out that all map and then a
round stops with that outcome (`RowSource.mapRows_eq_iff`).  What is left is the state behind
that round, so nothing is pulled after it.  Of rows in memory, those that were handed out are gone
and counted, and the others are left in their order (`MemoryRows.HandsOut`).

A watch and a source say what each look finds up to the first one that finds a cancellation, and
no run has a look after that one.
-/

namespace DataMapper

/-! ## Outcomes -/

theorem Outcome.map_map {ρ π α β γ : Type} (outcome : Outcome ρ π α) (f : α → β) (g : β → γ) :
    (outcome.map f).map g = outcome.map fun a => g (f a) := by
  cases outcome <;> rfl

theorem Outcome.map_self {ρ π α : Type} (outcome : Outcome ρ π α) :
    (outcome.map fun a => a) = outcome := by
  cases outcome <;> rfl

namespace RowSource

variable {ρ π σ α : Type}

/-! ## Rounds -/

/-- Whether rounds hand out rows, one row each, from one state to another, and no look finds a
cancellation. -/
inductive Hands (source : RowSource ρ π σ) : Watch ρ × σ → List Row → Watch ρ × σ → Prop where
  | nil {here} : Hands source here [] here
  | cons {w looked s row rows next there} : w.look = (none, looked) →
      source.pull looked s = (.ok (some row), next) → Hands source next rows there →
      Hands source (w, s) (row :: rows) there

/-- Whether a round stops a run that has results already: the rows that the round hands out, the
outcome of the run and the state that is left. -/
inductive Stops (source : RowSource ρ π σ) (mapper : Row → Except Error α) (mapped : List α) :
    Watch ρ × σ → List Row → Outcome ρ π (List α) → Watch ρ × σ → Prop where
  | calledOff {w looked s reason} : w.look = (some reason, looked) →
      Stops source mapper mapped (w, s) [] (.cancelled reason) (looked, s)
  | ended {w looked s last} : w.look = (none, looked) →
      source.pull looked s = (.ok none, last) →
      Stops source mapper mapped (w, s) [] (.ok mapped) last
  | failed {w looked s last e} : w.look = (none, looked) →
      source.pull looked s = (.failed e, last) →
      Stops source mapper mapped (w, s) [] (.failed e) last
  | cancelled {w looked s last reason} : w.look = (none, looked) →
      source.pull looked s = (.cancelled reason, last) →
      Stops source mapper mapped (w, s) [] (.cancelled reason) last
  | panicked {w looked s last payload} : w.look = (none, looked) →
      source.pull looked s = (.panicked payload, last) →
      Stops source mapper mapped (w, s) [] (.panicked payload) last
  | unmapped {w looked s last row e} : w.look = (none, looked) →
      source.pull looked s = (.ok (some row), last) → mapper row = .error e →
      Stops source mapper mapped (w, s) [row] (.failed e) last

variable {source : RowSource ρ π σ} {mapper : Row → Except Error α}
  {here there last : Watch ρ × σ} {rows final : List Row} {mapped : List α}
  {outcome : Outcome ρ π (List α)}

/-- What stops a run stops it whatever the results are, which matter at the end only. -/
theorem Stops.map (h : source.Stops mapper mapped here final outcome last)
    (f : List α → List α) : source.Stops mapper (f mapped) here final (outcome.map f) last := by
  cases h with
  | calledOff found => exact .calledOff found
  | ended found pulled => exact .ended found pulled
  | failed found pulled => exact .failed found pulled
  | cancelled found pulled => exact .cancelled found pulled
  | panicked found pulled => exact .panicked found pulled
  | unmapped found pulled refused => exact .unmapped found pulled refused

/-- The outcome is that of a run without earlier results, these put first. -/
theorem Stops.of_nil (h : source.Stops mapper mapped here final outcome last) :
    ∃ own, source.Stops mapper [] here final own last ∧ own.map (mapped ++ ·) = outcome := by
  cases h with
  | calledOff found => exact ⟨_, .calledOff found, rfl⟩
  | ended found pulled =>
      exact ⟨_, .ended found pulled, congrArg Outcome.ok (List.append_nil mapped)⟩
  | failed found pulled => exact ⟨_, .failed found pulled, rfl⟩
  | cancelled found pulled => exact ⟨_, .cancelled found pulled, rfl⟩
  | panicked found pulled => exact ⟨_, .panicked found pulled, rfl⟩
  | unmapped found pulled refused => exact ⟨_, .unmapped found pulled refused, rfl⟩

/-! ## Runs -/

/-- When a look finds nothing, a run does with the source what the pull says. -/
theorem mapRows_of_look {w looked : Watch ρ} (found : w.look = (none, looked)) (s : σ) :
    source.mapRows mapper w s =
      match source.pull looked s with
      | (.ok none, next) => (.ok [], next)
      | (.ok (some row), next) =>
          match mapper row with
          | .error e => (.failed e, next)
          | .ok a => ((source.mapRows mapper next.1 next.2).1.map (a :: ·),
              (source.mapRows mapper next.1 next.2).2)
      | (.failed e, next) => (.failed e, next)
      | (.cancelled reason, next) => (.cancelled reason, next)
      | (.panicked payload, next) => (.panicked payload, next) := by
  rw [mapRows, found]
  dsimp only
  generalize source.pull looked s = pulled
  obtain ⟨outcome, next⟩ := pulled
  cases outcome with
  | ok row? => cases row? <;> rfl
  | _ => rfl

/-- A run whose first round stops it has the outcome of that round. -/
theorem Stops.mapRows_eq (h : source.Stops mapper [] here final outcome last) :
    source.mapRows mapper here.1 here.2 = (outcome, last) := by
  cases h with
  | calledOff found => rw [mapRows, found]
  | ended found pulled | failed found pulled | cancelled found pulled | panicked found pulled =>
      rw [mapRows_of_look found, pulled]
  | unmapped found pulled refused =>
      rw [mapRows_of_look found, pulled]
      dsimp only
      rw [refused]

/-- A run over rows that map goes on behind them and puts their results first. -/
theorem Hands.mapRows_eq (h : source.Hands here rows there)
    (each : List.Forall₂ (fun row a => mapper row = .ok a) rows mapped) :
    source.mapRows mapper here.1 here.2
      = ((source.mapRows mapper there.1 there.2).1.map (mapped ++ ·),
        (source.mapRows mapper there.1 there.2).2) := by
  induction h generalizing mapped with
  | nil =>
      cases each
      exact Prod.ext (Outcome.map_self _).symm rfl
  | cons found pulled _ ih =>
      cases each with
      | cons maps each =>
          rw [mapRows_of_look found, pulled]
          simp only [maps, ih each, Outcome.map_map]
          rfl

/-- Every run is handed rows that map, and then a round stops it. -/
theorem exists_stops (source : RowSource ρ π σ) (mapper : Row → Except Error α) (w : Watch ρ)
    (s : σ) :
    ∃ rows mapped there final, source.Hands (w, s) rows there ∧
      List.Forall₂ (fun row a => mapper row = .ok a) rows mapped ∧
      source.Stops mapper mapped there final (source.mapRows mapper w s).1
        (source.mapRows mapper w s).2 := by
  fun_induction mapRows source mapper w s with
  | case1 w s reason looked found => exact ⟨_, _, _, _, .nil, .nil, .calledOff found⟩
  | case2 w s looked found last pulled => exact ⟨_, _, _, _, .nil, .nil, .ended found pulled⟩
  | case3 w s looked found row last pulled e refused =>
      exact ⟨_, _, _, _, .nil, .nil, .unmapped found pulled refused⟩
  | case4 w s looked found row next pulled a maps outcome last run ih =>
      obtain ⟨rows, mapped, there, final, hands, each, stops⟩ := ih
      rw [run] at stops
      exact ⟨row :: rows, a :: mapped, there, final, .cons found pulled hands, .cons maps each,
        stops.map (a :: ·)⟩
  | case5 w s looked found e last pulled => exact ⟨_, _, _, _, .nil, .nil, .failed found pulled⟩
  | case6 w s looked found reason last pulled =>
      exact ⟨_, _, _, _, .nil, .nil, .cancelled found pulled⟩
  | case7 w s looked found payload last pulled =>
      exact ⟨_, _, _, _, .nil, .nil, .panicked found pulled⟩

/-- A run has an outcome exactly when it is handed rows that map and then a round stops it with
that outcome. -/
theorem mapRows_eq_iff {w : Watch ρ} {s : σ} :
    source.mapRows mapper w s = (outcome, last) ↔
      ∃ rows mapped there final, source.Hands (w, s) rows there ∧
        List.Forall₂ (fun row a => mapper row = .ok a) rows mapped ∧
        source.Stops mapper mapped there final outcome last := by
  constructor
  · intro run
    obtain ⟨rows, mapped, there, final, hands, each, stops⟩ := exists_stops source mapper w s
    rw [run] at stops
    exact ⟨rows, mapped, there, final, hands, each, stops⟩
  · rintro ⟨rows, mapped, there, final, hands, each, stops⟩
    obtain ⟨own, alone, rfl⟩ := stops.of_nil
    have run := hands.mapRows_eq each
    rwa [alone.mapRows_eq] at run

end RowSource

/-! ## Rows in memory -/

/-- Whether some rows were handed out between two states: they stood in front of the others, and
were counted. -/
structure MemoryRows.HandsOut (s : MemoryRows) (rows : List Row) (t : MemoryRows) : Prop where
  rows_eq : s.rows = rows ++ t.rows
  pulled_eq : t.pulled = s.pulled + rows.length

namespace MemoryRows

variable {s t u : MemoryRows} {rows more : List Row}

theorem HandsOut.nil (s : MemoryRows) : s.HandsOut [] s := ⟨rfl, rfl⟩

theorem HandsOut.append (first : s.HandsOut rows t) (second : t.HandsOut more u) :
    s.HandsOut (rows ++ more) u := by
  constructor
  · rw [first.rows_eq, second.rows_eq, List.append_assoc]
  · rw [second.pulled_eq, first.pulled_eq, List.length_append, Nat.add_assoc]

/-- All that a pull can do: it finds a cancellation, or no row is left, or it hands out the first
row. -/
theorem pull_cases {ρ π : Type} {w : Watch ρ} {pulled : Outcome ρ π (Option Row)}
    {next : Watch ρ × MemoryRows} (h : s.pull w = (pulled, next)) :
    (∃ reason, pulled = .cancelled reason ∧ next.2 = s) ∨
      (pulled = .ok none ∧ s.rows = [] ∧ next.2 = s) ∨
      ∃ row, pulled = .ok (some row) ∧ s.HandsOut [row] next.2 := by
  rw [pull] at h
  split at h
  next reason looked _ =>
    cases h
    exact .inl ⟨reason, rfl, rfl⟩
  next looked _ =>
    split at h
    next left =>
      cases h
      exact .inr (.inl ⟨rfl, left, rfl⟩)
    next row rest rows =>
      cases h
      exact .inr (.inr ⟨row, rfl, rows, rfl⟩)

end MemoryRows

namespace RowSource

open MemoryRows (HandsOut pull_cases)

variable {ρ π α : Type} {mapper : Row → Except Error α} {w : Watch ρ} {s : MemoryRows}
  {here there next last : Watch ρ × MemoryRows} {rows final : List Row} {mapped : List α}
  {outcome : Outcome ρ π (List α)}

/-- A pull that gives a row hands it out. -/
theorem handsOut_of_pull {row : Row}
    (h : (memory : RowSource ρ π MemoryRows).pull w s = (.ok (some row), next)) :
    s.HandsOut [row] next.2 := by
  obtain ⟨_, other, -⟩ | ⟨other, -⟩ | ⟨_, same, out⟩ := pull_cases h
  · cases other
  · cases other
  · cases same
    exact out

/-- A pull that gives no row leaves the rows as they are, and there are none when it gives the
end. -/
theorem eq_of_pull {pulled : Outcome ρ π (Option Row)} (h : memory.pull w s = (pulled, next))
    (noRow : ∀ row, pulled ≠ .ok (some row)) :
    next.2 = s ∧ (pulled = .ok none → s.rows = []) := by
  obtain ⟨_, rfl, same⟩ | ⟨-, left, same⟩ | ⟨row, given, -⟩ := pull_cases h
  · exact ⟨same, nofun⟩
  · exact ⟨same, fun _ => left⟩
  · exact absurd given (noRow row)

/-- What rounds hand out is handed out of the memory. -/
theorem Hands.handsOut (h : (memory : RowSource ρ π MemoryRows).Hands here rows there) :
    here.2.HandsOut rows there.2 := by
  induction h with
  | nil => exact .nil _
  | cons _ pulled _ ih => exact (handsOut_of_pull pulled).append ih

/-- The last round hands out the row that does not map, and after the end no row is left. -/
theorem Stops.handsOut (h : memory.Stops mapper mapped here final outcome last) :
    here.2.HandsOut final last.2 ∧ (∀ given, outcome = .ok given → last.2.rows = []) := by
  cases h with
  | calledOff => exact ⟨.nil _, nofun⟩
  | ended _ pulled =>
      obtain ⟨same, left⟩ := eq_of_pull pulled nofun
      rw [same]
      exact ⟨.nil _, fun _ _ => left rfl⟩
  | failed _ pulled | cancelled _ pulled | panicked _ pulled =>
      obtain ⟨same, -⟩ := eq_of_pull pulled nofun
      rw [same]
      exact ⟨.nil _, nofun⟩
  | unmapped _ pulled => exact ⟨handsOut_of_pull pulled, nofun⟩

/-- The outcome of a run over any source, with any mapper and watch.  Results are given, one for
each row in the order of the source, exactly when all rows map and the source ends before anything
else stops the run.  In general an outcome is that of the first round that stops the run, and
what is left is the state behind that round.  Of rows in memory, the rows of all rounds were
handed out and counted, and the others are left in their order. -/
theorem outcome_of_mapRows {σ : Type} (source : RowSource ρ π σ)
    (mapper : Row → Except Error α) (w : Watch ρ) (s : σ) (m : MemoryRows) :
    let held : RowSource ρ π MemoryRows := memory
    (∀ mapped last, source.mapRows mapper w s = (.ok mapped, last) ↔
        ∃ rows there looked, source.Hands (w, s) rows there ∧
          List.Forall₂ (fun row a => mapper row = .ok a) rows mapped ∧
          there.1.look = (none, looked) ∧ source.pull looked there.2 = (.ok none, last)) ∧
      (∀ outcome last, source.mapRows mapper w s = (outcome, last) ↔
        ∃ rows mapped there final, source.Hands (w, s) rows there ∧
          List.Forall₂ (fun row a => mapper row = .ok a) rows mapped ∧
          source.Stops mapper mapped there final outcome last) ∧
      ∃ rows mapped there final outcome last,
        held.mapRows mapper w m = (outcome, last) ∧ held.Hands (w, m) rows there ∧
        List.Forall₂ (fun row a => mapper row = .ok a) rows mapped ∧
        held.Stops mapper mapped there final outcome last ∧
        m.HandsOut (rows ++ final) last.2 ∧
        (∀ given, outcome = .ok given → last.2.rows = []) := by
  intro held
  refine ⟨fun mapped last => ?_, fun outcome last => mapRows_eq_iff, ?_⟩
  · rw [mapRows_eq_iff]
    constructor
    · rintro ⟨rows, _, there, final, hands, each, stops⟩
      cases stops with
      | ended found pulled => exact ⟨rows, _, _, hands, each, found, pulled⟩
    · rintro ⟨rows, ⟨_, _⟩, looked, hands, each, found, pulled⟩
      exact ⟨rows, mapped, _, [], hands, each, .ended found pulled⟩
  · obtain ⟨rows, mapped, there, final, hands, each, stops⟩ := exists_stops held mapper w m
    obtain ⟨out, left⟩ := stops.handsOut
    exact ⟨rows, mapped, there, final, _, _, rfl, hands, each, stops, hands.handsOut.append out,
      left⟩

end RowSource

end DataMapper
