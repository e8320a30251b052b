import DataMapper.Error
import DataMapper.Row

/-!
# Streams of rows

A driver hands out rows one at a time.  A `RowSource` is such a driver: from a
state, a pull gives a row, the end, a failure, a cancellation or a panic, and
the next state.  A source has finitely many rows, so a size goes down with each.

`RowSource.mapRows` maps every row.  Before each pull it looks whether the work
was called off.  It stops at the first failure, cancellation or panic and at the
first row that does not map, and then nothing that was mapped is given.

The work is called off after a number of looks, or by a pull.  A `Watch` says
what a look finds, and a look that found a cancellation finds it ever after.

Why work was called off, and what a panic carries, is only passed on.  So the
types of both are parameters, `ρ` for the reasons and `π` for what panics carry.

One source is given.  `RowSource.memory` hands out a list of rows, and looks
itself before each.
-/

namespace DataMapper

/-! ## Outcomes -/

/-- The outcome of work that can be called off for a reason. -/
inductive Outcome (ρ π α : Type) where
  | ok (result : α)
  | failed (error : Error)
  | cancelled (reason : ρ)
  | panicked (payload : π)

/-- An outcome with its result turned into another. -/
def Outcome.map {ρ π α β : Type} (f : α → β) : Outcome ρ π α → Outcome ρ π β
  | ok result => ok (f result)
  | failed error => failed error
  | cancelled reason => cancelled reason
  | panicked payload => panicked payload

/-- What looks find: a cancellation after a number of looks, or none. -/
structure Watch (ρ : Type) where
  /-- The number of looks that find nothing, with what the others find. -/
  pending : Option (Nat × ρ) := none
  deriving DecidableEq, Repr

namespace Watch

variable {ρ : Type}

/-- What a look finds, and the watch afterwards. -/
def look (w : Watch ρ) : Option ρ × Watch ρ :=
  match w.pending with
  | none => (none, w)
  | some (0, reason) => (some reason, w)
  | some (looks + 1, reason) => (none, ⟨some (looks, reason)⟩)

/-- The watch after the work was called off. -/
def cancel (reason : ρ) : Watch ρ := ⟨some (0, reason)⟩

end Watch

/-! ## Sources -/

/-- A driver that hands out rows, with states of a type. -/
structure RowSource (ρ π σ : Type) where
  /-- What a pull gives, no row being the end, and what holds afterwards. -/
  pull : Watch ρ → σ → Outcome ρ π (Option Row) × Watch ρ × σ
  /-- A bound on the number of rows that are left. -/
  size : σ → Nat
  /-- Each row makes the size smaller. -/
  size_lt : ∀ {w s row next}, pull w s = (.ok (some row), next) → size next.2 < size s

namespace RowSource

variable {ρ π σ α : Type}

/-- The rows from a state on, mapped in order. -/
def mapRows (source : RowSource ρ π σ) (mapper : Row → Except Error α) (w : Watch ρ) (s : σ) :
    Outcome ρ π (List α) × Watch ρ × σ :=
  match w.look with
  | (some reason, w) => (.cancelled reason, w, s)
  | (none, w) =>
      match _h : source.pull w s with
      | (.ok none, next) => (.ok [], next)
      | (.ok (some row), next) =>
          match mapper row with
          | .error e => (.failed e, next)
          | .ok a =>
              let (outcome, last) := source.mapRows mapper next.1 next.2
              (outcome.map (a :: ·), last)
      | (.failed e, next) => (.failed e, next)
      | (.cancelled reason, next) => (.cancelled reason, next)
      | (.panicked payload, next) => (.panicked payload, next)
termination_by source.size s
decreasing_by exact source.size_lt _h

end RowSource

/-! ## Rows in memory -/

/-- Rows held in memory. -/
structure MemoryRows where
  /-- The rows that are left, in order. -/
  rows : List Row
  /-- The number of rows handed out. -/
  pulled : Nat := 0

/-- Hands out a row, unless the work was called off. -/
def MemoryRows.pull {ρ π : Type} (w : Watch ρ) (s : MemoryRows) :
    Outcome ρ π (Option Row) × Watch ρ × MemoryRows :=
  match w.look with
  | (some reason, w) => (.cancelled reason, w, s)
  | (none, w) =>
      match s.rows with
      | [] => (.ok none, w, s)
      | row :: rest => (.ok (some row), w, ⟨rest, s.pulled + 1⟩)

def RowSource.memory {ρ π : Type} : RowSource ρ π MemoryRows where
  pull := MemoryRows.pull
  size s := s.rows.length
  size_lt {w s row next} h := by
    unfold MemoryRows.pull at h
    split at h
    · cases h
    · split at h <;> rename_i rows <;> cases h
      simp [rows]

end DataMapper
