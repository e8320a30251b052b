import DataMapper.Error
import DataMapper.Sql
import DataMapper.Template

/-!
# Expanding templates

Expansion replaces every placeholder of a template by a marker and enters its
value in the plan.  A provider gives the value of a parameter from the position
of its name among the distinct names and the name itself.  It is asked once for
each name, in order, before anything is written, and the expansion fails with
the first name that has no value.

The questions are put in a monad (`Template.expandWith`).  `Template.expand` is
the expansion with a provider that answers and does nothing else, and
`Template.asked` lists the questions that a provider is asked, which are those
that `recorded` writes down.

Markers that bind by name stand for all placeholders of a name: the first one
makes the marker and its entry in the plan.  Other markers are made one for each
placeholder.
-/

namespace DataMapper

/-- Gives the values of parameters, by position among the names and by name. -/
abbrev Provider := Nat → String → Option Settable

/-- Answers as a provider does, and writes down each question after those before. -/
def recorded (provider : Provider) (position : Nat) (name : String) :
    StateM (List (Nat × String)) (Option Settable) := do
  modify (· ++ [(position, name)])
  return provider position name

namespace Template

section Questions

variable {m : Type → Type} [Monad m] (ask : Nat → String → m (Option Settable))

/-- The values of names from a position on, or the first name without one. -/
def valuesFrom : Nat → List String → m (Except String (List (String × Settable)))
  | _, [] => return .ok []
  | position, name :: rest => do
      match ← ask position name with
      | none => return .error name
      | some value => return (← valuesFrom (position + 1) rest).map ((name, value) :: ·)

end Questions

/-- Segments of a text as fragments, with their entries of the plan.  `position` is
that of the next marker and `assigned` holds the markers that names already have. -/
def expandSegments (text : String) (factory : MarkerFactory) (values : List (String × Settable)) :
    Nat → List (String × Marker) → List Segment → Except Error (Sql × Plan)
  | _, _, [] => .ok ([], [])
  | position, assigned, .text s :: rest =>
      (expandSegments text factory values position assigned rest).map fun expanded =>
        (.text s :: expanded.1, expanded.2)
  | position, assigned, .parameter name :: rest =>
      match assigned.lookup name with
      | some marker =>
          (expandSegments text factory values position assigned rest).map fun expanded =>
            (.marker marker :: expanded.1, expanded.2)
      | none =>
          match values.lookup name with
          | none => .error (.missingParameter name text)
          | some value =>
              let marker := factory.marker position (some name)
              let assigned := if factory.isNamed then (name, marker) :: assigned else assigned
              (expandSegments text factory values (position + 1) assigned rest).map
                fun expanded => (.marker marker :: expanded.1, (marker, value) :: expanded.2)

/-- The fragments of an expanded template and its plan, with questions in a monad. -/
def expandWith {m : Type → Type} [Monad m] (t : Template) (factory : MarkerFactory)
    (ask : Nat → String → m (Option Settable)) : m (Except Error (Sql × Plan)) := do
  match ← valuesFrom ask 0 t.names with
  | .error name => return .error (.missingParameter name t.text)
  | .ok values => return expandSegments t.text factory values 0 [] t.segments

/-- The fragments of an expanded template and its plan. -/
def expandSql (t : Template) (factory : MarkerFactory) (provider : Provider) :
    Except Error (Sql × Plan) :=
  Id.run (t.expandWith factory fun position name => return provider position name)

def expand (t : Template) (factory : MarkerFactory) (provider : Provider) :
    Except Error Operation :=
  (t.expandSql factory provider).map fun expanded => ⟨Sql.text expanded.1, expanded.2⟩

/-- The questions an expansion puts to a provider, in order. -/
def asked (t : Template) (provider : Provider) : List (Nat × String) :=
  (StateT.run (valuesFrom (recorded provider) 0 t.names) []).2

end Template

end DataMapper
