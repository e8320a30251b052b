import DataMapper.Entity.Coercion
import DataMapper.Expression
import DataMapper.Marker
import DataMapper.Template
import DataMapper.Text.CharClass

/-!
# Binding arguments

A `Binder` binds the values of one query: first each expression, under the name
that stands for it, then the arguments of the declared parameters in order.

* A parameter with a name that the query references is bound under its name.
* Any other parameter is passed over when the query has expressions.  When it
  has none, the parameter is bound under a position, and positions count what
  was bound.
* An argument without a value is bound only when NULLs are.  A parameter whose
  argument is missing has no value.

A query references a name where a sigil is followed by the name, and the
characters around the two, if any, are no word characters.  So it is searched
for the pattern `(\W|^)[:#$@]name(\W|$)`, which `Pattern.mention` specifies.  A
pattern that is too large to be built would count as not found.  There is no such
pattern here.  The binder keeps what it found out about names.

The calls on the target are `Binding`s.  A run that fails keeps the calls made
before.
-/

namespace DataMapper

/-! ## References -/

def touchesWord (c : Option Char) : Bool := c.any Text.isWord

/-- Whether a name begins some characters and ends there as a word. -/
def beginsWith (name rest : List Char) : Bool :=
  name.isPrefixOf rest && !touchesWord (rest.drop name.length).head?

/-- Whether characters reference a name, given the character before them. -/
def mentionsFrom (name : List Char) (before : Option Char) : List Char → Bool
  | [] => false
  | c :: rest =>
      isSigil c && !touchesWord before && beginsWith name rest || mentionsFrom name (some c) rest

/-- Whether a query references a name. -/
def mentions (query name : String) : Bool := mentionsFrom name.toList none query.toList

/-! ## Parameters -/

/-- A declared parameter. -/
structure Parameter where
  /-- The position of its argument. -/
  index : Nat
  name : Option String
  sqlType : SqlType
  deriving DecidableEq, Repr

/-- The arguments of one call with the declared parameters. -/
structure Arguments where
  parameters : List Parameter
  values : List Value
  /-- Whether an argument without a value is bound. -/
  bindNulls : Bool := false

/-- The argument of a parameter with its declared type. -/
def Arguments.argument (a : Arguments) (p : Parameter) : Settable :=
  .ofOption a.values[p.index]? p.sqlType

/-- Gives the values of expressions. -/
abbrev Evaluator := String → Except Error Settable

/-! ## Binders -/

/-- Binds the values of a query. -/
structure Binder where
  query : ExpressionQuery
  converter : EntityConverter
  /-- The names looked for so far, with whether the query references them. -/
  known : List (String × Bool) := []

/-- How a parameter is bound. -/
inductive ParameterSlot where
  /-- Under a name. -/
  | named (name : String)
  /-- Under the next position. -/
  | positional
  | skipped
  deriving DecidableEq, Repr

/-- What a run of a binder leaves behind. -/
structure BinderRun where
  outcome : Except Error Unit
  /-- The calls on the target in order. -/
  calls : List Binding
  binder : Binder

/-- A run after some calls. -/
def BinderRun.after (calls : List Binding) (run : BinderRun) : BinderRun :=
  { run with calls := calls ++ run.calls }

namespace Binder

/-- Whether the query references a name, and the binder afterwards. -/
def isReferenced (b : Binder) (name : String) : Bool × Binder :=
  match b.known.lookup name with
  | some found => (found, b)
  | none =>
      let found := mentions b.query.query name
      (found, { b with known := (name, found) :: b.known })

/-- How a parameter is bound, and the binder afterwards. -/
def slotOf (b : Binder) (p : Parameter) : ParameterSlot × Binder :=
  let otherwise : ParameterSlot := if b.query.hasBindings then .skipped else .positional
  match p.name with
  | none => (otherwise, b)
  | some name =>
      let (found, b) := b.isReferenced name
      (if found then .named name else otherwise, b)

/-- Binds expressions, and gives the calls made. -/
def bindExpressions (b : Binder) (evaluate : Evaluator) :
    List ExpressionBinding → Except Error Unit × List Binding
  | [] => (.ok (), [])
  | x :: rest =>
      match (evaluate x.expression).bind b.converter.bindValue with
      | .error e => (.error e, [])
      | .ok value =>
          let (outcome, calls) := b.bindExpressions evaluate rest
          (outcome, value.bindTo (.name x.name) :: calls)

/-- Binds parameters when `position` is the next position. -/
def bindParameters (arguments : Arguments) (b : Binder) (position : Nat) :
    List Parameter → BinderRun
  | [] => ⟨.ok (), [], b⟩
  | p :: rest =>
      let (slot, b) := b.slotOf p
      let bound (id : BindId) (next : Nat) : BinderRun :=
        match b.converter.bindValue (arguments.argument p) with
        | .error e => ⟨.error e, [], b⟩
        | .ok value =>
            if value.isEmpty && !arguments.bindNulls then
              bindParameters arguments b position rest
            else (bindParameters arguments b next rest).after [value.bindTo id]
      match slot with
      | .named name => bound (.name name) position
      | .positional => bound (.index position) (position + 1)
      | .skipped => bindParameters arguments b position rest

/-- Binds the expressions of the query and the arguments. -/
def bind (b : Binder) (arguments : Arguments) (evaluate : Evaluator) : BinderRun :=
  match b.bindExpressions evaluate b.query.bindings with
  | (.error e, calls) => ⟨.error e, calls, b⟩
  | (.ok (), calls) => (bindParameters arguments b 0 arguments.parameters).after calls

end Binder

/-! ## Checks -/

example : mentions "a = :x" "x" = true ∧ mentions "a = :xy" "x" = false := by decide +kernel
example : mentions "a:x" "x" = false ∧ mentions "a::x" "x" = true := by decide +kernel

end DataMapper
