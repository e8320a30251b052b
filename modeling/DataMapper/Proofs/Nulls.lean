import DataMapper.Proofs.Binder.Calls
import DataMapper.Proofs.Condition.Clause
import DataMapper.Proofs.Statement.OutboundRow
import DataMapper.Proofs.Template.Expansion

/-!
# NULLs on their way to a driver

A driver has one call for values and another for the NULLs of a type.  No value is the NULL:
an empty settable goes through the call for NULLs with its type, and a settable that is not
empty holds something else (`Settable.HandedBy`).

A value that is given to a mapper or to a binder goes through the write converters first, and
they may write the NULL.  Then what is bound is the empty settable of the type that was given
(`Conversions.BindsFor`).  This is said of each way to a driver.

* The plan of a mapped specification binds what the specification is given, in order
  (`StatementMapper.bindsFor_of_map`).
* The plan of an expansion holds what the provider answers.
* A binder calls for its items in order, at most once for each (`Binder.handsOver_calls`).
-/

namespace DataMapper

/-! ## Calls -/

/-- Whether a call hands a settable to a driver under an address.  It hands over the value, which
is not the NULL, or the NULL of the type when there is no value. -/
inductive Settable.HandedBy (s : Settable) (id : BindId) : Binding → Prop where
  | value {value : Value} (present : s.value = some value) (here : value ≠ .null) :
      HandedBy s id (.value id value)
  | null (empty : s.value = none) : HandedBy s id (.null id s.sqlType)

/-- A settable is handed over by its call. -/
theorem Settable.handedBy_bindTo (s : Settable) (id : BindId) : s.HandedBy id (s.bindTo id) := by
  rw [bindTo]
  split
  next value present =>
    refine .value present fun null => ?_
    exact s.notNull (null ▸ present)
  next empty => exact .null empty

/-- A call that hands over a settable does not have the NULL as its value. -/
theorem Settable.HandedBy.ne_null {s : Settable} {id other : BindId} {call : Binding}
    (h : s.HandedBy id call) : call ≠ .value other .null := by
  cases h with
  | value _ here => simp [here]
  | null _ => simp

/-- Whether calls hand over the entries of a plan, one call for each in order, and none of them
has the NULL as its value. -/
structure Plan.HandedBy (plan : Plan) (calls : List Binding) : Prop where
  each : List.Forall₂ (fun entry call => entry.2.HandedBy entry.1.id call) plan calls
  never_null : ∀ id, .value id .null ∉ calls

theorem Plan.handedBy_bindings (plan : Plan) : plan.HandedBy plan.bindings := by
  constructor
  · rw [bindings, List.forall₂_map_right_iff, List.forall₂_same]
    exact fun entry _ => entry.2.handedBy_bindTo entry.1.id
  · intro id null
    obtain ⟨entry, -, call⟩ := List.mem_map.mp null
    exact (entry.2.handedBy_bindTo entry.1.id).ne_null call

/-! ## What is bound for what is given -/

/-- Whether a settable is what a registry binds for a given one.  It is empty and has the given
type if the NULL is written.  Any other value that is written is its value, and an array may be
widened. -/
inductive Conversions.BindsFor (c : Conversions) (given : Settable) : Settable → Prop where
  | null (written : c.writeValue (given.value.getD .null) = .ok .null) :
      BindsFor c given (.empty given.sqlType)
  | value {stored : Value} {bound : Settable}
      (written : c.writeValue (given.value.getD .null) = .ok stored) (here : stored ≠ .null)
      (present : bound.value = some stored) : BindsFor c given bound
  | widened {items : List Value} {bound : Settable} (store : SqlType)
      (written : c.writeValue (given.value.getD .null) = .ok (.array items))
      (present : bound.value = some ((Value.array items).coerce store)) : BindsFor c given bound

theorem Settable.value_ofValue {value : Value} (here : value ≠ .null) (type : SqlType) :
    (ofValue value type).value = some value := Value.present?_eq_some here

theorem Settable.eq_empty {s : Settable} (empty : s.value = none) : s = .empty s.sqlType :=
  ext_iff.mpr ⟨empty, rfl⟩

namespace Conversions.BindsFor

variable {c : Conversions} {given : Settable} {stored : Value}

/-- An empty settable is bound as it is. -/
theorem of_empty (empty : given.value = none) : c.BindsFor given given := by
  have written : c.writeValue (given.value.getD .null) = .ok .null := by
    rw [empty, Option.getD_none, writeValue]
  have bound := null (c := c) written
  rwa [← given.eq_empty empty] at bound

/-- What is written is bound, with the type that was given if it is the NULL. -/
theorem ofValue (written : c.writeValue (given.value.getD .null) = .ok stored) {type : SqlType}
    (declared : stored = .null → type = given.sqlType) :
    c.BindsFor given (.ofValue stored type) := by
  by_cases null : stored = .null
  · subst null
    rw [Settable.ofValue_null, declared rfl]
    exact .null written
  · exact .value written null (Settable.value_ofValue null type)

end Conversions.BindsFor

/-! ## Mapped specifications -/

/-- The values of a test that are bound, in order. -/
def Criterion.boundValues (c : Criterion) : List Value :=
  if c.comparator.isUnary then []
  else match c.operand with
    | .none => []
    | .single value => [value]
    | .list values => values
    | .range low high => [low, high]

/-- What assignments give to be bound, in order.  The word NULL is not bound. -/
def Assignments.settables : List (Identifier × Assignment) → List Settable
  | [] => []
  | (_, .null) :: rest => settables rest
  | (_, .value given) :: rest => given :: settables rest

/-- The settables that an INSERT or an UPDATE is given for its columns. -/
def Spec.stored : Spec → List Settable
  | .insert s => s.row.values
  | .update s => Assignments.settables s.assignments.entries
  | .select _ | .delete _ => []

/-- The settables that a specification gives to be bound, in the order of its plan.  A value of the
criteria has no declared type, and a NULL among them counts as a text. -/
def Spec.given (spec : Spec) : List Settable :=
  spec.stored
    ++ (spec.criteria.tests.flatMap Criterion.boundValues).map fun value => .ofValue value .text

namespace StatementMapper

variable {m : StatementMapper} {table : Identifier} {position : Nat}

theorem bindsFor_of_convert {given bound : Settable} (h : m.convert given = .ok bound) :
    m.conversions.BindsFor given bound := by
  rw [convert] at h
  split at h
  next value present =>
    obtain ⟨stored, written, rfl⟩ := Outcome.map_eq_ok.mp h
    refine .ofValue ?_ fun _ => rfl
    rw [present]
    exact written
  next empty =>
    cases h
    exact .of_empty empty

/-- Whether the entries of a plan bind values of the criteria. -/
def BindsOperands (m : StatementMapper) (values : List Value) (entries : Plan) : Prop :=
  List.Forall₂ (fun value entry => m.conversions.BindsFor (.ofValue value .text) entry.2)
    values entries

theorem bindsFor_of_bindOperand {column : Identifier} {value : Value} {entry : Marker × Settable}
    (h : m.bindOperand position column value = .ok entry) :
    m.conversions.BindsFor (.ofValue value .text) entry.2 := by
  obtain ⟨stored, written, rfl⟩ := bindOperand_eq_ok.mp h
  refine .ofValue ?_ ?_
  · rw [Settable.getD_value_ofValue]
    exact written
  · rintro rfl
    rfl

theorem bindsOperands_of_bindOperands {column : Identifier} {values : List Value} {entries : Plan}
    (h : m.bindOperands position column values = .ok entries) : m.BindsOperands values entries := by
  induction values generalizing position entries with
  | nil =>
      cases h
      exact .nil
  | cons value rest ih =>
      obtain ⟨entry, more, first, later, rfl⟩ := bindOperands_cons_eq_ok h
      exact .cons (bindsFor_of_bindOperand first) (ih later)

/-- A test binds its values. -/
theorem bindsOperands_of_lowersTest {c : Criterion} {atom : Condition} {entries : Plan}
    (h : LowersTest m table position c atom entries) : m.BindsOperands c.boundValues entries := by
  cases h with
  | unary unary =>
      rw [Criterion.boundValues, if_pos unary]
      exact .nil
  | emptyIn => exact .nil
  | emptyNotIn => exact .nil
  | isIn _ hentries => exact bindsOperands_of_bindOperands hentries
  | notIn _ hentries => exact bindsOperands_of_bindOperands hentries
  | between _ _ hlow hhigh =>
      exact .cons (bindsFor_of_bindOperand hlow) (.cons (bindsFor_of_bindOperand hhigh) .nil)
  | comparison binary _ hentry =>
      rw [Criterion.boundValues, if_neg (by simp [binary])]
      exact .cons (bindsFor_of_bindOperand hentry) .nil

/-- Tests one after the other bind their values. -/
theorem bindsOperands_of_lowersTests {tests : List Criterion} {atoms : List Condition}
    {entries : Plan} (h : LowersTests m table position tests atoms entries) :
    m.BindsOperands (tests.flatMap Criterion.boundValues) entries := by
  induction h with
  | nil => exact .nil
  | cons first _ ih =>
      rw [List.flatMap_cons]
      exact List.rel_append (bindsOperands_of_lowersTest first) ih

/-- The assignments of values are bound as a row is. -/
theorem values_of_lowerAssignments {assignments : List (Identifier × Assignment)}
    {assigned : List (Identifier × AssignedValue)} {entries : Plan}
    (h : m.lowerAssignments position assignments = .ok (assigned, entries)) :
    (Assignments.settables assignments).mapM m.convert = .ok entries.values := by
  induction assignments generalizing position assigned entries with
  | nil =>
      cases h
      rfl
  | cons assignment rest ih =>
      obtain ⟨column, assignment⟩ := assignment
      cases assignment with
      | null =>
          obtain ⟨⟨more, plan⟩, later, h⟩ := Outcome.bind_eq_ok.mp h
          cases h
          exact ih later
      | value value =>
          obtain ⟨entry, first, h⟩ := Outcome.bind_eq_ok.mp h
          obtain ⟨⟨more, plan⟩, later, h⟩ := Outcome.bind_eq_ok.mp h
          cases h
          obtain ⟨stored, converted, rfl⟩ := bind_eq_ok.mp first
          exact Outcome.mapM_cons_eq_ok.mpr ⟨stored, _, converted, ih later, rfl⟩

/-- Without its criteria a specification binds what its columns are given. -/
theorem values_of_lower_unrestricted {spec : Spec} {statement : Statement} {plan : Plan}
    (h : m.lower spec.unrestricted = .ok (statement, plan)) :
    spec.stored.mapM m.convert = .ok plan.values := by
  cases spec with
  | select s =>
      cases h
      rfl
  | insert s =>
      obtain ⟨entries, hrow, h⟩ := Outcome.bind_eq_ok.mp h
      cases h
      exact values_of_bindRow hrow
  | update s =>
      obtain ⟨⟨assigned, entries⟩, hassigned, h⟩ := Outcome.bind_eq_ok.mp h
      obtain ⟨⟨condition, more⟩, hcriteria, h⟩ := Outcome.bind_eq_ok.mp h
      cases hcriteria
      cases h
      rw [List.append_nil]
      exact values_of_lowerAssignments hassigned
  | delete s =>
      cases h
      rfl

/-- The plan of a mapped specification binds what the specification gives, in order. -/
theorem bindsFor_of_map {spec : Spec} {operation : Operation}
    (h : m.map spec = .ok operation) :
    List.Forall₂ m.conversions.BindsFor spec.given operation.plan.values := by
  obtain ⟨statement, sql, lowered, -, -⟩ := exists_of_map_eq_ok h
  obtain ⟨before, entries, whole, bare, chain⟩ := lower_unrestricted lowered
  have stored : List.Forall₂ m.conversions.BindsFor spec.stored before.values :=
    (Outcome.mapM_eq_ok_iff_forall₂.mp (values_of_lower_unrestricted bare)).imp
      fun _ _ => bindsFor_of_convert
  have tested := bindsOperands_of_lowersTests (lowersTests_of_lowers chain)
  rw [whole, Plan.values, List.map_append, Spec.given]
  refine List.rel_append stored ?_
  rw [List.forall₂_map_left_iff, List.forall₂_map_right_iff]
  exact tested

end StatementMapper

/-! ## Expansions -/

/-- The plan of an expansion holds the answers of the provider for the names of its entries. -/
theorem Template.values_of_expand {t : Template} {factory : MarkerFactory} {provider : Provider}
    {operation : Operation} (h : t.expand factory provider = .ok operation) :
    operation.plan.values.map some
      = (t.entryNames factory).map fun name => provider (t.names.idxOf name) name := by
  rw [expand_eq_recordedExpansion] at h
  obtain ⟨⟨sql, plan⟩, expanded, rfl⟩ := Outcome.map_eq_ok.mp h
  rcases t.recordedExpansion_cases factory provider with
    ⟨plan', known, -, -, entries⟩ | ⟨name, asked, known, -⟩
  · rw [known] at expanded
    cases expanded
    rw [Plan.values, List.map_map]
    exact entries
  · rw [known] at expanded
    cases expanded

/-! ## Binders -/

/-- A settable is bound as what the converters write for its value. -/
theorem EntityConverter.bindsFor_of_bindValue {c : EntityConverter} {given bound : Settable}
    (h : c.bindValue given = .ok bound) : c.conversions.BindsFor given bound := by
  rw [bindValue] at h
  split at h
  next empty =>
    cases h
    exact .of_empty empty
  next raw present =>
    obtain ⟨stored, hstored, h⟩ := Outcome.bind_eq_ok.mp h
    have written : c.conversions.writeValue (given.value.getD .null) = .ok stored := by
      rw [present]
      exact hstored
    split at h
    next arrays =>
      split at h
      next => cases h
      next =>
        obtain ⟨store, -, h⟩ := Outcome.bind_eq_ok.mp h
        cases h
        have array : stored.isArray = true := (Bool.and_eq_true_iff.mp arrays).1
        cases stored with
        | array items =>
            refine .widened store written (Settable.value_ofValue ?_ _)
            rw [Value.coerce]
            exact Value.noConfusion
        | _ => cases array
    next =>
      cases h
      refine .ofValue written ?_
      rintro rfl
      rfl

namespace Binder

variable {b : Binder} {arguments : Arguments} {evaluate : Evaluator}

/-- What is to be bound for an item: the value of an expression, or the argument of a parameter
with its declared type. -/
inductive Gives (arguments : Arguments) (evaluate : Evaluator) : BinderItem → Settable → Prop where
  | expression {x : ExpressionBinding} {given : Settable}
      (evaluated : evaluate x.expression = .ok given) :
      Gives arguments evaluate (.expression x) given
  | parameter (p : Parameter) : Gives arguments evaluate (.parameter p) (arguments.argument p)

/-- Whether a call hands over what a binder makes of what is to be bound for an item. -/
def HandsOver (b : Binder) (arguments : Arguments) (evaluate : Evaluator) (call : Binding)
    (item : BinderItem) : Prop :=
  ∃ given bound, Gives arguments evaluate item given ∧ b.converter.bindValue given = .ok bound ∧
    b.converter.conversions.BindsFor given bound ∧ bound.HandedBy call.id call

theorem handsOver_bindTo {item : BinderItem} {given bound : Settable}
    (gives : Gives arguments evaluate item given) (made : b.converter.bindValue given = .ok bound)
    (id : BindId) : b.HandsOver arguments evaluate (bound.bindTo id) item := by
  refine ⟨given, bound, gives, made, EntityConverter.bindsFor_of_bindValue made, ?_⟩
  rw [bound.id_bindTo]
  exact bound.handedBy_bindTo id

/-- An item that is handled has no call, or one that hands over its value. -/
theorem Handles.handsOver {item : BinderItem} {piece : List Binding}
    (h : b.Handles arguments evaluate item piece) :
    piece = [] ∨ ∃ call, piece = [call] ∧ b.HandsOver arguments evaluate call item := by
  cases h with
  | expression evaluated =>
      obtain ⟨given, gives, made⟩ := Outcome.bind_eq_ok.mp evaluated
      exact .inr ⟨_, rfl, handsOver_bindTo (.expression gives) made _⟩
  | named _ _ bound _ => exact .inr ⟨_, rfl, handsOver_bindTo (.parameter _) bound _⟩
  | positional position _ _ bound _ =>
      exact .inr ⟨_, rfl, handsOver_bindTo (.parameter _) bound _⟩
  | skipped => exact .inl rfl
  | omitted => exact .inl rfl

/-- Items are bound by calls in their order, wherever binding stops. -/
theorem Binds.handsOver {items : List BinderItem} {pieces : List (List Binding)}
    {outcome : Except Error Unit} (h : b.Binds arguments evaluate items pieces outcome) :
    List.SublistForall₂ (b.HandsOver arguments evaluate) pieces.flatten items := by
  induction h with
  | nil => exact .nil
  | refused => exact .nil
  | handled here _ ih =>
      rcases here.handsOver with rfl | ⟨call, rfl, hands⟩
      · exact .cons_right ih
      · exact .cons hands ih

/-- The calls of a run hand over what is bound for items of the binder, each item at most once and
in order. -/
theorem handsOver_calls (query : ExpressionQuery) (converter : EntityConverter)
    (history : List BinderCall) (arguments : Arguments) (evaluate : Evaluator) :
    let b : Binder := { query, converter }
    List.SublistForall₂ (b.HandsOver arguments evaluate)
      ((run b history).bind arguments evaluate).calls (b.items arguments) := by
  intro b
  have remembers : (run b history).Remembers query :=
    remembers_run (remembers_fresh query converter) history
  obtain ⟨⟨pieces, whole, binds⟩, -⟩ :=
    covers_bind (b := b) remembers (b.converter_run history) arguments evaluate
  rw [whole]
  exact binds.handsOver

/-- No call of a run has the NULL as its value. -/
theorem not_mem_of_handsOver {calls : List Binding} {items : List BinderItem}
    (h : List.SublistForall₂ (b.HandsOver arguments evaluate) calls items) (id : BindId) :
    .value id .null ∉ calls := by
  induction h with
  | nil => exact List.not_mem_nil
  | cons hands _ ih =>
      obtain ⟨given, bound, -, -, -, handed⟩ := hands
      exact List.not_mem_cons_of_ne_of_not_mem handed.ne_null.symm ih
  | cons_right _ ih => exact ih

end Binder

/-! ## Every way to a driver -/

/-- The NULL is never the value of a call.

* A mapped specification makes one call for each entry of its plan, under the address of the entry
  and in order.  The entries are what the registry binds for what the specification gives, so those
  for which the NULL is written go through the call for NULLs with the type that was given.
* An expansion makes one call for each entry of its plan, and the entries hold what the provider
  answers for their names.
* A binder calls for its items in order, whether the run succeeds or fails.  The value of an
  expression and the argument of a parameter are handed over as what the converters write. -/
theorem handedBy_of_calls :
    (∀ (m : StatementMapper) (spec : Spec) (operation : Operation), m.map spec = .ok operation →
        operation.plan.HandedBy operation.plan.bindings ∧
          List.Forall₂ m.conversions.BindsFor spec.given operation.plan.values) ∧
      (∀ (t : Template) (factory : MarkerFactory) (provider : Provider) (operation : Operation),
        t.expand factory provider = .ok operation →
          operation.plan.HandedBy operation.plan.bindings ∧
            operation.plan.values.map some
              = (t.entryNames factory).map fun name => provider (t.names.idxOf name) name) ∧
      ∀ (query : ExpressionQuery) (converter : EntityConverter) (history : List BinderCall)
        (arguments : Arguments) (evaluate : Evaluator),
        let b : Binder := { query, converter }
        let calls := ((b.run history).bind arguments evaluate).calls
        (∀ id, .value id .null ∉ calls) ∧
          List.SublistForall₂ (b.HandsOver arguments evaluate) calls (b.items arguments) := by
  refine ⟨fun m spec operation mapped => ?_, fun t factory provider operation expanded => ?_, ?_⟩
  · exact ⟨operation.plan.handedBy_bindings, StatementMapper.bindsFor_of_map mapped⟩
  · exact ⟨operation.plan.handedBy_bindings, Template.values_of_expand expanded⟩
  · intro query converter history arguments evaluate b calls
    have handed := Binder.handsOver_calls query converter history arguments evaluate
    exact ⟨Binder.not_mem_of_handsOver handed, handed⟩

/-- A converter writes a word as the NULL.  An update is given the word as a day, the NULL and the
word in a list, a template gets the NULL for its parameter, and an expression has the word as its
value. -/
theorem handedBy_of_calls_word :
    let word : Converter := .ofTables "none" [(.text "none", .ok .null)] []
    let m : StatementMapper := ⟨.postgres, Dialect.postgres.conversions [word]⟩
    let spec : Spec := .update ⟨.unquoted "t",
      (Assignments.empty.setValue (.unquoted "a") (.ofValue (.text "none") .date)).set
        (.unquoted "b") .null,
      Criteria.empty.addTest .and ⟨.ofText "c", .isIn, .list [.null, .text "none", .int 1]⟩⟩
    let t := Template.parse "SELECT :x"
    let provider : Provider := fun _ _ => some (.ofValue .null .uuid)
    let query : ExpressionQuery := .create "SELECT :#{x}"
    let b : Binder := ⟨query, ⟨m.conversions, .postgres⟩, []⟩
    let evaluate : Evaluator := fun _ => .ok (.ofValue (.text "none") .time)
    let calls := ((b.run []).bind ⟨[], [], false⟩ evaluate).calls
    ∃ mapped expanded, m.map spec = .ok mapped ∧ t.expand m.dialect.markers provider = .ok expanded ∧
      mapped.plan.bindings = [.null (.index 0) .date, .null (.index 1) .text,
        .null (.index 2) .text, .value (.index 3) (.int 1)] ∧
      expanded.plan.bindings = [.null (.index 0) .uuid] ∧
      calls = [.null (.name "__synthetic_0__") .time] ∧
      (mapped.plan.HandedBy mapped.plan.bindings ∧
        List.Forall₂ m.conversions.BindsFor spec.given mapped.plan.values) ∧
      expanded.plan.HandedBy expanded.plan.bindings ∧ ∀ id, .value id .null ∉ calls := by
  intro word m spec t provider query b evaluate calls
  obtain ⟨ofMap, ofExpand, ofBind⟩ := handedBy_of_calls
  refine ⟨_, _, rfl, rfl, rfl, rfl, rfl, ofMap m spec _ rfl, ?_, ?_⟩
  · exact (ofExpand t m.dialect.markers provider _ rfl).1
  · exact (ofBind query ⟨m.conversions, .postgres⟩ [] ⟨[], [], false⟩ evaluate).1

end DataMapper
