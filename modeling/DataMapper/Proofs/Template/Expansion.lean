import DataMapper.Proofs.Marker.Run
import DataMapper.Proofs.Outcome
import DataMapper.Template.Expansion
import Mathlib.Data.List.Basic

/-!
# What an expansion asks and what it gives

The questions of a template are its distinct names with their positions
(`Template.questions`).  A provider is asked them in order up to the first one that it
does not answer (`Template.valuesFrom_recorded`).

`Template.fill` writes segments with a marker for each parameter, and `unseen` lists the
names that come for the first time.  The induction over the segments carries what was
assigned so far: with markers that bind by name, the names seen before are assigned
the markers of their positions, and with others nothing is.

`Template.expandWith_recorded` says what an expansion asks, when it fails and what it
gives.  It is for every factory that can hand out a marker: a style of names whose greatest
length falls inside a character of the stem has no name for any position and hint
(`isSome_truncate?_wholeName`), and makes no factory (`NameStyle.whole`).
-/

namespace DataMapper

/-- Whether a provider gives a value for a question. -/
def Provider.Answers (provider : Provider) (question : Nat × String) : Prop :=
  (provider question.1 question.2).isSome

namespace Template

/-! ## Questions -/

/-- Names with their positions from one on. -/
def questionsFrom (position : Nat) (names : List String) : List (Nat × String) :=
  (names.zipIdx position).map Prod.swap

theorem questionsFrom_cons (position : Nat) (name : String) (names : List String) :
    questionsFrom position (name :: names)
      = (position, name) :: questionsFrom (position + 1) names := by
  rw [questionsFrom, List.zipIdx_cons, List.map_cons, questionsFrom]
  rfl

/-- The distinct names of a template with their positions. -/
def questions (t : Template) : List (Nat × String) := questionsFrom 0 t.names

/-- Each name has its question. -/
theorem mem_questions {t : Template} {name : String} (h : name ∈ t.names) :
    (t.names.idxOf name, name) ∈ t.questions := by
  rw [questions, questionsFrom, List.mem_map]
  refine ⟨(name, t.names.idxOf name), ?_, rfl⟩
  rw [List.mk_mem_zipIdx_iff_getElem?, List.getElem?_idxOf h]

/-- Whether the questions asked are all up to the first one without an answer, which is
about a name. -/
def StopsAt (provider : Provider) (questions asked : List (Nat × String)) (name : String) : Prop :=
  ∃ front position rest, questions = front ++ (position, name) :: rest ∧
    asked = front ++ [(position, name)] ∧ (∀ question ∈ front, provider.Answers question) ∧
      provider position name = none

/-- An answered question is asked before those up to the first without an answer. -/
theorem StopsAt.cons {provider : Provider} {questions asked : List (Nat × String)} {name : String}
    {question : Nat × String} (answers : provider.Answers question)
    (h : StopsAt provider questions asked name) :
    StopsAt provider (question :: questions) (question :: asked) name := by
  obtain ⟨front, position, rest, rfl, rfl, answered, lacks⟩ := h
  exact ⟨question :: front, position, rest, rfl, rfl,
    List.forall_mem_cons.mpr ⟨answers, answered⟩, lacks⟩

/-- Not all questions are answered when one is not. -/
theorem StopsAt.not_all {provider : Provider} {questions asked : List (Nat × String)}
    {name : String} (h : StopsAt provider questions asked name) :
    ¬ ∀ question ∈ questions, provider.Answers question := by
  obtain ⟨front, position, rest, rfl, -, -, lacks⟩ := h
  intro all
  have answers := all (position, name) (by simp)
  rw [Provider.Answers, lacks] at answers
  cases answers

/-- The first question without an answer is one. -/
theorem StopsAt.unique {provider : Provider} {questions asked asked' : List (Nat × String)}
    {name name' : String} (h : StopsAt provider questions asked name)
    (h' : StopsAt provider questions asked' name') : asked = asked' ∧ name = name' := by
  obtain ⟨front, position, rest, rfl, rfl, answered, lacks⟩ := h
  obtain ⟨front', position', rest', same, rfl, answered', lacks'⟩ := h'
  have unanswered : ¬ provider.Answers (position, name) := by simp [Provider.Answers, lacks]
  have unanswered' : ¬ provider.Answers (position', name') := by simp [Provider.Answers, lacks']
  rcases List.append_eq_append_iff.mp same with ⟨more, rfl, tail⟩ | ⟨more, rfl, tail⟩
  · cases more with
    | nil =>
        cases tail
        exact ⟨by rw [List.append_nil], rfl⟩
    | cons question more =>
        cases tail
        exact absurd (answered' _ (by simp)) unanswered
  · cases more with
    | nil =>
        cases tail
        exact ⟨by rw [List.append_nil], rfl⟩
    | cons question more =>
        cases tail
        exact absurd (answered _ (by simp)) unanswered'

/-- One question, and what is done with its answer. -/
theorem run_valuesFrom_cons (provider : Provider) (position : Nat) (name : String)
    (rest : List String) (log : List (Nat × String)) :
    (valuesFrom (recorded provider) position (name :: rest)).run log =
      match provider position name with
      | none => (.error name, log ++ [(position, name)])
      | some value =>
          let later :=
            (valuesFrom (recorded provider) (position + 1) rest).run (log ++ [(position, name)])
          (later.1.map ((name, value) :: ·), later.2) := by
  simp only [valuesFrom, recorded]
  cases provider position name <;> rfl

/-- A provider that writes down the questions gives the same values. -/
theorem fst_run_valuesFrom (provider : Provider) (position : Nat) (names : List String)
    (log : List (Nat × String)) :
    ((valuesFrom (recorded provider) position names).run log).1
      = Id.run
          (valuesFrom (fun position name => return provider position name) position names) := by
  induction names generalizing position log with
  | nil => rfl
  | cons name rest ih =>
      rw [run_valuesFrom_cons, valuesFrom]
      cases answer : provider position name with
      | none => rfl
      | some value => exact congrArg (Except.map ((name, value) :: ·)) (ih (position + 1) _)

/-- Either all questions are answered and asked, and each name is listed with its value,
or the first one without an answer is the last one asked. -/
theorem run_valuesFrom (provider : Provider) (position : Nat) (names : List String)
    (log : List (Nat × String)) :
    (∃ values, (valuesFrom (recorded provider) position names).run log
        = (.ok values, log ++ questionsFrom position names) ∧
      (∀ question ∈ questionsFrom position names, provider.Answers question) ∧
      ∀ name ∈ names, values.lookup name = provider (position + names.idxOf name) name) ∨
    ∃ name asked, (valuesFrom (recorded provider) position names).run log
        = (.error name, log ++ asked) ∧
      StopsAt provider (questionsFrom position names) asked name := by
  induction names generalizing position log with
  | nil =>
      refine .inl ⟨[], ?_, nofun, nofun⟩
      rw [questionsFrom, List.zipIdx_nil, List.map_nil, List.append_nil]
      rfl
  | cons name rest ih =>
      rw [questionsFrom_cons, run_valuesFrom_cons]
      cases answer : provider position name with
      | none => exact .inr ⟨name, _, rfl, [], position, _, rfl, rfl, nofun, answer⟩
      | some value =>
          have answers : provider.Answers (position, name) := by
            rw [Provider.Answers, answer, Option.isSome_some]
          rcases ih (position + 1) (log ++ [(position, name)]) with
            ⟨values, run, answered, given⟩ | ⟨other, asked, run, stops⟩
          · refine .inl ⟨(name, value) :: values, ?_,
              List.forall_mem_cons.mpr ⟨answers, answered⟩, fun key hkey => ?_⟩
            · rw [run, List.append_assoc]
              rfl
            · by_cases same : key = name
              · rw [same, List.lookup_cons_self, List.idxOf_cons_self, Nat.add_zero, answer]
              · have differs : (key == name) = false := beq_false_of_ne same
                rw [List.lookup_cons, differs, List.idxOf_cons_ne _ (Ne.symm same)]
                have later := given key (List.mem_of_ne_of_mem same hkey)
                rw [later, Nat.add_assoc, Nat.add_comm 1]
          · refine .inr ⟨other, (position, name) :: asked, ?_, stops.cons answers⟩
            rw [run, List.append_assoc]
            rfl

/-! ## Segments -/

/-- Segments as fragments, text as it is and a marker for each parameter, which depends
on the number of parameters before it and on its name. -/
def fill (marker : Nat → String → Marker) : Nat → List Segment → Sql
  | _, [] => []
  | before, .text s :: rest => .text s :: fill marker before rest
  | before, .parameter name :: rest =>
      .marker (marker before name) :: fill marker (before + 1) rest

/-- The names of segments that are not among those seen before, each once. -/
def unseen (seen names : List String) : List String := (distinct names).filter (· ∉ seen)

theorem unseen_nil (names : List String) : unseen [] names = distinct names := by
  rw [unseen, List.filter_eq_self]
  exact fun name _ => decide_eq_true List.not_mem_nil

/-- A name that was seen is not listed. -/
theorem unseen_cons_of_mem {seen : List String} {name : String} (h : name ∈ seen)
    (names : List String) : unseen seen (name :: names) = unseen seen names := by
  rw [unseen, distinct, List.filter_cons_of_neg (by simpa using h), List.filter_filter, unseen]
  refine List.filter_congr fun other _ => ?_
  rw [Bool.and_eq_left_iff_imp]
  intro new
  refine decide_eq_true ?_
  rintro rfl
  exact of_decide_eq_true new h

/-- A name that comes for the first time is listed, and was seen after that. -/
theorem unseen_cons_of_not_mem {seen : List String} {name : String} (h : name ∉ seen)
    (names : List String) :
    unseen seen (name :: names) = name :: unseen (seen ++ [name]) names := by
  rw [unseen, distinct, List.filter_cons_of_pos (by simpa using h), List.filter_filter, unseen]
  refine congrArg (name :: ·) (List.filter_congr fun other _ => ?_)
  simp only [List.mem_append, List.mem_singleton, not_or, Bool.decide_and, ne_eq]

section Segments

variable {text : String} {factory : MarkerFactory} {values : List (String × Settable)}
  {position : Nat} {assigned : List (String × Marker)} {name : String}

/-- Text is written as it is. -/
theorem expandSegments_of_text (s : String) {rest : List Segment} {sql : Sql} {plan : Plan}
    (h : expandSegments text factory values position assigned rest = .ok (sql, plan)) :
    expandSegments text factory values position assigned (.text s :: rest)
      = .ok (.text s :: sql, plan) := by
  rw [expandSegments, h]
  rfl

/-- A parameter with a marker uses it again. -/
theorem expandSegments_of_assigned {marker : Marker} (known : assigned.lookup name = some marker)
    {rest : List Segment} {sql : Sql} {plan : Plan}
    (h : expandSegments text factory values position assigned rest = .ok (sql, plan)) :
    expandSegments text factory values position assigned (.parameter name :: rest)
      = .ok (.marker marker :: sql, plan) := by
  rw [expandSegments, known, h]
  rfl

/-- A parameter without a marker makes one, with an entry of the plan. -/
theorem expandSegments_of_new (new : assigned.lookup name = none) {value : Settable}
    (given : values.lookup name = some value) {rest : List Segment} {sql : Sql} {plan : Plan}
    (h : expandSegments text factory values (position + 1)
      (if factory.isNamed then (name, factory.marker position (some name)) :: assigned
        else assigned) rest = .ok (sql, plan)) :
    expandSegments text factory values position assigned (.parameter name :: rest)
      = .ok (.marker (factory.marker position (some name)) :: sql,
          (factory.marker position (some name), value) :: plan) := by
  rw [expandSegments, new, given]
  simp only [h]
  rfl

/-- Markers that bind by position are made one for each parameter. -/
theorem expandSegments_of_position (text : String) (unnamed : factory.isNamed = false)
    (segments : List Segment) (position : Nat)
    (given : ∀ name ∈ segments.filterMap Segment.name?, (values.lookup name).isSome) :
    ∃ plan : Plan, expandSegments text factory values position [] segments
        = .ok (fill (fun before name => factory.marker before (some name)) position segments,
          plan) ∧
      plan.map Prod.fst = (Markers.mk factory position).run
        ((segments.filterMap Segment.name?).map some) ∧
      plan.map (fun entry => some entry.2)
        = (segments.filterMap Segment.name?).map fun name => values.lookup name := by
  induction segments generalizing position with
  | nil => exact ⟨[], rfl, rfl, rfl⟩
  | cons segment rest ih =>
      cases segment with
      | text s =>
          obtain ⟨plan, expanded, markers, entries⟩ := ih position given
          exact ⟨plan, expandSegments_of_text s expanded, markers, entries⟩
      | parameter name =>
          obtain ⟨here, later⟩ := List.forall_mem_cons.mp given
          obtain ⟨value, hvalue⟩ := Option.isSome_iff_exists.mp here
          obtain ⟨plan, expanded, markers, entries⟩ := ih (position + 1) later
          refine ⟨(factory.marker position (some name), value) :: plan, ?_, ?_, ?_⟩
          · refine expandSegments_of_new rfl hvalue ?_
            rw [unnamed]
            exact expanded
          · exact congrArg (factory.marker position (some name) :: ·) markers
          · exact congrArg₂ List.cons hvalue.symm entries

/-- Whether the names seen are assigned the markers of their positions, and no others. -/
def Assigns (factory : MarkerFactory) (assigned : List (String × Marker)) (seen : List String) :
    Prop :=
  ∀ name, assigned.lookup name
    = if name ∈ seen then some (factory.marker (seen.idxOf name) (some name)) else none

/-- A name that comes for the first time is assigned the marker of the next position. -/
theorem Assigns.concat {seen : List String} (h : Assigns factory assigned seen)
    (new : name ∉ seen) :
    Assigns factory ((name, factory.marker seen.length (some name)) :: assigned)
      (seen ++ [name]) := by
  intro other
  by_cases same : other = name
  · have found : other ∈ seen ++ [name] := by rw [same]; exact List.mem_concat_self
    rw [if_pos found, same, List.lookup_cons_self, List.idxOf_append_of_notMem new,
      List.idxOf_cons_self, Nat.add_zero]
  · have differs : (other == name) = false := beq_false_of_ne same
    rw [List.lookup_cons, differs, h other]
    by_cases old : other ∈ seen
    · rw [if_pos old, if_pos (List.mem_append_left _ old), List.idxOf_append_of_mem old]
    · have out : other ∉ seen ++ [name] := by simp [old, same]
      rw [if_neg old, if_neg out]

/-- Markers that bind by name are made at the first parameter of each name.  The next
position is the number of the names seen. -/
theorem expandSegments_of_name (text : String) (named : factory.isNamed = true)
    (segments : List Segment) {seen : List String} (known : Assigns factory assigned seen)
    (given : ∀ name ∈ segments.filterMap Segment.name?, (values.lookup name).isSome)
    {all : List String}
    (whole : all = seen ++ unseen seen (segments.filterMap Segment.name?)) (before : Nat) :
    ∃ plan : Plan, expandSegments text factory values seen.length assigned segments
        = .ok (fill (fun _ name => factory.marker (all.idxOf name) (some name)) before segments,
          plan) ∧
      plan.map Prod.fst = (Markers.mk factory seen.length).run
        ((unseen seen (segments.filterMap Segment.name?)).map some) ∧
      plan.map (fun entry => some entry.2)
        = (unseen seen (segments.filterMap Segment.name?)).map fun name => values.lookup name := by
  induction segments generalizing seen assigned before with
  | nil => exact ⟨[], rfl, rfl, rfl⟩
  | cons segment rest ih =>
      cases segment with
      | text s =>
          obtain ⟨plan, expanded, markers, entries⟩ := ih known given whole before
          exact ⟨plan, expandSegments_of_text s expanded, markers, entries⟩
      | parameter name =>
          obtain ⟨here, later⟩ := List.forall_mem_cons.mp given
          have names : (Segment.parameter name :: rest).filterMap Segment.name?
              = name :: rest.filterMap Segment.name? := rfl
          rw [names] at whole ⊢
          -- A name seen before changes neither list, and a new one moves from one to the other.
          by_cases old : name ∈ seen
          · rw [unseen_cons_of_mem old] at whole ⊢
            obtain ⟨plan, expanded, markers, entries⟩ := ih known later whole (before + 1)
            have place : all.idxOf name = seen.idxOf name := by
              rw [whole, List.idxOf_append_of_mem old]
            refine ⟨plan, ?_, markers, entries⟩
            rw [fill, place]
            exact expandSegments_of_assigned (by rw [known name, if_pos old]) expanded
          · rw [unseen_cons_of_not_mem old] at whole ⊢
            have place : all.idxOf name = seen.length := by
              rw [whole, List.idxOf_append_of_notMem old, List.idxOf_cons_self, Nat.add_zero]
            rw [List.append_cons] at whole
            obtain ⟨value, hvalue⟩ := Option.isSome_iff_exists.mp here
            obtain ⟨plan, expanded, markers, entries⟩ :=
              ih (known.concat old) later whole (before + 1)
            rw [List.length_append, List.length_singleton] at expanded markers
            refine ⟨(factory.marker seen.length (some name), value) :: plan, ?_, ?_, ?_⟩
            · rw [fill, place]
              refine expandSegments_of_new (by rw [known name, if_neg old]) hvalue ?_
              rw [if_pos named, expanded]
            · exact congrArg (factory.marker seen.length (some name) :: ·) markers
            · exact congrArg₂ List.cons hvalue.symm entries

end Segments

/-! ## Expansions -/

/-- The marker of a placeholder of a name behind a number of others.  Markers that bind by
name stand for all placeholders of a name. -/
def placeholderMarker (t : Template) (factory : MarkerFactory) (before : Nat) (name : String) :
    Marker :=
  factory.marker (if factory.isNamed then t.names.idxOf name else before) (some name)

/-- The names of the entries of the plan, in order. -/
def entryNames (t : Template) (factory : MarkerFactory) : List String :=
  if factory.isNamed then t.names else t.occurrences

theorem mem_names_of_mem_entryNames {t : Template} {factory : MarkerFactory} {name : String}
    (h : name ∈ t.entryNames factory) : name ∈ t.names := by
  rw [entryNames] at h
  split at h
  · exact h
  · exact mem_distinct.mpr h

/-- The segments of a template whose names all have values are expanded. -/
theorem expandSegments_segments (t : Template) (factory : MarkerFactory)
    {values : List (String × Settable)} (given : ∀ name ∈ t.names, (values.lookup name).isSome) :
    ∃ plan : Plan, expandSegments t.text factory values 0 [] t.segments
        = .ok (fill (t.placeholderMarker factory) 0 t.segments, plan) ∧
      plan.map Prod.fst = (Markers.mk factory 0).run ((t.entryNames factory).map some) ∧
      plan.map (fun entry => some entry.2)
        = (t.entryNames factory).map fun name => values.lookup name := by
  have each : ∀ name ∈ t.segments.filterMap Segment.name?, (values.lookup name).isSome :=
    fun name hname => given name (mem_distinct.mpr hname)
  cases named : factory.isNamed with
  | false =>
      have marker : t.placeholderMarker factory = fun before name =>
          factory.marker before (some name) := by
        funext before name
        rw [placeholderMarker, named, if_neg Bool.false_ne_true]
      rw [marker, entryNames, named]
      exact expandSegments_of_position t.text named t.segments 0 each
  | true =>
      have marker : t.placeholderMarker factory = fun _ name =>
          factory.marker (t.names.idxOf name) (some name) := by
        funext before name
        rw [placeholderMarker, if_pos named]
      have none : Assigns factory [] [] := fun _ => rfl
      have whole : t.names = [] ++ unseen [] (t.segments.filterMap Segment.name?) :=
        (unseen_nil _).symm
      obtain ⟨plan, expanded, rest⟩ :=
        expandSegments_of_name t.text named t.segments none each whole 0
      rw [unseen_nil] at rest
      rw [marker, entryNames, named]
      exact ⟨plan, expanded, rest⟩

/-- An expansion with the questions that it asks. -/
def recordedExpansion (t : Template) (factory : MarkerFactory) (provider : Provider) :
    Except Error (Sql × Plan) × List (Nat × String) :=
  (t.expandWith factory (recorded provider)).run []

/-- The questions are put before anything is written. -/
theorem recordedExpansion_eq (t : Template) (factory : MarkerFactory) (provider : Provider) :
    t.recordedExpansion factory provider =
      match (valuesFrom (recorded provider) 0 t.names).run [] with
      | (.error name, asked) => (.error (.missingParameter name t.text), asked)
      | (.ok values, asked) => (expandSegments t.text factory values 0 [] t.segments, asked) := by
  rw [recordedExpansion, expandWith, StateT.run_bind]
  rcases (valuesFrom (recorded provider) 0 t.names).run [] with ⟨_ | _, asked⟩ <;> rfl

/-- The expansion is the same when the questions are written down. -/
theorem expand_eq_recordedExpansion (t : Template) (factory : MarkerFactory) (provider : Provider) :
    t.expand factory provider = (t.recordedExpansion factory provider).1.map fun expanded =>
      ⟨Sql.text expanded.1, expanded.2⟩ := by
  have values := fst_run_valuesFrom provider 0 t.names []
  rw [recordedExpansion_eq, expand, expandSql, expandWith]
  rcases run : (valuesFrom (recorded provider) 0 t.names).run [] with ⟨_ | _, asked⟩
  all_goals
    rw [run] at values
    rw [Id.run_bind, ← values]
    rfl

/-- The questions are those of the expansion. -/
theorem asked_eq_recordedExpansion (t : Template) (factory : MarkerFactory) (provider : Provider) :
    t.asked provider = (t.recordedExpansion factory provider).2 := by
  rw [recordedExpansion_eq, asked]
  rcases (valuesFrom (recorded provider) 0 t.names).run [] with ⟨_ | _, asked⟩ <;> rfl

/-- An expansion succeeds with all questions asked, or fails with the last one asked. -/
theorem recordedExpansion_cases (t : Template) (factory : MarkerFactory) (provider : Provider) :
    (∃ plan : Plan, t.recordedExpansion factory provider
        = (.ok (fill (t.placeholderMarker factory) 0 t.segments, plan), t.questions) ∧
      (∀ question ∈ t.questions, provider.Answers question) ∧
      plan.map Prod.fst = (Markers.mk factory 0).run ((t.entryNames factory).map some) ∧
      plan.map (fun entry => some entry.2)
        = (t.entryNames factory).map fun name => provider (t.names.idxOf name) name) ∨
    ∃ name asked, t.recordedExpansion factory provider
        = (.error (.missingParameter name t.text), asked) ∧
      StopsAt provider t.questions asked name := by
  rw [recordedExpansion_eq]
  rcases run_valuesFrom provider 0 t.names [] with
    ⟨values, run, answered, given⟩ | ⟨name, asked, run, stops⟩
  · have found : ∀ name ∈ t.names, values.lookup name = provider (t.names.idxOf name) name := by
      simpa only [Nat.zero_add] using given
    have some : ∀ name ∈ t.names, (values.lookup name).isSome := fun name hname => by
      rw [found name hname]
      exact answered _ (mem_questions hname)
    obtain ⟨plan, expanded, markers, entries⟩ := t.expandSegments_segments factory some
    refine .inl ⟨plan, ?_, answered, markers, entries.trans ?_⟩
    · rw [run]
      exact Prod.ext expanded rfl
    · exact List.map_congr_left fun name hname => found name (mem_names_of_mem_entryNames hname)
  · refine .inr ⟨name, asked, ?_, stops⟩
    rw [run]
    rfl

/-- An expansion of a template whose names all have values is one text with one list of
markers, whatever the values are. -/
theorem exists_expand (t : Template) (factory : MarkerFactory) {provider : Provider}
    (answers : ∀ question ∈ t.questions, provider.Answers question) :
    ∃ operation, t.expand factory provider = .ok operation ∧
      operation.sql = Sql.text (fill (t.placeholderMarker factory) 0 t.segments) ∧
      operation.plan.map Prod.fst
        = (Markers.mk factory 0).run ((t.entryNames factory).map some) := by
  rcases t.recordedExpansion_cases factory provider with
    ⟨plan, expanded, -, markers, -⟩ | ⟨name, asked, -, stops⟩
  · refine ⟨⟨Sql.text (fill (t.placeholderMarker factory) 0 t.segments), plan⟩, ?_, rfl, markers⟩
    rw [expand_eq_recordedExpansion, expanded]
    rfl
  · exact absurd answers stops.not_all

/-- A plan is known by its markers and its values. -/
theorem plan_ext {plan other : Plan} (markers : plan.map Prod.fst = other.map Prod.fst)
    (values : plan.map (fun entry => some entry.2) = other.map fun entry => some entry.2) :
    plan = other := by
  have same : plan.map Prod.snd = other.map Prod.snd := by
    refine List.map_injective_iff.mpr (fun _ _ h => Option.some.inj h) ?_
    rw [List.map_map, List.map_map]
    exact values
  exact (List.zip_of_prod markers same).trans (List.zip_of_prod rfl rfl).symm

/-- An expansion asks for the value of each distinct name, in order, up to the first one
without a value.  It fails exactly when there is such a name, and the error has that name
and the text of the template.  Otherwise the text is the segments with a marker for each
parameter, and the plan has the markers handed out, with the values of their names.  The
factory is any one whose names can be cut to their length, that is, any one that can hand out
a marker. -/
theorem expandWith_recorded (t : Template) (factory : MarkerFactory) (provider : Provider) :
    let outcome := t.recordedExpansion factory provider
    t.expand factory provider
        = outcome.1.map (fun expanded => ⟨Sql.text expanded.1, expanded.2⟩) ∧
      t.asked provider = outcome.2 ∧
      (∀ error asked, outcome = (.error error, asked) ↔
        ∃ name, StopsAt provider t.questions asked name ∧
          error = .missingParameter name t.text) ∧
      ∀ sql plan asked, outcome = (.ok (sql, plan), asked) ↔
        (∀ question ∈ t.questions, provider.Answers question) ∧ asked = t.questions ∧
          sql = fill (t.placeholderMarker factory) 0 t.segments ∧
          plan.map Prod.fst = (Markers.mk factory 0).run ((t.entryNames factory).map some) ∧
          plan.map (fun entry => some entry.2)
            = (t.entryNames factory).map fun name => provider (t.names.idxOf name) name := by
  refine ⟨t.expand_eq_recordedExpansion factory provider,
    t.asked_eq_recordedExpansion factory provider, ?_⟩
  rcases t.recordedExpansion_cases factory provider with
    ⟨plan, known, answered, markers, entries⟩ | ⟨name, asked, known, stops⟩
  · rw [known]
    refine ⟨fun error asked => ⟨nofun, fun ⟨name, stops, _⟩ => absurd answered stops.not_all⟩,
      fun sql other asked => ⟨?_, ?_⟩⟩
    · rintro ⟨⟩
      exact ⟨answered, rfl, rfl, markers, entries⟩
    · rintro ⟨-, rfl, rfl, markers', entries'⟩
      rw [plan_ext (markers.trans markers'.symm) (entries.trans entries'.symm)]
  · rw [known]
    refine ⟨fun error other => ⟨?_, ?_⟩, fun sql plan other => ⟨nofun, fun h => ?_⟩⟩
    · rintro ⟨⟩
      exact ⟨name, stops, rfl⟩
    · rintro ⟨name', stops', rfl⟩
      obtain ⟨rfl, rfl⟩ := stops.unique stops'
      rfl
    · exact absurd h.1 stops.not_all

end Template

end DataMapper
