import DataMapper.Error
import Mathlib.Data.List.Forall2

/-!
# Steps that succeed

A computation that may fail is a chain of steps.  When the chain succeeds each
step has, and the lemmas here take such a chain apart, one step at a time.  A
list of computations is such a chain too.  What is done to errors changes no
success.

`FailsWith` says of a computation with which error it fails, or that it
succeeds.  A chain fails with the first error of its steps.
-/

namespace DataMapper.Outcome

universe u v

variable {ε : Type u} {α β : Type v}

/-- A chain succeeds when its first step does and the rest does after it. -/
theorem bind_eq_ok {x : Except ε α} {f : α → Except ε β} {b : β} :
    (x >>= f) = .ok b ↔ ∃ a, x = .ok a ∧ f a = .ok b := by
  cases x with
  | error e =>
      constructor
      · intro h
        cases h
      · rintro ⟨a, h, _⟩
        cases h
  | ok a =>
      constructor
      · intro h
        exact ⟨a, rfl, h⟩
      · rintro ⟨a', h, hf⟩
        cases h
        exact hf

/-- A mapped computation succeeds when the computation does. -/
theorem map_eq_ok {x : Except ε α} {f : α → β} {b : β} :
    x.map f = .ok b ↔ ∃ a, x = .ok a ∧ f a = b := by
  cases x with
  | error e =>
      constructor
      · intro h
        cases h
      · rintro ⟨a, h, _⟩
        cases h
  | ok a =>
      constructor
      · intro h
        cases h
        exact ⟨a, rfl, rfl⟩
      · rintro ⟨a', h, hf⟩
        cases h
        rw [← hf]
        rfl

/-- A mapped computation fails when the computation does, with its error. -/
theorem map_eq_error {x : Except ε α} {f : α → β} {e : ε} : x.map f = .error e ↔ x = .error e := by
  cases x with
  | error other => exact ⟨fun h => by cases h; rfl, fun h => by cases h; rfl⟩
  | ok a => exact ⟨nofun, nofun⟩

/-- A list of computations whose first succeeds is the list of the others with its result. -/
theorem mapM_cons_of_ok {f : α → Except ε β} {a : α} {b : β} (h : f a = .ok b) (rest : List α) :
    (a :: rest).mapM f = (rest.mapM f).map (b :: ·) := by
  rw [List.mapM_cons, h]
  cases rest.mapM f <;> rfl

/-- A list of computations whose first fails does not go on. -/
theorem mapM_cons_of_error {f : α → Except ε β} {a : α} {e : ε} (h : f a = .error e)
    (rest : List α) : (a :: rest).mapM f = .error e := by
  rw [List.mapM_cons, h]
  rfl

/-- A list of computations succeeds when each of them does. -/
theorem mapM_cons_eq_ok {f : α → Except ε β} {a : α} {rest : List α} {bs : List β} :
    (a :: rest).mapM f = .ok bs ↔
      ∃ b others, f a = .ok b ∧ rest.mapM f = .ok others ∧ bs = b :: others := by
  rw [List.mapM_cons, bind_eq_ok]
  constructor
  · rintro ⟨b, hb, h⟩
    obtain ⟨others, hothers, h⟩ := bind_eq_ok.mp h
    cases h
    exact ⟨b, others, hb, hothers, rfl⟩
  · rintro ⟨b, others, hb, hothers, rfl⟩
    exact ⟨b, hb, bind_eq_ok.mpr ⟨others, hothers, rfl⟩⟩

/-- A list of computations gives the list of what each of them gives. -/
theorem mapM_eq_ok_iff_forall₂ {f : α → Except ε β} {items : List α} {bs : List β} :
    items.mapM f = .ok bs ↔ List.Forall₂ (fun a b => f a = .ok b) items bs := by
  induction items generalizing bs with
  | nil =>
      rw [List.forall₂_nil_left_iff]
      exact ⟨fun done => (Except.ok.inj done).symm, fun none => congrArg Except.ok none.symm⟩
  | cons a rest ih =>
      rw [mapM_cons_eq_ok, List.forall₂_cons_left_iff]
      simp only [ih, exists_and_left]

/-- Each thing that a list of computations gives is given by one of them. -/
theorem exists_of_mem_mapM {f : α → Except ε β} {items : List α} {bs : List β}
    (h : items.mapM f = .ok bs) {b : β} (hb : b ∈ bs) : ∃ a ∈ items, f a = .ok b := by
  induction items generalizing bs with
  | nil =>
      cases h
      cases hb
  | cons first rest ih =>
      obtain ⟨c, others, hc, hothers, rfl⟩ := mapM_cons_eq_ok.mp h
      obtain rfl | behind := List.mem_cons.mp hb
      · exact ⟨first, List.mem_cons_self .., hc⟩
      · obtain ⟨a, ha, given⟩ := ih hothers behind
        exact ⟨a, List.mem_cons_of_mem first ha, given⟩

/-- Computations that each give something related to their item give related lists. -/
theorem exists_mapM_eq_ok {f : α → Except ε β} {R : α → β → Prop} {items : List α}
    (h : ∀ a ∈ items, ∃ b, f a = .ok b ∧ R a b) :
    ∃ bs, items.mapM f = .ok bs ∧ List.Forall₂ R items bs := by
  induction items with
  | nil => exact ⟨[], rfl, .nil⟩
  | cons a rest ih =>
      obtain ⟨⟨b, hb, related⟩, later⟩ := List.forall_mem_cons.mp h
      obtain ⟨others, hothers, all⟩ := ih later
      exact ⟨b :: others, mapM_cons_eq_ok.mpr ⟨b, others, hb, hothers, rfl⟩, .cons related all⟩

/-- A list of computations succeeds exactly when each of them does. -/
theorem exists_mapM_eq_ok_iff {f : α → Except ε β} {items : List α} :
    (∃ bs, items.mapM f = .ok bs) ↔ ∀ a ∈ items, ∃ b, f a = .ok b := by
  constructor
  · rintro ⟨bs, h⟩
    have each := mapM_eq_ok_iff_forall₂.mp h
    clear h
    induction each with
    | nil => nofun
    | cons here _ ih => exact List.forall_mem_cons.mpr ⟨⟨_, here⟩, ih⟩
  · intro each
    obtain ⟨bs, h, -⟩ := exists_mapM_eq_ok (R := fun _ _ => True) fun a mem =>
      (each a mem).imp fun _ hb => ⟨hb, trivial⟩
    exact ⟨bs, h⟩

/-- A list of computations fails with the error of the first that fails. -/
theorem mapM_eq_error_iff {f : α → Except ε β} {e : ε} {items : List α} :
    items.mapM f = .error e ↔ ∃ before a behind, items = before ++ a :: behind ∧
      (∀ b ∈ before, ∃ c, f b = .ok c) ∧ f a = .error e := by
  induction items with
  | nil => exact ⟨nofun, fun ⟨before, a, behind, split, _⟩ => by cases before <;> cases split⟩
  | cons first rest ih =>
      simp only [List.cons_eq_append_iff]
      cases here : f first with
      | error other =>
          rw [mapM_cons_of_error here]
          constructor
          · rintro ⟨⟩
            exact ⟨[], first, rest, .inl ⟨rfl, rfl⟩, nofun, here⟩
          · rintro ⟨before, a, behind, ⟨rfl, split⟩ | ⟨before, rfl, -⟩, succeed, fails⟩
            · cases split
              cases here.symm.trans fails
              rfl
            · obtain ⟨c, hc⟩ := succeed first (List.mem_cons_self ..)
              cases here.symm.trans hc
      | ok c =>
          rw [mapM_cons_of_ok here, map_eq_error, ih]
          constructor
          · rintro ⟨before, a, behind, rfl, succeed, fails⟩
            exact ⟨first :: before, a, behind, .inr ⟨before, rfl, rfl⟩,
              List.forall_mem_cons.mpr ⟨⟨c, here⟩, succeed⟩, fails⟩
          · rintro ⟨before, a, behind, ⟨rfl, split⟩ | ⟨before, rfl, rfl⟩, succeed, fails⟩
            · cases split
              cases here.symm.trans fails
            · exact ⟨before, a, behind, rfl, (List.forall_mem_cons.mp succeed).2, fails⟩

/-- Computations that give the images under a function, each under a condition of
its own, give the list of images when all conditions hold. -/
theorem mapM_eq_ok_iff {f : α → Except ε β} {g : α → β} {p : α → Prop} {items : List α}
    (h : ∀ a ∈ items, ∀ b, f a = .ok b ↔ p a ∧ b = g a) {bs : List β} :
    items.mapM f = .ok bs ↔ (∀ a ∈ items, p a) ∧ bs = items.map g := by
  induction items generalizing bs with
  | nil =>
      constructor
      · intro done
        cases done
        exact ⟨nofun, rfl⟩
      · rintro ⟨-, rfl⟩
        rfl
  | cons a rest ih =>
      have first := h a (List.mem_cons_self ..)
      have later (others : List β) :
          rest.mapM f = .ok others ↔ (∀ b ∈ rest, p b) ∧ others = rest.map g :=
        ih fun b hb => h b (List.mem_cons_of_mem a hb)
      rw [mapM_cons_eq_ok, List.forall_mem_cons, List.map_cons]
      constructor
      · rintro ⟨b, others, hb, hothers, rfl⟩
        obtain ⟨ha, rfl⟩ := (first b).mp hb
        obtain ⟨hrest, rfl⟩ := (later others).mp hothers
        exact ⟨⟨ha, hrest⟩, rfl⟩
      · rintro ⟨⟨ha, hrest⟩, rfl⟩
        exact ⟨g a, rest.map g, (first _).mpr ⟨ha, rfl⟩, (later _).mpr ⟨hrest, rfl⟩, rfl⟩

/-- Computations that all succeed give the list of what they give. -/
theorem mapM_eq_ok_map {f : α → Except ε β} {g : α → β} {items : List α}
    (h : ∀ a ∈ items, f a = .ok (g a)) : items.mapM f = .ok (items.map g) := by
  have always : ∀ a ∈ items, ∀ b, f a = .ok b ↔ True ∧ b = g a := by
    intro a ha b
    rw [h a ha, true_and, Except.ok.injEq]
    exact eq_comm
  exact (mapM_eq_ok_iff always).mpr ⟨fun _ _ => trivial, rfl⟩

/-- A list of computations gives the list itself when each gives its own item. -/
theorem mapM_eq_self_iff {f : α → Except ε α} {items others : List α}
    (h : items.mapM f = .ok others) : others = items ↔ ∀ a ∈ items, f a = .ok a := by
  induction items generalizing others with
  | nil =>
      cases h
      exact ⟨fun _ => nofun, fun _ => rfl⟩
  | cons a rest ih =>
      obtain ⟨b, more, hb, hmore, rfl⟩ := mapM_cons_eq_ok.mp h
      rw [List.forall_mem_cons, List.cons.injEq, ih hmore, hb, Except.ok.injEq]

/-- Naming the column of an error changes no success. -/
theorem atColumn_eq_ok {γ : Type} {column : String} {x : Except Error γ} {a : γ} :
    atColumn column x = .ok a ↔ x = .ok a := by
  cases x with
  | error e => exact ⟨nofun, nofun⟩
  | ok b => exact Iff.rfl

/-- Replacing the error of a computation changes no success. -/
theorem mapError_eq_ok {γ : Type} {f : Error → Error} {x : Except Error γ} {a : γ} :
    x.mapError f = .ok a ↔ x = .ok a := by
  cases x with
  | error e => exact ⟨nofun, nofun⟩
  | ok b => exact Iff.rfl

/-! ## Steps that fail -/

/-- Whether a computation fails with an error that is given, and succeeds if none is. -/
def FailsWith (x : Except ε α) : Option ε → Prop
  | some e => x = .error e
  | none => ∃ a, x = .ok a

namespace FailsWith

variable {x : Except ε α} {first : Option ε}

theorem of_ok {a : α} (h : x = .ok a) : FailsWith x none := ⟨a, h⟩

/-- A chain fails with the error of its first step, or else with that of the rest. -/
theorem bind {f : α → Except ε β} {later : Option ε} (h : FailsWith x first)
    (rest : ∀ a, x = .ok a → FailsWith (f a) later) : FailsWith (x >>= f) (first.or later) := by
  cases first with
  | some e =>
      rw [FailsWith] at h
      rw [h]
      rfl
  | none =>
      obtain ⟨a, done⟩ := h
      have after := rest a done
      rw [done]
      exact after

/-- What always succeeds changes no failure. -/
theorem bind_ok {f : α → Except ε β} (h : FailsWith x first) (rest : ∀ a, ∃ b, f a = .ok b) :
    FailsWith (x >>= f) first := by
  rw [← Option.or_none (o := first)]
  exact h.bind fun a _ => rest a

/-- What is made of a result changes no failure. -/
theorem map (h : FailsWith x first) (f : α → β) : FailsWith (x.map f) first := by
  have chain : x.map f = x >>= fun a => .ok (f a) := by cases x <;> rfl
  rw [chain]
  exact h.bind_ok fun a => ⟨f a, rfl⟩

/-- The error is the one with which the computation fails. -/
theorem eq_error_iff (h : FailsWith x first) {e : ε} : x = .error e ↔ first = some e := by
  cases first with
  | some other =>
      rw [FailsWith] at h
      rw [h, Except.error.injEq, Option.some.injEq]
  | none =>
      obtain ⟨a, done⟩ := h
      rw [done]
      exact iff_of_false nofun nofun

end FailsWith

end DataMapper.Outcome
