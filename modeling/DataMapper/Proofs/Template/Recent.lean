import DataMapper.Template

/-!
# What was requested lately

A cache receives requests for texts and clearings.  What it should hold after them
is said here of the calls alone, the earliest call first.

* `recent` lists the texts requested since the last clearing, each of them once, the
  last requested first.
* `held` is the front of that list, as long as a capacity allows.
* `CameIn` says at which request a text that is held came in: it was not held before
  and was held from then on.  There is only one such request (`CameIn.unique`).

One more request puts its text in front.  It moves there when it is held
(`held_request_of_mem`), and otherwise the others make room (`held_request_of_not_mem`).
-/

namespace DataMapper

/-- A call that changes a cache. -/
inductive CacheCall where
  | request (key : String)
  | clear
  deriving DecidableEq, Repr

def CacheCall.key? : CacheCall → Option String
  | request key => some key
  | clear => none

/-! ## Recent texts -/

/-- The texts requested since the last clearing, the last one first. -/
def requested (calls : List CacheCall) : List String :=
  calls.foldl (fun keys call =>
    match call with
    | .request key => key :: keys
    | .clear => []) []

/-- The same texts, each at its last request. -/
def recent (calls : List CacheCall) : List String := distinct (requested calls)

/-- The texts requested last, as many as there is room for. -/
def held (capacity : Nat) (calls : List CacheCall) : List String :=
  (recent calls).take capacity

theorem recent_request (calls : List CacheCall) (key : String) :
    recent (calls ++ [.request key]) = key :: (recent calls).filter (· ≠ key) := by
  rw [recent, requested, List.foldl_append]
  rfl

theorem recent_clear (calls : List CacheCall) : recent (calls ++ [.clear]) = [] := by
  rw [recent, requested, List.foldl_append]
  rfl

/-- No element is among the distinct ones twice. -/
theorem nodup_distinct {α : Type} [DecidableEq α] (xs : List α) : (distinct xs).Nodup := by
  induction xs with
  | nil => exact List.nodup_nil
  | cons x rest ih =>
      refine List.nodup_cons.mpr ⟨fun found => ?_, ih.filter _⟩
      exact of_decide_eq_true (List.mem_filter.mp found).2 rfl

theorem nodup_recent (calls : List CacheCall) : (recent calls).Nodup :=
  nodup_distinct (requested calls)

theorem nodup_held (capacity : Nat) (calls : List CacheCall) : (held capacity calls).Nodup :=
  (nodup_recent calls).sublist (List.take_sublist ..)

theorem held_clear (capacity : Nat) (calls : List CacheCall) :
    held capacity (calls ++ [.clear]) = [] := by
  rw [held, recent_clear, List.take_nil]

/-! ## Room for one more -/

/-- An element in the front that is left out makes room for the next one behind it. -/
theorem take_filter_of_mem {x : String} {xs : List String} (nodup : xs.Nodup) {n : Nat}
    (h : x ∈ xs.take (n + 1)) :
    (xs.filter (· ≠ x)).take n = (xs.take (n + 1)).filter (· ≠ x) := by
  induction xs generalizing n with
  | nil => cases h
  | cons y rest ih =>
      obtain ⟨new, later⟩ := List.nodup_cons.mp nodup
      rw [List.take_succ_cons] at h ⊢
      by_cases same : y = x
      · subst same
        have out : ∀ z ∈ rest, decide (z ≠ y) = true := fun z hz =>
          decide_eq_true fun same => new (same ▸ hz)
        have front : ∀ z ∈ rest.take n, decide (z ≠ y) = true := fun z hz =>
          out z (List.mem_of_mem_take hz)
        rw [List.filter_cons_of_neg (by simp), List.filter_cons_of_neg (by simp),
          List.filter_eq_self.mpr out, List.filter_eq_self.mpr front]
      · have inside : x ∈ rest.take n := List.mem_of_ne_of_mem (Ne.symm same) h
        rw [List.filter_cons_of_pos (by simpa using same),
          List.filter_cons_of_pos (by simpa using same)]
        cases n with
        | zero => cases inside
        | succ n => rw [List.take_succ_cons, ih later inside]

/-- An element behind the front changes nothing in the front when it is left out. -/
theorem take_filter_of_not_mem {x : String} {xs : List String} {n : Nat} (h : x ∉ xs.take n) :
    (xs.filter (· ≠ x)).take n = xs.take n := by
  induction xs generalizing n with
  | nil => rfl
  | cons y rest ih =>
      cases n with
      | zero => rfl
      | succ n =>
          rw [List.take_succ_cons, List.mem_cons, not_or] at h
          rw [List.filter_cons_of_pos (by simpa using Ne.symm h.1), List.take_succ_cons,
            List.take_succ_cons, ih h.2]

variable {capacity : Nat} {calls : List CacheCall} {key : String}

/-- A text that is held moves to the front when it is requested. -/
theorem held_request_of_mem (h : key ∈ held capacity calls) :
    held capacity (calls ++ [.request key])
      = key :: (held capacity calls).filter (· ≠ key) := by
  cases capacity with
  | zero => cases h
  | succ n =>
      rw [held, recent_request, List.take_succ_cons, take_filter_of_mem (nodup_recent calls) h]
      rfl

/-- A text that is not held comes to the front, before as many others as there is room
for with it. -/
theorem held_request_of_not_mem (room : 0 < capacity) (h : key ∉ held capacity calls) :
    held capacity (calls ++ [.request key])
      = key :: (held capacity calls).take (capacity - 1) := by
  obtain ⟨n, rfl⟩ := Nat.exists_eq_succ_of_ne_zero (Nat.ne_of_gt room)
  have front : (held (n + 1) calls).take n = (recent calls).take n := by
    rw [held, List.take_take, Nat.min_eq_left (Nat.le_succ n)]
  have out : key ∉ (recent calls).take n := fun found =>
    h (List.mem_of_mem_take (front.symm ▸ found))
  rw [held, recent_request, List.take_succ_cons, take_filter_of_not_mem out,
    Nat.succ_sub_one, front]

/-- A text is held after its request. -/
theorem mem_held_request (room : 0 < capacity) (calls : List CacheCall) (key : String) :
    key ∈ held capacity (calls ++ [.request key]) := by
  obtain ⟨n, rfl⟩ := Nat.exists_eq_succ_of_ne_zero (Nat.ne_of_gt room)
  rw [held, recent_request, List.take_succ_cons]
  exact List.mem_cons_self ..

/-! ## The request at which a text came in -/

/-- Whether a text came in with its request between two parts of the calls, and was held
from then on. -/
structure CameIn (capacity : Nat) (before : List CacheCall) (key : String)
    (later : List CacheCall) : Prop where
  new : key ∉ held capacity before
  kept : ∀ front, front <+: later → key ∈ held capacity (before ++ .request key :: front)

namespace CameIn

variable {before later before' later' rest : List CacheCall}

/-- A text comes in with the last call. -/
theorem last (room : 0 < capacity) (new : key ∉ held capacity before) :
    CameIn capacity before key [] := by
  refine ⟨new, fun front h => ?_⟩
  rw [List.prefix_nil.mp h]
  exact mem_held_request room before key

/-- A text that is held after one more call came in when it did before. -/
theorem concat (h : CameIn capacity before key later) {call : CacheCall}
    (still : key ∈ held capacity (before ++ .request key :: later ++ [call])) :
    CameIn capacity before key (later ++ [call]) := by
  refine ⟨h.new, fun front hfront => ?_⟩
  rcases List.prefix_concat_iff.mp hfront with rfl | shorter
  · rw [← List.cons_append, ← List.append_assoc]
    exact still
  · exact h.kept front shorter

/-- A text that was held from one request on did not come in later. -/
theorem not_later (h : CameIn capacity before key later)
    (h' : CameIn capacity (before ++ .request key :: later') key rest)
    (split : later = later' ++ .request key :: rest) : False := by
  refine h'.new (h.kept later' ?_)
  rw [split]
  exact List.prefix_append ..

/-- A text that is held came in with one request. -/
theorem unique (h : CameIn capacity before key later) (h' : CameIn capacity before' key later')
    (same : before ++ .request key :: later = before' ++ .request key :: later') :
    later = later' := by
  rcases List.append_eq_append_iff.mp same with ⟨more, rfl, tail⟩ | ⟨more, rfl, tail⟩
  · cases more with
    | nil => exact (List.cons.inj tail).2
    | cons call more =>
        obtain ⟨rfl, split⟩ := List.cons.inj tail
        exact (h.not_later h' split).elim
  · cases more with
    | nil => exact (List.cons.inj tail).2.symm
    | cons call more =>
        obtain ⟨rfl, split⟩ := List.cons.inj tail
        exact (h'.not_later h split).elim

end CameIn

end DataMapper
