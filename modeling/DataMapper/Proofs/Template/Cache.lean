import DataMapper.Proofs.Template.Recent
import DataMapper.Template.Cache
import Mathlib.Data.List.Nodup

/-!
# What a cache holds

The entries of a cache are in no order of their own, but their times put them in one.
`InOrder` says that this order is that of a list of texts, the last requested first.
A request for a text that is held puts it in front (`InOrder.touch`), and the entry that
leaves is the one at the end (`InOrder.evict`).

`Cache.Mirrors` is what a cache knows of the calls so far, when the clock goes up: the
order of its entries is that of the texts to be held, and the count of each entry began
when its text came in.  One call keeps it (`Cache.Mirrors.request`,
`Cache.Mirrors.clear`), so any calls do (`Cache.mirrors_run`).

`Cache.held_of_run` says the rest of it for the answers, which do not depend on the clock.
-/

namespace DataMapper

/-! ## Entries in the order of their times -/

/-- Whether entries come in the order of some texts, the last requested one first. -/
def InOrder {α : Type} (entries : List (CacheEntry α)) (keys : List String) : Prop :=
  ∃ order : List (CacheEntry α), entries.Perm order ∧
    order.Pairwise (fun a b => b.lastUsed < a.lastUsed) ∧ order.map CacheEntry.key = keys

namespace InOrder

variable {α : Type} {entries : List (CacheEntry α)} {keys : List String}

theorem nil : InOrder ([] : List (CacheEntry α)) [] := ⟨[], .nil, .nil, rfl⟩

theorem length_eq (h : InOrder entries keys) : entries.length = keys.length := by
  obtain ⟨order, perm, -, rfl⟩ := h
  rw [perm.length_eq, List.length_map]

theorem mem_keys_iff (h : InOrder entries keys) {key : String} :
    key ∈ keys ↔ ∃ entry ∈ entries, entry.key = key := by
  obtain ⟨order, perm, -, rfl⟩ := h
  rw [List.mem_map]
  exact exists_congr fun entry => and_congr_left fun _ => perm.mem_iff.symm

/-- A later entry is put in front. -/
theorem cons (h : InOrder entries keys) {entry : CacheEntry α}
    (late : ∀ other ∈ entries, other.lastUsed < entry.lastUsed) :
    InOrder (entry :: entries) (entry.key :: keys) := by
  obtain ⟨order, perm, sorted, rfl⟩ := h
  refine ⟨entry :: order, perm.cons entry, List.pairwise_cons.mpr ⟨?_, sorted⟩, rfl⟩
  exact fun other hother => late other (perm.mem_iff.mpr hother)

/-- An entry whose text stands once among the texts stands between the others. -/
theorem split (h : InOrder entries keys) (nodup : keys.Nodup) {key : String} (mem : key ∈ keys) :
    ∃ before entry after, entry.key = key ∧ entries.Perm (before ++ entry :: after) ∧
      (before ++ entry :: after).Pairwise (fun a b => b.lastUsed < a.lastUsed) ∧
      keys = before.map CacheEntry.key ++ key :: after.map CacheEntry.key ∧
      ∀ other ∈ before ++ after, other.key ≠ key := by
  obtain ⟨order, perm, sorted, rfl⟩ := h
  obtain ⟨entry, hentry, rfl⟩ := List.mem_map.mp mem
  obtain ⟨before, after, rfl⟩ := List.append_of_mem hentry
  refine ⟨before, entry, after, rfl, perm, sorted, ?_, fun other hother same => ?_⟩
  · rw [List.map_append, List.map_cons]
  · rw [List.map_append, List.map_cons, List.nodup_middle, ← List.map_append] at nodup
    exact (List.nodup_cons.mp nodup).1 (List.mem_map.mpr ⟨other, hother, same⟩)

/-- Other texts are all that is left when one is left out. -/
theorem filter_keys {before after : List (CacheEntry α)} {key : String}
    (others : ∀ other ∈ before ++ after, other.key ≠ key) :
    (before.map CacheEntry.key ++ key :: after.map CacheEntry.key).filter (· ≠ key)
      = (before ++ after).map CacheEntry.key := by
  rw [List.filter_append, List.filter_cons_of_neg (by simp), ← List.filter_append,
    ← List.map_append, List.filter_eq_self]
  rintro _ found
  obtain ⟨other, hother, rfl⟩ := List.mem_map.mp found
  exact decide_eq_true (others other hother)

/-- Entries of other texts are not touched. -/
theorem touch_eq_self {now : Nat} {key : String} (others : ∀ other ∈ entries, other.key ≠ key) :
    Cache.touch now key entries = entries := by
  refine (List.map_congr_left fun other hother => ?_).trans (List.map_id entries)
  exact if_neg (others other hother)

/-- An entry that is requested again comes to the front. -/
theorem touch (h : InOrder entries keys) (nodup : keys.Nodup) {key : String} (mem : key ∈ keys)
    {now : Nat} (late : ∀ other ∈ entries, other.lastUsed < now) :
    InOrder (Cache.touch now key entries) (key :: keys.filter (· ≠ key)) := by
  obtain ⟨before, entry, after, rfl, perm, sorted, rfl, others⟩ := h.split nodup mem
  have touched : Cache.touch now entry.key (before ++ entry :: after)
      = before ++ { entry with lastUsed := now, hits := entry.hits + 1 } :: after := by
    obtain ⟨first, last⟩ := List.forall_mem_append.mp others
    rw [Cache.touch, List.map_append, List.map_cons, if_pos rfl]
    exact congrArg₂ (· ++ _ :: ·) (touch_eq_self first) (touch_eq_self last)
  refine ⟨{ entry with lastUsed := now, hits := entry.hits + 1 } :: (before ++ after), ?_, ?_, ?_⟩
  · refine (perm.map _).trans ?_
    rw [← Cache.touch, touched]
    exact List.perm_middle
  · refine List.pairwise_cons.mpr ⟨fun other hother => ?_, ?_⟩
    · refine late other (perm.mem_iff.mpr ?_)
      exact List.mem_append.mpr ((List.mem_append.mp hother).imp_right (List.mem_cons_of_mem _))
    · exact sorted.sublist (List.Sublist.append_left (List.sublist_cons_self ..) _)
  · rw [filter_keys others, List.map_cons]

/-- The entry that leaves is the last one. -/
theorem evict (h : InOrder entries keys) (nodup : keys.Nodup) :
    InOrder (Cache.evict entries) keys.dropLast := by
  obtain ⟨order, perm, sorted, rfl⟩ := h
  rcases List.eq_nil_or_concat' order with rfl | ⟨front, last, rfl⟩
  · rw [perm.eq_nil]
    exact nil
  · have some : entries ≠ [] := by
      rintro rfl
      exact List.append_ne_nil_of_right_ne_nil _ (List.cons_ne_nil _ _) perm.nil_eq.symm
    have found : entries.minOn CacheEntry.lastUsed some = last := by
      have least : (entries.minOn CacheEntry.lastUsed some).lastUsed ≤ last.lastUsed :=
        List.apply_minOn_le_of_mem (perm.mem_iff.mpr (List.mem_concat_self))
      have inside := perm.mem_iff.mp (List.minOn_mem (f := CacheEntry.lastUsed) (h := some))
      rcases List.mem_append.mp inside with early | late
      · have := (List.pairwise_append.mp sorted).2.2 _ early last (List.mem_singleton.mpr rfl)
        omega
      · exact List.mem_singleton.mp late
    have others : ∀ entry ∈ front, entry.key ≠ last.key := by
      rw [List.map_append, List.nodup_append] at nodup
      intro entry hentry
      exact nodup.2.2 _ (List.mem_map_of_mem hentry) _ (List.mem_singleton.mpr rfl)
    have left : Cache.without last.key (front ++ [last]) = front := by
      rw [Cache.without, List.filter_append, List.filter_eq_self.mpr fun entry hentry =>
        decide_eq_true (others entry hentry), List.filter_cons_of_neg (by simp), List.filter_nil,
        List.append_nil]
    refine ⟨front, ?_, (List.pairwise_append.mp sorted).1, ?_⟩
    · rw [Cache.evict, List.minOn?_eq_some_minOn some, found]
      have := perm.filter fun entry => entry.key ≠ last.key
      rwa [← Cache.without, ← Cache.without, left] at this
    · rw [List.map_append, List.map_singleton, List.dropLast_concat]

end InOrder

/-! ## One call -/

namespace Cache

variable {α : Type} {c : Cache α} {calls : List CacheCall} {make : String → α} {key : String}

/-- Whether a cache is as the calls so far leave it. -/
structure Mirrors (c : Cache α) (calls : List CacheCall) : Prop where
  inOrder : InOrder c.entries (held c.capacity calls)
  /-- No entry is later than the clock. -/
  past : ∀ entry ∈ c.entries, ∃ reading < c.readings, entry.lastUsed = c.clock reading
  /-- The requests of an entry are counted from the one on at which it came in. -/
  counted : ∀ entry ∈ c.entries, ∃ before later,
    calls = before ++ .request entry.key :: later ∧ CameIn c.capacity before entry.key later ∧
      entry.hits = later.count (.request entry.key) + 1

theorem mem_of_find? {entry : CacheEntry α} (h : c.find? key = some entry) :
    entry ∈ c.entries ∧ entry.key = key := by
  have same := List.find?_some h
  exact ⟨List.mem_of_find?_eq_some h, eq_of_beq same⟩

theorem mem_of_mem_evict {entries : List (CacheEntry α)} {entry : CacheEntry α}
    (h : entry ∈ evict entries) : entry ∈ entries := by
  rw [evict] at h
  split at h
  · exact (List.mem_filter.mp h).1
  · exact h

namespace Mirrors

theorem mem_held (h : c.Mirrors calls) {entry : CacheEntry α} (mem : entry ∈ c.entries) :
    entry.key ∈ held c.capacity calls :=
  h.inOrder.mem_keys_iff.mpr ⟨entry, mem, rfl⟩

/-- The cache finds the texts to be held. -/
theorem contains_iff (h : c.Mirrors calls) {key : String} :
    c.contains key = true ↔ key ∈ held c.capacity calls := by
  rw [contains, find?, List.find?_isSome, h.inOrder.mem_keys_iff]
  exact exists_congr fun entry => and_congr_right fun _ => beq_iff_eq

theorem size_eq (h : c.Mirrors calls) : c.size = min c.capacity (recent calls).length := by
  rw [size, h.inOrder.length_eq, held, List.length_take]

/-- An entry counts the requests of its text from the one on with which it came in. -/
theorem hits?_eq_some_iff (h : c.Mirrors calls) {hits : Nat} :
    c.hits? key = some hits ↔ ∃ before later, calls = before ++ .request key :: later ∧
      CameIn c.capacity before key later ∧ hits = later.count (.request key) + 1 := by
  constructor
  · intro found
    obtain ⟨entry, hentry, rfl⟩ := Option.map_eq_some_iff.mp found
    obtain ⟨mem, rfl⟩ := mem_of_find? hentry
    exact h.counted entry mem
  · rintro ⟨before, later, split, came, rfl⟩
    have now : key ∈ held c.capacity calls := split ▸ came.kept later (List.prefix_refl later)
    obtain ⟨entry, hentry⟩ := Option.isSome_iff_exists.mp (h.contains_iff.mpr now)
    obtain ⟨mem, rfl⟩ := mem_of_find? hentry
    obtain ⟨before', later', split', came', hits⟩ := h.counted entry mem
    rw [hits?, hentry, Option.map_some, hits, came.unique came' (split.symm.trans split')]

/-- Where the clock goes up, the next reading is later than all entries. -/
theorem lt_now (h : c.Mirrors calls) (rises : ∀ i j, i < j → c.clock i < c.clock j)
    {entry : CacheEntry α} (mem : entry ∈ c.entries) : entry.lastUsed < c.now := by
  obtain ⟨reading, before, time⟩ := h.past entry mem
  rw [time]
  exact rises reading c.readings before

theorem withClock (capacity : Nat) (clock : Nat → Nat) :
    (withClock capacity clock : Cache α).Mirrors [] := by
  refine ⟨?_, nofun, nofun⟩
  rw [held, recent, requested, List.foldl_nil, distinct, List.take_nil]
  exact InOrder.nil

theorem clear (c : Cache α) (calls : List CacheCall) :
    c.clear.Mirrors (calls ++ [.clear]) := by
  refine ⟨?_, nofun, nofun⟩
  rw [held_clear]
  exact InOrder.nil

/-- A reading of the clock is before the next one. -/
theorem past_tick (h : c.Mirrors calls) {entry : CacheEntry α} (mem : entry ∈ c.entries) :
    ∃ reading < c.readings + 1, entry.lastUsed = c.clock reading := by
  obtain ⟨reading, before, time⟩ := h.past entry mem
  exact ⟨reading, Nat.lt_succ_of_lt before, time⟩

/-- What was counted stays counted when another text is requested, if it is still held. -/
theorem counted_of_ne (h : c.Mirrors calls) {entry : CacheEntry α} (mem : entry ∈ c.entries)
    (other : entry.key ≠ key)
    (still : entry.key ∈ held c.capacity (calls ++ [.request key])) :
    ∃ before later, calls ++ [.request key] = before ++ .request entry.key :: later ∧
      CameIn c.capacity before entry.key later ∧
      entry.hits = later.count (.request entry.key) + 1 := by
  obtain ⟨before, later, split, came, hits⟩ := h.counted entry mem
  refine ⟨before, later ++ [.request key], ?_, came.concat (split ▸ still), ?_⟩
  · rw [split, List.append_assoc, List.cons_append]
  · have differs : CacheCall.request key ≠ .request entry.key := fun same =>
      other (CacheCall.request.inj same).symm
    rw [List.count_append, List.count_singleton, if_neg (by simpa using differs), hits]

/-- A request for a text that is held. -/
theorem tick_touch (h : c.Mirrors calls) (rises : ∀ i j, i < j → c.clock i < c.clock j)
    (mem : key ∈ held c.capacity calls) :
    (c.tick (touch c.now key c.entries)).Mirrors (calls ++ [.request key]) := by
  have ordered : InOrder (touch c.now key c.entries)
      (held c.capacity (calls ++ [.request key])) := by
    rw [held_request_of_mem mem]
    exact h.inOrder.touch (nodup_held ..) mem fun _ => h.lt_now rises
  refine ⟨ordered, fun entry hentry => ?_, fun entry hentry => ?_⟩
  · obtain ⟨old, hold, rfl⟩ := List.mem_map.mp hentry
    split
    · exact ⟨c.readings, Nat.lt_succ_self _, rfl⟩
    · exact h.past_tick hold
  · have still := ordered.mem_keys_iff.mpr ⟨entry, hentry, rfl⟩
    obtain ⟨old, hold, rfl⟩ := List.mem_map.mp hentry
    by_cases same : old.key = key
    · rw [if_pos same] at still ⊢
      subst same
      obtain ⟨before, later, split, came, hits⟩ := h.counted old hold
      refine ⟨before, later ++ [.request old.key], ?_, came.concat (split ▸ still), ?_⟩
      · rw [split, List.append_assoc, List.cons_append]
      · rw [List.count_append, List.count_singleton_self, hits]
    · rw [if_neg same] at still ⊢
      exact h.counted_of_ne hold same still

/-- There is room for one more entry besides those that stay. -/
theorem makeRoom (h : c.Mirrors calls) :
    InOrder c.makeRoom ((held c.capacity calls).take (c.capacity - 1)) ∧
      ∀ entry ∈ c.makeRoom, entry ∈ c.entries := by
  have length := h.inOrder.length_eq
  have most : (held c.capacity calls).length ≤ c.capacity := by
    rw [held, List.length_take]
    exact Nat.min_le_left ..
  rw [Cache.makeRoom]
  split
  next full =>
    have all : (held c.capacity calls).length = c.capacity := by
      rw [size] at full
      omega
    have cut : (held c.capacity calls).take (c.capacity - 1)
        = (held c.capacity calls).dropLast := by
      rw [List.dropLast_eq_take, all]
    rw [cut]
    exact ⟨h.inOrder.evict (nodup_held ..), fun entry => mem_of_mem_evict⟩
  next free =>
    have less : (held c.capacity calls).length ≤ c.capacity - 1 := by
      rw [size] at free
      omega
    rw [List.take_of_length_le less]
    exact ⟨h.inOrder, fun _ mem => mem⟩

/-- A request for a text that is not held. -/
theorem tick_cons (h : c.Mirrors calls) (rises : ∀ i j, i < j → c.clock i < c.clock j)
    (room : 0 < c.capacity) (new : key ∉ held c.capacity calls) (value : α) :
    (c.tick (⟨key, value, c.now, 1⟩ :: c.makeRoom)).Mirrors (calls ++ [.request key]) := by
  obtain ⟨kept, inside⟩ := h.makeRoom
  have ordered : InOrder (⟨key, value, c.now, 1⟩ :: c.makeRoom)
      (held c.capacity (calls ++ [.request key])) := by
    rw [held_request_of_not_mem room new]
    exact kept.cons fun other hother => h.lt_now rises (inside other hother)
  refine ⟨ordered, fun entry hentry => ?_, fun entry hentry => ?_⟩
  · rcases List.mem_cons.mp hentry with rfl | old
    · exact ⟨c.readings, Nat.lt_succ_self _, rfl⟩
    · exact h.past_tick (inside entry old)
  · have still := ordered.mem_keys_iff.mpr ⟨entry, hentry, rfl⟩
    rcases List.mem_cons.mp hentry with rfl | old
    · exact ⟨calls, [], rfl, .last room new, rfl⟩
    · have differs : entry.key ≠ key := fun same => new (same ▸ h.mem_held (inside entry old))
      exact h.counted_of_ne (inside entry old) differs still

/-- One request keeps what a cache is to hold. -/
theorem request (h : c.Mirrors calls) (rises : ∀ i j, i < j → c.clock i < c.clock j)
    (make : String → α) (key : String) :
    (c.request make key).2.Mirrors (calls ++ [.request key]) := by
  rw [Cache.request]
  split
  next none =>
    have empty : c.entries = [] := by
      have length := h.inOrder.length_eq
      rw [held, none, List.take_zero] at length
      exact List.eq_nil_of_length_eq_zero length
    refine ⟨?_, ?_, ?_⟩
    · rw [empty, none]
      exact InOrder.nil
    all_goals
      rw [empty]
      exact List.forall_mem_nil _
  next some =>
    have room : 0 < c.capacity := Nat.pos_of_ne_zero some
    split
    next entry found =>
      refine h.tick_touch rises (h.contains_iff.mp ?_)
      rw [contains, found]
      rfl
    next missing =>
      refine h.tick_cons rises room (fun mem => ?_) (make key)
      have found := h.contains_iff.mpr mem
      rw [contains, missing] at found
      cases found

end Mirrors

/-! ## Any calls -/

/-- The answers to calls, one for each request, and the cache afterwards. -/
def run (make : String → α) (c : Cache α) : List CacheCall → List α × Cache α
  | [] => ([], c)
  | .request key :: rest =>
      let (answer, c) := c.request make key
      let (answers, c) := run make c rest
      (answer :: answers, c)
  | .clear :: rest => run make c.clear rest

theorem capacity_request (c : Cache α) (make : String → α) (key : String) :
    (c.request make key).2.capacity = c.capacity ∧ (c.request make key).2.clock = c.clock := by
  rw [request]
  repeat' split
  all_goals exact ⟨rfl, rfl⟩

/-- Calls keep what a cache is to hold. -/
theorem mirrors_run (make : String → α) {past : List CacheCall} (h : c.Mirrors past)
    (rises : ∀ i j, i < j → c.clock i < c.clock j) (calls : List CacheCall) :
    (c.run make calls).2.Mirrors (past ++ calls) ∧ (c.run make calls).2.capacity = c.capacity := by
  induction calls generalizing c past with
  | nil =>
      rw [List.append_nil]
      exact ⟨h, rfl⟩
  | cons call rest ih =>
      rw [List.append_cons]
      cases call with
      | request key =>
          obtain ⟨capacity, clock⟩ := c.capacity_request make key
          obtain ⟨mirrors, same⟩ := ih (h.request rises make key) (clock ▸ rises)
          exact ⟨mirrors, same.trans capacity⟩
      | clear => exact ih (.clear c past) rises

/-- Entries that hold what their texts are turned into are kept so. -/
theorem made_request (made : ∀ entry ∈ c.entries, entry.value = make entry.key) (key : String) :
    (c.request make key).1 = make key ∧
      ∀ entry ∈ (c.request make key).2.entries, entry.value = make entry.key := by
  rw [request]
  split
  next => exact ⟨rfl, made⟩
  next =>
    split
    next entry found =>
      obtain ⟨mem, rfl⟩ := mem_of_find? found
      refine ⟨made entry mem, fun other touched => ?_⟩
      obtain ⟨old, hold, rfl⟩ := List.mem_map.mp touched
      split
      · exact made old hold
      · exact made old hold
    next =>
      refine ⟨rfl, List.forall_mem_cons.mpr ⟨rfl, fun entry mem => made entry ?_⟩⟩
      rw [makeRoom] at mem
      split at mem
      · exact mem_of_mem_evict mem
      · exact mem

/-- A cache of entries that hold what their texts are turned into answers with that. -/
theorem answers_run (made : ∀ entry ∈ c.entries, entry.value = make entry.key)
    (calls : List CacheCall) :
    (c.run make calls).1 = (calls.filterMap CacheCall.key?).map make := by
  induction calls generalizing c with
  | nil => rfl
  | cons call rest ih =>
      cases call with
      | request key =>
          obtain ⟨answer, after⟩ := made_request made key
          exact congrArg₂ List.cons answer (ih after)
      | clear =>
          have none : c.clear.entries = [] := rfl
          exact ih (by rw [none]; exact nofun)

/-- After any calls of a cache, each request was answered with what its text is turned into.
If the clock goes up from one reading to the next, the cache holds the texts requested last
since it was cleared, as many as its capacity allows, and an entry counts the requests of
its text from the one on with which it came in. -/
theorem held_of_run (make : String → α) (capacity : Nat) (clock : Nat → Nat)
    (calls : List CacheCall) :
    let after := (withClock capacity clock).run make calls
    after.1 = (calls.filterMap CacheCall.key?).map make ∧
      ((∀ i j, i < j → clock i < clock j) →
        (∀ key, after.2.contains key = true ↔ key ∈ held capacity calls) ∧
          after.2.size = min capacity (recent calls).length ∧
          ∀ key hits, after.2.hits? key = some hits ↔
            ∃ before later, calls = before ++ .request key :: later ∧
              CameIn capacity before key later ∧ hits = later.count (.request key) + 1) := by
  have none : (withClock capacity clock : Cache α).entries = [] := rfl
  refine ⟨answers_run (by rw [none]; exact nofun) calls, fun rises => ?_⟩
  obtain ⟨mirrors, same⟩ := mirrors_run make (.withClock capacity clock) rises calls
  rw [List.nil_append] at mirrors
  have capacity_eq : ((withClock capacity clock).run make calls).2.capacity = capacity := same
  refine ⟨fun key => ?_, ?_, fun key hits => ?_⟩
  · rw [mirrors.contains_iff, capacity_eq]
  · rw [mirrors.size_eq, capacity_eq]
  · rw [mirrors.hits?_eq_some_iff, capacity_eq]

/-- A cache with room for two, in which a text that is requested again outlives another that
was requested after its first time. -/
theorem held_of_run_third :
    let calls : List CacheCall :=
      [.request ":a", .clear, .request ":a", .request ":b", .request ":a", .request ":c"]
    let after := (withClock 2 fun reading => 10 * reading).run Template.parse calls
    after.1.map Template.names = [["a"], ["a"], ["b"], ["a"], ["c"]] ∧
      after.2.contains ":a" = true ∧ ¬ after.2.contains ":b" = true ∧
      after.2.contains ":c" = true ∧ after.2.size = 2 ∧
      ∃ before later, calls = before ++ .request ":a" :: later ∧ CameIn 2 before ":a" later ∧
        2 = later.count (.request ":a") + 1 := by
  intro calls after
  obtain ⟨answers, spec⟩ := held_of_run Template.parse 2 (fun reading => 10 * reading) calls
  obtain ⟨contains, size, hits⟩ := spec fun i j less => by omega
  refine ⟨?_, (contains _).mpr (by decide), fun found => ?_, (contains _).mpr (by decide), size,
    (hits ":a" 2).mp rfl⟩
  · rw [answers]
    decide
  · exact absurd ((contains _).mp found) (by decide)

end Cache

end DataMapper
