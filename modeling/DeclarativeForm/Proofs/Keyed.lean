import DeclarativeForm.Path.Reindex
import Mathlib.Data.List.Induction

/-!
Tables in the order of insertion. A table is distinct when no key occurs twice; putting and moving
keys keep tables distinct, and in a distinct table every entry is found under its key. In the table
of a list of pairs the last value of each key is found. Two tables are related by a relation on
values when they have the same keys in the same places and related values under them.
-/

set_option autoImplicit false

namespace DeclarativeForm.Keyed

variable {α β : Type}

theorem find?_put (key other : String) (value : α) (table : Keyed α) :
    find? other (put key value table) = if other = key then some value else find? other table := by
  by_cases same : other = key
  · subst other
    rw [find?_put_self, if_pos rfl]
  · rw [find?_put_other same, if_neg same]

theorem put_eq_self {key : String} {value : α} {table : Keyed α}
    (found : find? key table = some value) : put key value table = table := by
  induction table with
  | nil => cases found
  | cons entry rest ih =>
      obtain ⟨first, old⟩ := entry
      by_cases same : first = key
      · rw [find?, if_pos same] at found
        rw [put, if_pos same, Option.some.inj found]
      · rw [find?, if_neg same] at found
        rw [put, if_neg same, ih found]

/-! ### Distinct keys -/

def Distinct (table : Keyed α) : Prop := (keys table).Nodup

theorem distinct_nil : Distinct ([] : Keyed α) := List.nodup_nil

theorem find?_of_mem {key : String} {value : α} {table : Keyed α} (distinct : Distinct table)
    (member : (key, value) ∈ table) : find? key table = some value := by
  induction table with
  | nil => cases member
  | cons entry rest ih =>
      obtain ⟨other, old⟩ := entry
      obtain ⟨fresh, restDistinct⟩ := List.nodup_cons.mp distinct
      rcases List.mem_cons.mp member with same | later
      · cases same
        simp only [find?, if_pos]
      · have different : other ≠ key := by
          intro same
          subst other
          exact fresh (List.mem_map.mpr ⟨_, later, rfl⟩)
        simp only [find?, if_neg different]
        exact ih restDistinct later

theorem mem_keys_put {key other : String} {value : α} {table : Keyed α} :
    other ∈ keys (put key value table) ↔ other = key ∨ other ∈ keys table := by
  induction table with
  | nil => simp [put, keys]
  | cons entry rest ih =>
      obtain ⟨first, old⟩ := entry
      by_cases same : first = key
      · subst first
        simp [put, keys]
      · simp only [keys] at ih
        simp only [put, if_neg same, keys, List.map_cons, List.mem_cons, ih]
        exact or_left_comm

theorem Distinct.put {table : Keyed α} (distinct : Distinct table) (key : String) (value : α) :
    Distinct (put key value table) := by
  induction table with
  | nil => simp [Keyed.put, Distinct, keys]
  | cons entry rest ih =>
      obtain ⟨first, old⟩ := entry
      obtain ⟨fresh, restDistinct⟩ := List.nodup_cons.mp distinct
      by_cases same : first = key
      · subst first
        simpa [Keyed.put, Distinct, keys] using distinct
      · simp only [Keyed.put, if_neg same]
        refine List.nodup_cons.mpr ⟨?_, ih restDistinct⟩
        intro repeated
        rcases mem_keys_put.mp repeated with equal | later
        · exact same equal
        · exact fresh later

private def moveEntry (repeatable : String) (removed : Nat) (moved : Keyed α)
    (entry : String × α) : Keyed α :=
  match reindexKey entry.1 repeatable removed with
  | some key => moved.put key entry.2
  | none => moved

private theorem reindex_eq_foldl (table : Keyed α) (repeatable : String) (removed : Nat) :
    table.reindex repeatable removed = table.foldl (moveEntry repeatable removed) [] := rfl

private theorem foldl_moveEntry_distinct (repeatable : String) (removed : Nat)
    (table moved : Keyed α) (distinct : Distinct moved) :
    Distinct (table.foldl (moveEntry repeatable removed) moved) := by
  induction table generalizing moved with
  | nil => exact distinct
  | cons entry rest ih =>
      apply ih
      unfold moveEntry
      split
      · exact distinct.put _ _
      · exact distinct

theorem distinct_reindex (table : Keyed α) (repeatable : String) (removed : Nat) :
    Distinct (table.reindex repeatable removed) :=
  foldl_moveEntry_distinct repeatable removed table [] distinct_nil

private theorem find?_foldl_moveEntry {repeatable key : String} {removed : Nat} {value : α}
    (table moved : Keyed α)
    (found : find? key (table.foldl (moveEntry repeatable removed) moved) = some value) :
    find? key moved = some value ∨
      ∃ old, (old, value) ∈ table ∧ reindexKey old repeatable removed = some key := by
  induction table generalizing moved with
  | nil => exact Or.inl found
  | cons entry rest ih =>
      rcases ih (moveEntry repeatable removed moved entry) found with earlier | ⟨old, member, moves⟩
      · cases moves : reindexKey entry.1 repeatable removed with
        | none =>
            simp only [moveEntry, moves] at earlier
            exact Or.inl earlier
        | some target =>
            simp only [moveEntry, moves, find?_put] at earlier
            by_cases same : key = target
            · subst target
              rw [if_pos rfl, Option.some.injEq] at earlier
              subst value
              exact Or.inr ⟨entry.1, List.mem_cons_self, moves⟩
            · rw [if_neg same] at earlier
              exact Or.inl earlier
      · exact Or.inr ⟨old, List.mem_cons_of_mem _ member, moves⟩

/-- What is found after a move was there before, under a key that moves to the one asked for. -/
theorem find?_reindex {table : Keyed α} (distinct : Distinct table) {repeatable key : String}
    {removed : Nat} {value : α}
    (found : find? key (table.reindex repeatable removed) = some value) :
    ∃ old, reindexKey old repeatable removed = some key ∧ find? old table = some value := by
  rw [reindex_eq_foldl] at found
  rcases find?_foldl_moveEntry table [] found with impossible | ⟨old, member, moves⟩
  · cases impossible
  · exact ⟨old, moves, find?_of_mem distinct member⟩

theorem put_of_not_mem {key : String} {value : α} {table : Keyed α}
    (fresh : key ∉ keys table) : put key value table = table ++ [(key, value)] := by
  induction table with
  | nil => rfl
  | cons entry rest ih =>
      obtain ⟨first, old⟩ := entry
      have different : first ≠ key := fun same => fresh (same ▸ List.mem_cons_self)
      have later := ih fun member => fresh (List.mem_cons_of_mem _ member)
      rw [put, if_neg different, later]
      rfl

def moved (repeatable : String) (removed : Nat) (table : Keyed α) : Keyed α :=
  table.filterMap fun entry =>
    (reindexKey entry.1 repeatable removed).map fun key => (key, entry.2)

theorem reindex_eq_ofList (table : Keyed α) (repeatable : String) (removed : Nat) :
    table.reindex repeatable removed = ofList (moved repeatable removed table) := by
  rw [reindex_eq_foldl, ofList, putAll, moved, List.foldl_filterMap]
  congr 1
  funext moved entry
  unfold moveEntry
  cases reindexKey entry.1 repeatable removed <;> rfl

theorem exists_of_mem_keys_moved {repeatable key : String} {removed : Nat} {table : Keyed α}
    (member : key ∈ keys (moved repeatable removed table)) :
    ∃ old ∈ keys table, reindexKey old repeatable removed = some key := by
  obtain ⟨entry, isMoved, rfl⟩ := List.mem_map.mp member
  obtain ⟨old, isOld, moves⟩ := List.mem_filterMap.mp isMoved
  obtain ⟨key, lands, rfl⟩ := Option.map_eq_some_iff.mp moves
  exact ⟨old.1, List.mem_map_of_mem isOld, lands⟩

theorem mem_of_find? {key : String} {value : α} {table : Keyed α}
    (found : find? key table = some value) : (key, value) ∈ table := by
  induction table with
  | nil => cases found
  | cons entry rest ih =>
      obtain ⟨first, old⟩ := entry
      by_cases same : first = key
      · rw [find?, if_pos same, Option.some.injEq] at found
        rw [same, found]
        exact List.mem_cons_self
      · rw [find?, if_neg same] at found
        exact List.mem_cons_of_mem _ (ih found)

theorem mem_keys_of_find? {key : String} {value : α} {table : Keyed α}
    (found : find? key table = some value) : key ∈ keys table :=
  List.mem_map_of_mem (mem_of_find? found)

/-- Where no two keys move to one, every entry keeps its place. -/
theorem reindex_eq_moved {table : Keyed α} {repeatable : String} {removed : Nat}
    (distinct : Distinct table)
    (apart : ∀ one ∈ keys table, ∀ two ∈ keys table, ∀ key,
      reindexKey one repeatable removed = some key →
      reindexKey two repeatable removed = some key → one = two) :
    table.reindex repeatable removed = moved repeatable removed table := by
  induction table using List.reverseRecOn with
  | nil => rfl
  | append_singleton front entry ih =>
      have keysAre : keys (front ++ [entry]) = keys front ++ [entry.1] := List.map_append
      rw [Distinct, keysAre] at distinct
      rw [keysAre] at apart
      have earlier := ih (List.nodup_append.mp distinct).1 fun one isOne two isTwo =>
        apart one (List.mem_append_left _ isOne) two (List.mem_append_left _ isTwo)
      rw [reindex_eq_foldl] at earlier
      rw [reindex_eq_foldl, List.foldl_append, earlier, List.foldl_cons, List.foldl_nil,
        moveEntry]
      have split : moved repeatable removed (front ++ [entry]) =
          moved repeatable removed front ++ moved repeatable removed [entry] :=
        List.filterMap_append
      rw [split]
      cases lands : reindexKey entry.1 repeatable removed with
      | none =>
          have nothing : moved repeatable removed [entry] = [] := by
            simp only [moved, List.filterMap_cons, List.filterMap_nil, lands, Option.map_none]
          rw [nothing, List.append_nil]
      | some key =>
          have single : moved repeatable removed [entry] = [(key, entry.2)] := by
            simp only [moved, List.filterMap_cons, List.filterMap_nil, lands, Option.map_some]
          rw [single]
          -- No earlier entry has landed on the key of the last one, which so goes to the end.
          apply put_of_not_mem
          intro member
          obtain ⟨old, isOld, moves⟩ := exists_of_mem_keys_moved member
          have same := apart old (List.mem_append_left _ isOld) entry.1
            (List.mem_append_right _ (List.mem_singleton_self _)) key moves lands
          exact (List.nodup_append.mp distinct).2.2 old isOld entry.1
            (List.mem_singleton_self _) same

theorem find?_reindex_of_moves {table : Keyed α} {repeatable old key : String} {removed : Nat}
    {value : α} (distinct : Distinct table)
    (apart : ∀ one ∈ keys table, ∀ two ∈ keys table, ∀ key,
      reindexKey one repeatable removed = some key →
      reindexKey two repeatable removed = some key → one = two)
    (found : find? old table = some value) (moves : reindexKey old repeatable removed = some key) :
    find? key (table.reindex repeatable removed) = some value := by
  apply find?_of_mem (distinct_reindex table repeatable removed)
  rw [reindex_eq_moved distinct apart]
  refine List.mem_filterMap.mpr ⟨(old, value), mem_of_find? found, ?_⟩
  simp only [moves, Option.map_some]

/-! ### Looking up -/

theorem find?_eq_none_iff {key : String} {table : Keyed α} :
    find? key table = none ↔ key ∉ keys table := by
  induction table with
  | nil => simp [find?, keys]
  | cons entry rest ih =>
      obtain ⟨first, value⟩ := entry
      by_cases same : first = key
      · simp [find?, keys, same]
      · have different : key ≠ first := Ne.symm same
        simp only [keys] at ih
        simp only [find?, if_neg same, keys, List.map_cons, List.mem_cons, different, false_or, ih]

theorem find?_append (key : String) (front back : Keyed α) :
    find? key (front ++ back) = (find? key front).or (find? key back) := by
  induction front with
  | nil => rfl
  | cons entry rest ih =>
      obtain ⟨first, value⟩ := entry
      rw [List.cons_append, find?, find?]
      by_cases same : first = key
      · rw [if_pos same, if_pos same, Option.some_or]
      · rw [if_neg same, if_neg same, ih]

/-- Of the values put under a key the last one counts. -/
theorem find?_putAll (key : String) (entries : List (String × α)) (table : Keyed α) :
    find? key (putAll entries table) = (find? key entries.reverse).or (find? key table) := by
  induction entries generalizing table with
  | nil => rfl
  | cons entry rest ih =>
      have later := ih (put entry.1 entry.2 table)
      rw [putAll, List.foldl_cons, ← putAll, later, List.reverse_cons, find?_append, Option.or_assoc,
        find?_put]
      congr 1
      by_cases same : key = entry.1
      · simp [find?, same]
      · simp [find?, same, Ne.symm same]

theorem find?_ofList (key : String) (entries : List (String × α)) :
    find? key (ofList entries) = find? key entries.reverse := by
  rw [ofList, find?_putAll]
  exact Option.or_none

theorem mem_of_find?_ofList {key : String} {value : α} {entries : List (String × α)}
    (found : find? key (ofList entries) = some value) : (key, value) ∈ entries := by
  rw [find?_ofList] at found
  exact List.mem_reverse.mp (mem_of_find? found)

theorem distinct_ofList (entries : List (String × α)) : Distinct (ofList entries) := by
  have kept (table : Keyed α) (distinct : Distinct table) : Distinct (putAll entries table) := by
    unfold putAll
    induction entries generalizing table with
    | nil => exact distinct
    | cons entry rest ih => exact ih _ (distinct.put entry.1 entry.2)
  exact kept [] distinct_nil

theorem put_of_mem {key : String} {value : α} {table : Keyed α} (distinct : Distinct table)
    (isThere : key ∈ keys table) :
    put key value table = table.map fun entry =>
      (entry.1, if entry.1 = key then value else entry.2) := by
  induction table with
  | nil => cases isThere
  | cons entry rest ih =>
      obtain ⟨first, old⟩ := entry
      obtain ⟨fresh, restDistinct⟩ := List.nodup_cons.mp distinct
      by_cases same : first = key
      · subst first
        have others : rest.map (fun entry => (entry.1, if entry.1 = key then value else entry.2)) =
            rest := by
          refine (List.map_congr_left fun entry member => ?_).trans (List.map_id rest)
          have different : entry.1 ≠ key := fun same =>
            fresh (List.mem_map.mpr ⟨entry, member, same⟩)
          rw [if_neg different]
          rfl
        rw [put, if_pos rfl, List.map_cons, if_pos rfl, others]
      · have later : key ∈ keys rest := (List.mem_cons.mp isThere).resolve_left (Ne.symm same)
        rw [put, if_neg same, List.map_cons, if_neg same, ih restDistinct later]

theorem keys_map (change : String × α → α) (table : Keyed α) :
    keys (table.map fun entry => (entry.1, change entry)) = keys table := by
  rw [keys, List.map_map]
  rfl

/-- Of the pairs that are put those under keys of the table take the places of its values, and the
others follow in their order. -/
theorem putAll_eq {pairs : List (String × α)} {table : Keyed α} (distinct : Distinct table)
    (fresh : Distinct pairs) :
    putAll pairs table = (table.map fun entry => (entry.1, (find? entry.1 pairs).getD entry.2)) ++
      pairs.filter fun entry => entry.1 ∉ keys table := by
  induction pairs generalizing table with
  | nil => simp [putAll, find?]
  | cons pair rest ih =>
      obtain ⟨key, value⟩ := pair
      obtain ⟨single, restFresh⟩ := List.nodup_cons.mp fresh
      have absent : find? key rest = none := find?_eq_none_iff.mpr single
      rw [putAll, List.foldl_cons, ← putAll, ih (distinct.put key value) restFresh]
      by_cases isThere : key ∈ keys table
      · rw [put_of_mem distinct isThere, keys_map, List.map_map,
          List.filter_cons_of_neg (by simpa using isThere)]
        refine congrArg (· ++ _) (List.map_congr_left fun entry _ => ?_)
        by_cases same : entry.1 = key
        · simp [find?, same, absent]
        · simp [find?, same, Ne.symm same]
      · have others : (table.map fun entry => (entry.1, (find? entry.1 rest).getD entry.2)) =
            table.map fun entry => (entry.1, (find? entry.1 ((key, value) :: rest)).getD entry.2) := by
          refine List.map_congr_left fun entry member => ?_
          have different : key ≠ entry.1 := fun same =>
            isThere (List.mem_map.mpr ⟨entry, member, same.symm⟩)
          rw [find?, if_neg different]
        have behind : rest.filter (fun entry => decide (entry.1 ∉ keys (table ++ [(key, value)]))) =
            rest.filter fun entry => decide (entry.1 ∉ keys table) := by
          refine List.filter_congr fun entry member => ?_
          have different : entry.1 ≠ key := fun same =>
            single (List.mem_map.mpr ⟨entry, member, same⟩)
          have whole : keys (table ++ [(key, value)]) = keys table ++ [key] := List.map_append
          simp [whole, different]
        rw [put_of_not_mem isThere, List.map_append, behind, others, List.append_assoc,
          List.filter_cons_of_pos (by simpa using isThere), List.map_singleton, absent]
        rfl

theorem ofList_eq_self {entries : Keyed α} (distinct : Distinct entries) :
    ofList entries = entries := by
  rw [ofList, putAll_eq distinct_nil distinct]
  exact List.filter_eq_self.mpr fun entry _ => decide_eq_true List.not_mem_nil

private theorem find?_flatMap_cases {γ : Type} {key : String} {items : List γ}
    {entries : γ → List (String × α)} {value : Option α}
    (each : ∀ item ∈ items, find? key (entries item).reverse = none ∨
      find? key (entries item).reverse = value) :
    find? key (items.flatMap entries).reverse = none ∨
      find? key (items.flatMap entries).reverse = value := by
  induction items with
  | nil => exact Or.inl rfl
  | cons first rest ih =>
      have later := ih fun item member => each item (List.mem_cons_of_mem _ member)
      rw [List.flatMap_cons, List.reverse_append, find?_append]
      rcases later with nothing | same
      · rw [nothing, Option.none_or]
        exact each first List.mem_cons_self
      · rw [same]
        rcases each first List.mem_cons_self with nothing | equal
        · rw [nothing, Option.or_none]
          exact Or.inr rfl
        · rw [equal, Option.or_self]
          exact Or.inr rfl

/-- Where the lists that hold a key are one list, that list decides what is found under it. -/
theorem find?_ofList_flatMap {γ : Type} {key : String} {items : List γ}
    {entries : γ → List (String × α)} {item : γ} (member : item ∈ items)
    (others : ∀ other ∈ items, key ∈ keys (entries other) → entries other = entries item) :
    find? key (ofList (items.flatMap entries)) = find? key (ofList (entries item)) := by
  simp only [find?_ofList]
  have each : ∀ other ∈ items, find? key (entries other).reverse = none ∨
      find? key (entries other).reverse = find? key (entries item).reverse := by
    intro other isOther
    by_cases holds : key ∈ keys (entries other)
    · rw [others other isOther holds]
      exact Or.inr rfl
    · refine Or.inl (find?_eq_none_iff.mpr fun reversed => holds ?_)
      rw [keys, List.map_reverse] at reversed
      exact List.mem_reverse.mp reversed
  rcases find?_flatMap_cases each with nothing | same
  · have absent := find?_eq_none_iff.mp nothing
    rw [nothing]
    refine (find?_eq_none_iff.mpr fun isThere => absent ?_).symm
    obtain ⟨entry, isEntry, rfl⟩ := List.mem_map.mp isThere
    refine List.mem_map_of_mem (List.mem_reverse.mpr (List.mem_flatMap.mpr ⟨item, member, ?_⟩))
    exact List.mem_reverse.mp isEntry
  · exact same

theorem find?_filter (keep : String → Bool) (key : String) (table : Keyed α) :
    find? key (table.filter fun entry => keep entry.1) =
      if keep key then find? key table else none := by
  induction table with
  | nil => simp [find?]
  | cons entry rest ih =>
      obtain ⟨first, value⟩ := entry
      by_cases same : first = key
      · subst first
        by_cases kept : keep key = true
        · simp [find?, kept]
        · simp [kept, ih]
      · by_cases kept : keep first = true
        · simp [find?, kept, same, ih]
        · simp [find?, kept, same, ih]

theorem find?_erase_self {key : String} {table : Keyed α} (distinct : Distinct table) :
    find? key (erase key table) = none := by
  induction table with
  | nil => rfl
  | cons entry rest ih =>
      obtain ⟨first, value⟩ := entry
      obtain ⟨fresh, restDistinct⟩ := List.nodup_cons.mp distinct
      by_cases same : first = key
      · subst first
        rw [erase, if_pos rfl]
        exact find?_eq_none_iff.mpr fresh
      · rw [erase, if_neg same, find?, if_neg same]
        exact ih restDistinct

theorem find?_erase_other {key other : String} (different : other ≠ key) (table : Keyed α) :
    find? other (erase key table) = find? other table := by
  induction table with
  | nil => rfl
  | cons entry rest ih =>
      obtain ⟨first, value⟩ := entry
      by_cases same : first = key
      · subst first
        rw [erase, if_pos rfl, find?, if_neg (Ne.symm different)]
      · rw [erase, if_neg same, find?, find?, ih]

theorem filter_put {keep : String → Bool} {key : String} (dropped : keep key = false)
    (value : α) (table : Keyed α) :
    (put key value table).filter (fun entry => keep entry.1) =
      table.filter fun entry => keep entry.1 := by
  induction table with
  | nil => simp [put, dropped]
  | cons entry rest ih =>
      obtain ⟨first, old⟩ := entry
      by_cases same : first = key
      · subst first
        simp [put, dropped]
      · simp [put, same, List.filter_cons, ih]

theorem filter_erase {keep : String → Bool} {key : String} (dropped : keep key = false)
    (table : Keyed α) :
    (erase key table).filter (fun entry => keep entry.1) =
      table.filter fun entry => keep entry.1 := by
  induction table with
  | nil => rfl
  | cons entry rest ih =>
      obtain ⟨first, old⟩ := entry
      by_cases same : first = key
      · subst first
        simp [erase, dropped]
      · simp [erase, same, List.filter_cons, ih]

/-! ### Allowed keys -/

structure Within (allowed : String → Prop) (table : Keyed α) : Prop where
  distinct : Distinct table
  keys : ∀ key ∈ keys table, allowed key

theorem erase_sublist (key : String) (table : Keyed α) : (erase key table).Sublist table := by
  induction table with
  | nil => exact List.Sublist.refl _
  | cons entry rest ih =>
      obtain ⟨first, old⟩ := entry
      rw [erase]
      split
      · exact List.sublist_cons_self _ _
      · exact ih.cons_cons _

theorem mem_erase_of_ne {key : String} {entry : String × α} {table : Keyed α}
    (different : entry.1 ≠ key) (member : entry ∈ table) : entry ∈ erase key table := by
  induction table with
  | nil => cases member
  | cons first rest ih =>
      obtain ⟨other, old⟩ := first
      rw [erase]
      rcases List.mem_cons.mp member with rfl | later
      · rw [if_neg different]
        exact List.mem_cons_self
      · split
        · exact later
        · exact List.mem_cons_of_mem _ (ih later)

namespace Within

variable {allowed : String → Prop} {table other : Keyed α}

theorem nil (allowed : String → Prop) : Within allowed ([] : Keyed α) :=
  ⟨distinct_nil, fun _ member => nomatch member⟩

theorem put (within : Within allowed table) {key : String} (isAllowed : allowed key)
    (value : α) : Within allowed (Keyed.put key value table) := by
  refine ⟨within.distinct.put key value, fun other member => ?_⟩
  rcases mem_keys_put.mp member with rfl | old
  · exact isAllowed
  · exact within.keys other old

theorem sublist (within : Within allowed table) (fewer : other.Sublist table) :
    Within allowed other :=
  ⟨(fewer.map Prod.fst).nodup within.distinct,
    fun key member => within.keys key ((fewer.map Prod.fst).subset member)⟩

theorem erase (within : Within allowed table) (key : String) :
    Within allowed (Keyed.erase key table) :=
  within.sublist (erase_sublist key table)

theorem putAll (within : Within allowed table) (entries : List (String × α))
    (areAllowed : ∀ entry ∈ entries, allowed entry.1) :
    Within allowed (Keyed.putAll entries table) := by
  induction entries generalizing table with
  | nil => exact within
  | cons entry rest ih =>
      have here := within.put (areAllowed entry List.mem_cons_self) entry.2
      exact ih here fun other member => areAllowed other (List.mem_cons_of_mem _ member)

theorem ofList {entries : List (String × α)} (areAllowed : ∀ entry ∈ entries, allowed entry.1) :
    Within allowed (Keyed.ofList entries) :=
  (nil allowed).putAll entries areAllowed

theorem of_keys {β : Type} {table : Keyed α} {other : Keyed β} (within : Within allowed table)
    (same : Keyed.keys other = Keyed.keys table) : Within allowed other :=
  ⟨by rw [Distinct, same]; exact within.distinct, fun key member => within.keys key (same ▸ member)⟩

theorem replace (within : Within allowed table) {key : String} {old : α}
    (found : Keyed.find? key table = some old) (value : α) :
    Within allowed (Keyed.put key value table) :=
  within.put (within.keys key (mem_keys_of_find? found)) value

theorem imp {wanted : String → Prop} (within : Within allowed table)
    (implies : ∀ key, allowed key → wanted key) : Within wanted table :=
  ⟨within.distinct, fun key member => implies key (within.keys key member)⟩

theorem reindex {wanted : String → Prop} (within : Within allowed table) {repeatable : String}
    {removed : Nat} (kept : ∀ key moved, allowed key →
      reindexKey key repeatable removed = some moved → wanted moved) :
    Within wanted (table.reindex repeatable removed) := by
  refine ⟨distinct_reindex _ _ _, ?_⟩
  intro key member
  obtain ⟨⟨key, value⟩, isEntry, rfl⟩ := List.mem_map.mp member
  have found := find?_of_mem (distinct_reindex table repeatable removed) isEntry
  obtain ⟨old, moves, there⟩ := find?_reindex within.distinct found
  exact kept old key (within.keys old (mem_keys_of_find? there)) moves

end Within

/-! ### Related tables -/

/-- The same keys in the same places, with related values. -/
inductive Related (alike : α → β → Prop) : Keyed α → Keyed β → Prop
  | nil : Related alike [] []
  | cons {key : String} {x : α} {y : β} {left : Keyed α} {right : Keyed β} :
      alike x y → Related alike left right → Related alike ((key, x) :: left) ((key, y) :: right)

namespace Related

variable {alike : α → β → Prop} {left : Keyed α} {right : Keyed β}

theorem find? (related : Related alike left right) (key : String) :
    Option.Rel alike (Keyed.find? key left) (Keyed.find? key right) := by
  induction related with
  | nil => exact .none
  | @cons first x y left right same _ ih =>
      simp only [Keyed.find?]
      by_cases here : first = key
      · rw [if_pos here, if_pos here]
        exact .some same
      · rw [if_neg here, if_neg here]
        exact ih

theorem put (related : Related alike left right) (key : String) {x : α} {y : β}
    (same : alike x y) : Related alike (Keyed.put key x left) (Keyed.put key y right) := by
  induction related with
  | nil => exact .cons same .nil
  | @cons first _ _ left right old rest ih =>
      simp only [Keyed.put]
      by_cases here : first = key
      · rw [if_pos here, if_pos here]
        exact .cons same rest
      · rw [if_neg here, if_neg here]
        exact .cons old ih

private theorem foldl_moveEntry (related : Related alike left right) (repeatable : String)
    (removed : Nat) {movedLeft : Keyed α} {movedRight : Keyed β}
    (moved : Related alike movedLeft movedRight) :
    Related alike (left.foldl (moveEntry repeatable removed) movedLeft)
      (right.foldl (moveEntry repeatable removed) movedRight) := by
  induction related generalizing movedLeft movedRight with
  | nil => exact moved
  | @cons key _ _ left right same _ ih =>
      apply ih
      simp only [moveEntry]
      cases reindexKey key repeatable removed with
      | none => exact moved
      | some target => exact moved.put target same

theorem reindex (related : Related alike left right) (repeatable : String) (removed : Nat) :
    Related alike (left.reindex repeatable removed) (right.reindex repeatable removed) := by
  rw [reindex_eq_foldl, reindex_eq_foldl]
  exact foldl_moveEntry related repeatable removed .nil

theorem flip (related : Related alike left right) :
    Related (fun y x => alike x y) right left := by
  induction related with
  | nil => exact .nil
  | cons same _ ih => exact .cons same ih

/-- A value on the left may give way to one that is related to the same values. -/
theorem put_left (related : Related alike left right) {key : String} {old new : α}
    (found : Keyed.find? key left = some old) (same : ∀ value, alike old value → alike new value) :
    Related alike (Keyed.put key new left) right := by
  induction related with
  | nil => cases found
  | @cons first x y left right one rest ih =>
      by_cases here : first = key
      · simp only [Keyed.find?, if_pos here, Option.some.injEq] at found
        subst x
        simp only [Keyed.put, if_pos here]
        exact .cons (same y one) rest
      · simp only [Keyed.find?, if_neg here] at found
        simp only [Keyed.put, if_neg here]
        exact .cons one (ih found)

theorem put_right (related : Related alike left right) {key : String} {old new : β}
    (found : Keyed.find? key right = some old) (same : ∀ value, alike value old → alike value new) :
    Related alike left (Keyed.put key new right) :=
  (related.flip.put_left found same).flip

theorem trans {γ : Type} {next : β → γ → Prop} {composed : α → γ → Prop} {last : Keyed γ}
    (related : Related alike left right) (other : Related next right last)
    (compose : ∀ x y z, alike x y → next y z → composed x z) : Related composed left last := by
  induction related generalizing last with
  | nil =>
      cases other
      exact .nil
  | cons one _ ih =>
      cases other with
      | cons two rest => exact .cons (compose _ _ _ one two) (ih rest)

theorem map_eq {γ : Type} (related : Related alike left right) {f : α → γ} {g : β → γ}
    (same : ∀ x y, alike x y → f x = g y) :
    left.map (fun entry => (entry.1, f entry.2)) =
      right.map (fun entry => (entry.1, g entry.2)) := by
  induction related with
  | nil => rfl
  | cons one _ ih => rw [List.map_cons, List.map_cons, ih, same _ _ one]

end Related

theorem Related.refl {alike : α → α → Prop} (reflexive : ∀ value, alike value value) :
    ∀ table : Keyed α, Related alike table table
  | [] => .nil
  | (_, value) :: rest => .cons (reflexive value) (Related.refl reflexive rest)

end DeclarativeForm.Keyed
