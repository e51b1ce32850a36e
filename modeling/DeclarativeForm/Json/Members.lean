/-!
The members of a JSON object: pairs of a key and a value, kept in the order of their keys. Looking
up finds the first pair with a key; inserting replaces that pair, or places a new one before the
first larger key. The laws of looking up hold for every list, ordered or not.
-/

set_option autoImplicit false

namespace DeclarativeForm.Members

variable {α : Type}

def find? (key : String) : List (String × α) → Option α
  | [] => none
  | (k, value) :: rest => if k = key then some value else find? key rest

/-- Puts a value under a key that is there. -/
def replace (key : String) (value : α) : List (String × α) → List (String × α)
  | [] => []
  | (k, old) :: rest =>
    if k = key then (key, value) :: rest else (k, old) :: replace key value rest

/-- Places a new pair before the first larger key. -/
def place (key : String) (value : α) : List (String × α) → List (String × α)
  | [] => [(key, value)]
  | (k, old) :: rest =>
    if key < k then (key, value) :: (k, old) :: rest else (k, old) :: place key value rest

/-- The members with a value under a key, whatever was there. -/
def insert (key : String) (value : α) (members : List (String × α)) : List (String × α) :=
  if (find? key members).isSome then replace key value members else place key value members

def erase (key : String) (members : List (String × α)) : List (String × α) :=
  members.filter fun member => member.1 ≠ key

@[simp] theorem find?_nil (key : String) : find? key ([] : List (String × α)) = none := rfl

theorem find?_replace_self (key : String) (value : α) (members : List (String × α))
    (found : (find? key members).isSome) : find? key (replace key value members) = some value := by
  induction members with
  | nil => simp at found
  | cons pair rest ih =>
    obtain ⟨k, old⟩ := pair
    by_cases same : k = key
    · simp [replace, find?, same]
    · simp only [find?, same, if_false] at found
      simp [replace, find?, same, ih found]

theorem find?_replace_other {key other : String} (different : other ≠ key) (value : α)
    (members : List (String × α)) :
    find? other (replace key value members) = find? other members := by
  induction members with
  | nil => rfl
  | cons pair rest ih =>
    obtain ⟨k, old⟩ := pair
    by_cases same : k = key
    · subst same; simp [replace, find?, Ne.symm different]
    · simp [replace, find?, same, ih]

theorem find?_place_self (key : String) (value : α) (members : List (String × α))
    (absent : find? key members = none) : find? key (place key value members) = some value := by
  induction members with
  | nil => simp [place, find?]
  | cons pair rest ih =>
    obtain ⟨k, old⟩ := pair
    by_cases same : k = key
    · simp [find?, same] at absent
    · simp only [find?, same, if_false] at absent
      by_cases smaller : key < k
      · simp [place, smaller, find?]
      · simp [place, smaller, find?, same, ih absent]

theorem find?_place_other {key other : String} (different : other ≠ key) (value : α)
    (members : List (String × α)) :
    find? other (place key value members) = find? other members := by
  induction members with
  | nil => simp [place, find?, Ne.symm different]
  | cons pair rest ih =>
    obtain ⟨k, old⟩ := pair
    by_cases smaller : key < k
    · simp [place, smaller, find?, Ne.symm different]
    · simp [place, smaller, find?, ih]

@[simp] theorem find?_insert_self (key : String) (value : α) (members : List (String × α)) :
    find? key (insert key value members) = some value := by
  unfold insert
  split
  · next found => exact find?_replace_self key value members found
  · next absent => exact find?_place_self key value members (by simpa using absent)

/-- Inserting leaves the values under all other keys. -/
theorem find?_insert_other {key other : String} (different : other ≠ key) (value : α)
    (members : List (String × α)) :
    find? other (insert key value members) = find? other members := by
  unfold insert
  split
  · exact find?_replace_other different value members
  · exact find?_place_other different value members

theorem replace_replace (key : String) (first second : α) (members : List (String × α)) :
    replace key second (replace key first members) = replace key second members := by
  induction members with
  | nil => rfl
  | cons pair rest ih =>
    obtain ⟨k, old⟩ := pair
    by_cases same : k = key
    · simp [replace, same]
    · simp [replace, same, ih]

theorem replace_place (key : String) (first second : α) (members : List (String × α))
    (absent : find? key members = none) :
    replace key second (place key first members) = place key second members := by
  induction members with
  | nil => simp [place, replace]
  | cons pair rest ih =>
    obtain ⟨k, old⟩ := pair
    by_cases same : k = key
    · simp [find?, same] at absent
    · simp only [find?, same, if_false] at absent
      by_cases smaller : key < k
      · simp [place, replace, smaller]
      · simp [place, replace, smaller, same, ih absent]

/-- Of two values inserted under a key the second stays. -/
theorem insert_insert (key : String) (first second : α) (members : List (String × α)) :
    insert key second (insert key first members) = insert key second members := by
  have isThere : (find? key (insert key first members)).isSome = true := by
    rw [find?_insert_self]
    rfl
  rw [insert, if_pos isThere, insert, insert]
  split
  · exact replace_replace key first second members
  · next absent => exact replace_place key first second members (by simpa using absent)

/-- Inserting what is found under a key changes nothing. -/
theorem insert_eq_self {key : String} {value : α} {members : List (String × α)}
    (found : find? key members = some value) : insert key value members = members := by
  have isThere : (find? key members).isSome = true := found ▸ rfl
  rw [insert, if_pos isThere]
  clear isThere
  induction members with
  | nil => cases found
  | cons pair rest ih =>
    obtain ⟨k, old⟩ := pair
    by_cases same : k = key
    · simp only [find?, if_pos same, Option.some.injEq] at found
      simp [replace, same, found]
    · simp only [find?, if_neg same] at found
      simp [replace, same, ih found]

@[simp] theorem find?_erase_self (key : String) (members : List (String × α)) :
    find? key (erase key members) = none := by
  induction members with
  | nil => rfl
  | cons pair rest ih =>
    obtain ⟨k, old⟩ := pair
    by_cases same : k = key
    · simpa [erase, same] using ih
    · simpa [erase, find?, same] using ih

/-- Erasing leaves the values under all other keys. -/
theorem find?_erase_other {key other : String} (different : other ≠ key)
    (members : List (String × α)) : find? other (erase key members) = find? other members := by
  induction members with
  | nil => rfl
  | cons pair rest ih =>
    obtain ⟨k, old⟩ := pair
    by_cases same : k = key
    · subst same
      simpa [erase, find?, Ne.symm different] using ih
    · by_cases wanted : k = other
      · simp [erase, find?, wanted, different]
      · simpa [erase, find?, same, wanted] using ih

end DeclarativeForm.Members
