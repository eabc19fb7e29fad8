import LevelScript.Name

namespace LevelScript

/-!
# Tables

A table maps names to values and remembers the order in which its names were first
inserted. Inserting a name again replaces its value and keeps its place.
-/

/-- A map from names, in the order of their first insertion. -/
structure Table (β : Type) where
  entries : List (Name × β)
  distinct : (entries.map Prod.fst).Nodup

namespace Table

variable {β : Type}

/-- The table without entries. -/
def empty : Table β where
  entries := []
  distinct := List.nodup_nil

instance : Inhabited (Table β) :=
  ⟨empty⟩

/-- The names in order. -/
def names
    (table : Table β) :
    List Name :=
  table.entries.map Prod.fst

/-- The number of names. -/
def size
    (table : Table β) :
    Nat :=
  table.entries.length

/-- The table has no names. -/
def isEmpty
    (table : Table β) :
    Bool :=
  table.entries.isEmpty

/-- The first value of a name in a list of entries. -/
def findValue?
    (name : Name) :
    List (Name × β) →
    Option β
  | [] => none
  | (key, value) :: rest => if key = name then some value else findValue? name rest

/-- The value of a name. -/
def get?
    (table : Table β)
    (name : Name) :
    Option β :=
  findValue? name table.entries

/-- The name is in the table. -/
def contains
    (table : Table β)
    (name : Name) :
    Bool :=
  (table.get? name).isSome

/-- The entries with the value of a name replaced, or added at the end. -/
def putValue
    (name : Name)
    (value : β) :
    List (Name × β) →
    List (Name × β)
  | [] => [(name, value)]
  | (key, old) :: rest =>
      if key = name then
        (key, value) :: rest
      else
        (key, old) :: putValue name value rest

/-- Only the inserted name can be new among the names. -/
theorem mem_names_putValue
    {name other : Name}
    {value : β}
    {entries : List (Name × β)}
    (member : other ∈ (putValue name value entries).map Prod.fst) :
    other = name ∨ other ∈ entries.map Prod.fst := by
  induction entries with
  | nil =>
      simpa [putValue] using member
  | cons entry rest inductionHypothesis =>
      obtain ⟨key, old⟩ := entry
      by_cases same : key = name
      · simp only [putValue, same, if_true, List.map_cons, List.mem_cons] at member
        simp only [List.map_cons, List.mem_cons]
        exact member.elim Or.inl (fun inRest => Or.inr (Or.inr inRest))
      · simp only [putValue, same, if_false, List.map_cons, List.mem_cons] at member
        simp only [List.map_cons, List.mem_cons]
        rcases member with isKey | inRest
        · exact Or.inr (Or.inl isKey)
        · exact (inductionHypothesis inRest).elim Or.inl (fun old => Or.inr (Or.inr old))

/-- Inserting keeps the names distinct. -/
theorem nodup_names_putValue
    {name : Name}
    {value : β}
    {entries : List (Name × β)}
    (distinct : (entries.map Prod.fst).Nodup) :
    ((putValue name value entries).map Prod.fst).Nodup := by
  induction entries with
  | nil =>
      simp [putValue]
  | cons entry rest inductionHypothesis =>
      obtain ⟨key, old⟩ := entry
      rw [List.map_cons, List.nodup_cons] at distinct
      by_cases same : key = name
      · simp only [putValue, same, if_true, List.map_cons, List.nodup_cons]
        exact ⟨same ▸ distinct.1, distinct.2⟩
      · simp only [putValue, same, if_false, List.map_cons, List.nodup_cons]
        refine ⟨fun member => ?_, inductionHypothesis distinct.2⟩
        exact (mem_names_putValue member).elim same distinct.1

/-- The table in which a name has the given value. -/
def insert
    (table : Table β)
    (name : Name)
    (value : β) :
    Table β where
  entries := putValue name value table.entries
  distinct := nodup_names_putValue table.distinct

/-- The value that a name had before, and the entries with the given one put. -/
def exchangeValue
    (name : Name)
    (value : β) :
    List (Name × β) →
    Option β × List (Name × β)
  | [] => (none, [(name, value)])
  | (key, old) :: rest =>
      if key = name then
        (some old, (key, value) :: rest)
      else
        let (former, others) := exchangeValue name value rest
        (former, (key, old) :: others)

/-- One pass over the entries both finds the former value and puts the new one. -/
theorem exchangeValue_eq
    (name : Name)
    (value : β)
    (entries : List (Name × β)) :
    exchangeValue name value entries =
      (findValue? name entries, putValue name value entries) := by
  induction entries with
  | nil =>
      rfl
  | cons entry rest inductionHypothesis =>
      obtain ⟨key, old⟩ := entry
      by_cases same : key = name
      · simp [exchangeValue, findValue?, putValue, same]
      · simp [exchangeValue, findValue?, putValue, same, inductionHypothesis]

/-- An exchange keeps the names distinct. -/
theorem nodup_names_exchangeValue
    {name : Name}
    {value : β}
    {entries : List (Name × β)}
    (distinct : (entries.map Prod.fst).Nodup) :
    ((exchangeValue name value entries).2.map Prod.fst).Nodup := by
  rw [exchangeValue_eq]
  exact nodup_names_putValue distinct

/-- The value that a name had before, and the table in which it has the given one. -/
def exchange
    (table : Table β)
    (name : Name)
    (value : β) :
    Option β × Table β :=
  let exchanged := exchangeValue name value table.entries
  (exchanged.1, ⟨exchanged.2, nodup_names_exchangeValue table.distinct⟩)

theorem exchange_eq
    (table : Table β)
    (name : Name)
    (value : β) :
    table.exchange name value = (table.get? name, table.insert name value) := by
  simp only [exchange, exchangeValue_eq, get?, insert]

/-- A name has the value that was put last. -/
theorem findValue?_putValue_self
    (name : Name)
    (value : β)
    (entries : List (Name × β)) :
    findValue? name (putValue name value entries) = some value := by
  induction entries with
  | nil =>
      simp [putValue, findValue?]
  | cons entry rest inductionHypothesis =>
      obtain ⟨key, old⟩ := entry
      by_cases same : key = name
      · simp [putValue, findValue?, same]
      · simp [putValue, findValue?, same, inductionHypothesis]

/-- Putting a value changes no other name. -/
theorem findValue?_putValue_of_ne
    {name other : Name}
    (value : β)
    (entries : List (Name × β))
    (different : other ≠ name) :
    findValue? other (putValue name value entries) = findValue? other entries := by
  induction entries with
  | nil =>
      simp [putValue, findValue?, different.symm]
  | cons entry rest inductionHypothesis =>
      obtain ⟨key, old⟩ := entry
      by_cases same : key = name
      · subst same
        simp [putValue, findValue?, different.symm]
      · simp [putValue, findValue?, same, inductionHypothesis]

/-- A name without a value is put at the end. -/
theorem length_putValue_of_findValue?_eq_none
    {name : Name}
    (value : β)
    {entries : List (Name × β)}
    (fresh : findValue? name entries = none) :
    (putValue name value entries).length = entries.length + 1 := by
  induction entries with
  | nil =>
      rfl
  | cons entry rest inductionHypothesis =>
      obtain ⟨key, old⟩ := entry
      by_cases same : key = name
      · simp [findValue?, same] at fresh
      · simp only [findValue?, same, if_false] at fresh
        simp [putValue, same, inductionHypothesis fresh]

/-- A name with a value keeps its place. -/
theorem length_putValue_of_findValue?_isSome
    {name : Name}
    (value : β)
    {entries : List (Name × β)}
    (stored : (findValue? name entries).isSome) :
    (putValue name value entries).length = entries.length := by
  induction entries with
  | nil =>
      simp [findValue?] at stored
  | cons entry rest inductionHypothesis =>
      obtain ⟨key, old⟩ := entry
      by_cases same : key = name
      · simp [putValue, same]
      · simp only [findValue?, same, if_false] at stored
        simp [putValue, same, inductionHypothesis stored]

@[simp] theorem get?_empty
    (name : Name) :
    (empty : Table β).get? name = none :=
  rfl

@[simp] theorem get?_insert_self
    (table : Table β)
    (name : Name)
    (value : β) :
    (table.insert name value).get? name = some value :=
  findValue?_putValue_self name value table.entries

/-- Inserting a name changes no other name. -/
theorem get?_insert_of_ne
    (table : Table β)
    {name other : Name}
    (value : β)
    (different : other ≠ name) :
    (table.insert name value).get? other = table.get? other :=
  findValue?_putValue_of_ne value table.entries different

/-- A name without a value adds one to the number of names. -/
theorem size_insert_of_get?_eq_none
    (table : Table β)
    {name : Name}
    (value : β)
    (fresh : table.get? name = none) :
    (table.insert name value).size = table.size + 1 :=
  length_putValue_of_findValue?_eq_none value fresh

/-- A name with a value adds none to the number of names. -/
theorem size_insert_of_get?_isSome
    (table : Table β)
    {name : Name}
    (value : β)
    (stored : (table.get? name).isSome) :
    (table.insert name value).size = table.size :=
  length_putValue_of_findValue?_isSome value stored

/-- The pairs inserted one by one into an empty table. -/
def ofList
    (pairs : List (Name × β)) :
    Table β :=
  pairs.foldl (fun table (name, value) => table.insert name value) empty

/-- Tables are compared as maps, whatever the order of their names. -/
instance [BEq β] : BEq (Table β) where
  beq first second :=
    first.size == second.size &&
      first.entries.all fun (name, value) => second.get? name == some value

end Table

end LevelScript
