import LevelScript.Proofs.Construction.Agreement
import Mathlib.Data.Finset.Card

namespace LevelScript

/-!
# Tables by their history

A table is what some operations have made of the empty one. It is the table of the pairs that were
inserted since it was last collected, and this list of pairs tells everything: the names in the
order in which each of them came first, and for each name the value that came last.
-/

variable {β : Type}

/-! ## First places -/

section FirstPlaces

variable {γ : Type} [DecidableEq γ]

/-- One more item counts only if it is new. -/
theorem eraseDups_concat
    (items : List γ)
    (last : γ) :
    (items ++ [last]).eraseDups =
      if last ∈ items then items.eraseDups else items.eraseDups ++ [last] := by
  rw [List.eraseDups_append, List.removeAll]
  by_cases isOld : last ∈ items
  · simp [isOld]
  · simp [isOld, List.eraseDups_cons]

/-- The items without their repetitions stand in the order of their first places. -/
theorem pairwise_idxOf_eraseDups
    (items : List γ) :
    items.eraseDups.Pairwise fun earlier later =>
      items.idxOf earlier < items.idxOf later := by
  induction items using List.reverseRecOn with
  | nil =>
      exact .nil
  | append_singleton items last inductionHypothesis =>
      have samePlace : ∀ {item}, item ∈ items.eraseDups →
          (items ++ [last]).idxOf item = items.idxOf item :=
        fun member => List.idxOf_append_of_mem (List.mem_eraseDups.1 member)
      have kept : items.eraseDups.Pairwise fun earlier later =>
          (items ++ [last]).idxOf earlier < (items ++ [last]).idxOf later := by
        refine inductionHypothesis.imp_of_mem fun isEarlier isLater inOrder => ?_
        rwa [samePlace isEarlier, samePlace isLater]
      rw [eraseDups_concat]
      split
      · exact kept
      · next isNew =>
          -- All earlier items have places in the list, and the new one comes behind it.
          refine List.pairwise_append.2 ⟨kept, List.pairwise_singleton _ _, ?_⟩
          intro earlier isEarlier later isLast
          obtain rfl := List.mem_singleton.1 isLast
          have inItems : items.idxOf earlier < items.length :=
            List.idxOf_lt_length_of_mem (List.mem_eraseDups.1 isEarlier)
          rw [samePlace isEarlier, List.idxOf_append_of_notMem isNew]
          exact Nat.lt_of_lt_of_le inItems (Nat.le_add_right _ _)

end FirstPlaces

namespace Table

/-! ## The names of a table -/

/-- A name that is there keeps its place, and any other is put at the end. -/
theorem names_putValue
    (name : Name)
    (value : β)
    (entries : List (Name × β)) :
    (putValue name value entries).map Prod.fst =
      if name ∈ entries.map Prod.fst then
        entries.map Prod.fst
      else
        entries.map Prod.fst ++ [name] := by
  induction entries with
  | nil =>
      rfl
  | cons entry rest inductionHypothesis =>
      obtain ⟨key, old⟩ := entry
      by_cases same : key = name
      · simp [putValue, same]
      · simp only [putValue, same, if_false, List.map_cons, inductionHypothesis,
          List.mem_cons, Ne.symm same, false_or]
        split
        · rfl
        · rfl

theorem names_insert
    (table : Table β)
    (name : Name)
    (value : β) :
    (table.insert name value).names =
      if name ∈ table.names then table.names else table.names ++ [name] :=
  names_putValue name value table.entries

/-- Each name of some pairs is listed once, at its first place. -/
theorem names_ofList
    (pairs : List (Name × β)) :
    (ofList pairs).names = (pairs.map Prod.fst).eraseDups := by
  induction pairs using List.reverseRecOn with
  | nil =>
      rfl
  | append_singleton pairs last inductionHypothesis =>
      rw [ofList_concat, names_insert, inductionHypothesis, List.map_append, List.map_singleton,
        eraseDups_concat]
      simp only [List.mem_eraseDups]

theorem mem_names_ofList_iff
    {pairs : List (Name × β)}
    {name : Name} :
    name ∈ (ofList pairs).names ↔ name ∈ pairs.map Prod.fst := by
  rw [names_ofList, List.mem_eraseDups]

/-- The names stand in the order in which they were inserted first. -/
theorem pairwise_names_ofList
    (pairs : List (Name × β)) :
    (ofList pairs).names.Pairwise fun earlier later =>
      (pairs.map Prod.fst).idxOf earlier < (pairs.map Prod.fst).idxOf later := by
  rw [names_ofList]
  exact pairwise_idxOf_eraseDups _

theorem size_eq
    (table : Table β) :
    table.size = table.names.length :=
  (List.length_map _).symm

/-- The names are counted once each. -/
theorem size_ofList
    (pairs : List (Name × β)) :
    (ofList pairs).size = (pairs.map Prod.fst).toFinset.card := by
  have sameNames : (ofList pairs).names.toFinset = (pairs.map Prod.fst).toFinset := by
    ext name
    rw [List.mem_toFinset, List.mem_toFinset, mem_names_ofList_iff]
  calc
    (ofList pairs).size = (ofList pairs).names.length := size_eq _
    _ = (ofList pairs).names.toFinset.card :=
      (List.toFinset_card_of_nodup (ofList pairs).distinct).symm
    _ = (pairs.map Prod.fst).toFinset.card := congrArg Finset.card sameNames

/-! ## Histories -/

/-- What can be done to a table. -/
inductive Operation (β : Type) where
  /-- A value is inserted, and the former one is told. -/
  | exchange (name : Name) (value : β)
  | insert (name : Name) (value : β)
  /-- The table is given up for one that is made of pairs. -/
  | collect (pairs : List (Name × β))

namespace Operation

/-- The table after one more operation. -/
def apply
    (table : Table β) :
    Operation β →
    Table β
  | .exchange name value => (table.exchange name value).2
  | .insert name value => table.insert name value
  | .collect pairs => ofList pairs

/-- What has been inserted since the last collection, after one more operation. -/
def insertionsAfter
    (earlier : List (Name × β)) :
    Operation β →
    List (Name × β)
  | .exchange name value => earlier ++ [(name, value)]
  | .insert name value => earlier ++ [(name, value)]
  | .collect pairs => pairs

/-- One more operation makes of a table of pairs the table of what it makes of the pairs. -/
theorem apply_ofList
    (pairs : List (Name × β))
    (operation : Operation β) :
    operation.apply (ofList pairs) = ofList (operation.insertionsAfter pairs) := by
  cases operation with
  | exchange name value =>
      rw [apply, exchange_eq, insertionsAfter, ofList_concat]
  | insert name value =>
      rw [apply, insertionsAfter, ofList_concat]
  | collect collected =>
      rfl

end Operation

/-- The table after some operations on the empty one. -/
def ofOperations
    (operations : List (Operation β)) :
    Table β :=
  operations.foldl Operation.apply empty

/-- What has been inserted since the last collection, whose own pairs come first. -/
def insertions
    (operations : List (Operation β)) :
    List (Name × β) :=
  operations.foldl Operation.insertionsAfter []

/-- Whatever was done to a table, it is the table of what was inserted since the last collection. -/
theorem ofOperations_eq_ofList
    (operations : List (Operation β)) :
    ofOperations operations = ofList (insertions operations) := by
  -- Both sides are folds, and one step of one is one step of the other.
  change operations.foldl Operation.apply (ofList []) =
    ofList (operations.foldl Operation.insertionsAfter [])
  exact List.foldl_hom ofList Operation.apply_ofList

/-- A name that is inserted again keeps its place, and a collection starts anew. -/
example :
    (ofOperations
      [.insert ⟨"side"⟩ 0, .collect [(⟨"head"⟩, 1), (⟨"tail"⟩, 2)], .exchange ⟨"head"⟩ 3]).entries =
      [(⟨"head"⟩, 3), (⟨"tail"⟩, 2)] := by
  decide

/-- Pairs are collected as if they were inserted one by one. -/
theorem ofOperations_map_exchange
    (pairs : List (Name × β)) :
    ofOperations (pairs.map fun (name, value) => .exchange name value) = ofList pairs := by
  rw [ofOperations, ofList, List.foldl_map]
  simp only [Operation.apply, exchange_eq]

end Table

end LevelScript
