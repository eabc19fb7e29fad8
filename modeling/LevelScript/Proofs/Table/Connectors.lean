import Mathlib
import LevelScript.Proofs.Table.History

namespace LevelScript

/-!
# Connectors by their history

The connectors of an entity are listed in the order in which their names were inserted first, and
each of them is the one that was inserted last under its name. They are compared name by name,
whatever their order, and two of them are equal if all numbers of their offsets compare equal.
-/

variable {α β : Type}

/-! ## Equality of tables -/

namespace Table

/-- With distinct names, a name has the value that stands beside it. -/
theorem findValue?_eq_some_iff
    {entries : List (Name × β)}
    (distinct : (entries.map Prod.fst).Nodup)
    {name : Name}
    {value : β} :
    findValue? name entries = some value ↔ (name, value) ∈ entries := by
  induction entries with
  | nil =>
      simp [findValue?]
  | cons entry rest inductionHypothesis =>
      obtain ⟨key, old⟩ := entry
      rw [List.map_cons, List.nodup_cons] at distinct
      by_cases same : key = name
      · subst same
        have notInRest : (key, value) ∉ rest :=
          fun member => distinct.1 (List.mem_map.2 ⟨_, member, rfl⟩)
        simp [findValue?, notInRest, eq_comm]
      · simp [findValue?, same, Ne.symm same, inductionHypothesis distinct.2]

theorem get?_eq_some_iff
    {table : Table β}
    {name : Name}
    {value : β} :
    table.get? name = some value ↔ (name, value) ∈ table.entries :=
  findValue?_eq_some_iff table.distinct

theorem mem_names_iff_exists
    {table : Table β}
    {name : Name} :
    name ∈ table.names ↔ ∃ value, table.get? name = some value := by
  rw [mem_names_iff, contains, Option.isSome_iff_exists]

/-- As many names, none of which is missing in the other table, are the same names. -/
theorem same_names_iff
    {first second : Table β} :
    (∀ name, name ∈ first.names ↔ name ∈ second.names) ↔
      first.size = second.size ∧ first.names ⊆ second.names := by
  rw [size_eq, size_eq]
  refine (List.perm_ext_iff_of_nodup first.distinct second.distinct).symm.trans ?_
  constructor
  · intro isPermutation
    exact ⟨isPermutation.length_eq, isPermutation.subset⟩
  · -- Distinct names that are all in an equally long list leave no name of it out.
    rintro ⟨sameLength, subset⟩
    exact (first.distinct.subperm subset).perm_of_length_le sameLength.ge

/-- Every entry is found again exactly if every value has an equal counterpart. -/
theorem all_found_iff
    [BEq β]
    {first second : Table β} :
    (first.entries.all fun entry => second.get? entry.1 == some entry.2) = true ↔
      ∀ name value,
        first.get? name = some value →
        ∃ counterpart, second.get? name = some counterpart ∧ (counterpart == value) = true := by
  rw [List.all_eq_true]
  constructor
  · intro allFound name value stored
    have isFound := allFound (name, value) (get?_eq_some_iff.1 stored)
    cases inSecond : second.get? name with
    | none =>
        simp [inSecond] at isFound
    | some counterpart =>
        exact ⟨counterpart, rfl, by simpa [inSecond] using isFound⟩
  · rintro found ⟨name, value⟩ member
    obtain ⟨counterpart, inSecond, equal⟩ := found name value (get?_eq_some_iff.2 member)
    simpa [inSecond] using equal

/-- Equal tables have the same names, and under each name equal values. -/
theorem beq_iff
    [BEq β]
    {first second : Table β} :
    (first == second) = true ↔
      (∀ name, name ∈ first.names ↔ name ∈ second.names) ∧
        ∀ name value counterpart,
          first.get? name = some value →
          second.get? name = some counterpart →
          (counterpart == value) = true := by
  change (first.size == second.size &&
    first.entries.all fun entry => second.get? entry.1 == some entry.2) = true ↔ _
  -- Only the names of one table are gone through; the sizes account for those of the other.
  rw [Bool.and_eq_true, beq_iff_eq, all_found_iff, same_names_iff]
  constructor
  · rintro ⟨sameSize, found⟩
    refine ⟨⟨sameSize, ?_⟩, ?_⟩
    · intro name isName
      obtain ⟨value, stored⟩ := mem_names_iff_exists.1 isName
      obtain ⟨counterpart, inSecond, -⟩ := found name value stored
      exact mem_names_iff_exists.2 ⟨counterpart, inSecond⟩
    · intro name value counterpart stored inSecond
      obtain ⟨other, isOther, equal⟩ := found name value stored
      rw [isOther, Option.some.injEq] at inSecond
      exact inSecond ▸ equal
  · rintro ⟨⟨sameSize, subset⟩, equal⟩
    refine ⟨sameSize, fun name value stored => ?_⟩
    obtain ⟨counterpart, inSecond⟩ :=
      mem_names_iff_exists.1 (subset (mem_names_iff_exists.2 ⟨value, stored⟩))
    exact ⟨counterpart, inSecond, equal name value counterpart stored inSecond⟩

end Table

/-! ## Equality of offsets -/

/-- Numbers compare equal if both are defined and they are the same or zeros of any signs. -/
def Binary64.ComparesEqual
    (first second : Float) :
    Prop :=
  first ≠ .nan ∧ second ≠ .nan ∧
    (first = second ∨ (first = 0 ∨ first = -0) ∧ (second = 0 ∨ second = -0))

theorem Binary64.ComparesEqual.symm
    {first second : Float}
    (equal : ComparesEqual first second) :
    ComparesEqual second first :=
  ⟨equal.2.1, equal.1, equal.2.2.imp Eq.symm And.symm⟩

theorem Binary64.beq_iff_comparesEqual
    {first second : Float} :
    (first == second) = true ↔ ComparesEqual first second := by
  rw [Float.beq_iff_ne_nan_and_eq, ComparesEqual]
  refine and_congr_right fun _ => and_congr_right fun _ => ?_
  constructor
  · rintro (same | ⟨isZero, isNegative⟩ | ⟨isNegative, isZero⟩)
    · exact .inl same
    · exact .inr ⟨.inl isZero, .inr isNegative⟩
    · exact .inr ⟨.inr isNegative, .inl isZero⟩
  · rintro (same | ⟨rfl | rfl, rfl | rfl⟩)
    · exact .inl same
    · exact .inl rfl
    · exact .inr (.inl ⟨rfl, rfl⟩)
    · exact .inr (.inr ⟨rfl, rfl⟩)
    · exact .inl rfl

theorem Vec4.beq_iff_forall₂
    [BEq α]
    {first second : Vec4 α} :
    (first == second) = true ↔
      List.Forall₂ (fun entry counterpart => (entry == counterpart) = true)
        first.toList second.toList := by
  change (first.x == second.x &&
    (first.y == second.y && (first.z == second.z && first.w == second.w))) = true ↔ _
  simp [toList]

/-- Transforms are compared entry by entry. -/
theorem Transform.beq_iff_forall₂
    [BEq α]
    {first second : Transform α} :
    (first == second) = true ↔
      List.Forall₂ (fun entry counterpart => (entry == counterpart) = true)
        first.toList second.toList := by
  change (first.xAxis == second.xAxis && (first.yAxis == second.yAxis &&
    (first.zAxis == second.zAxis && first.wAxis == second.wAxis))) = true ↔ _
  simp only [Bool.and_eq_true, Vec4.beq_iff_forall₂, toList, Vec4.toList, List.cons_append,
    List.nil_append, List.forall₂_cons, List.Forall₂.nil, and_true, and_assoc]

theorem Connector.beq_iff
    {first second : Connector Float} :
    (first == second) = true ↔
      List.Forall₂ Binary64.ComparesEqual first.offset.toList second.offset.toList := by
  change (first.offset == second.offset) = true ↔ _
  simp only [Transform.beq_iff_forall₂, Binary64.beq_iff_comparesEqual]

theorem Connector.beq_comm
    (first second : Connector Float) :
    (first == second) = (second == first) := by
  have flipped : ∀ {entries counterparts : List Float},
      List.Forall₂ Binary64.ComparesEqual entries counterparts →
        List.Forall₂ Binary64.ComparesEqual counterparts entries :=
    fun equal => (equal.imp fun _ _ => Binary64.ComparesEqual.symm).flip
  rw [Bool.eq_iff_iff, beq_iff, beq_iff]
  exact ⟨flipped, flipped⟩

namespace Connectors

/-- Connectors of the same names, of which all numbers of the offsets compare equal. -/
structure Matches
    (first second : Connectors Float) :
    Prop where
  names : ∀ name, name ∈ first.names ↔ name ∈ second.names
  offsets : ∀ name connector counterpart,
    first.get? name = some connector →
      second.get? name = some counterpart →
      List.Forall₂ Binary64.ComparesEqual connector.offset.toList counterpart.offset.toList

theorem beq_iff_matches
    {first second : Connectors Float} :
    (first == second) = true ↔ first.Matches second := by
  rw [Table.beq_iff]
  constructor
  · rintro ⟨names, equal⟩
    refine ⟨names, fun name connector counterpart stored inSecond => ?_⟩
    rw [← Connector.beq_iff, Connector.beq_comm]
    exact equal name connector counterpart stored inSecond
  · rintro ⟨names, offsets⟩
    refine ⟨names, fun name connector counterpart stored inSecond => ?_⟩
    rw [Connector.beq_comm, Connector.beq_iff]
    exact offsets name connector counterpart stored inSecond

/-- Connectors do not depend on the order in which they were inserted, and both zeros are one
number. -/
example :
    ((.ofList [(⟨"head"⟩, .ofPosition ⟨0, 1, 0⟩), (⟨"tail"⟩, .ofPosition ⟨0, 2, 0⟩)] :
        Connectors Float) ==
      .ofList [(⟨"tail"⟩, .ofPosition ⟨-0, 2, 0⟩), (⟨"head"⟩, .ofPosition ⟨0, 1, -0⟩)]) = true := by
  decide

/-! ## Insertions -/

/-- What connectors tell of the pairs that were inserted since they were last collected. -/
structure RecallsInsertions
    (connectors : Connectors Float)
    (pairs : List (Name × Connector Float)) :
    Prop where
  /-- Every name that was inserted is listed, -/
  listed : ∀ name, name ∈ connectors.names ↔ name ∈ pairs.map Prod.fst
  /-- just once, -/
  once : connectors.names.Nodup
  /-- and in the order in which the names were inserted first. -/
  inOrder : connectors.names.Pairwise fun earlier later =>
    (pairs.map Prod.fst).idxOf earlier < (pairs.map Prod.fst).idxOf later
  /-- A name that is inserted again keeps its place, and a new one is put at the end. -/
  placed : ∀ name connector,
    (connectors.exchange name connector).2.names =
      if name ∈ connectors.names then connectors.names else connectors.names ++ [name]
  latest : ∀ name,
    connectors.get? name = (lastNamed? Prod.fst name pairs).map Prod.snd
  absent : ∀ name, connectors.get? name = none ↔ name ∉ pairs.map Prod.fst
  /-- An insertion that tells the former value tells what the name had just before. -/
  former : ∀ name connector,
    connectors.exchange name connector =
      (connectors.get? name, connectors.insert name connector)
  size : connectors.size = (pairs.map Prod.fst).toFinset.card
  /-- What is collected is inserted pair by pair into the empty table. -/
  collected : ∀ collection,
    (Table.Operation.collect collection).apply connectors =
      .ofOperations (collection.map fun (name, connector) => .exchange name connector)
  equal : ∀ other : Connectors Float, (connectors == other) = true ↔ connectors.Matches other

/--
Whatever was inserted, replaced and collected, connectors are listed once each in the order of
their first insertion, the last insertion of a name decides about it, and an insertion tells what
the one before it has decided. Two tables of connectors are equal if they have the same names and
under each name offsets whose numbers compare equal.
-/
theorem recallsInsertions_ofOperations
    (operations : List (Table.Operation (Connector Float))) :
    RecallsInsertions (.ofOperations operations) (Table.insertions operations) := by
  rw [Table.ofOperations_eq_ofList]
  generalize Table.insertions operations = pairs
  constructor
  case listed =>
    exact fun name => Table.mem_names_ofList_iff
  case once =>
    exact (Table.ofList pairs).distinct
  case inOrder =>
    exact Table.pairwise_names_ofList pairs
  case placed =>
    intro name connector
    rw [Table.exchange_eq, Table.names_insert]
  case latest =>
    exact Table.get?_ofList pairs
  case absent =>
    intro name
    rw [← Table.mem_names_ofList_iff, Table.mem_names_iff, Table.contains, Bool.not_eq_true,
      Option.isSome_eq_false_iff, Option.isNone_iff_eq_none]
  case former =>
    exact (Table.ofList pairs).exchange_eq
  case size =>
    exact Table.size_ofList pairs
  case collected =>
    exact fun collection => (Table.ofOperations_map_exchange collection).symm
  case equal =>
    exact fun other => beq_iff_matches

end Connectors

end LevelScript
