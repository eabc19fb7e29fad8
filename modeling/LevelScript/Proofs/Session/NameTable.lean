import LevelScript.Proofs.Session.Transition
import Mathlib.Data.List.Nodup
import Mathlib.Order.Bounds.Basic

namespace LevelScript

/-!
# The name table of a session

Whatever statements have run, the entities of a session are their declarations in order, and
the name table maps each declared name to the last entity declared with it. What the tables
hold is said in terms of the statements alone, and each statement that succeeds keeps it so.
-/

variable {α : Type}

/-! ## What statements declare -/

/-- The class that a statement makes a short name stand for. -/
def Located.abbreviation?
    (short : Name)
    (statement : Located (Statement α)) :
    Option Name :=
  match statement.value with
  | .abbreviation name className => if name.value = short then some className.value else none
  | _ => none

namespace Program

/-- The class that a short name stands for after some statements, by the last abbreviation. -/
def abbreviated?
    (statements : List (Located (Statement α)))
    (short : Name) :
    Option Name :=
  (statements.filterMap (Located.abbreviation? short)).getLast?

/-- The name that a statement declares, if it does, and its class. -/
def declaration?
    (earlier : List (Located (Statement α)))
    (statement : Located (Statement α)) :
    Option (Name × Name) :=
  match statement.value with
  | .declaration name className _ =>
      some (name.value, (abbreviated? earlier className.value).getD className.value)
  | _ => none

/-- The names and classes that statements declare after some earlier ones, in order. -/
def declarationsAfter
    (earlier : List (Located (Statement α))) :
    List (Located (Statement α)) →
    List (Name × Name)
  | [] => []
  | statement :: rest =>
      (declaration? earlier statement).toList ++
        declarationsAfter (earlier ++ [statement]) rest

/-- The names and classes that statements declare, in order. -/
def declarations
    (statements : List (Located (Statement α))) :
    List (Name × Name) :=
  declarationsAfter [] statements

theorem declarationsAfter_concat
    (earlier statements : List (Located (Statement α)))
    (statement : Located (Statement α)) :
    declarationsAfter earlier (statements ++ [statement]) =
      declarationsAfter earlier statements ++
        (declaration? (earlier ++ statements) statement).toList := by
  induction statements generalizing earlier with
  | nil =>
      simp [declarationsAfter]
  | cons first rest inductionHypothesis =>
      simp [declarationsAfter, inductionHypothesis]

theorem declarations_concat
    (statements : List (Located (Statement α)))
    (statement : Located (Statement α)) :
    declarations (statements ++ [statement]) =
      declarations statements ++ (declaration? statements statement).toList := by
  simp [declarations, declarationsAfter_concat]

theorem abbreviated?_concat
    (statements : List (Located (Statement α)))
    (statement : Located (Statement α))
    (short : Name) :
    abbreviated? (statements ++ [statement]) short =
      (statement.abbreviation? short).or (abbreviated? statements short) := by
  unfold abbreviated?
  rw [List.filterMap_append, List.getLast?_append]
  cases found : statement.abbreviation? short <;> simp [found]

end Program

/-! ## The invariant -/

namespace Session

/-- The names of the entities in order. -/
def entityNames
    (session : Session α) :
    List Name :=
  session.entities.map PlacedEntity.name

/-- The tables of a session hold what some statements say. -/
structure Tracks
    (statements : List (Located (Statement α)))
    (session : Session α) :
    Prop where
  /-- The alias table holds the last abbreviation of each short name. -/
  aliases : ∀ short, session.aliases.get? short = Program.abbreviated? statements short
  /-- The entities are the declarations in order. -/
  entities :
    session.entities.map (fun placed => (placed.name, placed.className)) =
      Program.declarations statements
  /-- The names of the table are the names of the entities. -/
  declared : ∀ name, (session.names.get? name).isSome ↔ name ∈ session.entityNames
  /-- A name is mapped to the last entity that bears it. -/
  last : ∀ name index,
    session.names.get? name = some index →
      IsGreatest {position | session.entityNames[position]? = some name} index

/-- No name is declared twice. -/
structure NamesDistinct
    (session : Session α) :
    Prop where
  nodup : session.entityNames.Nodup
  size : session.names.size = session.entities.length

theorem tracks_empty :
    Tracks [] (empty : Session α) where
  aliases := fun short => rfl
  entities := rfl
  declared := by simp [empty, entityNames]
  last := by simp [empty]

theorem namesDistinct_empty :
    NamesDistinct (empty : Session α) where
  nodup := List.nodup_nil
  size := rfl

/-- Another item at the end of a list does not bear a name that differs from its own. -/
private theorem getElem?_concat_eq_some_iff
    {names : List Name}
    {last name : Name}
    (different : name ≠ last)
    (position : Nat) :
    (names ++ [last])[position]? = some name ↔ names[position]? = some name := by
  rw [List.getElem?_append]
  split
  · rfl
  · rename_i outside
    have beyond : names[position]? = none :=
      List.getElem?_eq_none (Nat.le_of_not_lt outside)
    rw [beyond, List.getElem?_singleton]
    split <;> simp [Ne.symm different]

section Changes

variable {statements : List (Located (Statement α))}
  {statement : Located (Statement α)}
  {session : Session α}

/-- An abbreviation changes the alias table only. -/
theorem Tracks.abbreviation
    (tracks : Tracks statements session)
    {short className : Located Name}
    (isAbbreviation : statement.value = .abbreviation short className) :
    Tracks (statements ++ [statement])
      { session with aliases := session.aliases.insert short.value className.value } where
  aliases := by
    intro name
    rw [Program.abbreviated?_concat, ← tracks.aliases]
    by_cases same : short.value = name
    · subst same
      simp [Located.abbreviation?, isAbbreviation]
    · rw [Table.get?_insert_of_ne _ _ (Ne.symm same)]
      simp [Located.abbreviation?, isAbbreviation, same]
  entities := by
    rw [Program.declarations_concat, ← tracks.entities]
    simp [Program.declaration?, isAbbreviation]
  declared := tracks.declared
  last := tracks.last

@[simp] theorem entityNames_append
    (session : Session α)
    (placed : PlacedEntity α) :
    (session.append placed).entityNames = session.entityNames ++ [placed.name] := by
  simp [append, entityNames]

@[simp] theorem length_entityNames
    (session : Session α) :
    session.entityNames.length = session.entities.length := by
  simp [entityNames]

/-- A declaration adds an entity of the class that the alias table stands for. -/
theorem Tracks.declaration
    (tracks : Tracks statements session)
    {name className : Located Name}
    {arguments : List (Located (Literal α))}
    (isDeclaration : statement.value = .declaration name className arguments)
    (entity : Entity α) :
    Tracks (statements ++ [statement])
      (session.append ⟨name.value, session.expandClass className.value, entity⟩) where
  aliases := by
    intro short
    rw [Program.abbreviated?_concat, ← tracks.aliases]
    simp [append, Located.abbreviation?, isDeclaration]
  entities := by
    rw [Program.declarations_concat, ← tracks.entities]
    simp [append, expandClass, Program.declaration?, isDeclaration, tracks.aliases]
  declared := by
    intro other
    have before := tracks.declared other
    rw [entityNames_append, List.mem_append, List.mem_singleton]
    by_cases same : other = name.value
    · simp [append, same]
    · simpa [append, same, Table.get?_insert_of_ne _ _ same] using before
  last := by
    intro other index stored
    rw [entityNames_append]
    by_cases same : other = name.value
    · subst same
      simp only [append, Table.get?_insert_self, Option.some.injEq] at stored
      subst stored
      constructor
      · simp [← length_entityNames]
      · intro position bears
        have inside := (List.getElem?_eq_some_iff.1 bears).1
        simp only [List.length_append, List.length_singleton, length_entityNames] at inside
        omega
    · simp only [append, Table.get?_insert_of_ne _ _ same] at stored
      simpa only [getElem?_concat_eq_some_iff same] using tracks.last other index stored

/-- Moving an entity changes no table. -/
theorem Tracks.motion
    (tracks : Tracks statements session)
    (declaresNone : ∀ earlier, Program.declaration? earlier statement = none)
    (abbreviatesNone : ∀ short, statement.abbreviation? short = none)
    {name : Located Name}
    {found : Found α}
    (isFound : session.lookup name = .ok found)
    (transform : Transform α) :
    Tracks (statements ++ [statement]) (session.move found transform) := by
  have names : (session.move found transform).entityNames = session.entityNames :=
    map_entities_move isFound transform PlacedEntity.name fun _ _ => rfl
  constructor
  · intro short
    rw [Program.abbreviated?_concat, abbreviatesNone]
    exact tracks.aliases short
  · rw [Program.declarations_concat, declaresNone,
      map_entities_move isFound transform _ fun _ _ => rfl, tracks.entities]
    simp
  · rw [names]
    exact tracks.declared
  · rw [names]
    exact tracks.last

end Changes

section Runs

variable [Scalar α] {registry : Registry α} {policy : RedeclarationPolicy}
  {session next : Session α}

/-- Each statement that succeeds keeps the tables in step with the statements. -/
theorem Tracks.step
    {statements : List (Located (Statement α))}
    {statement : Located (Statement α)}
    (tracks : Tracks statements session)
    (succeeds : Succeeds registry policy session statement next) :
    Tracks (statements ++ [statement]) next := by
  cases succeeds with
  | abbreviation _ =>
      exact tracks.abbreviation rfl
  | declaration _ _ =>
      exact tracks.declaration rfl _
  | absolute isFound =>
      exact tracks.motion (fun _ => rfl) (fun _ => rfl) isFound _
  | relative isFound _ =>
      exact tracks.motion (fun _ => rfl) (fun _ => rfl) isFound _
  | connection isMoved _ _ _ =>
      exact tracks.motion (fun _ => rfl) (fun _ => rfl) isMoved _

/-- Where names may not be declared again, each statement keeps them distinct. -/
theorem NamesDistinct.step
    {statements : List (Located (Statement α))}
    {statement : Located (Statement α)}
    (tracks : Tracks statements session)
    (distinct : NamesDistinct session)
    (succeeds : Succeeds registry .reject session statement next) :
    NamesDistinct next := by
  have moved : ∀ {name : Located Name} {found : Found α} (transform : Transform α),
      session.lookup name = .ok found → NamesDistinct (session.move found transform) := by
    intro name found transform isFound
    have names : (session.move found transform).entityNames = session.entityNames :=
      map_entities_move isFound transform PlacedEntity.name fun _ _ => rfl
    constructor
    · rw [names]
      exact distinct.nodup
    · rw [← length_entityNames, names, length_entityNames]
      exact distinct.size
  cases succeeds with
  | abbreviation _ =>
      exact ⟨distinct.nodup, distinct.size⟩
  | @declaration name className _ _ entity isFresh _ =>
      have fresh := isFresh rfl
      have notDeclared : name.value ∉ session.entityNames := by
        rw [← tracks.declared, fresh]
        simp
      constructor
      · rw [entityNames_append, ← List.concat_eq_append]
        exact distinct.nodup.concat notDeclared
      · simp [append, Table.size_insert_of_get?_eq_none _ _ fresh, distinct.size]
  | absolute isFound =>
      exact moved _ isFound
  | relative isFound _ =>
      exact moved _ isFound
  | connection isMoved _ _ _ =>
      exact moved _ isMoved

/-- A run keeps the tables in step with the statements, however many there are. -/
theorem Tracks.run
    {earlier statements : List (Located (Statement α))}
    (tracks : Tracks earlier session)
    (ran : (session.run registry policy statements).outcome = .ok next) :
    Tracks (earlier ++ statements) next := by
  induction statements generalizing session earlier with
  | nil =>
      cases ran
      simpa using tracks
  | cons statement rest inductionHypothesis =>
      obtain ⟨between, succeeds, ranRest⟩ := run_cons_eq_ok_iff.1 ran
      simpa using inductionHypothesis (tracks.step succeeds) ranRest

theorem NamesDistinct.run
    {earlier statements : List (Located (Statement α))}
    (tracks : Tracks earlier session)
    (distinct : NamesDistinct session)
    (ran : (session.run registry .reject statements).outcome = .ok next) :
    NamesDistinct next := by
  induction statements generalizing session earlier with
  | nil =>
      cases ran
      exact distinct
  | cons statement rest inductionHypothesis =>
      obtain ⟨between, succeeds, ranRest⟩ := run_cons_eq_ok_iff.1 ran
      exact
        inductionHypothesis (tracks.step succeeds) (distinct.step tracks succeeds) ranRest

end Runs

/-! ## Finding entities -/

/-- The greatest index of a name is where no later entity bears it. -/
theorem isGreatest_iff
    {session : Session α}
    {name : Name}
    {index : Nat} :
    IsGreatest {position | session.entityNames[position]? = some name} index ↔
      ∃ earlier placed later,
        session.entities = earlier ++ placed :: later ∧
          earlier.length = index ∧
          placed.name = name ∧
          name ∉ later.map PlacedEntity.name := by
  constructor
  · rintro ⟨bears, isUpper⟩
    have named : (session.entities[index]?).map PlacedEntity.name = some name := by
      simpa [entityNames] using bears
    obtain ⟨placed, isPlaced, isName⟩ := Option.map_eq_some_iff.1 named
    obtain ⟨inside, isHere⟩ := List.getElem?_eq_some_iff.1 isPlaced
    refine
      ⟨session.entities.take index, placed, session.entities.drop (index + 1), ?_,
        by simp [inside.le], isName, ?_⟩
    · rw [← isHere, List.getElem_cons_drop, List.take_append_drop]
    · intro member
      obtain ⟨offset, isLater⟩ := List.mem_iff_getElem?.1 member
      have later : session.entityNames[index + 1 + offset]? = some name := by
        simpa [entityNames] using isLater
      have := isUpper later
      omega
  · rintro ⟨earlier, placed, later, entities, rfl, rfl, notLater⟩
    have names :
        session.entityNames =
          earlier.map PlacedEntity.name ++ placed.name :: later.map PlacedEntity.name := by
      simp [entityNames, entities]
    rw [names]
    constructor
    · simp
    · intro position bears
      by_contra beyond
      obtain ⟨offset, rfl⟩ := Nat.exists_eq_add_of_lt (Nat.lt_of_not_le beyond)
      apply notLater
      apply List.mem_of_getElem? (i := offset)
      rw [← bears, List.getElem?_append_right (by simp; omega)]
      simp [Nat.add_assoc]

/-- What the name table of a session and its level say about the statements that have run. -/
structure RecordsDeclarations
    (policy : RedeclarationPolicy)
    (statements : List (Located (Statement α)))
    (session : Session α) :
    Prop where
  /-- The alias table holds the last abbreviation of each short name. -/
  aliases : ∀ short, session.aliases.get? short = Program.abbreviated? statements short
  /-- The entities are the declarations in order, with their names and resolved classes. -/
  entities :
    session.entities.map (fun placed => (placed.name, placed.className)) =
      Program.declarations statements
  /-- The table has the declared names. -/
  declared : ∀ name,
    (∃ index, session.names.get? name = some index) ↔
      name ∈ (Program.declarations statements).map Prod.fst
  /-- A name is mapped to the greatest index of an entity that bears it. -/
  greatest : ∀ name index,
    session.names.get? name = some index →
      IsGreatest {position | session.entityNames[position]? = some name} index ∧
        index < session.entities.length
  /-- Looking up a name of the table finds the entity at its index. -/
  found : ∀ (name : Located Name) index,
    session.names.get? name.value = some index →
      ∃ placed,
        session.entities[index]? = some placed ∧ session.lookup name = .ok ⟨index, placed⟩
  /-- Where names may not be declared again, there are as many names as entities. -/
  distinct :
    policy = .reject →
      session.entityNames.Nodup ∧ session.names.size = session.entities.length
  /-- The level finds the latest declaration of a name. -/
  latest : ∀ name placed,
    session.toLevel.find? name = some placed ↔
      ∃ earlier later,
        session.entities = earlier ++ placed :: later ∧
          placed.name = name ∧
          name ∉ later.map PlacedEntity.name
  /-- The level finds nothing exactly for names that were never declared. -/
  absent : ∀ name,
    session.toLevel.find? name = none ↔
      name ∉ (Program.declarations statements).map Prod.fst

section Tables

variable {statements : List (Located (Statement α))} {session : Session α}

/-- An index of the name table is the index of an entity. -/
theorem Tracks.exists_entity
    (tracks : Tracks statements session)
    {name : Name}
    {index : Nat}
    (stored : session.names.get? name = some index) :
    ∃ placed, session.entities[index]? = some placed := by
  obtain ⟨earlier, placed, later, entities, rfl, _⟩ :=
    isGreatest_iff.1 (tracks.last name index stored)
  exact ⟨placed, by simp [entities]⟩

/-- The names of the entities are those of the declarations. -/
theorem Tracks.map_fst_declarations
    (tracks : Tracks statements session) :
    (Program.declarations statements).map Prod.fst = session.entityNames := by
  rw [← tracks.entities, List.map_map]
  rfl

/-- The names of the table are those of the declarations. -/
theorem Tracks.isSome_iff
    (tracks : Tracks statements session)
    (name : Name) :
    (session.names.get? name).isSome ↔
      name ∈ (Program.declarations statements).map Prod.fst := by
  rw [tracks.map_fst_declarations]
  exact tracks.declared name

/-- A level finds the entity that no later one has the name of. -/
theorem Tracks.find?_eq_some_iff
    (tracks : Tracks statements session)
    {name : Name}
    {placed : PlacedEntity α} :
    session.toLevel.find? name = some placed ↔
      ∃ earlier later,
        session.entities = earlier ++ placed :: later ∧
          placed.name = name ∧
          name ∉ later.map PlacedEntity.name := by
  change (session.names.get? name).bind (session.entities[·]?) = some placed ↔ _
  rw [Option.bind_eq_some_iff]
  constructor
  · rintro ⟨index, stored, isPlaced⟩
    obtain ⟨earlier, found, later, entities, rfl, isName, notLater⟩ :=
      isGreatest_iff.1 (tracks.last name index stored)
    have same : found = placed := by
      simpa [entities] using isPlaced
    subst same
    exact ⟨earlier, later, entities, isName, notLater⟩
  · rintro ⟨earlier, later, entities, isName, notLater⟩
    have isGreatest :=
      isGreatest_iff.2 ⟨earlier, placed, later, entities, rfl, isName, notLater⟩
    have isDeclared : name ∈ session.entityNames := List.mem_of_getElem? isGreatest.1
    obtain ⟨index, stored⟩ :=
      Option.isSome_iff_exists.1 ((tracks.declared name).2 isDeclared)
    have sameIndex := (tracks.last name index stored).unique isGreatest
    exact ⟨index, stored, by simp [sameIndex, entities]⟩

/-- A level finds nothing for the names that the table does not have. -/
theorem Tracks.find?_eq_none_iff
    (tracks : Tracks statements session)
    {name : Name} :
    session.toLevel.find? name = none ↔ ¬(session.names.get? name).isSome := by
  change (session.names.get? name).bind (session.entities[·]?) = none ↔ _
  cases stored : session.names.get? name with
  | none =>
      simp
  | some index =>
      obtain ⟨placed, isPlaced⟩ := tracks.exists_entity stored
      simp [isPlaced]

end Tables

/--
Every session that a run from the start passes through records the declarations of the
statements that have run, which may be the first ones of a longer program: its entities are
these declarations, each name stands for the latest of its own, and no index of the name
table is out of range.
-/
theorem recordsDeclarations_of_run
    [Scalar α]
    {registry : Registry α}
    {policy : RedeclarationPolicy}
    {statements : List (Located (Statement α))}
    {session : Session α}
    (ran : (Session.empty.run registry policy statements).outcome = .ok session) :
    RecordsDeclarations policy statements session := by
  have tracks : Tracks statements session := tracks_empty.run ran
  constructor
  · exact tracks.aliases
  · exact tracks.entities
  · intro name
    rw [← Option.isSome_iff_exists]
    exact tracks.isSome_iff name
  · intro name index stored
    obtain ⟨placed, isPlaced⟩ := tracks.exists_entity stored
    exact ⟨tracks.last name index stored, (List.getElem?_eq_some_iff.1 isPlaced).1⟩
  · intro name index stored
    obtain ⟨placed, isPlaced⟩ := tracks.exists_entity stored
    exact ⟨placed, isPlaced, lookup_eq_ok_iff.2 ⟨stored, isPlaced⟩⟩
  · rintro rfl
    have distinct := namesDistinct_empty.run tracks_empty ran
    exact ⟨distinct.nodup, distinct.size⟩
  · intro name placed
    exact tracks.find?_eq_some_iff
  · intro name
    rw [tracks.find?_eq_none_iff, tracks.isSome_iff]

/-- A short name and a name that is declared twice, in a registry of one class. -/
theorem recordsDeclarations_of_run_redeclared :
    ∃ (statements : List (Located (Statement Float))) (session : Session Float),
      statements =
          [.unplaced (.abbreviation (.unplaced ⟨"b"⟩) (.unplaced ⟨"Box"⟩)),
            .unplaced (.declaration (.unplaced ⟨"e"⟩) (.unplaced ⟨"b"⟩) []),
            .unplaced (.declaration (.unplaced ⟨"e"⟩) (.unplaced ⟨"Box"⟩) [])] ∧
        (Session.empty.run
            (Registry.empty.register
              ⟨⟨"Box"⟩, [⟨[], fun _ => .ok ⟨Transform.identity, none⟩⟩]⟩)
            .allow statements).outcome = .ok session ∧
        RecordsDeclarations .allow statements session := by
  refine ⟨_, ?session, rfl, ?ran, recordsDeclarations_of_run ?ran⟩
  case ran =>
    rfl

end Session

end LevelScript
