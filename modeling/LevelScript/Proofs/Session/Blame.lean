import LevelScript.Proofs.Construction.Failure
import LevelScript.Proofs.Session.NameTable

namespace LevelScript

/-!
# What a statement is to blame for

A statement fails for one of a few reasons, of which the first one counts. They can be read
off the statements before it: which names these declare, what short names they introduce and
what their declarations build.
-/

variable {α : Type}

/-- The name that a statement declares, if it declares one. -/
def Located.declaredName?
    (statement : Located (Statement α)) :
    Option Name :=
  match statement.value with
  | .declaration name _ _ => some name.value
  | _ => none

/-- An entity does not have the connector that a statement names. -/
inductive LacksConnector
    (connectors : Option (Connectors α))
    (entity connector : Located Name) :
    LoadError → Prop where
  | noConnectors :
      connectors = none →
      LacksConnector connectors entity connector ⟨.noConnectors entity.value, entity.span⟩
  | noConnector
      {sockets : Connectors α} :
      connectors = some sockets →
      sockets.get? connector.value = none →
      LacksConnector connectors entity connector
        ⟨.noConnector entity.value connector.value, connector.span⟩

namespace Program

/-- One of the statements declares a name. -/
def Declares
    (statements : List (Located (Statement α)))
    (name : Name) :
    Prop :=
  ∃ statement ∈ statements, statement.declaredName? = some name

/-- The names that statements declare, in order. -/
def declaredNames
    (statements : List (Located (Statement α))) :
    List Name :=
  statements.filterMap Located.declaredName?

/-- The class that a name in a declaration stands for after some statements. -/
def classAfter
    (earlier : List (Located (Statement α)))
    (className : Name) :
    Name :=
  (abbreviated? earlier className).getD className

/-- A statement declares a name, and this is the entity that it builds. -/
def DeclaresEntity
    (registry : Registry α)
    (earlier : List (Located (Statement α)))
    (statement : Located (Statement α))
    (name : Name)
    (entity : Entity α) :
    Prop :=
  match statement.value with
  | .declaration declared className arguments =>
      declared.value = name ∧
        registry.Builds (classAfter earlier className.value) (arguments.map Located.value) entity
  | _ => False

/-- The last declaration of a name builds this entity. -/
def StandsFor
    (registry : Registry α)
    (statements : List (Located (Statement α)))
    (name : Name)
    (entity : Entity α) :
    Prop :=
  ∃ earlier statement later,
    statements = earlier ++ statement :: later ∧
      DeclaresEntity registry earlier statement name entity ∧
      ¬Declares later name

/-- A statement fails after some others, with an error of this kind. -/
inductive FailsAfter
    (registry : Registry α)
    (policy : RedeclarationPolicy)
    (earlier : List (Located (Statement α))) :
    Located (Statement α) → LoadErrorKind → LoadError → Prop where
  /-- The class of an abbreviation is looked up as it is written. -/
  | abbreviation
      {short className : Located Name}
      {span : Span}
      {kind : LoadErrorKind}
      {error : LoadError} :
      registry.Unresolved className.value className.span kind error →
      FailsAfter registry policy earlier ⟨.abbreviation short className, span⟩ kind error
  /-- The name of a declaration is checked before anything else. -/
  | redeclared
      {name className : Located Name}
      {arguments : List (Located (Literal α))}
      {span : Span} :
      policy = .reject →
      Declares earlier name.value →
      FailsAfter registry policy earlier ⟨.declaration name className arguments, span⟩
        .duplicateName ⟨.alreadyDeclared name.value, name.span⟩
  | unbuilt
      {name className : Located Name}
      {arguments : List (Located (Literal α))}
      {span : Span}
      {kind : LoadErrorKind}
      {error : LoadError} :
      (policy = .reject → ¬Declares earlier name.value) →
      registry.Unbuilt (classAfter earlier className.value) (arguments.map Located.value) span
        kind error →
      FailsAfter registry policy earlier ⟨.declaration name className arguments, span⟩ kind error
  | unknownPlaced
      {name : Located Name}
      {position : Located (Vec3 α)}
      {relativeTo : Option (Located Name)}
      {span : Span} :
      ¬Declares earlier name.value →
      FailsAfter registry policy earlier ⟨.placement name position relativeTo, span⟩
        .invalidEntity ⟨.unknownEntity name.value, name.span⟩
  | unknownOrigin
      {name origin : Located Name}
      {position : Located (Vec3 α)}
      {span : Span} :
      Declares earlier name.value →
      ¬Declares earlier origin.value →
      FailsAfter registry policy earlier ⟨.placement name position (some origin), span⟩
        .invalidEntity ⟨.unknownEntity origin.value, origin.span⟩
  | unknownMoved
      {moved movedConnector base baseConnector : Located Name}
      {span : Span} :
      ¬Declares earlier moved.value →
      FailsAfter registry policy earlier
        ⟨.connection moved movedConnector base baseConnector, span⟩
        .invalidEntity ⟨.unknownEntity moved.value, moved.span⟩
  | unknownBase
      {moved movedConnector base baseConnector : Located Name}
      {span : Span} :
      Declares earlier moved.value →
      ¬Declares earlier base.value →
      FailsAfter registry policy earlier
        ⟨.connection moved movedConnector base baseConnector, span⟩
        .invalidEntity ⟨.unknownEntity base.value, base.span⟩
  /-- Connectors are looked for once both entities have been found. -/
  | movedLacks
      {moved movedConnector base baseConnector : Located Name}
      {span : Span}
      {entity : Entity α}
      {error : LoadError} :
      StandsFor registry earlier moved.value entity →
      Declares earlier base.value →
      LacksConnector entity.connectors moved movedConnector error →
      FailsAfter registry policy earlier
        ⟨.connection moved movedConnector base baseConnector, span⟩
        .incompatibleEntity error
  | baseLacks
      {moved movedConnector base baseConnector : Located Name}
      {span : Span}
      {entity reference : Entity α}
      {sockets : Connectors α}
      {socket : Connector α}
      {error : LoadError} :
      StandsFor registry earlier moved.value entity →
      entity.connectors = some sockets →
      sockets.get? movedConnector.value = some socket →
      StandsFor registry earlier base.value reference →
      LacksConnector reference.connectors base baseConnector error →
      FailsAfter registry policy earlier
        ⟨.connection moved movedConnector base baseConnector, span⟩
        .incompatibleEntity error

/-- No statement of a program fails after those before it. -/
def NoneFails
    (registry : Registry α)
    (policy : RedeclarationPolicy)
    (statements : List (Located (Statement α))) :
    Prop :=
  ∀ earlier statement later kind error,
    statements = earlier ++ statement :: later →
      ¬FailsAfter registry policy earlier statement kind error

/-- A statement is the first one of a program that fails after those before it. -/
def FailsFirst
    (registry : Registry α)
    (policy : RedeclarationPolicy)
    (statements : List (Located (Statement α)))
    (statement : Located (Statement α))
    (kind : LoadErrorKind)
    (error : LoadError) :
    Prop :=
  ∃ earlier later,
    statements = earlier ++ statement :: later ∧
      NoneFails registry policy earlier ∧
      FailsAfter registry policy earlier statement kind error

/-! ## Statements one by one -/

section Statements

variable {registry : Registry α} {statements : List (Located (Statement α))}
  {statement : Located (Statement α)} {name : Name}

theorem declares_iff_mem :
    Declares statements name ↔ name ∈ declaredNames statements :=
  List.mem_filterMap.symm

/-- The declared names are those of the declarations, whatever comes before. -/
theorem map_fst_declarationsAfter
    (earlier statements : List (Located (Statement α))) :
    (declarationsAfter earlier statements).map Prod.fst = declaredNames statements := by
  induction statements generalizing earlier with
  | nil =>
      rfl
  | cons first rest inductionHypothesis =>
      have firstIs :
          (declaration? earlier first).toList.map Prod.fst = first.declaredName?.toList := by
        obtain ⟨value, span⟩ := first
        cases value <;> rfl
      rw [declarationsAfter, List.map_append, inductionHypothesis, firstIs, declaredNames,
        declaredNames, List.filterMap_cons]
      cases first.declaredName? <;> rfl

theorem declares_concat_iff :
    Declares (statements ++ [statement]) name ↔
      Declares statements name ∨ statement.declaredName? = some name := by
  simp [Declares, or_and_right, exists_or]

/-- Only a declaration gives an entity to its name. -/
theorem DeclaresEntity.declaredName?_eq
    {entity : Entity α}
    (declares : DeclaresEntity registry statements statement name entity) :
    statement.declaredName? = some name := by
  obtain ⟨value, span⟩ := statement
  cases value with
  | declaration declared className arguments =>
      exact congrArg some declares.1
  | _ =>
      cases declares

/-- After one more statement a name stands for what this declares, or for what it did before. -/
theorem standsFor_concat_iff
    {entity : Entity α} :
    StandsFor registry (statements ++ [statement]) name entity ↔
      DeclaresEntity registry statements statement name entity ∨
        statement.declaredName? ≠ some name ∧ StandsFor registry statements name entity := by
  constructor
  · rintro ⟨earlier, declaring, later, isSplit, declares, notLater⟩
    rcases List.eq_nil_or_concat later with rfl | ⟨later, last, rfl⟩
    · obtain ⟨rfl, isLast⟩ := List.append_inj' isSplit rfl
      cases isLast
      exact Or.inl declares
    · rw [List.concat_eq_append] at isSplit notLater
      rw [← List.cons_append, ← List.append_assoc] at isSplit
      obtain ⟨rfl, isLast⟩ := List.append_inj' isSplit rfl
      cases isLast
      rw [declares_concat_iff, not_or] at notLater
      exact Or.inr ⟨notLater.2, earlier, declaring, later, rfl, declares, notLater.1⟩
  · rintro (declares | ⟨notDeclared, earlier, declaring, later, rfl, declares, notLater⟩)
    · refine ⟨statements, statement, [], rfl, declares, ?_⟩
      simp [Declares]
    · refine ⟨earlier, declaring, later ++ [statement], by simp, declares, ?_⟩
      rw [declares_concat_iff, not_or]
      exact ⟨notLater, notDeclared⟩

end Statements

/-- The kind of a failure is that of its error. -/
theorem FailsAfter.kind_eq
    {registry : Registry α}
    {policy : RedeclarationPolicy}
    {earlier : List (Located (Statement α))}
    {statement : Located (Statement α)}
    {kind : LoadErrorKind}
    {error : LoadError}
    (fails : FailsAfter registry policy earlier statement kind error) :
    error.kind = kind := by
  cases fails with
  | abbreviation unresolved =>
      exact unresolved.kind_eq.1
  | unbuilt _ unbuilt =>
      exact unbuilt.kind_eq.1
  | movedLacks _ _ lacks =>
      cases lacks <;> rfl
  | baseLacks _ _ _ _ lacks =>
      cases lacks <;> rfl
  | _ =>
      rfl

end Program

end LevelScript
