import LevelScript.Proofs.Grammar.Spans
import LevelScript.Proofs.Loader.Sources
import LevelScript.Proofs.Session.Failure

namespace LevelScript

/-!
# Errors of loading

A source that parses fails to load exactly if one of its statements fails after those before
it. The error is that of the first such statement, and points into it: at the whole of it or
at the name that is to blame.
-/

/-- An error points at a statement in a source, or at one of the names in it. -/
structure LoadError.PointsInto
    (error : LoadError)
    (statement : Located (Statement Float))
    (source : String) :
    Prop where
  place :
    error.span = statement.span ∨
      ∃ name ∈ statement.value.names, name.IsSpelledIn source ∧ error.span = name.span
  isWithin : error.span.Within statement.span
  isValid : error.span.IsValidIn source

/-- An entity lacks a connector, which is blamed on its name or on that of the connector. -/
theorem LacksConnector.span_eq
    {connectors : Option (Connectors α)}
    {entity connector : Located Name}
    {error : LoadError}
    (lacks : LacksConnector connectors entity connector error) :
    error.span = entity.span ∨ error.span = connector.span := by
  cases lacks with
  | noConnectors _ =>
      exact Or.inl rfl
  | noConnector _ _ =>
      exact Or.inr rfl

/-- A failure is blamed on the whole statement or on one of its names. -/
theorem Program.FailsAfter.span_eq
    {registry : Registry α}
    {policy : RedeclarationPolicy}
    {earlier : List (Located (Statement α))}
    {statement : Located (Statement α)}
    {kind : LoadErrorKind}
    {error : LoadError}
    (fails : FailsAfter registry policy earlier statement kind error) :
    error.span = statement.span ∨ ∃ name ∈ statement.value.names, error.span = name.span := by
  cases fails with
  | abbreviation unresolved =>
      exact Or.inr ⟨_, by simp [Statement.names], unresolved.kind_eq.2⟩
  | unbuilt _ unbuilt =>
      exact Or.inl unbuilt.kind_eq.2
  | movedLacks _ _ lacks =>
      rcases lacks.span_eq with isEntity | isConnector
      · exact Or.inr ⟨_, by simp [Statement.names], isEntity⟩
      · exact Or.inr ⟨_, by simp [Statement.names], isConnector⟩
  | baseLacks _ _ _ _ lacks =>
      rcases lacks.span_eq with isEntity | isConnector
      · exact Or.inr ⟨_, by simp [Statement.names], isEntity⟩
      · exact Or.inr ⟨_, by simp [Statement.names], isConnector⟩
  | _ =>
      exact Or.inr ⟨_, by simp [Statement.names], rfl⟩

/-- What a statement of a source is blamed for is found within it. -/
theorem LoadError.pointsInto_of_failsAfter
    {registry : Registry Float}
    {policy : RedeclarationPolicy}
    {earlier : List (Located (Statement Float))}
    {statement : Located (Statement Float)}
    {kind : LoadErrorKind}
    {error : LoadError}
    {source : String}
    (fails : Program.FailsAfter registry policy earlier statement kind error)
    (stands : statement.StandsIn source) :
    error.PointsInto statement source := by
  rcases fails.span_eq with isWhole | ⟨name, isName, isPlace⟩
  · constructor
    · exact Or.inl isWhole
    · rw [isWhole]
      exact ⟨Nat.le_refl _, Nat.le_refl _⟩
    · rw [isWhole]
      exact stands.isValid
  · constructor
    · exact Or.inr ⟨name, isName, stands.nameIsSpelled name isName, isPlace⟩
    · rw [isPlace]
      exact stands.nameIsWithin name isName
    · rw [isPlace]
      exact stands.nameIsValid name isName

namespace Loader

/--
A source that parses fails to load exactly if some statement is the first one that fails
after those before it. The error is then that statement's, of the kind that its cause has,
and points at the statement or at one of its names, between two characters of the source.
-/
theorem loadSource_eq_error_iff
    (loader : Loader)
    {source : String}
    {statements : List (Located (Statement Float))}
    (parsed : Program.parse source = .ok statements)
    (error : LevelError) :
    (loader.loadSource source).outcome = .error error ↔
      ∃ statement kind cause,
        error = .load cause source ∧
          Program.FailsFirst loader.registry loader.policy statements statement kind cause ∧
          cause.kind = kind ∧
          cause.PointsInto statement source := by
  have stops : ∀ cause,
      (loader.runStatements statements).outcome = .error cause ↔
        ∃ statement kind,
          Program.FailsFirst loader.registry loader.policy statements statement kind cause := by
    intro cause
    rw [runStatements, Level.outcome_ofStatements, ← Session.run_empty_eq_error_iff,
      Outcome.bind_eq_error_iff]
    simp
  rw [loader.outcome_loadSource parsed, Outcome.mapError_eq_error_iff]
  constructor
  · rintro ⟨cause, failed, rfl⟩
    obtain ⟨statement, kind, earlier, later, isSplit, noneFails, fails⟩ :=
      (stops cause).1 failed
    have member : statement ∈ statements := by
      simp [isSplit]
    have pointsInto :=
      LoadError.pointsInto_of_failsAfter fails (Program.standsIn_of_parse parsed member)
    exact
      ⟨statement, kind, cause, rfl, ⟨earlier, later, isSplit, noneFails, fails⟩, fails.kind_eq,
        pointsInto⟩
  · rintro ⟨statement, kind, cause, rfl, failsFirst, _, _⟩
    exact ⟨cause, (stops cause).2 ⟨statement, kind, failsFirst⟩, rfl⟩

/-- A name is declared again, which counts before its class that is not registered. -/
theorem loadSource_eq_error_iff_redeclared :
    ∃ statements statement kind cause,
      Program.parse "let a be b(), a be c()" = .ok statements ∧
        (loadSource
            ⟨Registry.empty.register ⟨⟨"b"⟩, [⟨[], fun _ => .ok ⟨Transform.identity, none⟩⟩]⟩,
              .reject⟩
            "let a be b(), a be c()").outcome =
          .error (.load cause "let a be b(), a be c()") ∧
        cause = ⟨.alreadyDeclared ⟨"a"⟩, Span.ofWidth 14 1⟩ ∧
        Program.FailsFirst
          (Registry.empty.register ⟨⟨"b"⟩, [⟨[], fun _ => .ok ⟨Transform.identity, none⟩⟩]⟩)
          .reject statements statement kind cause ∧
        cause.kind = kind ∧
        cause.PointsInto statement "let a be b(), a be c()" := by
  have parsed :
      Program.parse "let a be b(), a be c()" =
        .ok
          [⟨.declaration ⟨⟨"a"⟩, Span.ofWidth 4 1⟩ ⟨⟨"b"⟩, Span.ofWidth 9 1⟩ [],
              Span.ofWidth 4 8⟩,
            ⟨.declaration ⟨⟨"a"⟩, Span.ofWidth 14 1⟩ ⟨⟨"c"⟩, Span.ofWidth 19 1⟩ [],
              Span.ofWidth 14 8⟩] := by
    decide +kernel
  have failed :
      (loadSource
          ⟨Registry.empty.register ⟨⟨"b"⟩, [⟨[], fun _ => .ok ⟨Transform.identity, none⟩⟩]⟩,
            .reject⟩
          "let a be b(), a be c()").outcome =
        .error
          (.load ⟨.alreadyDeclared ⟨"a"⟩, Span.ofWidth 14 1⟩ "let a be b(), a be c()") := by
    rw [outcome_loadSource _ parsed]
    rfl
  obtain ⟨statement, kind, cause, isLoad, failsFirst, isKind, pointsInto⟩ :=
    (loadSource_eq_error_iff _ parsed _).1 failed
  cases isLoad
  exact ⟨_, statement, kind, _, parsed, failed, rfl, failsFirst, isKind, pointsInto⟩

end Loader

end LevelScript
