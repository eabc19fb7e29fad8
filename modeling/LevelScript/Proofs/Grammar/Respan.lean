import LevelScript.Grammar.Program

namespace LevelScript

/-!
# Moving spans

The grammar looks at the words of a program and not at their places. When every span is
moved in a way that is compatible with the union of spans, the same statements are read at
the moved places, and the same mistake is found.
-/

/-- The smallest span that covers two spans is moved to the one that covers both moved ones. -/
def Span.PreservesUnion
    (move : Span → Span) :
    Prop :=
  ∀ first second : Span, move (first.union second) = (move first).union (move second)

theorem Span.preservesUnion_origin :
    PreservesUnion (fun _ => origin) := by
  intro first second
  rfl

/-! ## Moving the spans of what is read -/

/-- The same value at the moved place. -/
def Located.respan
    (move : Span → Span)
    (located : Located α) :
    Located α where
  value := located.value
  span := move located.span

/-- With all places moved to the origin only the values are left. -/
theorem Located.map_respan_origin
    (row : List (Located α)) :
    row.map (respan fun _ => Span.origin) = (row.map value).map unplaced := by
  rw [List.map_map]
  rfl

namespace Statement

/-- The same statement with every place in it moved. -/
def respan
    (move : Span → Span) :
    Statement α →
    Statement α
  | .abbreviation short className =>
      .abbreviation (short.respan move) (className.respan move)
  | .declaration name className arguments =>
      .declaration (name.respan move) (className.respan move)
        (arguments.map (Located.respan move))
  | .placement name position relativeTo =>
      .placement (name.respan move) (position.respan move)
        (relativeTo.map (Located.respan move))
  | .connection moved movedConnector base baseConnector =>
      .connection (moved.respan move) (movedConnector.respan move) (base.respan move)
        (baseConnector.respan move)

/-- The statement without any places. -/
def unplaced
    (statement : Statement α) :
    Statement α :=
  statement.respan fun _ => Span.origin

/-- Places that are moved twice are moved by the composition. -/
theorem respan_respan
    (first second : Span → Span)
    (statement : Statement α) :
    (statement.respan first).respan second =
      statement.respan fun span => second (first span) := by
  cases statement with
  | declaration name className arguments =>
      simp [respan, Located.respan]
  | placement name position relativeTo =>
      cases relativeTo <;> rfl
  | _ =>
      rfl

@[simp] theorem unplaced_respan
    (move : Span → Span)
    (statement : Statement α) :
    (statement.respan move).unplaced = statement.unplaced :=
  respan_respan move _ statement

@[simp] theorem unplaced_unplaced
    (statement : Statement α) :
    statement.unplaced.unplaced = statement.unplaced :=
  unplaced_respan _ statement

@[simp] theorem kind_respan
    (move : Span → Span)
    (statement : Statement α) :
    (statement.respan move).kind = statement.kind := by
  cases statement <;> rfl

@[simp] theorem kind_unplaced
    (statement : Statement α) :
    statement.unplaced.kind = statement.kind :=
  kind_respan _ statement

end Statement

/-- The same statement, moved together with every place in it. -/
def Located.respanStatement
    (move : Span → Span)
    (statement : Located (Statement α)) :
    Located (Statement α) where
  value := statement.value.respan move
  span := move statement.span

/-- The same declaration at the moved places. -/
def OpenDeclaration.respan
    (move : Span → Span)
    (declaration : OpenDeclaration) :
    OpenDeclaration where
  name := declaration.name.respan move
  className := declaration.className.respan move
  opening := move declaration.opening
  arguments := declaration.arguments.map (Located.respan move)

/-- The same place of a program whose spans are moved. -/
def Place.respan
    (move : Span → Span) :
    Place →
    Place
  | .outside => .outside
  | .complete statement => .complete (statement.respanStatement move)
  | .opened kind => .opened kind
  | .abbreviationName short => .abbreviationName (short.respan move)
  | .abbreviationAs short => .abbreviationAs (short.respan move)
  | .abbreviationClass short className =>
      .abbreviationClass (short.respan move) (className.respan move)
  | .abbreviationDot short className =>
      .abbreviationDot (short.respan move) (className.respan move)
  | .declarationName name => .declarationName (name.respan move)
  | .declarationBe name => .declarationBe (name.respan move)
  | .declarationClass name className =>
      .declarationClass (name.respan move) (className.respan move)
  | .declarationDot name className =>
      .declarationDot (name.respan move) (className.respan move)
  | .argumentsOpened declaration => .argumentsOpened (declaration.respan move)
  | .argumentsComma declaration => .argumentsComma (declaration.respan move)
  | .argumentRead declaration => .argumentRead (declaration.respan move)
  | .argumentVector declaration opening vector =>
      .argumentVector (declaration.respan move) (move opening) vector
  | .placementName name => .placementName (name.respan move)
  | .placementAt name => .placementAt (name.respan move)
  | .placementVector name opening vector =>
      .placementVector (name.respan move) (move opening) vector
  | .placementPosition name position =>
      .placementPosition (name.respan move) (position.respan move)
  | .placementFrom name position =>
      .placementFrom (name.respan move) (position.respan move)
  | .connectionMoved moved => .connectionMoved (moved.respan move)
  | .connectionMovedDot moved => .connectionMovedDot (moved.respan move)
  | .connectionMovedConnector moved movedConnector =>
      .connectionMovedConnector (moved.respan move) (movedConnector.respan move)
  | .connectionTo moved movedConnector =>
      .connectionTo (moved.respan move) (movedConnector.respan move)
  | .connectionBase moved movedConnector base =>
      .connectionBase (moved.respan move) (movedConnector.respan move) (base.respan move)
  | .connectionBaseDot moved movedConnector base =>
      .connectionBaseDot (moved.respan move) (movedConnector.respan move) (base.respan move)

/-- The same mistake at the moved place. -/
def Mistake.respan
    (move : Span → Span)
    (mistake : Mistake) :
    Mistake where
  place := mistake.place.respan move
  found := mistake.found.map (Located.respan move)

/-! ## Reading at the moved places -/

variable {move : Span → Span}

theorem Located.respan_extendName
    (preserves : Span.PreservesUnion move)
    (parent inner : Located Name) :
    (parent.extendName inner).respan move =
      (parent.respan move).extendName (inner.respan move) := by
  simp only [extendName, respan, preserves parent.span inner.span]

namespace OpenDeclaration

theorem respan_push
    (declaration : OpenDeclaration)
    (argument : Located (Literal Float)) :
    (declaration.push argument).respan move =
      (declaration.respan move).push (argument.respan move) := by
  simp [respan, push]

theorem respan_close
    (preserves : Span.PreservesUnion move)
    (declaration : OpenDeclaration)
    (closing : Span) :
    (declaration.close closing).respanStatement move =
      (declaration.respan move).close (move closing) := by
  simp only [close, Located.respanStatement, Statement.respan, respan, preserves _ _,
    Located.respan]

end OpenDeclaration

namespace Place

theorem argument?_respan
    (declaration : OpenDeclaration)
    (token : Located Token) :
    argument? (declaration.respan move) (token.respan move) =
      (argument? declaration token).map (respan move) := by
  obtain ⟨value, span⟩ := token
  cases value <;>
    simp only [argument?, Located.respan, Option.map_some, Option.map_none, respan,
      OpenDeclaration.respan_push]

theorem vector?_respan
    (preserves : Span.PreservesUnion move)
    (within movedWithin : VectorPlace → Place)
    (closed movedClosed : Located (Vec3 Float) → Place)
    (withinMoves : ∀ vector, (within vector).respan move = movedWithin vector)
    (closedMoves : ∀ value, (closed value).respan move = movedClosed (value.respan move))
    (opening : Span)
    (vector : VectorPlace)
    (token : Located Token) :
    vector? movedWithin movedClosed (move opening) vector (token.respan move) =
      (vector? within closed opening vector token).map (respan move) := by
  have sameValue : (token.respan move).value = token.value := rfl
  unfold vector?
  rw [sameValue]
  cases vector.extend? token.value with
  | some next =>
      simp only [Option.map_some, withinMoves]
  | none =>
      cases vector.close? token.value with
      | none =>
          rfl
      | some value =>
          simp only [Option.map_some, closedMoves, Located.respan, preserves _ _]

theorem respan_ofName
    (kind : StatementKind)
    (name : Located Name) :
    (ofName kind name).respan move = ofName kind (name.respan move) := by
  cases kind <;> rfl

/-- A token extends the moved statement as it extends the statement. -/
theorem extend?_respan
    (preserves : Span.PreservesUnion move)
    (place : Place)
    (token : Located Token) :
    (place.respan move).extend? (token.respan move) =
      (place.extend? token).map (respan move) := by
  cases place with
  | argumentsComma declaration =>
      exact argument?_respan declaration token
  | argumentVector declaration opening vector =>
      refine
        vector?_respan preserves (argumentVector declaration opening)
          (argumentVector (declaration.respan move) (move opening))
          (fun value => argumentRead (declaration.push (value.map .vector)))
          (fun value => argumentRead ((declaration.respan move).push (value.map .vector)))
          (fun _ => rfl) ?_ opening vector token
      intro value
      simp only [respan, OpenDeclaration.respan_push]
      rfl
  | placementVector name opening vector =>
      exact
        vector?_respan preserves (placementVector name opening)
          (placementVector (name.respan move) (move opening)) (placementPosition name)
          (placementPosition (name.respan move)) (fun _ => rfl) (fun _ => rfl) opening vector
          token
  | argumentsOpened declaration =>
      have argumentMoves := @argument?_respan move declaration token
      obtain ⟨value, span⟩ := token
      cases value with
      | rightParenthesis =>
          exact congrArg (some ∘ Place.complete)
            (OpenDeclaration.respan_close preserves declaration span).symm
      | _ =>
          exact argumentMoves
  | argumentRead declaration =>
      obtain ⟨value, span⟩ := token
      cases value with
      | rightParenthesis =>
          exact congrArg (some ∘ Place.complete)
            (OpenDeclaration.respan_close preserves declaration span).symm
      | _ =>
          rfl
  | opened kind =>
      obtain ⟨value, span⟩ := token
      cases value with
      | identifier text =>
          exact congrArg some (respan_ofName kind ⟨⟨text⟩, span⟩).symm
      | _ =>
          rfl
  | abbreviationDot short className =>
      obtain ⟨value, span⟩ := token
      cases value with
      | identifier text =>
          exact congrArg (some ∘ Place.abbreviationClass _)
            (Located.respan_extendName preserves className ⟨⟨text⟩, span⟩).symm
      | _ =>
          rfl
  | declarationDot name className =>
      obtain ⟨value, span⟩ := token
      cases value with
      | identifier text =>
          exact congrArg (some ∘ Place.declarationClass _)
            (Located.respan_extendName preserves className ⟨⟨text⟩, span⟩).symm
      | _ =>
          rfl
  | placementFrom name position =>
      obtain ⟨value, span⟩ := token
      cases value with
      | identifier text =>
          simp only [extend?, respan, Located.respan, Token.name?, Option.map_some,
            Located.respanStatement, Statement.respan, preserves _ _]
      | _ =>
          rfl
  | connectionBaseDot moved movedConnector base =>
      obtain ⟨value, span⟩ := token
      cases value with
      | identifier text =>
          simp only [extend?, respan, Located.respan, Token.name?, Option.map_some,
            Located.respanStatement, Statement.respan, preserves _ _]
      | _ =>
          rfl
  | _ =>
      obtain ⟨value, span⟩ := token
      cases value with
      | keyword word =>
          cases word <;> rfl
      | _ =>
          rfl

theorem statement?_respan
    (preserves : Span.PreservesUnion move)
    (place : Place) :
    (place.respan move).statement? = place.statement?.map (Located.respanStatement move) := by
  cases place <;>
    simp only [statement?, respan, Option.map_some, Option.map_none, Located.respanStatement,
      Statement.respan, Located.respan, preserves _ _]

/-- Within a block the program ends where a statement may end. -/
theorem ending?_of_ne_outside
    {place : Place}
    (inside : place ≠ .outside) :
    place.ending? = place.statement?.map ([·]) := by
  cases place with
  | outside =>
      exact (inside rfl).elim
  | _ =>
      rfl

theorem ending?_respan
    (preserves : Span.PreservesUnion move)
    (place : Place) :
    (place.respan move).ending? =
      place.ending?.map (List.map (Located.respanStatement move)) := by
  have statementMoves := statement?_respan preserves place
  cases place with
  | outside =>
      rfl
  | _ =>
      rw [ending?_of_ne_outside (by simp [respan]), ending?_of_ne_outside (by simp),
        statementMoves, Option.map_map, Option.map_map]
      rfl

theorem reopen?_respan
    (preserves : Span.PreservesUnion move)
    (place : Place)
    (token : Token) :
    (place.respan move).reopen? token =
      (place.reopen? token).map fun (statements, next) =>
        (statements.map (Located.respanStatement move), next.respan move) := by
  have statementMoves := statement?_respan preserves place
  have endingMoves := ending?_respan preserves place
  by_cases comma : token = .comma
  · subst comma
    simp only [reopen?, statementMoves]
    cases place.statement? with
    | none =>
        rfl
    | some statement =>
        simp [Located.respanStatement, respan]
  · have reopened : ∀ other : Place,
        other.reopen? token =
          other.ending?.bind fun statements =>
            token.block?.map fun kind => (statements, .opened kind) := by
      intro other
      unfold reopen?
      split
      · exact (comma rfl).elim
      · cases other.ending? <;> cases token.block? <;> rfl
    rw [reopened, reopened, endingMoves]
    cases place.ending? <;> cases token.block? <;> rfl

end Place

namespace Program

/-- The statements without any places: their words, names, strings and numbers. -/
def unplaced
    (statements : List (Located (Statement α))) :
    List (Statement α) :=
  statements.map fun statement => statement.value.unplaced

@[simp] theorem unplaced_nil :
    unplaced ([] : List (Located (Statement α))) = [] :=
  rfl

@[simp] theorem unplaced_cons
    (statement : Located (Statement α))
    (rest : List (Located (Statement α))) :
    unplaced (statement :: rest) = statement.value.unplaced :: unplaced rest :=
  rfl

/-- The statements or the mistake of a program whose spans are moved. -/
def respanOutcome
    (move : Span → Span) :
    Except Mistake (List (Located (Statement Float))) →
    Except Mistake (List (Located (Statement Float)))
  | .ok statements => .ok (statements.map (Located.respanStatement move))
  | .error mistake => .error (mistake.respan move)

/-- Only statements that were read are moved to statements. -/
theorem exists_of_respanOutcome_eq_ok
    {outcome : Except Mistake (List (Located (Statement Float)))}
    {statements : List (Located (Statement Float))}
    (moved : respanOutcome move outcome = .ok statements) :
    ∃ unmoved, outcome = .ok unmoved ∧ unmoved.map (Located.respanStatement move) = statements := by
  cases outcome with
  | ok unmoved =>
      exact ⟨unmoved, rfl, Except.ok.inj moved⟩
  | error mistake =>
      cases moved

/-- Reading goes the same way when all spans are moved. -/
theorem read_respan
    (preserves : Span.PreservesUnion move)
    (place : Place)
    (tokens : List (Located Token)) :
    read (place.respan move) (tokens.map (Located.respan move)) =
      respanOutcome move (read place tokens) := by
  induction tokens generalizing place with
  | nil =>
      rw [List.map_nil, read, read, Place.ending?_respan preserves]
      cases place.ending? <;> rfl
  | cons token rest inductionHypothesis =>
      rw [List.map_cons, read, read, Place.extend?_respan preserves]
      cases place.extend? token with
      | some next =>
          exact inductionHypothesis next
      | none =>
          have sameValue : (token.respan move).value = token.value := rfl
          have reopenMoves := Place.reopen?_respan preserves place token.value
          simp only [Option.map_none, sameValue, reopenMoves]
          cases place.reopen? token.value with
          | none =>
              rfl
          | some reopened =>
              obtain ⟨statements, next⟩ := reopened
              simp only [Option.map_some, inductionHypothesis next]
              cases read next rest with
              | ok further =>
                  simp [respanOutcome, Except.map]
              | error mistake =>
                  rfl

/-- Moved tokens are as significant as they were. -/
theorem significant_respan
    (move : Span → Span)
    (tokens : List (Located Token)) :
    significant (tokens.map (Located.respan move)) =
      (significant tokens).map (Located.respan move) := by
  unfold significant
  rw [List.filter_map]
  rfl

/-- The statements of a row of tokens are the same when all spans are moved. -/
theorem ofTokens_respan
    (preserves : Span.PreservesUnion move)
    (tokens : List (Located Token)) :
    ofTokens (tokens.map (Located.respan move)) = respanOutcome move (ofTokens tokens) := by
  unfold ofTokens
  rw [significant_respan]
  exact read_respan preserves .outside (significant tokens)

/-! ## Reading without the places -/

section Values

variable {tokens others : List (Located Token)}

/-- Tokens with the same values are read alike, up to the places. -/
theorem respanOutcome_read_of_values
    (sameValues : others.map Located.value = tokens.map Located.value) :
    respanOutcome (fun _ => Span.origin) (read .outside others) =
      respanOutcome (fun _ => Span.origin) (read .outside tokens) := by
  rw [← read_respan Span.preservesUnion_origin, ← read_respan Span.preservesUnion_origin,
    Located.map_respan_origin, Located.map_respan_origin, sameValues]

/-- Tokens with the values of a program are read as the same program at other places. -/
theorem exists_read_of_values
    (sameValues : others.map Located.value = tokens.map Located.value)
    {statements : List (Located (Statement Float))}
    (accepted : read .outside tokens = .ok statements) :
    ∃ reread, read .outside others = .ok reread ∧ unplaced reread = unplaced statements := by
  have sameOutcome := respanOutcome_read_of_values sameValues
  rw [accepted] at sameOutcome
  obtain ⟨reread, rereadAccepted, same⟩ := exists_of_respanOutcome_eq_ok sameOutcome
  have sameStatements := congrArg (List.map Located.value) same
  simp only [List.map_map] at sameStatements
  exact ⟨reread, rereadAccepted, sameStatements⟩

/-- Tokens with the values of no program hold the same mistake at other places. -/
theorem exists_mistake_of_values
    (sameValues : others.map Located.value = tokens.map Located.value)
    {mistake : Mistake}
    (rejected : read .outside tokens = .error mistake) :
    ∃ other,
      read .outside others = .error other ∧
        other.respan (fun _ => Span.origin) = mistake.respan fun _ => Span.origin := by
  have sameOutcome := respanOutcome_read_of_values sameValues
  rw [rejected] at sameOutcome
  cases outcome : read .outside others with
  | error other =>
      rw [outcome] at sameOutcome
      exact ⟨other, rfl, Except.error.inj sameOutcome⟩
  | ok reread =>
      rw [outcome] at sameOutcome
      cases sameOutcome

end Values

end Program

end LevelScript
