import LevelScript.Proofs.Grammar.Derivation

namespace LevelScript

open Program (read)

/-!
# Reading a derivation

The tokens of a derivation are read one rule at a time. Each rule leads from the place where
it starts to the place where it ends, whatever comes after it.
-/

/-! ## Single tokens -/

namespace Program

/-- A token that extends the statement leads to the next place. -/
theorem read_of_extend?
    {place : Place}
    {token : Located Token}
    (next : Place)
    (extended : place.extend? token = some next)
    (rest : List (Located Token)) :
    read place (token :: rest) = read next rest := by
  rw [read, extended]

end Program

@[simp] theorem StatementKind.block?_word
    (kind : StatementKind) :
    (Token.keyword kind.word).block? = some kind := by
  cases kind <;> rfl

/-- A block is opened by the keyword of its kind only. -/
theorem Token.eq_word_of_block?
    {token : Token}
    {kind : StatementKind}
    (opens : token.block? = some kind) :
    token = .keyword kind.word := by
  cases token with
  | keyword word =>
      cases word <;> cases opens <;> rfl
  | _ =>
      cases opens

namespace Place

/-- A statement that may end here is not extended by a comma or by the next block. -/
theorem extend?_eq_none_of_ending?
    {place : Place}
    {statements : List (Located (Statement Float))}
    (ends : place.ending? = some statements)
    {token : Located Token}
    (separates : token.value = .comma ∨ (token.value.block?).isSome) :
    place.extend? token = none := by
  obtain ⟨value, span⟩ := token
  cases place with
  | outside =>
      rfl
  | complete =>
      rfl
  | abbreviationClass =>
      rcases separates with rfl | opens
      · rfl
      · cases value with
        | dot =>
            cases opens
        | _ =>
            rfl
  | placementPosition =>
      rcases separates with rfl | opens
      · rfl
      · cases value with
        | keyword word =>
            cases word with
            | fromWord =>
                cases opens
            | _ =>
                rfl
        | _ =>
            rfl
  | _ =>
      cases ends

/-- What does not close the declaration at once starts its first argument. -/
theorem extend?_argumentsOpened
    (declaration : OpenDeclaration)
    (token : Located Token)
    (noClosing : token.value ≠ .rightParenthesis) :
    (argumentsOpened declaration).extend? token = argument? declaration token := by
  obtain ⟨value, span⟩ := token
  cases value with
  | rightParenthesis =>
      exact (noClosing rfl).elim
  | _ =>
      rfl

theorem ending?_of_statement?
    {place : Place}
    {statement : Located (Statement Float)}
    (ends : place.statement? = some statement) :
    place.ending? = some [statement] := by
  cases place with
  | outside =>
      cases ends
  | _ =>
      simp only [ending?, ends, Option.map_some]

end Place

namespace Program

/-- A comma after a whole statement leads to the next one of its kind. -/
theorem read_comma
    {place : Place}
    {statement : Located (Statement Float)}
    (ends : place.statement? = some statement)
    (span : Span)
    (rest : List (Located Token)) :
    read place (⟨.comma, span⟩ :: rest) =
      (read (.opened statement.value.kind) rest).map ([statement] ++ ·) := by
  have notExtended : place.extend? ⟨.comma, span⟩ = none :=
    Place.extend?_eq_none_of_ending? (Place.ending?_of_statement? ends) (Or.inl rfl)
  rw [read, notExtended]
  simp only [Place.reopen?, ends, Option.map_some]

/-- The keyword of a block ends the statement before it. -/
theorem read_word
    {place : Place}
    (before : List (Located (Statement Float)))
    (ends : place.ending? = some before)
    (kind : StatementKind)
    (span : Span)
    (rest : List (Located Token)) :
    read place (⟨.keyword kind.word, span⟩ :: rest) =
      (read (.opened kind) rest).map (before ++ ·) := by
  have notExtended : place.extend? ⟨.keyword kind.word, span⟩ = none :=
    Place.extend?_eq_none_of_ending? ends (Or.inr (by simp))
  rw [read, notExtended]
  simp only [Place.reopen?, ends, StatementKind.block?_word]

end Program

/-! ## Rules within a statement -/

theorem DottedTree.read_restTokens
    {within dotted : Located Name → Place}
    (dotExtends : ∀ name span, (within name).extend? ⟨.dot, span⟩ = some (dotted name))
    (segmentExtends : ∀ name inner : Located Name,
      (dotted name).extend? inner.nameToken = some (within (name.extendName inner)))
    (first : Located Name)
    (rest : List (Span × Located Name))
    (tail : List (Located Token)) :
    read (within first) (Separated.restTokens .dot segmentTokens rest ++ tail) =
      read (within (extended first rest)) tail := by
  induction rest generalizing first with
  | nil =>
      rfl
  | cons segment rest inductionHypothesis =>
      obtain ⟨span, inner⟩ := segment
      rw [Separated.restTokens_cons, List.cons_append,
        Program.read_of_extend? _ (dotExtends _ _), segmentTokens, List.singleton_append,
        List.cons_append, Program.read_of_extend? _ (segmentExtends _ _), inductionHypothesis]
      rfl

/-- A dotted name is read after the token in front of it. -/
theorem DottedTree.read_tokens
    {before : Place}
    (within dotted : Located Name → Place)
    (firstExtends : ∀ name : Located Name, before.extend? name.nameToken = some (within name))
    (dotExtends : ∀ name span, (within name).extend? ⟨.dot, span⟩ = some (dotted name))
    (segmentExtends : ∀ name inner : Located Name,
      (dotted name).extend? inner.nameToken = some (within (name.extendName inner)))
    (name : DottedTree)
    (tail : List (Located Token)) :
    read before (name.tokens ++ tail) = read (within name.joined) tail := by
  unfold DottedTree.tokens Separated.tokens DottedTree.segmentTokens
  rw [List.append_assoc, List.singleton_append, Program.read_of_extend? _ (firstExtends _)]
  exact read_restTokens dotExtends segmentExtends name.first name.rest tail

/-- A vector is read after its opening parenthesis. -/
theorem VectorTree.read_innerTokens
    (vector : VectorTree)
    (within : VectorPlace → Place)
    (closed : Located (Vec3 Float) → Place)
    (vectorExtends : ∀ place token,
      (within place).extend? token =
        Place.vector? within closed vector.opening place token)
    (tail : List (Located Token)) :
    read (within .opened) (vector.innerTokens ++ tail) = read (closed vector.value) tail := by
  let x := vector.x.value
  let y := vector.y.value
  let z := vector.z.value
  unfold VectorTree.innerTokens
  simp only [List.cons_append, List.nil_append]
  rw [Program.read_of_extend? (within (.afterX x)) (vectorExtends _ _),
    Program.read_of_extend? (within (.beforeY x)) (vectorExtends _ _),
    Program.read_of_extend? (within (.afterY x y)) (vectorExtends _ _),
    Program.read_of_extend? (within (.beforeZ x y)) (vectorExtends _ _),
    Program.read_of_extend? (within (.afterZ ⟨x, y, z⟩)) (vectorExtends _ _),
    Program.read_of_extend? (closed vector.value) (vectorExtends _ _)]

/-- An argument is read where a value is expected. -/
theorem LiteralTree.read_tokens
    {before : Place}
    {declaration : OpenDeclaration}
    (literal : LiteralTree)
    (argumentExtends : ∀ token,
      token.value ≠ .rightParenthesis →
        before.extend? token = Place.argument? declaration token)
    (tail : List (Located Token)) :
    read before (literal.tokens ++ tail) =
      read (.argumentRead (declaration.push literal.value)) tail := by
  cases literal with
  | string text =>
      exact Program.read_of_extend? _ (argumentExtends _ (by simp)) tail
  | number value =>
      exact Program.read_of_extend? _ (argumentExtends _ (by simp)) tail
  | vector vector =>
      change read before (⟨.leftParenthesis, vector.opening⟩ :: (vector.innerTokens ++ tail)) = _
      rw [Program.read_of_extend? _ (argumentExtends _ (by simp))]
      exact vector.read_innerTokens (.argumentVector declaration vector.opening)
        (fun value => .argumentRead (declaration.push (value.map .vector)))
        (fun _ _ => rfl) tail

namespace OpenDeclaration

/-- The declaration with more arguments. -/
def pushAll
    (declaration : OpenDeclaration)
    (arguments : List (Located (Literal Float))) :
    OpenDeclaration :=
  { declaration with arguments := declaration.arguments ++ arguments }

@[simp] theorem pushAll_nil
    (declaration : OpenDeclaration) :
    declaration.pushAll [] = declaration := by
  simp [pushAll]

@[simp] theorem pushAll_push
    (declaration : OpenDeclaration)
    (argument : Located (Literal Float))
    (arguments : List (Located (Literal Float))) :
    (declaration.push argument).pushAll arguments =
      declaration.pushAll (argument :: arguments) := by
  simp [pushAll, push]

end OpenDeclaration

theorem LiteralTree.read_restTokens
    (declaration : OpenDeclaration)
    (rest : List (Span × LiteralTree))
    (tail : List (Located Token)) :
    read (.argumentRead declaration)
        (Separated.restTokens .comma LiteralTree.tokens rest ++ tail) =
      read
        (.argumentRead (declaration.pushAll (rest.map fun argument => argument.2.value)))
        tail := by
  induction rest generalizing declaration with
  | nil =>
      simp
  | cons argument rest inductionHypothesis =>
      obtain ⟨span, literal⟩ := argument
      rw [Separated.restTokens_cons, List.cons_append, List.append_assoc,
        Program.read_of_extend? (.argumentsComma declaration) rfl,
        literal.read_tokens (fun _ _ => rfl), inductionHypothesis]
      simp

private theorem extend?_argumentRead_closing
    (declaration : OpenDeclaration)
    (closing : Span) :
    (Place.argumentRead declaration).extend? ⟨.rightParenthesis, closing⟩ =
      some (.complete (declaration.close closing)) :=
  rfl

/-- The arguments of a declaration are read up to the closing parenthesis. -/
theorem PairTree.read_argumentTokens
    (declaration : OpenDeclaration)
    (arguments : Option (Separated LiteralTree))
    (closing : Span)
    (tail : List (Located Token)) :
    read (.argumentsOpened declaration)
        (argumentTokens arguments ++ ⟨.rightParenthesis, closing⟩ :: tail) =
      read (.complete ((declaration.pushAll (argumentValues arguments)).close closing))
        tail := by
  cases arguments with
  | none =>
      rw [argumentTokens, argumentValues, OpenDeclaration.pushAll_nil, List.nil_append]
      exact Program.read_of_extend? _ rfl tail
  | some arguments =>
      rw [argumentTokens, argumentValues, Separated.tokens, List.append_assoc,
        arguments.first.read_tokens (Place.extend?_argumentsOpened declaration),
        LiteralTree.read_restTokens,
        OpenDeclaration.pushAll_push,
        Program.read_of_extend? _ (extend?_argumentRead_closing _ _)]
      simp [Separated.items, Function.comp_def]

/-! ## Statements -/

namespace PairTree

/-- The place where a statement ends. -/
def final :
    PairTree kind →
    Place
  | .abbreviation short _ className => .abbreviationClass short className.joined
  | .placement name _ position none => .placementPosition name position.value
  | pair => .complete pair.statement

theorem statement?_final
    (pair : PairTree kind) :
    pair.final.statement? = some pair.statement := by
  cases pair with
  | placement name atWord position relativeTo =>
      cases relativeTo <;> rfl
  | _ =>
      rfl

/-- A statement is read after the keyword of its block or after a comma. -/
theorem read_tokens
    (pair : PairTree kind)
    (tail : List (Located Token)) :
    read (.opened kind) (pair.tokens ++ tail) = read pair.final tail := by
  cases pair with
  | abbreviation short asWord className =>
      change
        read (.opened .abbreviation)
            (short.nameToken :: ⟨.keyword .asWord, asWord⟩ :: (className.tokens ++ tail)) =
          read (.abbreviationClass short className.joined) tail
      rw [Program.read_of_extend? (.abbreviationName short) rfl,
        Program.read_of_extend? (.abbreviationAs short) rfl]
      exact
        DottedTree.read_tokens (.abbreviationClass short) (.abbreviationDot short)
          (fun _ => rfl) (fun _ _ => rfl) (fun _ _ => rfl) className tail
  | declaration name beWord className opening arguments closing =>
      change
        read (.opened .declaration)
            (name.nameToken :: ⟨.keyword .beWord, beWord⟩ ::
              (className.tokens ++ ⟨.leftParenthesis, opening⟩ ::
                (argumentTokens arguments ++ [⟨.rightParenthesis, closing⟩]) ++ tail)) =
          read (.complete _) tail
      rw [Program.read_of_extend? (.declarationName name) rfl,
        Program.read_of_extend? (.declarationBe name) rfl, List.append_assoc,
        DottedTree.read_tokens (.declarationClass name) (.declarationDot name) (fun _ => rfl)
          (fun _ _ => rfl) (fun _ _ => rfl),
        List.cons_append, List.append_assoc,
        Program.read_of_extend? (.argumentsOpened ⟨name, className.joined, opening, []⟩) rfl]
      exact read_argumentTokens _ arguments closing tail
  | placement name atWord position relativeTo =>
      change
        read (.opened .placement)
            (name.nameToken :: ⟨.keyword .atWord, atWord⟩ ::
              ⟨.leftParenthesis, position.opening⟩ ::
              (position.innerTokens ++ originTokens relativeTo ++ tail)) =
          _
      rw [Program.read_of_extend? (.placementName name) rfl,
        Program.read_of_extend? (.placementAt name) rfl,
        Program.read_of_extend? (.placementVector name position.opening .opened) rfl,
        List.append_assoc,
        position.read_innerTokens (.placementVector name position.opening)
          (.placementPosition name) (fun _ _ => rfl)]
      cases relativeTo with
      | none =>
          rfl
      | some origin =>
          obtain ⟨fromWord, other⟩ := origin
          change
            read (.placementPosition name position.value)
                (⟨.keyword .fromWord, fromWord⟩ :: other.nameToken :: tail) =
              _
          rw [Program.read_of_extend? (.placementFrom name position.value) rfl]
          exact Program.read_of_extend? _ rfl tail
  | connection moved movedDot movedConnector toWord base baseDot baseConnector =>
      rfl

end PairTree

/-! ## Programs -/

/-- No further statement of the same block follows. -/
def EndsBlock
    (tokens : List (Located Token)) :
    Prop :=
  ∀ token, tokens.head? = some token → token.value.block?.isSome

/-- Where no statement follows in the block, reading goes on as outside of it. -/
theorem Program.read_of_endsBlock
    {place : Place}
    {before : List (Located (Statement Float))}
    (ends : place.ending? = some before)
    {tail : List (Located Token)}
    (endsBlock : EndsBlock tail) :
    read place tail = (read .outside tail).map (before ++ ·) := by
  cases tail with
  | nil =>
      rw [read, read, ends]
      simp [Place.ending?, Except.map]
  | cons token rest =>
      obtain ⟨kind, opens⟩ := Option.isSome_iff_exists.1 (endsBlock token rfl)
      obtain ⟨value, span⟩ := token
      cases Token.eq_word_of_block? opens
      rw [read_word before ends, read_word [] rfl]
      cases read (.opened kind) rest <;> rfl

/-- The tokens of a program start with the keyword of a block. -/
theorem ProgramTree.endsBlock_tokens
    (program : ProgramTree) :
    EndsBlock program.tokens := by
  intro token isFirst
  cases program with
  | nil =>
      cases isFirst
  | cons block rest =>
      cases isFirst
      simp

/-- The further statements of a block are read. -/
theorem PairTree.read_restTokens
    (pair : PairTree kind)
    (rest : List (Span × PairTree kind))
    {tail : List (Located Token)}
    (endsBlock : EndsBlock tail) :
    read pair.final (Separated.restTokens .comma PairTree.tokens rest ++ tail) =
      (read .outside tail).map
        (pair.statement :: rest.map (fun further => further.2.statement) ++ ·) := by
  induction rest generalizing pair with
  | nil =>
      exact Program.read_of_endsBlock (Place.ending?_of_statement? pair.statement?_final)
        endsBlock
  | cons further rest inductionHypothesis =>
      obtain ⟨span, next⟩ := further
      rw [Separated.restTokens_cons, List.cons_append, List.append_assoc,
        Program.read_comma pair.statement?_final, PairTree.statement_kind, next.read_tokens,
        inductionHypothesis]
      cases read .outside tail <;> rfl

/-- The tokens of a program are read as its statements. -/
theorem ProgramTree.read_tokens
    (program : ProgramTree) :
    read .outside program.tokens = .ok program.statements := by
  induction program with
  | nil =>
      rfl
  | cons block rest inductionHypothesis =>
      obtain ⟨kind, keyword, first, further⟩ := block
      change
        read .outside
            (⟨.keyword kind.word, keyword⟩ ::
              (first.tokens ++ Separated.restTokens .comma PairTree.tokens further ++
                ProgramTree.tokens rest)) =
          _
      rw [Program.read_word [] rfl, List.append_assoc, first.read_tokens,
        PairTree.read_restTokens first further (endsBlock_tokens rest), inductionHypothesis]
      simp [BlockTree.statements, Separated.items, Except.map, Function.comp_def]

end LevelScript
