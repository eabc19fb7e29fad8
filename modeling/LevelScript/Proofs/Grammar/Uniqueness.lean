import LevelScript.Proofs.Grammar.Soundness

namespace LevelScript

/-!
# Derivations are unique

No two derivations have the same tokens. A phrase is told from any other one by its tokens
as long as what follows cannot belong to it: a dot does not follow a dotted name, a comma
does not follow a row of items, and no reference point follows a placement.
-/

/-- A phrase and what follows it are determined by the row of their tokens. -/
def Cancels
    (phraseTokens : α → List (Located Token))
    (follows : List (Located Token) → Prop) :
    Prop :=
  ∀ first second rest other,
    follows rest →
      follows other →
      phraseTokens first ++ rest = phraseTokens second ++ other →
      first = second ∧ rest = other

theorem Located.nameToken_inj
    {first second : Located Name}
    (same : first.nameToken = second.nameToken) :
    first = second := by
  obtain ⟨⟨firstText⟩, firstSpan⟩ := first
  obtain ⟨⟨secondText⟩, secondSpan⟩ := second
  cases same
  rfl

namespace Separated

variable {separator : Token}
  {itemTokens : α → List (Located Token)}
  {follows : List (Located Token) → Prop}

/-- After an item comes a separator or what follows the row. -/
private theorem follows_restTokens
    (separatorFollows : ∀ span rest, follows (⟨separator, span⟩ :: rest))
    (rest : List (Span × α))
    {tail : List (Located Token)}
    (tailFollows : follows tail) :
    follows (restTokens separator itemTokens rest ++ tail) := by
  cases rest with
  | nil =>
      exact tailFollows
  | cons =>
      exact separatorFollows _ _

theorem restTokens_cancels
    (separatorFollows : ∀ span rest, follows (⟨separator, span⟩ :: rest))
    (itemCancels : Cancels itemTokens follows) :
    Cancels (restTokens separator itemTokens)
      (fun tail => follows tail ∧ NotAhead separator tail) := by
  intro first
  induction first with
  | nil =>
      intro second rest other restFollows _ same
      cases second with
      | nil =>
          exact ⟨rfl, same⟩
      | cons item further =>
          rw [restTokens_nil, List.nil_append] at same
          subst same
          exact (restFollows.2 _ rfl rfl).elim
  | cons item further inductionHypothesis =>
      intro second rest other restFollows otherFollows same
      obtain ⟨span, value⟩ := item
      cases second with
      | nil =>
          rw [restTokens_nil, List.nil_append] at same
          subst same
          exact (otherFollows.2 _ rfl rfl).elim
      | cons secondItem secondFurther =>
          obtain ⟨secondSpan, secondValue⟩ := secondItem
          simp only [restTokens_cons, List.cons_append, List.append_assoc, List.cons.injEq,
            Located.mk.injEq, true_and] at same
          obtain ⟨rfl, sameTokens⟩ := same
          obtain ⟨rfl, sameFurther⟩ :=
            itemCancels value secondValue _ _
              (follows_restTokens separatorFollows further restFollows.1)
              (follows_restTokens separatorFollows secondFurther otherFollows.1) sameTokens
          obtain ⟨rfl, rfl⟩ :=
            inductionHypothesis secondFurther rest other restFollows otherFollows sameFurther
          exact ⟨rfl, rfl⟩

theorem tokens_cancels
    (separatorFollows : ∀ span rest, follows (⟨separator, span⟩ :: rest))
    (itemCancels : Cancels itemTokens follows) :
    Cancels (tokens separator itemTokens)
      (fun tail => follows tail ∧ NotAhead separator tail) := by
  intro firstRow secondRow rest other restFollows otherFollows same
  obtain ⟨first, firstRest⟩ := firstRow
  obtain ⟨second, secondRest⟩ := secondRow
  simp only [tokens, List.append_assoc] at same
  obtain ⟨rfl, sameRest⟩ :=
    itemCancels first second _ _
      (follows_restTokens separatorFollows firstRest restFollows.1)
      (follows_restTokens separatorFollows secondRest otherFollows.1) same
  obtain ⟨rfl, rfl⟩ :=
    restTokens_cancels separatorFollows itemCancels firstRest secondRest rest other
      restFollows otherFollows sameRest
  exact ⟨rfl, rfl⟩

end Separated

/-! ## Phrases within a statement -/

theorem DottedTree.tokens_cancels :
    Cancels DottedTree.tokens (NotAhead .dot) := by
  have segmentCancels : Cancels segmentTokens (fun _ => True) := by
    intro first second rest other _ _ same
    simp only [segmentTokens, List.singleton_append, List.cons.injEq] at same
    exact ⟨Located.nameToken_inj same.1, same.2⟩
  intro first second rest other restFollows otherFollows same
  exact
    Separated.tokens_cancels (fun _ _ => True.intro) segmentCancels first second rest other
      ⟨True.intro, restFollows⟩ ⟨True.intro, otherFollows⟩ same

theorem VectorTree.tokens_cancels :
    Cancels VectorTree.tokens (fun _ => True) := by
  intro first second rest other _ _ same
  obtain ⟨opening, ⟨x, xSpan⟩, firstComma, ⟨y, ySpan⟩, secondComma, ⟨z, zSpan⟩, closing⟩ :=
    first
  obtain ⟨opening', ⟨x', xSpan'⟩, firstComma', ⟨y', ySpan'⟩, secondComma', ⟨z', zSpan'⟩,
    closing'⟩ := second
  simp only [tokens, innerTokens, List.cons_append, List.nil_append, List.cons.injEq,
    Located.mk.injEq, Token.number.injEq, true_and] at same
  obtain ⟨rfl, ⟨rfl, rfl⟩, rfl, ⟨rfl, rfl⟩, rfl, ⟨rfl, rfl⟩, rfl, rfl⟩ := same
  exact ⟨rfl, rfl⟩

theorem LiteralTree.tokens_cancels :
    Cancels LiteralTree.tokens (fun _ => True) := by
  intro first second rest other restFollows otherFollows same
  cases first with
  | string text =>
      cases second with
      | string secondText =>
          cases text
          cases secondText
          cases same
          exact ⟨rfl, rfl⟩
      | number =>
          cases same
      | vector =>
          cases same
  | number value =>
      cases second with
      | string =>
          cases same
      | number secondValue =>
          cases value
          cases secondValue
          cases same
          exact ⟨rfl, rfl⟩
      | vector =>
          cases same
  | vector tree =>
      cases second with
      | string =>
          cases same
      | number =>
          cases same
      | vector secondTree =>
          obtain ⟨rfl, sameRest⟩ :=
            VectorTree.tokens_cancels tree secondTree rest other restFollows otherFollows same
          exact ⟨rfl, sameRest⟩

theorem LiteralTree.notAhead_tokens
    (literal : LiteralTree)
    (rest : List (Located Token)) :
    NotAhead .rightParenthesis (literal.tokens ++ rest) := by
  cases literal <;> exact notAhead_cons _ Token.noConfusion

/-- The closing parenthesis is at the front. -/
def Closes
    (tokens : List (Located Token)) :
    Prop :=
  ∃ span rest, tokens = ⟨.rightParenthesis, span⟩ :: rest

theorem PairTree.argumentTokens_cancels :
    Cancels argumentTokens Closes := by
  have noComma : ∀ {tokens}, Closes tokens → NotAhead .comma tokens := by
    intro tokens closes
    obtain ⟨span, rest, rfl⟩ := closes
    exact notAhead_cons rest Token.noConfusion
  intro first second rest other restCloses otherCloses same
  cases first with
  | none =>
      cases second with
      | none =>
          exact ⟨rfl, same⟩
      | some arguments =>
          obtain ⟨span, after, rfl⟩ := restCloses
          simp only [argumentTokens, Separated.tokens, List.nil_append,
            List.append_assoc] at same
          exact (arguments.first.notAhead_tokens _ _ (congrArg List.head? same).symm rfl).elim
  | some arguments =>
      cases second with
      | none =>
          obtain ⟨span, after, rfl⟩ := otherCloses
          simp only [argumentTokens, Separated.tokens, List.nil_append,
            List.append_assoc] at same
          exact (arguments.first.notAhead_tokens _ _ (congrArg List.head? same) rfl).elim
      | some secondArguments =>
          obtain ⟨rfl, sameRest⟩ :=
            Separated.tokens_cancels (fun _ _ => True.intro) LiteralTree.tokens_cancels
              arguments secondArguments rest other ⟨True.intro, noComma restCloses⟩
              ⟨True.intro, noComma otherCloses⟩ same
          exact ⟨rfl, sameRest⟩

/-! ## Statements -/

/-- Nothing follows that could belong to the statement before. -/
def EndsPair
    (tokens : List (Located Token)) :
    Prop :=
  NotAhead .dot tokens ∧ NotAhead (.keyword .fromWord) tokens

/-- A comma does not belong to the statement before. -/
theorem endsPair_comma
    (span : Span)
    (rest : List (Located Token)) :
    EndsPair (⟨.comma, span⟩ :: rest) :=
  ⟨notAhead_cons rest Token.noConfusion, notAhead_cons rest Token.noConfusion⟩

/-- Only the keyword of a block comes next where a block ends. -/
theorem EndsBlock.notAhead
    {tokens : List (Located Token)}
    {separator : Token}
    (endsBlock : EndsBlock tokens)
    (opensNone : separator.block? = none) :
    NotAhead separator tokens := by
  intro token isFirst same
  have opens := endsBlock token isFirst
  rw [same, opensNone] at opens
  cases opens

theorem EndsBlock.endsPair
    {tokens : List (Located Token)}
    (endsBlock : EndsBlock tokens) :
    EndsPair tokens :=
  ⟨endsBlock.notAhead rfl, endsBlock.notAhead rfl⟩

namespace PairTree

theorem originTokens_cancels :
    Cancels originTokens (NotAhead (.keyword .fromWord)) := by
  intro first second rest other restFollows otherFollows same
  cases first with
  | none =>
      cases second with
      | none =>
          exact ⟨rfl, same⟩
      | some origin =>
          exact (restFollows _ (congrArg List.head? same) rfl).elim
  | some origin =>
      cases second with
      | none =>
          exact (otherFollows _ (congrArg List.head? same).symm rfl).elim
      | some secondOrigin =>
          simp only [originTokens, List.cons_append, List.nil_append, List.cons.injEq,
            Located.mk.injEq, true_and] at same
          obtain ⟨fromWord, name⟩ := origin
          obtain ⟨secondFrom, secondName⟩ := secondOrigin
          obtain ⟨rfl, sameName, rfl⟩ := same
          cases Located.nameToken_inj sameName
          exact ⟨rfl, rfl⟩

theorem tokens_cancels
    {kind : StatementKind} :
    Cancels (@tokens kind) EndsPair := by
  intro first second rest other restEnds otherEnds same
  cases first with
  | abbreviation short asWord className =>
      cases second with
      | abbreviation short' asWord' className' =>
          simp only [tokens, List.cons_append, List.cons.injEq, Located.mk.injEq,
            true_and] at same
          obtain ⟨sameShort, rfl, sameClass⟩ := same
          cases Located.nameToken_inj sameShort
          obtain ⟨rfl, rfl⟩ :=
            DottedTree.tokens_cancels className className' rest other restEnds.1 otherEnds.1
              sameClass
          exact ⟨rfl, rfl⟩
  | declaration name beWord className opening arguments closing =>
      cases second with
      | declaration name' beWord' className' opening' arguments' closing' =>
          simp only [tokens, List.cons_append, List.append_assoc, List.nil_append,
            List.cons.injEq, Located.mk.injEq, true_and] at same
          obtain ⟨sameName, rfl, sameClass⟩ := same
          cases Located.nameToken_inj sameName
          have noDot : ∀ span after, NotAhead .dot (⟨.leftParenthesis, span⟩ :: after) :=
            fun span after => notAhead_cons after Token.noConfusion
          obtain ⟨rfl, sameArguments⟩ :=
            DottedTree.tokens_cancels className className' _ _ (noDot _ _) (noDot _ _)
              sameClass
          simp only [List.cons.injEq, Located.mk.injEq, true_and] at sameArguments
          obtain ⟨rfl, sameArguments⟩ := sameArguments
          obtain ⟨rfl, sameClosing⟩ :=
            argumentTokens_cancels arguments arguments' _ _ ⟨_, _, rfl⟩ ⟨_, _, rfl⟩
              sameArguments
          cases sameClosing
          exact ⟨rfl, rfl⟩
  | placement name atWord position relativeTo =>
      cases second with
      | placement name' atWord' position' relativeTo' =>
          simp only [tokens, List.cons_append, List.append_assoc, List.cons.injEq,
            Located.mk.injEq, true_and] at same
          obtain ⟨sameName, rfl, samePosition⟩ := same
          cases Located.nameToken_inj sameName
          obtain ⟨rfl, sameOrigin⟩ :=
            VectorTree.tokens_cancels position position' _ _ True.intro True.intro
              samePosition
          obtain ⟨rfl, rfl⟩ :=
            originTokens_cancels relativeTo relativeTo' rest other restEnds.2 otherEnds.2
              sameOrigin
          exact ⟨rfl, rfl⟩
  | connection moved movedDot movedConnector toWord base baseDot baseConnector =>
      cases second with
      | connection moved' movedDot' movedConnector' toWord' base' baseDot' baseConnector' =>
          simp only [tokens, List.cons_append, List.nil_append, List.cons.injEq,
            Located.mk.injEq, true_and] at same
          obtain ⟨sameMoved, rfl, sameMovedConnector, rfl, sameBase, rfl, sameBaseConnector,
            rfl⟩ := same
          cases Located.nameToken_inj sameMoved
          cases Located.nameToken_inj sameMovedConnector
          cases Located.nameToken_inj sameBase
          cases Located.nameToken_inj sameBaseConnector
          exact ⟨rfl, rfl⟩

end PairTree

/-! ## Programs -/

theorem StatementKind.word_inj
    {first second : StatementKind}
    (same : first.word = second.word) :
    first = second := by
  cases first <;> cases second <;> first | rfl | cases same

/-- A program is determined by its tokens. -/
theorem ProgramTree.tokens_inj
    {first second : ProgramTree}
    (same : first.tokens = second.tokens) :
    first = second := by
  induction first generalizing second with
  | nil =>
      cases second with
      | nil =>
          rfl
      | cons =>
          cases same
  | cons block rest inductionHypothesis =>
      cases second with
      | nil =>
          cases same
      | cons secondBlock secondRest =>
          obtain ⟨kind, keyword, pairs⟩ := block
          obtain ⟨secondKind, secondKeyword, secondPairs⟩ := secondBlock
          simp only [tokens_cons, BlockTree.tokens, List.cons_append, List.cons.injEq,
            Located.mk.injEq, Token.keyword.injEq] at same
          obtain ⟨⟨sameWord, rfl⟩, sameTokens⟩ := same
          cases StatementKind.word_inj sameWord
          have ends := endsBlock_tokens rest
          have secondEnds := endsBlock_tokens secondRest
          obtain ⟨rfl, sameRest⟩ :=
            Separated.tokens_cancels endsPair_comma PairTree.tokens_cancels pairs secondPairs
              _ _ ⟨ends.endsPair, ends.notAhead rfl⟩
              ⟨secondEnds.endsPair, secondEnds.notAhead rfl⟩ sameTokens
          rw [inductionHypothesis sameRest]

namespace Program

/--
A row of tokens is read as a program exactly if its significant tokens have a derivation in
the grammar. The derivation is unique, and its pairs are the statements that are read, in
the order of the source.
-/
theorem ofTokens_eq_ok_iff_derivation
    (tokens : List (Located Token))
    (statements : List (Located (Statement Float))) :
    ofTokens tokens = .ok statements ↔
      ∃ program : ProgramTree,
        program.tokens = tokens.filter (fun token => !token.value.isTrivia) ∧
          program.statements = statements ∧
          ∀ other : ProgramTree,
            other.tokens = tokens.filter (fun token => !token.value.isTrivia) →
              other = program := by
  constructor
  · intro accepted
    obtain ⟨program, tokensAre, statementsAre⟩ := ProgramTree.exists_of_read accepted
    refine ⟨program, tokensAre, statementsAre, ?_⟩
    intro other otherTokens
    exact ProgramTree.tokens_inj (otherTokens.trans tokensAre.symm)
  · intro derived
    obtain ⟨program, tokensAre, statementsAre, _⟩ := derived
    rw [ofTokens, significant, ← tokensAre, program.read_tokens, statementsAre]

end Program

end LevelScript
