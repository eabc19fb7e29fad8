import LevelScript.Proofs.Grammar.Completeness
import LevelScript.Proofs.Outcome

namespace LevelScript

open Program (read)

/-!
# Deriving what is read

Whenever a row of tokens is read to its end, it has a derivation. From each place the tokens
that may follow are known, so a rule of the grammar is recovered token by token; rows of
segments, arguments, pairs and blocks are recovered by induction on the number of tokens.
-/

variable {statements : List (Located (Statement Float))} {tokens : List (Located Token)}

/-! ## Single tokens -/

namespace Program

/-- Within a statement the next token extends it. -/
theorem exists_of_read
    {place : Place}
    (within : place.ending? = none)
    (accepted : read place tokens = .ok statements) :
    ∃ token rest next,
      tokens = token :: rest ∧
        place.extend? token = some next ∧
        read next rest = .ok statements := by
  have unfinished : place.statement? = none := by
    cases place with
    | outside =>
        rfl
    | _ =>
        simpa [Place.ending?] using within
  cases tokens with
  | nil =>
      rw [read, within] at accepted
      cases accepted
  | cons token rest =>
      rw [read] at accepted
      split at accepted
      · rename_i next extended
        exact ⟨token, rest, next, rfl, extended, accepted⟩
      · have noneReopened : place.reopen? token.value = none := by
          unfold Place.reopen?
          split
          · rw [unfinished]
            rfl
          · rw [within]
        rw [noneReopened] at accepted
        cases accepted

/-- Where only one form of token extends a statement, the next token has it. -/
theorem exists_of_read_only
    {place : Place}
    {ι : Type}
    (form : ι → Token)
    (next : ι → Span → Place)
    (only : ∀ token after,
      place.extend? token = some after →
        ∃ index, token.value = form index ∧ after = next index token.span)
    (within : place.ending? = none)
    (accepted : read place tokens = .ok statements) :
    ∃ index span rest,
      tokens = ⟨form index, span⟩ :: rest ∧
        read (next index span) rest = .ok statements := by
  obtain ⟨token, rest, after, shape, extended, continued⟩ := exists_of_read within accepted
  obtain ⟨index, formIs, rfl⟩ := only token after extended
  obtain ⟨value, span⟩ := token
  cases formIs
  exact ⟨index, span, rest, shape, continued⟩

/-- Where only one token extends a statement, it comes next. -/
theorem exists_of_read_token
    {place : Place}
    (expected : Token)
    (next : Span → Place)
    (only : ∀ token after,
      place.extend? token = some after → token.value = expected ∧ after = next token.span)
    (within : place.ending? = none)
    (accepted : read place tokens = .ok statements) :
    ∃ span rest, tokens = ⟨expected, span⟩ :: rest ∧ read (next span) rest = .ok statements := by
  obtain ⟨_, span, rest, shape, continued⟩ :=
    exists_of_read_only (fun _ : Unit => expected) (fun _ => next)
      (fun token after extended => ⟨(), only token after extended⟩) within accepted
  exact ⟨span, rest, shape, continued⟩

/-- Where only identifiers extend a statement, one comes next. -/
theorem exists_of_read_name
    {place : Place}
    (next : Located Name → Place)
    (only : ∀ token, place.extend? token =
      (token.value.name?.map (⟨·, token.span⟩)).map next)
    (within : place.ending? = none)
    (accepted : read place tokens = .ok statements) :
    ∃ name rest, tokens = name.nameToken :: rest ∧ read (next name) rest = .ok statements := by
  have onlyNames : ∀ token after,
      place.extend? token = some after →
        ∃ name : Name,
          token.value = .identifier name.text ∧ after = next ⟨name, token.span⟩ := by
    intro token after extended
    obtain ⟨value, span⟩ := token
    rw [only] at extended
    cases value with
    | identifier text =>
        cases extended
        exact ⟨⟨text⟩, rfl, rfl⟩
    | _ =>
        cases extended
  obtain ⟨name, span, rest, shape, continued⟩ :=
    exists_of_read_only (fun name : Name => .identifier name.text)
      (fun name span => next ⟨name, span⟩) onlyNames within accepted
  exact ⟨⟨name, span⟩, rest, shape, continued⟩

end Program

/-! ## Rules within a statement -/

/-- Where the first token is not the given one, it is not at the front. -/
def NotAhead
    (separator : Token)
    (tokens : List (Located Token)) :
    Prop :=
  ∀ token, tokens.head? = some token → token.value ≠ separator

theorem notAhead_cons
    {separator : Token}
    {token : Located Token}
    (rest : List (Located Token))
    (different : token.value ≠ separator) :
    NotAhead separator (token :: rest) := by
  intro found isFirst
  cases isFirst
  exact different

/-- The segments of a dotted name are recovered, up to where no dot follows. -/
theorem DottedTree.exists_of_read_rest
    {within dotted : Located Name → Place}
    (dotExtends : ∀ name span, (within name).extend? ⟨.dot, span⟩ = some (dotted name))
    (segmentExtends : ∀ name token, (dotted name).extend? token =
      (token.value.name?.map (⟨·, token.span⟩)).map fun inner =>
        within (name.extendName inner))
    (unfinished : ∀ name, (dotted name).ending? = none)
    {first : Located Name}
    (accepted : read (within first) tokens = .ok statements) :
    ∃ rest tail,
      tokens = Separated.restTokens .dot segmentTokens rest ++ tail ∧
        NotAhead .dot tail ∧
        read (within (extended first rest)) tail = .ok statements := by
  induction length : tokens.length using Nat.strongRecOn generalizing tokens first with
  | ind count inductionHypothesis =>
      by_cases notAhead : NotAhead .dot tokens
      · exact ⟨[], tokens, rfl, notAhead, accepted⟩
      · unfold NotAhead at notAhead
        simp only [ne_eq, Classical.not_forall, Classical.not_not] at notAhead
        obtain ⟨⟨_, span⟩, isFirst, rfl⟩ := notAhead
        obtain ⟨more, rfl⟩ := List.head?_eq_some_iff.1 isFirst
        rw [Program.read_of_extend? _ (dotExtends first span)] at accepted
        obtain ⟨inner, after, rfl, continued⟩ :=
          Program.exists_of_read_name _ (segmentExtends first) (unfinished first) accepted
        have shorter : after.length < count := by
          simp only [List.length_cons] at length
          omega
        obtain ⟨rest, tail, rfl, ends, readTail⟩ :=
          inductionHypothesis after.length shorter continued rfl
        exact ⟨(span, inner) :: rest, tail, rfl, ends, readTail⟩

/-- A dotted name is recovered from its tokens. -/
theorem DottedTree.exists_of_read
    {before : Place}
    (within dotted : Located Name → Place)
    (firstExtends : ∀ token, before.extend? token =
      (token.value.name?.map (⟨·, token.span⟩)).map within)
    (begun : before.ending? = none)
    (dotExtends : ∀ name span, (within name).extend? ⟨.dot, span⟩ = some (dotted name))
    (segmentExtends : ∀ name token, (dotted name).extend? token =
      (token.value.name?.map (⟨·, token.span⟩)).map fun inner =>
        within (name.extendName inner))
    (unfinished : ∀ name, (dotted name).ending? = none)
    (accepted : read before tokens = .ok statements) :
    ∃ (name : DottedTree) (tail : List (Located Token)),
      tokens = name.tokens ++ tail ∧
        NotAhead .dot tail ∧
        read (within name.joined) tail = .ok statements := by
  obtain ⟨first, more, rfl, continued⟩ :=
    Program.exists_of_read_name within firstExtends begun accepted
  obtain ⟨rest, tail, rfl, ends, readTail⟩ :=
    exists_of_read_rest dotExtends segmentExtends unfinished continued
  exact ⟨⟨first, rest⟩, tail, rfl, ends, readTail⟩

section Vectors

variable {within : VectorPlace → Place} {closed : Located (Vec3 Float) → Place}
  {opening : Span} {place : VectorPlace}

/-- Where a component of a vector is missing, a number comes next. -/
private theorem VectorPlace.exists_number_of_read
    {next : Float → VectorPlace}
    (missing : ∀ token, place.extend? token =
      match token with
      | .number value => some (next value)
      | _ => none)
    (notClosed : ∀ token, place.close? token = none)
    (vectorExtends : ∀ token,
      (within place).extend? token = Place.vector? within closed opening place token)
    (unfinished : (within place).ending? = none)
    (accepted : read (within place) tokens = .ok statements) :
    ∃ value span rest,
      tokens = ⟨.number value, span⟩ :: rest ∧
        read (within (next value)) rest = .ok statements := by
  have onlyNumbers : ∀ token after,
      (within place).extend? token = some after →
        ∃ value, token.value = .number value ∧ after = within (next value) := by
    intro token after extended
    obtain ⟨value, span⟩ := token
    rw [vectorExtends, Place.vector?, missing, notClosed] at extended
    cases value with
    | number value =>
        cases extended
        exact ⟨value, rfl, rfl⟩
    | _ =>
        cases extended
  exact
    Program.exists_of_read_only .number (fun value _ => within (next value)) onlyNumbers
      unfinished accepted

private theorem VectorPlace.exists_comma_of_read
    {next : VectorPlace}
    (between : ∀ token, place.extend? token =
      match token with
      | .comma => some next
      | _ => none)
    (notClosed : ∀ token, place.close? token = none)
    (vectorExtends : ∀ token,
      (within place).extend? token = Place.vector? within closed opening place token)
    (unfinished : (within place).ending? = none)
    (accepted : read (within place) tokens = .ok statements) :
    ∃ span rest,
      tokens = ⟨.comma, span⟩ :: rest ∧ read (within next) rest = .ok statements := by
  have onlyComma : ∀ token after,
      (within place).extend? token = some after →
        token.value = .comma ∧ after = within next := by
    intro token after extended
    obtain ⟨value, span⟩ := token
    rw [vectorExtends, Place.vector?, between, notClosed] at extended
    cases value with
    | comma =>
        cases extended
        exact ⟨rfl, rfl⟩
    | _ =>
        cases extended
  exact
    Program.exists_of_read_token .comma (fun _ => within next) onlyComma unfinished accepted

private theorem VectorPlace.exists_closing_of_read
    {vector : Vec3 Float}
    (vectorExtends : ∀ token,
      (within (.afterZ vector)).extend? token =
        Place.vector? within closed opening (.afterZ vector) token)
    (unfinished : (within (.afterZ vector)).ending? = none)
    (accepted : read (within (.afterZ vector)) tokens = .ok statements) :
    ∃ span rest,
      tokens = ⟨.rightParenthesis, span⟩ :: rest ∧
        read (closed ⟨vector, opening.union span⟩) rest = .ok statements := by
  have onlyClosing : ∀ token after,
      (within (.afterZ vector)).extend? token = some after →
        token.value = .rightParenthesis ∧
          after = closed ⟨vector, opening.union token.span⟩ := by
    intro token after extended
    obtain ⟨value, span⟩ := token
    rw [vectorExtends] at extended
    cases value with
    | rightParenthesis =>
        cases extended
        exact ⟨rfl, rfl⟩
    | _ =>
        cases extended
  exact
    Program.exists_of_read_token .rightParenthesis
      (fun span => closed ⟨vector, opening.union span⟩) onlyClosing unfinished accepted

/-- A vector is recovered from the tokens after its opening parenthesis. -/
theorem VectorTree.exists_of_read
    (within : VectorPlace → Place)
    (closed : Located (Vec3 Float) → Place)
    (opening : Span)
    (vectorExtends : ∀ place token,
      (within place).extend? token = Place.vector? within closed opening place token)
    (unfinished : ∀ place, (within place).ending? = none)
    (accepted : read (within .opened) tokens = .ok statements) :
    ∃ (vector : VectorTree) (tail : List (Located Token)),
      vector.opening = opening ∧
        tokens = vector.innerTokens ++ tail ∧
        read (closed vector.value) tail = .ok statements := by
  obtain ⟨x, xSpan, afterX, rfl, readX⟩ :=
    VectorPlace.exists_number_of_read (fun token => by cases token <;> rfl) (fun _ => rfl)
      (vectorExtends _) (unfinished _) accepted
  obtain ⟨firstComma, afterFirstComma, rfl, readFirstComma⟩ :=
    VectorPlace.exists_comma_of_read (fun token => by cases token <;> rfl) (fun _ => rfl)
      (vectorExtends _) (unfinished _) readX
  obtain ⟨y, ySpan, afterY, rfl, readY⟩ :=
    VectorPlace.exists_number_of_read (fun token => by cases token <;> rfl) (fun _ => rfl)
      (vectorExtends _) (unfinished _) readFirstComma
  obtain ⟨secondComma, afterSecondComma, rfl, readSecondComma⟩ :=
    VectorPlace.exists_comma_of_read (fun token => by cases token <;> rfl) (fun _ => rfl)
      (vectorExtends _) (unfinished _) readY
  obtain ⟨z, zSpan, afterZ, rfl, readZ⟩ :=
    VectorPlace.exists_number_of_read (fun token => by cases token <;> rfl) (fun _ => rfl)
      (vectorExtends _) (unfinished _) readSecondComma
  obtain ⟨closing, tail, rfl, readClosing⟩ :=
    VectorPlace.exists_closing_of_read (vectorExtends _) (unfinished _) readZ
  exact
    ⟨⟨opening, ⟨x, xSpan⟩, firstComma, ⟨y, ySpan⟩, secondComma, ⟨z, zSpan⟩, closing⟩, tail,
      rfl, rfl, readClosing⟩

end Vectors

/-- An argument is recovered from its tokens. -/
theorem LiteralTree.exists_of_argument?
    {declaration : OpenDeclaration}
    {token : Located Token}
    {next : Place}
    (extended : Place.argument? declaration token = some next)
    (accepted : read next tokens = .ok statements) :
    ∃ (literal : LiteralTree) (tail : List (Located Token)),
      token :: tokens = literal.tokens ++ tail ∧
        read (.argumentRead (declaration.push literal.value)) tail = .ok statements := by
  obtain ⟨value, span⟩ := token
  cases value with
  | string text =>
      cases extended
      exact ⟨.string ⟨text, span⟩, tokens, rfl, accepted⟩
  | number value =>
      cases extended
      exact ⟨.number ⟨value, span⟩, tokens, rfl, accepted⟩
  | leftParenthesis =>
      cases extended
      obtain ⟨vector, tail, rfl, rfl, readTail⟩ :=
        VectorTree.exists_of_read (.argumentVector declaration span)
          (fun value => .argumentRead (declaration.push (value.map .vector))) span
          (fun _ _ => rfl) (fun _ => rfl) accepted
      exact ⟨.vector vector, tail, rfl, readTail⟩
  | _ =>
      cases extended

/-- The further arguments of a declaration are recovered with its closing parenthesis. -/
theorem LiteralTree.exists_of_read_rest
    {declaration : OpenDeclaration}
    (accepted : read (.argumentRead declaration) tokens = .ok statements) :
    ∃ rest closing tail,
      tokens =
          Separated.restTokens .comma LiteralTree.tokens rest ++
            ⟨.rightParenthesis, closing⟩ :: tail ∧
        read
            (.complete
              ((declaration.pushAll (rest.map fun argument => argument.2.value)).close closing))
            tail =
          .ok statements := by
  induction length : tokens.length using Nat.strongRecOn generalizing tokens declaration with
  | ind count inductionHypothesis =>
      obtain ⟨⟨value, span⟩, more, next, rfl, extended, continued⟩ :=
        Program.exists_of_read rfl accepted
      cases value with
      | comma =>
          cases extended
          obtain ⟨token, after, within, rfl, argument, readAfter⟩ :=
            Program.exists_of_read rfl continued
          obtain ⟨literal, left, shape, readLeft⟩ :=
            exists_of_argument? argument readAfter
          have shorter : left.length < count := by
            have lengths := congrArg List.length shape
            simp only [List.length_cons, List.length_append] at length lengths
            omega
          obtain ⟨rest, closing, tail, rfl, readTail⟩ :=
            inductionHypothesis left.length shorter readLeft rfl
          refine ⟨(span, literal) :: rest, closing, tail, ?_, ?_⟩
          · rw [shape, Separated.restTokens_cons, List.cons_append, List.append_assoc]
          · rw [OpenDeclaration.pushAll_push] at readTail
            exact readTail
      | rightParenthesis =>
          cases extended
          refine ⟨[], span, more, rfl, ?_⟩
          rw [List.map_nil, OpenDeclaration.pushAll_nil]
          exact continued
      | _ =>
          cases extended

theorem PairTree.exists_of_read_arguments
    {declaration : OpenDeclaration}
    (accepted : read (.argumentsOpened declaration) tokens = .ok statements) :
    ∃ arguments closing tail,
      tokens = argumentTokens arguments ++ ⟨.rightParenthesis, closing⟩ :: tail ∧
        read (.complete ((declaration.pushAll (argumentValues arguments)).close closing)) tail =
          .ok statements := by
  obtain ⟨⟨value, span⟩, more, next, rfl, extended, continued⟩ :=
    Program.exists_of_read rfl accepted
  by_cases closes : value = .rightParenthesis
  · subst closes
    cases extended
    refine ⟨none, span, more, rfl, ?_⟩
    rw [argumentValues, OpenDeclaration.pushAll_nil]
    exact continued
  · have argument : Place.argument? declaration ⟨value, span⟩ = some next := by
      cases value with
      | rightParenthesis =>
          exact (closes rfl).elim
      | _ =>
          exact extended
    obtain ⟨first, left, shape, readLeft⟩ :=
      LiteralTree.exists_of_argument? argument continued
    obtain ⟨rest, closing, tail, rfl, readTail⟩ := LiteralTree.exists_of_read_rest readLeft
    refine ⟨some ⟨first, rest⟩, closing, tail, ?_, ?_⟩
    · rw [shape, argumentTokens, Separated.tokens, List.append_assoc]
    · rw [OpenDeclaration.pushAll_push] at readTail
      simpa [argumentValues, Separated.items, Function.comp_def] using readTail

/-! ## Statements -/

namespace Program

private theorem exists_of_read_keyword
    {place : Place}
    (word : Keyword)
    (next : Place)
    (keywordExtends : ∀ token, place.extend? token =
      match token.value with
      | .keyword found => if found = word then some next else none
      | _ => none)
    (within : place.ending? = none)
    (accepted : read place tokens = .ok statements) :
    ∃ span rest,
      tokens = ⟨.keyword word, span⟩ :: rest ∧ read next rest = .ok statements := by
  have onlyWord : ∀ token after,
      place.extend? token = some after → token.value = .keyword word ∧ after = next := by
    intro token after extended
    rw [keywordExtends] at extended
    split at extended
    · rename_i found isKeyword
      split at extended
      · rename_i same
        cases extended
        exact ⟨same ▸ isKeyword, rfl⟩
      · cases extended
    · cases extended
  exact exists_of_read_token (.keyword word) (fun _ => next) onlyWord within accepted

private theorem exists_of_read_dot
    {place : Place}
    (next : Place)
    (dotExtends : ∀ token, place.extend? token =
      match token.value with
      | .dot => some next
      | _ => none)
    (within : place.ending? = none)
    (accepted : read place tokens = .ok statements) :
    ∃ span rest, tokens = ⟨.dot, span⟩ :: rest ∧ read next rest = .ok statements := by
  have onlyDot : ∀ token after,
      place.extend? token = some after → token.value = .dot ∧ after = next := by
    intro token after extended
    rw [dotExtends] at extended
    split at extended
    · rename_i isDot
      cases extended
      exact ⟨isDot, rfl⟩
    · cases extended
  exact exists_of_read_token .dot (fun _ => next) onlyDot within accepted

end Program

namespace PairTree

/-- What follows a statement does not belong to it. -/
def Ends
    (pair : PairTree kind)
    (tail : List (Located Token)) :
    Prop :=
  ∀ token, tail.head? = some token → pair.final.extend? token = none

/-- Nothing belongs to a statement once it is complete. -/
private theorem ends_of_complete
    {pair : PairTree kind}
    (complete : pair.final = .complete pair.statement)
    (tail : List (Located Token)) :
    pair.Ends tail := by
  intro token isFirst
  obtain ⟨value, span⟩ := token
  rw [complete]
  cases value <;> rfl

theorem exists_of_read_abbreviation
    (accepted : read (.opened .abbreviation) tokens = .ok statements) :
    ∃ (pair : PairTree .abbreviation) (tail : List (Located Token)),
      tokens = pair.tokens ++ tail ∧
        pair.Ends tail ∧
        read pair.final tail = .ok statements := by
  obtain ⟨short, afterShort, rfl, readShort⟩ :=
    Program.exists_of_read_name .abbreviationName (fun _ => rfl) rfl accepted
  obtain ⟨asWord, afterAs, rfl, readAs⟩ :=
    Program.exists_of_read_keyword .asWord (.abbreviationAs short)
      (by rintro ⟨⟨⟨⟩⟩ | _, _⟩ <;> rfl) rfl readShort
  obtain ⟨className, tail, rfl, noDot, readTail⟩ :=
    DottedTree.exists_of_read (.abbreviationClass short) (.abbreviationDot short)
      (fun _ => rfl) rfl (fun _ _ => rfl) (fun _ _ => rfl) (fun _ => rfl) readAs
  refine ⟨.abbreviation short asWord className, tail, rfl, ?_, readTail⟩
  intro token isFirst
  obtain ⟨value, span⟩ := token
  cases value with
  | dot =>
      exact (noDot _ isFirst rfl).elim
  | _ =>
      rfl

theorem exists_of_read_declaration
    (accepted : read (.opened .declaration) tokens = .ok statements) :
    ∃ (pair : PairTree .declaration) (tail : List (Located Token)),
      tokens = pair.tokens ++ tail ∧
        pair.Ends tail ∧
        read pair.final tail = .ok statements := by
  obtain ⟨name, afterName, rfl, readName⟩ :=
    Program.exists_of_read_name .declarationName (fun _ => rfl) rfl accepted
  obtain ⟨beWord, afterBe, rfl, readBe⟩ :=
    Program.exists_of_read_keyword .beWord (.declarationBe name)
      (by rintro ⟨⟨⟨⟩⟩ | _, _⟩ <;> rfl) rfl readName
  obtain ⟨className, afterClass, rfl, noDot, readClass⟩ :=
    DottedTree.exists_of_read (.declarationClass name) (.declarationDot name)
      (fun _ => rfl) rfl (fun _ _ => rfl) (fun _ _ => rfl) (fun _ => rfl) readBe
  obtain ⟨⟨value, opening⟩, afterOpening, next, rfl, extended, readOpening⟩ :=
    Program.exists_of_read rfl readClass
  cases value with
  | leftParenthesis =>
      cases extended
      obtain ⟨arguments, closing, tail, rfl, readTail⟩ := exists_of_read_arguments readOpening
      refine
        ⟨.declaration name beWord className opening arguments closing, tail, ?_,
          ends_of_complete rfl tail, readTail⟩
      simp [PairTree.tokens]
  | dot =>
      exact (noDot _ rfl rfl).elim
  | _ =>
      cases extended

/-- A placement is recovered from its tokens, with its reference point if it has one. -/
theorem exists_of_read_placement
    (accepted : read (.opened .placement) tokens = .ok statements) :
    ∃ (pair : PairTree .placement) (tail : List (Located Token)),
      tokens = pair.tokens ++ tail ∧
        pair.Ends tail ∧
        read pair.final tail = .ok statements := by
  obtain ⟨name, afterName, rfl, readName⟩ :=
    Program.exists_of_read_name .placementName (fun _ => rfl) rfl accepted
  obtain ⟨atWord, afterAt, rfl, readAt⟩ :=
    Program.exists_of_read_keyword .atWord (.placementAt name)
      (by rintro ⟨⟨⟨⟩⟩ | _, _⟩ <;> rfl) rfl readName
  obtain ⟨⟨value, opening⟩, afterOpening, next, rfl, extended, readOpening⟩ :=
    Program.exists_of_read rfl readAt
  cases value with
  | leftParenthesis =>
      cases extended
      obtain ⟨position, afterPosition, rfl, rfl, readPosition⟩ :=
        VectorTree.exists_of_read (.placementVector name opening) (.placementPosition name)
          opening (fun _ _ => rfl) (fun _ => rfl) readOpening
      by_cases noOrigin : NotAhead (.keyword .fromWord) afterPosition
      · refine ⟨.placement name atWord position none, afterPosition, ?_, ?_, readPosition⟩
        · simp [PairTree.tokens, VectorTree.tokens, originTokens]
        · intro token isFirst
          obtain ⟨value, span⟩ := token
          cases value with
          | keyword word =>
              cases word with
              | fromWord =>
                  exact (noOrigin _ isFirst rfl).elim
              | _ =>
                  rfl
          | _ =>
              rfl
      · unfold NotAhead at noOrigin
        simp only [ne_eq, Classical.not_forall, Classical.not_not] at noOrigin
        obtain ⟨⟨_, fromWord⟩, isFirst, rfl⟩ := noOrigin
        obtain ⟨afterFrom, rfl⟩ := List.head?_eq_some_iff.1 isFirst
        rw [Program.read_of_extend? (.placementFrom name position.value) rfl] at readPosition
        obtain ⟨origin, tail, rfl, readTail⟩ :=
          Program.exists_of_read_name _ (fun _ => rfl) rfl readPosition
        refine
          ⟨.placement name atWord position (some (fromWord, origin)), tail, ?_,
            ends_of_complete rfl tail, readTail⟩
        simp [PairTree.tokens, VectorTree.tokens, originTokens]
  | _ =>
      cases extended

theorem exists_of_read_connection
    (accepted : read (.opened .connection) tokens = .ok statements) :
    ∃ (pair : PairTree .connection) (tail : List (Located Token)),
      tokens = pair.tokens ++ tail ∧
        pair.Ends tail ∧
        read pair.final tail = .ok statements := by
  obtain ⟨moved, afterMoved, rfl, readMoved⟩ :=
    Program.exists_of_read_name .connectionMoved (fun _ => rfl) rfl accepted
  obtain ⟨movedDot, afterMovedDot, rfl, readMovedDot⟩ :=
    Program.exists_of_read_dot (.connectionMovedDot moved)
      (by rintro ⟨⟨⟩, _⟩ <;> rfl) rfl readMoved
  obtain ⟨movedConnector, afterMovedConnector, rfl, readMovedConnector⟩ :=
    Program.exists_of_read_name (.connectionMovedConnector moved) (fun _ => rfl) rfl
      readMovedDot
  obtain ⟨toWord, afterTo, rfl, readTo⟩ :=
    Program.exists_of_read_keyword .toWord (.connectionTo moved movedConnector)
      (by rintro ⟨⟨⟨⟩⟩ | _, _⟩ <;> rfl) rfl readMovedConnector
  obtain ⟨base, afterBase, rfl, readBase⟩ :=
    Program.exists_of_read_name (.connectionBase moved movedConnector) (fun _ => rfl) rfl
      readTo
  obtain ⟨baseDot, afterBaseDot, rfl, readBaseDot⟩ :=
    Program.exists_of_read_dot (.connectionBaseDot moved movedConnector base)
      (by rintro ⟨⟨⟩, _⟩ <;> rfl) rfl readBase
  obtain ⟨baseConnector, tail, rfl, readTail⟩ :=
    Program.exists_of_read_name _ (fun _ => rfl) rfl readBaseDot
  exact
    ⟨.connection moved movedDot movedConnector toWord base baseDot baseConnector, tail, rfl,
      ends_of_complete rfl tail, readTail⟩

/-- A statement of any kind is recovered from its tokens. -/
theorem exists_of_read
    (kind : StatementKind)
    (accepted : read (.opened kind) tokens = .ok statements) :
    ∃ (pair : PairTree kind) (tail : List (Located Token)),
      tokens = pair.tokens ++ tail ∧
        pair.Ends tail ∧
        read pair.final tail = .ok statements := by
  cases kind with
  | abbreviation =>
      exact exists_of_read_abbreviation accepted
  | declaration =>
      exact exists_of_read_declaration accepted
  | placement =>
      exact exists_of_read_placement accepted
  | connection =>
      exact exists_of_read_connection accepted

end PairTree

/-! ## Programs -/

namespace Program

/-- After a whole statement comes a comma with the next one, or the block ends. -/
theorem comma_or_endsBlock_of_read
    {place : Place}
    {statement : Located (Statement Float)}
    (ends : place.statement? = some statement)
    (notExtended : ∀ token, tokens.head? = some token → place.extend? token = none)
    (accepted : read place tokens = .ok statements) :
    (∃ span rest further,
      tokens = ⟨.comma, span⟩ :: rest ∧
        read (.opened statement.value.kind) rest = .ok further ∧
        statements = statement :: further) ∨
      ∃ further,
        EndsBlock tokens ∧
          read .outside tokens = .ok further ∧
          statements = statement :: further := by
  cases tokens with
  | nil =>
      rw [read, Place.ending?_of_statement? ends] at accepted
      cases accepted
      have noTokens : EndsBlock [] := by
        intro token isFirst
        cases isFirst
      exact Or.inr ⟨[], noTokens, rfl, rfl⟩
  | cons token rest =>
      obtain ⟨value, span⟩ := token
      by_cases comma : value = .comma
      · subst comma
        rw [read_comma ends] at accepted
        cases continued : read (.opened statement.value.kind) rest with
        | error mistake =>
            rw [continued] at accepted
            cases accepted
        | ok further =>
            rw [continued] at accepted
            cases accepted
            exact Or.inl ⟨span, rest, further, rfl, continued, rfl⟩
      · have endsBlock : EndsBlock (⟨value, span⟩ :: rest) := by
          intro token isFirst
          cases isFirst
          have notExtendedHere := notExtended _ rfl
          rw [read, notExtendedHere] at accepted
          unfold Place.reopen? at accepted
          rw [Place.ending?_of_statement? ends] at accepted
          cases value with
          | comma =>
              exact (comma rfl).elim
          | keyword word =>
              cases block : Token.block? (.keyword word) with
              | none =>
                  simp only [block] at accepted
                  cases accepted
              | some kind =>
                  rfl
          | _ =>
              cases accepted
        rw [read_of_endsBlock (Place.ending?_of_statement? ends) endsBlock] at accepted
        cases continued : read .outside (⟨value, span⟩ :: rest) with
        | error mistake =>
            rw [continued] at accepted
            cases accepted
        | ok further =>
            rw [continued] at accepted
            cases accepted
            exact Or.inr ⟨further, endsBlock, rfl, rfl⟩

/-- Outside of a block the program ends, or the keyword of a block comes next. -/
theorem nil_or_word_of_read
    (accepted : read .outside tokens = .ok statements) :
    (tokens = [] ∧ statements = []) ∨
      ∃ kind span rest,
        tokens = ⟨.keyword (StatementKind.word kind), span⟩ :: rest ∧
          read (.opened kind) rest = .ok statements := by
  cases tokens with
  | nil =>
      cases accepted
      exact Or.inl ⟨rfl, rfl⟩
  | cons token rest =>
      obtain ⟨value, span⟩ := token
      cases opens : value.block? with
      | none =>
          have refused : Place.outside.reopen? value = none := by
            unfold Place.reopen?
            split
            · rfl
            · rw [opens]
              rfl
          rw [read, refused] at accepted
          cases accepted
      | some kind =>
          cases Token.eq_word_of_block? opens
          rw [read_word [] rfl] at accepted
          cases continued : read (.opened kind) rest with
          | error mistake =>
              rw [continued] at accepted
              cases accepted
          | ok further =>
              rw [continued] at accepted
              cases accepted
              exact Or.inr ⟨kind, span, rest, rfl, continued⟩

end Program

/-- Further statements of a block are recovered, and the blocks after it. -/
theorem PairTree.exists_of_read_final
    {pair : PairTree kind}
    (ends : pair.Ends tokens)
    (accepted : read pair.final tokens = .ok statements) :
    ∃ (rest : List (Span × PairTree kind)) (program : ProgramTree),
      tokens = Separated.restTokens .comma PairTree.tokens rest ++ program.tokens ∧
        statements =
          pair.statement ::
            (rest.map (fun further => further.2.statement) ++ program.statements) := by
  induction length : tokens.length using Nat.strongRecOn
    generalizing kind pair tokens statements with
  | ind count inductionHypothesis =>
      rcases Program.comma_or_endsBlock_of_read pair.statement?_final ends accepted with
        ⟨span, more, further, rfl, continued, rfl⟩ |
        ⟨further, endsBlock, continued, rfl⟩
      · rw [PairTree.statement_kind] at continued
        obtain ⟨next, left, rfl, nextEnds, readLeft⟩ := exists_of_read kind continued
        have shorter : left.length < count := by
          simp only [List.length_cons, List.length_append] at length
          omega
        obtain ⟨rest, program, rfl, rfl⟩ :=
          inductionHypothesis left.length shorter nextEnds readLeft rfl
        refine ⟨(span, next) :: rest, program, ?_, rfl⟩
        rw [Separated.restTokens_cons, List.cons_append, List.append_assoc]
      · rcases Program.nil_or_word_of_read continued with
          ⟨rfl, rfl⟩ | ⟨following, keyword, more, rfl, readBlock⟩
        · exact ⟨[], [], rfl, rfl⟩
        · obtain ⟨first, left, rfl, firstEnds, readLeft⟩ :=
            exists_of_read following readBlock
          have shorter : left.length < count := by
            simp only [List.length_cons, List.length_append] at length
            omega
          obtain ⟨rest, program, rfl, rfl⟩ :=
            inductionHypothesis left.length shorter firstEnds readLeft rfl
          refine ⟨[], ⟨following, keyword, ⟨first, rest⟩⟩ :: program, ?_, ?_⟩
          · simp [BlockTree.tokens, Separated.tokens]
          · simp [BlockTree.statements, Separated.items, Function.comp_def]

/-- Whatever is read as a program has a derivation. -/
theorem ProgramTree.exists_of_read
    (accepted : read .outside tokens = .ok statements) :
    ∃ program : ProgramTree, program.tokens = tokens ∧ program.statements = statements := by
  rcases Program.nil_or_word_of_read accepted with
    ⟨rfl, rfl⟩ | ⟨kind, keyword, more, rfl, readBlock⟩
  · exact ⟨[], rfl, rfl⟩
  · obtain ⟨first, left, rfl, firstEnds, readLeft⟩ := PairTree.exists_of_read kind readBlock
    obtain ⟨rest, program, rfl, rfl⟩ := PairTree.exists_of_read_final firstEnds readLeft
    refine ⟨⟨kind, keyword, ⟨first, rest⟩⟩ :: program, ?_, ?_⟩
    · simp [BlockTree.tokens, Separated.tokens]
    · simp [BlockTree.statements, Separated.items, Function.comp_def]

/-! ## Sources -/

namespace Program

/-- A source that is cut into tokens is read from the significant ones. -/
theorem parse_eq_of_tokenize
    {source : String}
    {tokens : List (Located Token)}
    (tokenized : Lexeme.tokenize source = .ok tokens) :
    parse source =
      (read .outside (significant tokens)).mapError fun mistake =>
        ⟨[mistake.diagnostic (endOffset tokens)]⟩ := by
  unfold parse parseTokens ofTokens
  rw [tokenized]
  dsimp only
  cases read .outside (significant tokens) <;> rfl

/-- A source is a program if its significant tokens are read as one. -/
theorem parse_eq_ok_iff
    {source : String} :
    parse source = .ok statements ↔
      ∃ tokens,
        Lexeme.tokenize source = .ok tokens ∧
          read .outside (significant tokens) = .ok statements := by
  constructor
  · intro parsed
    cases tokenized : Lexeme.tokenize source with
    | error faults =>
        unfold parse parseTokens at parsed
        rw [tokenized] at parsed
        cases parsed
    | ok tokens =>
        rw [parse_eq_of_tokenize tokenized, Outcome.mapError_eq_ok_iff] at parsed
        exact ⟨tokens, rfl, parsed⟩
  · rintro ⟨tokens, tokenized, accepted⟩
    rw [parse_eq_of_tokenize tokenized, Outcome.mapError_eq_ok_iff]
    exact accepted

end Program

/-- The statements of a source are those of a derivation from its significant tokens. -/
theorem ProgramTree.exists_of_parse
    {source : String}
    (parsed : Program.parse source = .ok statements) :
    ∃ (tokens : List (Located Token)) (program : ProgramTree),
      Lexeme.tokenize source = .ok tokens ∧
        program.tokens = Program.significant tokens ∧
        program.statements = statements := by
  obtain ⟨tokens, tokenized, accepted⟩ := Program.parse_eq_ok_iff.1 parsed
  obtain ⟨program, tokensAre, statementsAre⟩ := exists_of_read accepted
  exact ⟨tokens, program, tokenized, tokensAre, statementsAre⟩

end LevelScript
