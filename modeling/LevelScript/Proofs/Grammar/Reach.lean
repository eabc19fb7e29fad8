import LevelScript.Proofs.Grammar.Completeness
import LevelScript.Proofs.Grammar.Respan

namespace LevelScript

/-!
# Places that are reached

A row of tokens leads from a place to another one, or it gets stuck at the first token that
can neither extend the statement nor open the next one. Reading succeeds if the last place is
one where the program may end, and fails at the place where the tokens get stuck.
-/

namespace Place

/-- The place after a token, within the same statement or at the start of the next one. -/
def advance?
    (place : Place)
    (token : Located Token) :
    Option Place :=
  (place.extend? token).or ((place.reopen? token.value).map Prod.snd)

/-- The place after a row of tokens. -/
def reach?
    (place : Place) :
    List (Located Token) →
    Option Place
  | [] => some place
  | token :: rest => (place.advance? token).bind fun next => reach? next rest

@[simp] theorem reach?_nil
    (place : Place) :
    place.reach? [] = some place :=
  rfl

@[simp] theorem reach?_cons
    (place : Place)
    (token : Located Token)
    (rest : List (Located Token)) :
    place.reach? (token :: rest) =
      (place.advance? token).bind fun next => next.reach? rest :=
  rfl

/-- The second row of tokens goes on where the first one leads. -/
theorem reach?_append
    (place : Place)
    (first second : List (Located Token)) :
    place.reach? (first ++ second) = (place.reach? first).bind fun next => next.reach? second := by
  induction first generalizing place with
  | nil =>
      rfl
  | cons token rest inductionHypothesis =>
      cases advanced : place.advance? token <;> simp [advanced, inductionHypothesis]

theorem advance?_respan
    {move : Span → Span}
    (preserves : Span.PreservesUnion move)
    (place : Place)
    (token : Located Token) :
    (place.respan move).advance? (token.respan move) =
      (place.advance? token).map (respan move) := by
  have sameValue : (token.respan move).value = token.value :=
    rfl
  unfold advance?
  rw [extend?_respan preserves, sameValue, reopen?_respan preserves]
  cases place.extend? token with
  | some next =>
      rfl
  | none =>
      cases place.reopen? token.value <;> rfl

/-- Moved tokens lead to the moved place. -/
theorem reach?_respan
    {move : Span → Span}
    (preserves : Span.PreservesUnion move)
    (place : Place)
    (tokens : List (Located Token)) :
    (place.respan move).reach? (tokens.map (Located.respan move)) =
      (place.reach? tokens).map (respan move) := by
  induction tokens generalizing place with
  | nil =>
      rfl
  | cons token rest inductionHypothesis =>
      rw [List.map_cons, reach?_cons, reach?_cons, advance?_respan preserves]
      cases place.advance? token with
      | none =>
          rfl
      | some next =>
          exact inductionHypothesis next

end Place

/-! ## Reading by reaching -/

namespace Program

open Place

variable {place next : Place} {token : Located Token} {tokens : List (Located Token)}

/-- After a token that leads on, reading goes on at the next place. -/
theorem read_cons_of_advance?
    (advanced : place.advance? token = some next)
    (rest : List (Located Token)) :
    ∃ before, read place (token :: rest) = (read next rest).map (before ++ ·) := by
  rcases Option.or_eq_some_iff.1 advanced with extended | ⟨notExtended, isReopened⟩
  · refine ⟨[], ?_⟩
    rw [read_of_extend? next extended]
    cases read next rest <;> rfl
  · obtain ⟨⟨before, _⟩, reopened, rfl⟩ := Option.map_eq_some_iff.1 isReopened
    refine ⟨before, ?_⟩
    rw [read, notExtended, reopened]

/-- A token that leads nowhere is a mistake. -/
theorem read_cons_of_advance?_eq_none
    (stuck : place.advance? token = none)
    (rest : List (Located Token)) :
    read place (token :: rest) = .error ⟨place, some token⟩ := by
  obtain ⟨notExtended, notReopened⟩ := Option.or_eq_none_iff.1 stuck
  rw [read, notExtended, Option.map_eq_none_iff.1 notReopened]

/-- A program is read exactly if its tokens lead to a place where it may end. -/
theorem exists_read_eq_ok_iff
    (place : Place)
    (tokens : List (Located Token)) :
    (∃ statements, read place tokens = .ok statements) ↔
      ∃ stop, place.reach? tokens = some stop ∧ stop.ending?.isSome := by
  induction tokens generalizing place with
  | nil =>
      rw [read]
      cases ending : place.ending? <;> simp [ending]
  | cons token rest inductionHypothesis =>
      rw [reach?_cons]
      cases advanced : place.advance? token with
      | none =>
          rw [read_cons_of_advance?_eq_none advanced]
          simp
      | some next =>
          obtain ⟨before, readIs⟩ := read_cons_of_advance? advanced rest
          rw [readIs, Option.bind_some, ← inductionHypothesis next]
          cases read next rest <;> simp [Except.map]

/-- A mistake lies between the tokens that lead to its place and those that get stuck there. -/
structure GetsStuck
    (place : Place)
    (before after : List (Located Token))
    (mistake : Mistake) :
    Prop where
  reached : place.reach? before = some mistake.place
  found : mistake.found = after.head?
  stuck : ∀ token, after.head? = some token → mistake.place.advance? token = none
  unfinished : after = [] → mistake.place.ending? = none

/-- A mistake is found where the tokens get stuck. -/
theorem exists_getsStuck_of_read
    {mistake : Mistake}
    (failed : read place tokens = .error mistake) :
    ∃ before after, tokens = before ++ after ∧ GetsStuck place before after mistake := by
  induction tokens generalizing place with
  | nil =>
      rw [read] at failed
      cases ending : place.ending? with
      | some statements =>
          rw [ending] at failed
          cases failed
      | none =>
          rw [ending] at failed
          cases failed
          exact ⟨[], [], rfl, rfl, rfl, by simp, fun _ => ending⟩
  | cons token rest inductionHypothesis =>
      cases advanced : place.advance? token with
      | none =>
          rw [read_cons_of_advance?_eq_none advanced] at failed
          cases failed
          refine ⟨[], token :: rest, rfl, rfl, rfl, ?_, by simp⟩
          rintro _ ⟨⟩
          exact advanced
      | some next =>
          obtain ⟨statements, readIs⟩ := read_cons_of_advance? advanced rest
          rw [readIs] at failed
          have failedAfter : read next rest = .error mistake := by
            cases readAfter : read next rest <;> simp_all [Except.map]
          obtain ⟨before, after, rfl, getsStuck⟩ := inductionHypothesis failedAfter
          refine ⟨token :: before, after, rfl, { getsStuck with reached := ?_ }⟩
          rw [reach?_cons, advanced]
          exact getsStuck.reached

end Program

/-! ## The block around a place -/

/-- The kind of the block in which a place lies. -/
def Place.kind? :
    Place →
    Option StatementKind
  | .outside => none
  | .complete statement => some statement.value.kind
  | .opened kind => some kind
  | .abbreviationClass _ _ => some .abbreviation
  | .placementPosition _ _ => some .placement
  | place => place.within?

/-- The kind of the block that the last keyword of a block opens. -/
def Program.lastBlock?
    (tokens : List (Located Token)) :
    Option StatementKind :=
  (tokens.filterMap fun token => token.value.block?).getLast?

namespace Place

theorem kind?_of_within?
    {place : Place}
    {kind : StatementKind}
    (within : place.within? = some kind) :
    place.kind? = some kind := by
  cases place with
  | outside =>
      cases within
  | complete statement =>
      cases within
  | abbreviationClass short className =>
      cases within
  | placementPosition name position =>
      cases within
  | _ =>
      exact within

/-- The program may end wherever no statement has been begun. -/
theorem within?_eq_none_iff
    (place : Place) :
    place.within? = none ↔ place.ending?.isSome := by
  cases place <;> simp [within?, ending?, statement?]

theorem kind?_of_statement?
    {place : Place}
    {statement : Located (Statement Float)}
    (ends : place.statement? = some statement) :
    place.kind? = some statement.value.kind := by
  cases place with
  | complete other =>
      cases ends
      rfl
  | abbreviationClass short className =>
      cases ends
      rfl
  | placementPosition name position =>
      cases ends
      rfl
  | _ =>
      cases ends

/-- The keyword of a block belongs to no statement. -/
theorem extend?_eq_none_of_block?
    (place : Place)
    {token : Located Token}
    {kind : StatementKind}
    (opens : token.value.block? = some kind) :
    place.extend? token = none := by
  obtain ⟨value, span⟩ := token
  cases Token.eq_word_of_block? opens
  cases place with
  | argumentVector declaration opening vector =>
      cases vector <;> cases kind <;> rfl
  | placementVector name opening vector =>
      cases vector <;> cases kind <;> rfl
  | _ =>
      cases kind <;> rfl

theorem kind?_of_argument?
    {declaration : OpenDeclaration}
    {next : Place}
    {token : Located Token}
    (extended : argument? declaration token = some next) :
    next.kind? = some .declaration := by
  unfold argument? at extended
  split at extended <;> cases extended <;> rfl

theorem kind?_of_vector?
    {within : VectorPlace → Place}
    {closed : Located (Vec3 Float) → Place}
    {opening : Span}
    {vector : VectorPlace}
    {next : Place}
    {token : Located Token}
    {kind : StatementKind}
    (withinKind : ∀ place, (within place).kind? = some kind)
    (closedKind : ∀ value, (closed value).kind? = some kind)
    (extended : vector? within closed opening vector token = some next) :
    next.kind? = some kind := by
  unfold vector? at extended
  split at extended
  · cases extended
    exact withinKind _
  · obtain ⟨value, _, rfl⟩ := Option.map_eq_some_iff.1 extended
    exact closedKind _

/-- A token that extends a statement stays in its block. -/
theorem kind?_of_extend?
    {place next : Place}
    {token : Located Token}
    (extended : place.extend? token = some next) :
    next.kind? = place.kind? := by
  cases place with
  | argumentVector declaration opening vector =>
      exact
        @kind?_of_vector? (argumentVector declaration opening)
          (fun value => argumentRead (declaration.push (value.map .vector))) opening vector next
          token _ (fun _ => rfl) (fun _ => rfl) extended
  | placementVector name opening vector =>
      exact
        @kind?_of_vector? (placementVector name opening) (placementPosition name) opening vector
          next token _ (fun _ => rfl) (fun _ => rfl) extended
  | argumentsComma declaration =>
      exact @kind?_of_argument? declaration next token extended
  | argumentsOpened declaration =>
      by_cases closing : token.value = .rightParenthesis
      · obtain ⟨value, span⟩ := token
        cases closing
        cases extended
        rfl
      · rw [extend?_argumentsOpened declaration token closing] at extended
        exact kind?_of_argument? extended
  | opened kind =>
      obtain ⟨name, _, rfl⟩ := Option.map_eq_some_iff.1 extended
      cases kind <;> rfl
  | _ =>
      obtain ⟨value, span⟩ := token
      cases value with
      | keyword word =>
          cases word <;> cases extended <;> rfl
      | _ =>
          cases extended <;> rfl

/-- A token that opens the next statement stays in the block or opens another one. -/
theorem kind?_of_reopen?
    {place next : Place}
    {token : Token}
    {statements : List (Located (Statement Float))}
    (reopened : place.reopen? token = some (statements, next)) :
    next.kind? = token.block?.or place.kind? := by
  unfold reopen? at reopened
  split at reopened
  case h_1 =>
    obtain ⟨statement, ends, result⟩ := Option.map_eq_some_iff.1 reopened
    cases result
    exact (kind?_of_statement? ends).symm
  case h_2 =>
    split at reopened
    case h_1 opens =>
      cases reopened
      rw [opens]
      rfl
    case h_2 =>
      cases reopened

/-- A token that opens a block leads into it, and every other token stays in the block. -/
theorem kind?_of_advance?
    {place next : Place}
    {token : Located Token}
    (advanced : place.advance? token = some next) :
    next.kind? = token.value.block?.or place.kind? := by
  rcases Option.or_eq_some_iff.1 advanced with extended | ⟨_, isReopened⟩
  · cases opens : token.value.block? with
    | some kind =>
        rw [extend?_eq_none_of_block? place opens] at extended
        cases extended
    | none =>
        exact kind?_of_extend? extended
  · obtain ⟨⟨statements, after⟩, reopened, rfl⟩ := Option.map_eq_some_iff.1 isReopened
    exact kind?_of_reopen? reopened

/-- A place lies in the block that was opened last. -/
theorem kind?_of_reach?
    {place stop : Place}
    {tokens : List (Located Token)}
    (reached : place.reach? tokens = some stop) :
    stop.kind? = (Program.lastBlock? tokens).or place.kind? := by
  unfold Program.lastBlock?
  induction tokens generalizing place with
  | nil =>
      cases reached
      rfl
  | cons token rest inductionHypothesis =>
      obtain ⟨next, advanced, reachedAfter⟩ := Option.bind_eq_some_iff.1 reached
      rw [inductionHypothesis reachedAfter, kind?_of_advance? advanced, List.filterMap_cons]
      cases token.value.block? with
      | none =>
          rfl
      | some kind =>
          rw [List.getLast?_cons]
          cases (rest.filterMap fun token => token.value.block?).getLast? <;> rfl

end Place

end LevelScript
