import LevelScript.Proofs.Lexeme.Writable
import LevelScript.Proofs.Name.Segments
import LevelScript.Proofs.Outcome

namespace LevelScript

/-!
# What can be printed

A statement is printed exactly if its names are identifiers, its numbers are finite and its
strings hold neither closing brackets nor carriage returns. Its places play no part.
-/

/-- The name is a plain one. -/
def Name.IsIdentifier
    (name : Name) :
    Prop :=
  Word.isIdentifier name.text = true

/-- The segments of the name are plain names. -/
def Name.IsPath
    (name : Name) :
    Prop :=
  name.segments.all Word.isIdentifier = true

/-- The components are finite. -/
def Vec3.IsFinite
    (vector : Vec3 Float) :
    Prop :=
  vector.x.isFinite = true ∧ vector.y.isFinite = true ∧ vector.z.isFinite = true

/-- The literal has a spelling. -/
def Literal.IsWritable :
    Literal Float →
    Prop
  | .string text => text.toList.any Canonical.isUnrepresentable = false
  | .number value => value.isFinite = true
  | .vector value => value.IsFinite

/-- The statement has a spelling. -/
def Statement.IsWritable :
    Statement Float →
    Prop
  | .abbreviation short className =>
      short.value.IsIdentifier ∧ className.value.IsPath
  | .declaration name className arguments =>
      (∀ argument ∈ arguments, argument.value.IsWritable) ∧
        name.value.IsIdentifier ∧
        className.value.IsPath
  | .placement name position relativeTo =>
      name.value.IsIdentifier ∧
        position.value.IsFinite ∧
        ∀ origin, relativeTo = some origin → origin.value.IsIdentifier
  | .connection moved movedConnector base baseConnector =>
      moved.value.IsIdentifier ∧
        movedConnector.value.IsIdentifier ∧
        base.value.IsIdentifier ∧
        baseConnector.value.IsIdentifier

namespace Canonical

open Outcome (bind_eq_ok_iff ite_eq_ok_iff)

theorem name_eq_ok_iff
    {given : Name}
    {text : List Char} :
    name given = .ok text ↔ given.IsIdentifier ∧ given.text.toList = text :=
  ite_eq_ok_iff

theorem dottedName_eq_ok_iff
    {given : Name}
    {text : List Char} :
    dottedName given = .ok text ↔ given.IsPath ∧ given.text.toList = text :=
  ite_eq_ok_iff

theorem number_eq_ok_iff
    {value : Float}
    {text : List Char} :
    number value = .ok text ↔
      value.isFinite = true ∧ Decimal.Layout.plain.characters value = text :=
  ite_eq_ok_iff

/-- The text of a vector. -/
def vectorText
    (vector : Vec3 Float) :
    List Char :=
  '(' :: (Decimal.Layout.plain.characters vector.x ++ ',' :: ' ' ::
    (Decimal.Layout.plain.characters vector.y ++ ',' :: ' ' ::
      (Decimal.Layout.plain.characters vector.z ++ [')'])))

theorem vector_eq_ok_iff
    {given : Vec3 Float}
    {text : List Char} :
    vector given = .ok text ↔ given.IsFinite ∧ vectorText given = text := by
  unfold vector Vec3.IsFinite
  simp only [bind_eq_ok_iff, number_eq_ok_iff]
  constructor
  · intro printed
    obtain ⟨_, ⟨finiteX, rfl⟩, _, ⟨finiteY, rfl⟩, _, ⟨finiteZ, rfl⟩, ⟨⟩⟩ := printed
    refine ⟨⟨finiteX, finiteY, finiteZ⟩, ?_⟩
    simp [vectorText]
  · intro writable
    obtain ⟨⟨finiteX, finiteY, finiteZ⟩, rfl⟩ := writable
    refine ⟨_, ⟨finiteX, rfl⟩, _, ⟨finiteY, rfl⟩, _, ⟨finiteZ, rfl⟩, ?_⟩
    simp [vectorText, pure, Except.pure]

/-- The text of a literal. -/
def literalCharacters :
    Literal Float →
    List Char
  | .string text => '[' :: (text.toList ++ [']'])
  | .number value => Decimal.Layout.plain.characters value
  | .vector value => vectorText value

/-- Exactly the writable literals are printed. -/
theorem literal_eq_ok_iff
    {given : Literal Float}
    {text : List Char} :
    literal given = .ok text ↔ given.IsWritable ∧ literalCharacters given = text := by
  cases given with
  | string content =>
      cases representable : content.toList.any isUnrepresentable <;>
        simp [literal, Literal.IsWritable, literalCharacters, representable]
  | number value =>
      exact number_eq_ok_iff
  | vector value =>
      exact vector_eq_ok_iff

/-- The text of further arguments, each after a comma. -/
def furtherArguments
    (literals : List (Located (Literal Float))) :
    List Char :=
  literals.flatMap fun argument => ',' :: ' ' :: literalCharacters argument.value

/-- The text of the arguments between the parentheses. -/
def argumentsText :
    List (Located (Literal Float)) →
    List Char
  | [] => []
  | first :: rest => literalCharacters first.value ++ furtherArguments rest

private theorem mapM_literal_eq_ok_iff
    {literals : List (Located (Literal Float))}
    {texts : List (List Char)} :
    literals.mapM (fun argument => literal argument.value) = .ok texts ↔
      (∀ argument ∈ literals, argument.value.IsWritable) ∧
        literals.map (fun argument => literalCharacters argument.value) = texts := by
  induction literals generalizing texts with
  | nil =>
      simp [pure, Except.pure]
  | cons first rest inductionHypothesis =>
      simp only [List.mapM_cons, bind_eq_ok_iff, literal_eq_ok_iff, inductionHypothesis]
      constructor
      · intro printed
        obtain ⟨_, ⟨firstWritable, rfl⟩, _, ⟨restWritable, rfl⟩, ⟨⟩⟩ := printed
        exact ⟨List.forall_mem_cons.2 ⟨firstWritable, restWritable⟩, rfl⟩
      · intro writable
        obtain ⟨allWritable, rfl⟩ := writable
        obtain ⟨firstWritable, restWritable⟩ := List.forall_mem_cons.1 allWritable
        exact ⟨_, ⟨firstWritable, rfl⟩, _, ⟨restWritable, rfl⟩, rfl⟩

/-- Texts with commas between them are the first text and the others after a comma each. -/
private theorem intercalate_commas
    (first : List Char)
    (rest : List (List Char)) :
    (", ".toList).intercalate (first :: rest) =
      first ++ rest.flatMap fun text => ',' :: ' ' :: text := by
  induction rest generalizing first with
  | nil =>
      simp [List.intercalate]
  | cons second more inductionHypothesis =>
      have further := inductionHypothesis second
      simp only [List.intercalate, List.intersperse_cons_cons, List.flatten_cons,
        List.flatMap_cons] at further ⊢
      rw [further]
      rfl

theorem arguments_eq_ok_iff
    {literals : List (Located (Literal Float))}
    {text : List Char} :
    arguments literals = .ok text ↔
      (∀ argument ∈ literals, argument.value.IsWritable) ∧ argumentsText literals = text := by
  have textIs :
      (", ".toList).intercalate
          (literals.map fun argument => literalCharacters argument.value) =
        argumentsText literals := by
    cases literals with
    | nil =>
        rfl
    | cons first rest =>
        rw [List.map_cons, intercalate_commas, List.flatMap_map]
        rfl
  unfold arguments
  simp only [bind_eq_ok_iff, mapM_literal_eq_ok_iff]
  constructor
  · intro printed
    obtain ⟨_, ⟨allWritable, rfl⟩, ⟨⟩⟩ := printed
    exact ⟨allWritable, textIs.symm⟩
  · intro writable
    obtain ⟨allWritable, rfl⟩ := writable
    exact ⟨_, ⟨allWritable, rfl⟩, congrArg Except.ok textIs⟩

/-- A reserved word between two spaces. -/
def spacedWord
    (word : Keyword) :
    List Char :=
  ' ' :: (word.text.toList ++ [' '])

/-- The text of a reference point, if there is one. -/
def originText :
    Option (Located Name) →
    List Char
  | none => []
  | some origin => spacedWord .fromWord ++ origin.value.text.toList

/-- The text of a statement without its keyword. -/
def pairText :
    Statement Float →
    List Char
  | .abbreviation short className =>
      short.value.text.toList ++ spacedWord .asWord ++ className.value.text.toList
  | .declaration name className literals =>
      name.value.text.toList ++ spacedWord .beWord ++ className.value.text.toList ++ ['('] ++
        argumentsText literals ++ [')']
  | .placement name position relativeTo =>
      name.value.text.toList ++ spacedWord .atWord ++ vectorText position.value ++
        originText relativeTo
  | .connection moved movedConnector base baseConnector =>
      moved.value.text.toList ++ ['.'] ++ movedConnector.value.text.toList ++
        spacedWord .toWord ++ base.value.text.toList ++ ['.'] ++ baseConnector.value.text.toList

private theorem origin_eq_ok_iff
    {given : Located Name}
    {text : List Char} :
    (" from ".toList ++ ·) <$> name given.value = .ok text ↔
      given.value.IsIdentifier ∧ originText (some given) = text := by
  change (name given.value).map _ = .ok text ↔ _
  simp only [Outcome.map_eq_ok_iff, name_eq_ok_iff]
  constructor
  · intro printed
    obtain ⟨_, ⟨givenIs, rfl⟩, rfl⟩ := printed
    exact ⟨givenIs, rfl⟩
  · intro writable
    obtain ⟨givenIs, rfl⟩ := writable
    exact ⟨_, ⟨givenIs, rfl⟩, rfl⟩

/-- Exactly the writable statements are printed. -/
theorem pair_eq_ok_iff
    {statement : Statement Float}
    {text : List Char} :
    pair statement = .ok text ↔ statement.IsWritable ∧ pairText statement = text := by
  cases statement with
  | abbreviation short className =>
      unfold pair Statement.IsWritable
      simp only [bind_eq_ok_iff, name_eq_ok_iff, dottedName_eq_ok_iff]
      constructor
      · intro printed
        obtain ⟨_, ⟨shortIs, rfl⟩, _, ⟨classIs, rfl⟩, ⟨⟩⟩ := printed
        exact ⟨⟨shortIs, classIs⟩, rfl⟩
      · intro writable
        obtain ⟨⟨shortIs, classIs⟩, rfl⟩ := writable
        exact ⟨_, ⟨shortIs, rfl⟩, _, ⟨classIs, rfl⟩, rfl⟩
  | declaration entity className literals =>
      unfold pair Statement.IsWritable
      simp only [bind_eq_ok_iff, name_eq_ok_iff, dottedName_eq_ok_iff, arguments_eq_ok_iff]
      constructor
      · intro printed
        obtain ⟨_, ⟨literalsAre, rfl⟩, _, ⟨nameIs, rfl⟩, _, ⟨classIs, rfl⟩, ⟨⟩⟩ := printed
        exact ⟨⟨literalsAre, nameIs, classIs⟩, rfl⟩
      · intro writable
        obtain ⟨⟨literalsAre, nameIs, classIs⟩, rfl⟩ := writable
        exact ⟨_, ⟨literalsAre, rfl⟩, _, ⟨nameIs, rfl⟩, _, ⟨classIs, rfl⟩, rfl⟩
  | placement entity position relativeTo =>
      unfold pair Statement.IsWritable
      cases relativeTo with
      | none =>
          simp only [bind_eq_ok_iff, name_eq_ok_iff, vector_eq_ok_iff]
          constructor
          · intro printed
            obtain ⟨_, ⟨nameIs, rfl⟩, _, ⟨finite, rfl⟩, _, ⟨⟩, ⟨⟩⟩ := printed
            exact ⟨⟨nameIs, finite, by simp⟩, rfl⟩
          · intro writable
            obtain ⟨⟨nameIs, finite, _⟩, rfl⟩ := writable
            exact ⟨_, ⟨nameIs, rfl⟩, _, ⟨finite, rfl⟩, _, rfl, rfl⟩
      | some origin =>
          simp only [bind_eq_ok_iff, name_eq_ok_iff, vector_eq_ok_iff, origin_eq_ok_iff,
            Option.some.injEq, forall_eq']
          constructor
          · intro printed
            obtain ⟨_, ⟨nameIs, rfl⟩, _, ⟨finite, rfl⟩, _, ⟨originIs, rfl⟩, ⟨⟩⟩ := printed
            exact ⟨⟨nameIs, finite, originIs⟩, rfl⟩
          · intro writable
            obtain ⟨⟨nameIs, finite, originIs⟩, rfl⟩ := writable
            exact ⟨_, ⟨nameIs, rfl⟩, _, ⟨finite, rfl⟩, _, ⟨originIs, rfl⟩, rfl⟩
  | connection moved movedConnector base baseConnector =>
      unfold pair Statement.IsWritable
      simp only [bind_eq_ok_iff, name_eq_ok_iff]
      constructor
      · intro printed
        obtain ⟨_, ⟨movedIs, rfl⟩, _, ⟨movedConnectorIs, rfl⟩, _, ⟨baseIs, rfl⟩, _,
          ⟨baseConnectorIs, rfl⟩, ⟨⟩⟩ := printed
        exact ⟨⟨movedIs, movedConnectorIs, baseIs, baseConnectorIs⟩, rfl⟩
      · intro writable
        obtain ⟨⟨movedIs, movedConnectorIs, baseIs, baseConnectorIs⟩, rfl⟩ := writable
        exact
          ⟨_, ⟨movedIs, rfl⟩, _, ⟨movedConnectorIs, rfl⟩, _, ⟨baseIs, rfl⟩, _,
            ⟨baseConnectorIs, rfl⟩, rfl⟩

/-- The text of statements that follow one of the given kind, if any does. -/
def followingText
    (layout : PageLayout)
    (previous : Option StatementKind) :
    List (Located (Statement Float)) →
    List Char
  | [] => if previous.isSome then ['\n'] else []
  | statement :: rest =>
      opening layout previous statement.value.kind ++ pairText statement.value ++
        followingText layout (some statement.value.kind) rest

/-- Exactly the rows of writable statements are printed. -/
theorem following_eq_ok_iff
    {layout : PageLayout}
    {previous : Option StatementKind}
    {statements : List (Located (Statement Float))}
    {text : List Char} :
    following layout previous statements = .ok text ↔
      (∀ statement ∈ statements, statement.value.IsWritable) ∧
        followingText layout previous statements = text := by
  induction statements generalizing previous text with
  | nil =>
      simp [following, followingText]
  | cons statement rest inductionHypothesis =>
      unfold following followingText
      simp only [bind_eq_ok_iff, pair_eq_ok_iff, inductionHypothesis, List.forall_mem_cons]
      constructor
      · intro printed
        obtain ⟨_, ⟨firstWritable, rfl⟩, _, ⟨restWritable, rfl⟩, ⟨⟩⟩ := printed
        exact ⟨⟨firstWritable, restWritable⟩, rfl⟩
      · intro writable
        obtain ⟨⟨firstWritable, restWritable⟩, rfl⟩ := writable
        exact ⟨_, ⟨firstWritable, rfl⟩, _, ⟨restWritable, rfl⟩, rfl⟩

/-- The canonical text exists exactly for programs of writable statements. -/
theorem format_eq_ok_iff
    {layout : PageLayout}
    {statements : List (Located (Statement Float))}
    {text : String} :
    format layout statements = .ok text ↔
      (∀ statement ∈ statements, statement.value.IsWritable) ∧
        String.ofList (followingText layout none statements) = text := by
  unfold format
  rw [Outcome.map_eq_ok_iff]
  simp only [following_eq_ok_iff]
  constructor
  · intro printed
    obtain ⟨_, ⟨allWritable, rfl⟩, rfl⟩ := printed
    exact ⟨allWritable, rfl⟩
  · intro writable
    obtain ⟨allWritable, rfl⟩ := writable
    exact ⟨_, ⟨allWritable, rfl⟩, rfl⟩

/-- Writable statements have a canonical text. -/
theorem format_of_writable
    (layout : PageLayout)
    {statements : List (Located (Statement Float))}
    (writable : ∀ statement ∈ statements, statement.value.IsWritable) :
    format layout statements = .ok (String.ofList (followingText layout none statements)) :=
  format_eq_ok_iff.2 ⟨writable, rfl⟩

end Canonical

end LevelScript
