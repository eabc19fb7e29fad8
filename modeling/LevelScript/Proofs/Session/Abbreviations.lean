import LevelScript.Proofs.Construction.Resolution
import LevelScript.Proofs.Session.NameTable

namespace LevelScript

/-!
# Abbreviations

A program means the same with all short names written out. A short name stands for a class
that was found when it was introduced, so a declaration by a short name never lacks its
class.
-/

variable {α : Type}

namespace Program

/-- A statement without short names: a declaration names its class, an abbreviation is gone. -/
def expanded?
    (earlier : List (Located (Statement α)))
    (statement : Located (Statement α)) :
    Option (Located (Statement α)) :=
  match statement.value with
  | .abbreviation _ _ => none
  | .declaration name className arguments =>
      let written := className.map fun short => (abbreviated? earlier short).getD short
      some ⟨.declaration name written arguments, statement.span⟩
  | _ => some statement

/-- The statements after some earlier ones, without short names. -/
def expandedAfter
    (earlier : List (Located (Statement α))) :
    List (Located (Statement α)) →
    List (Located (Statement α))
  | [] => []
  | statement :: rest =>
      (expanded? earlier statement).toList ++ expandedAfter (earlier ++ [statement]) rest

/-- The program without short names. -/
def expanded
    (statements : List (Located (Statement α))) :
    List (Located (Statement α)) :=
  expandedAfter [] statements

/-- Every abbreviation names a class of entities. -/
def AbbreviatesClasses
    (registry : Registry α)
    (statements : List (Located (Statement α))) :
    Prop :=
  ∀ statement ∈ statements, ∀ short className,
    statement.value = .abbreviation short className →
      ∃ entityClass, registry.lookup className.value = .found entityClass

end Program

namespace Session

/-! ## Sessions without short names -/

/-- The session as it is without any abbreviation. -/
def withoutAliases
    (session : Session α) :
    Session α :=
  { session with aliases := Table.empty }

section Steps

variable (registry : Registry α) (policy : RedeclarationPolicy) (session : Session α)

theorem abbreviate_withoutAliases
    (short : Located Name)
    {className : Located Name}
    {entityClass : EntityClass α}
    (isClass : registry.lookup className.value = .found entityClass) :
    (session.abbreviate registry short className).outcome >>=
        (fun next => .ok next.withoutAliases) =
      .ok session.withoutAliases := by
  refine Outcome.bind_eq_ok_iff.2 ⟨_, abbreviate_eq_ok_iff.2 ⟨?resolved, rfl⟩, rfl⟩
  case resolved =>
    exact ⟨entityClass, Registry.resolve_eq_ok_iff.2 isClass⟩

theorem declare_withoutAliases
    (span : Span)
    (name className : Located Name)
    (arguments : List (Located (Literal α))) :
    (session.withoutAliases.declare registry policy span name
        (className.map session.expandClass) arguments).outcome =
      (session.declare registry policy span name className arguments).outcome >>= fun next =>
        .ok next.withoutAliases := by
  unfold declare
  simp only [Logged.outcome_bind, Logged.outcome_pure, bind_assoc]
  rfl

variable [Scalar α]

theorem place_withoutAliases
    (name : Located Name)
    (position : Vec3 α)
    (relativeTo : Option (Located Name)) :
    (session.withoutAliases.place name position relativeTo).outcome =
      (session.place name position relativeTo).outcome >>= fun next =>
        .ok next.withoutAliases := by
  unfold place
  cases relativeTo <;>
    simp only [Logged.outcome_bind, Logged.outcome_pure, bind_assoc] <;>
    rfl

theorem connect_withoutAliases
    (moved movedConnector base baseConnector : Located Name) :
    (session.withoutAliases.connect moved movedConnector base baseConnector).outcome =
      (session.connect moved movedConnector base baseConnector).outcome >>= fun next =>
        .ok next.withoutAliases := by
  unfold connect
  simp only [Logged.outcome_bind, Logged.outcome_pure, bind_assoc]
  rfl

/-- A statement without short names does the same in a session without short names. -/
theorem run_expanded?
    {earlier : List (Located (Statement α))}
    (aliases : ∀ short, session.aliases.get? short = Program.abbreviated? earlier short)
    (statement : Located (Statement α))
    (abbreviatesClass : Program.AbbreviatesClasses registry [statement]) :
    (session.withoutAliases.run registry policy
        (Program.expanded? earlier statement).toList).outcome =
      (session.step registry policy statement).outcome >>= fun next =>
        .ok next.withoutAliases := by
  obtain ⟨value, span⟩ := statement
  cases value with
  | abbreviation short className =>
      obtain ⟨entityClass, isClass⟩ :=
        abbreviatesClass _ (List.mem_singleton_self _) short className rfl
      exact (abbreviate_withoutAliases registry session short isClass).symm
  | declaration name className arguments =>
      have written :
          (className.map fun short => (Program.abbreviated? earlier short).getD short) =
            className.map session.expandClass := by
        simp [Located.map, expandClass, aliases]
      simp only [Program.expanded?, written, Option.toList_some, outcome_run_singleton]
      exact declare_withoutAliases registry policy session span name className arguments
  | placement name position relativeTo =>
      simp only [Program.expanded?, Option.toList_some, outcome_run_singleton]
      exact place_withoutAliases session name position.value relativeTo
  | connection moved movedConnector base baseConnector =>
      simp only [Program.expanded?, Option.toList_some, outcome_run_singleton]
      exact connect_withoutAliases session moved movedConnector base baseConnector

end Steps

/-- Statements without short names do the same, however many there are. -/
theorem run_expandedAfter
    [Scalar α]
    {registry : Registry α}
    (policy : RedeclarationPolicy)
    {session : Session α}
    {earlier statements : List (Located (Statement α))}
    (tracks : Tracks earlier session)
    (abbreviatesClasses : Program.AbbreviatesClasses registry statements) :
    (session.withoutAliases.run registry policy
        (Program.expandedAfter earlier statements)).outcome =
      (session.run registry policy statements).outcome >>= fun final =>
        .ok final.withoutAliases := by
  induction statements generalizing earlier session with
  | nil =>
      rfl
  | cons statement rest inductionHypothesis =>
      have first : Program.AbbreviatesClasses registry [statement] := by
        intro other member
        rw [List.mem_singleton.1 member]
        exact abbreviatesClasses statement List.mem_cons_self
      have later : Program.AbbreviatesClasses registry rest := fun other member =>
        abbreviatesClasses other (List.mem_cons_of_mem statement member)
      rw [Program.expandedAfter, outcome_run_append,
        run_expanded? registry policy session tracks.aliases statement first]
      simp only [run, Logged.outcome_bind]
      cases succeeded : (session.step registry policy statement).outcome with
      | error error =>
          rfl
      | ok next =>
          exact inductionHypothesis (tracks.step (step_eq_ok_iff.1 succeeded)) later

/-! ## Classes of short names -/

/-- Every short name of a session stands for a class of entities. -/
def AliasesResolve
    (registry : Registry α)
    (session : Session α) :
    Prop :=
  ∀ short className,
    session.aliases.get? short = some className →
      ∃ entityClass, registry.lookup className = .found entityClass

theorem aliasesResolve_empty
    (registry : Registry α) :
    AliasesResolve registry empty := by
  intro short className stored
  cases stored

section Classes

variable {registry : Registry α} {policy : RedeclarationPolicy} {session next : Session α}

/-- An abbreviation succeeds only for a class, and other statements change no short name. -/
theorem AliasesResolve.step
    [Scalar α]
    {statement : Located (Statement α)}
    (resolves : AliasesResolve registry session)
    (succeeds : Succeeds registry policy session statement next) :
    AliasesResolve registry next := by
  cases succeeds with
  | @abbreviation short className _ entityClass resolved =>
      intro name target stored
      by_cases same : name = short.value
      · rw [same, Table.get?_insert_self, Option.some.injEq] at stored
        exact ⟨entityClass, stored ▸ Registry.resolve_eq_ok_iff.1 resolved⟩
      · rw [Table.get?_insert_of_ne _ _ same] at stored
        exact resolves name target stored
  | declaration _ _ =>
      exact resolves
  | absolute _ =>
      exact resolves
  | relative _ _ =>
      exact resolves
  | connection _ _ _ _ =>
      exact resolves

/-- In every session that a run passes through short names stand for classes. -/
theorem aliasesResolve_of_run
    [Scalar α]
    {statements : List (Located (Statement α))}
    (ran : (empty.run registry policy statements).outcome = .ok session) :
    AliasesResolve registry session :=
  invariant_of_run AliasesResolve.step (aliasesResolve_empty registry) ran

theorem kind_of_checkName_eq_error
    {name : Located Name}
    {error : LoadError}
    (failed : (checkName policy session name).outcome = .error error) :
    error.kind = .duplicateName := by
  unfold checkName at failed
  split at failed
  · cases policy <;> cases failed
    rfl
  · cases failed

/-- A declaration by a short name fails for another reason than its class. -/
theorem AliasesResolve.kind_of_declare_eq_error
    (resolves : AliasesResolve registry session)
    {span : Span}
    {name className : Located Name}
    {target : Name}
    {arguments : List (Located (Literal α))}
    {error : LoadError}
    (isShort : session.aliases.get? className.value = some target)
    (failed :
      (session.declare registry policy span name className arguments).outcome =
        .error error) :
    error.kind ≠ .invalidClass ∧ error.kind ≠ .incompatibleClass := by
  obtain ⟨entityClass, isClass⟩ := resolves _ _ isShort
  have written : session.expandClass className.value = target := by
    rw [expandClass, isShort, Option.getD_some]
  unfold declare at failed
  rw [written] at failed
  simp only [Logged.outcome_bind, Outcome.bind_eq_error_iff] at failed
  rcases failed with checkFailed | ⟨_, _, buildFailed | ⟨_, _, loggingFailed⟩⟩
  · rw [kind_of_checkName_eq_error checkFailed]
    decide
  · rcases Registry.kind_of_construct_eq_error isClass buildFailed with kind | kind
    · rw [kind]
      decide
    · rw [kind]
      decide
  · simp at loggingFailed

end Classes

end Session

/--
A program gives the same level, or fails with the same error, with its short names written
out, if all of them are introduced for classes of entities. In whatever session a run of
statements ends, a declaration by one of their short names does not fail for its class.
-/
theorem Level.ofStatements_expanded
    [Scalar α]
    (registry : Registry α)
    (policy : RedeclarationPolicy)
    (statements : List (Located (Statement α))) :
    (Program.AbbreviatesClasses registry statements →
      (ofStatements registry policy (Program.expanded statements)).outcome =
        (ofStatements registry policy statements).outcome) ∧
      ∀ (session : Session α) (name className : Located Name) (target : Name)
        (arguments : List (Located (Literal α))) (span : Span) (error : LoadError),
        (Session.empty.run registry policy statements).outcome = .ok session →
          Program.abbreviated? statements className.value = some target →
          (session.step registry policy
              ⟨.declaration name className arguments, span⟩).outcome = .error error →
          error.kind ≠ .invalidClass ∧ error.kind ≠ .incompatibleClass := by
  constructor
  · intro abbreviatesClasses
    have sameRun := Session.run_expandedAfter policy Session.tracks_empty abbreviatesClasses
    rw [outcome_ofStatements, outcome_ofStatements, Program.expanded]
    change (Session.empty.withoutAliases.run registry policy _).outcome >>= _ = _
    rw [sameRun, bind_assoc]
    rfl
  · intro session name className target arguments span error ran isShort failed
    have tracks : Session.Tracks statements session := Session.tracks_empty.run ran
    have resolves := Session.aliasesResolve_of_run ran
    simp only [Session.step, Logged.outcome_bind, Logged.outcome_emit] at failed
    exact resolves.kind_of_declare_eq_error ((tracks.aliases _).trans isShort) failed

/-- A registry of boxes that are built from nothing. -/
def plainBoxes : Registry Float :=
  Registry.empty.register ⟨⟨"Box"⟩, [⟨[], fun _ => .ok ⟨Transform.identity, none⟩⟩]⟩

/-- A box that is declared by a short name. -/
def shortBox : List (Located (Statement Float)) :=
  [.unplaced (.abbreviation (.unplaced ⟨"b"⟩) (.unplaced ⟨"Box"⟩)),
    .unplaced (.declaration (.unplaced ⟨"e"⟩) (.unplaced ⟨"b"⟩) [])]

/-- The box is the same by its full name, and another one by the short name lacks no class. -/
theorem Level.ofStatements_expanded_box :
    ∃ (session : Session Float) (error : LoadError),
      Program.AbbreviatesClasses plainBoxes shortBox ∧
        Program.expanded shortBox =
          [.unplaced (.declaration (.unplaced ⟨"e"⟩) (.unplaced ⟨"Box"⟩) [])] ∧
        (ofStatements plainBoxes .reject (Program.expanded shortBox)).outcome =
          (ofStatements plainBoxes .reject shortBox).outcome ∧
        (Session.empty.run plainBoxes .reject shortBox).outcome = .ok session ∧
        Program.abbreviated? shortBox ⟨"b"⟩ = some ⟨"Box"⟩ ∧
        (session.step plainBoxes .reject
            (.unplaced
              (.declaration (.unplaced ⟨"f"⟩) (.unplaced ⟨"b"⟩)
                [.unplaced (.string "red")]))).outcome = .error error ∧
        error.kind ≠ .invalidClass ∧
        error.kind ≠ .incompatibleClass := by
  have abbreviatesClasses : Program.AbbreviatesClasses plainBoxes shortBox := by
    intro statement member short className isAbbreviation
    simp only [shortBox, List.mem_cons, List.not_mem_nil, or_false] at member
    rcases member with rfl | rfl
    · cases isAbbreviation
      exact ⟨_, rfl⟩
    · cases isAbbreviation
  obtain ⟨sameLevel, keepsClass⟩ := ofStatements_expanded plainBoxes .reject shortBox
  exact
    ⟨_, _, abbreviatesClasses, rfl, sameLevel abbreviatesClasses, rfl, rfl, rfl,
      keepsClass _ (.unplaced ⟨"f"⟩) (.unplaced ⟨"b"⟩) _ [.unplaced (.string "red")] .origin _
        rfl rfl rfl⟩

end LevelScript
