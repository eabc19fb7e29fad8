import LevelScript.Proofs.Session.Failure
import LevelScript.Proofs.Session.Log
import LevelScript.Schema

namespace LevelScript

/-!
# Redeclared names

The two policies differ in what they do with a name that is declared again, and in nothing
else. To reject such names is to stop at the first of them; up to there, and to the end where
there is none, both policies run alike, errors and log included.
-/

variable {α : Type}

/-- The event notes that a name is declared again. -/
def Event.isRebound :
    Event α →
    Bool
  | .reboundName _ _ => true
  | _ => false

namespace Program

/-- A statement declares a name that an earlier one has declared. -/
def Redeclares
    (earlier : List (Located (Statement α)))
    (statement : Located (Statement α)) :
    Prop :=
  ∃ name, statement.declaredName? = some name ∧ Declares earlier name

/-- Where no name is declared twice, no statement redeclares one. -/
theorem not_redeclares_of_nodup
    {earlier later : List (Located (Statement α))}
    {statement : Located (Statement α)}
    (nodup : (declaredNames (earlier ++ statement :: later)).Nodup) :
    ¬Redeclares earlier statement := by
  rintro ⟨name, isName, declares⟩
  rw [declares_iff_mem] at declares
  rw [declaredNames, List.filterMap_append, List.filterMap_cons_some isName] at nodup
  exact List.disjoint_of_nodup_append nodup declares List.mem_cons_self

/-- A statement that fails with a duplicate name redeclares one. -/
theorem FailsAfter.redeclares
    {registry : Registry α}
    {policy : RedeclarationPolicy}
    {earlier : List (Located (Statement α))}
    {statement : Located (Statement α)}
    {error : LoadError}
    (fails : FailsAfter registry policy earlier statement .duplicateName error) :
    Redeclares earlier statement := by
  cases fails with
  | abbreviation unresolved =>
      cases unresolved
  | redeclared _ declares =>
      exact ⟨_, rfl, declares⟩
  | unbuilt _ unbuilt =>
      cases unbuilt with
      | unresolved unresolved =>
          cases unresolved

end Program

/-! ## What is noted of redeclared names -/

/-- Nothing in the log notes that a name is declared again. -/
def Loading.NeverRebinds
    {β : Type}
    (loading : Loading α β) :
    Prop :=
  ∀ event ∈ loading.events, event.isRebound = false

namespace Loading.NeverRebinds

variable {β γ : Type}

theorem emit
    {event : Event α}
    (isOther : event.isRebound = false) :
    NeverRebinds (Logged.emit event) := by
  simpa [NeverRebinds] using isOther

theorem pure
    (value : β) :
    NeverRebinds (α := α) (Pure.pure value) := by
  simp [NeverRebinds]

theorem bind
    {first : Loading α β}
    {next : β → Loading α γ}
    (firstNever : first.NeverRebinds)
    (nextNever : ∀ value, (next value).NeverRebinds) :
    NeverRebinds (first >>= next) :=
  Logged.forall_events_bind firstNever fun value _ => nextNever value

end Loading.NeverRebinds

namespace Session

open Program (Redeclares declaredNames)

section Noted

variable (registry : Registry α) (session : Session α)

variable [Scalar α]

/-- A name that is declared again is rejected and not noted. -/
theorem step_reject_neverRebinds
    (statement : Located (Statement α)) :
    (session.step registry .reject statement).NeverRebinds := by
  have allows : Event.AllowsEffects .reject fun event : Event α => event.isRebound = false := by
    constructor <;> simp [Event.isRebound]
  obtain ⟨effects, log, neverRebinds⟩ := exists_events_step registry session allows statement
  unfold Loading.NeverRebinds
  rw [log]
  exact List.forall_mem_cons.2 ⟨rfl, neverRebinds⟩

/-- Where redeclarations are rejected, none is noted in a run. -/
theorem run_reject_neverRebinds
    (statements : List (Located (Statement α))) :
    (session.run registry .reject statements).NeverRebinds := by
  induction statements generalizing session with
  | nil =>
      exact .pure _
  | cons statement rest inductionHypothesis =>
      exact .bind (step_reject_neverRebinds registry session statement) inductionHypothesis

end Noted

/-! ## Both policies -/

section Policies

variable {registry : Registry α} {session : Session α}

/-- A new name passes under both policies, and another one fails where it is rejected. -/
theorem checkName_reject_eq_or
    (session : Session α)
    (name : Located Name) :
    checkName .reject session name = checkName .allow session name ∨
      (checkName .reject session name).outcome =
        .error ⟨.alreadyDeclared name.value, name.span⟩ := by
  unfold checkName
  split
  · exact Or.inr rfl
  · exact Or.inl rfl

variable [Scalar α]

/-- A statement runs alike under both policies unless it is rejected for its name. -/
theorem step_reject_eq_or
    (registry : Registry α)
    (session : Session α)
    (statement : Located (Statement α)) :
    session.step registry .reject statement = session.step registry .allow statement ∨
      ∃ error,
        (session.step registry .reject statement).outcome = .error error ∧
          error.kind = .duplicateName := by
  obtain ⟨value, span⟩ := statement
  cases value with
  | declaration name className arguments =>
      rcases checkName_reject_eq_or session name with same | rejected
      · left
        simp only [step, declare, same]
      · refine Or.inr ⟨⟨.alreadyDeclared name.value, name.span⟩, ?_, rfl⟩
        simp only [step, declare, Logged.outcome_bind, Logged.outcome_emit, rejected]
        rfl
  | _ =>
      exact Or.inl rfl

/-- Unless a run stops at a redeclared name, it is the same where such names are allowed. -/
theorem run_reject_eq_run_allow
    {statements : List (Located (Statement α))}
    (neverRejected : ∀ error,
      (session.run registry .reject statements).outcome = .error error →
        error.kind ≠ .duplicateName) :
    session.run registry .reject statements = session.run registry .allow statements := by
  induction statements generalizing session with
  | nil =>
      rfl
  | cons statement rest inductionHypothesis =>
      rcases step_reject_eq_or registry session statement with same | ⟨error, failed, isDuplicate⟩
      · rw [run, run, ← same]
        refine Logged.bind_congr_of_ok fun next succeeded => inductionHypothesis ?_
        intro error failed
        refine neverRejected error ?_
        rw [run, Logged.outcome_bind, succeeded]
        exact failed
      · refine absurd isDuplicate (neverRejected error ?_)
        rw [run, Logged.outcome_bind, failed]
        rfl

/-- A run in which no name may be declared again declares none twice. -/
theorem nodup_declaredNames_of_run
    {statements : List (Located (Statement α))}
    (ran : (empty.run registry .reject statements).outcome = .ok session) :
    (declaredNames statements).Nodup := by
  have tracks : Tracks statements session := tracks_empty.run ran
  have distinct : NamesDistinct session := namesDistinct_empty.run tracks_empty ran
  rw [← Program.map_fst_declarationsAfter []]
  change ((Program.declarations statements).map Prod.fst).Nodup
  rw [tracks.map_fst_declarations]
  exact distinct.nodup

/-- A run is rejected at the first statement that redeclares a name, and reaches it under both
policies alike. -/
theorem exists_redeclares_of_run
    {statements : List (Located (Statement α))}
    {error : LoadError}
    (failed : (empty.run registry .reject statements).outcome = .error error)
    (isDuplicate : error.kind = .duplicateName) :
    ∃ earlier statement later between,
      statements = earlier ++ statement :: later ∧
        Redeclares earlier statement ∧
        (declaredNames earlier).Nodup ∧
        (empty.run registry .reject earlier).outcome = .ok between ∧
        (empty.run registry .allow earlier).outcome = .ok between ∧
        (between.step registry .reject statement).outcome = .error error := by
  obtain ⟨earlier, statement, later, between, isSplit, ran, stepFailed⟩ :=
    run_eq_error_iff.1 failed
  obtain ⟨kind, fails⟩ := (step_fails_iff_of_run ran).1 stepFailed
  have isKind : kind = .duplicateName := fails.kind_eq ▸ isDuplicate
  subst isKind
  have sameRun :
      empty.run registry .reject earlier = empty.run registry .allow earlier := by
    refine run_reject_eq_run_allow fun error failed => ?_
    rw [ran] at failed
    cases failed
  exact
    ⟨earlier, statement, later, between, isSplit, fails.redeclares,
      nodup_declaredNames_of_run ran, ran, sameRun ▸ ran, stepFailed⟩

end Policies

end Session

namespace Level

section Policies

variable [Scalar α] (registry : Registry α) (statements : List (Located (Statement α)))

/-- The log of a level in which no name may be declared again notes no such name. -/
theorem ofStatements_reject_neverRebinds :
    (ofStatements registry .reject statements).NeverRebinds :=
  .bind (.emit rfl) fun _ =>
    .bind (Session.run_reject_neverRebinds registry .empty statements) fun _ =>
      .bind (.emit rfl) fun _ => .bind (.emit rfl) fun _ => .bind (.emit rfl) fun _ => .pure _

variable {registry statements}

/-- Unless a level is rejected for a name, it is the same where such names are allowed. -/
theorem ofStatements_reject_eq_allow
    (neverRejected : ∀ error,
      (ofStatements registry .reject statements).outcome = .error error →
        error.kind ≠ .duplicateName) :
    ofStatements registry .reject statements = ofStatements registry .allow statements := by
  have sameRun : Session.empty.run registry .reject statements =
      Session.empty.run registry .allow statements :=
    Session.run_reject_eq_run_allow fun error failed =>
      neverRejected error (ofStatements_eq_error_iff.2 failed)
  simp only [ofStatements, sameRun]

end Policies

/--
To reject redeclared names is to allow them up to the first one. A level that is not rejected
for a name is the same under both policies, and its log notes no redeclared name; another error
is the same error. A level that is rejected for a name stops at the first statement that
declares one again, which both policies reach in the same session. So both policies agree on
all programs that declare no name twice.
-/
theorem ofStatements_reject_refines_allow
    [Scalar α]
    (registry : Registry α)
    (statements : List (Located (Statement α))) :
    (∀ level,
      (ofStatements registry .reject statements).outcome = .ok level →
        (ofStatements registry .allow statements).outcome = .ok level ∧
          ∀ event ∈ (ofStatements registry .allow statements).events,
            event.isRebound = false) ∧
      (∀ error,
        (ofStatements registry .reject statements).outcome = .error error →
          error.kind ≠ .duplicateName →
          (ofStatements registry .allow statements).outcome = .error error) ∧
      (∀ error,
        (ofStatements registry .reject statements).outcome = .error error →
          error.kind = .duplicateName →
          ∃ earlier statement later between,
            statements = earlier ++ statement :: later ∧
              Program.Redeclares earlier statement ∧
              (Program.declaredNames earlier).Nodup ∧
              (Session.empty.run registry .reject earlier).outcome = .ok between ∧
              (Session.empty.run registry .allow earlier).outcome = .ok between ∧
              (between.step registry .reject statement).outcome = .error error) ∧
      ((Program.declaredNames statements).Nodup →
        ofStatements registry .reject statements = ofStatements registry .allow statements) := by
  refine ⟨?succeeds, ?fails, ?rejected, ?distinct⟩
  case succeeds =>
    intro level succeeded
    have same : ofStatements registry .reject statements =
        ofStatements registry .allow statements := by
      refine ofStatements_reject_eq_allow fun error failed => ?_
      rw [succeeded] at failed
      cases failed
    rw [← same]
    exact ⟨succeeded, ofStatements_reject_neverRebinds registry statements⟩
  case fails =>
    intro error failed notDuplicate
    have same : ofStatements registry .reject statements =
        ofStatements registry .allow statements := by
      refine ofStatements_reject_eq_allow fun other otherFailed => ?_
      rw [failed] at otherFailed
      cases otherFailed
      exact notDuplicate
    rw [← same]
    exact failed
  case rejected =>
    intro error failed isDuplicate
    exact Session.exists_redeclares_of_run (ofStatements_eq_error_iff.1 failed) isDuplicate
  case distinct =>
    intro nodup
    refine ofStatements_reject_eq_allow fun error failed isDuplicate => ?_
    obtain ⟨earlier, statement, later, _, rfl, redeclares, _⟩ :=
      Session.exists_redeclares_of_run (ofStatements_eq_error_iff.1 failed) isDuplicate
    exact Program.not_redeclares_of_nodup nodup redeclares

/-- A registry of boxes. -/
def boxesOnly : Registry Float :=
  Registry.ofSchema [{ name := ⟨"Box"⟩, constructors := [[]] }]

/-- A box is declared, then another one, and then a third one under the first one's name. -/
def threeBoxes : List (Located (Statement Float)) :=
  ["a", "b", "a"].map fun name =>
    .unplaced (.declaration (.unplaced ⟨name⟩) (.unplaced ⟨"Box"⟩) [])

/-- The third box is rejected and might be built, after two boxes under either policy. -/
theorem ofStatements_reject_refines_allow_boxes :
    ∃ (error : LoadError) (level : Level Float),
      (ofStatements boxesOnly .reject threeBoxes).outcome = .error error ∧
        error.kind = .duplicateName ∧
        (ofStatements boxesOnly .allow threeBoxes).outcome = .ok level ∧
        level.size = 3 ∧
        ∃ earlier statement later between,
          threeBoxes = earlier ++ statement :: later ∧
            Program.Redeclares earlier statement ∧
            (Program.declaredNames earlier).Nodup ∧
            (Session.empty.run boxesOnly .reject earlier).outcome = .ok between ∧
            (Session.empty.run boxesOnly .allow earlier).outcome = .ok between ∧
            (between.step boxesOnly .reject statement).outcome = .error error :=
  ⟨_, _, rfl, rfl, rfl, rfl,
    (ofStatements_reject_refines_allow boxesOnly threeBoxes).2.2.1 _ rfl rfl⟩

end Level

end LevelScript
