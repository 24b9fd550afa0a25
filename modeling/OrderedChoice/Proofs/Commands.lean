import OrderedChoice.CommandLine.Run
import OrderedChoice.Proofs.Blocks
import OrderedChoice.Proofs.Reporting
import OrderedChoice.Proofs.Silence

/-!
# Three commands, one answer

Checking a file, showing its forest and tracing its match end alike and complain alike: a watched
parse comes to what an unwatched one comes to, and what a parse complains of makes it incomplete.
How they end says what became of the parse (`commands_agree`).
-/

namespace OrderedChoice

/-- A parse that is complete has nothing to complain about, not even by a warning. -/
theorem Parse.diagnostics_eq_empty {g : Grammar} {root : Structure} {limits : Limits}
    {statements : Array Statement} {result : Parse}
    (ok : parse g root limits statements = .ok result) (complete : result.isComplete = true) :
    result.diagnostics = .empty := by
  obtain ⟨verdict, after, _, rfl⟩ := parseWith_eq_ok_iff.1 ok
  have quiet : (verdict.diagnostics statements after.context.furthest).has .error = false := by
    simpa [Parse.isComplete] using complete
  exact (verdict.diagnostics_eq statements after.context.furthest).1 quiet

/-- The halts that come of the match; the others come of a grammar or a table that was put together
wrongly. -/
def Halt.isEngineError : Halt → Bool
  | emptyRepetition _ | fuelExhausted | recursionLimitExceeded => true
  | malformedBody _ | cursorOutOfRange => false

theorem Halt.isEngineError_of_isCutOff {halt : Halt} (cut : halt.isCutOff = true) :
    halt.isEngineError = true := by
  cases halt <;> first | rfl | cases cut

namespace CommandLine

/-- The root of the request exists, its file can be loaded, and this is what the parse comes to. -/
def MatchRequest.Parses (request : MatchRequest) (language : Language) (surroundings : Surroundings)
    (outcome : Except Halt Parse) : Prop :=
  ∃ root file, language.registry.get? request.root = some root ∧
    surroundings.load language.kindOf? request.path = .ok file ∧
    parse language.grammar root request.limits file.statements.toArray = outcome

/-- Two outputs that differ in what they show, but neither in their status nor in their
complaints. -/
structure Output.Agrees (a b : Output) : Prop where
  status : a.status = b.status
  stderr : a.stderr = b.stderr

section Request

variable {request : MatchRequest} {language : Language} {surroundings : Surroundings}
  {render : Renderer} {root : Structure} {file : LoadedFile} {fault : StartFault}

theorem findStructure_eq_ok_iff {registry : Registry} {name : String} :
    findStructure registry name = .ok root ↔ registry.get? name = some root := by
  unfold findStructure
  cases registry.get? name with
  | none => exact ⟨nofun, nofun⟩
  | some target => simp

/-- What a request needs is there exactly if its root exists and its file can be loaded. -/
theorem MatchRequest.prepare_eq_ok_iff : request.prepare language surroundings = .ok (root, file) ↔
    language.registry.get? request.root = some root ∧
    surroundings.load language.kindOf? request.path = .ok file := by
  rw [← findStructure_eq_ok_iff]
  unfold MatchRequest.prepare
  cases findStructure language.registry request.root with
  | error fault => exact ⟨nofun, nofun⟩
  | ok target =>
    cases surroundings.load language.kindOf? request.path with
    | error fault => exact ⟨nofun, nofun⟩
    | ok loaded => simp

/-- What was prepared decides what the parse of the request comes to. -/
theorem MatchRequest.parses_iff
    (prepared : request.prepare language surroundings = .ok (root, file))
    {outcome : Except Halt Parse} :
    request.Parses language surroundings outcome ↔
      parse language.grammar root request.limits file.statements.toArray = outcome := by
  constructor
  · rintro ⟨root', file', found, loaded, parsed⟩
    obtain ⟨rfl, rfl⟩ :=
      Prod.mk.inj (Except.ok.inj (prepared.symm.trans (prepare_eq_ok_iff.2 ⟨found, loaded⟩)))
    exact parsed
  · intro parsed
    obtain ⟨found, loaded⟩ := prepare_eq_ok_iff.1 prepared
    exact ⟨root, file, found, loaded, parsed⟩

theorem MatchRequest.not_parses (failed : request.prepare language surroundings = .error fault)
    (outcome : Except Halt Parse) : ¬ request.Parses language surroundings outcome := by
  rintro ⟨root, file, found, loaded, -⟩
  cases failed.symm.trans (prepare_eq_ok_iff.2 ⟨found, loaded⟩)

/-! ## What the commands show apart -/

/-- All diagnostics of a parse are complaints, so that showing them always shows no more. -/
theorem LoadedFile.report_eq_reportFailure {g : Grammar}
    {limits : Limits} {statements : Array Statement}
    {result : Parse} (ok : parse g root limits statements = .ok result) (coloured : Bool) :
    file.report render coloured result.diagnostics = file.reportFailure render coloured result := by
  unfold LoadedFile.reportFailure
  split
  · next complete => rw [Parse.diagnostics_eq_empty ok complete]; rfl
  · rfl

theorem MatchRequest.tree_agrees (json coloured : Bool) :
    (request.tree language surroundings render json coloured).Agrees
      (request.check language surroundings render coloured) := by
  unfold MatchRequest.tree MatchRequest.check
  cases request.prepare language surroundings with
  | error fault => exact ⟨rfl, rfl⟩
  | ok prepared =>
    obtain ⟨root, file⟩ := prepared
    cases ok : parse language.grammar root request.limits file.statements.toArray with
    | error halt => simp only [ok]; exact ⟨rfl, rfl⟩
    | ok result => simp only [ok]; exact ⟨rfl, LoadedFile.report_eq_reportFailure ok coloured⟩

theorem MatchRequest.trace_agrees (loudness : Nat) (coloured : Bool) :
    (request.trace language surroundings render loudness coloured).Agrees
      (request.check language surroundings render coloured) := by
  unfold MatchRequest.trace MatchRequest.check
  cases request.prepare language surroundings with
  | error fault => exact ⟨rfl, rfl⟩
  | ok prepared =>
    obtain ⟨root, file⟩ := prepared
    have silent := parseWith_silent (g := language.grammar) root request.limits
      (Log.empty (verbosityOf loudness) (Palette.ofFlag coloured)) file.statements.toArray
    simp only [← silent]
    generalize parseWith language.grammar root request.limits
      (Log.empty (verbosityOf loudness) (Palette.ofFlag coloured)) file.statements.toArray = watched
    obtain ⟨_ | result, log⟩ := watched <;> exact ⟨rfl, rfl⟩

/-! ## What the status says -/

theorem MatchRequest.check_status_eq_success_iff {coloured : Bool} :
    (request.check language surroundings render coloured).status = .success ↔
      ∃ result, request.Parses language surroundings (.ok result) ∧ result.isComplete = true := by
  unfold MatchRequest.check
  cases prepared : request.prepare language surroundings with
  | error fault =>
    refine ⟨nofun, ?_⟩
    rintro ⟨result, parses, -⟩
    exact absurd parses (not_parses prepared _)
  | ok there =>
    obtain ⟨root, file⟩ := there
    simp only [parses_iff prepared]
    cases parsed : parse language.grammar root request.limits file.statements.toArray with
    | error halt => exact ⟨nofun, nofun⟩
    | ok result =>
      simp only [Except.ok.injEq, exists_eq_left']
      exact Status.ofBool_eq_success_iff

theorem MatchRequest.check_status_eq_halted_iff {coloured : Bool} :
    (request.check language surroundings render coloured).status = .halted ↔
      ∃ halt, request.Parses language surroundings (.error halt) := by
  unfold MatchRequest.check
  cases prepared : request.prepare language surroundings with
  | error fault =>
    refine ⟨nofun, ?_⟩
    rintro ⟨halt, parses⟩
    exact absurd parses (not_parses prepared _)
  | ok there =>
    obtain ⟨root, file⟩ := there
    simp only [parses_iff prepared]
    cases parsed : parse language.grammar root request.limits file.statements.toArray with
    | error halt => exact ⟨fun _ => ⟨halt, rfl⟩, fun _ => rfl⟩
    | ok result => exact ⟨fun halted => absurd halted (Status.ofBool_ne_halted _), nofun⟩

end Request

theorem Status.code_eq_iff {a b : Status} : a.code = b.code ↔ a = b :=
  ⟨code_injective, congrArg code⟩

theorem Status.eq_failure_iff {status : Status} :
    status = .failure ↔ status ≠ .success ∧ status ≠ .halted := by
  cases status <;> decide

/-- A match of blocks that is halted is halted by an error of the engine. -/
theorem MatchRequest.isEngineError_of_parses {request : MatchRequest} {surroundings : Surroundings}
    {halt : Halt} (parses : request.Parses Abap.language surroundings (.error halt)) :
    halt.isEngineError = true := by
  obtain ⟨root, file, found, -, halted⟩ := parses
  exact Halt.isEngineError_of_isCutOff
    (Abap.isCutOff_of_parse (Abap.mem_registered_of_get? found) halted)

/-- Whatever the surroundings, the request, the renderer of excerpts, the colours and the kind of
trace or forest asked for, the three commands that match a file end with one status and print one
text of complaints. They succeed exactly if the root exists, the file loads and its parse is
complete, are halted exactly if the parse ends in an engine error, and fail otherwise. -/
theorem commands_agree (request : MatchRequest) (surroundings : Surroundings) (render : Renderer)
    (colour : ColourChoice) (terminal json : Bool) (loudness : Nat) :
    let output := fun task => Command.run ⟨task, colour⟩ Abap.language surroundings terminal render
    let checked := output (.check request)
    (output (.tree request json)).Agrees checked ∧
    (output (.trace request loudness)).Agrees checked ∧
    (checked.status.code = 0 ↔
      ∃ result, request.Parses Abap.language surroundings (.ok result) ∧ result.isComplete = true) ∧
    (checked.status.code = 2 ↔
      ∃ halt, request.Parses Abap.language surroundings (.error halt) ∧
        halt.isEngineError = true) ∧
    (checked.status.code = 1 ↔
      ¬ (∃ result, request.Parses Abap.language surroundings (.ok result) ∧
        result.isComplete = true) ∧
      ¬ ∃ halt, request.Parses Abap.language surroundings (.error halt) ∧
        halt.isEngineError = true) := by
  have succeeds :
      (request.check Abap.language surroundings render (colour.applies terminal)).status =
        .success ↔
      _ :=
    MatchRequest.check_status_eq_success_iff
  have halts :
      (request.check Abap.language surroundings render (colour.applies terminal)).status =
        .halted ↔
      ∃ halt, request.Parses Abap.language surroundings (.error halt) ∧
        halt.isEngineError = true := by
    rw [MatchRequest.check_status_eq_halted_iff]
    exact exists_congr fun halt =>
      ⟨fun parses => ⟨parses, MatchRequest.isEngineError_of_parses parses⟩, And.left⟩
  refine ⟨MatchRequest.tree_agrees json _, MatchRequest.trace_agrees loudness _, ?_, ?_, ?_⟩
  · exact (Status.code_eq_iff (b := .success)).trans succeeds
  · exact (Status.code_eq_iff (b := .halted)).trans halts
  · refine (Status.code_eq_iff (b := .failure)).trans (Status.eq_failure_iff.trans ?_)
    exact and_congr (not_congr succeeds) (not_congr halts)

end CommandLine

end OrderedChoice
