import PipelineCompiler.Proofs.CommandLine.Writing

namespace PipelineCompiler.CommandLine

variable {services : Services} {files : Files} {env : Variables} {i : Invocation}
  {settings : Settings}

/-- The command is turned down for a document, a repository or a name that it was given. -/
def Rejects (files : Files) (settings : Settings) : Command → Prop
  | .generate graph _ _ _ | .check graph _ => ∃ f, loadGraph files graph = .error f
  | .template name _ => Template.lookup? name = none
  | .push graph repository _ _ _ =>
      givenRepository? settings repository = none ∨ ∃ f, loadGraph files graph = .error f
  | .blocks _ | .formats => False

/-- The settings, their log filter or the command are turned down. -/
def Rejected (services : Services) (files : Files) (env : Variables) (i : Invocation) : Prop :=
  (∃ f, loadSettings files i.config = .error f) ∨
  (∃ settings, loadSettings files i.config = .ok settings ∧
    ¬ AcceptsFilter services env i settings) ∨
  ∃ settings, Ready services files env i settings ∧ Rejects files settings i.command

/-- A strict check finds something in its graph. -/
def Warned (services : Services) (files : Files) (env : Variables) (i : Invocation) : Prop :=
  ∃ settings graph g, Ready services files env i settings ∧ i.command = .check graph true ∧
    loadGraph files graph = .ok g ∧ Diagnostic.diagnose g ≠ []

/-- There is something to push and a repository to push it to, and it is not just a dry run. -/
def Unpublished (services : Services) (files : Files) (env : Variables) (i : Invocation) : Prop :=
  ∃ settings graph repository format path r g, Ready services files env i settings ∧
    i.command = .push graph repository format path false ∧
    givenRepository? settings repository = some r ∧
    loadGraph files graph = .ok g

/-- The variable that the settings name for the token is unset or empty. -/
def HasNoToken (files : Files) (env : Variables) (i : Invocation) : Prop :=
  ∀ settings, loadSettings files i.config = .ok settings →
    env settings.publish.tokenVariable = none ∨ env settings.publish.tokenVariable = some ""

/-- What a command turns down, it does not do. -/
theorem replyTo_of_rejects {c : Command} (h : Rejects files settings c) (host : Host) :
    ∃ f, f.IsRejection ∧ replyTo files settings env .natural host c = .error f := by
  cases c with
  | generate graph format output write =>
    obtain ⟨f, failed⟩ := h
    refine ⟨f, isRejection_of_loadGraph failed, ?_⟩
    rw [replyTo_eq rfl, replyOffline, replyGenerate_eq, failed]
    rfl
  | check graph strict =>
    obtain ⟨f, failed⟩ := h
    refine ⟨f, isRejection_of_loadGraph failed, ?_⟩
    rw [replyTo_eq rfl, replyOffline, replyCheck_of_error failed]
  | blocks json => cases h
  | template name format =>
    have unknown : Template.lookup? name = none := h
    refine ⟨.unknownTemplate name, ⟨rfl, by simp⟩, ?_⟩
    rw [replyTo_eq rfl, replyOffline, replyTemplate, unknown]
  | formats => cases h
  | push graph repository format path dryRun =>
    rw [replyTo_push]
    cases given : givenRepository? settings repository with
    | none => exact replyPush_of_no_repository files env graph given format path dryRun host
    | some r =>
      rcases h with missing | ⟨f, failed⟩
      · simp [given] at missing
      · refine ⟨f, isRejection_of_loadGraph failed, ?_⟩
        rw [replyPush_of_repository files env graph given, failed]
        rfl

theorem reply_of_rejected (h : Rejected services files env i) :
    ∃ f, f.IsRejection ∧ reply files env .natural i services = .error f := by
  rcases h with ⟨f, failed⟩ | ⟨settings, loaded, rejected⟩ | ⟨settings, ready, rejects⟩
  · exact ⟨f, isRejection_of_loadSettings failed, reply_of_loadSettings_error failed .natural⟩
  · exact ⟨.logFilter, ⟨rfl, by simp⟩, reply_of_filter_rejected loaded rejected .natural⟩
  · rw [ready.reply_eq]
    exact replyTo_of_rejects rejects _

theorem reply_of_warned (h : Warned services files env i) :
    ∃ graph g, i.command = .check graph true ∧
    loadGraph files graph = .ok g ∧
    reply files env .natural i services = .error (.warnings (Diagnostic.diagnose g).length) := by
  obtain ⟨settings, graph, g, ready, command, loaded, found⟩ := h
  refine ⟨graph, g, command, loaded, ?_⟩
  rw [ready.reply_eq, command, replyTo_eq rfl]
  exact replyCheck_strict loaded found

/-- The failure of a push for which there is no token. -/
def tokenMissing : Failure :=
  .publish (.authentication ("no token provided; set " ++ Publishing.defaultTokenVariable))

theorem reply_of_unpublished (noToken : HasNoToken files env i)
    (h : Unpublished services files env i) :
    reply files env .natural i services = .error tokenMissing := by
  obtain ⟨settings, graph, repository, format, path, r, g, ready, command, given, loaded⟩ := h
  have unusable : settings.publish.token? env = none := by
    unfold PublishSettings.token?
    rcases noToken settings ready.loaded with unset | empty
    · rw [unset]
      rfl
    · rw [empty]
      rfl
  rw [ready.reply_eq, command, replyTo_push, replyPush_of_repository files env graph given,
    loaded, unusable]
  rfl

/-- What is neither turned down nor held up succeeds. -/
theorem reply_of_rest (accepted : ¬ Rejected services files env i)
    (unwarned : ¬ Warned services files env i) (published : ¬ Unpublished services files env i) :
    ∃ r, reply files env .natural i services = .ok r := by
  rw [Rejected, not_or, not_or] at accepted
  obtain ⟨loads, filtered, done⟩ := accepted
  cases loaded : loadSettings files i.config with
  | error f => exact absurd ⟨f, loaded⟩ loads
  | ok settings =>
    have ready : Ready services files env i settings :=
      ⟨loaded, Classical.byContradiction fun rejected => filtered ⟨settings, loaded, rejected⟩⟩
    have fits : ¬ Rejects files settings i.command := fun rejects => done ⟨settings, ready, rejects⟩
    rw [ready.reply_eq]
    cases command : i.command with
    | generate graph format output write =>
      rw [command, Rejects] at fits
      obtain ⟨g, loaded⟩ := Outcome.exists_ok fits
      exact ⟨_, by rw [replyTo_eq rfl, replyOffline, replyGenerate_eq, loaded]; rfl⟩
    | check graph strict =>
      rw [command, Rejects] at fits
      obtain ⟨g, loaded⟩ := Outcome.exists_ok fits
      have passes : strict = true → Diagnostic.diagnose g = [] := by
        rintro rfl
        exact Classical.byContradiction fun found =>
          unwarned ⟨settings, graph, g, ready, command, loaded, found⟩
      obtain ⟨stdout, answer⟩ := replyCheck_of_ok loaded passes
      exact ⟨_, answer⟩
    | blocks json => exact ⟨_, rfl⟩
    | template name format =>
      rw [command, Rejects] at fits
      obtain ⟨t, known⟩ := Option.ne_none_iff_exists'.mp fits
      exact ⟨_, by rw [replyTo_eq rfl, replyOffline, replyTemplate, known]⟩
    | formats => exact ⟨_, rfl⟩
    | push graph repository format path dryRun =>
      rw [command, Rejects, not_or] at fits
      obtain ⟨given, readable⟩ := fits
      obtain ⟨r, given⟩ := Option.ne_none_iff_exists'.mp given
      obtain ⟨g, loaded⟩ := Outcome.exists_ok readable
      cases dryRun with
      | false =>
        exact absurd ⟨settings, graph, repository, format, path, r, g, ready, command, given,
          loaded⟩ published
      | true =>
        exact ⟨_, by rw [replyTo_push, replyPush_of_repository files env graph given, loaded]; rfl⟩

/-- The ways for a reply to end. -/
theorem reply_cases (noToken : HasNoToken files env i) :
    (Rejected services files env i ∧
      ∃ f, f.IsRejection ∧ reply files env .natural i services = .error f) ∨
    (Warned services files env i ∧
      ∃ count, reply files env .natural i services = .error (.warnings count)) ∨
    (Unpublished services files env i ∧ reply files env .natural i services = .error tokenMissing) ∨
    (¬ Rejected services files env i ∧ ¬ Warned services files env i ∧
      ¬ Unpublished services files env i) ∧
      ∃ r, reply files env .natural i services = .ok r := by
  by_cases rejected : Rejected services files env i
  · exact .inl ⟨rejected, reply_of_rejected rejected⟩
  by_cases warned : Warned services files env i
  · obtain ⟨graph, g, -, -, answer⟩ := reply_of_warned warned
    exact .inr (.inl ⟨warned, _, answer⟩)
  by_cases unpublished : Unpublished services files env i
  · exact .inr (.inr (.inl ⟨unpublished, reply_of_unpublished noToken unpublished⟩))
  · exact .inr (.inr (.inr ⟨⟨rejected, warned, unpublished⟩,
      reply_of_rest rejected warned unpublished⟩))

theorem reply_ne_pushNeedsNetwork (noToken : HasNoToken files env i) :
    reply files env .natural i services ≠ .error .pushNeedsNetwork := by
  intro h
  rcases reply_cases noToken with ⟨-, f, rejection, answer⟩ | ⟨-, count, answer⟩ | ⟨-, answer⟩ |
    ⟨-, r, answer⟩
  · exact rejection.given (Except.error.inj (answer.symm.trans h))
  all_goals cases answer.symm.trans h

theorem exitCode_reply (noToken : HasNoToken files env i) :
    (exitCode (reply files env .natural i services) = 1 ↔ Warned services files env i) ∧
    (exitCode (reply files env .natural i services) = 3 ↔ Unpublished services files env i) ∧
    (exitCode (reply files env .natural i services) = 2 ↔ Rejected services files env i) ∧
    (exitCode (reply files env .natural i services) = 0 ↔
      ¬ Warned services files env i ∧ ¬ Unpublished services files env i ∧
        ¬ Rejected services files env i) := by
  have two :
      Rejected services files env i → exitCode (reply files env .natural i services) = 2 := by
    intro rejected
    obtain ⟨f, rejection, answer⟩ := reply_of_rejected rejected
    rw [answer, exitCode_of_isRejection rejection]
  have one : Warned services files env i → exitCode (reply files env .natural i services) = 1 := by
    intro warned
    obtain ⟨graph, g, -, -, answer⟩ := reply_of_warned warned
    rw [answer]
    rfl
  have three :
      Unpublished services files env i → exitCode (reply files env .natural i services) = 3 := by
    intro unpublished
    rw [reply_of_unpublished noToken unpublished]
    rfl
  -- The codes differ, so that whichever case there is rules out the others.
  rcases reply_cases noToken with ⟨rejected, -⟩ | ⟨warned, -⟩ | ⟨unpublished, -⟩ | ⟨none, r, answer⟩
  · have code := two rejected
    grind
  · have code := one warned
    grind
  · have code := three unpublished
    grind
  · have code : exitCode (reply files env .natural i services) = 0 := by
      rw [answer]
      rfl
    grind

section Run

variable {disk : Disk}

/-- Every run ends with one of four exit codes, and each of them tells what happened. It is assumed
that there is no token to push with, and that the disk takes what is to be written. -/
theorem exitCode_run
    (saves : ∀ w, Requests services disk.files env i w → ∃ after, disk.save w = .ok after)
    (noToken : HasNoToken disk.files env i) :
    (exitCode (run disk env .natural i services).1 = 1 ↔ Warned services disk.files env i) ∧
    (exitCode (run disk env .natural i services).1 = 3 ↔ Unpublished services disk.files env i) ∧
    (exitCode (run disk env .natural i services).1 = 2 ↔ Rejected services disk.files env i) ∧
    (exitCode (run disk env .natural i services).1 = 0 ↔
      ¬ Warned services disk.files env i ∧ ¬ Unpublished services disk.files env i ∧
        ¬ Rejected services disk.files env i) ∧
    (Warned services disk.files env i → ∃ graph g, i.command = .check graph true ∧
      loadGraph disk.files graph = .ok g ∧
      (run disk env .natural i services).1 = .error (.warnings (Diagnostic.diagnose g).length)) ∧
    (run disk env .natural i services).1 ≠ .error .pushNeedsNetwork := by
  rw [run_fst saves, exitCode_map]
  obtain ⟨one, three, two, zero⟩ := exitCode_reply noToken
  refine ⟨one, three, two, zero, fun warned => ?_, fun h => ?_⟩
  · obtain ⟨graph, g, command, loaded, answer⟩ := reply_of_warned warned
    rw [answer]
    exact ⟨graph, g, command, loaded, rfl⟩
  · exact reply_ne_pushNeedsNetwork noToken (Outcome.map_eq_error.mp h)

end Run

/-- A push, where every variable is set to an empty text. -/
theorem exitCode_run_push : exitCode (run storedDisk (fun _ => some "") .natural
    { command := .push "g.json" (some " acme/web ") .gitlab none false } {}).1 = 3 := by
  have saves : ∀ w, Requests {} storedDisk.files (fun _ => some "")
      { command := .push "g.json" (some " acme/web ") .gitlab none false } w →
      ∃ after, storedDisk.save w = .ok after := by
    rintro w ⟨settings, graph, format, output, write, g, -, command, -⟩
    cases command
  have given : givenRepository? {} (some " acme/web ") = some ⟨"acme", "web"⟩ := by decide
  exact (exitCode_run saves fun _ _ => .inr rfl).2.1.mpr
    ⟨{}, "g.json", some " acme/web ", .gitlab, none, ⟨"acme", "web"⟩, Document.typedGraph,
      ready_storedDisk _ _ .unreachable, rfl, given, loadGraph_storedDisk⟩

end PipelineCompiler.CommandLine
