import PipelineCompiler.CommandLine.Disk
import PipelineCompiler.Proofs.Document.RoundTrip
import PipelineCompiler.Proofs.Repository

namespace PipelineCompiler.CommandLine

open Repository (ofText_error)

variable {services : Services} {files : Files} {env : Variables} {i : Invocation}
  {settings : Settings}

theorem exitCode_map {α β : Type} (x : Except Failure α) (f : α → β) :
    exitCode (x.map f) = exitCode x := by
  cases x <;> rfl

/-- The failure turns down something that the run was given. -/
structure Failure.IsRejection (f : Failure) : Prop where
  kind : f.kind = .configuration
  given : f ≠ .pushNeedsNetwork

theorem exitCode_of_isRejection {α : Type} {f : Failure} (h : f.IsRejection) :
    exitCode (.error f : Except Failure α) = 2 := by
  rw [exitCode, Failure.exitCode, h.kind]
  rfl

/-- The log filter in force can be read. -/
def AcceptsFilter (services : Services) (env : Variables) (i : Invocation) (settings : Settings) :
    Prop :=
  ((settings.log.logging i.level i.logFormat).filter? services.readsFilter (env logVariable)).isSome

/-- The settings are there, and their log filter is accepted. -/
structure Ready (services : Services) (files : Files) (env : Variables) (i : Invocation)
    (settings : Settings) : Prop where
  loaded : loadSettings files i.config = .ok settings
  accepted : AcceptsFilter services env i settings

/-- The command itself is looked at only when all before it is settled. -/
theorem Ready.reply_eq (h : Ready services files env i settings) (mode : Mode) :
    reply files env mode i services =
      replyTo files settings env mode services.host i.command := by
  obtain ⟨f, accepted⟩ := Option.isSome_iff_exists.mp h.accepted
  rw [reply, h.loaded]
  simp only [bind, Except.bind, accepted]

theorem reply_of_loadSettings_error {f : Failure} (h : loadSettings files i.config = .error f)
    (mode : Mode) : reply files env mode i services = .error f := by
  rw [reply, h]
  rfl

theorem reply_of_filter_rejected (loaded : loadSettings files i.config = .ok settings)
    (rejected : ¬ AcceptsFilter services env i settings) (mode : Mode) :
    reply files env mode i services = .error .logFilter := by
  rw [AcceptsFilter, Bool.not_eq_true, Option.isSome_eq_false_iff,
    Option.isNone_iff_eq_none] at rejected
  rw [reply, loaded]
  simp only [bind, Except.bind, rejected]

theorem isRejection_of_loadSettings {config : Option String} {f : Failure}
    (h : loadSettings files config = .error f) : f.IsRejection := by
  unfold loadSettings at h
  split at h
  · cases h
  · split at h
    · cases h
      exact ⟨rfl, by simp⟩
    · next text _ =>
      cases parsed : Settings.ofText text with
      | ok s => simp [parsed, Except.mapError] at h
      | error fault =>
        rw [parsed] at h
        cases h
        exact ⟨rfl, by simp⟩

theorem isRejection_of_loadGraph {path : String} {f : Failure}
    (h : loadGraph files path = .error f) : f.IsRejection := by
  unfold loadGraph at h
  split at h
  · cases h
    exact ⟨rfl, by simp⟩
  · next text _ =>
    cases parsed : Document.parseFrom path (.ofPath path) text with
    | ok g => simp [parsed, Except.mapError] at h
    | error fault =>
      rw [parsed] at h
      cases h
      exact ⟨rfl, by simp⟩

/-- A file of records written as arrays is a graph document. -/
theorem loadGraph_of_typedText {path : String} (read : files.read path = .ok Document.typedText)
    (json : DocumentFormat.ofPath path = .json) :
    loadGraph files path = .ok Document.typedGraph := by
  have nameless : Document.parseFrom "" .json Document.typedText = .ok Document.typedGraph := by
    rw [Document.parseFrom, Document.parse, Document.JsonReader.graphOfText,
      Document.JsonReader.whole, Document.ofText_typedText]
    decide
  have parsed : Document.parse .json Document.typedText = .ok Document.typedGraph :=
    Outcome.mapError_eq_ok.mp nameless
  simp only [loadGraph, read, json, Document.parseFrom, parsed]
  rfl

theorem replyGenerate_eq (files : Files) (settings : Settings) (graph : String) (format : Format)
    (output : Option String) (write : Bool) :
    replyGenerate files settings graph format output write = (loadGraph files graph).map fun g =>
      match generateTarget? settings format output write with
      | none => { stdout := Text.endLine (generate g format) }
      | some path =>
        { stdout := "Wrote " ++ path ++ "\n", write? := some ⟨path, generate g format⟩ } := by
  rw [replyGenerate]
  cases loadGraph files graph with
  | error f => rfl
  | ok g => cases generateTarget? settings format output write <;> rfl

section Graph

variable {graph : String} {g : Graph} {f : Failure}

theorem replyCheck_of_error (h : loadGraph files graph = .error f) (strict : Bool) :
    replyCheck files graph strict = .error f := by
  rw [replyCheck, h]
  rfl

/-- Only a strict check fails for what it finds. -/
theorem replyCheck_strict (h : loadGraph files graph = .ok g) (found : Diagnostic.diagnose g ≠ []) :
    replyCheck files graph true = .error (.warnings (Diagnostic.diagnose g).length) := by
  obtain ⟨w, rest, warnings⟩ := List.exists_cons_of_ne_nil found
  rw [replyCheck, h]
  simp only [bind, Except.bind, warnings]
  rfl

theorem replyCheck_of_ok {strict : Bool} (h : loadGraph files graph = .ok g)
    (passes : strict = true → Diagnostic.diagnose g = []) :
    ∃ stdout, replyCheck files graph strict = .ok { stdout } := by
  rw [replyCheck, h]
  simp only [bind, Except.bind]
  cases found : Diagnostic.diagnose g with
  | nil => exact ⟨_, rfl⟩
  | cons w rest =>
    cases strict with
    | false => exact ⟨_, rfl⟩
    | true => simp [passes rfl] at found

end Graph

/-- A command that needs no network does the same with and without it. -/
theorem replyTo_eq {c : Command} (h : c.isPush = false) (mode : Mode) (host : Host) :
    replyTo files settings env mode host c = replyOffline files settings c := by
  have online : replyOnline files settings env host c = replyOffline files settings c := by
    cases c with
    | push => cases h
    | _ => rfl
  rw [replyTo, online, ite_self]

/-- The repository that an invocation names, or else the settings, if it is a valid one. -/
def givenRepository? (settings : Settings) (repository : Option String) : Option Repository :=
  (repository.or settings.publish.repository).bind fun text => (Repository.ofText text).toOption

section Push

variable (files : Files) (env : Variables) (graph : String) {repository : Option String}

/-- A push gets the network that it needs. -/
theorem replyTo_push (settings : Settings) (repository : Option String) (format : Format)
    (path : Option String) (dryRun : Bool) (host : Host) :
    replyTo files settings env .natural host (.push graph repository format path dryRun) =
      replyPush files settings env graph repository format path dryRun host := rfl

theorem replyPush_of_no_repository (h : givenRepository? settings repository = none)
    (format : Format) (path : Option String) (dryRun : Bool) (host : Host) : ∃ f, f.IsRejection ∧
      replyPush files settings env graph repository format path dryRun host = .error f := by
  unfold givenRepository? at h
  unfold replyPush
  cases named : repository.or settings.publish.repository with
  | none => exact ⟨.noRepository, ⟨rfl, by simp⟩, rfl⟩
  | some text =>
    cases read : Repository.ofText text with
    | ok r => simp [named, read, Except.toOption] at h
    | error fault =>
      rw [ofText_error read] at read
      refine ⟨.publish (.invalidRepository text), ⟨rfl, by simp⟩, ?_⟩
      simp only [bind, Except.bind, read]
      rfl

/-- With a repository, the graph decides, and then the push itself. -/
theorem replyPush_of_repository {r : Repository}
    (h : givenRepository? settings repository = some r) (format : Format) (path : Option String)
    (dryRun : Bool) (host : Host) :
    replyPush files settings env graph repository format path dryRun host =
      (loadGraph files graph).bind fun g =>
        ((Publishing.publish (settings.publish.token? env) dryRun r
          (path.getD (settings.output.path format)) (generate g format) host).mapError
            Failure.publish).map fun outcome =>
          { stdout := (if outcome.status = .dryRun then preview (generate g format) outcome
              else "") ++ outcome.status.summary ++ "\n" ++ outcome.url ++ "\n" } := by
  obtain ⟨text, named, valid⟩ := Option.bind_eq_some_iff.mp h
  have read : Repository.ofText text = .ok r := by
    cases read : Repository.ofText text with
    | ok s => simpa [read, Except.toOption] using valid
    | error fault => simp [read, Except.toOption] at valid
  rw [replyPush, named]
  simp only [read, bind, Except.bind, Except.mapError]
  cases loadGraph files graph with
  | error f => rfl
  | ok g =>
    simp only
    cases Publishing.publish (settings.publish.token? env) dryRun r
      (path.getD (settings.output.path format)) (generate g format) host <;> rfl

end Push

end PipelineCompiler.CommandLine
