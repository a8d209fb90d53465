import PipelineCompiler.Proofs.CommandLine.LogFilter
import PipelineCompiler.Proofs.CommandLine.Saving

namespace PipelineCompiler.CommandLine

variable {services : Services} {files : Files} {env : Variables} {mode : Mode} {i : Invocation}
  {settings : Settings} {w : FileWrite}

/-- The run is to write a pipeline: all that it reads is accepted, and its output goes to the path
that is named, or else to the one that the settings or the conventions have for the format. -/
def Requests (services : Services) (files : Files) (env : Variables) (i : Invocation)
    (w : FileWrite) : Prop :=
  ∃ settings graph format output write g, Ready services files env i settings ∧
    i.command = .generate graph format output write ∧ loadGraph files graph = .ok g ∧
    (output = some w.path ∨
      output = none ∧ write = true ∧ w.path = (settings.output.override? format).getD format.path) ∧
    w.text = generate g format

theorem generateTarget?_eq_some {format : Format} {output : Option String} {write : Bool}
    {path : String} :
    generateTarget? settings format output write = some path ↔
      output = some path ∨
        output = none ∧ write = true ∧
        path = (settings.output.override? format).getD format.path := by
  unfold generateTarget? OutputSettings.path
  cases output <;> cases write <;> simp [eq_comm]

theorem reply_of_requests (h : Requests services files env i w) (mode : Mode) :
    reply files env mode i services =
      .ok { stdout := "Wrote " ++ w.path ++ "\n", write? := some w } := by
  obtain ⟨settings, graph, format, output, write, g, ready, command, loaded, target, text⟩ := h
  rw [ready.reply_eq mode, command, replyTo_eq rfl, replyOffline, replyGenerate_eq, loaded,
    generateTarget?_eq_some.mpr target, Except.map, ← text]

theorem exists_ready_of_reply {r : Reply} (h : reply files env mode i services = .ok r) :
    ∃ settings, Ready services files env i settings ∧
    replyTo files settings env mode services.host i.command = .ok r := by
  cases loaded : loadSettings files i.config with
  | error f =>
    rw [reply_of_loadSettings_error loaded] at h
    cases h
  | ok settings =>
    by_cases accepted : AcceptsFilter services env i settings
    · have ready : Ready services files env i settings := ⟨loaded, accepted⟩
      exact ⟨settings, ready, (ready.reply_eq mode).symm.trans h⟩
    · rw [reply_of_filter_rejected loaded accepted] at h
      cases h

theorem write?_of_replyCheck {graph : String} {strict : Bool} {r : Reply}
    (h : replyCheck files graph strict = .ok r) : r.write? = none := by
  cases loaded : loadGraph files graph with
  | error f =>
    rw [replyCheck_of_error loaded] at h
    cases h
  | ok g =>
    by_cases passes : strict = true → Diagnostic.diagnose g = []
    · obtain ⟨stdout, done⟩ := replyCheck_of_ok loaded passes
      rw [done] at h
      cases h
      rfl
    · obtain ⟨rfl, found⟩ := Classical.not_imp.mp passes
      rw [replyCheck_strict loaded found] at h
      cases h

theorem write?_of_replyPush {graph : String} {repository : Option String} {format : Format}
    {path : Option String} {dryRun : Bool} {host : Host} {r : Reply}
    (h : replyPush files settings env graph repository format path dryRun host = .ok r) :
    r.write? = none := by
  cases given : givenRepository? settings repository with
  | none =>
    obtain ⟨f, -, failed⟩ :=
      replyPush_of_no_repository files env graph given format path dryRun host
    rw [failed] at h
    cases h
  | some repo =>
    rw [replyPush_of_repository files env graph given] at h
    obtain ⟨g, -, h⟩ := Outcome.bind_eq_ok.mp h
    obtain ⟨outcome, -, rfl⟩ := Outcome.map_eq_ok.mp h
    rfl

/-- Only `generate` asks for a write. -/
theorem requests_of_reply {r : Reply} (h : reply files env mode i services = .ok r)
    (asks : r.write? = some w) : Requests services files env i w := by
  obtain ⟨settings, ready, h⟩ := exists_ready_of_reply h
  cases command : i.command with
  | generate graph format output write =>
    rw [command, replyTo_eq rfl, replyOffline, replyGenerate_eq] at h
    obtain ⟨g, loaded, rfl⟩ := Outcome.map_eq_ok.mp h
    cases target : generateTarget? settings format output write with
    | none =>
      rw [target] at asks
      cases asks
    | some path =>
      rw [target] at asks
      cases asks
      exact ⟨settings, graph, format, output, write, g, ready, command, loaded,
        generateTarget?_eq_some.mp target, rfl⟩
  | check graph strict =>
    rw [command, replyTo_eq rfl, replyOffline] at h
    rw [write?_of_replyCheck h] at asks
    cases asks
  | blocks json =>
    rw [command, replyTo_eq rfl, replyOffline] at h
    cases h
    cases asks
  | template name format =>
    rw [command, replyTo_eq rfl, replyOffline, replyTemplate] at h
    split at h
    · cases h
    · cases h
      cases asks
  | formats =>
    rw [command, replyTo_eq rfl, replyOffline] at h
    cases h
    cases asks
  | push graph repository format path dryRun =>
    rw [command, replyTo] at h
    split at h
    · rw [replyOnline] at h
      rw [write?_of_replyPush h] at asks
      cases asks
    · cases h

section Run

variable {disk after : Disk}

theorem run_of_requests (h : Requests services disk.files env i w) (saved : disk.save w = .ok after)
    (mode : Mode) : run disk env mode i services = (.ok ("Wrote " ++ w.path ++ "\n"), after) := by
  simp only [run, reply_of_requests h mode, saved]

theorem run_of_no_request (h : ∀ w, ¬ Requests services disk.files env i w) (mode : Mode) :
    run disk env mode i services =
      ((reply disk.files env mode i services).map (·.stdout), disk) := by
  rw [run]
  cases answer : reply disk.files env mode i services with
  | error f => rfl
  | ok r =>
    cases asks : r.write? with
    | none => simp only [asks, Except.map]
    | some w => exact absurd (requests_of_reply answer asks) (h w)

/-- If the disk takes what is to be written, a run ends as its reply does. -/
theorem run_fst (saves : ∀ w, Requests services disk.files env i w →
    ∃ after, disk.save w = .ok after) (mode : Mode) :
    (run disk env mode i services).1 = (reply disk.files env mode i services).map (·.stdout) := by
  by_cases none : ∀ w, ¬ Requests services disk.files env i w
  · rw [run_of_no_request none]
  · obtain ⟨w, asks⟩ := Classical.not_forall_not.mp none
    obtain ⟨after, saved⟩ := saves w asks
    rw [run_of_requests asks saved, reply_of_requests asks]
    rfl

/-- A run whose disk takes what is to be written changes the one file that was asked for, if the run
succeeds as far as that, and no file otherwise. -/
theorem run_changes_one_file
    (saves : ∀ w, Requests services disk.files env i w → ∃ after, disk.save w = .ok after) :
    (∀ w, Requests services disk.files env i w →
      printed (run disk env .natural i services).1 = "Wrote " ++ w.path ++ "\n" ∧
      exitCode (run disk env .natural i services).1 = 0 ∧
      ∃ loc, Disk.Wrote disk (run disk env .natural i services).2 w loc) ∧
    ((∀ w, ¬ Requests services disk.files env i w) → (run disk env .natural i services).2 = disk) ∧
    (exitCode (run disk env .natural i services).1 ≠ 0 →
      (run disk env .natural i services).2 = disk ∧
        printed (run disk env .natural i services).1 = "") := by
  have unasked (none : ∀ w, ¬ Requests services disk.files env i w) :
      (run disk env .natural i services).2 = disk := by
    rw [run_of_no_request none]
  refine ⟨fun w asks => ?_, unasked, fun failed => ?_⟩
  · obtain ⟨after, saved⟩ := saves w asks
    rw [run_of_requests asks saved]
    exact ⟨rfl, rfl, Disk.wrote_of_save saved⟩
  · have none : ∀ w, ¬ Requests services disk.files env i w := by
      intro w asks
      obtain ⟨after, saved⟩ := saves w asks
      rw [run_of_requests asks saved] at failed
      exact failed rfl
    refine ⟨unasked none, ?_⟩
    cases answer : (run disk env .natural i services).1 with
    | ok stdout =>
      rw [answer] at failed
      exact absurd rfl failed
    | error f => rfl

end Run

/-- A disk with a graph document in its working directory. -/
def storedDisk : Disk :=
  { entries := [(["tmp", "work", "g.json"], .file (some Document.typedText))] }

theorem loadGraph_storedDisk : loadGraph storedDisk.files "g.json" = .ok Document.typedGraph :=
  loadGraph_of_typedText rfl (by decide)

theorem save_storedDisk (text : String) : storedDisk.save ⟨"g.json", text⟩ =
    .ok (storedDisk.set ["tmp", "work", "g.json"] (.file (some text))) := by
  have beside : (Path.parent? "g.json").filter (· != "") = none := by
    simp [Path.parent?, Path.trimEnd]
  have written : storedDisk.write "g.json" text =
      .ok (storedDisk.set ["tmp", "work", "g.json"] (.file (some text))) := rfl
  simp only [Disk.save, beside, bind, Except.bind, written]
  rfl

theorem ready_storedDisk (env : Variables) (command : Command) (host : Host) :
    Ready { host } storedDisk.files env { command } {} :=
  ⟨rfl, (acceptsFilter_iff readsFilter_directive).mpr (by simp)⟩

/-- A host without files, to which files can be added. -/
def emptyHost : Host where
  connect _ := .ok {
    hashes := fun _ _ => .error { status := some 404, cause := "Not Found" }
    update := fun _ _ _ _ _ => .error { status := some 404, cause := "Not Found" }
    create := fun _ _ _ _ => .ok () }

/-- The output may go to the graph document itself. A push that the host takes leaves all files. -/
theorem run_changes_one_file_in_place :
    (∃ loc, Disk.Wrote storedDisk (run storedDisk (fun _ => none) .natural
      { command := .generate "g.json" .gitlab (some "g.json") false } {}).2
      ⟨"g.json", generate Document.typedGraph .gitlab⟩ loc) ∧
    run storedDisk (fun _ => some "secret") .natural
      { command := .push "g.json" (some " acme/web ") .gitlab none false } { host := emptyHost } =
      (.ok "Pipeline created!\nhttps://github.com/acme/web/blob/HEAD/.gitlab-ci.yml\n",
        storedDisk) := by
  constructor
  · have saves : ∀ w, Requests {} storedDisk.files (fun _ => none)
        { command := .generate "g.json" .gitlab (some "g.json") false } w →
        ∃ after, storedDisk.save w = .ok after := by
      rintro ⟨path, text⟩ ⟨settings, graph, format, output, write, g, -, command, -, target, -⟩
      cases command
      rcases target with named | ⟨none, -⟩
      · obtain rfl : "g.json" = path := Option.some.inj named
        exact ⟨_, save_storedDisk text⟩
      · cases none
    have asks : Requests {} storedDisk.files (fun _ => none)
        { command := .generate "g.json" .gitlab (some "g.json") false }
        ⟨"g.json", generate Document.typedGraph .gitlab⟩ :=
      ⟨{}, "g.json", .gitlab, some "g.json", false, Document.typedGraph,
        ready_storedDisk _ _ .unreachable, rfl, loadGraph_storedDisk, .inl rfl, rfl⟩
    exact ((run_changes_one_file saves).1 _ asks).2.2
  · have none : ∀ w, ¬ Requests { host := emptyHost } storedDisk.files (fun _ => some "secret")
        { command := .push "g.json" (some " acme/web ") .gitlab none false } w := by
      rintro w ⟨settings, graph, format, output, write, g, -, command, -⟩
      cases command
    have given : givenRepository? {} (some " acme/web ") = some ⟨"acme", "web"⟩ := by decide
    rw [run_of_no_request none, (ready_storedDisk _ _ emptyHost).reply_eq, replyTo_push,
      replyPush_of_repository _ _ _ given, loadGraph_storedDisk]
    rfl

end PipelineCompiler.CommandLine
