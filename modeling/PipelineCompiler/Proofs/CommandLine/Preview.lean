import PipelineCompiler.Proofs.CommandLine.Replies

namespace PipelineCompiler.CommandLine

open Repository (display_of_ofText)

theorem givenRepository?_eq_some {settings : Settings} {repository : Option String} {text : String}
    {r : Repository} (named : repository.or settings.publish.repository = some text)
    (valid : Repository.ofText text = .ok r) : givenRepository? settings repository = some r := by
  rw [givenRepository?, named, Option.bind_some, valid]
  rfl

/-- What a dry run tells about a text that would go to a path of a repository. -/
def dryRunText (path repository text : String) : String :=
  "Would write " ++ path ++ " to " ++ repository ++ ":\n\n" ++ text ++ "\n" ++
    "Dry run: nothing was pushed" ++ "\n" ++
    "https://github.com/" ++ repository ++ "/blob/HEAD/" ++ path ++ "\n"

theorem preview_dryRun (content path : String) (r : Repository) :
    preview content ⟨.dryRun, r, path⟩ ++ PublishStatus.dryRun.summary ++ "\n" ++
      (⟨.dryRun, r, path⟩ : PublishOutcome).url ++ "\n" =
    dryRunText path r.display (Text.endLine content) := by
  unfold preview dryRunText PublishStatus.summary PublishOutcome.url Repository.url
  simp only [String.append_assoc]

/-- A dry run needs a repository and a graph, and nothing else. -/
theorem replyPush_dryRun {settings : Settings} {repository : Option String} {r : Repository}
    (given : givenRepository? settings repository = some r) (files : Files) (env : Variables)
    (graph : String) (format : Format) (path : Option String) (host : Host) :
    replyPush files settings env graph repository format path true host =
      (loadGraph files graph).map fun g =>
        { stdout := dryRunText (path.getD (settings.output.path format)) r.display
            (Text.endLine (generate g format)) } := by
  have outcome (token : Option String) (path content : String) :
      Publishing.publish token true r path content host = .ok ⟨.dryRun, r, path⟩ := rfl
  rw [replyPush_of_repository files env graph given]
  cases loadGraph files graph with
  | error f => rfl
  | ok g =>
    simp only [Except.bind, outcome, Except.map, Except.mapError, if_true]
    rw [preview_dryRun]

/-- A dry run shows what `generate` prints, with an empty line behind it, and fails as `generate`
fails. Unless a path is named, it shows the path that `generate` writes to. -/
theorem push_dryRun_eq_generate {settings : Settings} {repository : Option String} {text : String}
    {r : Repository} (named : repository.or settings.publish.repository = some text)
    (valid : Repository.ofText text = .ok r) (files : Files) (env : Variables) (host : Host)
    (graph : String) (format : Format) (path : Option String) :
    let pushed (env : Variables) (host : Host) :=
      replyTo files settings env .natural host (.push graph repository format path true)
    let generated (write : Bool) :=
      replyTo files settings env .natural host (.generate graph format none write)
    pushed env host = (generated false).map (fun shown =>
      { stdout := dryRunText (path.getD (settings.output.path format))
          (String.ofList (Text.trim text.toList)) shown.stdout }) ∧
    (∀ shown, generated false = .ok shown → shown.stdout.toList.getLast? = some '\n' ∧
      ∃ w, generated true = .ok { stdout := "Wrote " ++ w.path ++ "\n", write? := some w } ∧
        w.path = settings.output.path format) ∧
    (∀ other otherHost, pushed other otherHost = pushed env host) ∧
    ∀ f, pushed env host = .error f → f.kind ≠ .publishing := by
  intro pushed generated
  have given := givenRepository?_eq_some named valid
  have previewed (env : Variables) (host : Host) :
      pushed env host = (loadGraph files graph).map fun g =>
        { stdout := dryRunText (path.getD (settings.output.path format)) r.display
            (Text.endLine (generate g format)) } :=
    replyPush_dryRun given files env graph format path host
  have generates : generated false = (loadGraph files graph).map fun g =>
      { stdout := Text.endLine (generate g format) } :=
    replyGenerate_eq files settings graph format none false
  have writes : generated true = (loadGraph files graph).map fun g =>
      ⟨"Wrote " ++ settings.output.path format ++ "\n",
        some ⟨settings.output.path format, generate g format⟩⟩ :=
    replyGenerate_eq files settings graph format none true
  refine ⟨?_, fun shown h => ?_, fun other otherHost => ?_, fun f h => ?_⟩
  · rw [previewed, generates, display_of_ofText valid]
    cases loadGraph files graph <;> rfl
  · obtain ⟨g, loaded, rfl⟩ := Outcome.map_eq_ok.mp (generates.symm.trans h)
    exact ⟨Text.getLast?_endLine _, ⟨_, generate g format⟩, by rw [writes, loaded]; rfl, rfl⟩
  · rw [previewed, previewed]
  · have failed := Outcome.map_eq_error.mp ((previewed env host).symm.trans h)
    rw [(isRejection_of_loadGraph failed).kind]
    decide

theorem push_dryRun_eq_generate_typed :
    let files : Files := ⟨fun _ => false, fun _ => .ok Document.typedText⟩
    let pushed := replyTo files {} (fun _ => none) .natural .unreachable
      (.push "g.json" (some " acme/web\n") .gitlab none true)
    pushed.map (·.stdout) = .ok (dryRunText ".gitlab-ci.yml" "acme/web"
      (Text.endLine (generate Document.typedGraph .gitlab))) := by
  intro files pushed
  have valid : Repository.ofText " acme/web\n" = .ok ⟨"acme", "web"⟩ := by decide
  have loaded : loadGraph files "g.json" = .ok Document.typedGraph :=
    loadGraph_of_typedText rfl (by decide)
  have shown : replyTo files {} (fun _ => none) .natural .unreachable
      (.generate "g.json" .gitlab none false) =
        .ok { stdout := Text.endLine (generate Document.typedGraph .gitlab) } := by
    change replyGenerate files {} "g.json" .gitlab none false = _
    rw [replyGenerate_eq, loaded]
    rfl
  have named : (some " acme/web\n").or ({} : Settings).publish.repository = some " acme/web\n" :=
    rfl
  have trimmed : String.ofList (Text.trim " acme/web\n".toList) = "acme/web" := by decide
  have path : (none : Option String).getD (({} : Settings).output.path .gitlab) =
      ".gitlab-ci.yml" := rfl
  have previewed := (push_dryRun_eq_generate named valid files (fun _ => none) .unreachable
    "g.json" .gitlab none).1
  simp only [shown, trimmed, path, Except.map] at previewed
  simp only [pushed, previewed, Except.map]

end PipelineCompiler.CommandLine
