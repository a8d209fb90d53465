import Mathlib.Data.List.Basic
import Mathlib.Data.List.Nodup
import PipelineCompiler.Diagnostic
import PipelineCompiler.Emitter

namespace PipelineCompiler

def Node.rename (f : NodeId → NodeId) (n : Node) : Node := { n with id := f n.id }

def Edge.rename (f : NodeId → NodeId) (e : Edge) : Edge := ⟨f e.source, f e.target⟩

def Graph.rename (f : NodeId → NodeId) (g : Graph) : Graph :=
  ⟨g.nodes.map (·.rename f), g.edges.map (·.rename f)⟩

/-- The warning about the renamed nodes. A cycle is told by keys, not by ids. -/
def Warning.rename (f : NodeId → NodeId) : Warning → Warning
  | multipleTriggers honored ignored => .multipleTriggers (f honored) (ignored.map f)
  | unknownBlockType node blockType => .unknownBlockType (f node) blockType
  | duplicateJobKey key nodes => .duplicateJobKey key (nodes.map f)
  | danglingEdge source target missing => .danglingEdge (f source) (f target) (f missing)
  | dependencyCycle jobs => .dependencyCycle jobs

section Parts

variable (f : NodeId → NodeId) (n : Node)

@[simp] theorem Node.rename_id : (n.rename f).id = f n.id := rfl

@[simp] theorem Node.rename_label : (n.rename f).label = n.label := rfl

@[simp] theorem Node.rename_blockType : (n.rename f).blockType = n.blockType := rfl

@[simp] theorem Node.rename_jobKey : (n.rename f).jobKey = n.jobKey := rfl

@[simp] theorem Node.rename_job? : (n.rename f).job? = n.job? := rfl

@[simp] theorem Node.rename_isJob : (n.rename f).isJob = n.isJob := rfl

@[simp] theorem Node.rename_trigger? : (n.rename f).trigger? = n.trigger? := rfl

@[simp] theorem Edge.rename_source (e : Edge) : (e.rename f).source = f e.source := rfl

@[simp] theorem Edge.rename_target (e : Edge) : (e.rename f).target = f e.target := rfl

end Parts

namespace Graph

variable (f : NodeId → NodeId) (g : Graph)

theorem jobs_rename : (g.rename f).jobs = g.jobs.map fun (n, j) => (n.rename f, j) := by
  simp only [jobs, rename, List.filterMap_map, List.map_filterMap]
  congr 1
  funext n
  simp only [Function.comp_apply, Node.rename_job?]
  cases n.job? <;> rfl

theorem triggers_rename : (g.rename f).triggers = g.triggers.map fun (n, t) => (n.rename f, t) := by
  simp only [triggers, rename, List.filterMap_map, List.map_filterMap]
  congr 1
  funext n
  simp only [Function.comp_apply, Node.rename_trigger?]
  cases n.trigger? <;> rfl

theorem trigger?_rename : (g.rename f).trigger? = g.trigger?.map fun (n, t) => (n.rename f, t) := by
  rw [trigger?, triggers_rename, List.head?_map, trigger?]

theorem branch_rename : (g.rename f).branch = g.branch := by
  unfold branch
  rw [trigger?_rename]
  cases g.trigger? <;> rfl

theorem isEmpty_rename : (g.rename f).isEmpty = g.isEmpty := by
  simp [isEmpty, rename]

end Graph

theorem Stage.ofGraph_rename (f : NodeId → NodeId) (g : Graph) :
    ofGraph (g.rename f) = ofGraph g := by
  rw [ofGraph, Graph.jobs_rename, List.map_map]
  rfl

namespace Diagnostic

variable (f : NodeId → NodeId) (g : Graph)

theorem ofTriggers_rename : ofTriggers (g.rename f) = (ofTriggers g).map (·.rename f) := by
  rw [ofTriggers, Graph.triggers_rename, ofTriggers]
  match g.triggers with
  | [] => rfl
  | [_] => rfl
  | _ :: _ :: rest => simp [Warning.rename]

theorem ofBlockTypes_rename : ofBlockTypes (g.rename f) = (ofBlockTypes g).map (·.rename f) := by
  rw [ofBlockTypes, Graph.jobs_rename, ofBlockTypes, List.filter_map, List.map_map, List.map_map]
  rfl

/-- A group of nodes under a key, renamed. -/
def renameGroup (group : String × List NodeId) : String × List NodeId :=
  (group.1, group.2.map f)

theorem addToGroup_rename (key : String) (id : NodeId) (groups : List (String × List NodeId)) :
    addToGroup key (f id) (groups.map (renameGroup f)) =
      (addToGroup key id groups).map (renameGroup f) := by
  induction groups with
  | nil => rfl
  | cons group rest ih =>
    obtain ⟨k, ids⟩ := group
    rw [List.map_cons, renameGroup, addToGroup, addToGroup, ih]
    by_cases same : k = key <;> simp [same, renameGroup]

theorem groups_rename : groups (g.rename f) = (groups g).map (renameGroup f) := by
  have grouped (jobs : List (Node × Job)) (found : List (String × List NodeId)) :
      jobs.foldl (fun groups job => addToGroup job.1.jobKey (f job.1.id) groups)
        (found.map (renameGroup f)) =
        (jobs.foldl (fun groups job => addToGroup job.1.jobKey job.1.id groups) found).map
          (renameGroup f) := by
    induction jobs generalizing found with
    | nil => rfl
    | cons job rest ih => rw [List.foldl_cons, List.foldl_cons, addToGroup_rename, ih]
  rw [groups, Graph.jobs_rename, groups, List.foldl_map]
  exact grouped g.jobs []

theorem ofJobKeys_rename : ofJobKeys (g.rename f) = (ofJobKeys g).map (·.rename f) := by
  rw [ofJobKeys, groups_rename, ofJobKeys, List.filter_map, List.map_map, List.map_map]
  simp [Function.comp_def, renameGroup, Warning.rename]

end Diagnostic

section Injective

variable {f : NodeId → NodeId} (injective : Function.Injective f)
include injective

theorem NodeId.rename_beq (a b : NodeId) : (f a == f b) = (a == b) := by
  by_cases h : a = b
  · simp [h]
  · have ne : f a ≠ f b := fun eq => h (injective eq)
    simp [h, ne]

theorem NodeId.contains_rename (ids : List NodeId) (id : NodeId) :
    (ids.map f).contains (f id) = ids.contains id := by
  simp only [List.contains_eq_mem, List.mem_map_of_injective injective]

theorem Graph.node?_rename (g : Graph) (id : NodeId) :
    (g.rename f).node? (f id) = (g.node? id).map (·.rename f) := by
  simp only [node?, rename, List.find?_map]
  congr 2
  funext n
  exact NodeId.rename_beq injective n.id id

theorem Graph.incoming_rename (g : Graph) (id : NodeId) :
    (g.rename f).incoming (f id) = (g.incoming id).map (·.rename f) := by
  simp only [incoming, rename, List.filter_map]
  congr 2
  funext e
  exact NodeId.rename_beq injective e.target id

theorem Dependency.needs_rename (g : Graph) (n : Node) :
    needs (g.rename f) (n.rename f) = needs g n := by
  simp only [needs, Node.rename_id, Graph.incoming_rename injective, List.filterMap_map]
  congr 1
  funext e
  simp only [Function.comp_apply, Edge.rename_source, Graph.node?_rename injective, Option.bind_map]
  rfl

theorem Github.compile_rename (runner : String) (g : Graph) :
    compile runner (g.rename f) = compile runner g := by
  have name : workflowName (g.rename f) = workflowName g := by
    unfold workflowName
    rw [Graph.trigger?_rename]
    cases g.trigger? <;> rfl
  have start : (g.rename f).trigger?.map (·.2) = g.trigger?.map (·.2) := by
    rw [Graph.trigger?_rename, Option.map_map]
    rfl
  have job (n : Node) (j : PipelineCompiler.Job) :
      compileJob runner (g.rename f) (n.rename f) j = compileJob runner g n j := by
    simp only [compileJob, Dependency.needs_rename injective, Node.rename_label]
  rw [compile, name, start, Graph.jobs_rename, List.map_map]
  simp only [Function.comp_def, job, Node.rename_jobKey]
  rfl

theorem Gitlab.compile_rename (image : String) (g : Graph) :
    compile image (g.rename f) = compile image g := by
  have job (n : Node) (j : PipelineCompiler.Job) :
      compileJob (g.rename f) (n.rename f) j = compileJob g n j := by
    simp only [compileJob, Dependency.needs_rename injective, Node.rename_label,
      Node.rename_blockType, Graph.branch_rename]
    rfl
  rw [compile, Stage.ofGraph_rename, Graph.jobs_rename, List.map_map]
  simp only [Function.comp_def, job, Node.rename_jobKey]
  rfl

namespace Dependency

theorem eraseDups_rename : (ids : List NodeId) → (ids.map f).eraseDups = ids.eraseDups.map f
  | [] => rfl
  | id :: rest => by
      have others :
      (rest.map f).filter (fun a => !a == f id) = (rest.filter fun a => !a == id).map f := by
        rw [List.filter_map]
        congr 2
        funext a
        simp only [Function.comp_apply, NodeId.rename_beq injective]
      rw [List.map_cons, List.eraseDups_cons, List.eraseDups_cons, List.map_cons, others,
        eraseDups_rename (rest.filter fun a => !a == id)]
termination_by ids => ids.length
decreasing_by
  exact Nat.lt_succ_of_le (List.length_filter_le _ _)

theorem vertices_go_rename (seen : List NodeId) (nodes : List Node) :
    vertices.go (seen.map f) (nodes.map (·.rename f)) =
      (vertices.go seen nodes).map (·.rename f) := by
  induction nodes generalizing seen with
  | nil => rfl
  | cons n rest ih =>
    have next := ih (n.id :: seen)
    rw [List.map_cons] at next
    simp only [List.map_cons, vertices.go, Node.rename_id, Node.rename_isJob,
      List.mem_map_of_injective injective, ih, next]
    split
    · rfl
    · split <;> rfl

theorem vertices_rename (g : Graph) : vertices (g.rename f) = (vertices g).map (·.rename f) :=
  vertices_go_rename injective [] g.nodes

theorem ids_vertices_rename (g : Graph) :
    (vertices (g.rename f)).map (·.id) = ((vertices g).map (·.id)).map f := by
  rw [vertices_rename injective, List.map_map, List.map_map]
  rfl

theorem arrows_rename (g : Graph) : arrows (g.rename f) = (arrows g).map (Prod.map f f) := by
  have kept :
      (g.rename f).edges.filter (fun e => (((vertices g).map (·.id)).map f).contains e.source &&
        (((vertices g).map (·.id)).map f).contains e.target) =
      (g.edges.filter fun e => ((vertices g).map (·.id)).contains e.source &&
        ((vertices g).map (·.id)).contains e.target).map (·.rename f) := by
    rw [Graph.rename, List.filter_map]
    congr 2
    funext e
    simp only [Function.comp_apply, Edge.rename_source, Edge.rename_target,
      NodeId.contains_rename injective]
  simp only [arrows]
  rw [ids_vertices_rename injective, kept, List.map_map, List.map_map]
  rfl

theorem ahead_rename (arrows : Arrows) (seen edge : List NodeId) :
    ahead (arrows.map (Prod.map f f)) (seen.map f) (edge.map f) =
      (ahead arrows seen edge).map f := by
  simp only [ahead, ← eraseDups_rename injective, List.filterMap_map, List.map_filterMap]
  congr 2
  funext ⟨s, t⟩
  simp only [Function.comp_apply, Prod.map_apply, NodeId.contains_rename injective]
  split <;> rfl

/-- Every round of the search meets the renamed ids of that round. -/
theorem close_rename (arrows : Arrows) (rounds : Nat) (seen edge : List NodeId) :
    close (arrows.map (Prod.map f f)) rounds (seen.map f) (edge.map f) =
      (close arrows rounds seen edge).map f := by
  induction rounds generalizing seen edge with
  | zero => rfl
  | succ n ih =>
    simp only [close, ahead_rename injective]
    cases h : ahead arrows seen edge with
    | nil => rfl
    | cons id rest =>
      have next := ih (seen ++ id :: rest) (id :: rest)
      rw [List.map_append] at next
      exact next

theorem reachable_rename (arrows : Arrows) (ids : List NodeId) (v : NodeId) :
    reachable (arrows.map (Prod.map f f)) (ids.map f) (f v) = (reachable arrows ids v).map f := by
  rw [reachable, reachable, List.length_map]
  exact close_rename injective arrows _ [] [v]

theorem collect_rename (table rest : List (Node × List NodeId)) (done : List NodeId) :
    cycles.collect (table.map fun (n, reach) => (n.rename f, reach.map f)) (done.map f)
        (rest.map fun (n, reach) => (n.rename f, reach.map f)) =
      (cycles.collect table done rest).map fun cycle => cycle.map (·.rename f) := by
  induction rest generalizing done with
  | nil => rfl
  | cons row rest ih =>
    obtain ⟨v, reach⟩ := row
    have members : (table.map fun (n, back) => (n.rename f, back.map f)).filter
          (fun (w, back) => (reach.map f).contains w.id && back.contains (f v.id)) =
        (table.filter fun (w, back) => reach.contains w.id && back.contains v.id).map
          fun (n, back) => (n.rename f, back.map f) := by
      rw [List.filter_map]
      congr 2
      funext ⟨w, back⟩
      simp only [Function.comp_apply, Node.rename_id, NodeId.contains_rename injective]
    simp only [List.map_cons, cycles.collect, Node.rename_id,
      NodeId.contains_rename injective, members]
    split
    · have next :=
        ih ((table.filter fun (w, back) => reach.contains w.id && back.contains v.id).map (·.1.id)
        ++ done)
      simp only [List.map_append, List.map_map] at next
      simp only [List.map_cons, List.map_map]
      exact congrArg _ next
    · exact ih done

theorem cycles_rename (g : Graph) :
    cycles (g.rename f) = (cycles g).map fun cycle => cycle.map (·.rename f) := by
  have table : (vertices (g.rename f)).map (fun v =>
        (v, reachable (arrows (g.rename f)) ((vertices (g.rename f)).map (·.id)) v.id)) =
      ((vertices g).map fun v => (v, reachable (arrows g) ((vertices g).map (·.id)) v.id)).map
        fun (n, reach) => (n.rename f, reach.map f) := by
    rw [arrows_rename injective, ids_vertices_rename injective, vertices_rename injective]
    generalize (vertices g).map (·.id) = ids
    rw [List.map_map, List.map_map]
    apply List.map_congr_left
    intro v _
    simp only [Function.comp_apply, Node.rename_id, reachable_rename injective]
  rw [cycles, cycles]
  simp only [table]
  exact collect_rename injective _ _ []

end Dependency

namespace Diagnostic

theorem missingEnd?_rename (g : Graph) (e : Edge) :
    missingEnd? (g.rename f) (e.rename f) = (missingEnd? g e).map f := by
  have ends : [(e.rename f).source, (e.rename f).target] = [e.source, e.target].map f := rfl
  rw [missingEnd?, ends, List.find?_map, missingEnd?]
  simp only [Function.comp_def, Graph.node?_rename injective, Option.isNone_map]

theorem ofEdges_rename (g : Graph) : ofEdges (g.rename f) = (ofEdges g).map (·.rename f) := by
  rw [ofEdges, ofEdges, List.map_filterMap]
  change (g.edges.map (·.rename f)).filterMap _ = _
  rw [List.filterMap_map]
  congr 1
  funext e
  simp only [Function.comp_apply, missingEnd?_rename injective, Option.map_map]
  rfl

theorem ofCycles_rename (g : Graph) : ofCycles (g.rename f) = (ofCycles g).map (·.rename f) := by
  rw [ofCycles, Dependency.cycles_rename injective, ofCycles, List.map_map, List.map_map]
  simp [Function.comp_def, Warning.rename]

theorem diagnose_rename (g : Graph) : diagnose (g.rename f) = (diagnose g).map (·.rename f) := by
  simp only [diagnose, List.map_append, ofTriggers_rename, ofBlockTypes_rename,
    ofJobKeys_rename, ofEdges_rename injective, ofCycles_rename injective]

end Diagnostic

namespace Graph

/-- Renaming ids one to one changes no text, in either dialect and whatever the runner and the
image, and the warnings only in the ids they name. -/
theorem emit_diagnose_rename (g : Graph) (runner image : String) :
    (Emitter.github runner).emit (g.rename f) = (Emitter.github runner).emit g ∧
    (Emitter.gitlab image).emit (g.rename f) = (Emitter.gitlab image).emit g ∧
    Diagnostic.diagnose (g.rename f) = (Diagnostic.diagnose g).map (·.rename f) := by
  refine ⟨?_, ?_, Diagnostic.diagnose_rename injective g⟩
  · simp only [Emitter.github, Emitter.onNodes, isEmpty_rename, Github.compile_rename injective]
  · simp only [Emitter.gitlab, Emitter.onNodes, isEmpty_rename, Gitlab.compile_rename injective]

end Graph

end Injective

namespace Graph

/-- Two triggers, two jobs under one id and one key, two that need each other, an unknown block type
and an edge from nowhere. -/
def crowdedGraph : Graph :=
  ⟨[⟨"t", "Push", .trigger ⟨"trigger_push", {}⟩⟩,
    ⟨"u", "Nightly", .trigger ⟨"trigger_schedule", {}⟩⟩,
      ⟨"a", "Lint", .job ⟨.lint, {}⟩⟩, ⟨"b", "Plan", .job ⟨.unknown "terraform", {}⟩⟩,
      ⟨"a", "lint", .job ⟨.lint, {}⟩⟩],
    [⟨"a", "b"⟩, ⟨"x", "b"⟩, ⟨"b", "a"⟩]⟩

theorem emit_diagnose_rename_crowded : Function.Injective ("z" ++ · : NodeId → NodeId) ∧
    Diagnostic.diagnose (crowdedGraph.rename ("z" ++ ·)) =
      [.multipleTriggers "zt" ["zu"], .unknownBlockType "zb" "terraform",
        .duplicateJobKey "lint" ["za", "za"], .danglingEdge "zx" "zb" "zx",
          .dependencyCycle ["lint", "plan"]] := by
  have injective : Function.Injective ("z" ++ · : NodeId → NodeId) :=
    fun _ _ same => (String.append_right_inj "z").mp same
  have found : Diagnostic.diagnose crowdedGraph =
      [.multipleTriggers "t" ["u"], .unknownBlockType "b" "terraform",
        .duplicateJobKey "lint" ["a", "a"], .danglingEdge "x" "b" "x", .dependencyCycle ["lint",
          "plan"]] := by
    decide +kernel
  refine ⟨injective, ?_⟩
  rw [(emit_diagnose_rename injective crowdedGraph "ubuntu" "alpine").2.2, found]
  rfl

end Graph

end PipelineCompiler
