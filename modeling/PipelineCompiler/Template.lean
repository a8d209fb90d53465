import PipelineCompiler.Catalog

namespace PipelineCompiler

/-- A starter pipeline, built from catalog blocks. -/
structure Template where
  name : String
  title : String
  /-- Ids and block types. -/
  blocks : List (NodeId × String)
  edges : List (NodeId × NodeId)
  deriving Repr

namespace Template

def graph (t : Template) : Graph :=
  ⟨t.blocks.filterMap fun (id, blockType) => Catalog.place? blockType id,
   t.edges.map fun (source, target) => ⟨source, target⟩⟩

def all : List Template :=
  [{ name := "nodejs", title := "Node.js App",
     blocks := [("t1", "trigger_push"), ("j1", "lint"), ("j2", "node_test"), ("j3", "node_build"),
       ("j4", "deploy_vercel")],
     edges := [("t1", "j1"), ("t1", "j2"), ("j1", "j3"), ("j2", "j3"), ("j3", "j4")] },
   { name := "python", title := "Python App",
     blocks := [("t1", "trigger_push"), ("j1", "security_scan"), ("j2", "python_test"),
       ("j3", "python_build"), ("j4", "deploy_aws")],
     edges := [("t1", "j1"), ("t1", "j2"), ("j1", "j3"), ("j2", "j3"), ("j3", "j4")] },
   { name := "docker", title := "Docker",
     blocks := [("t1", "trigger_push"), ("j1", "security_scan"), ("j2", "docker_build"),
       ("j3", "deploy_gcp")],
     edges := [("t1", "j1"), ("j1", "j2"), ("j2", "j3")] },
   { name := "fullstack", title := "Full Stack",
     blocks := [("t1", "trigger_pr"), ("j1", "lint"), ("j2", "node_test"), ("j3", "security_scan"),
       ("j4", "node_build"), ("j5", "deploy_vercel"), ("j6", "notify_slack")],
     edges := [("t1", "j1"), ("t1", "j2"), ("t1", "j3"), ("j1", "j4"), ("j2", "j4"), ("j3", "j4"),
       ("j4", "j5"), ("j4", "j6")] }]

def lookup? (name : String) : Option Template := all.find? (·.name == name)

end Template

end PipelineCompiler
