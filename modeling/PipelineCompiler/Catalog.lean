import PipelineCompiler.Graph

namespace PipelineCompiler

inductive Category where
  | triggers
  | testAndQuality
  | build
  | deploy
  deriving DecidableEq, Repr, Inhabited

namespace Category

def title : Category → String
  | triggers => "Triggers"
  | testAndQuality => "Test & Quality"
  | build => "Build"
  | deploy => "Deploy"

def tag : Category → String
  | triggers => "triggers"
  | testAndQuality => "test-and-quality"
  | build => "build"
  | deploy => "deploy"

end Category

/-- A block that can be placed, and how a freshly placed one is set. -/
structure CatalogEntry where
  blockType : String
  label : String
  description : String
  category : Category
  block : Block
  deriving DecidableEq, Repr, Inhabited

namespace Catalog

def freshTrigger (blockType event : String) (branch cron : Option String) : Block :=
  .trigger ⟨blockType, ⟨some event, branch, cron⟩⟩

/-- A job as it is placed: its version or image spelled out, checkout on or off. -/
def freshJob (blockType : String) (checkout : Bool) : Block :=
  let setting := (JobKind.ofBlockType blockType none).effectiveSetting?
  .job ⟨.ofBlockType blockType setting, { checkout := some checkout }⟩

def triggerEntry (blockType label description event : String) (branch cron : Option String) :
    CatalogEntry :=
  ⟨blockType, label, description, .triggers, freshTrigger blockType event branch cron⟩

def jobEntry (blockType label description : String) (category : Category)
    (checkout : Bool := true) : CatalogEntry :=
  ⟨blockType, label, description, category, freshJob blockType checkout⟩

def entries : List CatalogEntry :=
  [triggerEntry "trigger_push" "Push Trigger" "Runs on git push" "push" (some "main") none,
   triggerEntry "trigger_pr" "Pull Request" "Runs on PR open/sync" "pull_request"
     (some "main") none,
   triggerEntry "trigger_schedule" "Scheduled" "Runs on a cron schedule" "schedule" none
     (some "0 0 * * *"),
   jobEntry "node_test" "Node.js Tests" "npm ci + npm test" .testAndQuality,
   jobEntry "python_test" "Python Tests" "pip install + pytest" .testAndQuality,
   jobEntry "go_build" "Go Build & Test" "go build + go test" .testAndQuality,
   jobEntry "lint" "Lint Code" "Run ESLint/Prettier" .testAndQuality,
   jobEntry "security_scan" "Security Scan" "Snyk vulnerability scan" .testAndQuality,
   jobEntry "node_build" "Node.js Build" "npm ci + npm run build" .build,
   jobEntry "python_build" "Python Build" "python -m build" .build,
   jobEntry "docker_build" "Docker Build" "Build & tag Docker image" .build,
   jobEntry "cache" "Cache Deps" "Cache node_modules/pip" .build false,
   jobEntry "deploy_vercel" "Deploy Vercel" "Deploy to Vercel" .deploy,
   jobEntry "deploy_aws" "Deploy AWS" "Deploy to AWS" .deploy,
   jobEntry "deploy_gcp" "Deploy GCP" "Deploy to Google Cloud" .deploy,
   jobEntry "notify_slack" "Slack Notify" "Send Slack notification" .deploy false]

end Catalog

namespace CatalogEntry

def role (e : CatalogEntry) : Role :=
  match e.block with
  | .trigger _ => .trigger
  | .job _ => .job

def place (e : CatalogEntry) (id : NodeId) : Node := ⟨id, e.label, e.block⟩

end CatalogEntry

namespace Catalog

def lookup? (blockType : String) : Option CatalogEntry := entries.find? (·.blockType == blockType)

def place? (blockType : String) (id : NodeId) : Option Node := (lookup? blockType).map (·.place id)

end Catalog

end PipelineCompiler
