import PipelineCompiler.Dependency
import PipelineCompiler.Gitlab.Pipeline
import PipelineCompiler.Plan

namespace PipelineCompiler.Gitlab

def defaultImage : String := "ubuntu:latest"

def builtinScript : JobKind → List String
  | .nodeTest _ => ["npm ci", "npm test"]
  | .nodeBuild _ => ["npm ci", "npm run build"]
  | .pythonTest _ => ["pip install -r requirements.txt", "pytest"]
  | .pythonBuild _ => ["pip install build", "python -m build"]
  | .goBuild _ => ["go build ./...", "go test ./..."]
  | .lint => ["npm ci", "npm run lint"]
  | .securityScan => ["npm audit --audit-level=high"]
  | .dockerBuild image =>
      ["docker build -t " ++ image.getD SettingKey.imageName.fallback ++ ":latest ."]
  | .deployVercel => ["npx vercel --token=$VERCEL_TOKEN --prod"]
  | .deployAws => ["aws s3 sync ./build s3://my-bucket"]
  | .deployGcp => ["gcloud run deploy my-service --region us-central1 --source ."]
  | .notifySlack =>
      ["'curl -X POST -H \"Content-type: application/json\" --data " ++
        "\"\x7b\\\"text\\\":\\\"Pipeline complete\\\"\x7d\" $SLACK_WEBHOOK_URL'"]
  | .cache => ["npm ci --cache .npm --prefer-offline"]
  | .unknown _ => []

/-- The image of a job provides its toolchain, and a kind comes with the commands that install what
it needs, so only custom commands and those are written. -/
def planScript : PlanStep → List String
  | .checkout | .setup _ | .install _ | .cache => []
  | .command _ command => [command]
  | .builtin kind => builtinScript kind

def imageOf : Toolchain → String
  | .node v => "node:" ++ v ++ "-alpine"
  | .python v => "python:" ++ v ++ "-slim"
  | .go v => "golang:" ++ v
  | .docker _ => "docker:latest"

def servicesOf : Toolchain → List String
  | .docker _ => ["docker:dind"]
  | _ => []

def packageCache : Cache := ⟨"$\x7bCI_COMMIT_REF_SLUG\x7d", [".npm/"]⟩

def compileJob (g : Graph) (n : Node) (j : PipelineCompiler.Job) : Job :=
  let plan := Plan.steps n.label j
  let toolchain := Toolchain.ofKind? j.kind
  { stage := Stage.classify n.blockType
    image := toolchain.map imageOf
    services := (toolchain.map servicesOf).getD []
    needs := Dependency.needs g n
    cache := if .cache ∈ plan then some packageCache else none
    script := plan.flatMap planScript
    rules := [.onBranch g.branch] }

def compile (image : String) (g : Graph) : Pipeline :=
  { defaultImage := image
    stages := Stage.ofGraph g
    jobs := g.jobs.map fun (n, j) => (n.jobKey, compileJob g n j) }

end PipelineCompiler.Gitlab
