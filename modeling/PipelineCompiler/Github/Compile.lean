import PipelineCompiler.Dependency
import PipelineCompiler.Github.Workflow
import PipelineCompiler.Plan

namespace PipelineCompiler.Github

def defaultRunner : String := "ubuntu-latest"

def defaultName : String := "My Pipeline"

/-- An expression that the workflow service evaluates. -/
def expression (e : String) : String := "$\x7b\x7b " ++ e ++ " \x7d\x7d"

/-- A version in quotes, so that it stays text. -/
def version (v : String) : String := "\"" ++ v ++ "\""

def builtinSteps : JobKind → List Step
  | .nodeTest _ => [.runs "Run tests" "npm test"]
  | .nodeBuild _ => [.runs "Build application" "npm run build"]
  | .pythonTest _ => [.runs "Run tests" "pytest"]
  | .pythonBuild _ => [.runs "Build package" "python -m build"]
  | .goBuild _ => [.runs "Build" "go build ./...", .runs "Test" "go test ./..."]
  | .lint => [.runs "Run linter" "npm run lint"]
  | .securityScan =>
      [.uses "Security scan" "snyk/actions/node@master" []
        [("SNYK_TOKEN", expression "secrets.SNYK_TOKEN")]]
  | .deployVercel =>
      [.uses "Deploy to Vercel" "amondnet/vercel-action@v25"
        [("vercel-token", expression "secrets.VERCEL_TOKEN"),
         ("vercel-org-id", expression "secrets.ORG_ID"),
         ("vercel-project-id", expression "secrets.PROJECT_ID")]]
  | .deployAws =>
      [.uses "Deploy to AWS" "aws-actions/configure-aws-credentials@v4"
        [("aws-access-key-id", expression "secrets.AWS_ACCESS_KEY_ID"),
         ("aws-secret-access-key", expression "secrets.AWS_SECRET_ACCESS_KEY"),
         ("aws-region", "us-east-1")]]
  | .deployGcp =>
      [.uses "Deploy to GCP" "google-github-actions/deploy-cloudrun@v1"
        [("service", "my-service"), ("region", "us-central1"),
         ("credentials", expression "secrets.GCP_CREDENTIALS")]]
  | .notifySlack =>
      [.uses "Notify Slack" "slackapi/slack-github-action@v1.26.0"
        [("payload",
          "'\x7b\"text\":\"Pipeline completed for " ++ expression "github.repository" ++ "\"\x7d'")]
        [("SLACK_WEBHOOK_URL", expression "secrets.SLACK_WEBHOOK_URL")]]
  | .dockerBuild _ | .cache | .unknown _ => []

def planStep : PlanStep → List Step
  | .checkout => [.uses "Checkout code" "actions/checkout@v4"]
  | .setup (.node v) =>
      [.uses "Setup Node.js" "actions/setup-node@v4" [("node-version", version v)]]
  | .setup (.python v) =>
      [.uses "Setup Python" "actions/setup-python@v4" [("python-version", version v)]]
  | .setup (.go v) => [.uses "Setup Go" "actions/setup-go@v4" [("go-version", version v)]]
  | .setup (.docker image) =>
      [.uses "Set up Docker Buildx" "docker/setup-buildx-action@v3",
       .runs "Build Docker image" ("docker build -t " ++ image ++ ":latest .")]
  | .install (.node _) => [.runs "Install dependencies" "npm ci"]
  | .install (.python _) => [.runs "Install dependencies" "pip install -r requirements.txt"]
  | .install _ => []
  | .cache =>
      [.uses "Cache dependencies" "actions/cache@v3"
        [("path", "~/.npm"),
         ("key", expression "runner.os" ++ "-node-" ++
            expression "hashFiles('**/package-lock.json')")]]
  | .command label command => [.runs label command]
  | .builtin kind => builtinSteps kind

def compileJob (runner : String) (g : Graph) (n : Node) (j : PipelineCompiler.Job) : Job :=
  { runsOn := j.options.runsOn.getD runner
    needs := Dependency.needs g n
    steps := (Plan.steps n.label j).flatMap planStep }

def compileStart : Option Trigger → Start
  | none => .branch "push" Trigger.defaultBranch
  | some t =>
      match t.event with
      | .push => .branch "push" t.branch
      | .pullRequest => .branch "pull_request" t.branch
      | .schedule => .schedule t.cron
      | .other name => .event name

/-- The label of the first trigger, unless it is empty. -/
def workflowName (g : Graph) : String :=
  match g.trigger? with
  | some (n, _) => if n.label = "" then defaultName else n.label
  | none => defaultName

def compile (runner : String) (g : Graph) : Workflow :=
  { name := workflowName g
    start := compileStart (g.trigger?.map (·.2))
    jobs := g.jobs.map fun (n, j) => (n.jobKey, compileJob runner g n j) }

end PipelineCompiler.Github
