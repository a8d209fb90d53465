namespace PipelineCompiler

/-- The event a trigger waits for. -/
inductive Event where
  | push
  | pullRequest
  | schedule
  | other (name : String)
  deriving DecidableEq, Repr, Inhabited

def Event.ofName : String → Event
  | "push" => .push
  | "pull_request" => .pullRequest
  | "schedule" => .schedule
  | name => .other name

structure TriggerSettings where
  trigger : Option String := none
  branch : Option String := none
  cron : Option String := none
  deriving DecidableEq, Repr, Inhabited

structure Trigger where
  blockType : String
  settings : TriggerSettings := {}
  deriving DecidableEq, Repr, Inhabited

namespace Trigger

def defaultBranch : String := "main"

def event (t : Trigger) : Event := .ofName (t.settings.trigger.getD "push")

def branch (t : Trigger) : String := t.settings.branch.getD defaultBranch

/-- Daily at midnight unless the settings say otherwise. -/
def cron (t : Trigger) : String := t.settings.cron.getD "0 0 * * *"

end Trigger

/-- What a job does, with the version or image it is set to. -/
inductive JobKind where
  | nodeTest (version : Option String)
  | nodeBuild (version : Option String)
  | pythonTest (version : Option String)
  | pythonBuild (version : Option String)
  | goBuild (version : Option String)
  | dockerBuild (image : Option String)
  | lint
  | securityScan
  | cache
  | deployVercel
  | deployAws
  | deployGcp
  | notifySlack
  | unknown (blockType : String)
  deriving DecidableEq, Repr, Inhabited

/-- The key of the configuration entry that sets a version or an image. -/
inductive SettingKey where
  | nodeVersion
  | pythonVersion
  | goVersion
  | imageName
  deriving DecidableEq, Repr

def SettingKey.name : SettingKey → String
  | nodeVersion => "nodeVersion"
  | pythonVersion => "pythonVersion"
  | goVersion => "goVersion"
  | imageName => "imageName"

namespace JobKind

def blockType : JobKind → String
  | nodeTest _ => "node_test"
  | nodeBuild _ => "node_build"
  | pythonTest _ => "python_test"
  | pythonBuild _ => "python_build"
  | goBuild _ => "go_build"
  | dockerBuild _ => "docker_build"
  | lint => "lint"
  | securityScan => "security_scan"
  | cache => "cache"
  | deployVercel => "deploy_vercel"
  | deployAws => "deploy_aws"
  | deployGcp => "deploy_gcp"
  | notifySlack => "notify_slack"
  | unknown tag => tag

def isKnown : JobKind → Bool
  | unknown _ => false
  | _ => true

/-- The kind of a block type whose version or image is `setting`, where the kind has one. -/
def ofBlockType (blockType : String) (setting : Option String) : JobKind :=
  match blockType with
  | "node_test" => nodeTest setting
  | "node_build" => nodeBuild setting
  | "python_test" => pythonTest setting
  | "python_build" => pythonBuild setting
  | "go_build" => goBuild setting
  | "docker_build" => dockerBuild setting
  | "lint" => lint
  | "security_scan" => securityScan
  | "cache" => cache
  | "deploy_vercel" => deployVercel
  | "deploy_aws" => deployAws
  | "deploy_gcp" => deployGcp
  | "notify_slack" => notifySlack
  | tag => unknown tag

theorem blockType_ofBlockType (blockType : String) (setting : Option String) :
    (ofBlockType blockType setting).blockType = blockType := by
  unfold ofBlockType; split <;> rfl

/-- The entry that a kind reads, if it has a version or an image. -/
def settingKey? : JobKind → Option SettingKey
  | nodeTest _ | nodeBuild _ => some .nodeVersion
  | pythonTest _ | pythonBuild _ => some .pythonVersion
  | goBuild _ => some .goVersion
  | dockerBuild _ => some .imageName
  | _ => none

/-- The version or image as it was set. -/
def setting? : JobKind → Option String
  | nodeTest s | nodeBuild s | pythonTest s | pythonBuild s | goBuild s | dockerBuild s => s
  | _ => none

end JobKind

/-- The version or image of a job that does not set one. -/
def SettingKey.fallback : SettingKey → String
  | nodeVersion => "20"
  | pythonVersion => "3.11"
  | goVersion => "1.21"
  | imageName => "my-app"

/-- The version or image in force, for the kinds that have one. -/
def JobKind.effectiveSetting? (kind : JobKind) : Option String :=
  kind.settingKey?.map fun key => kind.setting?.getD key.fallback

structure JobOptions where
  checkout : Option Bool := none
  runsOn : Option String := none
  command : Option String := none
  deriving DecidableEq, Repr, Inhabited

/-- Sources are checked out unless the options forbid it. -/
def JobOptions.checksOut (o : JobOptions) : Bool := o.checkout != some false

structure Job where
  kind : JobKind
  options : JobOptions := {}
  deriving DecidableEq, Repr, Inhabited

/-- What a node of a graph stands for. A trigger decides when the pipeline runs; a job
does a piece of its work. -/
inductive Block where
  | trigger (t : Trigger)
  | job (j : Job)
  deriving DecidableEq, Repr, Inhabited

def Block.blockType : Block → String
  | trigger t => t.blockType
  | job j => j.kind.blockType

end PipelineCompiler
