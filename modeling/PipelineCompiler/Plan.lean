import PipelineCompiler.Graph

namespace PipelineCompiler

/-- An environment that a job sets up before it works. -/
inductive Toolchain where
  | node (version : String)
  | python (version : String)
  | go (version : String)
  | docker (image : String)
  deriving DecidableEq, Repr, Inhabited

namespace Toolchain

def ofKind? (kind : JobKind) : Option Toolchain :=
  match kind.settingKey?, kind.effectiveSetting? with
  | some .nodeVersion, some v => some (node v)
  | some .pythonVersion, some v => some (python v)
  | some .goVersion, some v => some (go v)
  | some .imageName, some v => some (docker v)
  | _, _ => none

/-- Whether a package install follows the setup. -/
def installs : Toolchain → Bool
  | node _ | python _ => true
  | go _ | docker _ => false

end Toolchain

inductive PlanStep where
  | checkout
  | setup (t : Toolchain)
  | install (t : Toolchain)
  | cache
  | command (label command : String)
  | builtin (kind : JobKind)
  deriving DecidableEq, Repr, Inhabited

namespace Plan

def preparation (kind : JobKind) : List PlanStep :=
  match Toolchain.ofKind? kind with
  | some t => .setup t :: (if t.installs then [.install t] else [])
  | none => []

/-- The custom command, or else the steps that the kind brings along. -/
def work (label : String) (job : Job) : PlanStep :=
  match job.options.command with
  | some command => .command label command
  | none => .builtin job.kind

/-- What a job does, step by step, before any dialect has its say. A job of unknown type only
checks out the sources. -/
def steps (label : String) (job : Job) : List PlanStep :=
  (if job.options.checksOut then [.checkout] else []) ++
    if job.kind.isKnown then
      preparation job.kind ++ (if job.kind = .cache then [.cache] else []) ++ [work label job]
    else []

end Plan

end PipelineCompiler
