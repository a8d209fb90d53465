import PipelineCompiler.Text.Split
import PipelineCompiler.Text.WhiteSpace

namespace PipelineCompiler

structure Repository where
  owner : String
  name : String
  deriving DecidableEq, Repr, Inhabited

inductive PublishFault where
  | invalidRepository (text : String)
  | authentication (cause : String)
  | remote (cause : String)
  deriving DecidableEq, Repr

def PublishFault.message : PublishFault → String
  | invalidRepository text => "Invalid repository '" ++ text ++ "': expected 'owner/name'"
  | authentication cause => "Authentication failed: " ++ cause
  | remote cause => "Remote error: " ++ cause

namespace Repository

/-- A reference is an owner and a name around its only slash; white space
around it does not count. -/
def ofText (text : String) : Except PublishFault Repository :=
  match Text.split '/' (Text.trim text.toList) with
  | [owner, name] =>
      if owner.isEmpty || name.isEmpty then .error (.invalidRepository text)
      else .ok ⟨String.ofList owner, String.ofList name⟩
  | _ => .error (.invalidRepository text)

def display (r : Repository) : String := r.owner ++ "/" ++ r.name

/-- Where a browser finds a file of the repository. -/
def url (r : Repository) (path : String) : String :=
  "https://github.com/" ++ r.display ++ "/blob/HEAD/" ++ path

end Repository

inductive PublishStatus where
  | created
  | updated
  | dryRun
  deriving DecidableEq, Repr, Inhabited

namespace PublishStatus

def commitMessage : PublishStatus → String
  | updated => "Update CI/CD pipeline via PipeForge"
  | created | dryRun => "Add CI/CD pipeline via PipeForge"

def summary : PublishStatus → String
  | created => "Pipeline created!"
  | updated => "Pipeline updated!"
  | dryRun => "Dry run: nothing was pushed"

end PublishStatus

structure PublishOutcome where
  status : PublishStatus
  repository : Repository
  path : String
  deriving DecidableEq, Repr

def PublishOutcome.url (o : PublishOutcome) : String := o.repository.url o.path

/-- A call that a host did not carry out: the status that it answered with,
if any, and the cause. -/
structure HostFault where
  status : Option Nat := none
  cause : String
  deriving DecidableEq, Repr

/-- The host says that there is no such file. -/
def HostFault.isMissing (f : HostFault) : Bool := f.status == some 404

/-- What can be asked of a host on behalf of a token. -/
structure Client where
  /-- The hashes of what lies at a path of a repository. -/
  hashes : Repository → String → Except HostFault (List String)
  /-- Commits a text in place of the one with the hash. -/
  update (repository : Repository) (path message content hash : String) : Except HostFault Unit
  create (repository : Repository) (path message content : String) : Except HostFault Unit

/-- A host opens a client for a token, or says why not. -/
structure Host where
  connect : String → Except String Client

namespace Host

def unreachableFault : HostFault := { cause := "the host cannot be reached" }

/-- A host that no call gets through to. -/
def unreachable : Host where
  connect _ := .ok {
    hashes := fun _ _ => .error unreachableFault
    update := fun _ _ _ _ _ => .error unreachableFault
    create := fun _ _ _ _ => .error unreachableFault }

end Host

namespace Publishing

def defaultTokenVariable : String := "GITHUB_TOKEN"

/-- A token that is unset or empty counts as none. -/
def usableToken (token : Option String) : Option String := token.filter (· != "")

def connect (host : Host) (token : Option String) : Except PublishFault Client :=
  match usableToken token with
  | none => .error (.authentication ("no token provided; set " ++ defaultTokenVariable))
  | some token => (host.connect token).mapError .authentication

def remote {α : Type} (call : Except HostFault α) : Except PublishFault α :=
  call.mapError fun fault => .remote fault.cause

/-- The hash of the file at a path, if there is one. -/
def existingHash? (c : Client) (repository : Repository) (path : String) :
    Except PublishFault (Option String) :=
  match c.hashes repository path with
  | .error fault => if fault.isMissing then .ok none else remote (.error fault)
  | .ok hashes => .ok hashes.head?

/-- Creates the file, or replaces the one that is there. -/
def commit (c : Client) (repository : Repository) (path content : String) :
    Except PublishFault PublishStatus := do
  match ← existingHash? c repository path with
  | some hash =>
      remote (c.update repository path PublishStatus.updated.commitMessage content hash)
      return .updated
  | none =>
      remote (c.create repository path PublishStatus.created.commitMessage content)
      return .created

/-- Publishes a file with a token. A dry run asks for no token and calls no host. -/
def publish (token : Option String) (dryRun : Bool) (repository : Repository) (path : String)
    (content : String := "") (host : Host := .unreachable) :
    Except PublishFault PublishOutcome := do
  if dryRun then return ⟨.dryRun, repository, path⟩
  let status ← commit (← connect host token) repository path content
  return ⟨status, repository, path⟩

end Publishing

end PipelineCompiler
