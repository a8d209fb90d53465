import PipelineCompiler.Github.Compile
import PipelineCompiler.Gitlab.Compile

namespace PipelineCompiler

inductive Format where
  | github
  | gitlab
  deriving DecidableEq, Repr, Inhabited

namespace Format

def all : List Format := [github, gitlab]

def name : Format → String
  | github => "github"
  | gitlab => "gitlab"

/-- Where the file of a format conventionally lies. -/
def path : Format → String
  | github => ".github/workflows/ci.yml"
  | gitlab => ".gitlab-ci.yml"

end Format

structure UnknownFormat where
  name : String
  available : List String
  deriving DecidableEq, Repr

def UnknownFormat.message (e : UnknownFormat) : String :=
  "Unknown format '" ++ e.name ++ "'. Available: " ++ ", ".intercalate e.available

/-- Formats are found by name without regard to ASCII case. -/
def Format.ofName (name : String) : Except UnknownFormat Format :=
  match all.find? fun f => f.name.toList == name.toList.map Char.toLower with
  | some f => .ok f
  | none => .error ⟨name, all.map Format.name⟩

structure Emitter where
  name : String
  path : String
  description : String
  emit : Graph → String

/-- What an emitter tells of itself. -/
structure EmitterInfo where
  format : String
  path : String
  description : String
  deriving DecidableEq, Repr

namespace Emitter

def info (e : Emitter) : EmitterInfo := ⟨e.name, e.path, e.description⟩

/-- What every format writes for a graph without nodes. -/
def emptyCanvas : String := "# Drag blocks onto the canvas to start building your pipeline"

def onNodes (f : Graph → String) (g : Graph) : String := if g.isEmpty then emptyCanvas else f g

def github (runner : String := Github.defaultRunner) : Emitter :=
  ⟨Format.github.name, Format.github.path, "GitHub Actions workflow emitter",
   onNodes fun g => (Github.compile runner g).render⟩

def gitlab (image : String := Gitlab.defaultImage) : Emitter :=
  ⟨Format.gitlab.name, Format.gitlab.path, "GitLab CI pipeline emitter",
   onNodes fun g => (Gitlab.compile image g).render⟩

/-- An emitter that gives no description of itself. -/
def ofFormat (f : Format) (emit : Graph → String) : Emitter :=
  ⟨f.name, f.path, "CI configuration emitter", emit⟩

end Emitter

/-- The text of a graph in a format. -/
def generate (g : Graph) (f : Format) : String :=
  match f with
  | .github => Emitter.github.emit g
  | .gitlab => Emitter.gitlab.emit g

/-- Emitters by name, names in order and each once. -/
structure Registry where
  emitters : List Emitter := []

namespace Registry

def insert (e : Emitter) : List Emitter → List Emitter
  | [] => [e]
  | x :: rest =>
      if e.name < x.name then e :: x :: rest
      else if e.name = x.name then e :: rest
      else x :: insert e rest

/-- The emitter replaces an earlier one of its name. -/
def register (r : Registry) (e : Emitter) : Registry := ⟨insert e r.emitters⟩

def get? (r : Registry) (name : String) : Option Emitter := r.emitters.find? (·.name == name)

def formats (r : Registry) : List String := r.emitters.map (·.name)

def info (r : Registry) : List EmitterInfo := r.emitters.map Emitter.info

def emit (r : Registry) (name : String) (g : Graph) : Except UnknownFormat String :=
  match r.get? name with
  | some e => .ok (e.emit g)
  | none => .error ⟨name, r.formats⟩

def ofList (es : List Emitter) : Registry := es.foldl register {}

/-- The registry of the emitters that come with the library. -/
def standard : Registry := ofList [.github, .gitlab]

end Registry

end PipelineCompiler
