import PipelineCompiler.CommandLine.Run

namespace PipelineCompiler.CommandLine

inductive Entry where
  | directory
  /-- A file with its text; none if its bytes are no text. -/
  | file (text : Option String)
  deriving DecidableEq, Repr, Inhabited

/-- Names from the root on. -/
abbrev Location := List String

/-- A tree of directories and files with a working directory in it, as far as it is known. -/
structure Disk where
  /-- The working directory. -/
  home : Location := ["tmp", "work"]
  entries : List (Location × Entry) := []
  deriving Repr, Inhabited

namespace Disk

/-- Whether a location is the working directory or lies on the way up from it. -/
def leadsHome (d : Disk) (loc : Location) : Bool := loc.isPrefixOf d.home

def at? (d : Disk) (loc : Location) : Option Entry :=
  if d.leadsHome loc then some .directory else d.entries.lookup loc

def set (d : Disk) (loc : Location) (e : Entry) : Disk :=
  { d with entries := d.entries.filter (·.1 != loc) ++ [(loc, e)] }

theorem lookup_filter_ne (loc : Location) (es : List (Location × Entry)) :
    (es.filter (·.1 != loc)).lookup loc = none := by
  induction es with
  | nil => rfl
  | cons e es ih =>
    by_cases h : e.1 = loc
    · simpa [List.filter_cons, h] using ih
    · rw [List.filter_cons_of_pos (by simpa using h), List.lookup_cons, ih]
      simp [show (loc == e.1) = false from beq_eq_false_iff_ne.mpr (Ne.symm h)]

theorem lookup_filter_of_ne {loc other : Location} (ne : other ≠ loc)
    (es : List (Location × Entry)) : (es.filter (·.1 != loc)).lookup other = es.lookup other := by
  induction es with
  | nil => rfl
  | cons e es ih =>
    by_cases h : e.1 = loc
    · have apart : (other == e.1) = false := beq_eq_false_iff_ne.mpr (h ▸ ne)
      rw [List.filter_cons_of_neg (by simpa using h), List.lookup_cons, apart, ih]
    · rw [List.filter_cons_of_pos (by simpa using h), List.lookup_cons, List.lookup_cons, ih]

theorem at?_set (d : Disk) (loc : Location) (e : Entry) (h : d.leadsHome loc = false) :
    (d.set loc e).at? loc = some e := by
  unfold at? leadsHome set
  rw [leadsHome] at h
  rw [if_neg (by simp [h]), List.lookup_append, lookup_filter_ne]
  simp

theorem at?_set_of_ne (d : Disk) {loc other : Location} (e : Entry) (ne : other ≠ loc) :
    (d.set loc e).at? other = d.at? other := by
  have apart : (other == loc) = false := beq_eq_false_iff_ne.mpr ne
  unfold at? leadsHome set
  simp [List.lookup_append, lookup_filter_of_ne ne, List.lookup_cons, apart]

/-- Where a name leads. Nothing lies above the root. -/
def move (loc : Location) (name : String) : Location :=
  if name = ".." then loc.dropLast else loc ++ [name]

/-- Where names lead. Only directories lead on. -/
def follow (d : Disk) : Location → List String → Except FileFault Location
  | loc, [] => .ok loc
  | loc, name :: rest =>
      match d.at? loc with
      | none => .error .notFound
      | some (.file _) => .error .notDirectory
      | some .directory => follow d (move loc name) rest

/-- Where a path starts. -/
def start (d : Disk) (path : String) : Location :=
  if path.toList.head? = some '/' then [] else d.home

/-- Where a path leads. The empty path leads nowhere. -/
def locate (d : Disk) (path : String) : Except FileFault Location :=
  if path = "" then .error .notFound else d.follow (d.start path) (Path.names path)

/-- How the end of a path asks for a directory. -/
def endsInSlash (path : String) : Bool := path.toList.getLast? == some '/'

def asksDirectory (path : String) : Bool :=
  endsInSlash path || (['/', '.'] : List Char).isSuffixOf path.toList

def read (d : Disk) (path : String) : Except FileFault String := do
  match d.at? (← d.locate path) with
  | none => .error .notFound
  | some .directory => .error .isDirectory
  | some (.file text) =>
      if asksDirectory path then .error .notDirectory
      else
        match text with
        | some s => .ok s
        | none => .error .notText

def isFile (d : Disk) (path : String) : Bool :=
  match d.read path with
  | .ok _ | .error .notText => true
  | .error _ => false

def files (d : Disk) : Files := ⟨d.isFile, d.read⟩

/-- Makes the directories that are missing on the way. -/
def create (d : Disk) : Location → List String → Except FileFault Disk
  | _, [] => .ok d
  | loc, name :: rest =>
      let next := move loc name
      match d.at? next with
      | some .directory => create d next rest
      | some (.file _) => .error (if rest.isEmpty then .alreadyExists else .notDirectory)
      | none => create (d.set next .directory) next rest

def createDirectories (d : Disk) (path : String) : Except FileFault Disk :=
  d.create (d.start path) (Path.names path)

/-- Writes a file in a directory that is there. -/
def write (d : Disk) (path text : String) : Except FileFault Disk := do
  let loc ← d.locate path
  match d.at? loc with
  | some .directory => .error .isDirectory
  | some (.file _) =>
      if asksDirectory path then .error .notDirectory else .ok (d.set loc (.file (some text)))
  | none =>
      if endsInSlash path then .error .isDirectory
      else if asksDirectory path then .error .notFound
      else .ok (d.set loc (.file (some text)))

/-- Carries out a write, with the directories that it needs. -/
def save (d : Disk) (w : FileWrite) : Except Failure Disk := do
  let d ←
    match (Path.parent? w.path).filter (· != "") with
    | none => Except.ok d
    | some parent => (d.createDirectories parent).mapError (.creation parent)
  (d.write w.path w.text).mapError (.writing w.path)

/-- Adds an entry in the working directory, with the directories around it. -/
def put (d : Disk) (path : String) (e : Entry) : Disk :=
  let names := Path.names path
  match d.create d.home names.dropLast with
  | .ok d => d.set (d.home ++ names) e
  | .error _ => d

/-- The files inside the working directory that are new or changed since `old`. -/
def changes (old new : Disk) : List (String × String) :=
  new.entries.filterMap fun (loc, e) =>
    match e with
    | .file (some text) =>
        if !new.home.isPrefixOf loc || old.entries.contains (loc, e) then none
        else some ("/".intercalate (loc.drop new.home.length), text)
    | _ => none

end Disk

/-- A whole run: its answer, and what it leaves on the disk. -/
def run (disk : Disk) (env : Variables) (mode : Mode) (i : Invocation) (services : Services := {}) :
    Except Failure String × Disk :=
  match reply disk.files env mode i services with
  | .error f => (.error f, disk)
  | .ok r =>
      match r.write? with
      | none => (.ok r.stdout, disk)
      | some w =>
          match disk.save w with
          | .ok disk => (.ok r.stdout, disk)
          | .error f => (.error f, disk)

/-- What is printed of an answer. A failure is not told on the standard output. -/
def printed : Except Failure String → String
  | .ok stdout => stdout
  | .error _ => ""

end PipelineCompiler.CommandLine
