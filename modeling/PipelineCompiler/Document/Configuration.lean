import PipelineCompiler.Fault
import PipelineCompiler.Graph

namespace PipelineCompiler.Configuration

open Json (Value)

/-- The text of a scalar: whatever the user typed counts as text, a number too; null and the empty
string count as absent. -/
def scalarText? : Value → Except Fault (Option String)
  | .null => .ok none
  | .text s => .ok (if s = "" then none else some s)
  | .number n => .ok (some n.text)
  | .bool true => .ok (some "true")
  | .bool false => .ok (some "false")
  | v => .error (.notScalar v)

def isScalar : Value → Bool
  | .array _ | .object _ => false
  | _ => true

def find? (key : String) (fields : List (String × Value)) : Option Value :=
  (fields.find? (·.1 == key)).map (·.2)

/-- Refuses the first field among `keys` that is no scalar. -/
def checkScalars (keys : List String) (fields : List (String × Value)) : Except Fault Unit :=
  match fields.find? fun (k, v) => keys.contains k && !isScalar v with
  | some (_, v) => .error (.notScalar v)
  | none => .ok ()

/-- The text of a field that has passed the check. -/
def text? (key : String) (fields : List (String × Value)) : Option String :=
  match find? key fields with
  | some v => (scalarText? v).toOption.join
  | none => none

/-- Only a literal boolean is a flag. -/
def flag? (key : String) (fields : List (String × Value)) : Option Bool :=
  match find? key fields with
  | some (.bool b) => some b
  | _ => none

def foundValue : Value → Found
  | .null => .null
  | .bool b => .bool b
  | .number (.int n) => .integer n
  | .number n => .real n.text
  | .text s => .text s
  | .array _ => .sequence
  | .object _ => .map

/-- The fields of a record, written as an object or as the list of its fields in order, and what is
wrong with their number. -/
def fieldsOf (record : String) (names : List String) :
    Value → Except Fault (List (String × Value) × Option Fault)
  | .object members => .ok (members, none)
  | .array items =>
      .ok (names.zip items,
        if items.length > names.length then some (.tooLong items.length) else none)
  | v => .error (.invalidType (foundValue v) (.record record))

/-- Reads a record whose text fields are `texts`. -/
def readRecord {α : Type} (record : String) (names texts : List String)
    (make : List (String × Value) → α) (v : Value) : Except Fault α := do
  let (fields, excess) ← fieldsOf record names v
  checkScalars texts fields
  match excess with
  | some fault => .error fault
  | none => .ok (make fields)

def triggerKeys : List String := ["trigger", "branch", "cron"]

def readTrigger (v : Value) : Except Fault TriggerSettings :=
  readRecord "TriggerConfig" triggerKeys triggerKeys
    (fun fields => ⟨text? "trigger" fields, text? "branch" fields, text? "cron" fields⟩) v

def readOptions (v : Value) : Except Fault JobOptions :=
  readRecord "JobOptions" ["checkout", "runsOn", "command"] ["runsOn", "command"]
    (fun fields => ⟨flag? "checkout" fields, text? "runsOn" fields, text? "command" fields⟩) v

/-- The name of the settings record that holds a version or an image. -/
def settingRecord : SettingKey → String
  | .nodeVersion => "NodeSettings"
  | .pythonVersion => "PythonSettings"
  | .goVersion => "GoSettings"
  | .imageName => "DockerSettings"

def readKind (blockType : String) (v : Value) : Except Fault JobKind :=
  match (JobKind.ofBlockType blockType none).settingKey? with
  | none => .ok (.ofBlockType blockType none)
  | some key =>
      readRecord (settingRecord key) [key.name] [key.name]
        (fun fields => .ofBlockType blockType (text? key.name fields)) v

/-- The settings that a block carries, in the order of their keys. -/
def ofBlock (b : Block) : List (String × Value) :=
  let put (key : String) (s : Option String) := s.toList.map fun s => (key, Value.text s)
  Json.sortMembers <|
    match b with
    | .trigger t =>
        put "trigger" t.settings.trigger ++ put "branch" t.settings.branch ++
        put "cron" t.settings.cron
    | .job j =>
        (match j.kind.settingKey? with
          | some key => put key.name j.kind.setting?
          | none => []) ++
        (j.options.checkout.toList.map fun b => ("checkout", Value.bool b)) ++
        put "runsOn" j.options.runsOn ++ put "command" j.options.command

end PipelineCompiler.Configuration
