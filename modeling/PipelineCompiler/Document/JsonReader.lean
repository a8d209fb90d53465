import PipelineCompiler.Document.NodeRecord
import PipelineCompiler.Json.Outline

namespace PipelineCompiler.Document.JsonReader

open Json (Outline Value)

/-- Containers that are kept nest at most this deep. -/
def depthLimit : Nat := 127

def enter (depth : Nat) : Except Fault Unit :=
  if depth < depthLimit then .ok () else .error .malformed

def leave {α : Type} (closed : Bool) (a : α) : Except Fault α :=
  if closed then .ok a else .error .malformed

/-- What a value is, for the message that another was expected. -/
def found : Outline → Except Fault Found
  | .null => .ok .null
  | .bool b => .ok (.bool b)
  | .numeral n =>
      match n.value? with
      | some (.int i) => .ok (.integer i)
      | some x => .ok (.real x.text)
      | none => .error .malformed
  | .text (some s) => .ok (.text s)
  | .text none => .error .malformed
  | .array _ _ => .ok .sequence
  | .object _ _ | .keyless _ => .ok .map
  | .broken => .error .malformed

def mismatch {α : Type} (expected : Shape) (o : Outline) : Except Fault α := do
  .error (.invalidType (← found o) expected)

def readText : Outline → Except Fault String
  | .text (some s) => .ok s
  | o => mismatch .text o

mutual

/-- A value that is kept as it is. -/
def readValue (depth : Nat) : Outline → Except Fault Value
  | .null => .ok .null
  | .bool b => .ok (.bool b)
  | .numeral n =>
      match n.value? with
      | some x => .ok (.number x)
      | none => .error .malformed
  | .text (some s) => .ok (.text s)
  | .text none => .error .malformed
  | .array items closed => do
      enter depth
      leave closed (.array (← readItems (depth + 1) items))
  | .object members closed => do
      enter depth
      leave closed (.object (Json.sortMembers (← readMembers (depth + 1) members)))
  | .keyless _ => .error .malformed
  | .broken => .error .malformed

def readItems (depth : Nat) : List Outline → Except Fault (List Value)
  | [] => .ok []
  | o :: rest => do return (← readValue depth o) :: (← readItems depth rest)

def readMembers (depth : Nat) : List (Json.Text × Outline) → Except Fault (List (String × Value))
  | [] => .ok []
  | (none, _) :: _ => .error .malformed
  | (some k, o) :: rest => do return (k, ← readValue depth o) :: (← readMembers depth rest)

end

def readConfiguration (depth : Nat) : Outline → Except Fault (List (String × Value))
  | .object members closed => do
      enter depth
      leave closed (Json.sortMembers (← readMembers (depth + 1) members))
  | .keyless _ => .error .malformed
  | o => mismatch .map o

/-- A role is a string, or an object with the role as its only key and null as its value. -/
def readRole (depth : Nat) : Outline → Except Fault Role
  | .text (some s) => roleOfName s
  | .keyless first => do
      enter depth
      mismatch .variant first
  | .object ((some k, o) :: rest) closed => do
      enter depth
      let role ← roleOfName k
      match o with
      | .null => leave (closed && rest.isEmpty) role
      | o => mismatch .unit o
  | _ => .error .malformed

/-- Reads the members of a record one after the other. Those that no record
knows are passed over. -/
def readFields {σ : Type} (step : σ → String → Outline → Except Fault σ) :
    σ → List (Json.Text × Outline) → Except Fault σ
  | s, [] => .ok s
  | _, (none, _) :: _ => .error .malformed
  | s, (some k, o) :: rest => do readFields step (← step s k o) rest

/-- Stores a field that may be given once. -/
def once {α : Type} (name : String) (old : Option α) (read : Except Fault α) :
    Except Fault (Option α) :=
  match old with
  | some _ => .error (.duplicateField name)
  | none => read.map some

def edgeField (f : EdgeFields) (key : String) (o : Outline) : Except Fault EdgeFields :=
  match key with
  | "source" => do return { f with source := ← once key f.source (readText o) }
  | "target" => do return { f with target := ← once key f.target (readText o) }
  | _ => .ok f

/-- A record written as an array breaks off before its `count + 1`st field. -/
def tooShort {α : Type} (record : String) (fields count : Nat) (closed : Bool) : Except Fault α :=
  if closed then .error (.tooShort count record fields) else .error .malformed

def readEdge (depth : Nat) : Outline → Except Fault Edge
  | .object members closed => do
      enter depth
      let f ← readFields edgeField {} members
      (← leave closed f).toEdge
  | .array items closed => do
      enter depth
      match items with
      | [] => tooShort edgeName 2 0 closed
      | [source] => do
          let _ ← readText source
          tooShort edgeName 2 1 closed
      | source :: target :: rest => do
          let source ← readText source
          let target ← readText target
          leave (closed && rest.isEmpty) ⟨source, target⟩
  | .keyless _ => .error .malformed
  | o => mismatch (.record edgeName) o

def nodeField (depth : Nat) (f : NodeFields) (key : String) (o : Outline) :
    Except Fault NodeFields :=
  match key with
  | "id" => do return { f with id := ← once key f.id (readText o) }
  | "role" => do return { f with role := ← once key f.role (readRole depth o) }
  | "blockType" => do return { f with blockType := ← once key f.blockType (readText o) }
  | "label" => do return { f with label := ← once key f.label (readText o) }
  | "configuration" => do
      return { f with configuration := ← once key f.configuration (readConfiguration depth o) }
  | _ => .ok f

def readNodeRecord (depth : Nat) : Outline → Except Fault NodeRecord
  | .object members closed => do
      enter depth
      let f ← readFields (nodeField (depth + 1)) {} members
      (← leave closed f).toRecord
  | .array items closed => do
      enter depth
      match items with
      | [] => tooShort nodeName 5 0 closed
      | id :: items => do
          let id ← readText id
          match items with
          | [] => tooShort nodeName 5 1 closed
          | role :: items => do
              let role ← readRole (depth + 1) role
              match items with
              | [] => tooShort nodeName 5 2 closed
              | blockType :: items => do
                  let blockType ← readText blockType
                  match items with
                  | [] => leave closed ⟨id, role, blockType, "", []⟩
                  | label :: items => do
                      let label ← readText label
                      match items with
                      | [] => leave closed ⟨id, role, blockType, label, []⟩
                      | configuration :: items => do
                          let configuration ← readConfiguration (depth + 1) configuration
                          leave (closed && items.isEmpty) ⟨id, role, blockType, label,
                            configuration⟩
  | .keyless _ => .error .malformed
  | o => mismatch (.record nodeName) o

def readNode (depth : Nat) (o : Outline) : Except Fault Node := do
  (← readNodeRecord depth o).toNode

def readList {α : Type} (read : Nat → Outline → Except Fault α) (depth : Nat) :
    Outline → Except Fault (List α)
  | .array items closed => do
      enter depth
      leave closed (← items.mapM (read (depth + 1)))
  | o => mismatch .sequence o

def graphField (depth : Nat) (f : GraphFields) (key : String) (o : Outline) :
    Except Fault GraphFields :=
  match key with
  | "nodes" => do return { f with nodes := ← once key f.nodes (readList readNode depth o) }
  | "edges" => do return { f with edges := ← once key f.edges (readList readEdge depth o) }
  | _ => .ok f

def readGraph (depth : Nat) : Outline → Except Fault Graph
  | .object members closed => do
      enter depth
      let f ← readFields (graphField (depth + 1)) {} members
      (leave closed f).map GraphFields.toGraph
  | .array items closed => do
      enter depth
      match items with
      | [] => leave closed {}
      | nodes :: items => do
          let nodes ← readList readNode (depth + 1) nodes
          match items with
          | [] => leave closed ⟨nodes, []⟩
          | edges :: items => do
              let edges ← readList readEdge (depth + 1) edges
              leave (closed && items.isEmpty) ⟨nodes, edges⟩
  | .keyless _ => .error .malformed
  | o => mismatch (.record graphName) o

/-- The whole text must be one value. -/
def whole {α : Type} (read : Outline → Except Fault α) (text : String) : Except Fault α := do
  let (o, trailing) := Outline.ofText text
  let a ← read o
  if trailing then .error .malformed else .ok a

/-- The graph of a text. The first fault in the order of the text is reported; a text that breaks
off is read as far as it goes. -/
def graphOfText (text : String) : Except Fault Graph := whole (readGraph 0) text

def nodeOfText (text : String) : Except Fault Node := whole (readNode 0) text

/-- Any value; none if the text is not JSON. -/
def valueOfText? (text : String) : Option Value := (whole (readValue 0) text).toOption

end PipelineCompiler.Document.JsonReader
