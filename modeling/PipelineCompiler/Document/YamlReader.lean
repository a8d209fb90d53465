import PipelineCompiler.Document.NodeRecord
import PipelineCompiler.Document.Place
import PipelineCompiler.Yaml.Resolve

namespace PipelineCompiler.Document.YamlReader

open Json (Value)
open Yaml (Scalar Resolved)

/-- What is behind the anchors, and how many aliases may be followed. -/
structure Anchors where
  nodes : List (Nat × Yaml.Node)
  limit : Nat

def Anchors.ofDocument (d : Yaml.Document) : Anchors := ⟨d.anchors, 100 * d.size⟩

/-- Readers count the aliases that they follow. -/
abbrev Reader := StateT Nat (Except PlacedFault)

def fail {α : Type} (place : Place) (fault : Fault) : Reader α := throw ⟨place, fault⟩

def malformed {α : Type} : Reader α := fail [] .malformed

/-- Containers that are kept nest at most this deep. -/
def depthLimit : Nat := 128

/-- Follows an alias. -/
def follow (anchors : Anchors) : Yaml.Node → Reader Yaml.Node
  | .alias id => do
      modify (· + 1)
      if anchors.limit < (← get) then malformed
      else
        match anchors.nodes.lookup id with
        | some n => pure n
        | none => malformed
  | n => pure n

def foundScalar (s : Scalar) : Option Found :=
  match Yaml.Resolve.scalar s with
  | .unit => some .unit
  | .bool b => some (.bool b)
  | .int n => some (if Decimal.InWord 64 n then .integer n else .wide (n < 0) n)
  | .double negative x => some (.real (Decimal.Layout.plain.text negative x))
  | .infinity negative => some (.real (if negative then "-inf" else "inf"))
  | .nan => some (.real "NaN")
  | .text s => some (.text s)
  | .refused => none

/-- What a node is, for the message that another was expected. -/
def found? : Yaml.Node → Option Found
  | .scalar _ s => foundScalar s
  | .sequence _ _ _ _ => some .sequence
  | .mapping _ _ _ _ => some .map
  | .alias _ | .broken => none

def mismatch {α : Type} (place : Place) (expected : Shape) (n : Yaml.Node) : Reader α :=
  match found? n with
  | some f => fail place (.invalidType f expected)
  | none => malformed

def leave {α : Type} (closed : Bool) (a : α) : Reader α := if closed then pure a else malformed

/-- A scalar that is not written counts as an empty container. -/
def isAbsent (s : Scalar) : Bool := s.text == "" && s.style == .plain

/-- A string is any scalar as it is written; only the values of a configuration are resolved. -/
def readText (anchors : Anchors) (expected : Shape) (place : Place) (n : Yaml.Node) :
    Reader String := do
  match ← follow anchors n with
  | .scalar _ s => pure s.text
  | n => mismatch place expected n

def readItems {α : Type} (read : Place → Yaml.Node → Reader α) (place : Place) :
    Nat → List Yaml.Node → Reader (List α)
  | _, [] => pure []
  | i, n :: rest => do
      let a ← read (.item i :: place) n
      return a :: (← readItems read place (i + 1) rest)

/-- The place of a value; its key is named if the key is a scalar right there. -/
def under (place : Place) : Yaml.Node → Place
  | .scalar _ s => .key s.text :: place
  | _ => .unnamed :: place

/-- The members of a mapping; `expected` is what its first key should be. -/
def readMembers (anchors : Anchors) (read : Place → Yaml.Node → Reader Value) (place : Place) :
    Shape → List (Yaml.Node × Yaml.Node) → Reader (List (String × Value))
  | _, [] => pure []
  | expected, (k, v) :: rest => do
      let key ← readText anchors expected place k
      let value ← read (under place k) v
      return (key, value) :: (← readMembers anchors read place .text rest)

/-- A tag of the document's own is the name of a variant. -/
def variant? (tag : Option String) : Option String :=
  tag.bind fun t =>
    match t.toList with
    | ['!'] => some "!"
    | '!' :: name => some (String.ofList name)
    | _ => none

/-- The value of an untagged scalar; numbers that are not finite count as none. -/
def readScalar (s : Scalar) : Reader Value :=
  match Yaml.Resolve.scalar s with
  | .unit | .infinity _ | .nan => pure .null
  | .bool b => pure (.bool b)
  | .int n => if Decimal.InWord 64 n then pure (.number (.int n)) else malformed
  | .double negative x => pure (.number (.double negative x))
  | .text s => pure (.text s)
  | .refused => malformed

def refuseVariant (place : Place) (tag : Option String) : Reader Unit :=
  if (variant? tag).isSome then fail place (.invalidType .variant .anyValue) else pure ()

/-- A value whose items and members are read by `inner`, or that must be a scalar. -/
def readOuter (anchors : Anchors) (inner : Option (Place → Yaml.Node → Reader Value))
    (place : Place) (n : Yaml.Node) : Reader Value := do
  match ← follow anchors n, inner with
  | .scalar _ s, _ => do
      refuseVariant place s.tag
      readScalar s
  | .sequence _ tag items closed, some read => do
      refuseVariant place tag
      leave closed (.array (← readItems read place 0 items))
  | .mapping _ tag entries closed, some read => do
      refuseVariant place tag
      let members ← readMembers anchors read place .textKey entries
      leave closed (.object (Json.sortMembers members))
  | .sequence _ tag _ _, none | .mapping _ tag _ _, none => do
      refuseVariant place tag
      malformed
  | .alias _, _ | .broken, _ => malformed

/-- A value of a configuration, with so many levels of containers. -/
def readValue (anchors : Anchors) : Nat → Place → Yaml.Node → Reader Value
  | 0 => readOuter anchors none
  | depth + 1 => readOuter anchors (some (readValue anchors depth))

/-- The configuration of a node stands in three containers. -/
def readConfiguration (anchors : Anchors) (place : Place) (n : Yaml.Node) :
    Reader (List (String × Value)) := do
  match ← follow anchors n with
  | .mapping _ _ entries closed => do
      let members ← readMembers anchors (readValue anchors (depthLimit - 4)) place .text entries
      leave closed (Json.sortMembers members)
  | .scalar a s => if isAbsent s then pure [] else mismatch place .map (.scalar a s)
  | n => mismatch place .map n

def lift {α : Type} (place : Place) : Except Fault α → Reader α
  | .ok a => pure a
  | .error fault => fail place fault

/-- What stands behind the tag of a role must be nothing. -/
def readNothing (place : Place) (s : Scalar) : Reader Unit :=
  if s.style = .plain ∧ (s.text = "" ∨ Yaml.Resolve.isNull s.text) then pure ()
  else mismatch place .unit (.scalar none s)

/-- A role is a scalar, or a tag with nothing behind it. -/
def readRole (anchors : Anchors) (place : Place) (n : Yaml.Node) : Reader Role := do
  match ← follow anchors n with
  | .scalar _ s =>
      match variant? s.tag with
      | some name => do
          let role ← lift place (roleOfName name)
          readNothing place s
          return role
      | none => lift place (roleOfName s.text)
  | n =>
      match n with
      | .sequence _ tag _ _ | .mapping _ tag _ _ =>
          match variant? tag with
          | some name => do
              let _ ← lift place (roleOfName name)
              mismatch place .unit n
          | none => mismatch place .tagged n
      | _ => malformed

mutual

/-- Whether a node is there to its end. -/
def isWhole : Yaml.Node → Bool
  | .alias _ | .scalar _ _ => true
  | .broken => false
  | .sequence _ _ items closed => closed && areWhole items
  | .mapping _ _ entries closed => closed && arePairsWhole entries

def areWhole : List Yaml.Node → Bool
  | [] => true
  | n :: rest => isWhole n && areWhole rest

def arePairsWhole : List (Yaml.Node × Yaml.Node) → Bool
  | [] => true
  | (k, v) :: rest => isWhole k && isWhole v && arePairsWhole rest

end

/-- Passes over a value; aliases in it are not followed. -/
def skip (n : Yaml.Node) : Reader Unit := if isWhole n then pure () else malformed

/-- Stores a field that may be given once. -/
def once {α : Type} (record : Place) (name : String) (old : Option α) (read : Reader α) :
    Reader (Option α) :=
  match old with
  | some _ => fail record (.duplicateField name)
  | none => some <$> read

/-- Reads the entries of a record one after the other. -/
def readFields {σ : Type} (anchors : Anchors) (place : Place)
    (step : σ → String → Place → Yaml.Node → Reader σ) : σ → List (Yaml.Node × Yaml.Node) → Reader σ
  | s, [] => pure s
  | s, (k, v) :: rest => do
      let key ← readText anchors .field place k
      let s ← step s key (under place k) v
      readFields anchors place step s rest

/-- A record is a mapping, or nothing at all. -/
def readRecord {σ α : Type} (anchors : Anchors) (name : String) (empty : σ)
    (step : Place → σ → String → Place → Yaml.Node → Reader σ) (finish : σ → Except Fault α)
    (place : Place) (n : Yaml.Node) : Reader α := do
  match ← follow anchors n with
  | .mapping _ _ entries closed => do
      let fields ← readFields anchors place (step place) empty entries
      lift place (finish (← leave closed fields))
  | .scalar a s =>
      if isAbsent s then lift place (finish empty) else mismatch place (.record name) (.scalar a s)
  | n => mismatch place (.record name) n

def edgeField (anchors : Anchors) (record : Place) (f : EdgeFields) (key : String) (place : Place)
    (n : Yaml.Node) : Reader EdgeFields :=
  match key with
  | "source" => do
      return { f with source := ← once record key f.source (readText anchors .text place n) }
  | "target" => do
      return { f with target := ← once record key f.target (readText anchors .text place n) }
  | _ => do
      skip n
      return f

def readEdge (anchors : Anchors) : Place → Yaml.Node → Reader Edge :=
  readRecord anchors edgeName {} (edgeField anchors) EdgeFields.toEdge

def nodeField (anchors : Anchors) (record : Place) (f : NodeFields) (key : String) (place : Place)
    (n : Yaml.Node) : Reader NodeFields :=
  match key with
  | "id" => do return { f with id := ← once record key f.id (readText anchors .text place n) }
  | "role" => do return { f with role := ← once record key f.role (readRole anchors place n) }
  | "blockType" => do
      return { f with blockType := ← once record key f.blockType (readText anchors .text place n) }
  | "label" =>
      do return { f with label := ← once record key f.label (readText anchors .text place n) }
  | "configuration" => do
      return { f with
        configuration := ← once record key f.configuration (readConfiguration anchors place n) }
  | _ => do
      skip n
      return f

/-- A node of a list. What is wrong with its configuration is told with the place of the list. -/
def readNode (anchors : Anchors) (place : Place) (n : Yaml.Node) : Reader Node := do
  let record ← readRecord anchors nodeName {} (nodeField anchors) NodeFields.toRecord place n
  lift (place.drop 1) record.toNode

def readList {α : Type} (anchors : Anchors) (read : Place → Yaml.Node → Reader α) (place : Place)
    (n : Yaml.Node) : Reader (List α) := do
  match ← follow anchors n with
  | .sequence _ _ items closed => do leave closed (← readItems read place 0 items)
  | .scalar a s => if isAbsent s then pure [] else mismatch place .sequence (.scalar a s)
  | n => mismatch place .sequence n

def graphField (anchors : Anchors) (record : Place) (f : GraphFields) (key : String) (place : Place)
    (n : Yaml.Node) : Reader GraphFields :=
  match key with
  | "nodes" => do
      return { f with
        nodes := ← once record key f.nodes (readList anchors (readNode anchors) place n) }
  | "edges" => do
      return { f with
        edges := ← once record key f.edges (readList anchors (readEdge anchors) place n) }
  | _ => do
      skip n
      return f

def readGraph (anchors : Anchors) : Place → Yaml.Node → Reader Graph :=
  readRecord anchors graphName {} (graphField anchors) fun f => .ok f.toGraph

/-- The graph of the only document of a text; an empty text holds the empty graph. The first fault
in the order of the text is reported with its place. -/
def graphOfText (text : String) : Except PlacedFault Graph := do
  let document := Yaml.Document.ofText text
  let graph ←
    match document.root with
    | some n => (readGraph (.ofDocument document) [] n).run' 0
    | none => pure {}
  if document.complete then .ok graph else .error ⟨[], .malformed⟩

end PipelineCompiler.Document.YamlReader
