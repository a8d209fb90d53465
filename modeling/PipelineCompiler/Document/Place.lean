import PipelineCompiler.Fault

namespace PipelineCompiler.Document

inductive Segment where
  | key (name : String)
  | item (index : Nat)
  /-- The value of a key that is not spelled out where it stands. -/
  | unnamed
  deriving DecidableEq, Repr

/-- From the place outwards to the root. -/
abbrev Place := List Segment

namespace Place

def text : Place → String
  | [] => ""
  | .key name :: parent => (if parent.isEmpty then "" else text parent ++ ".") ++ name
  | .unnamed :: parent => (if parent.isEmpty then "" else text parent ++ ".") ++ "?"
  | .item i :: parent => text parent ++ "[" ++ toString i ++ "]"

end Place

/-- A fault with the place in a document where it was found. -/
structure PlacedFault where
  place : Place := []
  fault : Fault
  deriving Repr

/-- The place precedes the fault, except where a text is not well formed. -/
def PlacedFault.message (f : PlacedFault) : String :=
  match f.fault, f.place with
  | .malformed, _ | _, [] => f.fault.message
  | _, place => place.text ++ ": " ++ f.fault.message

end PipelineCompiler.Document
