import PipelineCompiler.Json.Token

namespace PipelineCompiler.Json

/-- The tree of the values of a text, as far as the text is well formed. Nothing is decided yet
about numerals that are too large or surrogates without partner, for not every value is kept. A
container that the text leaves before its closing mark is open, and nothing follows it. -/
inductive Outline where
  | null
  | bool (b : Bool)
  | numeral (n : Numeral)
  | text (s : Text)
  | array (items : List Outline) (closed : Bool)
  | object (members : List (Text × Outline)) (closed : Bool)
  /-- An object with a value other than a string where its first key should be. -/
  | keyless (first : Outline)
  /-- A value that is missing or malformed from its first character on. -/
  | broken
  deriving Repr, Inhabited

namespace Outline

/-- A container that is being read, its latest part first. -/
inductive Frame where
  | array (items : List Outline)
  | object (members : List (Text × Outline)) (key : Text)

/-- What may come next. -/
inductive Expect where
  | value
  | valueOrClose
  | key
  | keyOrClose
  | colon
  | separator
  deriving DecidableEq

/-- A value put into the innermost container. -/
def Frame.put (v : Outline) : Frame → Frame
  | .array items => .array (v :: items)
  | .object members key => .object ((key, v) :: members) key

def Frame.close (closed : Bool) : Frame → Outline
  | .array items => .array items.reverse closed
  | .object members _ => .object members.reverse closed

/-- Leaves every container open. -/
def abandon (v : Outline) : List Frame → Outline
  | [] => v
  | f :: rest => abandon ((f.put v).close false) rest

/-- The outline when the text stops being well formed. A key that has been read keeps its place. -/
def stop : Expect → List Frame → Outline
  | _, [] => .broken
  | .value, .object members key :: rest =>
      abandon ((Frame.object members key).put .broken |>.close false) rest
  | .colon, .object members key :: rest =>
      abandon ((Frame.object members key).put .broken |>.close false) rest
  | _, f :: rest => abandon (f.close false) rest

/-- What stands in the place of a first key. -/
def notKey : Token → Outline
  | .null => .keyless .null
  | .bool b => .keyless (.bool b)
  | .numeral n => .keyless (.numeral n)
  | .openArray => .keyless (.array [] false)
  | .openObject => .keyless (.object [] false)
  | _ => .object [] false

/-- The outline of the tokens and whether any token follows the value. -/
def build : Expect → List Frame → List Token → Outline × Bool
  | e, frames, [] => (stop e frames, false)
  | e, frames, t :: rest =>
      match e, t, frames with
      | .value, .openArray, fs | .valueOrClose, .openArray, fs =>
          build .valueOrClose (.array [] :: fs) rest
      | .value, .openObject, fs | .valueOrClose, .openObject, fs =>
          build .keyOrClose (.object [] (some "") :: fs) rest
      | .value, .null, fs | .valueOrClose, .null, fs => place .null fs rest
      | .value, .bool b, fs | .valueOrClose, .bool b, fs => place (.bool b) fs rest
      | .value, .numeral n, fs | .valueOrClose, .numeral n, fs => place (.numeral n) fs rest
      | .value, .text s, fs | .valueOrClose, .text s, fs => place (.text s) fs rest
      | .valueOrClose, .closeArray, .array items :: fs => place (.array items.reverse true) fs rest
      | .keyOrClose, .closeObject, .object members _ :: fs =>
          place (.object members.reverse true) fs rest
      | .key, .text k, .object members _ :: fs | .keyOrClose, .text k, .object members _ :: fs =>
          build .colon (.object members k :: fs) rest
      | .colon, .colon, fs => build .value fs rest
      | .keyOrClose, t, .object [] _ :: fs => (abandon (notKey t) fs, false)
      | .separator, .comma, .array items :: fs => build .value (.array items :: fs) rest
      | .separator, .comma, .object members k :: fs => build .key (.object members k :: fs) rest
      | .separator, .closeArray, .array items :: fs => place (.array items.reverse true) fs rest
      | .separator, .closeObject, .object members _ :: fs =>
          place (.object members.reverse true) fs rest
      | e, _, fs => (stop e fs, false)
where
  /-- A value is complete. -/
  place (v : Outline) (frames : List Frame) (rest : List Token) : Outline × Bool :=
    match frames with
    | [] => (v, !rest.isEmpty)
    | f :: fs => build .separator (f.put v :: fs) rest

def ofText (text : String) : Outline × Bool := build .value [] (Token.scan text.toList)

end Outline

end PipelineCompiler.Json
