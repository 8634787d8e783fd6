import RecordRules.Json.Token

/-!
# Reading JSON

A value is built from its tokens one at a time. `Build` is what has been read so far:
the containers that are open, innermost first, and what the next token may be. A text
is read when its last token closes the outermost value and no container is left open.
-/

namespace RecordRules.Json

/-- An open container with what it holds so far, latest first. -/
inductive Frame where
  | array (items : List Json)
  /-- Also the key whose value is being read; `none` for one that is no text. -/
  | object (members : List (Option String × Json)) (key : Option String)

inductive Build where
  /-- A value is due, and `]` too right after `[`. -/
  | value (closable : Bool) (frames : List Frame)
  /-- A key is due, and the closing brace too right after the opening one. -/
  | key (closable : Bool) (members : List (Option String × Json)) (frames : List Frame)
  | colon (members : List (Option String × Json)) (key : Option String) (frames : List Frame)
  /-- The value is complete and may belong to a container. -/
  | complete (value : Json) (frames : List Frame)

namespace Build

def finish (members : List (Option String × Json)) : Json :=
  match members.reverse.mapM fun member => member.1.map (·, member.2) with
  | some members => .object members
  | none => .unreadable

def step : Build → Token → Option Build
  | value _ frames, .scalar v => some (complete v frames)
  | value _ frames, .text (some s) => some (complete (.string s) frames)
  | value _ frames, .text none => some (complete .unreadable frames)
  | value _ frames, .openArray => some (value true (.array [] :: frames))
  | value _ frames, .openObject => some (key true [] frames)
  | value true (.array [] :: frames), .closeArray => some (complete (.array []) frames)
  | key _ members frames, .text k => some (colon members k frames)
  | key true members frames, .closeObject => some (complete (finish members) frames)
  | colon members k frames, .colon => some (value false (.object members k :: frames))
  | complete v (.array items :: frames), .comma => some (value false (.array (v :: items) :: frames))
  | complete v (.array items :: frames), .closeArray =>
    some (complete (.array (v :: items).reverse) frames)
  | complete v (.object members k :: frames), .comma => some (key false ((k, v) :: members) frames)
  | complete v (.object members k :: frames), .closeObject =>
    some (complete (finish ((k, v) :: members)) frames)
  | _, _ => none

def run : Build → List Token → Option Json
  | complete v [], [] => some v
  | _, [] => none
  | build, token :: rest => do run (← build.step token) rest

end Build

def read? (text : String) : Option Json := do
  Build.run (.value false []) (← Token.scan text.toList)

end RecordRules.Json
