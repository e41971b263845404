import XmppStream.Json.Token

/-! JSON values, built from tokens with the open arrays and objects on a stack, so that values may
nest to any depth. -/

namespace XmppStream.Json

inductive Value where
  | null
  | bool (value : Bool)
  | number (digits : List Char)
  | string (text : Option String)
  | array (items : List Value)
  | object (entries : List (Option String × Value))
deriving Repr

namespace Value

inductive Frame where
  | array (items : List Value)
  | object (entries : List (Option String × Value)) (key : Option String)

/-- Builds the rest of a value inside the open frames. `done` is a value just completed, or nothing
where one is to begin. -/
def build : List Frame → Option Value → List Token → Option Value
  | [], done, [] => done
  | frames, none, .null :: r => build frames (some .null) r
  | frames, none, .bool b :: r => build frames (some (.bool b)) r
  | frames, none, .number digits :: r => build frames (some (.number digits)) r
  | frames, none, .string text :: r => build frames (some (.string text)) r
  | frames, none, .openArray :: .closeArray :: r => build frames (some (.array [])) r
  | frames, none, .openArray :: r => build (.array [] :: frames) none r
  | frames, none, .openObject :: .closeObject :: r => build frames (some (.object [])) r
  | frames, none, .openObject :: .string key :: .colon :: r =>
    build (.object [] key :: frames) none r
  | .array items :: frames, some v, .comma :: r => build (.array (v :: items) :: frames) none r
  | .array items :: frames, some v, .closeArray :: r =>
    build frames (some (.array (v :: items).reverse)) r
  | .object entries key :: frames, some v, .comma :: .string next :: .colon :: r =>
    build (.object ((key, v) :: entries) next :: frames) none r
  | .object entries key :: frames, some v, .closeObject :: r =>
    build frames (some (.object ((key, v) :: entries).reverse)) r
  | _, _, _ => none

def read? (s : String) : Option Value := (tokens s).bind (build [] none)

end Value
end XmppStream.Json
