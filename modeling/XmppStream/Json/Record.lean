import XmppStream.Json.Value

/-! Reading JSON values into data. A record is given as an object, or as an array of the values of
its members in their order. -/

namespace XmppStream.Json

namespace Value

def bool? : Value → Option Bool
  | bool b => some b
  | _ => none

def string? : Value → Option String
  | string text => text
  | _ => none

def natBelow? (bound : Nat) : Value → Option Nat
  | number digits => (Numeral.read 10 bound digits).toOption
  | _ => none

def word? (v : Value) : Option UInt32 := (v.natBelow? UInt32.size).map UInt32.ofNat

def orNull? {α : Type} (read : Value → Option α) : Value → Option (Option α)
  | null => some none
  | v => (read v).map some

def oneOf? {α : Type} (names : List (String × α)) : Value → Option α
  | string (some name) => names.lookup name
  | object [(some name, null)] => names.lookup name
  | _ => none

end Value

structure Member (σ : Type) where
  name : String
  set? : Value → σ → Option σ

namespace Member

variable {σ α : Type}

def of (name : String) (read : Value → Option α) (put : α → σ → σ) : Member σ where
  name
  set? := fun v s => (read v).map (put · s)

def setEntries (members : List (Member σ)) (seen : List String) (s : σ) :
    List (Option String × Value) → Option σ
  | [] => some s
  | (none, _) :: _ => none
  | (some name, v) :: r =>
    match members.find? (·.name = name) with
    | none => setEntries members seen s r
    | some member =>
      if name ∈ seen then none
      else match member.set? v s with
        | none => none
        | some s => setEntries members (name :: seen) s r

def setItems (s : σ) : List (Member σ) → List Value → Option σ
  | _, [] => some s
  | [], _ :: _ => none
  | member :: members, v :: r =>
    match member.set? v s with
    | none => none
    | some s => setItems s members r

def record? (members : List (Member σ)) (s : σ) : Value → Option σ
  | .object entries => setEntries members [] s entries
  | .array items => setItems s members items
  | _ => none

end Member
end XmppStream.Json
