import XmppStream.Text.Quoted

/-! Where an exchange takes the user name and the password from. -/

namespace XmppStream

/-- A source of credentials with a state of its own, such as a prompt or a key store. Either value
may be unavailable. -/
structure CredentialSource (σ : Type) where
  username : σ → Option String × σ
  password : σ → Option String × σ

namespace CredentialSource

variable {σ : Type}

/-- Both values. The password is not asked for without a user name. -/
def fetch (source : CredentialSource σ) (s : σ) : Option (String × String) × σ :=
  match source.username s with
  | (none, s) => (none, s)
  | (some username, s) =>
    match source.password s with
    | (none, s) => (none, s)
    | (some password, s) => (some (username, password), s)

end CredentialSource

structure Credentials where
  username : Option String := none
  password : Option String := none
deriving DecidableEq

def Credentials.source (c : Credentials) : CredentialSource Unit where
  username := fun s => (c.username, s)
  password := fun s => (c.password, s)

def Credentials.describe (c : Credentials) : String :=
  let value (v : Option String) : String := v.elim "None" fun v => "Some(" ++ Quoted.encode v ++ ")"
  "Credentials \x7b username: " ++ value c.username ++ ", password: "
    ++ value (c.password.map fun _ => "<redacted>") ++ " \x7d"

end XmppStream
