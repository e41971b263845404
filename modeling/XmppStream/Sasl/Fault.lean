/-! Why an authentication exchange does not succeed. -/

namespace XmppStream

inductive ReplyFault where
  | noValue (key : String)
  | emptyKey
  | unterminated (key : String)
  | emptyValue (key : String)
  | notStarted
  | plainChallenged
  | emptyChallenge
  | notBase64
  | notText
  | noNonce
  | unsupportedQop (qop : String)
  | wrongProof
  | challengeAfterFinal
  | earlySuccess
  | unexpected (name ns : String)
  | other (detail : String)
deriving DecidableEq, Repr

def ReplyFault.message : ReplyFault → String
  | .noValue key => s!"challenge directive '{key}' has no value"
  | .emptyKey => "empty directive name in challenge"
  | .unterminated key => s!"unterminated quoted value for '{key}'"
  | .emptyValue key => s!"empty value for challenge directive '{key}'"
  | .notStarted => "frame received before the exchange started"
  | .plainChallenged => "peer challenged a plaintext exchange"
  | .emptyChallenge => "empty challenge"
  | .notBase64 => "challenge is not base64"
  | .notText => "challenge is not UTF-8"
  | .noNonce => "challenge without a nonce"
  | .unsupportedQop qop => s!"unsupported qop '{qop}'"
  | .wrongProof => "rspauth not matching"
  | .challengeAfterFinal => "challenge after the final response"
  | .earlySuccess => "success before completing the exchange"
  | .unexpected name ns => s!"unexpected <{name}/> in namespace '{ns}'"
  | .other detail => detail

inductive AuthFault where
  | notSupported
  | noSupportedMechanism
  | noCredentials
  | invalidReply (why : ReplyFault)
  | failure (reason : String)
  | cancelled
  | alreadyFinished
  | transport (detail : String)
deriving DecidableEq, Repr

namespace AuthFault

def message : AuthFault → String
  | notSupported => "server doesn't advertise any SASL mechanisms"
  | noSupportedMechanism => "no supported SASL mechanism found"
  | noCredentials => "no username or password provided"
  | invalidReply why => "server sent an invalid reply: " ++ why.message
  | failure reason => "authentication failed: " ++ reason
  | cancelled => "authentication cancelled"
  | alreadyFinished => "authentication exchange already finished"
  | transport detail => "transport error during authentication: " ++ detail

def credentialConditions : List String :=
  ["not-authorized", "credentials-expired", "account-disabled"]

def isCredentialProblem : AuthFault → Bool
  | noCredentials => true
  | failure reason => reason ∈ credentialConditions
  | _ => false

end AuthFault
end XmppStream
