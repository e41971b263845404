import XmppStream.Md5

/-! The proofs of the mechanism DIGEST-MD5: that of the client and that of the server. -/

namespace XmppStream

structure Digest where
  username : String
  realm : String
  password : String
  nonce : String
  clientNonce : String
  uri : String
deriving DecidableEq, Repr

namespace Digest

def nonceCount : String := "00000001"

def colon : Bytes := [0x3A]

def secret (d : Digest) : Bytes :=
  Md5.digest (Utf8.encode d.username ++ colon ++ Utf8.encode d.realm ++ colon
    ++ Utf8.encode d.password)

def sessionKey (d : Digest) : String :=
  Md5.hexDigest (d.secret ++ colon ++ Utf8.encode d.nonce ++ colon ++ Utf8.encode d.clientNonce)

def proof (d : Digest) (purpose : String) : String :=
  Md5.hexDigest (Utf8.encode (d.sessionKey ++ ":" ++ d.nonce ++ ":" ++ nonceCount ++ ":"
    ++ d.clientNonce ++ ":auth:" ++ Md5.hexDigest (Utf8.encode purpose)))

def clientProof (d : Digest) : String := d.proof ("AUTHENTICATE:" ++ d.uri)

def serverProof (d : Digest) : String := d.proof (":" ++ d.uri)

def quoteChars (cs : List Char) : List Char :=
  cs.flatMap fun c => if c = '"' ∨ c = '\\' then ['\\', c] else [c]

def quote (s : String) : String := "\"" ++ String.ofList (quoteChars s.toList) ++ "\""

def reply (d : Digest) (response : String) : String :=
  "username=" ++ quote d.username ++ ",realm=" ++ quote d.realm ++ ",digest-uri=" ++ quote d.uri
    ++ ",nonce=" ++ quote d.nonce ++ ",nc=" ++ nonceCount ++ ",cnonce=" ++ quote d.clientNonce
    ++ ",qop=auth,charset=utf-8,response=" ++ response

end Digest
end XmppStream
