import XmppStream.Config.Basic
import XmppStream.Json.Record

/-! Configurations as JSON text. -/

namespace XmppStream

open Json

def ManagementOptions.members : List (Member ManagementOptions) :=
  [.of "enabled" Value.bool? fun b o => { o with enabled := b },
    .of "resume" Value.bool? fun b o => { o with resume := b },
    .of "request_every" (Value.orNull? Value.word?) fun every o => { o with requestEvery := every }]

def ManagementOptions.ofJson? (v : Value) : Option ManagementOptions := Member.record? members {} v

def Logging.members : List (Member Logging) :=
  [.of "filter" (Value.orNull? Value.string?) fun filter l => { l with filter },
    .of "log_dir" (Value.orNull? Value.string?) fun directory l => { l with directory },
    .of "stderr" Value.bool? fun b l => { l with stderr := b }]

def Logging.ofJson? (v : Value) : Option Logging := Member.record? members {} v

def Framing.names : List (String × Framing) :=
  [("stream", .stream), ("standalone", .standalone), ("websocket", .webSocket)]

namespace Config

def members : List (Member Config) :=
  [.of "domain" Value.string? fun domain c => { c with domain },
    .of "allow_plain" Value.bool? fun b c => { c with allowPlain := b },
    .of "framing" (Value.oneOf? Framing.names) fun framing c => { c with framing },
    .of "max_stanza_size" (Value.natBelow? UInt64.size) fun size c => { c with maxStanzaSize := size },
    .of "stream_management" ManagementOptions.ofJson? fun management c => { c with management },
    .of "starttls_timeout_secs" (Value.natBelow? UInt64.size) fun seconds c =>
      { c with startTlsTimeout := seconds },
    .of "dangerous_insecure_tls" Value.bool? fun b c => { c with insecureTls := b },
    .of "logging" Logging.ofJson? fun logging c => { c with logging }]

def read (text : String) : Except ConfigFault Config :=
  match (Value.read? text).bind (Member.record? members {}) with
  | none => .error .malformed
  | some c =>
    match c.fault? with
    | some why => .error why
    | none => .ok c

end Config
end XmppStream
