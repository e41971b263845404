import XmppStream.Markup.Attribute
import XmppStream.Markup.Entity

/-! What can be wrong with the bytes of a stream: markup that is not well formed, elements that the
framing does not allow at their place, and a stanza that is too large. -/

namespace XmppStream

inductive MarkupFault where
  /-- A name, a key or a marked section that is not UTF-8. -/
  | encoding (why : Utf8.Fault)
  /-- Text or an attribute value that is not UTF-8. -/
  | content (why : Utf8.Fault)
  | entity (why : Markup.EntityFault)
  | attribute (why : Markup.AttributeFault)
  | unknownDeclaration
  | unnamedDoctype
  | undeclared (label element : String)
  | undeclaredAttribute (label key element : String)
  | unopened (name : String)
  | mismatched (name expected : String)
  | other (detail : String)
deriving DecidableEq, Repr

def MarkupFault.message : MarkupFault → String
  | .encoding why => why.message
  | .content why => "Malformed UTF-8 input: " ++ why.message
  | .entity why => why.message
  | .attribute why => why.message
  | .unknownDeclaration => "syntax error: unknown or missed symbol in markup"
  | .unnamedDoctype =>
    "ill-formed document: `<!DOCTYPE>` declaration does not contain a name of a document type"
  | .undeclared label element => s!"undeclared namespace prefix '{label}' on <{element}>"
  | .undeclaredAttribute label key element =>
    s!"undeclared namespace prefix '{label}' on attribute '{key}' of <{element}>"
  | .unopened name => s!"closing tag </{name}> without an open element"
  | .mismatched name expected => s!"closing tag </{name}> does not match <{expected}>"
  | .other detail => detail

inductive FramingFault where
  | afterClose (element : String)
  | insideFraming (element : String)
  | notStream (element ns : String)
  | unknownFraming (element : String)
  | outsideStanza (element : String)
  | textAfterClose
  | other (detail : String)
deriving DecidableEq, Repr

def FramingFault.message : FramingFault → String
  | .afterClose element => s!"element <{element}> after the stream was closed"
  | .insideFraming element => s!"element <{element}> inside a framing element"
  | .notStream element ns => s!"expected stream element, got <{element}> in namespace '{ns}'"
  | .unknownFraming element => s!"unknown framing element <{element}>"
  | .outsideStanza element => s!"closing tag </{element}> outside of a stanza"
  | .textAfterClose => "character data after the stream was closed"
  | .other detail => detail

inductive ReaderFault where
  | framing (why : FramingFault)
  | markup (why : MarkupFault)
  | overflow (size limit : Nat)
deriving DecidableEq, Repr

def ReaderFault.message : ReaderFault → String
  | .framing why => "stream framing error: " ++ why.message
  | .markup why => "XML parse error: " ++ why.message
  | .overflow size limit => s!"stanza buffer of {size} bytes exceeds the {limit} byte limit"

end XmppStream
