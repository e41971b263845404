import XmppStream.Markup.Entity
import XmppStream.Node.Basic

/-! Written form of a node. An element declares its namespace where it differs from the one around
it; at the root, with nothing around it, wherever it has one. -/

namespace XmppStream

def writeAttr (key value : String) : String := " " ++ key ++ "='" ++ Markup.escape value ++ "'"

def writeAttrs (t : Table) : String := String.join (t.map fun (key, value) => writeAttr key value)

namespace Node

def declaresNs (around : Option String) (ns : String) : Bool :=
  match around with
  | none => ns ≠ ""
  | some outer => outer ≠ ns

def tag (around : Option String) (n : Node) : String :=
  "<" ++ n.name
    ++ (if declaresNs around n.ns then writeAttr "xmlns" n.ns else "")
    ++ writeAttrs (n.prefixes.map fun (label, ns) => ("xmlns:" ++ label, ns))
    ++ writeAttrs n.attrs
    ++ (match n.lang with
      | none => ""
      | some lang => writeAttr "xml:lang" lang)

mutual
def write (around : Option String) : Node → String
  | ⟨name, ns, prefixes, attrs, lang, text, children⟩ =>
    let tag := tag around { name, ns, prefixes, attrs, lang }
    match text, children with
    | none, [] => tag ++ "/>"
    | text, children =>
      tag ++ ">" ++ (match text with
        | none => ""
        | some text => Markup.escape text)
        ++ writeAll ns children ++ "</" ++ name ++ ">"

def writeAll (around : String) : List Node → String
  | [] => ""
  | n :: ns => write (some around) n ++ writeAll around ns
end

def toXml (n : Node) : String := n.write none

/-- The written form inside a stream whose default namespace is `ns`. -/
def toXmlIn (n : Node) (ns : String) : String := n.write (some ns)

end Node
end XmppStream
