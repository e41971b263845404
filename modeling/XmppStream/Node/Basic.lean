import XmppStream.Text.Basic

/-! The XML namespaces on the wire, and the element tree of one protocol message. Namespaces are
resolved; a qualified attribute name is kept as written, and the node records the declarations that
such names rely on. -/

namespace XmppStream
namespace Namespace

/-- The stream wrapper, stream features and stream errors. -/
def stream : String := "http://etherx.jabber.org/streams"

def client : String := "jabber:client"

/-- The opening and closing elements of a WebSocket stream. -/
def framing : String := "urn:ietf:params:xml:ns:xmpp-framing"

def tls : String := "urn:ietf:params:xml:ns:xmpp-tls"

def sasl : String := "urn:ietf:params:xml:ns:xmpp-sasl"

def management : String := "urn:xmpp:sm:3"

def stanzas : String := "urn:ietf:params:xml:ns:xmpp-stanzas"

def xml : String := "http://www.w3.org/XML/1998/namespace"

end Namespace

structure Node where
  name : String
  ns : String := ""
  prefixes : Table := []
  attrs : Table := []
  lang : Option String := none
  text : Option String := none
  children : List Node := []
deriving Repr, Inhabited

namespace Node

mutual
def decEq : (a b : Node) → Decidable (a = b)
  | ⟨name, ns, prefixes, attrs, lang, text, children⟩,
    ⟨name', ns', prefixes', attrs', lang', text', children'⟩ =>
    if h : name = name' ∧ ns = ns' ∧ prefixes = prefixes' ∧ attrs = attrs' ∧ lang = lang'
        ∧ text = text' then
      match decEqAll children children' with
      | isTrue hc => isTrue (by obtain ⟨rfl, rfl, rfl, rfl, rfl, rfl⟩ := h; rw [hc])
      | isFalse hc => isFalse (by intro e; cases e; exact hc rfl)
    else isFalse (by intro e; cases e; exact h ⟨rfl, rfl, rfl, rfl, rfl, rfl⟩)

def decEqAll : (a b : List Node) → Decidable (a = b)
  | [], [] => isTrue rfl
  | [], _ :: _ => isFalse nofun
  | _ :: _, [] => isFalse nofun
  | a :: as, b :: bs =>
    match decEq a b, decEqAll as bs with
    | isTrue h, isTrue h' => isTrue (by rw [h, h'])
    | isFalse h, _ => isFalse (by intro e; cases e; exact h rfl)
    | _, isFalse h => isFalse (by intro e; cases e; exact h rfl)
end

instance : DecidableEq Node := decEq

def is (n : Node) (name ns : String) : Bool := n.name = name && n.ns = ns

def attr (n : Node) (key : String) : Option String := n.attrs.get? key

def setAttr (n : Node) (key value : String) : Node := { n with attrs := n.attrs.put key value }

def removeAttr (n : Node) (key : String) : Node := { n with attrs := n.attrs.remove key }

def takeAttr (n : Node) (key : String) : Option String × Node := (n.attr key, n.removeAttr key)

def declare (n : Node) (label ns : String) : Node := { n with prefixes := n.prefixes.put label ns }

def addChild (n : Node) (child : Node) : Node := { n with children := n.children ++ [child] }

def child? (n : Node) (name : String) : Option Node := n.children.find? (·.name = name)

def childIn? (n : Node) (name ns : String) : Option Node := n.children.find? (·.is name ns)

def appendText (n : Node) (more : String) : Node := { n with text := some (n.text.getD "" ++ more) }

end Node

/-- Text that a character other than an ASCII blank makes worth keeping. -/
def substance (text : Option String) : Option String :=
  text.filter fun s => !s.toList.all isAsciiBlank

def Node.collapse (n : Node) : Node := { n with text := substance n.text }

end XmppStream
