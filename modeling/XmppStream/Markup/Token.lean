import XmppStream.Text.Basic
import XmppStream.Text.Utf8

/-! Tokens of XML markup, cut from the front of a byte sequence that may stop anywhere. What lies
between `<` and the `>` that closes it depends on what the token begins with; one small automaton
per kind of token (`Closing`) says which `>` that is. -/

namespace XmppStream.Markup

def isBlankByte (b : UInt8) : Bool := b = 0x20 || b = 0x09 || b = 0x0D || b = 0x0A

def isLt (b : UInt8) : Bool := b = 0x3C

def isGt (b : UInt8) : Bool := b = 0x3E

def isQuote (b : UInt8) : Bool := b = 0x22 || b = 0x27

inductive Token where
  | opening (content : Bytes)
  /-- An empty-element tag, without its final slash. -/
  | empty (content : Bytes)
  /-- An end tag: the name between `</` and `>`, blanks after it dropped. -/
  | closing (name : Bytes)
  | text (raw : Bytes)
  | cdata (raw : Bytes)
  | ignored
deriving DecidableEq, Repr

/-- A token and the number of bytes it takes in the input. -/
structure Lexeme where
  token : Token
  size : Nat
deriving DecidableEq, Repr

inductive Ending where
  | text (raw : Bytes)
  | cut
  | unknownDeclaration
  | unnamedDoctype
deriving DecidableEq, Repr

/-- One step of an automaton that reads a token; `none` when this byte closes the token. -/
abbrev Closing (σ : Type) := σ → UInt8 → Option σ

variable {σ : Type}

def splitClosing (next : Closing σ) (state : σ) (seen : Bytes) : Bytes → Option (Bytes × Bytes)
  | [] => none
  | b :: r =>
    match next state b with
    | none => some (seen.reverse, r)
    | some state => splitClosing next state (b :: seen) r

namespace Closing

def quoteAfter (quote : Option UInt8) (b : UInt8) : Option UInt8 :=
  match quote with
  | none => if isQuote b then some b else none
  | some q => if b = q then none else some q

def tag : Closing (Option UInt8) := fun quote b =>
  if quote = none ∧ isGt b then none else some (quoteAfter quote b)

def instruction : Closing UInt8 := fun last b =>
  if isGt b ∧ last = 0x3F then none else some b

/-- A comment is closed by `-->`, at the fifth byte after its `!` or later. The state holds the
number of bytes read from the `!` on and the number of dashes just read. -/
def comment : Closing (Nat × Nat) := fun (size, dashes) b =>
  if isGt b ∧ 2 ≤ dashes ∧ 5 ≤ size then none
  else some (size + 1, if b = 0x2D then dashes + 1 else 0)

def marked : Closing Nat := fun brackets b =>
  if isGt b ∧ 2 ≤ brackets then none else some (if b = 0x5D then brackets + 1 else 0)

/-- A document type declaration is closed by the `>` that balances its `<`; the state is the number
of inner ones still open. -/
def doctype : Closing Nat := fun inner b =>
  if isLt b then some (inner + 1)
  else if isGt b then (if inner = 0 then none else some (inner - 1))
  else some inner

end Closing

inductive Front where
  | lexeme (lexeme : Lexeme) (rest : Bytes)
  | ending (ending : Ending)
deriving DecidableEq, Repr

abbrev Naming := Bytes → Except Ending Token

namespace Naming

def tag : Naming := fun content =>
  .ok (if content.getLast? = some 0x2F then .empty content.dropLast else .opening content)

/-- The name without the blanks after it. Blanks alone are the name. -/
def endTag : Naming := fun content =>
  .ok (.closing (if content.all isBlankByte then content else dropEnd isBlankByte content))

/-- The question mark that opens an instruction is not the one that closes it: `<?>` never ends. -/
def instruction : Naming := fun content => if content = [] then .error .cut else .ok .ignored

def comment : Naming := fun content =>
  if [0x2D, 0x2D].isPrefixOf content then .ok .ignored else .error .cut

/-- `[CDATA[` -/
def cdataMark : Bytes := [0x5B, 0x43, 0x44, 0x41, 0x54, 0x41, 0x5B]

def marked : Naming := fun content =>
  if cdataMark.isPrefixOf content then .ok (.cdata (content.drop 7).dropLast.dropLast)
  else .error .cut

/-- `DOCTYPE` -/
def doctypeMark : Bytes := [0x44, 0x4F, 0x43, 0x54, 0x59, 0x50, 0x45]

def upperByte (b : UInt8) : UInt8 := if 0x61 ≤ b ∧ b ≤ 0x7A then b - 0x20 else b

def doctype : Naming := fun content =>
  if doctypeMark.isPrefixOf (content.map upperByte) then
    if (content.drop 7).all isBlankByte then .error .unnamedDoctype else .ok .ignored
  else .error .cut

end Naming

/-- The token that `next` closes and `token` names; `around` counts the bytes beside its content. -/
def frontClosed (next : Closing σ) (state : σ) (token : Naming) (around : Nat) (r : Bytes) :
    Front :=
  match splitClosing next state [] r with
  | none => .ending .cut
  | some (content, rest) =>
    match token content with
    | .error e => .ending e
    | .ok t => .lexeme ⟨t, content.length + around⟩ rest

def frontDeclaration : Bytes → Front
  | [] => .ending .unknownDeclaration
  | b :: r =>
    if b = 0x5B then frontClosed Closing.marked 0 Naming.marked 3 (b :: r)
    else if b = 0x2D then frontClosed Closing.comment (1, 0) Naming.comment 3 (b :: r)
    else if b = 0x44 ∨ b = 0x64 then frontClosed Closing.doctype 0 Naming.doctype 3 (b :: r)
    else .ending .unknownDeclaration

def frontMarkup : Bytes → Front
  | [] => .ending .cut
  | b :: r =>
    if b = 0x21 then frontDeclaration r
    else if b = 0x3F then frontClosed Closing.instruction 0x3F Naming.instruction 3 r
    else if b = 0x2F then frontClosed Closing.tag none Naming.endTag 3 r
    else frontClosed Closing.tag none Naming.tag 2 (b :: r)

def frontText (bs : Bytes) : Front :=
  match bs.dropWhile (!isLt ·) with
  | [] => .ending (.text (bs.takeWhile (!isLt ·)))
  | rest => .lexeme ⟨.text (bs.takeWhile (!isLt ·)), (bs.takeWhile (!isLt ·)).length⟩ rest

def front : Bytes → Front
  | [] => .ending (.text [])
  | b :: r => if isLt b then frontMarkup r else frontText (b :: r)

theorem splitClosing_length (next : Closing σ) :
    ∀ {bs : Bytes} {state : σ} {seen content rest : Bytes},
      splitClosing next state seen bs = some (content, rest) →
      content.length + rest.length + 1 = seen.length + bs.length
  | [], _, _, _, _, h => by simp [splitClosing] at h
  | b :: r, state, seen, content, rest, h => by
    rw [splitClosing] at h
    split at h
    · obtain ⟨rfl, rfl⟩ := Prod.mk.inj (Option.some.inj h)
      simp only [List.length_reverse, List.length_cons]
      omega
    · have := splitClosing_length next h
      simp only [List.length_cons] at this ⊢
      omega

theorem frontClosed_length {next : Closing σ} {state : σ} {token : Naming} {around : Nat}
    {r rest : Bytes} {x : Lexeme} (h : frontClosed next state token around r = .lexeme x rest) :
    around ≤ x.size ∧ x.size + rest.length + 1 = r.length + around := by
  rw [frontClosed] at h
  split at h
  · cases h
  · next e =>
    have := splitClosing_length next e
    split at h <;> cases h
    simp only [List.length_nil] at this ⊢
    omega

theorem frontDeclaration_length {r rest : Bytes} {x : Lexeme}
    (h : frontDeclaration r = .lexeme x rest) : 3 ≤ x.size ∧ x.size + rest.length = r.length + 2 := by
  cases r with
  | nil => cases h
  | cons b r =>
    rw [frontDeclaration] at h
    split at h
    · have := frontClosed_length h; omega
    · split at h
      · have := frontClosed_length h; omega
      · split at h
        · have := frontClosed_length h; omega
        · cases h

theorem frontMarkup_length {r rest : Bytes} {x : Lexeme}
    (h : frontMarkup r = .lexeme x rest) : 2 ≤ x.size ∧ x.size + rest.length = r.length + 1 := by
  cases r with
  | nil => cases h
  | cons b r =>
    rw [frontMarkup] at h
    simp only [List.length_cons]
    split at h
    · have := frontDeclaration_length h; omega
    · split at h
      · have := frontClosed_length h; omega
      · split at h
        · have := frontClosed_length h; omega
        · have := frontClosed_length h; simp only [List.length_cons] at this; omega

theorem frontText_length {bs rest : Bytes} {x : Lexeme}
    (h : frontText bs = .lexeme x rest) : x.size + rest.length = bs.length := by
  have total := congrArg List.length
    (List.takeWhile_append_dropWhile (p := (!isLt ·)) (l := bs))
  rw [List.length_append] at total
  rw [frontText] at h
  split at h <;> cases h
  exact total

theorem front_length {bs rest : Bytes} {x : Lexeme} (h : front bs = .lexeme x rest) :
    x.size + rest.length = bs.length := by
  cases bs with
  | nil => cases h
  | cons b r =>
    rw [front] at h
    split at h
    · simpa using (frontMarkup_length h).2
    · exact frontText_length h

theorem front_size_pos {bs rest : Bytes} {x : Lexeme} (h : front bs = .lexeme x rest) :
    0 < x.size := by
  cases bs with
  | nil => cases h
  | cons b r =>
    rw [front] at h
    split at h
    · have := (frontMarkup_length h).1; omega
    · next hb =>
      rw [frontText] at h
      split at h <;> cases h
      simp [hb]

def lexFrom (seen : List Lexeme) (bs : Bytes) : List Lexeme × Ending :=
  match _h : front bs with
  | .ending e => (seen.reverse, e)
  | .lexeme x rest => lexFrom (x :: seen) rest
termination_by bs.length
decreasing_by have := front_length _h; have := front_size_pos _h; omega

def lex (bs : Bytes) : List Lexeme × Ending := lexFrom [] bs

end XmppStream.Markup
