import XmppStream.Connection.Basic

/-! All stanzas that a connection still has to give. -/

namespace XmppStream.Connection

def remaining (c : Connection) : Nat × Nat := (Arrival.load c.wire.arrivals, c.inbox.length)

theorem remaining_of_recv {c c' : Connection} {s : Stanza} (h : c.recv = (.ready s, c')) :
    Prod.Lex (· < ·) (· < ·) c'.remaining c.remaining := by
  rw [recv] at h
  fun_induction await takeStanza? c with
  | case1 c a c₁ ht =>
    cases h
    rw [takeStanza?] at ht
    split at ht
    · cases ht
    · next inbox hi =>
      cases ht
      rw [remaining, remaining, hi]
      exact Prod.Lex.right _ (by simp)
  | case2 => cases h
  | case3 c _ _ c₁ hf ih =>
    have filled := load_fill_lt hf
    have later := ih h
    rw [Prod.lex_def] at later
    rw [Prod.lex_def]
    dsimp only [remaining] at later ⊢
    omega
  | case4 => cases h
  | case5 => cases h

theorem arrivals_write (w : Wire) (text : String) : (w.write text).2.arrivals = w.arrivals := by
  rw [Wire.write]
  split <;> rfl

@[simp]
theorem remaining_send (c : Connection) (s : Stanza) : (send s c).2.remaining = c.remaining := by
  rw [remaining, send, write, remaining]
  dsimp only
  rw [arrivals_write]

/-- The stanzas up to the peer's close, or up to a fault or the point where they are waited for. -/
def stanzas (c : Connection) : List Stanza × Awaited ConnectionFault Unit :=
  match _h : c.recv with
  | (.ready s, c) =>
    let rest := c.stanzas
    (s :: rest.1, rest.2)
  | (.failed .closed, _) => ([], .ready ())
  | (.failed why, _) => ([], .failed why)
  | (.waiting, _) => ([], .waiting)
termination_by c.remaining
decreasing_by exact remaining_of_recv _h

end XmppStream.Connection
