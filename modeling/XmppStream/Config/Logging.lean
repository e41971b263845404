import XmppStream.Config.Directive
import XmppStream.Config.Fault

/-! Where log lines go, and which of them. A filter is a list of directives. -/

namespace XmppStream

structure Logging where
  filter : Option String := none
  directory : Option String := none
  stderr : Bool := true
deriving DecidableEq, Repr

namespace Logging

def defaultFilter : String := "fluux_xmpp_engine=info,info"

/-- The filter in effect. One in the environment comes first, unless it is empty. -/
def directives (l : Logging) (environment : Option String) : String :=
  match environment.filter (· ≠ "") with
  | some filter => filter
  | none => l.filter.getD defaultFilter

def validFilter (filter : String) : Bool :=
  ((partsAt ',' filter.toList).filter (· ≠ [])).all Directive.valid

/-- Sets up the log. The directory must be one that `creates` succeeds for; a filter is read once
for each place that lines go to. There is one log for all, and `installed` tells that it is set up
already. -/
def setUp (l : Logging) (environment : Option String) (creates : String → Bool)
    (installed : Bool) : Except ConfigFault Unit :=
  if l.directory.any (!creates ·) then .error .logDirectory
  else if (l.directory.isSome || l.stderr) && !validFilter (l.directives environment) then
    .error .logFilter
  else if installed then .error .logSubscriber
  else .ok ()

end Logging
end XmppStream
