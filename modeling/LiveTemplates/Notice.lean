/-
# LiveTemplates.Notice -- what is reported on the way

Some things that go wrong do not stop the work.  They are reported in the order in
which they happen, together with each look at what a class declares.
-/
import LiveTemplates.Fault

namespace LiveTemplates

/-- A report. -/
inductive Notice where
  /-- A class was asked for its declarations. -/
  | consulted (id : String)
  /-- A class is declared and not used. -/
  | unused (e : ConfigurationError)
  /-- A binding of a component is broken. -/
  | broken (component binding : String) (e : ExpressionError)
  /-- A broken binding was passed over. -/
  | skipped (binding : String) (e : ExpressionError)
  /-- A binding could not be shown for the first time. -/
  | unshown (binding : String) (e : ExpressionError)
  /-- A refresh failed in a tick. -/
  | stale (tick : Nat) (e : ExpressionError)
  /-- The action of an output failed. -/
  | unhandled (event : String) (e : ExpressionError)
  /-- Several elements could hold an application. -/
  | severalHosts (tag : String) (count : Nat)
deriving Repr, DecidableEq

end LiveTemplates
