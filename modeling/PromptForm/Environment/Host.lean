import PromptForm.Environment.Context

/-!
# Facts about the host

The names of the host and of its user come from the first source that has one that is not blank.
-/

namespace PromptForm.HostFacts

/-- A name without surrounding blanks, unless nothing is left of it. -/
def name? (s : Option String) : Option String := (s.map Text.trimmed).filter (· ≠ "")

/-- The first name among some sources. -/
def nameOf (sources : List (Option String)) : String := ((sources.findSome? name?).getD "unknown")

/-- The facts that a machine's variables, its own name, a folder and the time make. -/
def ofVariables (lookup : String → Option String) (machine : Option String) (cwd : String)
    (now : Calendar.Instant) : HostFacts where
  hostname := nameOf [lookup "HOSTNAME", lookup "COMPUTERNAME", machine]
  username := nameOf [lookup "USER", lookup "USERNAME"]
  cwd
  now

end PromptForm.HostFacts
