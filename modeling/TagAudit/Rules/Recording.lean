import TagAudit.Fault
import TagAudit.Rules.Finding

namespace TagAudit

/-- A check at work. It writes down what it finds as it goes along, and it may meet a value that it
cannot use: what it has written down by then stays. -/
abbrev Recording := ExceptT Fault (StateM Findings)

namespace Recording

variable {α : Type}

def ofExcept (r : Except Fault α) : Recording α := ExceptT.mk (pure r)

def add (f : Findings) : Recording Unit := modifyThe Findings (· ++ f)

def addIssue (i : Issue) : Recording Unit := add (.ofIssues [i])

def addSuggestion (s : Suggestion) : Recording Unit := add (.ofSuggestions [s])

/-- How a check ends that is run after others, and what has been found by then. -/
def after (p : Recording α) (found : Findings) : Except Fault α × Findings := (p.run.run found).run

end Recording

end TagAudit
