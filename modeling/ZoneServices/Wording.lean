/-!
# Wording

Messages state their own causes in full.  A complaint about a standard syntax (a domain name,
the tokens of a payload, a data format) is only marked, because its wording is no part of what a
message promises.
-/

namespace ZoneServices.Wording

/-- Stands for the wording of a complaint that is not the program's own. -/
def syntaxComplaint : String := "<lib>"

end ZoneServices.Wording
