import Metering.Domain.Label
import Metering.Text.Parts

/-!
# Domain names

A domain name is a row of labels with dots between them. `Domain.toAscii?` gives the name by which a
server is asked for: in small letters, and in ASCII.
-/

namespace Metering.Domain

/-- The labels of a domain name. -/
def labels? (cs : List Char) : Option (List Label) := do
  let text ← mappedText? cs
  if text.any isDenied then none
  let labels ← (partsBetween '.' text).mapM Label.ofText?
  let shown := labels.map (·.shown)
  if shown.any hasRightToLeft ∧ !shown.all keepsOrder then none
  return labels

/-- A domain name in ASCII. -/
def toAscii? (cs : List Char) : Option (List Char) := do
  let labels ← labels? cs
  let name := ['.'].intercalate (labels.map (·.written))
  if name = [] then none
  return name

end Metering.Domain
