import Respecify.Annotation.Banner
import Respecify.Annotation.Warning
import Respecify.Import.Resolution
import Respecify.Order

/-!
# The outcome of each import

An import that an earlier run changed stays as it is, and one that already
carries a warning gets no second one.  All others are resolved.
-/

namespace Respecify

/-- An import declaration and what becomes of it. -/
structure Outcome where
  site : ImportSite
  resolution : Resolution

namespace Outcome

/-- The outcome of one import of the named script. -/
def ofSite (known : Known) (importer source : Text) (site : ImportSite) : Outcome :=
  if Banner.precedes source site then ⟨site, .unresolved .annotated⟩
  else
    let resolution := known.resolve site.specifier importer
    if resolution.isMissing && (Warning.span? source site).isSome then
      ⟨site, .unresolved .annotated⟩
    else
      ⟨site, resolution⟩

/-- The outcomes of the imports of the named script. -/
def ofSites (known : Known) (importer source : Text) (sites : List ImportSite) :
    List Outcome :=
  sites.map (ofSite known importer source)

/-- The order of outcomes: by where their specifiers start. -/
def atMost (one other : Outcome) : Bool :=
  one.site.specifierRange.start ≤ other.site.specifierRange.start

/-- The outcomes from the last import of the text to the first. -/
def lastFirst (outcomes : List Outcome) : List Outcome :=
  Order.sort (fun one other => other.atMost one) outcomes

/-- Every import keeps its site. -/
theorem site_ofSite (known : Known) (importer source : Text) (site : ImportSite) :
    (ofSite known importer source site).site = site := by
  unfold ofSite
  split
  · rfl
  · dsimp only
    split <;> rfl

end Outcome

end Respecify
