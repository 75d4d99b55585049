/-!
# How strictly a page is judged

A page that yields too little text is judged again, each time less strictly.
-/

namespace MainContent.Article

/-- Which rules are applied to a page. -/
structure Rigor where
  /-- Parts that are hardly an article are taken out before the rest is judged. -/
  dropsUnlikely : Bool
  /-- Classes and identifiers count. -/
  weighsLabels : Bool
  /-- Parts of the article that look out of place are taken out. -/
  prunes : Bool
  deriving DecidableEq, Repr, Inhabited

/-- The ways in which a page is judged one after the other. -/
def Rigor.inTurn : List Rigor :=
  [⟨true, true, true⟩, ⟨false, true, true⟩, ⟨false, false, true⟩, ⟨false, false, false⟩]

end MainContent.Article
