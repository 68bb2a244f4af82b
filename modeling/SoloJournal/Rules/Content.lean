import SoloJournal.Rules.Signature

/-!
# Content

Everything an author supplies for a game: the rulebook, the catalog and the
signature of both.
-/

namespace SoloJournal

structure Content where
  rules : Rulebook
  catalog : Catalog
  /-- The signature, worked out once. -/
  signature : String
  signature_eq : signature = Signature.ofContent rules catalog

namespace Content

def sign (rules : Rulebook) (catalog : Catalog) : Content :=
  { rules, catalog, signature := Signature.ofContent rules catalog, signature_eq := rfl }

end Content

end SoloJournal
