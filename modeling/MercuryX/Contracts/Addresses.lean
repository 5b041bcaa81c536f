import MercuryX.Contracts
import MercuryX.Foundation.Layouts

/-!
# What content addresses say

Where a digest has no collision among the payloads concerned, an identity that is derived from a
fingerprint gives the fingerprint away, and a fingerprint gives the body away, among the bodies of
one layout.
-/

namespace MercuryX

open Foundation

variable {digest : Digest} {kind : String}

theorem fingerprint_eq_of_addressOf {left right : String}
    (tells : digest.Tells (.obj [(kind, .str left)]) (.obj [(kind, .str right)]))
    (same : addressOf digest kind left = addressOf digest kind right) : left = right := by
  let layout : Json.Layout := .record [(kind, .scalar)]
  have fits (fingerprint : String) : Json.Fits layout (.obj [(kind, .str fingerprint)]) :=
    ⟨rfl, trivial, trivial⟩
  have distinct : Json.Distinct layout := ⟨List.nodup_singleton _, trivial, trivial⟩
  have members := tells.eq_of_fits distinct (fits left) (fits right) same
  simpa using members

variable (digest kind) in
/-- What the fingerprint and the identity of an artifact with a body are digests of. -/
def addressed (body : Json) : List Json := [body, .obj [(kind, .str (digest.hexdigest body))]]

theorem Addressed.body_eq {layout : Json.Layout} (distinct : Json.Distinct layout)
    {left right : Json} (leftFits : Json.Fits layout left) (rightFits : Json.Fits layout right)
    {identity other fingerprint otherFingerprint : String}
    (first : Addressed digest kind left identity fingerprint)
    (second : Addressed digest kind right other otherFingerprint)
    (free : digest.CollisionFreeOn (addressed digest kind left ++ addressed digest kind right))
    (same : identity = other) : left = right := by
  have addresses : addressOf digest kind (digest.hexdigest left) =
      addressOf digest kind (digest.hexdigest right) := first.2.symm.trans (same.trans second.2)
  have fingerprints : digest.hexdigest left = digest.hexdigest right :=
    fingerprint_eq_of_addressOf (free _ (by simp [addressed]) _ (by simp [addressed])) addresses
  have tells : digest.Tells left right := free _ (by simp [addressed]) _ (by simp [addressed])
  exact tells.eq_of_fits distinct leftFits rightFits fingerprints

end MercuryX
