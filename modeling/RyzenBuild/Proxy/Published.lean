import RyzenBuild.Lib.Fnv
import RyzenBuild.Proxy.Envelope

/-!
The two copies of FNV-1a against the published function. They share its prime;
their offset basis lost the last decimal digit of the published one.
-/
namespace RyzenBuild.Proxy

open Memory

/-- FNV-1a for 64 bits, as published. -/
def publishedFnv1a64 (data : List UInt8) : BitVec 64 :=
  Fnv.hash 0x100000001b3 0xcbf29ce484222325 data

/-- The copies are FNV-1a, from the basis they have in common. -/
theorem dlFnv1a64_hash (data : Nat → UInt8) (len : Nat) :
    (Delta.dlFnv1a64 data len).toBitVec =
      Fnv.hash 0x100000001b3 1469598103934665603 (slice data 0 len) := by
  rw [Delta.dlFnv1a64_eq, Delta.fnv]
  exact (List.foldl_hom UInt64.toBitVec fun _ _ => rfl).symm

/-- The copies agree on every byte string and are off the published function on
every byte string. -/
theorem fnv_copies_unpublished (data : Nat → UInt8) (len : Nat) :
    fnv1a64 data len = Delta.dlFnv1a64 data len ∧
      (Delta.dlFnv1a64 data len).toBitVec ≠ publishedFnv1a64 (slice data 0 len) := by
  refine ⟨rfl, ?_⟩
  rw [dlFnv1a64_hash]
  exact Fnv.hash_basis_ne _ 0xce965057aff6957b _ _ (by decide) (by decide) _

/-- The hash of no bytes is the basis itself. -/
theorem empty_fnv_unpublished :
    Delta.dlFnv1a64 (fun _ => 0) 0 = 0x14650fb0739d0383 ∧
      publishedFnv1a64 [] = 0xcbf29ce484222325 ∧
      ¬(fnv1a64 (fun _ => 0) 0 = Delta.dlFnv1a64 (fun _ => 0) 0 ∧
        (Delta.dlFnv1a64 (fun _ => 0) 0).toBitVec = publishedFnv1a64 []) := by
  refine ⟨by decide, by decide, ?_⟩
  rintro ⟨-, published⟩
  exact absurd published (by decide)

end RyzenBuild.Proxy
