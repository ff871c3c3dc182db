import RyzenBuild.Lib.Reindex
import RyzenBuild.Delta.Roundtrip

/-!
The transforms of `deltaffi.c` and the deltas `delta_link_ffi.lua` takes of
them: reversing, reversing pair by pair, and the bytewise exclusive or.
-/
namespace RyzenBuild.Delta

open Memory Reindex

def dlReverseCanonical (src : Option (Nat → UInt8)) (len : Nat) (dst : Option (Nat → UInt8)) :
    Option (Nat → UInt8) :=
  match src, dst with
  | some src, some dst => some (fill dst len fun i => src (len - 1 - i))
  | _, dst => dst

/-- One turn of the loop of `dl_inter_reversed`. -/
def copyPair (src : Nat → UInt8) (pairCount : Nat) (dst : Nat → UInt8) (i : Nat) : Nat → UInt8 :=
  let srcPair := (pairCount - 1 - i) * 2
  let dstPair := i * 2
  let dst := Function.update dst dstPair (src srcPair)
  Function.update dst (dstPair + 1) (src (srcPair + 1))

def dlInterReversed (src : Option (Nat → UInt8)) (len : Nat) (dst : Option (Nat → UInt8)) :
    Option (Nat → UInt8) :=
  match src, dst with
  | some src, some dst =>
      let pairCount := len / 2
      let dst := (List.range pairCount).foldl (copyPair src pairCount) dst
      some (if len % 2 = 1 then Function.update dst (len - 1) (src (len - 1)) else dst)
  | _, dst => dst

/-- A null operand counts as zeros. -/
def dlXorDelta (a : Option (Nat → UInt8)) (aLen : Nat) (b : Option (Nat → UInt8)) (bLen : Nat)
    (out : Option (Nat → UInt8)) : Option (Nat → UInt8) :=
  match out with
  | none => none
  | some out =>
      let n := if aLen > bLen then aLen else bLen
      some (fill out n fun i =>
        let av := match a with
          | some a => if i < aLen then a i else 0
          | none => 0
        let bv := match b with
          | some b => if i < bLen then b i else 0
          | none => 0
        av ^^^ bv)

def mCanonical (data : List UInt8) : List UInt8 := data

def mReverseCanonical (data : List UInt8) : List UInt8 :=
  let out := dlReverseCanonical (some (asU8Buf data)) data.length (some ffiNew)
  fromU8Buf (out.getD ffiNew) data.length

def mInterReversed (data : List UInt8) : List UInt8 :=
  let out := dlInterReversed (some (asU8Buf data)) data.length (some ffiNew)
  fromU8Buf (out.getD ffiNew) data.length

def mXorDelta (a b : List UInt8) : List UInt8 :=
  let outn := max a.length b.length
  let out := dlXorDelta (some (asU8Buf a)) a.length (some (asU8Buf b)) b.length (some ffiNew)
  fromU8Buf (out.getD ffiNew) outn

/-- A transform of the source and its delta to the source, as `manifest_from_data`
computes them. -/
structure Link where
  target : List UInt8
  delta : List UInt8

def manifestLinks (data : List UInt8) : List Link :=
  let canonical := mCanonical data
  let reverse := mReverseCanonical data
  let inter := mInterReversed data
  [⟨canonical, mXorDelta data canonical⟩, ⟨reverse, mXorDelta data reverse⟩,
    ⟨inter, mXorDelta data inter⟩]

section Reversing

theorem mReverseCanonical_eq (data : List UInt8) :
    mReverseCanonical data =
      slice (fun i => asU8Buf data (data.length - 1 - i)) 0 data.length := by
  simp only [mReverseCanonical, dlReverseCanonical, Option.getD_some, fromU8Buf, slice_fill]

theorem reverse_mirrors (n : Nat) : Mirrors n fun i => n - 1 - i where
  inside := by intro i below; omega
  twice := by intro i below; omega

/-- The place a byte comes from: the pairs change places, a last odd byte stays. -/
def pairMirror (len i : Nat) : Nat :=
  if i < len / 2 * 2 then (len / 2 - 1 - i / 2) * 2 + i % 2 else i

theorem pair_mirrors (n : Nat) : Mirrors n (pairMirror n) where
  inside := by
    intro i below
    unfold pairMirror
    split <;> omega
  twice := by
    intro i below
    unfold pairMirror
    split
    · next paired =>
        have stays : (n / 2 - 1 - i / 2) * 2 + i % 2 < n / 2 * 2 := by omega
        rw [if_pos stays]
        omega
    · rfl

/-- After `count` turns the first `count` pairs are in place. -/
theorem copyPair_loop (src dst : Nat → UInt8) (pairCount count i : Nat) (inside : count ≤ pairCount) :
    (List.range count).foldl (copyPair src pairCount) dst i =
      if i < count * 2 then src ((pairCount - 1 - i / 2) * 2 + i % 2) else dst i := by
  induction count with
  | zero => simp
  | succ count ih =>
      rw [List.range_succ, List.foldl_append]
      simp only [List.foldl_cons, List.foldl_nil, copyPair]
      by_cases second : i = count * 2 + 1
      · have half : i / 2 = count := by omega
        have odd : i % 2 = 1 := by omega
        rw [second, Function.update_self, if_pos (by omega), ← second, half, odd]
      · rw [Function.update_of_ne second]
        by_cases first : i = count * 2
        · have half : i / 2 = count := by omega
          have even : i % 2 = 0 := by omega
          rw [first, Function.update_self, if_pos (by omega), ← first, half, even, Nat.add_zero]
        · have below : i < (count + 1) * 2 ↔ i < count * 2 := by omega
          rw [Function.update_of_ne first, ih (by omega)]
          simp only [below]

theorem mInterReversed_eq (data : List UInt8) :
    mInterReversed data =
      slice (fun i => asU8Buf data (pairMirror data.length i)) 0 data.length := by
  simp only [mInterReversed, dlInterReversed, Option.getD_some, fromU8Buf]
  apply slice_shift
  intro k inside
  rw [Nat.zero_add, pairMirror]
  by_cases odd : data.length % 2 = 1
  · rw [if_pos odd]
    by_cases last : k = data.length - 1
    · have single : ¬k < data.length / 2 * 2 := by omega
      rw [if_neg single, last, Function.update_self]
    · have paired : k < data.length / 2 * 2 := by omega
      rw [Function.update_of_ne last, copyPair_loop _ _ _ _ _ (Nat.le_refl _), if_pos paired,
        if_pos paired]
  · have paired : k < data.length / 2 * 2 := by omega
    rw [if_neg odd, copyPair_loop _ _ _ _ _ (Nat.le_refl _), if_pos paired, if_pos paired]

end Reversing

section Laws

/-- What a transform that moves every byte by a mirror of the indices does. -/
theorem mirrored_laws (transform : List UInt8 → List UInt8) (mirror : Nat → Nat → Nat)
    (moves : ∀ data, transform data =
      slice (fun i => asU8Buf data (mirror data.length i)) 0 data.length)
    (mirrors : ∀ n, Mirrors n (mirror n)) (data : List UInt8) :
    (transform data).length = data.length ∧ transform (transform data) = data ∧
      (transform data).Perm data := by
  have length : (transform data).length = data.length := by rw [moves, slice_length]
  refine ⟨length, ?_, ?_⟩
  · rw [moves (transform data), length, moves data]
    calc slice (fun i => asU8Buf (slice (fun i => asU8Buf data (mirror data.length i)) 0 data.length)
            (mirror data.length i)) 0 data.length
        = slice (fun i => asU8Buf data (mirror data.length (mirror data.length i))) 0
            data.length := by
          apply slice_shift
          intro k inside
          rw [Nat.zero_add]
          exact (asU8Buf_of_slice _ _ _ ((mirrors data.length).inside k inside)).symm
      _ = slice (asU8Buf data) 0 data.length := slice_mirror_twice (mirrors data.length) _
      _ = data := asU8Buf_slice data
  · rw [moves data]
    have moved := slice_mirror_perm (mirrors data.length) (asU8Buf data)
    rwa [asU8Buf_slice] at moved

/-- A byte string with zeros behind it up to the length `n`. -/
def padded (data : List UInt8) (n : Nat) : List UInt8 :=
  data ++ List.replicate (n - data.length) 0

theorem asU8Buf_beyond (data : List UInt8) (i : Nat) (beyond : data.length ≤ i) :
    asU8Buf data i = 0 := by
  simp [asU8Buf, List.getD_eq_getElem?_getD, List.getElem?_eq_none beyond]

/-- The guard of the loop only spells out the zeros behind the operand. -/
theorem guarded_asU8Buf (data : List UInt8) (i : Nat) :
    (if i < data.length then asU8Buf data i else 0) = asU8Buf data i := by
  split
  · rfl
  · next beyond => exact (asU8Buf_beyond data i (Nat.le_of_not_lt beyond)).symm

theorem mXorDelta_eq (a b : List UInt8) :
    mXorDelta a b =
      slice (fun i => asU8Buf a i ^^^ asU8Buf b i) 0 (max a.length b.length) := by
  have longer : (if a.length > b.length then a.length else b.length) = max a.length b.length := by
    split <;> omega
  simp only [mXorDelta, dlXorDelta, Option.getD_some, fromU8Buf, longer, slice_fill,
    guarded_asU8Buf]

theorem slice_padded (data : List UInt8) (n : Nat) (longer : data.length ≤ n) :
    slice (asU8Buf data) 0 n = padded data n := by
  have parts : n = data.length + (n - data.length) := by omega
  have zeros : slice (asU8Buf data) data.length (n - data.length) =
      List.replicate (n - data.length) 0 := by
    rw [List.eq_replicate_iff]
    refine ⟨slice_length _ _ _, ?_⟩
    intro byte member
    obtain ⟨k, -, rfl⟩ := (mem_slice _ _ _ _).mp member
    exact asU8Buf_beyond data _ (Nat.le_add_right _ _)
  conv_lhs => rw [parts]
  rw [slice_add, asU8Buf_slice, Nat.zero_add, zeros]
  rfl

/-- The first operand cancels itself: what remains is the second one, padded. -/
theorem xor_delta_twice (a b : List UInt8) :
    mXorDelta a (mXorDelta a b) = padded b (max a.length b.length) := by
  have length : (mXorDelta a b).length = max a.length b.length := by
    rw [mXorDelta_eq, slice_length]
  have widest : max a.length (max a.length b.length) = max a.length b.length := by omega
  rw [mXorDelta_eq a (mXorDelta a b), length, widest, mXorDelta_eq a b,
    ← slice_padded b _ (Nat.le_max_right _ _)]
  apply slice_shift
  intro k inside
  rw [Nat.zero_add, ← asU8Buf_of_slice _ _ _ inside, ← UInt8.xor_assoc, UInt8.xor_self,
    UInt8.zero_xor]

theorem xor_delta_reaches (source target : List UInt8) (same : target.length = source.length) :
    mXorDelta source (mXorDelta source target) = target := by
  rw [xor_delta_twice, padded, same, Nat.max_self, Nat.sub_self]
  simp

theorem reverse_laws (data : List UInt8) :
    (mReverseCanonical data).length = data.length ∧
      mReverseCanonical (mReverseCanonical data) = data ∧ (mReverseCanonical data).Perm data :=
  mirrored_laws mReverseCanonical (fun n i => n - 1 - i) mReverseCanonical_eq reverse_mirrors data

theorem inter_laws (data : List UInt8) :
    (mInterReversed data).length = data.length ∧
      mInterReversed (mInterReversed data) = data ∧ (mInterReversed data).Perm data :=
  mirrored_laws mInterReversed pairMirror mInterReversed_eq pair_mirrors data

theorem manifest_links_reach (data : List UInt8) :
    ∀ link ∈ manifestLinks data, mXorDelta data link.delta = link.target := by
  intro link member
  simp only [manifestLinks, List.mem_cons, List.not_mem_nil, or_false] at member
  rcases member with rfl | rfl | rfl
  · exact xor_delta_reaches data _ rfl
  · exact xor_delta_reaches data _ (reverse_laws data).1
  · exact xor_delta_reaches data _ (inter_laws data).1

/-- Both transforms rearrange the bytes and undo themselves, and the deltas of a
manifest lead from the source to their targets. -/
theorem transforms_reversible :
    (∀ data : List UInt8,
      (mReverseCanonical data).length = data.length ∧
        mReverseCanonical (mReverseCanonical data) = data ∧
        (mReverseCanonical data).Perm data) ∧
    (∀ data : List UInt8,
      (mInterReversed data).length = data.length ∧
        mInterReversed (mInterReversed data) = data ∧ (mInterReversed data).Perm data) ∧
    (∀ a b : List UInt8, mXorDelta a (mXorDelta a b) = padded b (max a.length b.length)) ∧
    ∀ data : List UInt8,
      (manifestLinks data).map Link.target =
          [data, mReverseCanonical data, mInterReversed data] ∧
        ∀ link ∈ manifestLinks data, mXorDelta data link.delta = link.target :=
  ⟨reverse_laws, inter_laws, xor_delta_twice, fun data => ⟨rfl, manifest_links_reach data⟩⟩

end Laws

end RyzenBuild.Delta
