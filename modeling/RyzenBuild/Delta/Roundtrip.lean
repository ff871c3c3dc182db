import RyzenBuild.Delta.Rle

/-!
Both loops of the codec emit the tokens of their input: the packer the tokens
of the run decomposition of the source, the unpacker the expansions of the
tokens its stream parses to. The round trip is the two put together.
-/
namespace RyzenBuild.Delta

open Memory Writer

def runTokens (value : UInt8) (run : Nat) : List Token :=
  if run ≥ 4 ∨ value = 0xFF then [.escape (UInt8.ofNat run) value]
  else List.replicate run (.literal value)

/-- The tokens of the source from index `i` on, one run after another. -/
def packTokens (src : Nat → UInt8) (len i : Nat) : List Token :=
  if i < len then
    runTokens (src i) (extendRun src len i 1) ++ packTokens src len (i + extendRun src len i 1)
  else []
termination_by len - i
decreasing_by
  have positive : 1 ≤ extendRun src len i 1 := le_extendRun src len i 1
  omega

section Run

variable (src : Nat → UInt8) (len i : Nat)

theorem extendRun_le (run : Nat) (small : run ≤ 255) : extendRun src len i run ≤ 255 := by
  induction run using extendRun.induct src len i with
  | case1 run more ih =>
      rw [extendRun, if_pos more]
      exact ih more.2.1
  | case2 run done =>
      rw [extendRun, if_neg done]
      exact small

theorem extendRun_inside (run : Nat) (inside : i + run ≤ len) :
    i + extendRun src len i run ≤ len := by
  induction run using extendRun.induct src len i with
  | case1 run more ih =>
      rw [extendRun, if_pos more]
      exact ih more.1
  | case2 run done =>
      rw [extendRun, if_neg done]
      exact inside

/-- The scanned run repeats its first byte. -/
theorem extendRun_same (run : Nat) (same : slice src i run = List.replicate run (src i)) :
    slice src i (extendRun src len i run) =
      List.replicate (extendRun src len i run) (src i) := by
  induction run using extendRun.induct src len i with
  | case1 run more ih =>
      rw [extendRun, if_pos more]
      apply ih
      rw [slice_add, same, List.replicate_add]
      simp [slice, more.2.2]
  | case2 run done =>
      rw [extendRun, if_neg done]
      exact same

end Run

theorem expand_append (first second : List Token) :
    expand (first ++ second) = expand first ++ expand second :=
  List.flatMap_append

theorem expand_literals (value : UInt8) (run : Nat) :
    expand (List.replicate run (.literal value)) = List.replicate run value := by
  induction run with
  | zero => rfl
  | succ run ih =>
      rw [List.replicate_succ, List.replicate_succ, ← ih]
      rfl

theorem expand_runTokens (value : UInt8) (run : Nat) (small : run ≤ 255) :
    expand (runTokens value run) = List.replicate run value := by
  unfold runTokens
  split
  · simp [expand, Token.expand, Nat.mod_eq_of_lt (Nat.lt_succ_of_le small)]
  · exact expand_literals value run

theorem runTokens_proper (value : UInt8) (run : Nat) :
    ∀ token ∈ runTokens value run, token.Proper := by
  intro token member
  unfold runTokens at member
  split at member
  · rw [List.mem_singleton.mp member]
    trivial
  · rename_i plain
    rw [List.eq_of_mem_replicate member]
    exact fun marker => plain (Or.inr marker)

/-- The packed tokens expand to the source: the induction follows the outer
loop, one run at a time. -/
theorem expand_packTokens (src : Nat → UInt8) (len i : Nat) (inside : i ≤ len) :
    expand (packTokens src len i) = slice src i (len - i) := by
  induction i using packTokens.induct src len with
  | case1 i more ih =>
      have small := extendRun_le src len i 1 (by decide)
      have within := extendRun_inside src len i 1 more
      have same := extendRun_same src len i 1 (by simp [slice])
      -- The window from `i` on is the run followed by the window behind it.
      have parts : len - i = extendRun src len i 1 + (len - (i + extendRun src len i 1)) := by
        omega
      rw [packTokens, if_pos more, expand_append, expand_runTokens _ _ small, ← same, ih within]
      conv_rhs => rw [parts, slice_add]
  | case2 i done =>
      have finished : len - i = 0 := by omega
      rw [packTokens, if_neg done, finished, slice_zero]
      rfl

theorem packTokens_proper (src : Nat → UInt8) (len i : Nat) :
    ∀ token ∈ packTokens src len i, token.Proper := by
  induction i using packTokens.induct src len with
  | case1 i more ih =>
      intro token member
      rw [packTokens, if_pos more, List.mem_append] at member
      rcases member with here | later
      · exact runTokens_proper _ _ token here
      · exact ih token later
  | case2 i done =>
      intro token member
      rw [packTokens, if_neg done] at member
      cases member

theorem foldl_put (cap : Nat) (cells : Nat → UInt8) (count : Nat) (w : Cursor UInt8) :
    (List.range count).foldl (fun w j => put cap w [cells j]) w =
      emit cap w ((slice cells 0 count).map ([·])) := by
  simp [emit, slice, List.foldl_map]

theorem packLoop_emits (src : Nat → UInt8) (len cap i : Nat) (w : Cursor UInt8) :
    packLoop src len cap i w = emit cap w ((packTokens src len i).map Token.render) := by
  induction i, w using packLoop.induct src len cap with
  | case1 i w more b run packed ih =>
      rw [packLoop, if_pos more, if_pos packed, ih, packTokens.eq_def src len i, if_pos more,
        runTokens, if_pos packed]
      rfl
  | case2 i w more b run plain ih =>
      have same := extendRun_same src len i 1 (by simp [slice])
      have shifted : slice (fun j => src (i + j)) 0 run = slice src i run :=
        slice_shift _ _ _ _ _ fun k _ => by rw [Nat.zero_add]
      rw [packLoop, if_pos more, if_neg plain, ih, packTokens.eq_def src len i, if_pos more,
        runTokens, if_neg plain, List.map_append, emit_append,
        foldl_put cap (fun j => src (i + j)), shifted, same]
      simp only [List.map_replicate]
      rfl
  | case3 i w done =>
      rw [packLoop, if_neg done, packTokens, if_neg done]
      rfl

theorem asU8Buf_drop (data : List UInt8) (i : Nat) (inside : i < data.length) :
    data.drop i = asU8Buf data i :: data.drop (i + 1) := by
  rw [List.drop_eq_getElem_cons inside]
  simp [asU8Buf, inside]

theorem asU8Buf_slice (data : List UInt8) : slice (asU8Buf data) 0 data.length = data := by
  apply List.ext_getElem (by simp)
  intro k _ inside
  simp [slice, asU8Buf, inside]

theorem asU8Buf_of_slice (src : Nat → UInt8) (len k : Nat) (inside : k < len) :
    src k = asU8Buf (slice src 0 len) k := by
  rw [asU8Buf, List.getD_eq_getElem?_getD, slice_getElem? src 0 len k inside, Nat.zero_add]
  rfl

theorem parse_at_escape (data : List UInt8) (i : Nat) (room : i + 2 < data.length)
    (marker : asU8Buf data i = 0xFF) :
    parse (data.drop i) =
      (parse (data.drop (i + 3))).map
        (Token.escape (asU8Buf data (i + 1)) (asU8Buf data (i + 2)) :: ·) := by
  rw [asU8Buf_drop data i (by omega), marker, asU8Buf_drop data (i + 1) (by omega),
    asU8Buf_drop data (i + 1 + 1) (by omega), parse_escape]

theorem parse_at_literal (data : List UInt8) (i : Nat) (more : i < data.length)
    (plain : asU8Buf data i ≠ 0xFF) :
    parse (data.drop i) =
      (parse (data.drop (i + 1))).map (Token.literal (asU8Buf data i) :: ·) := by
  rw [asU8Buf_drop data i more, parse_literal _ _ plain]

/-- The decoder resynchronises at token boundaries: on a stream that parses
it emits the bytes of the expansions one by one. -/
theorem unpackLoop_emits (data : List UInt8) (cap i : Nat) (w : Cursor UInt8)
    (tokens : List Token) (parsed : parse (data.drop i) = some tokens) :
    unpackLoop (asU8Buf data) data.length cap i w =
      emit cap w ((expand tokens).map ([·])) := by
  induction i, w using unpackLoop.induct (asU8Buf data) data.length cap generalizing tokens with
  | case1 i w more b marker short =>
      -- An escape that runs past the end does not parse.
      rw [asU8Buf_drop data i more, show asU8Buf data i = 0xFF from marker] at parsed
      have few : (data.drop (i + 1)).length < 2 := by
        rw [List.length_drop]
        omega
      cases rest : data.drop (i + 1) with
      | nil => simp [rest, parse] at parsed
      | cons count rest' =>
          cases rest' with
          | nil => simp [rest, parse] at parsed
          | cons value rest'' => exact absurd few (by simp [rest])
  | case2 i w more b marker room count val ih =>
      rw [parse_at_escape data i (by omega) marker, Option.map_eq_some_iff] at parsed
      obtain ⟨later, rest, rfl⟩ := parsed
      have copies : slice (fun _ => val) 0 count.toNat = List.replicate count.toNat val := by
        simp [slice]
      rw [unpackLoop, if_pos more, if_pos marker, if_neg room]
      simp only
      rw [ih later rest, foldl_put cap fun _ => val, copies, ← emit_append, ← List.map_append]
      rfl
  | case3 i w more b plain ih =>
      rw [parse_at_literal data i more plain, Option.map_eq_some_iff] at parsed
      obtain ⟨later, rest, rfl⟩ := parsed
      rw [unpackLoop, if_pos more, if_neg plain, ih later rest]
      rfl
  | case4 i w done =>
      rw [List.drop_eq_nil_of_le (Nat.le_of_not_lt done)] at parsed
      obtain rfl : [] = tokens := by simpa [parse] using parsed
      rw [unpackLoop, if_neg done]
      rfl

def packed (data : List UInt8) : List Token := packTokens (asU8Buf data) data.length 0

theorem expand_packed (data : List UInt8) : expand (packed data) = data := by
  rw [packed, expand_packTokens _ _ _ (Nat.zero_le _), Nat.sub_zero, asU8Buf_slice]

theorem pack_delivers (data : List UInt8) :
    Delivers (dlPackRle (asU8Buf data) data.length) (render (packed data)) := by
  rw [render, List.flatMap_def]
  apply emit_delivers
  intro out cap
  rw [dlPackRle, packLoop_emits]
  rfl

theorem unpack_delivers (data : List UInt8) (tokens : List Token)
    (parsed : parse data = some tokens) :
    Delivers (dlUnpackRle (asU8Buf data) data.length) (expand tokens) := by
  rw [← flatten_cells (expand tokens)]
  apply emit_delivers
  intro out cap
  rw [dlUnpackRle, unpackLoop_emits data cap 0 _ tokens (by rwa [List.drop_zero])]

theorem mPack_eq (data : List UInt8) : mPack data = render (packed data) := by
  have delivers := pack_delivers data
  obtain ⟨wrote, content⟩ := delivers_read _ _ delivers ffiNew
  simp only [mPack, fromU8Buf, delivers.size, wrote, content]

/-- On a stream that parses, `M.unpack` only reports corruption if there are
bytes but none of them expands to anything. -/
theorem mUnpack_eq (data : List UInt8) (tokens : List Token) (parsed : parse data = some tokens)
    (produces : expand tokens = [] → data = []) : mUnpack data = .ok (expand tokens) := by
  have delivers := unpack_delivers data tokens parsed
  obtain ⟨wrote, content⟩ := delivers_read _ _ delivers ffiNew
  have sound : ¬ ((expand tokens).length = 0 ∧ data.length > 0) := by
    rintro ⟨empty, nonempty⟩
    simp [produces (List.eq_nil_of_length_eq_zero empty)] at nonempty
  simp only [mUnpack, fromU8Buf, delivers.size, wrote, content]
  rw [if_neg sound, if_neg sound]

/-- Packing and unpacking any byte string gives it back; on both sides the
sizing call agrees with the writing call and every announced byte is written. -/
theorem rle_round_trip (data : List UInt8) :
    Delivers (dlPackRle (asU8Buf data) data.length) (mPack data) ∧
      Delivers (dlUnpackRle (asU8Buf (mPack data)) (mPack data).length) data ∧
      mUnpack (mPack data) = .ok data := by
  have parsed : parse (mPack data) = some (packed data) := by
    rw [mPack_eq]
    exact parse_render _ (packTokens_proper _ _ _)
  refine ⟨?_, ?_, ?_⟩
  · rw [mPack_eq]
    exact pack_delivers data
  · have delivers := unpack_delivers _ _ parsed
    rwa [expand_packed] at delivers
  · rw [mUnpack_eq _ _ parsed ?_, expand_packed]
    intro empty
    rw [expand_packed] at empty
    subst empty
    rw [mPack_eq, packed, packTokens]
    rfl

end RyzenBuild.Delta
