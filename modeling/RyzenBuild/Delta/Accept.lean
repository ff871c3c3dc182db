import RyzenBuild.Delta.Roundtrip

/-!
Which streams the decoder takes. `dl_unpack_rle` returns 0 for a stream that
ends inside an escape, and also for one that decodes to nothing.
-/
namespace RyzenBuild.Delta

open Memory Writer

/-- The decoder reads its stream below `len` only. -/
theorem unpackLoop_congr (src other : Nat → UInt8) (len cap i : Nat) (w : Cursor UInt8)
    (same : ∀ k, k < len → src k = other k) :
    unpackLoop src len cap i w = unpackLoop other len cap i w := by
  induction i, w using unpackLoop.induct src len cap with
  | case1 i w more b marker short =>
      have here : other i = 0xFF := by rw [← same i more]; exact marker
      rw [unpackLoop, unpackLoop.eq_def other, if_pos more, if_pos more, if_pos marker,
        if_pos here, if_pos short, if_pos short]
  | case2 i w more b marker room count val ih =>
      have here : other i = 0xFF := by rw [← same i more]; exact marker
      have first : count = other (i + 1) := same (i + 1) (by omega)
      have second : val = other (i + 2) := same (i + 2) (by omega)
      rw [unpackLoop, unpackLoop.eq_def other, if_pos more, if_pos more, if_pos marker,
        if_pos here, if_neg room, if_neg room]
      simp only
      rw [ih, first, second]
  | case3 i w more b plain ih =>
      have here : ¬ other i = 0xFF := by rw [← same i more]; exact plain
      rw [unpackLoop, unpackLoop.eq_def other, if_pos more, if_pos more, if_neg plain,
        if_neg here, ih, show b = other i from same i more]
  | case4 i w done => rw [unpackLoop, unpackLoop.eq_def other, if_neg done, if_neg done]

/-- A stream that ends inside an escape is answered with 0, whatever its
complete tokens expand to. -/
theorem unpackLoop_rejects (data : List UInt8) (cap i : Nat) (w : Cursor UInt8)
    (cut : parse (data.drop i) = none) :
    (unpackLoop (asU8Buf data) data.length cap i w).written = 0 := by
  induction i, w using unpackLoop.induct (asU8Buf data) data.length cap with
  | case1 i w more b marker short => rw [unpackLoop, if_pos more, if_pos marker, if_pos short]
  | case2 i w more b marker room count val ih =>
      rw [parse_at_escape data i (by omega) marker, Option.map_eq_none_iff] at cut
      rw [unpackLoop, if_pos more, if_pos marker, if_neg room]
      exact ih cut
  | case3 i w more b plain ih =>
      rw [parse_at_literal data i more plain, Option.map_eq_none_iff] at cut
      rw [unpackLoop, if_pos more, if_neg plain]
      exact ih cut
  | case4 i w done =>
      rw [List.drop_eq_nil_of_le (Nat.le_of_not_lt done), parse] at cut
      cases cut

theorem unpack_emits (src : Nat → UInt8) (len : Nat) (tokens : List Token)
    (parsed : parse (slice src 0 len) = some tokens) (out : Option (Nat → UInt8)) (cap : Nat) :
    dlUnpackRle src len out cap =
      ((emit cap ⟨0, out⟩ ((expand tokens).map ([·]))).written,
        (emit cap ⟨0, out⟩ ((expand tokens).map ([·]))).out) := by
  have emits := unpackLoop_emits (slice src 0 len) cap 0 ⟨0, out⟩ tokens
    (by rwa [List.drop_zero])
  rw [slice_length] at emits
  rw [dlUnpackRle, unpackLoop_congr src _ len cap 0 _ (asU8Buf_of_slice src len), emits]

theorem unpack_rejects (src : Nat → UInt8) (len : Nat) (cut : parse (slice src 0 len) = none)
    (out : Option (Nat → UInt8)) (cap : Nat) : (dlUnpackRle src len out cap).1 = 0 := by
  have rejected := unpackLoop_rejects (slice src 0 len) cap 0 ⟨0, out⟩ (by rwa [List.drop_zero])
  rw [slice_length] at rejected
  rw [dlUnpackRle, unpackLoop_congr src _ len cap 0 _ (asU8Buf_of_slice src len)]
  exact rejected

/-- `M.unpack` answers for `data` as its tokens ask: the error if the stream
ends inside an escape, the expansions put together otherwise. -/
def AnswersByTokens (data : List UInt8) : Prop :=
  mUnpack data = match parse data with
    | none => .error corruptPackedStream
    | some tokens => .ok (expand tokens)

/-- There is input, all of it complete escapes, and every one has count zero. -/
def OnlyZeroCounts (data : List UInt8) : Prop :=
  data ≠ [] ∧ ∃ tokens, parse data = some tokens ∧
    ∀ token ∈ tokens, ∃ value, token = .escape 0 value

theorem Token.expand_empty_iff (token : Token) :
    token.expand = [] ↔ ∃ value, token = .escape 0 value := by
  cases token with
  | literal value => simp [Token.expand]
  | escape count value =>
      simp only [Token.expand, List.replicate_eq_nil_iff, Token.escape.injEq, exists_eq_right']
      exact ⟨fun zero => UInt8.toNat_inj.mp zero, fun zero => by rw [zero]; rfl⟩

theorem expand_empty_iff (tokens : List Token) :
    expand tokens = [] ↔ ∀ token ∈ tokens, ∃ value, token = .escape 0 value := by
  simp only [expand, List.flatMap_eq_nil_iff, Token.expand_empty_iff]

theorem mUnpack_rejects (data : List UInt8) (cut : parse data = none) :
    mUnpack data = .error corruptPackedStream := by
  have nonempty : data.length > 0 := by
    cases data with
    | nil => rw [parse] at cut; cases cut
    | cons first rest => exact Nat.succ_pos _
  have zero := unpack_rejects (asU8Buf data) data.length (by rwa [asU8Buf_slice]) none 0
  simp only [mUnpack]
  rw [if_pos ⟨zero, nonempty⟩]

/-- Nothing decoded out of something is taken for the corrupt marker. -/
theorem mUnpack_nothing (data : List UInt8) (tokens : List Token)
    (parsed : parse data = some tokens) (nothing : expand tokens = []) (nonempty : data ≠ []) :
    mUnpack data = .error corruptPackedStream := by
  have zero := (unpack_delivers data tokens parsed).size
  rw [nothing] at zero
  simp only [mUnpack]
  rw [if_pos ⟨zero, List.length_pos_iff.mpr nonempty⟩]

/-- The decoder keeps to its grammar on every byte string except those that
consist of escapes with count zero, which it reports as corrupt. -/
theorem unpack_answers_iff (data : List UInt8) :
    AnswersByTokens data ↔ ¬ OnlyZeroCounts data := by
  unfold AnswersByTokens OnlyZeroCounts
  cases parsed : parse data with
  | none => simp [mUnpack_rejects data parsed]
  | some tokens =>
      simp only [Option.some.injEq, exists_eq_left', ← expand_empty_iff]
      by_cases zero : data ≠ [] ∧ expand tokens = []
      · simp [mUnpack_nothing data tokens parsed zero.2 zero.1, zero]
      · have produces : expand tokens = [] → data = [] := by
          intro nothing
          by_contra nonempty
          exact zero ⟨nonempty, nothing⟩
        simp [mUnpack_eq data tokens parsed produces, zero]

/-- The single escape `FF 00 41` is complete and decodes to nothing. -/
theorem zero_count_reported_corrupt : ¬ AnswersByTokens [0xFF, 0, 0x41] := by
  have parsed : parse [0xFF, 0, 0x41] = some [.escape 0 0x41] := by
    rw [parse_escape, parse]
    rfl
  unfold AnswersByTokens
  rw [mUnpack_nothing _ _ parsed rfl (by simp), parsed]
  intro answered
  cases answered

end RyzenBuild.Delta
