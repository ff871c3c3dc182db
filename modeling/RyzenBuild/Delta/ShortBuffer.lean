import RyzenBuild.Delta.Accept

/-!
Both routines of the codec with a buffer smaller than their output. They keep
counting, and what they leave in the buffer is a beginning of the output.
-/
namespace RyzenBuild.Delta

open Memory Writer

/-- `kept` is the longest beginning of `tokens` that renders to at most `cap` bytes. -/
structure LongestFitting (cap : Nat) (kept tokens : List Token) : Prop where
  beginning : kept <+: tokens
  fits : (render kept).length ≤ cap
  longest : ∀ other, other <+: tokens → (render other).length ≤ cap →
    other.length ≤ kept.length

theorem flatten_render (tokens : List Token) :
    (tokens.map Token.render).flatten = render tokens := (List.flatMap_def ..).symm

theorem render_length_mono {fewer more : List Token} (beginning : fewer <+: more) :
    (render fewer).length ≤ (render more).length := by
  obtain ⟨later, rfl⟩ := beginning
  simp [render]

/-- The tokens whose renderings the writer lets through. -/
theorem longest_fitting (cap : Nat) (tokens : List Token) :
    ∃ kept, (fitting cap 0 (tokens.map Token.render)).flatten = render kept ∧
      LongestFitting cap kept tokens := by
  obtain ⟨left, parts, beyond⟩ := fitting_longest cap 0 (tokens.map Token.render)
  have room := fitting_length_le cap 0 (tokens.map Token.render) (Nat.zero_le cap)
  obtain ⟨kept, later, rfl, front, back⟩ := List.map_eq_append_iff.mp parts
  rw [← front, flatten_render, Nat.zero_add] at room beyond
  refine ⟨kept, by rw [← front, flatten_render], ⟨later, rfl⟩, room, ?_⟩
  intro other beginning fits
  -- A longer one would contain the first token that was left out.
  cases later with
  | nil => simpa using beginning.length_le
  | cons next later =>
      by_contra longer
      have through : kept ++ [next] <+: other := by
        apply List.prefix_of_prefix_length_le _ beginning
        · rw [List.length_append, List.length_singleton]
          omega
        · exact ⟨later, by simp⟩
      have size := render_length_mono through
      have past := beyond next.render (later.map Token.render) (by rw [← back]; rfl)
      simp only [render, List.flatMap_append, List.length_append, List.flatMap_cons,
        List.flatMap_nil, List.append_nil] at size past fits
      omega

/-- With a buffer of any capacity both routines announce the size of the whole
output and write only a beginning of it: the packer whole tokens, as many as
fit, the unpacker as many bytes as fit. A stream that does not parse is
answered with 0. -/
theorem rle_short_buffer (src : Nat → UInt8) (len : Nat) :
    parse (render (packTokens src len 0)) = some (packTokens src len 0) ∧
    (∃ kept : Nat → List Token,
      FillsShort (dlPackRle src len) (render (packTokens src len 0))
        (fun cap => render (kept cap)) ∧
      ∀ cap, LongestFitting cap (kept cap) (packTokens src len 0)) ∧
    match parse (slice src 0 len) with
    | none => ∀ out cap, (dlUnpackRle src len out cap).1 = 0
    | some tokens =>
        FillsShort (dlUnpackRle src len) (expand tokens) fun cap => (expand tokens).take cap := by
  refine ⟨parse_render _ (packTokens_proper src len 0), ?_, ?_⟩
  · choose kept kept_eq longest using fun cap => longest_fitting cap (packTokens src len 0)
    refine ⟨kept, ?_, longest⟩
    have fills := emit_fills_short (dlPackRle src len)
      ((packTokens src len 0).map Token.render)
      (fun out cap => by rw [dlPackRle, packLoop_emits])
    simpa only [kept_eq, flatten_render] using fills
  · cases parsed : parse (slice src 0 len) with
    | none => exact fun out cap => unpack_rejects src len parsed out cap
    | some tokens =>
        have fills := emit_fills_short (dlUnpackRle src len) ((expand tokens).map ([·]))
          (fun out cap => by rw [unpack_emits src len tokens parsed])
        simpa only [fitting_cells, Nat.sub_zero, flatten_cells] using fills

end RyzenBuild.Delta
