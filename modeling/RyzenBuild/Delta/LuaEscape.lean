import RyzenBuild.Lib.Substitute
import RyzenBuild.Caustic.ReadBack

/-!
The string encoder of `delta_link_ffi.lua`, eight substitutions in a row. Byte
by byte they write what the switch of `json_escape_append` writes.
-/
namespace RyzenBuild.Delta

open Kernel Digits Json Substitute Caustic

/-- `s:gsub(byte, replacement)` for a pattern of one byte. -/
def gsubByte (byte : UInt8) (replacement : String) : Rule UInt8 :=
  ⟨(· == byte), fun _ => text replacement⟩

/-- The control bytes, by `[%z\1-\31]`. -/
def gsubControl : Rule UInt8 :=
  ⟨(· < 32), fun byte => text "\\u" ++ hex 4 byte.toNat⟩

def shortSubstitutions : List (Rule UInt8) :=
  [gsubByte 92 "\\\\", gsubByte 34 "\\\"", gsubByte 8 "\\b", gsubByte 12 "\\f",
    gsubByte 10 "\\n", gsubByte 13 "\\r", gsubByte 9 "\\t"]

def jsonEscape (s : List UInt8) : List UInt8 :=
  applyAll (shortSubstitutions ++ [gsubControl]) s

/-- A string as `encode_json` writes it. -/
def encodeString (s : List UInt8) : List UInt8 := text "\"" ++ jsonEscape s ++ text "\""

section Agreement

theorem hexLength_byte (byte : UInt8) : hexLength byte.toNat ≤ 2 := by
  have below := byte.toNat_lt
  rcases Nat.eq_zero_or_pos byte.toNat with zero | positive
  · rw [zero]
    decide
  · have bits : byte.toNat.log2 < 8 := (Nat.log2_lt (by omega)).mpr below
    unfold hexLength
    omega

/-- Of the four digits of a byte the first two are zeros. -/
theorem hex_byte (byte : UInt8) : hex 4 byte.toNat = hex04 byte := by
  have below := byte.toNat_lt
  have width : max 4 (hexLength byte.toNat) = 4 := by
    have short := hexLength_byte byte
    omega
  have first : byte.toNat / 16 / 16 / 16 % 16 = 0 := by omega
  have second : byte.toNat / 16 / 16 % 16 = 0 := by omega
  have third : byte.toNat / 16 % 16 = byte.toNat / 16 := by omega
  rw [hex, width]
  simp only [hexFixed, first, second, third]
  rfl

theorem jsonEscape_byte (byte : UInt8) : jsonEscape [byte] = escaped byte := by
  unfold escaped
  split_ifs with quote backslash back feed line carriage tab control
  · rw [quote]; rfl
  · rw [backslash]; rfl
  · rw [back]; rfl
  · rw [feed]; rfl
  · rw [line]; rfl
  · rw [carriage]; rfl
  · rw [tab]; rfl
  all_goals
    have passes : ∀ rule ∈ shortSubstitutions, rule.selects byte = false := by
      simp [shortSubstitutions, gsubByte, quote, backslash, back, feed, line, carriage, tab]
    rw [jsonEscape, applyAll_pass _ _ _ passes]
  · simp [applyAll, Rule.apply, gsubControl, control, hex_byte]
  · simp [applyAll, Rule.apply, gsubControl, control]

/-- The chain of substitutions is the switch applied to every byte. -/
theorem jsonEscape_eq (s : List UInt8) : jsonEscape s = s.flatMap escaped := by
  have bytewise : (fun byte => jsonEscape [byte]) = escaped := funext jsonEscape_byte
  rw [← bytewise]
  exact applyAll_symbols _ s

theorem encodeString_eq (s : List UInt8) : encodeString s = 34 :: (s.flatMap escaped ++ [34]) := by
  rw [encodeString, jsonEscape_eq, text_quote]
  rfl

theorem literal_encodeString (s : List UInt8) : Literal (encodeString s) s := by
  rw [encodeString_eq]
  exact literal_escaped escaped s fun byte _ => stands_escaped byte

theorem data_jsonEscapeAppend_lua (sb : StrBuf) (s : List UInt8) (clean : 0 ∉ s) :
    (jsonEscapeAppend sb s).data = sb.data ++ encodeString s := by
  rw [data_jsonEscapeAppend, quoted, cString_clean s clean, encodeString_eq]

end Agreement

section Raw

/-- Every quote of the text, and the quote behind it, is read as the text means
it: none ends the string early, none is swallowed by a backslash. The flag says
whether a backslash stands right in front. -/
def Sealed : Bool → List UInt8 → Prop
  | escaping, [] => escaping = false
  | true, _ :: rest => Sealed false rest
  | false, first :: rest => if first = 92 then Sealed true rest else first ≠ 34 ∧ Sealed false rest

theorem escaped_shape (byte : UInt8) :
    escaped byte = [byte] ∧ isPlain byte = true ∨
      ∃ mark tail, escaped byte = 92 :: mark :: tail ∧ 32 ≤ mark ∧ tail.all isPlain = true := by
  have digits : ∀ digit < 16, isPlain (ofChar (Nat.digitChar digit)) = true := by decide
  have below := byte.toNat_lt
  unfold escaped
  split_ifs with quote backslash back feed line carriage tab control
  iterate 7 exact .inr ⟨_, [], rfl, by decide, rfl⟩
  · have high := digits (byte.toNat / 16) (by omega)
    have low := digits (byte.toNat % 16) (by omega)
    refine .inr ⟨117, hex04 byte, rfl, by decide, ?_⟩
    simp only [hex04, List.all_cons, high, low]
    rfl
  · have printable : 32 ≤ byte := UInt8.not_lt.mp control
    exact .inl ⟨rfl, by simp [isPlain, quote, backslash, printable]⟩

theorem sealed_plain (tail rest : List UInt8) (plain : tail.all isPlain = true)
    (closed : Sealed false rest) : Sealed false (tail ++ rest) := by
  induction tail with
  | nil => exact closed
  | cons first tail ih =>
      simp only [List.all_cons, Bool.and_eq_true, isPlain, bne_iff_ne, decide_eq_true_eq] at plain
      obtain ⟨⟨⟨_, quote⟩, backslash⟩, later⟩ := plain
      rw [List.cons_append, Sealed, if_neg backslash]
      exact ⟨quote, ih later⟩

theorem sealed_escaped (bytes : List UInt8) : Sealed false (bytes.flatMap escaped) := by
  induction bytes with
  | nil => rfl
  | cons byte bytes ih =>
      rw [List.flatMap_cons]
      rcases escaped_shape byte with ⟨same, plain⟩ | ⟨mark, tail, same, _, plain⟩
      · rw [same]
        exact sealed_plain [byte] _ (by simp [plain]) ih
      · rw [same, List.cons_append, Sealed, if_pos rfl, List.cons_append, Sealed]
        exact sealed_plain tail _ plain ih

theorem printable_escaped (byte : UInt8) : ∀ written ∈ escaped byte, 32 ≤ written := by
  have above : ∀ other : UInt8, isPlain other = true → 32 ≤ other := by
    intro other plain
    simp only [isPlain, Bool.and_eq_true, decide_eq_true_eq] at plain
    exact plain.1.1
  intro written member
  rcases escaped_shape byte with ⟨same, plain⟩ | ⟨mark, tail, same, printable, plain⟩
  · rw [same, List.mem_singleton] at member
    rw [member]
    exact above byte plain
  · rw [same, List.mem_cons, List.mem_cons] at member
    rcases member with rfl | rfl | inside
    · decide
    · exact printable
    · exact above written (List.all_eq_true.mp plain written inside)

theorem printable_encodeString (s : List UInt8) : ∀ byte ∈ encodeString s, 32 ≤ byte := by
  intro byte member
  rw [encodeString_eq, List.mem_cons, List.mem_append, List.mem_singleton] at member
  rcases member with rfl | inside | rfl
  · decide
  · obtain ⟨source, _, written⟩ := List.mem_flatMap.mp inside
    exact printable_escaped source byte written
  · decide

end Raw

/-- Both encoders write the same literal, with nothing raw in it and no quote
loose, and it reads back as the string; the Lua encoder's does so with NUL bytes
as well. -/
theorem string_encoders_agree :
    (∀ (sb : StrBuf) (s : List UInt8), 0 ∉ s →
      (jsonEscapeAppend sb s).data = sb.data ++ encodeString s) ∧
    ∀ s : List UInt8,
      (∀ byte ∈ encodeString s, 32 ≤ byte) ∧ Sealed false (jsonEscape s) ∧
        Literal (encodeString s) s ∧ ParsesTo (encodeString s) (.string s) := by
  refine ⟨data_jsonEscapeAppend_lua, ?_⟩
  intro s
  have literal := literal_encodeString s
  refine ⟨printable_encodeString s, ?_, literal,
    parsesTo_written (Written.string (encodeString s) s literal)⟩
  rw [jsonEscape_eq]
  exact sealed_escaped s

/-- A tab, a quote and a backslash. -/
theorem string_encoders_agree_short :
    (jsonEscapeAppend (sbInit jsonBufCap (by decide)) [9, 34, 92]).data =
      [] ++ encodeString [9, 34, 92] :=
  string_encoders_agree.1 (sbInit jsonBufCap (by decide)) [9, 34, 92] (by decide)

end RyzenBuild.Delta
