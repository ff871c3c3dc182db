/-!
What the C sources take from the library under them, the kernel's or the
system's: error numbers, C strings held in fixed arrays, and decimal
formatting. A C string is the list of its bytes before the terminating NUL.
-/
namespace RyzenBuild.Kernel

inductive Errno where
  | efault
  | einval
  | eexist
  | enoent
  | enospc
  | enotty
  deriving DecidableEq, Repr

def text (literal : String) : List UInt8 := literal.toList.map fun c => c.toNat.toUInt8

section Punctuation

theorem text_comma : text "," = [44] := rfl

theorem text_colon : text ":" = [58] := rfl

theorem text_quote : text "\"" = [34] := rfl

theorem text_opens : text "\x7b" = [123] := rfl

theorem text_closes : text "\x7d" = [125] := rfl

end Punctuation

/-- The string a NUL-terminated array holds. -/
def cString (bytes : List UInt8) : List UInt8 := bytes.takeWhile (· ≠ 0)

/-- A string without NUL fills its array up to the terminator. -/
theorem cString_clean (bytes : List UInt8) (clean : 0 ∉ bytes) : cString bytes = bytes := by
  induction bytes with
  | nil => rfl
  | cons first rest ih =>
      have here : first ≠ 0 := fun zero => clean (zero ▸ List.mem_cons_self)
      have later : 0 ∉ rest := fun member => clean (List.mem_cons_of_mem _ member)
      have tail := ih later
      simp only [cString] at tail
      simpa [cString, here] using tail

def strscpy (size : Nat) (source : List UInt8) : List UInt8 := (cString source).take (size - 1)

/-- The string from the first occurrence on. -/
def strstr (needle : List UInt8) : List UInt8 → Option (List UInt8)
  | [] => if needle = [] then some [] else none
  | first :: rest =>
      if needle.isPrefixOf (first :: rest) then some (first :: rest) else strstr needle rest

section FirstOccurrence

/-- The needle stands behind `before`, and nowhere further to the front. -/
structure FirstAt (needle s before after : List UInt8) : Prop where
  split : s = before ++ (needle ++ after)
  first : ∀ other later, s = other ++ (needle ++ later) → before.length ≤ other.length

/-- An earlier byte that begins no occurrence does not matter. -/
theorem firstAt_cons (needle rest before after : List UInt8) (byte : UInt8)
    (begins : needle.isPrefixOf (byte :: rest) = false) :
    FirstAt needle (byte :: rest) (byte :: before) after ↔ FirstAt needle rest before after := by
  constructor
  · rintro ⟨split, first⟩
    refine ⟨List.tail_eq_of_cons_eq split, ?_⟩
    intro other later same
    exact Nat.le_of_succ_le_succ (first (byte :: other) later (by rw [same]; rfl))
  · rintro ⟨split, first⟩
    refine ⟨by rw [split]; rfl, ?_⟩
    intro other later same
    cases other with
    | nil =>
        have prefixed : needle.isPrefixOf (byte :: rest) = true :=
          List.isPrefixOf_iff_prefix.mpr ⟨later, same.symm⟩
        rw [begins] at prefixed
        cases prefixed
    | cons other_byte other =>
        exact Nat.succ_le_succ (first other later (List.tail_eq_of_cons_eq same))

theorem strstr_some (needle s found : List UInt8) (search : strstr needle s = some found) :
    ∃ before after, FirstAt needle s before after ∧ found = needle ++ after := by
  induction s with
  | nil =>
      simp only [strstr] at search
      split at search
      · next empty =>
          cases search
          exact ⟨[], [], ⟨by rw [empty]; rfl, fun _ _ _ => Nat.zero_le _⟩, by rw [empty]; rfl⟩
      · cases search
  | cons byte rest ih =>
      simp only [strstr] at search
      split at search
      · next begins =>
          cases search
          obtain ⟨after, same⟩ := List.isPrefixOf_iff_prefix.mp begins
          exact ⟨[], after, ⟨same.symm, fun _ _ _ => Nat.zero_le _⟩, same.symm⟩
      · next begins =>
          obtain ⟨before, after, later, same⟩ := ih search
          have begins := Bool.eq_false_iff.mpr begins
          exact ⟨byte :: before, after,
            (firstAt_cons needle rest before after byte begins).mpr later, same⟩

theorem strstr_none (needle s before after : List UInt8) (search : strstr needle s = none) :
    s ≠ before ++ (needle ++ after) := by
  induction s generalizing before with
  | nil =>
      intro same
      have empty : needle = [] := by
        have parts := List.append_eq_nil_iff.mp same.symm
        exact (List.append_eq_nil_iff.mp parts.2).1
      simp [strstr, empty] at search
  | cons byte rest ih =>
      simp only [strstr] at search
      split at search
      · cases search
      · next begins =>
          intro same
          cases before with
          | nil => exact begins (List.isPrefixOf_iff_prefix.mpr ⟨after, same.symm⟩)
          | cons other before => exact ih before search (List.tail_eq_of_cons_eq same)

/-- There is one first occurrence. -/
theorem firstAt_unique (needle s before after other later : List UInt8)
    (one : FirstAt needle s before after) (two : FirstAt needle s other later) :
    after = later := by
  have length : before.length = other.length :=
    Nat.le_antisymm (one.first other later two.split) (two.first before after one.split)
  have behind := (List.append_inj (one.split.symm.trans two.split) length).2
  exact List.append_cancel_left behind

theorem strstr_first (needle s before after : List UInt8) (first : FirstAt needle s before after) :
    strstr needle s = some (needle ++ after) := by
  cases search : strstr needle s with
  | none => exact absurd first.split (strstr_none needle s before after search)
  | some found =>
      obtain ⟨other, later, second, same⟩ := strstr_some needle s found search
      rw [same, firstAt_unique needle s before after other later first second]

theorem firstAt_of_strstr (needle s after : List UInt8)
    (search : strstr needle s = some (needle ++ after)) :
    ∃ before, FirstAt needle s before after := by
  obtain ⟨before, later, first, same⟩ := strstr_some needle s _ search
  rw [List.append_cancel_left same]
  exact ⟨before, first⟩

end FirstOccurrence

def decimal (n : Nat) : List UInt8 := text (toString n)

end RyzenBuild.Kernel
