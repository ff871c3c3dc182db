import RyzenBuild.Lib.Scan
import Mathlib.Data.List.Basic
import Mathlib.Data.Nat.Digits.Defs

/-!
Lines of labelled numbers, `label value label value ...`, as a printer writes
them and as a reader that knows the labels takes them apart again. What stands
behind the last number is handed on to the reader's caller.
-/
namespace RyzenBuild.Labelled

open Digits Scan

abbrev Field := List UInt8 × Nat

def write (fields : List Field) : List UInt8 :=
  fields.flatMap fun field => field.1 ++ numeral field.2

@[simp] theorem write_nil : write [] = [] := rfl

@[simp] theorem write_cons (field : Field) (fields : List Field) :
    write (field :: fields) = field.1 ++ (numeral field.2 ++ write fields) := by
  simp only [write, List.flatMap_cons, List.append_assoc]

/-- The values behind the labels, and the rest of the line. -/
def read : List (List UInt8) → List UInt8 → Option (List Nat × List UInt8)
  | [], line => some ([], line)
  | label :: labels, line =>
      match line.dropPrefix? label with
      | none => none
      | some line =>
          if line.takeWhile isDigit = [] then none
          else
            (read labels (line.dropWhile isDigit)).map fun found =>
              (value (line.takeWhile isDigit) :: found.1, found.2)

/-- A label that ends the digits in front of it. -/
def Parting (label : List UInt8) : Prop := label ≠ [] ∧ EndsDigits label

instance (label : List UInt8) : Decidable (EndsDigits label) :=
  inferInstanceAs (Decidable (∀ first ∈ label.head?, isDigit first = false))

instance (label : List UInt8) : Decidable (Parting label) :=
  inferInstanceAs (Decidable (label ≠ [] ∧ EndsDigits label))

theorem write_ends (fields : List Field) (rest : List UInt8)
    (parting : ∀ field ∈ fields, Parting field.1) (ends : EndsDigits rest) :
    EndsDigits (write fields ++ rest) := by
  cases fields with
  | nil => exact ends
  | cons field fields =>
      obtain ⟨some, stops⟩ := parting field List.mem_cons_self
      intro first head
      apply stops first
      cases label : field.1 with
      | nil => exact absurd label some
      | cons byte bytes =>
          simp only [write_cons, label, List.cons_append, List.head?_cons] at head
          exact head

theorem dropPrefix_append (front rest : List UInt8) :
    (front ++ rest).dropPrefix? front = some rest :=
  List.dropPrefix?_eq_some_iff.mpr ⟨front, rfl, BEq.rfl⟩

/-- What is written is read back, whatever the labels say. -/
theorem read_write (fields : List Field) (rest : List UInt8)
    (parting : ∀ field ∈ fields, Parting field.1) (ends : EndsDigits rest) :
    read (fields.map (·.1)) (write fields ++ rest) = some (fields.map (·.2), rest) := by
  induction fields with
  | nil => rfl
  | cons field fields ih =>
      have later : ∀ other ∈ fields, Parting other.1 := fun other member =>
        parting other (List.mem_cons_of_mem field member)
      obtain ⟨taken, dropped⟩ :=
        takeWhile_numeral field.2 (write fields ++ rest) (write_ends fields rest later ends)
      have split : write (field :: fields) ++ rest =
          field.1 ++ (numeral field.2 ++ (write fields ++ rest)) := by
        simp only [write_cons, List.append_assoc]
      rw [List.map_cons, split, read, dropPrefix_append]
      simp only [taken, dropped, if_neg (numeral_ne_nil field.2), ih later, Option.map_some,
        value_numeral, List.map_cons]

/-- Lines under the same labels, each with its ending. -/
def writeRows (ending : List UInt8) (rows : List (List Field)) : List UInt8 :=
  rows.flatMap fun row => write row ++ ending

/-- So many lines, and the rest of the text. -/
def readRows (labels : List (List UInt8)) (ending : List UInt8) :
    Nat → List UInt8 → Option (List (List Nat) × List UInt8)
  | 0, text => some ([], text)
  | count + 1, text => do
      let (values, rest) ← read labels text
      let rest ← rest.dropPrefix? ending
      let (rows, rest) ← readRows labels ending count rest
      pure (values :: rows, rest)

theorem endsDigits_append (ending rest : List UInt8) (some : ending ≠ []) (ends : EndsDigits ending) :
    EndsDigits (ending ++ rest) := by
  cases ending with
  | nil => exact absurd rfl some
  | cons byte bytes => exact ends

/-- A table is read back line by line, whatever stands behind it. -/
theorem readRows_write (labels : List (List UInt8)) (ending rest : List UInt8)
    (parting : ∀ label ∈ labels, Parting label) (ends : Parting ending) (rows : List (List Field))
    (headed : ∀ row ∈ rows, row.map (·.1) = labels) :
    readRows labels ending rows.length (writeRows ending rows ++ rest) =
      some (rows.map fun row => row.map (·.2), rest) := by
  induction rows with
  | nil => rfl
  | cons row rows ih =>
      have here := headed row List.mem_cons_self
      have later := ih fun other member => headed other (List.mem_cons_of_mem row member)
      have fields : ∀ field ∈ row, Parting field.1 := fun field member =>
        parting field.1 (here ▸ List.mem_map_of_mem member)
      have first := read_write row (ending ++ (writeRows ending rows ++ rest)) fields
        (endsDigits_append ending _ ends.1 ends.2)
      rw [here] at first
      have split : writeRows ending (row :: rows) ++ rest =
          write row ++ (ending ++ (writeRows ending rows ++ rest)) := by
        simp only [writeRows, List.flatMap_cons, List.append_assoc]
      rw [List.length_cons, split, readRows, first]
      simp only [Option.bind_eq_bind, Option.bind_some, dropPrefix_append, later]
      rfl

/-- A line that does not begin with the first label is another's. -/
theorem read_other (label line : List UInt8) (labels : List (List UInt8))
    (other : label.isPrefixOf line = false) : read (label :: labels) line = none := by
  have missing : line.dropPrefix? label = none := by
    cases found : line.dropPrefix? label with
    | none => rfl
    | some rest =>
        obtain ⟨front, split, same⟩ := List.dropPrefix?_eq_some_iff.mp found
        rw [split, ← eq_of_beq same, List.isPrefixOf_iff_prefix.mpr (List.prefix_append _ _)]
          at other
        cases other
  rw [read, missing]

theorem numeral_length (n width : Nat) (positive : 0 < width) (small : n < 10 ^ width) :
    (numeral n).length ≤ width := by
  rw [numeral, List.length_map]
  exact (Nat.length_toDigits_le_iff (by decide) positive).mpr small

/-- A line of numbers of at most `width` digits. -/
theorem write_length (fields : List Field) (width : Nat) (positive : 0 < width)
    (small : ∀ field ∈ fields, field.2 < 10 ^ width) :
    (write fields).length ≤ (fields.map fun field => field.1.length + width).sum := by
  induction fields with
  | nil => exact Nat.le_refl 0
  | cons field fields ih =>
      have here := numeral_length field.2 width positive (small field List.mem_cons_self)
      have later := ih fun other member => small other (List.mem_cons_of_mem field member)
      simp only [write_cons, List.length_append, List.map_cons, List.sum_cons, ← Nat.add_assoc]
      exact Nat.add_le_add (Nat.add_le_add_left here _) later

theorem write_clean (fields : List Field) (clean : ∀ field ∈ fields, 0 ∉ field.1) :
    0 ∉ write fields := by
  intro zero
  obtain ⟨field, member, inside⟩ := List.mem_flatMap.mp zero
  rcases List.mem_append.mp inside with label | digits
  · exact clean field member label
  · have digit := numeral_digits field.2 0 digits
    simp [isDigit] at digit

end RyzenBuild.Labelled
