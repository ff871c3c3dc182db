import RyzenBuild.Lib.Json
import RyzenBuild.Lib.Scan

/-!
Writing JSON: texts that read back as a known value, whatever stands behind
them. A written value carries that fact with it, so that an object put
together from written members is again a written value.
-/
namespace RyzenBuild.Json

open Digits

/-- What may follow a value: the end, or a byte no number goes on with. -/
def Ends (rest : List UInt8) : Prop :=
  ∀ first ∈ rest.head?, isDigit first = false ∧ first ≠ 46 ∧ first ≠ 101 ∧ first ≠ 69

def Text (s : List UInt8) (value : Value) : Prop :=
  ∀ rest, Ends rest → Reads (s ++ rest) value rest

def Literal (s bytes : List UInt8) : Prop := ∀ rest, readString (s ++ rest) = some (bytes, rest)

/-- The escape is read as one piece, and the piece is this byte. -/
def Stands (escape : List UInt8) (byte : UInt8) : Prop :=
  ∃ piece, (∀ later, decode (piece :: later) = byte :: decode later) ∧
    ∀ rest, pieces (escape ++ rest) =
      (pieces rest).map fun (later, rest) => (piece :: later, rest)

/-- A byte that stands for itself in a string. -/
def isPlain (byte : UInt8) : Bool := 32 ≤ byte && byte != 34 && byte != 92

section Strings

theorem decode_unit (unit : Nat) (ascii : unit < 0x80) (later : List Piece) :
    decode (.unit unit :: later) = UInt8.ofNat unit :: decode later := by
  have low : isHighUnit unit = false := by simp [isHighUnit]; omega
  have one : utf8 unit = [UInt8.ofNat unit] := by simp [utf8, ascii]
  cases later with
  | nil => simp [decode, one]
  | cons second later => cases second <;> simp [decode, low, one]

theorem stands_plain (byte : UInt8) (plain : isPlain byte = true) : Stands [byte] byte := by
  simp only [isPlain, Bool.and_eq_true, decide_eq_true_eq, bne_iff_ne] at plain
  obtain ⟨⟨printable, quote⟩, backslash⟩ := plain
  exact ⟨.byte byte, fun _ => rfl, fun rest =>
    pieces_raw rest byte (UInt8.not_lt.mpr printable) quote backslash⟩

theorem stands_short (mark byte : UInt8) (unicode : mark ≠ 117)
    (short : shortEscape mark = some byte) : Stands [92, mark] byte :=
  ⟨.byte byte, fun _ => rfl, fun rest => pieces_short rest mark byte unicode short⟩

theorem stands_unit (a b c d : UInt8) (unit : Nat) (ascii : unit < 0x80)
    (units : unitOf a b c d = some unit) : Stands [92, 117, a, b, c, d] (UInt8.ofNat unit) :=
  ⟨.unit unit, decode_unit unit ascii, fun rest => pieces_unit rest a b c d unit units⟩

variable (escape : UInt8 → List UInt8)

theorem pieces_escaped (bytes : List UInt8) (stands : ∀ byte ∈ bytes, Stands (escape byte) byte)
    (rest : List UInt8) :
    ∃ inside, decode inside = bytes ∧
      pieces (bytes.flatMap escape ++ 34 :: rest) = some (inside, rest) := by
  induction bytes with
  | nil => exact ⟨[], rfl, by simp⟩
  | cons byte bytes ih =>
      obtain ⟨piece, decoded, read⟩ := stands byte List.mem_cons_self
      obtain ⟨inside, same, later⟩ := ih fun other member =>
        stands other (List.mem_cons_of_mem byte member)
      refine ⟨piece :: inside, by rw [decoded, same], ?_⟩
      rw [List.flatMap_cons, List.append_assoc, read, later]
      rfl

/-- A string between quotes reads back if every byte has an escape of its own. -/
theorem literal_escaped (bytes : List UInt8)
    (stands : ∀ byte ∈ bytes, Stands (escape byte) byte) :
    Literal (34 :: (bytes.flatMap escape ++ [34])) bytes := by
  intro rest
  obtain ⟨inside, same, read⟩ := pieces_escaped escape bytes stands rest
  simp only [List.cons_append, List.append_assoc, List.nil_append, readString, if_pos, read,
    Option.map_some, same]

theorem literal_plain (bytes : List UInt8) (plain : bytes.all isPlain = true) :
    Literal (34 :: (bytes ++ [34])) bytes := by
  have each := literal_escaped (fun byte => [byte]) bytes fun byte member =>
    stands_plain byte (List.all_eq_true.mp plain byte member)
  simpa using each

theorem literal_opens (s bytes : List UInt8) (literal : Literal s bytes) : ∃ more, s = 34 :: more := by
  have read := literal [0]
  cases s with
  | nil => simp [readString] at read
  | cons first more =>
      by_cases quote : first = 34
      · exact ⟨more, by rw [quote]⟩
      · simp [readString, quote] at read

end Strings

section Scalars

theorem text_string (s bytes : List UInt8) (literal : Literal s bytes) :
    Text s (.string bytes) := by
  intro rest _
  obtain ⟨more, rfl⟩ := literal_opens s bytes literal
  refine ⟨1, ?_⟩
  have read := literal rest
  simp only [List.cons_append] at read ⊢
  rw [readValue, valueBy, if_pos rfl, read]
  rfl

theorem text_true : Text [116, 114, 117, 101] (.bool true) := by
  intro rest _
  exact ⟨1, by simp [readValue, valueBy, readKeyword]⟩

theorem text_false : Text [102, 97, 108, 115, 101] (.bool false) := by
  intro rest _
  exact ⟨1, by simp [readValue, valueBy, readKeyword]⟩

theorem readFraction_ends (rest : List UInt8) (ends : Ends rest) :
    readFraction rest = some ([], rest) := by
  have point : rest.head? ≠ some 46 := fun point => (ends 46 point).2.1 rfl
  simp [readFraction, point]

theorem readExponent_ends (rest : List UInt8) (ends : Ends rest) :
    readExponent rest = some ([], rest) := by
  cases rest with
  | nil => rfl
  | cons first rest =>
      obtain ⟨_, _, lower, upper⟩ := ends first rfl
      simp [readExponent, lower, upper]

theorem readInteger_numeral (n : Nat) (rest : List UInt8) (ends : Ends rest) :
    readInteger (numeral n ++ rest) = some (numeral n, rest) := by
  rcases Nat.eq_zero_or_pos n with rfl | positive
  · simp [numeral, readInteger, ofChar]
  · obtain ⟨taken, dropped⟩ := Scan.takeWhile_numeral n rest fun first member =>
      (ends first member).1
    have digits : readDigits (numeral n ++ rest) = some (numeral n, rest) := by
      simp [readDigits, taken, dropped, numeral_ne_nil]
    cases front : numeral n with
    | nil => exact absurd front (numeral_ne_nil n)
    | cons first tail =>
        have leading : first ≠ 48 := fun zero => numeral_head n positive tail (by rw [front, zero])
        rw [front] at digits
        simpa [readInteger, leading] using digits

theorem readNumber_signed (n : Int) (rest : List UInt8) (ends : Ends rest) :
    readNumber (signed n ++ rest) = some (signed n, rest) := by
  have natural := readInteger_numeral n.natAbs rest ends
  unfold signed
  split
  · simp [readNumber, readSign, natural, readFraction_ends rest ends, readExponent_ends rest ends]
  · have sign : readSign (numeral n.natAbs ++ rest) = ([], numeral n.natAbs ++ rest) := by
      rw [readSign, List.head?_append_of_ne_nil _ (numeral_ne_nil _),
        if_neg (numeral_unsigned _)]
    simp [readNumber, sign, natural, readFraction_ends rest ends, readExponent_ends rest ends]

theorem text_signed (n : Int) : Text (signed n) (.number (signed n)) := by
  intro rest ends
  have read := readNumber_signed n rest ends
  obtain ⟨first, tail, front, begins⟩ := signed_begins n
  -- A sign or a digit begins no other kind of value.
  have other : first ≠ 34 ∧ first ≠ 91 ∧ first ≠ 123 ∧ first ≠ 116 ∧ first ≠ 102 ∧
      first ≠ 110 := by
    refine ⟨?_, ?_, ?_, ?_, ?_, ?_⟩ <;> rintro rfl <;> simp [isDigit] at begins
  refine ⟨1, ?_⟩
  rw [front] at read ⊢
  simp only [List.cons_append] at read ⊢
  rw [readValue, valueBy]
  simp only [other, if_false, read]
  rfl

theorem text_numeral (n : Nat) : Text (numeral n) (.number (numeral n)) := by
  have natural := text_signed n
  rwa [signed_natCast] at natural

end Scalars

section Objects

/-- A text together with the value it reads back as. -/
structure Written where
  text : List UInt8
  value : Value
  reads : Text text value

/-- A name as it is written, and its value. -/
structure Entry where
  name : List UInt8
  key : List UInt8
  named : Literal name key
  content : Written

namespace Entry

def text (entry : Entry) : List UInt8 := entry.name ++ 58 :: entry.content.text

def member (entry : Entry) : List UInt8 × Value := (entry.key, entry.content.value)

end Entry

/-- Entries with a comma between two of them. -/
def joined : List Entry → List UInt8
  | [] => []
  | [last] => last.text
  | first :: second :: more => first.text ++ 44 :: joined (second :: more)

/-- A comma in front of every entry but the first. -/
theorem joined_cons (first : Entry) (more : List Entry) :
    joined (first :: more) = first.text ++ more.flatMap fun entry => 44 :: entry.text := by
  induction more generalizing first with
  | nil => simp [joined]
  | cons second more ih => simp [joined, ih second]

/-- A comma behind every entry but the last. -/
theorem joined_concat (entries : List Entry) (last : Entry) :
    joined (entries ++ [last]) =
      entries.flatMap (fun entry => entry.text ++ [44]) ++ last.text := by
  induction entries with
  | nil => simp [joined]
  | cons first entries ih =>
      cases entries with
      | nil => simp [joined]
      | cons second entries =>
          simp only [List.cons_append] at ih
          simp [joined, ih]

theorem ends_of_head (first : UInt8) (rest : List UInt8) (closes : first = 44 ∨ first = 125) :
    Ends (first :: rest) := by
  intro head same
  cases same
  rcases closes with rfl | rfl <;> simp [isDigit]

/-- One entry is read in front of a comma or a closing brace. -/
theorem member_text (entry : Entry) (rest : List UInt8) (ends : Ends rest) :
    ∃ fuel, member (readValue fuel) (entry.text ++ rest) = some (entry.member, rest) := by
  obtain ⟨fuel, read⟩ := entry.content.reads rest ends
  refine ⟨fuel, ?_⟩
  have solid := reads_solid _ _ _ ⟨fuel, read⟩
  have name := entry.named (58 :: entry.content.text ++ rest)
  simp only [Entry.text, List.append_assoc, List.cons_append] at name ⊢
  rw [member, name]
  simp only [skipBlanks_of_head 58 _ (by decide), if_pos, solid, read]
  rfl

theorem entry_opens (entry : Entry) (rest : List UInt8) :
    skipBlanks (entry.text ++ rest) = entry.text ++ rest := by
  obtain ⟨name, opens⟩ := literal_opens entry.name entry.key entry.named
  simp [Entry.text, opens, skipBlanks_of_head, isBlank]

theorem joined_opens (first : Entry) (more : List Entry) :
    ∃ rest, joined (first :: more) = 34 :: rest := by
  obtain ⟨name, opens⟩ := literal_opens first.name first.key first.named
  cases more with
  | nil => exact ⟨name ++ 58 :: first.content.text, by simp [joined, Entry.text, opens]⟩
  | cons second more =>
      exact ⟨_, by simp only [joined, Entry.text, opens, List.cons_append]; rfl⟩

/-- The entries of an object, by induction on how many are left. -/
theorem members_text (first : Entry) (more : List Entry) (rest : List UInt8) :
    ∃ fuel, readMembers fuel (joined (first :: more) ++ 125 :: rest) =
      some ((first :: more).map Entry.member, rest) := by
  induction more generalizing first with
  | nil =>
      obtain ⟨fuel, read⟩ := member_text first (125 :: rest) (ends_of_head 125 rest (.inr rfl))
      refine ⟨fuel + 1, ?_⟩
      simp only [joined, readMembers, separated, entry_opens, read,
        skipBlanks_of_head 125 rest (by decide)]
      rfl
  | cons second more ih =>
      obtain ⟨later, readLater⟩ := ih second
      obtain ⟨fuel, read⟩ := member_text first (44 :: (joined (second :: more) ++ 125 :: rest))
        (ends_of_head 44 _ (.inl rfl))
      have read := member_extends _ _ (readValue_le fuel later).1 _ _ read
      have readLater := (readValue_le later fuel).2 _ _ readLater
      rw [Nat.add_comm later fuel] at readLater
      refine ⟨fuel + later + 1, ?_⟩
      simp only [joined, List.append_assoc, List.cons_append, readMembers, separated, entry_opens,
        read, skipBlanks_of_head 44 _ (by decide : isBlank 44 = false), readLater]
      rfl

/-- An object of written entries reads back as its members in that order. -/
theorem text_object (entries : List Entry) :
    Text (123 :: (joined entries ++ [125])) (.object (entries.map Entry.member)) := by
  intro rest _
  cases entries with
  | nil => exact ⟨1, by simp [joined, readValue, valueBy, enclosed, skipBlanks, isBlank]⟩
  | cons first more =>
      obtain ⟨fuel, read⟩ := members_text first more rest
      obtain ⟨tail, opens⟩ := joined_opens first more
      refine ⟨fuel + 1, ?_⟩
      rw [opens] at read ⊢
      simp only [List.cons_append, List.append_assoc, List.nil_append] at read ⊢
      simp only [readValue, valueBy, enclosed, skipBlanks_of_head 34 _ (by decide)]
      simp [read]

end Objects

section Arrays

/-- Texts with a comma between two of them. -/
def listed : List (List UInt8) → List UInt8
  | [] => []
  | [last] => last
  | first :: second :: more => first ++ 44 :: listed (second :: more)

/-- The entries of an object are listed as the items of an array are. -/
theorem joined_listed (entries : List Entry) : joined entries = listed (entries.map Entry.text) := by
  induction entries with
  | nil => rfl
  | cons first entries ih =>
      cases entries with
      | nil => rfl
      | cons second entries => simpa [joined, listed] using ih

theorem readItems_le (fuel extra : Nat) : Extends (readItems fuel) (readItems (fuel + extra)) := by
  induction extra with
  | zero => exact fun _ _ read => read
  | succ extra ih =>
      obtain ⟨_, items, _⟩ := read_extends (fuel + extra)
      exact fun s result read => items s result (ih s result read)

/-- One item is read in front of a comma or a closing bracket. -/
theorem item_text (item : Written) (closing : UInt8) (rest : List UInt8)
    (closes : closing = 44 ∨ closing = 93) :
    skipBlanks (item.text ++ closing :: rest) = item.text ++ closing :: rest ∧
      ∃ fuel, readValue fuel (item.text ++ closing :: rest) = some (item.value, closing :: rest) := by
  have ends : Ends (closing :: rest) := by
    intro head same
    cases same
    rcases closes with rfl | rfl <;> simp [isDigit]
  have read := item.reads (closing :: rest) ends
  exact ⟨reads_solid _ _ _ read, read⟩

/-- The items of an array, by induction on how many are left. -/
theorem items_text (first : Written) (more : List Written) (rest : List UInt8) :
    ∃ fuel, readItems fuel (listed ((first :: more).map Written.text) ++ 93 :: rest) =
      some ((first :: more).map Written.value, rest) := by
  induction more generalizing first with
  | nil =>
      obtain ⟨solid, fuel, read⟩ := item_text first 93 rest (.inr rfl)
      refine ⟨fuel + 1, ?_⟩
      simp only [List.map_cons, List.map_nil, listed, readItems, separated, solid, read,
        skipBlanks_of_head 93 rest (by decide)]
      rfl
  | cons second more ih =>
      obtain ⟨later, readLater⟩ := ih second
      obtain ⟨solid, fuel, read⟩ :=
        item_text first 44 (listed ((second :: more).map Written.text) ++ 93 :: rest) (.inl rfl)
      have read := (readValue_le fuel later).1 _ _ read
      have readLater := readItems_le later fuel _ _ readLater
      rw [Nat.add_comm later fuel] at readLater
      refine ⟨fuel + later + 1, ?_⟩
      simp only [List.map_cons] at solid read readLater ⊢
      simp only [listed, List.append_assoc, List.cons_append, readItems, separated, solid, read,
        skipBlanks_of_head 44 _ (by decide : isBlank 44 = false), readLater]
      rfl

/-- Neither a blank nor a closing bracket begins a value. -/
theorem reads_opens (s : List UInt8) (value : Value) (rest : List UInt8)
    (read : Reads s value rest) : ∃ head tail, s = head :: tail ∧ isBlank head = false ∧ head ≠ 93 := by
  have solid := reads_solid s value rest read
  obtain ⟨fuel, read⟩ := read
  cases fuel with
  | zero => cases read
  | succ fuel =>
      cases s with
      | nil => cases read
      | cons head tail =>
          refine ⟨head, tail, rfl, ?_, ?_⟩
          · apply Bool.eq_false_iff.mpr
            intro blank
            have shorter := (List.dropWhile_suffix isBlank (l := tail)).length_le
            have same := congrArg List.length solid
            simp only [skipBlanks, List.dropWhile_cons, if_pos blank, List.length_cons] at same
            omega
          · rintro rfl
            simp [readValue, valueBy, readNumber, readSign, readInteger, readDigits, isDigit] at read

theorem listed_opens (first : Written) (more : List Written) (rest : List UInt8) :
    ∃ head tail, listed ((first :: more).map Written.text) ++ 93 :: rest = head :: tail ∧
      isBlank head = false ∧ head ≠ 93 := by
  cases more with
  | nil =>
      obtain ⟨_, read⟩ := item_text first 93 rest (.inr rfl)
      exact reads_opens _ _ _ read
  | cons second more =>
      obtain ⟨_, read⟩ := item_text first 44
        (listed ((second :: more).map Written.text) ++ 93 :: rest) (.inl rfl)
      simpa [listed] using reads_opens _ _ _ read

/-- An array of written items reads back as their values in that order. -/
theorem text_array (items : List Written) :
    Text (91 :: (listed (items.map Written.text) ++ [93])) (.array (items.map Written.value)) := by
  intro rest _
  cases items with
  | nil => exact ⟨1, by simp [listed, readValue, valueBy, enclosed, skipBlanks, isBlank]⟩
  | cons first more =>
      obtain ⟨fuel, read⟩ := items_text first more rest
      obtain ⟨head, tail, opens, solid, other⟩ := listed_opens first more rest
      refine ⟨fuel + 1, ?_⟩
      rw [opens] at read
      have whole : 91 :: (listed ((first :: more).map Written.text) ++ [93]) ++ rest =
          91 :: head :: tail := by
        rw [← opens]
        simp
      rw [whole]
      simp only [readValue, valueBy, enclosed, skipBlanks_of_head _ _ solid, if_neg other, read]
      rfl

end Arrays

namespace Written

def string (s bytes : List UInt8) (literal : Literal s bytes) : Written :=
  ⟨s, .string bytes, text_string s bytes literal⟩

def plain (bytes : List UInt8) (plain : bytes.all isPlain = true) : Written :=
  string (34 :: (bytes ++ [34])) bytes (literal_plain bytes plain)

def numeral (n : Nat) : Written := ⟨Digits.numeral n, .number (Digits.numeral n), text_numeral n⟩

def signed (n : Int) : Written := ⟨Digits.signed n, .number (Digits.signed n), text_signed n⟩

def bool : Bool → Written
  | true => ⟨[116, 114, 117, 101], .bool true, text_true⟩
  | false => ⟨[102, 97, 108, 115, 101], .bool false, text_false⟩

def object (entries : List Entry) : Written :=
  ⟨123 :: (joined entries ++ [125]), .object (entries.map Entry.member), text_object entries⟩

def array (items : List Written) : Written :=
  ⟨91 :: (listed (items.map text) ++ [93]), .array (items.map value), text_array items⟩

end Written

def Entry.plain (key : List UInt8) (plain : key.all isPlain = true) (content : Written) : Entry :=
  ⟨34 :: (key ++ [34]), key, literal_plain key plain, content⟩

/-- The text of a written value is a document, and of no other value. -/
theorem parsesTo_written (written : Written) : ParsesTo written.text written.value := by
  have read := written.reads [] (by simp [Ends])
  rw [List.append_nil] at read
  have document : Document written.text written.value :=
    ⟨[], by rwa [reads_solid _ _ _ read], rfl⟩
  exact ⟨document, fun other found => document_unique _ other _ found document⟩

end RyzenBuild.Json
