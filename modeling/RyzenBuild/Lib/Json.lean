import RyzenBuild.Lib.Digits
import Mathlib.Data.List.TakeWhile

/-!
JSON texts as bytes. The reader follows the grammar production by production;
a string is read to the bytes it stands for, a number to its own text. UTF-8
validity of the raw bytes in a string is not looked at.
-/
namespace RyzenBuild.Json

open Digits

inductive Value where
  | null
  | bool (truth : Bool)
  | number (text : List UInt8)
  | string (bytes : List UInt8)
  | array (items : List Value)
  | object (members : List (List UInt8 × Value))

/-- A reader takes something from the front of a text and leaves the rest. -/
abbrev Reader (Result : Type) := List UInt8 → Option (Result × List UInt8)

def isBlank (byte : UInt8) : Bool := byte == 32 || byte == 9 || byte == 10 || byte == 13

def skipBlanks (s : List UInt8) : List UInt8 := s.dropWhile isBlank

/-- A byte of a string, or a 16-bit unit written as `\u` and four digits. -/
inductive Piece where
  | byte (value : UInt8)
  | unit (value : Nat)
  deriving DecidableEq, Repr

def hexDigit (byte : UInt8) : Option Nat :=
  if 48 ≤ byte ∧ byte ≤ 57 then some (byte.toNat - 48)
  else if 97 ≤ byte ∧ byte ≤ 102 then some (byte.toNat - 87)
  else if 65 ≤ byte ∧ byte ≤ 70 then some (byte.toNat - 55)
  else none

def unitOf (a b c d : UInt8) : Option Nat := do
  let a ← hexDigit a
  let b ← hexDigit b
  let c ← hexDigit c
  let d ← hexDigit d
  pure (4096 * a + 256 * b + 16 * c + d)

/-- The byte a two-character escape stands for, by its second character. -/
def shortEscape (byte : UInt8) : Option UInt8 :=
  if byte = 34 then some 34
  else if byte = 92 then some 92
  else if byte = 47 then some 47
  else if byte = 98 then some 8
  else if byte = 102 then some 12
  else if byte = 110 then some 10
  else if byte = 114 then some 13
  else if byte = 116 then some 9
  else none

/-- The inside of a string up to its closing quote, and what follows it. -/
def pieces : List UInt8 → Option (List Piece × List UInt8)
  | [] => none
  | first :: rest =>
      if first = 34 then some ([], rest)
      else if first = 92 then
        match rest with
        | [] => none
        | escape :: rest =>
            if escape = 117 then
              match rest with
              | a :: b :: c :: d :: rest =>
                  match unitOf a b c d, pieces rest with
                  | some unit, some (later, rest) => some (.unit unit :: later, rest)
                  | _, _ => none
              | _ => none
            else
              match shortEscape escape, pieces rest with
              | some byte, some (later, rest) => some (.byte byte :: later, rest)
              | _, _ => none
      -- Control characters must be escaped.
      else if first < 32 then none
      else
        match pieces rest with
        | some (later, rest) => some (.byte first :: later, rest)
        | none => none

section Pieces

variable (rest : List UInt8)

@[simp] theorem pieces_quote : pieces (34 :: rest) = some ([], rest) := by
  rw [pieces.eq_def]
  rfl

theorem pieces_raw (byte : UInt8) (printable : ¬byte < 32) (quote : byte ≠ 34)
    (backslash : byte ≠ 92) :
    pieces (byte :: rest) =
      (pieces rest).map fun (later, rest) => (.byte byte :: later, rest) := by
  rw [pieces.eq_def]
  simp only [if_neg quote, if_neg backslash, if_neg printable]
  cases pieces rest <;> rfl

theorem pieces_short (mark byte : UInt8) (unicode : mark ≠ 117)
    (short : shortEscape mark = some byte) :
    pieces (92 :: mark :: rest) =
      (pieces rest).map fun (later, rest) => (.byte byte :: later, rest) := by
  rw [pieces.eq_def]
  simp only [if_neg unicode, short]
  cases pieces rest <;> rfl

theorem pieces_unit (a b c d : UInt8) (unit : Nat) (units : unitOf a b c d = some unit) :
    pieces (92 :: 117 :: a :: b :: c :: d :: rest) =
      (pieces rest).map fun (later, rest) => (.unit unit :: later, rest) := by
  rw [pieces.eq_def]
  simp only [units]
  cases pieces rest <;> rfl

theorem pieces_control (byte : UInt8) (control : byte < 32) : pieces (byte :: rest) = none := by
  have quote : byte ≠ 34 := fun same => absurd control (by rw [same]; decide)
  have backslash : byte ≠ 92 := fun same => absurd control (by rw [same]; decide)
  rw [pieces.eq_def]
  simp only [if_neg quote, if_neg backslash, if_pos control]

end Pieces

def utf8 (code : Nat) : List UInt8 :=
  if code < 0x80 then [UInt8.ofNat code]
  else if code < 0x800 then [UInt8.ofNat (0xC0 + code / 64), UInt8.ofNat (0x80 + code % 64)]
  else if code < 0x10000 then
    [UInt8.ofNat (0xE0 + code / 4096), UInt8.ofNat (0x80 + code / 64 % 64),
      UInt8.ofNat (0x80 + code % 64)]
  else
    [UInt8.ofNat (0xF0 + code / 262144), UInt8.ofNat (0x80 + code / 4096 % 64),
      UInt8.ofNat (0x80 + code / 64 % 64), UInt8.ofNat (0x80 + code % 64)]

def isHighUnit (unit : Nat) : Bool := 0xD800 ≤ unit && unit < 0xDC00

def isLowUnit (unit : Nat) : Bool := 0xDC00 ≤ unit && unit < 0xE000

/-- The bytes of a string; two surrogate units stand for one code point. -/
def decode : List Piece → List UInt8
  | [] => []
  | .byte value :: rest => value :: decode rest
  | .unit high :: .unit low :: rest =>
      if isHighUnit high && isLowUnit low then
        utf8 (0x10000 + 1024 * (high - 0xD800) + (low - 0xDC00)) ++ decode rest
      else utf8 high ++ decode (.unit low :: rest)
  | .unit value :: rest => utf8 value ++ decode rest

def readString : Reader (List UInt8)
  | [] => none
  | first :: rest =>
      if first = 34 then (pieces rest).map fun (inside, rest) => (decode inside, rest) else none

/-- A run of at least one digit. -/
def readDigits : Reader (List UInt8) := fun s =>
  let digits := s.takeWhile isDigit
  if digits = [] then none else some (digits, s.dropWhile isDigit)

/-- The integer part: a zero stands alone. -/
def readInteger : Reader (List UInt8) := fun s =>
  match s with
  | [] => none
  | first :: rest => if first = 48 then some ([48], rest) else readDigits s

def readSign (s : List UInt8) : List UInt8 × List UInt8 :=
  if s.head? = some 45 then ([45], s.tail) else ([], s)

def readFraction : Reader (List UInt8) := fun s =>
  if s.head? = some 46 then
    (readDigits s.tail).map fun (digits, rest) => (46 :: digits, rest)
  else some ([], s)

def readExponent : Reader (List UInt8) := fun s =>
  match s with
  | [] => some ([], [])
  | mark :: rest =>
      if mark = 101 ∨ mark = 69 then
        let sign := if rest.head? = some 43 ∨ rest.head? = some 45 then rest.take 1 else []
        (readDigits (rest.drop sign.length)).map fun (digits, rest) =>
          (mark :: sign ++ digits, rest)
      else some ([], s)

def readNumber : Reader (List UInt8) := fun s => do
  let (sign, s) := readSign s
  let (integer, s) ← readInteger s
  let (fraction, s) ← readFraction s
  let (exponent, s) ← readExponent s
  pure (sign ++ integer ++ fraction ++ exponent, s)

def readKeyword (word : List UInt8) (value : Value) : Reader Value := fun s =>
  if word.isPrefixOf s then some (value, s.drop word.length) else none

section Structure

variable {Item : Type}

/-- Items with a comma between two of them, from the first on to the closing byte. -/
def separated (close : UInt8) (item : Reader Item) (more : Reader (List Item)) :
    Reader (List Item) := fun s =>
  match item (skipBlanks s) with
  | none => none
  | some (first, s) =>
      match skipBlanks s with
      | [] => none
      | next :: rest =>
          if next = close then some ([first], rest)
          else if next = 44 then (more rest).map fun (later, rest) => (first :: later, rest)
          else none

/-- The inside of brackets or braces, which may be empty. -/
def enclosed (close : UInt8) (inside : Reader (List Item)) : Reader (List Item) := fun s =>
  match skipBlanks s with
  | [] => none
  | next :: rest => if next = close then some ([], rest) else inside (next :: rest)

def member (value : Reader Value) : Reader (List UInt8 × Value) := fun s =>
  match readString s with
  | none => none
  | some (key, s) =>
      match skipBlanks s with
      | [] => none
      | next :: rest =>
          if next = 58 then (value (skipBlanks rest)).map fun (value, rest) => ((key, value), rest)
          else none

end Structure

/-- A value by its first byte, with readers for what stands inside it. -/
def valueBy (items : Reader (List Value)) (members : Reader (List (List UInt8 × Value))) :
    Reader Value := fun s =>
  match s with
  | [] => none
  | first :: rest =>
      if first = 34 then (readString s).map fun (bytes, rest) => (.string bytes, rest)
      else if first = 91 then (items rest).map fun (items, rest) => (.array items, rest)
      else if first = 123 then (members rest).map fun (members, rest) => (.object members, rest)
      else if first = 116 then readKeyword [116, 114, 117, 101] (.bool true) s
      else if first = 102 then readKeyword [102, 97, 108, 115, 101] (.bool false) s
      else if first = 110 then readKeyword [110, 117, 108, 108] .null s
      else (readNumber s).map fun (text, rest) => (.number text, rest)

mutual

/-- The value at the front of a text; `fuel` bounds its nesting and the number
of items in it. -/
def readValue : Nat → Reader Value
  | 0 => fun _ => none
  | fuel + 1 => valueBy (enclosed 93 (readItems fuel)) (enclosed 125 (readMembers fuel))

def readItems : Nat → Reader (List Value)
  | 0 => fun _ => none
  | fuel + 1 => separated 93 (readValue fuel) (readItems fuel)

def readMembers : Nat → Reader (List (List UInt8 × Value))
  | 0 => fun _ => none
  | fuel + 1 => separated 125 (member (readValue fuel)) (readMembers fuel)

end

/-- What one reader takes the other takes as well. -/
def Extends {Result : Type} (reader larger : Reader Result) : Prop :=
  ∀ s result, reader s = some result → larger s = some result

theorem map_extends {One Other : Type} (convert : One → Other) (small large : Option One)
    (result : Other) (larger : ∀ one, small = some one → large = some one)
    (read : small.map convert = some result) : large.map convert = some result := by
  obtain ⟨one, found, same⟩ := Option.map_eq_some_iff.mp read
  rw [larger one found, Option.map_some, same]

section Extends

variable {Item : Type}

theorem separated_extends (close : UInt8) (item item' : Reader Item)
    (more more' : Reader (List Item)) (one : Extends item item') (many : Extends more more') :
    Extends (separated close item more) (separated close item' more') := by
  intro s result read
  unfold separated at read ⊢
  cases found : item (skipBlanks s) with
  | none => simp [found] at read
  | some inner =>
      rw [found] at read
      rw [one _ _ found]
      simp only at read ⊢
      split at read
      · cases read
      · split at read
        · next closes => simpa [closes] using read
        · next goesOn =>
            split at read
            · next comma =>
                rw [if_neg goesOn, if_pos comma]
                exact map_extends _ _ _ result (many _) read
            · cases read

theorem enclosed_extends (close : UInt8) (inside inside' : Reader (List Item))
    (larger : Extends inside inside') :
    Extends (enclosed close inside) (enclosed close inside') := by
  intro s result read
  unfold enclosed at read ⊢
  split at read
  · cases read
  · split at read
    · next closes => simpa [closes] using read
    · next opens =>
        rw [if_neg opens]
        exact larger _ _ read

theorem member_extends (value value' : Reader Value) (larger : Extends value value') :
    Extends (member value) (member value') := by
  intro s result read
  unfold member at read ⊢
  cases key : readString s with
  | none => simp [key] at read
  | some inner =>
      rw [key] at read
      simp only at read ⊢
      split at read
      · cases read
      · split at read
        · next colon =>
            rw [if_pos colon]
            exact map_extends _ _ _ result (larger _) read
        · cases read

theorem valueBy_extends (items items' : Reader (List Value))
    (members members' : Reader (List (List UInt8 × Value))) (ofItems : Extends items items')
    (ofMembers : Extends members members') :
    Extends (valueBy items members) (valueBy items' members') := by
  intro s result read
  unfold valueBy at read ⊢
  cases s with
  | nil => cases read
  | cons first rest =>
      simp only at read ⊢
      split_ifs at read ⊢ <;> try exact read
      · exact map_extends _ _ _ result (ofItems _) read
      · exact map_extends _ _ _ result (ofMembers _) read

end Extends

/-- More fuel does not change what was read. -/
theorem read_extends (fuel : Nat) :
    Extends (readValue fuel) (readValue (fuel + 1)) ∧
      Extends (readItems fuel) (readItems (fuel + 1)) ∧
      Extends (readMembers fuel) (readMembers (fuel + 1)) := by
  induction fuel with
  | zero => refine ⟨?_, ?_, ?_⟩ <;> intro s result none <;> cases none
  | succ fuel ih =>
      obtain ⟨value, items, members⟩ := ih
      exact ⟨valueBy_extends _ _ _ _ (enclosed_extends _ _ _ items) (enclosed_extends _ _ _ members),
        separated_extends _ _ _ _ _ value items,
        separated_extends _ _ _ _ _ (member_extends _ _ value) members⟩

theorem readValue_le (fuel extra : Nat) :
    Extends (readValue fuel) (readValue (fuel + extra)) ∧
      Extends (readMembers fuel) (readMembers (fuel + extra)) := by
  induction extra with
  | zero => exact ⟨fun _ _ read => read, fun _ _ read => read⟩
  | succ extra ih =>
      obtain ⟨value, _, members⟩ := read_extends (fuel + extra)
      exact ⟨fun s result read => value s result (ih.1 s result read),
        fun s result read => members s result (ih.2 s result read)⟩

/-- With enough fuel the text reads as the value, with the rest left over. -/
def Reads (s : List UInt8) (value : Value) (rest : List UInt8) : Prop :=
  ∃ fuel, readValue fuel s = some (value, rest)

theorem reads_unique (s : List UInt8) (value other : Value) (rest left : List UInt8)
    (one : Reads s value rest) (two : Reads s other left) : value = other ∧ rest = left := by
  obtain ⟨fuel, one⟩ := one
  obtain ⟨more, two⟩ := two
  have first := (readValue_le fuel more).1 s _ one
  have second := (readValue_le more fuel).1 s _ two
  rw [Nat.add_comm more fuel, first] at second
  simpa using second

/-- The text is this value with nothing but blanks around it. -/
def Document (s : List UInt8) (value : Value) : Prop :=
  ∃ rest, Reads (skipBlanks s) value rest ∧ skipBlanks rest = []

theorem document_unique (s : List UInt8) (value other : Value) (one : Document s value)
    (two : Document s other) : value = other := by
  obtain ⟨rest, one, _⟩ := one
  obtain ⟨left, two, _⟩ := two
  exact (reads_unique _ value other rest left one two).1

/-- Every parser of the grammar recovers this value from the text. -/
def ParsesTo (s : List UInt8) (value : Value) : Prop :=
  Document s value ∧ ∀ other, Document s other → other = value

/-- One member of the object has this name, and this is its value. -/
def Only (members : List (List UInt8 × Value)) (key : List UInt8) (value : Value) : Prop :=
  members.filter (·.1 == key) = [(key, value)]

/-- The members that are strings, in their order. -/
def strings (members : List (List UInt8 × Value)) : List (List UInt8 × List UInt8) :=
  members.filterMap fun (key, value) =>
    match value with
    | .string bytes => some (key, bytes)
    | _ => none

theorem skipBlanks_of_head (first : UInt8) (rest : List UInt8) (solid : isBlank first = false) :
    skipBlanks (first :: rest) = first :: rest := by
  simp [skipBlanks, solid]

/-- A value begins with no blank. -/
theorem reads_solid (s : List UInt8) (value : Value) (rest : List UInt8)
    (read : Reads s value rest) : skipBlanks s = s := by
  obtain ⟨fuel, read⟩ := read
  cases fuel with
  | zero => cases read
  | succ fuel =>
      cases s with
      | nil => rfl
      | cons first tail =>
          apply skipBlanks_of_head
          -- On a blank the reader goes to a number, which has no digit there.
          by_contra blank
          simp only [isBlank, Bool.not_eq_false, Bool.or_eq_true, beq_iff_eq, or_assoc] at blank
          rcases blank with rfl | rfl | rfl | rfl <;>
            simp [readValue, valueBy, readNumber, readSign, readInteger, readDigits, isDigit] at read

end RyzenBuild.Json
