import RyzenBuild.Lib.Labelled
import RyzenBuild.DawnHex.EventRing

/-!
The texts of the event ring as a reader takes them apart. A notice is an event
that tells of a change of the tables or of the settings; every other text, a
`snapshot` or a `help`, is none.
-/
namespace RyzenBuild.DawnHex

open Kernel Digits Labelled

inductive Notice where
  | added (id : UInt32) (name : List UInt8)
  | deleted (id : UInt32)
  | linked (a b : UInt32)
  | unlinked (a b : UInt32)
  | onlineSet (id : UInt32) (value : Bool)
  | energySet (id value : UInt32)
  | healthSet (id value : UInt32)
  | ticked (id energy health links : UInt32)
  | interactiveSet (value : Bool)
  | tickMsSet (value : UInt32)
  | duoAdded (pair a b mode : UInt32)
  | duoDeleted (pair : UInt32)
  | duoPulsed (pair value energy pressure : UInt32)
  deriving DecidableEq, Repr

/-- The labelled numbers a notice begins with. -/
def Notice.fields : Notice → List Field
  | .added id _ => [(text "add id=", id.toNat)]
  | .deleted id => [(text "del id=", id.toNat)]
  | .linked a b => [(text "link a=", a.toNat), (text " b=", b.toNat)]
  | .unlinked a b => [(text "unlink a=", a.toNat), (text " b=", b.toNat)]
  | .onlineSet id value => [(text "online id=", id.toNat), (text " value=", value.toNat)]
  | .energySet id value => [(text "energy id=", id.toNat), (text " value=", value.toNat)]
  | .healthSet id value => [(text "health id=", id.toNat), (text " value=", value.toNat)]
  | .ticked id energy health links =>
      [(text "tick id=", id.toNat), (text " energy=", energy.toNat),
        (text " health=", health.toNat), (text " links=", links.toNat)]
  | .interactiveSet value => [(text "interactive value=", value.toNat)]
  | .tickMsSet value => [(text "tick_ms value=", value.toNat)]
  | .duoAdded pair a b mode =>
      [(text "duo_add pair=", pair.toNat), (text " a=", a.toNat), (text " b=", b.toNat),
        (text " mode=", mode.toNat)]
  | .duoDeleted pair => [(text "duo_del pair=", pair.toNat)]
  | .duoPulsed pair value energy pressure =>
      [(text "duo_pulse pair=", pair.toNat), (text " value=", value.toNat),
        (text " energy=", energy.toNat), (text " pressure=", pressure.toNat)]

/-- What stands behind the numbers. -/
def Notice.tail : Notice → List UInt8
  | .added _ name => text " name=" ++ name
  | _ => []

def Notice.line (notice : Notice) : List UInt8 := write notice.fields ++ notice.tail

/-- A line of numbers: the labels, the first of which tells the formats apart,
and the notice that the numbers make. -/
structure Format where
  verb : String
  labels : List String
  notice : List UInt32 → Option Notice

def Format.foreign (format : Format) (line : List UInt8) : Bool :=
  !(text format.verb).isPrefixOf line

/-- Nothing may stand behind the last number. -/
def Format.read (format : Format) (line : List UInt8) : Option Notice :=
  match Labelled.read ((format.verb :: format.labels).map text) line with
  | some (values, []) => format.notice (values.map UInt32.ofNat)
  | _ => none

def formats : List Format :=
  [⟨"del id=", [], fun | [id] => some (.deleted id) | _ => none⟩,
    ⟨"link a=", [" b="], fun | [a, b] => some (.linked a b) | _ => none⟩,
    ⟨"unlink a=", [" b="], fun | [a, b] => some (.unlinked a b) | _ => none⟩,
    ⟨"online id=", [" value="],
      fun | [id, value] => some (.onlineSet id (value != 0)) | _ => none⟩,
    ⟨"energy id=", [" value="], fun | [id, value] => some (.energySet id value) | _ => none⟩,
    ⟨"health id=", [" value="], fun | [id, value] => some (.healthSet id value) | _ => none⟩,
    ⟨"tick id=", [" energy=", " health=", " links="],
      fun | [id, energy, health, links] => some (.ticked id energy health links) | _ => none⟩,
    ⟨"interactive value=", [], fun | [value] => some (.interactiveSet (value != 0)) | _ => none⟩,
    ⟨"tick_ms value=", [], fun | [value] => some (.tickMsSet value) | _ => none⟩,
    ⟨"duo_add pair=", [" a=", " b=", " mode="],
      fun | [pair, a, b, mode] => some (.duoAdded pair a b mode) | _ => none⟩,
    ⟨"duo_del pair=", [], fun | [pair] => some (.duoDeleted pair) | _ => none⟩,
    ⟨"duo_pulse pair=", [" value=", " energy=", " pressure="],
      fun
      | [pair, value, energy, pressure] => some (.duoPulsed pair value energy pressure)
      | _ => none⟩]

def readAdded (line : List UInt8) : Option Notice :=
  match read [text "add id="] line with
  | some ([id], rest) => (rest.dropPrefix? (text " name=")).map (.added (UInt32.ofNat id))
  | _ => none

def decode (line : List UInt8) : Option Notice :=
  match formats.findSome? fun format => format.read line with
  | some notice => some notice
  | none => readAdded line

theorem decimal_numeral (n : Nat) : decimal n = numeral n := by
  simp only [decimal, numeral, text, ToString.toString, Nat.repr, String.toList_ofList]
  rfl

@[simp] theorem field_numeral (label : String) (value : Nat) :
    field label value = text label ++ numeral value := by
  rw [field, decimal_numeral]

theorem fields_parting (notice : Notice) : ∀ field ∈ notice.fields, Parting field.1 := by
  cases notice <;> simp only [Notice.fields, List.mem_cons, List.not_mem_nil, or_false,
    forall_eq_or_imp, forall_eq] <;> decide +kernel

theorem tail_ends (notice : Notice) : Scan.EndsDigits notice.tail := by
  cases notice with
  | added id name => exact Scan.endsDigits_blank _
  | _ => exact Scan.endsDigits_nil

theorem read_line (notice : Notice) :
    read (notice.fields.map (·.1)) notice.line =
      some (notice.fields.map (·.2), notice.tail) :=
  read_write notice.fields notice.tail (fields_parting notice) (tail_ends notice)

theorem foreign_unread (format : Format) (line : List UInt8)
    (foreign : format.foreign line = true) : format.read line = none := by
  have other : (text format.verb).isPrefixOf line = false := by
    simpa [Format.foreign] using foreign
  rw [Format.read, List.map_cons, read_other (text format.verb) line _ other]

theorem foreign_all (table : List Format) (line : List UInt8)
    (foreign : (table.all fun format => format.foreign line) = true) :
    (table.findSome? fun format => format.read line) = none := by
  rw [List.findSome?_eq_none_iff]
  intro format member
  exact foreign_unread format line (List.all_eq_true.mp foreign format member)

/-- The formats in front are foreign to the line, so the one of this index decides. -/
theorem decode_at (k : Nat) (format : Format) (notice : Notice)
    (there : formats = formats.take k ++ format :: formats.drop (k + 1))
    (foreign : ((formats.take k).all fun format => format.foreign notice.line) = true)
    (bare : notice.tail = [])
    (labels : (format.verb :: format.labels).map text = notice.fields.map (·.1))
    (made : format.notice ((notice.fields.map (·.2)).map UInt32.ofNat) = some notice) :
    decode notice.line = some notice := by
  have here : format.read notice.line = some notice := by
    rw [Format.read, labels, read_line notice, bare]
    exact made
  rw [decode, there, List.findSome?_append, foreign_all _ notice.line foreign]
  simp only [Option.none_or, List.findSome?_cons, here]

theorem decode_foreign (line : List UInt8)
    (foreign : (formats.all fun format => format.foreign line) = true) :
    decode line = readAdded line := by
  rw [decode, foreign_all formats line foreign]

/-- A text of another kind is no notice. -/
theorem decode_none (line : List UInt8)
    (foreign : (formats.all fun format => format.foreign line) = true)
    (unnamed : (text "add id=").isPrefixOf line = false) : decode line = none := by
  rw [decode_foreign line foreign, readAdded, read_other _ line [] unnamed]

theorem truth_toNat (value : Bool) : (UInt32.ofNat value.toNat != 0) = value := by
  cases value <;> rfl

/-- A notice is read back from its line. -/
theorem decode_line (notice : Notice) : decode notice.line = some notice := by
  cases notice with
  | added id name =>
      have found : read [text "add id="] (Notice.added id name).line =
          some ([id.toNat], text " name=" ++ name) := read_line (.added id name)
      have behind : (text " name=" ++ name).dropPrefix? (text " name=") = some name :=
        List.dropPrefix?_eq_some_iff.mpr ⟨_, rfl, BEq.rfl⟩
      rw [decode_foreign _ rfl, readAdded, found]
      simp only [behind, Option.map_some, UInt32.ofNat_toNat]
  | deleted id => exact decode_at 0 _ _ rfl rfl rfl rfl (by simp [Notice.fields])
  | linked a b => exact decode_at 1 _ _ rfl rfl rfl rfl (by simp [Notice.fields])
  | unlinked a b => exact decode_at 2 _ _ rfl rfl rfl rfl (by simp [Notice.fields])
  | onlineSet id value =>
      exact decode_at 3 _ _ rfl rfl rfl rfl (by simp [Notice.fields, truth_toNat])
  | energySet id value => exact decode_at 4 _ _ rfl rfl rfl rfl (by simp [Notice.fields])
  | healthSet id value => exact decode_at 5 _ _ rfl rfl rfl rfl (by simp [Notice.fields])
  | ticked id energy health links =>
      exact decode_at 6 _ _ rfl rfl rfl rfl (by simp [Notice.fields])
  | interactiveSet value =>
      exact decode_at 7 _ _ rfl rfl rfl rfl (by simp [Notice.fields, truth_toNat])
  | tickMsSet value => exact decode_at 8 _ _ rfl rfl rfl rfl (by simp [Notice.fields])
  | duoAdded pair a b mode => exact decode_at 9 _ _ rfl rfl rfl rfl (by simp [Notice.fields])
  | duoDeleted pair => exact decode_at 10 _ _ rfl rfl rfl rfl (by simp [Notice.fields])
  | duoPulsed pair value energy pressure =>
      exact decode_at 11 _ _ rfl rfl rfl rfl (by simp [Notice.fields])

section Stored

/-- A text without NUL that leaves room for the terminator is kept as it is. -/
theorem stored_whole (line : List UInt8) (fits : line.length ≤ 159) (clean : 0 ∉ line) :
    stored line = line := by
  rw [stored, dawnhexEventLen, List.take_of_length_le fits, strscpy, cString_clean line clean,
    List.take_of_length_le fits]

/-- The front of a text is kept, whatever becomes of the rest. -/
theorem stored_front (front back : List UInt8) (fits : front.length ≤ 159) (clean : 0 ∉ front) :
    ∃ rest, stored (front ++ back) = front ++ rest := by
  have solid : ∀ byte ∈ front, decide (byte ≠ 0) = true := by
    intro byte member
    simpa using fun zero : byte = 0 => clean (zero ▸ member)
  rw [stored, dawnhexEventLen, strscpy, List.take_append, List.take_of_length_le fits, cString,
    List.takeWhile_append_of_pos solid, List.take_append, List.take_of_length_le fits]
  exact ⟨_, rfl⟩

/-- The name of an added node comes out of a name field. -/
def Notice.Named : Notice → Prop
  | .added _ name => name.length ≤ 31 ∧ 0 ∉ name
  | _ => True

theorem fields_small (notice : Notice) : ∀ field ∈ notice.fields, field.2 < 10 ^ 10 := by
  have word (n : UInt32) : n.toNat < 10 ^ 10 := Nat.lt_of_lt_of_le n.toNat_lt (by decide)
  have flag (b : Bool) : b.toNat < 10 ^ 10 := Nat.lt_of_le_of_lt b.toNat_le (by decide)
  cases notice <;> simp only [Notice.fields, List.mem_cons, List.not_mem_nil, or_false,
    forall_eq_or_imp, forall_eq, word, flag, and_self]

theorem fields_clean (notice : Notice) : ∀ field ∈ notice.fields, 0 ∉ field.1 := by
  cases notice <;> simp only [Notice.fields, List.mem_cons, List.not_mem_nil, or_false,
    forall_eq_or_imp, forall_eq] <;> decide +kernel

theorem fields_length (notice : Notice) :
    (notice.fields.map fun field => field.1.length + 10).sum ≤ 81 := by
  cases notice <;> simp only [Notice.fields, List.map_cons, List.map_nil, List.sum_cons,
    List.sum_nil] <;> decide

/-- The slot of a notice has room for all of it. -/
theorem stored_line (notice : Notice) (named : notice.Named) :
    stored notice.line = notice.line := by
  have numbers := write_length notice.fields 10 (by decide) (fields_small notice)
  have short := fields_length notice
  apply stored_whole
  · rw [Notice.line, List.length_append]
    have tail : notice.tail.length ≤ 37 := by
      cases notice with
      | added id name =>
          have fits : name.length ≤ 31 := named.1
          simp only [Notice.tail, List.length_append]
          exact Nat.add_le_add (by decide : (text " name=").length ≤ 6) fits
      | _ => exact Nat.zero_le 37
    omega
  · intro zero
    rcases List.mem_append.mp zero with inside | behind
    · exact write_clean notice.fields (fields_clean notice) inside
    · cases notice with
      | added id name =>
          rcases List.mem_append.mp behind with label | letter
          · exact absurd label (by decide)
          · exact named.2 letter
      | _ => cases behind

end Stored

end RyzenBuild.DawnHex
