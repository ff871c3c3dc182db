import RyzenBuild.Lib.Json

/-!
What is read does not depend on what stands behind it. A number may go on, so
it has to be followed by something; a string, an array or an object closes
itself. So no object text is the beginning of a longer one.
-/
namespace RyzenBuild.Json

open Digits

/-- More text behind what was read is left over as well. -/
def Closed {Result : Type} (reader : Reader Result) : Prop :=
  ∀ s result rest, reader s = some (result, rest) →
    ∀ more, reader (s ++ more) = some (result, rest ++ more)

/-- The same where the reader stopped before the end of the text. -/
def Stops {Result : Type} (reader : Reader Result) : Prop :=
  ∀ s result rest, reader s = some (result, rest) → rest ≠ [] →
    ∀ more, reader (s ++ more) = some (result, rest ++ more)

/-- A result that is only converted leaves the same text behind. -/
theorem map_append {One Other : Type} (convert : One → Other) (reader : Reader One)
    (s more rest : List UInt8) (result : Other)
    (read : (reader s).map (fun (one, rest) => (convert one, rest)) = some (result, rest))
    (kept : ∀ one, reader s = some (one, rest) → reader (s ++ more) = some (one, rest ++ more)) :
    (reader (s ++ more)).map (fun (one, rest) => (convert one, rest)) =
      some (result, rest ++ more) := by
  obtain ⟨⟨one, left⟩, found, same⟩ := Option.map_eq_some_iff.mp read
  cases same
  rw [kept one found]
  rfl

theorem skipBlanks_append (s more : List UInt8) (solid : skipBlanks s ≠ []) :
    skipBlanks (s ++ more) = skipBlanks s ++ more := by
  simp only [skipBlanks] at solid ⊢
  simp [List.dropWhile_append, solid]

section Strings

theorem pieces_closed : Closed pieces := by
  intro s inside rest
  -- One case for each piece that can be read; in the others nothing is read.
  fun_induction pieces s generalizing inside rest with
  | case2 tail =>
      rintro ⟨⟩ more
      simp
  | case4 a b c d tail unit later left found units _ ih =>
      rintro ⟨⟩ more
      have longer := ih later left found more
      simp only [List.cons_append, pieces_unit _ a b c d unit units, longer, Option.map_some]
  | case7 mark tail unicode byte later left found short _ ih =>
      rintro ⟨⟩ more
      have longer := ih later left found more
      simp only [List.cons_append, pieces_short _ mark byte unicode short, longer,
        Option.map_some]
  | case10 byte tail quote backslash printable later left found ih =>
      rintro ⟨⟩ more
      have longer := ih later left found more
      simp only [List.cons_append, pieces_raw _ byte printable quote backslash, longer,
        Option.map_some]
  | _ => rintro ⟨⟩

theorem readString_closed : Closed readString := by
  intro s bytes rest read more
  cases s with
  | nil => cases read
  | cons first tail =>
      simp only [readString, List.cons_append] at read ⊢
      split at read
      · next quote =>
          rw [if_pos quote]
          exact map_append decode pieces tail more rest bytes read fun inside found =>
            pieces_closed tail inside rest found more
      · cases read

end Strings

section Numbers

theorem takeWhile_stops (p : UInt8 → Bool) (s more : List UInt8) (stopped : s.dropWhile p ≠ []) :
    (s ++ more).takeWhile p = s.takeWhile p := by
  have short : (s.takeWhile p).length ≠ s.length := by
    intro same
    have all : s.takeWhile p = s := (List.takeWhile_prefix p).eq_of_length same
    exact stopped (List.dropWhile_eq_nil_iff.mpr (List.takeWhile_eq_self_iff.mp all))
  rw [List.takeWhile_append, if_neg short]

theorem readDigits_stops : Stops readDigits := by
  intro s digits rest read stopped more
  simp only [readDigits] at read ⊢
  split at read
  · cases read
  · next some =>
      simp only [Option.some.injEq, Prod.mk.injEq] at read
      obtain ⟨rfl, rfl⟩ := read
      have dropped : (s ++ more).dropWhile isDigit = s.dropWhile isDigit ++ more := by
        simp [List.dropWhile_append, stopped]
      rw [takeWhile_stops isDigit s more stopped, dropped, if_neg some]

theorem readInteger_stops : Stops readInteger := by
  intro s digits rest read stopped more
  cases s with
  | nil => cases read
  | cons first tail =>
      simp only [readInteger, List.cons_append] at read ⊢
      split at read
      · next zero =>
          simp only [Option.some.injEq, Prod.mk.injEq] at read
          obtain ⟨rfl, rfl⟩ := read
          rw [if_pos zero]
      · next leading =>
          rw [if_neg leading]
          exact readDigits_stops (first :: tail) digits rest read stopped more

theorem readFraction_stops : Stops readFraction := by
  intro s fraction rest read stopped more
  cases s with
  | nil =>
      cases read
      exact absurd rfl stopped
  | cons first tail =>
      by_cases point : first = 46
      · simp only [readFraction, List.cons_append, List.head?_cons, List.tail_cons, point,
          if_true] at read ⊢
        exact map_append (46 :: ·) readDigits tail more rest fraction read fun digits found =>
          readDigits_stops tail digits rest found stopped more
      · simp only [readFraction, List.cons_append, List.head?_cons, Option.some.injEq, point,
          if_false] at read ⊢
        cases read
        rfl

theorem readExponent_stops : Stops readExponent := by
  intro s exponent rest read stopped more
  cases s with
  | nil =>
      cases read
      exact absurd rfl stopped
  | cons mark tail =>
      simp only [readExponent, List.cons_append] at read ⊢
      split at read
      · next letter =>
          obtain ⟨⟨digits, left⟩, found, same⟩ := Option.map_eq_some_iff.mp read
          cases same
          cases tail with
          | nil => simp [readDigits] at found
          | cons sign tail =>
              rw [if_pos letter]
              by_cases signed : sign = 43 ∨ sign = 45
              · simp only [List.cons_append, List.head?_cons, Option.some.injEq, signed, if_true,
                  List.take_succ_cons, List.take_zero, List.length_cons, List.length_nil,
                  Nat.zero_add, List.drop_succ_cons, List.drop_zero] at found ⊢
                rw [readDigits_stops tail digits left found stopped more]
                rfl
              · simp only [List.head?_cons, Option.some.injEq, signed, if_false, List.length_nil,
                  List.drop_zero] at found
                simp only [List.cons_append, List.head?_cons, Option.some.injEq, signed, if_false,
                  List.length_nil, List.drop_zero]
                rw [← List.cons_append, readDigits_stops _ digits left found stopped more]
                rfl
      · next other =>
          cases read
          rw [if_neg other]
          rfl

theorem readSign_append (s more : List UInt8) (some : s ≠ []) :
    readSign (s ++ more) = ((readSign s).1, (readSign s).2 ++ more) := by
  cases s with
  | nil => exact absurd rfl some
  | cons first tail =>
      by_cases minus : first = 45 <;> simp [readSign, minus]

theorem readNumber_stops : Stops readNumber := by
  intro s number rest read stopped more
  unfold readNumber at read ⊢
  simp only [Option.bind_eq_bind, Option.bind_eq_some_iff, Option.pure_def] at read
  obtain ⟨⟨integer, afterInteger⟩, integerRead, ⟨fraction, afterFraction⟩, fractionRead,
    ⟨exponent, left⟩, exponentRead, same⟩ := read
  cases same
  -- What comes before something left over is not at the end of the text either.
  have beforeExponent : afterFraction ≠ [] := by
    rintro rfl
    cases exponentRead
    exact stopped rfl
  have beforeFraction : afterInteger ≠ [] := by
    rintro rfl
    cases fractionRead
    exact beforeExponent rfl
  have solid : s ≠ [] := by
    rintro rfl
    cases integerRead
  rw [readSign_append s more solid]
  simp only [Option.bind_eq_bind, Option.pure_def,
    readInteger_stops _ _ _ integerRead beforeFraction more,
    readFraction_stops _ _ _ fractionRead beforeExponent more,
    readExponent_stops _ _ _ exponentRead stopped more, Option.bind_some]

end Numbers

section Structure

variable {Item : Type}

theorem readKeyword_closed (word : List UInt8) (value : Value) :
    Closed (readKeyword word value) := by
  intro s result rest read more
  simp only [readKeyword] at read ⊢
  split at read
  · next begins =>
      cases read
      obtain ⟨tail, rfl⟩ := List.isPrefixOf_iff_prefix.mp begins
      simp
  · cases read

theorem separated_closed (close : UInt8) (item : Reader Item) (later : Reader (List Item))
    (nothing : item [] = none) (one : Stops item) (many : Closed later) :
    Closed (separated close item later) := by
  intro s result rest read more
  unfold separated at read ⊢
  cases found : item (skipBlanks s) with
  | none => simp [found] at read
  | some inner =>
      obtain ⟨first, left⟩ := inner
      rw [found] at read
      simp only at read
      have solid : skipBlanks s ≠ [] := by
        intro blank
        rw [blank, nothing] at found
        cases found
      cases tail : skipBlanks left with
      | nil => simp [tail] at read
      | cons next after =>
          have behind : skipBlanks left ≠ [] := by simp [tail]
          have stopped : left ≠ [] := by
            rintro rfl
            exact behind rfl
          rw [skipBlanks_append s more solid, one _ first left found stopped more]
          simp only [skipBlanks_append left more behind, tail, List.cons_append] at read ⊢
          split_ifs at read ⊢ with closes comma
          · cases read
            rfl
          · exact map_append (first :: ·) later after more rest result read fun items inside =>
              many after items rest inside more

theorem enclosed_closed (close : UInt8) (inside : Reader (List Item)) (closed : Closed inside) :
    Closed (enclosed close inside) := by
  intro s result rest read more
  unfold enclosed at read ⊢
  cases opens : skipBlanks s with
  | nil => simp [opens] at read
  | cons next after =>
      have solid : skipBlanks s ≠ [] := by simp [opens]
      rw [skipBlanks_append s more solid]
      simp only [opens, List.cons_append] at read ⊢
      split_ifs at read ⊢ with closes
      · cases read
        rfl
      · exact closed (next :: after) result rest read more

theorem member_stops (value : Reader Value) (nothing : value [] = none) (stops : Stops value) :
    Stops (member value) := by
  intro s result rest read stopped more
  unfold member at read ⊢
  cases key : readString s with
  | none => simp [key] at read
  | some inner =>
      obtain ⟨bytes, left⟩ := inner
      rw [key] at read
      simp only at read
      rw [readString_closed s bytes left key more]
      cases tail : skipBlanks left with
      | nil => simp [tail] at read
      | cons next after =>
          have behind : skipBlanks left ≠ [] := by simp [tail]
          simp only [skipBlanks_append left more behind, tail, List.cons_append] at read ⊢
          split_ifs at read ⊢ with colon
          obtain ⟨⟨found, last⟩, inside, same⟩ := Option.map_eq_some_iff.mp read
          cases same
          have solid : skipBlanks after ≠ [] := by
            intro blank
            rw [blank, nothing] at inside
            cases inside
          rw [skipBlanks_append after more solid, stops _ found last inside stopped more]
          rfl

end Structure

def isObject : Value → Bool
  | .object _ => true
  | _ => false

theorem valueBy_append (items : Reader (List Value))
    (members : Reader (List (List UInt8 × Value))) (ofItems : Closed items)
    (ofMembers : Closed members) (s : List UInt8) (value : Value) (rest : List UInt8)
    (read : valueBy items members s = some (value, rest))
    (ends : rest ≠ [] ∨ isObject value = true) (more : List UInt8) :
    valueBy items members (s ++ more) = some (value, rest ++ more) := by
  unfold valueBy at read ⊢
  cases s with
  | nil => cases read
  | cons first tail =>
      simp only [List.cons_append] at read ⊢
      rw [← List.cons_append]
      split_ifs at read ⊢
      · exact map_append Value.string readString _ more rest value read fun bytes found =>
          readString_closed _ bytes rest found more
      · exact map_append Value.array items tail more rest value read fun inside found =>
          ofItems tail inside rest found more
      · exact map_append Value.object members tail more rest value read fun inside found =>
          ofMembers tail inside rest found more
      · exact readKeyword_closed _ _ _ value rest read more
      · exact readKeyword_closed _ _ _ value rest read more
      · exact readKeyword_closed _ _ _ value rest read more
      · obtain ⟨number, rfl⟩ : ∃ number, value = .number number := by
          obtain ⟨found, _, same⟩ := Option.map_eq_some_iff.mp read
          cases same
          exact ⟨_, rfl⟩
        have stopped : rest ≠ [] := by simpa [isObject] using ends
        exact map_append Value.number readNumber _ more rest _ read fun number found =>
          readNumber_stops _ number rest found stopped more

theorem readValue_nil (fuel : Nat) : readValue fuel [] = none := by cases fuel <;> rfl

theorem read_closed (fuel : Nat) :
    Stops (readValue fuel) ∧ Closed (readItems fuel) ∧ Closed (readMembers fuel) := by
  induction fuel with
  | zero => refine ⟨?_, ?_, ?_⟩ <;> intro s result rest none <;> cases none
  | succ fuel ih =>
      obtain ⟨value, items, members⟩ := ih
      refine ⟨fun s result rest read stopped => ?_, ?_, ?_⟩
      · exact valueBy_append _ _ (enclosed_closed 93 _ items) (enclosed_closed 125 _ members)
          s result rest read (.inl stopped)
      · exact separated_closed 93 _ _ (readValue_nil fuel) value items
      · exact separated_closed 125 _ _ rfl (member_stops _ (readValue_nil fuel) value) members

/-- An object closes itself: what stands behind it does not change it. -/
theorem reads_object_append (s : List UInt8) (members : List (List UInt8 × Value))
    (rest more : List UInt8) (read : Reads s (.object members) rest) :
    Reads (s ++ more) (.object members) (rest ++ more) := by
  obtain ⟨fuel, read⟩ := read
  cases fuel with
  | zero => cases read
  | succ fuel =>
      obtain ⟨_, items, inside⟩ := read_closed fuel
      exact ⟨fuel + 1, valueBy_append _ _ (enclosed_closed 93 _ items)
        (enclosed_closed 125 _ inside) s _ rest read (.inr rfl) more⟩

end RyzenBuild.Json
