import RyzenBuild.Kernel
import RyzenBuild.Lib.JsonText

/-!
The extractors `poll_task` reads a response with. They search for a byte string
and copy what stands behind it; what they find depends on how the JSON text is
written.
-/
namespace RyzenBuild.Runway

open Kernel Json

/-- The copying loop, `j` bytes into the array: up to a quote or the end, without
the backslash in front of a byte, and no further than the array goes. -/
def copyUnescaped (outSz : Nat) : Nat → List UInt8 → List UInt8
  | _, [] => []
  | j, c :: rest =>
      if c = 34 ∨ ¬j + 1 < outSz then []
      else if c = 92 then
        match rest with
        | [] => [c]
        | next :: rest => next :: copyUnescaped outSz (j + 1) rest
      else c :: copyUnescaped outSz (j + 1) rest

/-- The result, and the string in `out` if the call got as far as writing it. -/
def extractJsonStringField (json field : List UInt8) (outSz : Nat) : Int × Option (List UInt8) :=
  let needle := (text "\"" ++ field ++ text "\":\"").take 127
  match strstr needle (cString json) with
  | none => (-1, none)
  | some p =>
      let out := copyUnescaped outSz 0 (p.drop needle.length)
      (if out.length > 0 then 0 else -1, some out)

def extractJsonStatus (json : List UInt8) (outSz : Nat) : Int × Option (List UInt8) :=
  extractJsonStringField json (text "status") outSz

def extractJsonId (json : List UInt8) (outSz : Nat) : Int × Option (List UInt8) :=
  extractJsonStringField json (text "id") outSz

/-- `strchr`: the string from the first such byte on. -/
def strchr (c : UInt8) (s : List UInt8) : Option (List UInt8) :=
  match s.dropWhile (· ≠ c) with
  | [] => none
  | found => some found

def extractFirstOutputUrl (json : List UInt8) (outSz : Nat) : Int × Option (List UInt8) :=
  match strstr (text "\"output\":[") (cString json) with
  | none => (-1, none)
  | some p =>
      match strchr 34 p with
      | none => (-1, none)
      | some p =>
          let out := copyUnescaped outSz 0 p.tail
          (if out.length > 0 then 0 else -1, some out)

section Spelling

/-- The bytes of `u`, bare or each behind a backslash, and then `rest`. -/
inductive Spelled : List UInt8 → List UInt8 → List UInt8 → Prop
  | done (rest : List UInt8) : Spelled rest [] rest
  | bare (c : UInt8) (raw u rest : List UInt8) (quote : c ≠ 34) (backslash : c ≠ 92)
      (later : Spelled raw u rest) : Spelled (c :: raw) (c :: u) rest
  | marked (c : UInt8) (raw u rest : List UInt8) (later : Spelled raw u rest) :
      Spelled (92 :: c :: raw) (c :: u) rest
  | lone : Spelled [92] [92] []

/-- Where the copying stops. -/
def Stops (rest : List UInt8) (length outSz : Nat) : Prop :=
  rest = [] ∨ rest.head? = some 34 ∨ length + 1 = outSz

theorem spelled_copy (outSz j : Nat) (raw : List UInt8) (room : j < outSz) :
    ∃ rest, Spelled raw (copyUnescaped outSz j raw) rest ∧
      j + (copyUnescaped outSz j raw).length < outSz ∧
      Stops rest (j + (copyUnescaped outSz j raw).length) outSz := by
  fun_induction copyUnescaped outSz j raw with
  | case1 j => exact ⟨[], .done [], room, .inl rfl⟩
  | case2 j c rest stop =>
      refine ⟨c :: rest, .done _, room, ?_⟩
      rcases stop with quote | full
      · exact .inr (.inl (by rw [quote]; rfl))
      · exact .inr (.inr (by simp only [List.length_nil]; omega))
  | case3 j more =>
      rw [not_or, not_not] at more
      exact ⟨[], .lone, more.2, .inl rfl⟩
  | case4 j next rest more ih =>
      rw [not_or, not_not] at more
      obtain ⟨behind, spelled, inside, stops⟩ := ih more.2
      have count : j + (next :: copyUnescaped outSz (j + 1) rest).length =
          j + 1 + (copyUnescaped outSz (j + 1) rest).length := by
        rw [List.length_cons]
        omega
      rw [count]
      exact ⟨behind, .marked next rest _ behind spelled, inside, stops⟩
  | case5 j c rest more plain ih =>
      rw [not_or, not_not] at more
      obtain ⟨behind, spelled, inside, stops⟩ := ih more.2
      have count : j + (c :: copyUnescaped outSz (j + 1) rest).length =
          j + 1 + (copyUnescaped outSz (j + 1) rest).length := by
        rw [List.length_cons]
        omega
      rw [count]
      exact ⟨behind, .bare c rest _ behind more.1 plain spelled, inside, stops⟩

section Steps

variable (outSz j : Nat) (c : UInt8) (raw : List UInt8)

theorem copy_stop (ends : c = 34 ∨ ¬j + 1 < outSz) : copyUnescaped outSz j (c :: raw) = [] := by
  rw [copyUnescaped.eq_def]
  simp only [if_pos ends]

theorem goes_on (room : j + 1 < outSz) (quote : c ≠ 34) : ¬(c = 34 ∨ ¬j + 1 < outSz) := by
  rintro (same | full)
  · exact quote same
  · exact full room

theorem copy_bare (room : j + 1 < outSz) (quote : c ≠ 34) (backslash : c ≠ 92) :
    copyUnescaped outSz j (c :: raw) = c :: copyUnescaped outSz (j + 1) raw := by
  rw [copyUnescaped.eq_def]
  simp only [if_neg (goes_on outSz j c room quote), if_neg backslash]

theorem copy_marked (room : j + 1 < outSz) :
    copyUnescaped outSz j (92 :: c :: raw) = c :: copyUnescaped outSz (j + 1) raw := by
  rw [copyUnescaped.eq_def]
  simp only [if_neg (goes_on outSz j 92 room (by decide)), if_true]

theorem copy_lone (room : j + 1 < outSz) : copyUnescaped outSz j [92] = [92] := by
  rw [copyUnescaped.eq_def]
  simp only [if_neg (goes_on outSz j 92 room (by decide)), if_true]

/-- In front of a byte, stopping is a quote or a full array. -/
theorem stops_cons (stops : Stops (c :: raw) j outSz) : c = 34 ∨ ¬j + 1 < outSz := by
  rcases stops with nothing | quote | full
  · cases nothing
  · exact .inl (Option.some.inj quote)
  · exact .inr (by omega)

end Steps

/-- The loop gives back whatever is spelled out up to where it stops. -/
theorem copy_spelled (outSz j : Nat) (raw u rest : List UInt8) (spelled : Spelled raw u rest)
    (room : j + u.length < outSz) (stops : Stops rest (j + u.length) outSz) :
    copyUnescaped outSz j raw = u := by
  induction spelled generalizing j with
  | done rest =>
      cases rest with
      | nil => rfl
      | cons c rest => exact copy_stop outSz j c rest (stops_cons outSz j c rest stops)
  | bare c raw u rest quote backslash later ih =>
      have count : j + (c :: u).length = j + 1 + u.length := by
        rw [List.length_cons]
        omega
      rw [count] at room stops
      rw [copy_bare outSz j c raw (by omega) quote backslash, ih (j + 1) room stops]
  | marked c raw u rest later ih =>
      have count : j + (c :: u).length = j + 1 + u.length := by
        rw [List.length_cons]
        omega
      rw [count] at room stops
      rw [copy_marked outSz j c raw (by omega), ih (j + 1) room stops]
  | lone => exact copy_lone outSz j room

theorem copy_iff (outSz : Nat) (raw u : List UInt8) (room : u.length < outSz) :
    copyUnescaped outSz 0 raw = u ↔ ∃ rest, Spelled raw u rest ∧ Stops rest u.length outSz := by
  constructor
  · rintro rfl
    obtain ⟨rest, spelled, _, stops⟩ := spelled_copy outSz 0 raw (by omega)
    rw [Nat.zero_add] at stops
    exact ⟨rest, spelled, stops⟩
  · rintro ⟨rest, spelled, stops⟩
    apply copy_spelled outSz 0 raw u rest spelled
    · rwa [Nat.zero_add]
    · rwa [Nat.zero_add]

/-- Nothing is copied from a quote, from the end, or into an array without room. -/
theorem copy_nil_iff (outSz : Nat) (raw : List UInt8) :
    copyUnescaped outSz 0 raw = [] ↔ raw = [] ∨ raw.head? = some 34 ∨ outSz ≤ 1 := by
  cases raw with
  | nil => simp [copyUnescaped]
  | cons c rest =>
      have stop : (c :: rest = [] ∨ (c :: rest).head? = some 34 ∨ outSz ≤ 1) ↔
          c = 34 ∨ ¬0 + 1 < outSz := by
        simp
      rw [stop]
      constructor
      · intro empty
        apply Decidable.byContradiction
        intro more
        rw [copyUnescaped.eq_def] at empty
        simp only [if_neg more] at empty
        split at empty
        · split at empty <;> cases empty
        · cases empty
      · exact copy_stop outSz 0 c rest

end Spelling

section Field

/-- The byte string the search looks for. -/
def needle (field : List UInt8) : List UInt8 := (text "\"" ++ field ++ text "\":\"").take 127

/-- Behind the first occurrence of the needle the text spells `u`, bare or with a
backslash in front of a byte, up to a quote, the end, or the end of the array. -/
def SpelledBehind (needle s u : List UInt8) (outSz : Nat) : Prop :=
  ∃ before after rest, FirstAt needle s before after ∧ Spelled after u rest ∧
    Stops rest u.length outSz

/-- The needle does not occur, or behind its first occurrence nothing is spelled. -/
def NothingBehind (needle s : List UInt8) (outSz : Nat) : Prop :=
  (∀ before after, s ≠ before ++ (needle ++ after)) ∨
    ∃ before after, FirstAt needle s before after ∧
      (after = [] ∨ after.head? = some 34 ∨ outSz ≤ 1)

variable (json field : List UInt8) (outSz : Nat)

theorem field_missing (missing : strstr (needle field) (cString json) = none) :
    extractJsonStringField json field outSz = (-1, none) := by
  simp only [needle] at missing
  simp only [extractJsonStringField, missing]

theorem field_found (before after : List UInt8)
    (first : FirstAt (needle field) (cString json) before after) :
    extractJsonStringField json field outSz =
      (if (copyUnescaped outSz 0 after).length > 0 then 0 else -1,
        some (copyUnescaped outSz 0 after)) := by
  have found := strstr_first _ _ _ _ first
  simp only [needle] at found
  simp only [extractJsonStringField, found, List.drop_left]

theorem extracts_iff (u : List UInt8) (nonempty : u ≠ []) (room : u.length < outSz) :
    extractJsonStringField json field outSz = (0, some u) ↔
      SpelledBehind (needle field) (cString json) u outSz := by
  cases search : strstr (needle field) (cString json) with
  | none =>
      rw [field_missing json field outSz search]
      constructor
      · intro same
        cases same
      · rintro ⟨before, after, _, first, _⟩
        exact absurd first.split (strstr_none _ _ _ _ search)
  | some found =>
      obtain ⟨before, after, first, -⟩ := strstr_some _ _ _ search
      rw [field_found json field outSz before after first]
      constructor
      · intro same
        have copied : copyUnescaped outSz 0 after = u := Option.some.inj (congrArg Prod.snd same)
        obtain ⟨rest, spelled, stops⟩ := (copy_iff outSz after u room).mp copied
        exact ⟨before, after, rest, first, spelled, stops⟩
      · rintro ⟨before', after', rest, first', spelled, stops⟩
        rw [firstAt_unique _ _ _ _ _ _ first first',
          (copy_iff outSz after' u room).mpr ⟨rest, spelled, stops⟩,
          if_pos (List.length_pos_iff.mpr nonempty)]

theorem refuses_iff :
    (extractJsonStringField json field outSz).1 = -1 ↔
      NothingBehind (needle field) (cString json) outSz := by
  cases search : strstr (needle field) (cString json) with
  | none =>
      rw [field_missing json field outSz search]
      simp only [true_iff]
      exact .inl fun before after => strstr_none _ _ before after search
  | some found =>
      obtain ⟨before, after, first, -⟩ := strstr_some _ _ _ search
      rw [field_found json field outSz before after first]
      have refused : ((if (copyUnescaped outSz 0 after).length > 0 then 0 else -1 : Int) = -1) ↔
          copyUnescaped outSz 0 after = [] := by
        rw [← List.length_eq_zero_iff]
        split <;> omega
      rw [refused, copy_nil_iff]
      constructor
      · intro nothing
        exact .inr ⟨before, after, first, nothing⟩
      · rintro (absent | ⟨before', after', first', nothing⟩)
        · exact absurd first.split (absent before after)
        · rwa [firstAt_unique _ _ _ _ _ _ first first']

end Field

section Members

/-- For every text, and so for every document: a value is stored when it is
spelled out right behind the first needle, and the answer is a refusal when
nothing is. -/
theorem member_extraction_iff (s : List UInt8) (outSz : Nat) :
    (∀ u, u ≠ [] → u.length < outSz →
      (extractJsonId s outSz = (0, some u) ↔
        SpelledBehind (needle (text "id")) (cString s) u outSz)) ∧
    (∀ u, u ≠ [] → u.length < outSz →
      (extractJsonStatus s outSz = (0, some u) ↔
        SpelledBehind (needle (text "status")) (cString s) u outSz)) ∧
    ((extractJsonId s outSz).1 = -1 ↔ NothingBehind (needle (text "id")) (cString s) outSz) ∧
    ((extractJsonStatus s outSz).1 = -1 ↔
      NothingBehind (needle (text "status")) (cString s) outSz) :=
  ⟨fun u nonempty room => extracts_iff s (text "id") outSz u nonempty room,
    fun u nonempty room => extracts_iff s (text "status") outSz u nonempty room,
    refuses_iff s (text "id") outSz, refuses_iff s (text "status") outSz⟩

/-- The compact text of one member. -/
def compactId : List UInt8 := text "\x7b\"id\":\"abc\"\x7d"

/-- The member as it is written without blanks. -/
def idEntry : Entry :=
  Entry.plain (text "id") (by decide) (Written.plain (text "abc") (by decide))

theorem compactId_document : Document compactId (.object [(text "id", .string (text "abc"))]) :=
  (parsesTo_written (Written.object [idEntry])).1

/-- The same member with a blank behind the colon. -/
def spacedId : List UInt8 := text "\x7b\"id\": \"abc\"\x7d"

theorem document_spaced (entry : Entry) :
    Document (123 :: (entry.name ++ 58 :: 32 :: (entry.content.text ++ [125])))
      (.object [entry.member]) := by
  obtain ⟨name, opens⟩ := literal_opens entry.name entry.key entry.named
  have named := entry.named (58 :: 32 :: (entry.content.text ++ [125]))
  obtain ⟨fuel, read⟩ := entry.content.reads [125] (ends_of_head 125 [] (.inr rfl))
  have solid := reads_solid _ _ _ ⟨fuel, read⟩
  have blank : skipBlanks (32 :: (entry.content.text ++ [125])) = entry.content.text ++ [125] := by
    rw [skipBlanks, List.dropWhile_cons_of_pos (by decide)]
    exact solid
  refine ⟨[], ⟨fuel + 2, ?_⟩, rfl⟩
  rw [skipBlanks_of_head 123 _ (by decide)]
  rw [opens, List.cons_append] at named ⊢
  simp only [readValue, valueBy, enclosed, skipBlanks_of_head 34 _ (by decide), readMembers,
    separated, member, named, skipBlanks_of_head 58 _ (by decide), blank, read]
  rfl

theorem spacedId_document : Document spacedId (.object [(text "id", .string (text "abc"))]) :=
  document_spaced idEntry

/-- The member inside another object. -/
def nestedId : List UInt8 := text "\x7b\"task\":\x7b\"id\":\"abc\"\x7d\x7d"

theorem nestedId_document :
    Document nestedId (.object [(text "task", .object [(text "id", .string (text "abc"))])]) :=
  (parsesTo_written (Written.object
    [Entry.plain (text "task") (by decide) (Written.object [idEntry])])).1

theorem spelled_abc (s rest : List UInt8)
    (search : strstr (needle (text "id")) (cString s) =
      some (needle (text "id") ++ (text "abc" ++ 34 :: rest))) :
    SpelledBehind (needle (text "id")) (cString s) (text "abc") 128 := by
  obtain ⟨before, first⟩ := firstAt_of_strstr _ _ _ search
  refine ⟨before, _, 34 :: rest, first, ?_, .inr (.inl rfl)⟩
  exact .bare 97 _ _ _ (by decide) (by decide) (.bare 98 _ _ _ (by decide) (by decide)
    (.bare 99 _ _ _ (by decide) (by decide) (.done _)))

theorem member_extraction_compact :
    Document compactId (.object [(text "id", .string (text "abc"))]) ∧
      extractJsonId compactId 128 = (0, some (text "abc")) ∧
      (extractJsonStatus compactId 128).1 = -1 := by
  have exact := member_extraction_iff compactId 128
  refine ⟨compactId_document, ?_, ?_⟩
  · exact (exact.1 (text "abc") (by decide) (by decide)).mpr
      (spelled_abc compactId (text "\x7d") (by decide))
  · apply exact.2.2.2.mpr
    exact .inl fun before after => strstr_none _ _ before after (by decide)

/-- A blank behind the colon hides the member, and a member of a nested object
stands in for one that is absent. -/
theorem spaced_id_missed :
    (Document spacedId (.object [(text "id", .string (text "abc"))]) ∧
      extractJsonId spacedId 128 = (-1, none)) ∧
    (Document nestedId (.object [(text "task", .object [(text "id", .string (text "abc"))])]) ∧
      extractJsonId nestedId 128 = (0, some (text "abc"))) :=
  ⟨⟨spacedId_document, field_missing spacedId (text "id") 128 (by decide)⟩, nestedId_document,
    (extracts_iff nestedId (text "id") 128 (text "abc") (by decide) (by decide)).mpr
      (spelled_abc nestedId (text "\x7d\x7d") (by decide))⟩

end Members

section OutputUrl

/-- Plain bytes in front of a quote are copied as far as the array goes. -/
theorem copy_plain (outSz j : Nat) (bytes later : List UInt8) (plain : bytes.all isPlain = true) :
    copyUnescaped outSz j (bytes ++ 34 :: later) = bytes.take (outSz - 1 - j) := by
  induction bytes generalizing j with
  | nil =>
      rw [List.nil_append, copy_stop outSz j 34 later (.inl rfl), List.take_nil]
  | cons c bytes ih =>
      simp only [List.all_cons, Bool.and_eq_true, isPlain, bne_iff_ne] at plain
      obtain ⟨⟨⟨_, quote⟩, backslash⟩, tail⟩ := plain
      have tail : bytes.all isPlain = true := tail
      rw [List.cons_append]
      by_cases room : j + 1 < outSz
      · have left : outSz - 1 - j = outSz - 1 - (j + 1) + 1 := by omega
        rw [copy_bare outSz j c _ room quote backslash, ih (j + 1) tail, left, List.take_succ_cons]
      · have none : outSz - 1 - j = 0 := by omega
        rw [copy_stop outSz j c _ (.inr room), none, List.take_zero]

/-- The quote `strchr` finds is the one the match begins with, so the name of the
member is copied and not its value. -/
theorem extractFirstOutputUrl_eq (s : List UInt8) (outSz : Nat) (before after : List UInt8)
    (first : FirstAt (text "\"output\":[") (cString s) before after) :
    extractFirstOutputUrl s outSz =
      (if ((text "output").take (outSz - 1)).length > 0 then 0 else -1,
        some ((text "output").take (outSz - 1))) := by
  have found := strstr_first _ _ _ _ first
  have quote : strchr 34 (text "\"output\":[" ++ after) = some (text "\"output\":[" ++ after) := rfl
  have inside : (text "\"output\":[" ++ after).tail = text "output" ++ 34 :: (text ":[" ++ after) :=
    rfl
  have copied : copyUnescaped outSz 0 (text "output" ++ 34 :: (text ":[" ++ after)) =
      (text "output").take (outSz - 1) := copy_plain outSz 0 (text "output") _ (by decide)
  simp only [extractFirstOutputUrl, found, quote, inside, copied]

/-- The value of the output member is stored when it is the name of the member,
cut to the array. -/
theorem output_url_iff (s before u rest : List UInt8) (outSz : Nat)
    (first : FirstAt (text "\"output\":[") (cString s) before (34 :: (u ++ 34 :: rest)))
    (nonempty : u ≠ []) :
    extractFirstOutputUrl s outSz = (0, some u) ↔ u = (text "output").take (outSz - 1) := by
  rw [extractFirstOutputUrl_eq s outSz before _ first]
  constructor
  · intro same
    exact (Option.some.inj (congrArg Prod.snd same)).symm
  · intro same
    rw [← same, if_pos (List.length_pos_iff.mpr nonempty)]

/-- A response with this output and nothing else. -/
def outputResponse (u : List UInt8) : List UInt8 :=
  text "\x7b\"output\":[\"" ++ u ++ text "\"]\x7d"

theorem outputResponse_eq (u : List UInt8) :
    outputResponse u = 123 :: (text "\"output\":[" ++ (34 :: (u ++ 34 :: text "]\x7d"))) := rfl

theorem outputResponse_document (u : List UInt8) (plain : u.all isPlain = true) :
    Document (outputResponse u) (.object [(text "output", .array [.string u])]) := by
  have written := (parsesTo_written (Written.object [Entry.plain (text "output") (by decide)
    (Written.array [Written.plain u plain])])).1
  have name : text "\"output\":[" = 34 :: (text "output" ++ [34]) ++ [58, 91] := rfl
  have same : (Written.object [Entry.plain (text "output") (by decide)
      (Written.array [Written.plain u plain])]).text = outputResponse u := by
    rw [outputResponse_eq, name]
    simp [Written.object, joined, Entry.text, Entry.plain, Written.array, listed, Written.plain,
      Written.string]
    rfl
  rw [← same]
  exact written

theorem outputResponse_first (u : List UInt8) (clean : 0 ∉ u) :
    ∃ before, FirstAt (text "\"output\":[") (cString (outputResponse u)) before
      (34 :: (u ++ 34 :: text "]\x7d")) := by
  have whole : 0 ∉ outputResponse u := by
    have front : 0 ∉ text "\x7b\"output\":[\"" := by decide
    have back : 0 ∉ text "\"]\x7d" := by decide
    simp only [outputResponse, List.mem_append, front, clean, back, or_self, not_false_iff]
  rw [cString_clean _ whole]
  apply firstAt_of_strstr
  rfl

theorem output_url_of_output :
    Document (outputResponse (text "output"))
        (.object [(text "output", .array [.string (text "output")])]) ∧
      extractFirstOutputUrl (outputResponse (text "output")) 4096 = (0, some (text "output")) := by
  obtain ⟨before, first⟩ := outputResponse_first (text "output") (by decide)
  exact ⟨outputResponse_document (text "output") (by decide),
    (output_url_iff _ before (text "output") _ 4096 first (by decide)).mpr (by decide)⟩

/-- Instead of the address the name of the member is stored. -/
theorem output_url_wrong :
    Document (outputResponse (text "https:a"))
        (.object [(text "output", .array [.string (text "https:a")])]) ∧
      extractFirstOutputUrl (outputResponse (text "https:a")) 4096 = (0, some (text "output")) := by
  refine ⟨outputResponse_document _ (by decide), ?_⟩
  obtain ⟨before, first⟩ := outputResponse_first (text "https:a") (by decide)
  rw [extractFirstOutputUrl_eq _ 4096 before _ first]
  decide

end OutputUrl

end RyzenBuild.Runway
