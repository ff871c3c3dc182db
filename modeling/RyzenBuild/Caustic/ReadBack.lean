import RyzenBuild.Caustic.Payload
import RyzenBuild.Lib.JsonText

/-!
The payload is a JSON text unless an attribute, or the list of them, was empty
at the first call and has grown by the second. Each part of it is written as one
value of the grammar, the attributes by induction over their list; the reader
then gives back the strings that went in.
-/
namespace RyzenBuild.Caustic

open Kernel Digits Json

section Strings

theorem stands_control (byte : UInt8) (control : byte < 0x20) :
    Stands (text "\\u" ++ hex04 byte) byte := by
  have digits : ∀ n < 32, unitOf 48 48 (ofChar (Nat.digitChar (n / 16)))
      (ofChar (Nat.digitChar (n % 16))) = some n := by decide
  have below : byte.toNat < 32 := by simpa [UInt8.lt_iff_toNat_lt] using control
  have unit := stands_unit 48 48 (ofChar (Nat.digitChar (byte.toNat / 16)))
    (ofChar (Nat.digitChar (byte.toNat % 16))) byte.toNat (by omega) (digits _ below)
  rwa [UInt8.ofNat_toNat] at unit

/-- Whatever the byte is, its escape is read as this byte. -/
theorem stands_escaped (byte : UInt8) : Stands (escaped byte) byte := by
  unfold escaped
  split_ifs with quote backslash back feed line carriage tab control
  · rw [quote]; exact stands_short 34 34 (by decide) rfl
  · rw [backslash]; exact stands_short 92 92 (by decide) rfl
  · rw [back]; exact stands_short 98 8 (by decide) rfl
  · rw [feed]; exact stands_short 102 12 (by decide) rfl
  · rw [line]; exact stands_short 110 10 (by decide) rfl
  · rw [carriage]; exact stands_short 114 13 (by decide) rfl
  · rw [tab]; exact stands_short 116 9 (by decide) rfl
  · exact stands_control byte control
  · apply stands_plain
    simp [isPlain, quote, backslash, UInt8.not_lt.mp control]

/-- The literal `json_escape_append` writes for a C string. -/
def quoted (s : List UInt8) : List UInt8 := 34 :: ((cString s).flatMap escaped ++ [34])

theorem literal_quoted (s : List UInt8) : Literal (quoted s) (cString s) :=
  literal_escaped escaped (cString s) fun byte _ => stands_escaped byte

theorem data_escapedBytes (bytes : List UInt8) (sb : StrBuf) :
    (bytes.foldl (fun sb byte => sbAppendf sb (escaped byte)) sb).data =
      sb.data ++ bytes.flatMap escaped := by
  induction bytes generalizing sb with
  | nil => simp
  | cons byte bytes ih => simp [ih]

@[simp] theorem data_jsonEscapeAppend (sb : StrBuf) (s : List UInt8) :
    (jsonEscapeAppend sb s).data = sb.data ++ quoted s := by
  simp [jsonEscapeAppend, data_escapedBytes, quoted, text_quote]

end Strings

def quotedWritten (s : List UInt8) : Written := .string (quoted s) (cString s) (literal_quoted s)

section Calls

/-- Empty at the first call and not at the second, which then has no buffer and
answers the new size alone. -/
def Listing.Grown (listing : Listing) : Prop :=
  listing.probe = .ok 0 ∧ ∃ names, listing.names = .ok names ∧ names ≠ []

def ValueReading.Grown (reading : ValueReading) : Prop :=
  reading.probe = some 0 ∧ ∃ value, reading.value = some value ∧ value ≠ []

theorem fill_whole (asked : Nat) (present : List UInt8) (filled : Filled)
    (done : fill asked present = .ok filled) (kept : asked = 0 → present = []) :
    filled = ⟨asked, present, present.length⟩ ∧ present.length ≤ asked := by
  unfold fill at done
  split_ifs at done with none large
  · subst none
    rw [kept rfl] at done ⊢
    exact ⟨(Except.ok.inj done).symm, Nat.le_refl 0⟩
  · exact ⟨(Except.ok.inj done).symm, Nat.le_of_not_lt large⟩

theorem listing_read_steady (listing : Listing) (steady : ¬listing.Grown) (filled : Filled)
    (read : listing.read = .ok filled) :
    filled.answered = filled.written.length ∧
      (filled.written ≠ [] → filled.written.getLast? = some 0) := by
  unfold Listing.read at read
  cases probe : listing.probe with
  | error errno => simp [probe, bind, Except.bind] at read
  | ok size =>
      cases names : listing.names with
      | error errno => simp [probe, names, bind, Except.bind] at read
      | ok buffer =>
          rw [probe, names] at read
          have kept : size = 0 → buffer = [] := by
            intro zero
            by_contra more
            exact steady ⟨zero ▸ probe, buffer, names, more⟩
          rw [(fill_whole size buffer filled read kept).1]
          exact ⟨rfl, listing.terminated buffer names⟩

theorem listing_read_grown (listing : Listing) (grown : listing.Grown) :
    ∃ more, listing.read = .ok ⟨0, [], more + 1⟩ := by
  obtain ⟨probe, names, present, some⟩ := grown
  obtain ⟨more, length⟩ := Nat.exists_eq_succ_of_ne_zero (mt List.length_eq_zero_iff.mp some)
  refine ⟨more, ?_⟩
  rw [Listing.read, probe, present, ← Nat.succ_eq_add_one, ← length]
  rfl

theorem value_read_steady (reading : ValueReading) (steady : ¬reading.Grown) (filled : Filled)
    (read : reading.read = some filled) : filled.answered ≤ filled.asked := by
  unfold ValueReading.read at read
  cases probe : reading.probe with
  | none => simp [probe] at read
  | some size =>
      cases value : reading.value with
      | none => simp [probe, value] at read
      | some present =>
          have kept : size = 0 → present = [] := by
            intro zero
            by_contra more
            exact steady ⟨zero ▸ probe, present, value, more⟩
          rw [probe, value] at read
          have read : (fill size present).toOption = some filled := read
          cases done : fill size present with
          | error errno => simp [done, Except.toOption] at read
          | ok result =>
              obtain ⟨whole, fits⟩ := fill_whole size present result done kept
              have same : result = filled := by simpa [done, Except.toOption] using read
              rw [← same, whole]
              exact fits

theorem value_read_grown (reading : ValueReading) (grown : reading.Grown) :
    ∃ more, reading.read = some ⟨0, [], more + 1⟩ := by
  obtain ⟨probe, value, present, some⟩ := grown
  obtain ⟨more, length⟩ := Nat.exists_eq_succ_of_ne_zero (mt List.length_eq_zero_iff.mp some)
  refine ⟨more, ?_⟩
  rw [ValueReading.read, probe, present, ← Nat.succ_eq_add_one, ← length]
  rfl

/-- The names in a list of NUL-terminated names, each with its place. -/
def placed (i : Nat) (names : List UInt8) : List (Nat × List UInt8) :=
  match names with
  | [] => []
  | first :: rest =>
      let name := cString (first :: rest)
      (i, name) :: placed (i + (name.length + 1)) ((first :: rest).drop (name.length + 1))
termination_by names.length
decreasing_by
  simp only [List.length_drop, List.length_cons]
  omega

/-- The loop over a list that ends in a NUL stays inside of it. -/
theorem eachName_placed (i : Nat) (names : List UInt8)
    (ends : names ≠ [] → names.getLast? = some 0) :
    eachName i names.length names = .ok (placed i names) := by
  fun_induction placed i names with
  | case1 => simp [eachName]
  | case2 i first rest name ih =>
      have last := ends (List.cons_ne_nil _ _)
      have terminated : 0 ∈ first :: rest := List.mem_of_getLast? last
      have later : (first :: rest).drop (name.length + 1) ≠ [] →
          ((first :: rest).drop (name.length + 1)).getLast? = some 0 := by
        intro more
        have inside : name.length + 1 < (first :: rest).length := by
          by_contra outside
          exact more (List.drop_eq_nil_of_le (Nat.le_of_not_lt outside))
        rw [List.getLast?_drop, if_neg (Nat.not_le_of_lt inside), last]
      have tail := ih later
      rw [List.length_drop] at tail
      have some : (first :: rest).length ≠ 0 := Nat.succ_ne_zero _
      rw [eachName, if_neg some, if_pos terminated]
      change Except.bind (eachName (i + (name.length + 1)) _ _) _ = _
      rw [tail]
      rfl

theorem eachName_unwritten (i left : Nat) : eachName i (left + 1) [] = .error .outside := by
  simp [eachName]

end Calls

section Xattrs

variable (value : Nat → ValueReading)

/-- The attributes that could be read, in the order of the list, each value up
to its first NUL. -/
def readable (names : List (Nat × List UInt8)) : List (List UInt8 × List UInt8) :=
  names.filterMap fun (i, name) => (value i).read.map fun val => (name, cString val.written)

def xattrEntry (name val : List UInt8) : Entry :=
  ⟨quoted name, cString name, literal_quoted name, quotedWritten val⟩

def xattrEntries (names : List (Nat × List UInt8)) : List Entry :=
  names.filterMap fun (i, name) => (value i).read.map fun val => xattrEntry name val.written

theorem placed_cString (i : Nat) (names : List UInt8) :
    ∀ entry ∈ placed i names, cString entry.2 = entry.2 := by
  fun_induction placed i names with
  | case1 => simp
  | case2 i first rest name ih =>
      intro entry member
      rcases List.mem_cons.mp member with rfl | later
      · exact List.takeWhile_idem
      · exact ih entry later

theorem xattrEntries_members (names : List (Nat × List UInt8))
    (strings : ∀ entry ∈ names, cString entry.2 = entry.2) :
    (xattrEntries value names).map Entry.member =
      (readable value names).map fun (name, val) => (name, Value.string val) := by
  simp only [xattrEntries, readable, List.map_filterMap, Option.map_map]
  apply List.filterMap_congr
  intro entry member
  have same := strings entry member
  cases read : (value entry.1).read <;>
    simp [Entry.member, xattrEntry, quotedWritten, Written.string, same]

theorem appendXattr_failed (sb : StrBuf) (first : Bool) (i : Nat) (name : List UInt8)
    (read : (value i).read = none) : appendXattr value (sb, first) (i, name) = .ok (sb, first) := by
  simp [appendXattr, read]

theorem appendXattr_steady (sb : StrBuf) (first : Bool) (i : Nat) (name : List UInt8)
    (filled : Filled) (read : (value i).read = some filled) (steady : ¬(value i).Grown) :
    ∃ next, appendXattr value (sb, first) (i, name) = .ok (next, false) ∧
      next.data =
        sb.data ++ ((if first then [] else [44]) ++ (xattrEntry name filled.written).text) := by
  have fits := value_read_steady (value i) steady filled read
  simp only [appendXattr, read]
  rw [if_neg (Nat.not_lt.mpr fits)]
  refine ⟨_, rfl, ?_⟩
  cases first <;>
    simp [text_comma, text_colon, Entry.text, xattrEntry, quotedWritten, Written.string]

theorem appendXattr_grown (state : StrBuf × Bool) (entry : Nat × List UInt8)
    (grown : (value entry.1).Grown) : appendXattr value state entry = .error .outside := by
  obtain ⟨more, read⟩ := value_read_grown (value entry.1) grown
  simp [appendXattr, read]

/-- After the first attribute every other one gets its comma. -/
theorem fold_later (names : List (Nat × List UInt8)) (sb : StrBuf)
    (steady : ∀ entry ∈ names, ¬(value entry.1).Grown) :
    ∃ last, names.foldlM (appendXattr value) (sb, false) = .ok (last, false) ∧
      last.data = sb.data ++ (xattrEntries value names).flatMap fun entry => 44 :: entry.text := by
  induction names generalizing sb with
  | nil => exact ⟨sb, rfl, by simp [xattrEntries]⟩
  | cons entry names ih =>
      obtain ⟨i, name⟩ := entry
      obtain ⟨here, later⟩ := List.forall_mem_cons.mp steady
      rw [List.foldlM_cons]
      cases read : (value i).read with
      | none =>
          rw [appendXattr_failed value sb false i name read]
          obtain ⟨last, run, data⟩ := ih sb later
          exact ⟨last, run, by simpa [xattrEntries, read] using data⟩
      | some filled =>
          obtain ⟨next, turn, front⟩ := appendXattr_steady value sb false i name filled read here
          obtain ⟨last, run, data⟩ := ih next later
          rw [turn]
          refine ⟨last, run, ?_⟩
          rw [data, front]
          simp [xattrEntries, read]

theorem fold_first (names : List (Nat × List UInt8)) (sb : StrBuf)
    (steady : ∀ entry ∈ names, ¬(value entry.1).Grown) :
    ∃ last, names.foldlM (appendXattr value) (sb, true) = .ok last ∧
      last.1.data = sb.data ++ joined (xattrEntries value names) := by
  induction names generalizing sb with
  | nil => exact ⟨(sb, true), rfl, by simp [xattrEntries, joined]⟩
  | cons entry names ih =>
      obtain ⟨i, name⟩ := entry
      obtain ⟨here, later⟩ := List.forall_mem_cons.mp steady
      rw [List.foldlM_cons]
      cases read : (value i).read with
      | none =>
          rw [appendXattr_failed value sb true i name read]
          obtain ⟨last, run, data⟩ := ih sb later
          exact ⟨last, run, by simpa [xattrEntries, read] using data⟩
      | some filled =>
          have opens : xattrEntries value ((i, name) :: names) =
              xattrEntry name filled.written :: xattrEntries value names := by
            simp [xattrEntries, read]
          obtain ⟨next, turn, front⟩ := appendXattr_steady value sb true i name filled read here
          obtain ⟨last, run, data⟩ := fold_later value names next later
          rw [turn]
          refine ⟨_, run, ?_⟩
          rw [opens, joined_cons, data, front]
          simp

theorem fold_grown (names : List (Nat × List UInt8)) (state : StrBuf × Bool)
    (entry : Nat × List UInt8) (listed : entry ∈ names) (grown : (value entry.1).Grown) :
    names.foldlM (appendXattr value) state = .error .outside := by
  induction names generalizing state with
  | nil => exact absurd listed List.not_mem_nil
  | cons head names ih =>
      rw [List.foldlM_cons]
      rcases List.mem_cons.mp listed with rfl | later
      · rw [appendXattr_grown value state entry grown]
        rfl
      · by_cases here : (value head.1).Grown
        · rw [appendXattr_grown value state head here]
          rfl
        · obtain ⟨sb, first⟩ := state
          obtain ⟨i, name⟩ := head
          cases read : (value i).read with
          | none =>
              rw [appendXattr_failed value sb first i name read]
              exact ih _ later
          | some filled =>
              obtain ⟨next, turn, _⟩ := appendXattr_steady value sb first i name filled read here
              rw [turn]
              exact ih _ later

/-- The names a listing leads to, none if it fails. -/
def namesOf (listing : Listing) : List (Nat × List UInt8) :=
  match listing.read with
  | .error _ => []
  | .ok names => placed 0 names.written

def readXattrs (listing : Listing) : List (List UInt8 × List UInt8) :=
  readable value (namesOf listing)

def xattrsWritten (listing : Listing) : Written :=
  match listing.read with
  | .error errno =>
      .object [.plain (text "ok") (by decide) (.bool false),
        .plain (text "errno") (by decide) (.signed errno)]
  | .ok names => .object (xattrEntries value (placed 0 names.written))

/-- The members with a string for a value are the attributes that were read. -/
theorem xattrsWritten_value (listing : Listing) :
    ∃ attributes, (xattrsWritten value listing).value = .object attributes ∧
      strings attributes = readXattrs value listing := by
  unfold xattrsWritten readXattrs namesOf
  cases listing.read with
  | error errno => exact ⟨_, rfl, rfl⟩
  | ok names =>
      refine ⟨_, rfl, ?_⟩
      rw [xattrEntries_members value _ (placed_cString 0 names.written)]
      simp [strings, List.filterMap_map]

/-- The object of attributes, or the one that reports the error of the listing. -/
theorem data_appendXattrsJson (listing : Listing) (sb : StrBuf) (steady : ¬listing.Grown)
    (each : ∀ entry ∈ namesOf listing, ¬(value entry.1).Grown) :
    ∃ last, appendXattrsJson sb listing value = .ok last ∧
      last.data = sb.data ++ (xattrsWritten value listing).text := by
  unfold appendXattrsJson xattrsWritten
  cases read : listing.read with
  | error errno =>
      have opens : xattrsError errno = 123 ::
          (joined [.plain (text "ok") (by decide) (.bool false),
            .plain (text "errno") (by decide) (.signed errno)] ++ [125]) := rfl
      exact ⟨_, rfl, by simp [Written.object, opens]⟩
  | ok names =>
      obtain ⟨whole, ends⟩ := listing_read_steady listing steady names read
      simp only [namesOf, read] at each
      obtain ⟨last, run, data⟩ := fold_first value (placed 0 names.written)
        (sbAppendf sb (text "\x7b")) each
      simp only [whole, eachName_placed 0 names.written ends, bind, Except.bind, run]
      exact ⟨_, rfl, by simp [Written.object, data, text_opens, text_closes]⟩

theorem appendXattrsJson_grown (listing : Listing) (sb : StrBuf) (grown : listing.Grown) :
    appendXattrsJson sb listing value = .error .outside := by
  obtain ⟨more, read⟩ := listing_read_grown listing grown
  simp only [appendXattrsJson, read, eachName_unwritten]
  rfl

theorem appendXattrsJson_value_grown (listing : Listing) (sb : StrBuf) (steady : ¬listing.Grown)
    (entry : Nat × List UInt8) (listed : entry ∈ namesOf listing)
    (grown : (value entry.1).Grown) : appendXattrsJson sb listing value = .error .outside := by
  unfold appendXattrsJson
  cases read : listing.read with
  | error errno => simp [namesOf, read] at listed
  | ok names =>
      obtain ⟨whole, ends⟩ := listing_read_steady listing steady names read
      simp only [namesOf, read] at listed
      simp only [whole, eachName_placed 0 names.written ends, bind, Except.bind,
        fold_grown value _ _ entry listed grown]

theorem countXattrs_steady (listing : Listing) (steady : ¬listing.Grown) :
    ∃ counts, countXattrs listing = .ok counts := by
  unfold countXattrs
  cases read : listing.read with
  | error errno => exact ⟨none, rfl⟩
  | ok names =>
      obtain ⟨whole, ends⟩ := listing_read_steady listing steady names read
      simp only [whole, eachName_placed 0 names.written ends]
      exact ⟨_, rfl⟩

theorem countXattrs_grown (listing : Listing) (grown : listing.Grown) :
    countXattrs listing = .error .outside := by
  obtain ⟨more, read⟩ := listing_read_grown listing grown
  simp only [countXattrs, read, eachName_unwritten]
  rfl

end Xattrs

section Payload

variable (cfg : Config) (readings : Readings)

def headEntries : List Entry :=
  [ .plain (text "schema") (by decide)
      (.plain (text "magenta-framework-causal-ratio/v1") (by decide)),
    .plain (text "timestamp") (by decide) (quotedWritten readings.timestamp),
    .plain (text "platform") (by decide) (.plain (text "posix") (by decide)),
    .plain (text "target") (by decide) (.plain (text "mntn-reporting-bridge") (by decide)),
    .plain (text "campaign_id") (by decide) (quotedWritten cfg.campaignId),
    .plain (text "advertiser_id") (by decide) (quotedWritten cfg.advertiserId),
    .plain (text "path") (by decide) (quotedWritten cfg.path) ]

def gpuEntries : List Entry :=
  let gm := payloadGpu cfg readings
  [ .plain (text "enabled") (by decide) (.bool cfg.includeGpu),
    .plain (text "ok") (by decide) (.bool gm.ok),
    .plain (text "card") (by decide) (quotedWritten cfg.card),
    .plain (text "vram_total_bytes") (by decide) (.numeral gm.vramTotal.toNat),
    .plain (text "vram_used_bytes") (by decide) (.numeral gm.vramUsed.toNat),
    .plain (text "gtt_total_bytes") (by decide) (.numeral gm.gttTotal.toNat),
    .plain (text "gtt_used_bytes") (by decide) (.numeral gm.gttUsed.toNat) ]

def fileEntries (counts : UInt64 × UInt64) : List Entry :=
  let fm := readFileMeta readings.stat
  [ .plain (text "ok") (by decide) (.bool fm.ok),
    .plain (text "size_bytes") (by decide) (.numeral fm.sizeBytes.toNat),
    .plain (text "mtime") (by decide) (.signed fm.mtime),
    .plain (text "xattr_count") (by decide) (.numeral counts.1.toNat),
    .plain (text "xattr_name_bytes") (by decide) (.numeral counts.2.toNat) ]

def magentaEntries (counts : UInt64 × UInt64) : List Entry :=
  let sc := payloadScores cfg readings counts
  [ .plain (text "metadata_density_ppm") (by decide) (.numeral sc.metadataDensityPpm.toNat),
    .plain (text "freshness_ppm") (by decide) (.numeral sc.freshnessPpm.toNat),
    .plain (text "gpu_pressure_ppm") (by decide) (.numeral sc.gpuPressurePpm.toNat),
    .plain (text "path_weight_ppm") (by decide) (.numeral sc.pathWeightPpm.toNat),
    .plain (text "xattr_weight_ppm") (by decide) (.numeral sc.xattrWeightPpm.toNat),
    .plain (text "campaign_weight_ppm") (by decide) (.numeral sc.campaignWeightPpm.toNat),
    .plain (text "advertiser_weight_ppm") (by decide) (.numeral sc.advertiserWeightPpm.toNat),
    .plain (text "magenta_interest_ppm") (by decide) (.numeral sc.magentaInterestPpm.toNat),
    .plain (text "magenta_causal_ratio_ppm") (by decide)
      (.numeral sc.magentaCausalRatioPpm.toNat),
    .plain (text "magenta_quality_ppm") (by decide) (.numeral sc.magentaQualityPpm.toNat) ]

def xattrsEntry : Entry :=
  .plain (text "xattrs") (by decide) (xattrsWritten readings.value readings.listed)

def gpuEntry : Entry := .plain (text "gpu") (by decide) (.object (gpuEntries cfg readings))

def fileEntry (counts : UInt64 × UInt64) : Entry :=
  .plain (text "file") (by decide) (.object (fileEntries readings counts))

def magentaEntry (counts : UInt64 × UInt64) : Entry :=
  .plain (text "magenta") (by decide) (.object (magentaEntries cfg readings counts))

/-- What stands before the scores, each with a comma behind it. -/
def frontEntries (counts : UInt64 × UInt64) : List Entry :=
  headEntries cfg readings ++ [gpuEntry cfg readings, fileEntry readings counts] ++
    if cfg.includeXattrs then [xattrsEntry readings] else []

def payloadWritten (counts : UInt64 × UInt64) : Written :=
  .object (frontEntries cfg readings counts ++ [magentaEntry cfg readings counts])

theorem named_eq (name value : List UInt8) : named name value = 34 :: (name ++ 34 :: 58 :: value) := by
  have colon : text "\":" = [34, 58] := rfl
  simp [named, text_quote, colon]

theorem text_plain (key : List UInt8) (plain : key.all isPlain = true) (content : Written) :
    (Entry.plain key plain content).text = named key content.text := by
  simp [named_eq, Entry.plain, Entry.text]

theorem truth_bool (b : Bool) : truth b = (Written.bool b).text := by cases b <;> rfl

section Parts

variable (sb : StrBuf)

theorem data_appendHead :
    (appendHead cfg readings sb).data =
      sb.data ++ 123 :: (headEntries cfg readings).flatMap fun entry => entry.text ++ [44] := by
  have schema : text "\"magenta-framework-causal-ratio/v1\"" =
      34 :: (text "magenta-framework-causal-ratio/v1" ++ [34]) := rfl
  have platform : text "\"posix\"" = 34 :: (text "posix" ++ [34]) := rfl
  have target : text "\"mntn-reporting-bridge\"" =
      34 :: (text "mntn-reporting-bridge" ++ [34]) := rfl
  simp [appendHead, headEntries, text_plain, named_eq, text_opens, text_comma, schema, platform,
    target, Written.plain, quotedWritten, Written.string]

theorem data_appendGpu :
    (appendGpu cfg readings sb).data = sb.data ++ ((gpuEntry cfg readings).text ++ [44]) := by
  have closes : text "\x7d," = [125, 44] := rfl
  simp [appendGpu, gpuEntry, gpuEntries, text_plain, named_eq, text_opens, closes, text_comma,
    truth_bool, Written.object, joined, quotedWritten, Written.string, Written.numeral, bytes]

theorem data_appendFile (counts : UInt64 × UInt64) :
    (appendFile readings counts sb).data =
      sb.data ++ ((fileEntry readings counts).text ++ [44]) := by
  have closes : text "\x7d," = [125, 44] := rfl
  simp [appendFile, fileEntry, fileEntries, text_plain, named_eq, text_opens, closes, text_comma,
    truth_bool, Written.object, joined, Written.numeral, Written.signed, bytes]

theorem data_appendMagenta (counts : UInt64 × UInt64) :
    (appendMagenta cfg readings counts sb).data =
      sb.data ++ ((magentaEntry cfg readings counts).text ++ [125]) := by
  -- Steps proved by evaluation would have the long names spelled out again and again.
  simp -implicitDefEqProofs [appendMagenta, magentaEntry, magentaEntries, text_plain, named_eq,
    text_opens, text_closes, text_comma, Written.object, joined, Written.numeral, ppm]

end Parts

section Steadiness

/-- No list of attributes and no attribute that is listed was empty at the first
of its two calls and had grown by the second. -/
structure Steady : Prop where
  counted : ¬readings.counted.Grown
  listed : ¬readings.listed.Grown
  each : ∀ entry ∈ namesOf readings.listed, ¬(readings.value entry.1).Grown

variable (sb : StrBuf)

theorem data_appendXattrs (steady : cfg.includeXattrs = true → Steady readings) :
    ∃ last, appendXattrs cfg readings sb = .ok last ∧
      last.data = sb.data ++ (if cfg.includeXattrs then [xattrsEntry readings] else []).flatMap
        fun entry => entry.text ++ [44] := by
  unfold appendXattrs
  split
  · next included =>
      obtain ⟨_, listed, each⟩ := steady included
      obtain ⟨last, run, data⟩ := data_appendXattrsJson readings.value readings.listed
        (sbAppendf sb (named (text "xattrs") [])) listed each
      simp only [bind, Except.bind, run]
      exact ⟨_, rfl, by simp [data, xattrsEntry, text_plain, named_eq, text_comma]⟩
  · exact ⟨sb, rfl, by simp⟩

theorem payloadCounts_steady (steady : cfg.includeXattrs = true → Steady readings) :
    ∃ counts, payloadCounts cfg readings = .ok counts := by
  unfold payloadCounts
  split
  · next included =>
      obtain ⟨counts, run⟩ := countXattrs_steady readings.counted (steady included).counted
      simp only [run]
      exact ⟨_, rfl⟩
  · exact ⟨(0, 0), rfl⟩

theorem payload_text (steady : cfg.includeXattrs = true → Steady readings) :
    ∃ counts, payloadJson cfg readings = .ok (payloadWritten cfg readings counts).text := by
  obtain ⟨counts, counted⟩ := payloadCounts_steady cfg readings steady
  have whole : (payloadWritten cfg readings counts).text =
      123 :: (joined (frontEntries cfg readings counts ++ [magentaEntry cfg readings counts]) ++
        [125]) := rfl
  obtain ⟨last, run, data⟩ := data_appendXattrs cfg readings
    (appendFile readings counts (appendGpu cfg readings (appendHead cfg readings
      (sbInit jsonBufCap (by decide))))) steady
  refine ⟨counts, ?_⟩
  simp only [payloadJson, buildPayloadJson, counted, bind, Except.bind, run, pure, Except.pure]
  rw [whole, joined_concat, data_appendMagenta, data, data_appendFile, data_appendGpu,
    data_appendHead, frontEntries]
  simp [sbInit]

theorem payload_faults (included : cfg.includeXattrs = true) (grown : ¬Steady readings) :
    payloadJson cfg readings = .error .outside := by
  by_cases counted : readings.counted.Grown
  · have run := countXattrs_grown readings.counted counted
    simp only [payloadJson, buildPayloadJson, payloadCounts, included, if_true, run, bind,
      Except.bind]
  · obtain ⟨counts, run⟩ := countXattrs_steady readings.counted counted
    have faults : ∀ sb, appendXattrsJson sb readings.listed readings.value = .error .outside := by
      intro sb
      by_cases listed : readings.listed.Grown
      · exact appendXattrsJson_grown readings.value readings.listed sb listed
      · have some : ∃ entry ∈ namesOf readings.listed, (readings.value entry.1).Grown := by
          by_contra none
          exact grown ⟨counted, listed, fun entry member some => none ⟨entry, member, some⟩⟩
        obtain ⟨entry, member, value⟩ := some
        exact appendXattrsJson_value_grown readings.value readings.listed sb listed entry member
          value
    simp only [payloadJson, buildPayloadJson, payloadCounts, included, if_true, run, bind,
      Except.bind, pure, Except.pure, appendXattrs, faults]

end Steadiness

def payloadMembers (counts : UInt64 × UInt64) : List (List UInt8 × Value) :=
  (frontEntries cfg readings counts ++ [magentaEntry cfg readings counts]).map Entry.member

theorem payload_strings (counts : UInt64 × UInt64) :
    Only (payloadMembers cfg readings counts) (text "campaign_id")
        (.string (cString cfg.campaignId)) ∧
      Only (payloadMembers cfg readings counts) (text "advertiser_id")
        (.string (cString cfg.advertiserId)) ∧
      Only (payloadMembers cfg readings counts) (text "path") (.string (cString cfg.path)) ∧
      Only (payloadMembers cfg readings counts) (text "gpu")
        (.object ((gpuEntries cfg readings).map Entry.member)) := by
  unfold Only payloadMembers frontEntries
  cases cfg.includeXattrs <;> exact ⟨rfl, rfl, rfl, rfl⟩

theorem payload_xattrs (counts : UInt64 × UInt64) (included : cfg.includeXattrs = true) :
    Only (payloadMembers cfg readings counts) (text "xattrs")
      (xattrsWritten readings.value readings.listed).value := by
  unfold Only payloadMembers frontEntries
  rw [if_pos included]
  rfl

theorem payload_no_xattrs (counts : UInt64 × UInt64) (excluded : cfg.includeXattrs = false) :
    ∀ member ∈ payloadMembers cfg readings counts, member.1 ≠ text "xattrs" := by
  have none : (payloadMembers cfg readings counts).filter (·.1 == text "xattrs") = [] := by
    unfold payloadMembers frontEntries
    rw [excluded]
    rfl
  intro member found same
  exact List.filter_eq_nil_iff.mp none member found (beq_iff_eq.mpr same)

/-- The text is one JSON object. Its strings are the configuration's own, and its
attributes are those that could be read, in the order of the list. -/
def ReadsBack (payload : List UInt8) : Prop :=
  ∃ members gpu, ParsesTo payload (.object members) ∧
    Only members (text "campaign_id") (.string (cString cfg.campaignId)) ∧
    Only members (text "advertiser_id") (.string (cString cfg.advertiserId)) ∧
    Only members (text "path") (.string (cString cfg.path)) ∧
    Only members (text "gpu") (.object gpu) ∧
    Only gpu (text "card") (.string (cString cfg.card)) ∧
    (cfg.includeXattrs = true → ∃ attributes,
      Only members (text "xattrs") (.object attributes) ∧
        strings attributes = readXattrs readings.value readings.listed) ∧
    (cfg.includeXattrs = false → ∀ member ∈ members, member.1 ≠ text "xattrs")

theorem written_reads_back (counts : UInt64 × UInt64) :
    ReadsBack cfg readings (payloadWritten cfg readings counts).text := by
  obtain ⟨attributes, isObject, read⟩ := xattrsWritten_value readings.value readings.listed
  obtain ⟨campaign, advertiser, path, gpu⟩ := payload_strings cfg readings counts
  refine ⟨payloadMembers cfg readings counts, _, parsesTo_written _, campaign, advertiser, path,
    gpu, rfl, ?_, payload_no_xattrs cfg readings counts⟩
  intro included
  exact ⟨attributes, isObject ▸ payload_xattrs cfg readings counts included, read⟩

/-- A payload is emitted and reads back when nothing has grown from nothing
between two calls. -/
theorem payload_read_back_iff :
    (∃ payload, payloadJson cfg readings = .ok payload ∧ ReadsBack cfg readings payload) ↔
      (cfg.includeXattrs = true → Steady readings) := by
  constructor
  · rintro ⟨payload, emitted, _⟩ included
    by_contra grown
    rw [payload_faults cfg readings included grown] at emitted
    cases emitted
  · intro steady
    obtain ⟨counts, emitted⟩ := payload_text cfg readings steady
    exact ⟨_, emitted, written_reads_back cfg readings counts⟩

end Payload

section Growing

/-- One attribute, `user.a`, empty at first and then one byte. -/
def growingReadings : Readings where
  timestamp := text "2026-01-01T00:00:00Z"
  now := 1767225600
  stat := none
  file := fun _ => none
  counted := ⟨.ok 7, .ok (text "user.a" ++ [0]), by
    intro buffer same _
    rw [← Except.ok.inj same]
    decide⟩
  listed := ⟨.ok 7, .ok (text "user.a" ++ [0]), by
    intro buffer same _
    rw [← Except.ok.inj same]
    decide⟩
  value := fun _ => ⟨some 0, some (text "x")⟩

def attributesConfig : Config := ⟨text "card0", text "/srv/clip", [], [], true, false⟩

/-- The NUL behind the value goes past the one byte that was allocated. -/
theorem growing_value_faults :
    payloadJson attributesConfig growingReadings = .error .outside ∧
      ¬∀ cfg readings, ∃ payload, payloadJson cfg readings = .ok payload ∧
        ReadsBack cfg readings payload := by
  have grown : ¬Steady growingReadings := by
    intro steady
    have listed : (0, text "user.a") ∈ namesOf growingReadings.listed := by
      have read : growingReadings.listed.read = .ok ⟨7, text "user.a" ++ [0], 7⟩ := rfl
      have first : placed 0 (text "user.a" ++ [0]) =
          (0, cString (text "user.a" ++ [0])) :: placed 7 [] := by
        rw [show text "user.a" ++ [0] = 117 :: (text "ser.a" ++ [0]) from rfl]
        conv_lhs => rw [placed]
        rfl
      have name : cString (text "user.a" ++ [0]) = text "user.a" := by decide
      simp only [namesOf, read, first, name, List.mem_cons_self]
    exact steady.each _ listed ⟨rfl, text "x", rfl, by decide⟩
  have faults := payload_faults attributesConfig growingReadings rfl grown
  refine ⟨faults, ?_⟩
  intro always
  obtain ⟨payload, emitted, _⟩ := always attributesConfig growingReadings
  rw [faults] at emitted
  cases emitted

end Growing

end RyzenBuild.Caustic
