import RyzenBuild.Runway.Request
import RyzenBuild.Lib.JsonText
import RyzenBuild.Lib.JsonPrefix

/-!
When the body of a request is what it should be: a JSON object with the
configuration's own values. The escaper leaves most control characters as they
are, and the array may cut the body off.
-/
namespace RyzenBuild.Runway

open Kernel Digits Json

/-- No control character but the three that the escaper knows. -/
def isClean (c : UInt8) : Bool := 32 ≤ c || c == 10 || c == 13 || c == 9

def isEscaped (c : UInt8) : Bool := c == 92 || c == 34 || c == 10 || c == 13 || c == 9

/-- The bytes a string takes between its quotes. -/
def escapedLength (s : List UInt8) : Nat := s.length + s.countP isEscaped

/-- The bytes of the punctuation, the names and the quotes. -/
def frameLength (cfg : RunwayConfig) : Nat := if cfg.promptImage ≠ [] then 68 else 51

structure Clean (cfg : RunwayConfig) : Prop where
  model : cfg.model.all isClean = true
  prompt : cfg.prompt.all isClean = true
  promptImage : cfg.promptImage.all isClean = true
  ratio : cfg.ratio.all isClean = true

/-- Clean strings that fill the array at most but for the NUL. -/
structure Sendable (cfg : RunwayConfig) : Prop extends Clean cfg where
  fits : frameLength cfg + escapedLength cfg.model + escapedLength cfg.prompt +
    escapedLength cfg.promptImage + escapedLength cfg.ratio + (signed cfg.duration).length < 8192

/-- The body is one object, and its members are the configuration's values. -/
def Carries (body : List UInt8) (cfg : RunwayConfig) : Prop :=
  ∃ members number, ParsesTo body (.object members) ∧
    Only members (text "model") (.string cfg.model) ∧
    Only members (text "promptText") (.string cfg.prompt) ∧
    (cfg.promptImage ≠ [] → Only members (text "promptImage") (.string cfg.promptImage)) ∧
    Only members (text "ratio") (.string cfg.ratio) ∧
    Only members (text "duration") (.number number) ∧ signedValue number = cfg.duration

section Arguments

/-- The strings of the configuration hold no NUL. -/
structure Strings (cfg : RunwayConfig) : Prop where
  model : cString cfg.model = cfg.model
  prompt : cString cfg.prompt = cfg.prompt
  promptImage : cString cfg.promptImage = cfg.promptImage
  ratio : cString cfg.ratio = cfg.ratio

theorem cString_printInto (size : Nat) (s : List UInt8) :
    cString (printInto size s) = printInto size s := by
  rw [cString, List.takeWhile_eq_self_iff]
  intro c member
  have inside : c ∈ s.takeWhile (· ≠ 0) := List.mem_of_mem_take member
  simpa using List.mem_takeWhile_imp inside

theorem setOption_strings (cfg next : RunwayConfig) (arg value : List UInt8) (strings : Strings cfg)
    (set : setOption cfg arg value = some next) : Strings next := by
  obtain ⟨model, prompt, promptImage, ratio⟩ := strings
  unfold setOption at set
  split_ifs at set <;> cases set <;> constructor <;> simp [*, cString_printInto]

theorem parseArgs_strings (cfg parsed : RunwayConfig) (args : List (List UInt8))
    (strings : Strings cfg) (accepted : parseArgs cfg args = .ok parsed) : Strings parsed := by
  fun_induction parseArgs cfg args with
  | case1 => cases accepted
  | case2 => cases accepted; exact strings
  | case5 cfg arg value rest next set ih =>
      exact ih (setOption_strings cfg next arg value strings set) accepted
  | _ => cases accepted

theorem cfgInit_strings : Strings cfgInit := by constructor <;> decide

end Arguments

section Strings

theorem stands_escaped (c : UInt8) (clean : isClean c = true) : Stands (escaped c) c := by
  unfold escaped
  split_ifs with backslash quote line carriage tab
  · rw [backslash]; exact stands_short 92 92 (by decide) rfl
  · rw [quote]; exact stands_short 34 34 (by decide) rfl
  · rw [line]; exact stands_short 110 10 (by decide) rfl
  · rw [carriage]; exact stands_short 114 13 (by decide) rfl
  · rw [tab]; exact stands_short 116 9 (by decide) rfl
  · apply stands_plain
    simpa [isClean, isPlain, backslash, quote, line, carriage, tab] using clean

/-- A byte that is not clean goes into the body as it is. -/
theorem escaped_control (c : UInt8) (control : isClean c = false) : escaped c = [c] ∧ c < 32 := by
  simp only [isClean, Bool.or_eq_false_iff, beq_eq_false_iff_ne, decide_eq_false_iff_not] at control
  obtain ⟨⟨⟨below, line⟩, carriage⟩, tab⟩ := control
  have below := UInt8.not_le.mp below
  have backslash : c ≠ 92 := fun same => absurd below (by rw [same]; decide)
  have quote : c ≠ 34 := fun same => absurd below (by rw [same]; decide)
  exact ⟨by simp [escaped, backslash, quote, line, carriage, tab], below⟩

def quoted (s : List UInt8) : List UInt8 := 34 :: (s.flatMap escaped ++ [34])

theorem jsonEscape_eq (s : List UInt8) (string : cString s = s) : jsonEscape s = quoted s := by
  simp [jsonEscape, string, text_quote, quoted]

theorem literal_quoted (s : List UInt8) (clean : s.all isClean = true) : Literal (quoted s) s :=
  literal_escaped escaped s fun c member => stands_escaped c (List.all_eq_true.mp clean c member)

theorem pieces_control_inside (s rest : List UInt8) (unclean : s.all isClean = false) :
    pieces (s.flatMap escaped ++ rest) = none := by
  induction s with
  | nil => cases unclean
  | cons c s ih =>
      rw [List.flatMap_cons, List.append_assoc]
      cases clean : isClean c with
      | true =>
          obtain ⟨piece, _, read⟩ := stands_escaped c clean
          have later : s.all isClean = false := by simpa [clean] using unclean
          rw [read, ih later]
          rfl
      | false =>
          obtain ⟨same, below⟩ := escaped_control c clean
          rw [same]
          exact pieces_control _ c below

theorem reads_quoted (fuel : Nat) (s rest : List UInt8) (result : Value × List UInt8)
    (read : readValue fuel (quoted s ++ rest) = some result) : s.all isClean = true := by
  by_contra unclean
  have refused := pieces_control_inside s (34 :: rest) (by simpa using unclean)
  cases fuel with
  | zero => cases read
  | succ fuel =>
      simp [readValue, valueBy, quoted, readString, refused] at read

end Strings

section Fields

variable (cfg : RunwayConfig)

def fields : List (List UInt8 × List UInt8) :=
  [(text "model", cfg.model), (text "promptText", cfg.prompt)] ++
    (if cfg.promptImage ≠ [] then [(text "promptImage", cfg.promptImage)] else []) ++
    [(text "ratio", cfg.ratio)]

def fieldText (field : List UInt8 × List UInt8) : List UInt8 :=
  34 :: (field.1 ++ 34 :: 58 :: quoted field.2)

def durationText : List UInt8 := 34 :: (text "duration" ++ 34 :: 58 :: signed cfg.duration)

theorem printedBody_eq (strings : Strings cfg) :
    printedBody cfg =
      123 :: ((fields cfg).flatMap (fun field => fieldText field ++ [44]) ++ durationText cfg ++
        [125]) := by
  obtain ⟨model, prompt, promptImage, ratio⟩ := strings
  have modelName : text "\"model\":" = 34 :: (text "model" ++ [34, 58]) := rfl
  have promptName : text "\"promptText\":" = 34 :: (text "promptText" ++ [34, 58]) := rfl
  have imageName : text "\"promptImage\":" = 34 :: (text "promptImage" ++ [34, 58]) := rfl
  have ratioName : text "\"ratio\":" = 34 :: (text "ratio" ++ [34, 58]) := rfl
  have durationName : text "\"duration\":" = 34 :: (text "duration" ++ [34, 58]) := rfl
  unfold printedBody fields
  rw [promptImage]
  split_ifs <;>
    simp [fieldText, durationText, jsonEscape_eq, model, prompt, promptImage, ratio, text_opens,
      text_closes, text_comma, modelName, promptName, imageName, ratioName, durationName]

/-- A field that is read in front of a comma is clean, and the reader goes on behind it. -/
theorem readMembers_field (fuel : Nat) (field : List UInt8 × List UInt8) (more : List UInt8)
    (named : field.1.all isPlain = true) (result : List (List UInt8 × Value) × List UInt8)
    (read : readMembers fuel (fieldText field ++ 44 :: more) = some result) :
    field.2.all isClean = true ∧ ∃ later, (readMembers later more).isSome = true := by
  cases fuel with
  | zero => cases read
  | succ fuel =>
      have name := literal_plain field.1 named (58 :: (quoted field.2 ++ 44 :: more))
      have opens : skipBlanks (quoted field.2 ++ 44 :: more) = quoted field.2 ++ 44 :: more :=
        skipBlanks_of_head 34 _ (by decide)
      simp only [List.cons_append, List.append_assoc, List.nil_append] at name
      simp only [fieldText, List.cons_append, List.append_assoc, readMembers, separated,
        skipBlanks_of_head 34 _ (by decide : isBlank 34 = false), member, name,
        skipBlanks_of_head 58 _ (by decide : isBlank 58 = false), if_true, opens] at read
      cases found : readValue fuel (quoted field.2 ++ 44 :: more) with
      | none => simp [found] at read
      | some inner =>
          have clean := reads_quoted fuel field.2 (44 :: more) inner found
          have whole := text_string _ _ (literal_quoted field.2 clean) (44 :: more)
            (ends_of_head 44 more (.inl rfl))
          obtain ⟨_, left⟩ := reads_unique _ _ _ _ _ whole ⟨fuel, found⟩
          refine ⟨clean, fuel, ?_⟩
          rw [found] at read
          simp only [Option.map_some, ← left,
            skipBlanks_of_head 44 more (by decide : isBlank 44 = false)] at read
          cases goesOn : readMembers fuel more with
          | none => simp [goesOn] at read
          | some _ => rfl

/-- By induction over the fields: all of them are clean if the members can be read. -/
theorem readMembers_clean (all : List (List UInt8 × List UInt8)) (last : List UInt8) (fuel : Nat)
    (named : ∀ field ∈ all, field.1.all isPlain = true)
    (read : (readMembers fuel (all.flatMap (fun field => fieldText field ++ [44]) ++ last)).isSome =
      true) :
    ∀ field ∈ all, field.2.all isClean = true := by
  induction all generalizing fuel with
  | nil => simp
  | cons field all ih =>
      obtain ⟨result, found⟩ := Option.isSome_iff_exists.mp read
      have opens : (field :: all).flatMap (fun field => fieldText field ++ [44]) ++ last =
          fieldText field ++ 44 :: (all.flatMap (fun field => fieldText field ++ [44]) ++ last) := by
        simp
      rw [opens] at found
      obtain ⟨clean, later, goesOn⟩ := readMembers_field fuel field _
        (named field List.mem_cons_self) result found
      have rest := ih later (fun other member => named other (List.mem_cons_of_mem field member))
        goesOn
      intro other member
      rcases List.mem_cons.mp member with rfl | later
      · exact clean
      · exact rest other later

theorem fields_named : ∀ field ∈ fields cfg, field.1.all isPlain = true := by
  have named : (fields cfg).all (fun field => field.1.all isPlain) = true := by
    unfold fields
    split_ifs <;> rfl
  exact List.all_eq_true.mp named

theorem printedBody_clean (strings : Strings cfg) (members : List (List UInt8 × Value))
    (rest : List UInt8) (read : Reads (printedBody cfg) (.object members) rest) :
    ∀ field ∈ fields cfg, field.2.all isClean = true := by
  obtain ⟨fuel, read⟩ := read
  cases fuel with
  | zero => cases read
  | succ fuel =>
      apply readMembers_clean (fields cfg) (durationText cfg ++ [125]) fuel (fields_named cfg)
      obtain ⟨tail, opens⟩ : ∃ tail, (fields cfg).flatMap (fun field => fieldText field ++ [44]) ++
          (durationText cfg ++ [125]) = 34 :: tail := ⟨_, rfl⟩
      rw [printedBody_eq cfg strings, List.append_assoc, opens] at read
      rw [opens]
      simp only [readValue, valueBy, enclosed, skipBlanks_of_head 34 tail (by decide)] at read
      cases inside : readMembers fuel (34 :: tail) with
      | none => simp [inside] at read
      | some _ => rfl

theorem length_escaped (c : UInt8) : (escaped c).length = 1 + if isEscaped c then 1 else 0 := by
  by_cases known : c = 92 ∨ c = 34 ∨ c = 10 ∨ c = 13 ∨ c = 9
  · rcases known with rfl | rfl | rfl | rfl | rfl <;> rfl
  · simp only [not_or] at known
    simp [escaped, isEscaped, known]

theorem length_quoted (s : List UInt8) : (quoted s).length = escapedLength s + 2 := by
  have inside : (s.flatMap escaped).length = escapedLength s := by
    induction s with
    | nil => rfl
    | cons c s ih =>
        rw [List.flatMap_cons, List.length_append, ih, length_escaped, escapedLength,
          escapedLength, List.countP_cons, List.length_cons]
        omega
  simp [quoted, inside]

theorem length_printedBody (strings : Strings cfg) :
    (printedBody cfg).length =
      frameLength cfg + escapedLength cfg.model + escapedLength cfg.prompt +
        escapedLength cfg.promptImage + escapedLength cfg.ratio + (signed cfg.duration).length := by
  have names : (text "model").length = 5 ∧ (text "promptText").length = 10 ∧
      (text "promptImage").length = 11 ∧ (text "ratio").length = 5 ∧
      (text "duration").length = 8 := ⟨rfl, rfl, rfl, rfl, rfl⟩
  rw [printedBody_eq cfg strings]
  unfold fields frameLength
  split_ifs with image
  · simp [fieldText, length_quoted, durationText, names]
    omega
  · have empty : cfg.promptImage = [] := not_not.mp image
    simp [fieldText, length_quoted, durationText, names, empty, escapedLength]
    omega

end Fields

section Body

variable {cfg : RunwayConfig}

def entry (name s : List UInt8) (named : name.all isPlain = true) (clean : s.all isClean = true) :
    Entry :=
  .plain name named (.string (quoted s) s (literal_quoted s clean))

def frontEntries (clean : Clean cfg) : List Entry :=
  [entry (text "model") cfg.model (by decide) clean.model,
      entry (text "promptText") cfg.prompt (by decide) clean.prompt] ++
    (if cfg.promptImage ≠ [] then
      [entry (text "promptImage") cfg.promptImage (by decide) clean.promptImage] else []) ++
    [entry (text "ratio") cfg.ratio (by decide) clean.ratio]

def durationEntry (cfg : RunwayConfig) : Entry :=
  .plain (text "duration") (by decide) (.signed cfg.duration)

def written (clean : Clean cfg) : Written := .object (frontEntries clean ++ [durationEntry cfg])

theorem written_text (strings : Strings cfg) (clean : Clean cfg) :
    printedBody cfg = (written clean).text := by
  have whole := joined_concat (frontEntries clean) (durationEntry cfg)
  have fronts : (fields cfg).flatMap (fun field => fieldText field ++ [44]) =
      (frontEntries clean).flatMap fun entry => entry.text ++ [44] := by
    unfold fields frontEntries
    split_ifs <;> simp [fieldText, entry, Entry.plain, Entry.text, Written.string]
  have last : durationText cfg = (durationEntry cfg).text := by
    simp [durationText, durationEntry, Entry.plain, Entry.text, Written.signed]
  simp only [written, Written.object, whole]
  rw [printedBody_eq cfg strings, fronts, last]

theorem written_members (clean : Clean cfg) :
    let members := (frontEntries clean ++ [durationEntry cfg]).map Entry.member
    Only members (text "model") (.string cfg.model) ∧
      Only members (text "promptText") (.string cfg.prompt) ∧
      (cfg.promptImage ≠ [] → Only members (text "promptImage") (.string cfg.promptImage)) ∧
      Only members (text "ratio") (.string cfg.ratio) ∧
      Only members (text "duration") (.number (signed cfg.duration)) := by
  unfold Only frontEntries
  split_ifs with image
  · exact ⟨rfl, rfl, fun _ => rfl, rfl, rfl⟩
  · exact ⟨rfl, rfl, fun image' => absurd image' image, rfl, rfl⟩

theorem clean_of_fields (clean : ∀ field ∈ fields cfg, field.2.all isClean = true) : Clean cfg := by
  unfold fields at clean
  refine ⟨clean (text "model", cfg.model) (by simp), clean (text "promptText", cfg.prompt) (by simp),
    ?_, clean (text "ratio", cfg.ratio) (by simp)⟩
  by_cases image : cfg.promptImage = []
  · simp [image]
  · exact clean (text "promptImage", cfg.promptImage) (by simp [image])

theorem carries_of_sendable (strings : Strings cfg) (sendable : Sendable cfg) :
    Carries (submitBody cfg) cfg := by
  have length := length_printedBody cfg strings
  have fits := sendable.fits
  have whole : submitBody cfg = (written sendable.toClean).text := by
    rw [submitBody, List.take_of_length_le (by omega), written_text strings sendable.toClean]
  obtain ⟨model, prompt, image, ratio, duration⟩ := written_members sendable.toClean
  exact ⟨_, _, whole ▸ parsesTo_written (written sendable.toClean), model, prompt, image, ratio,
    duration, signedValue_signed cfg.duration⟩

/-- A body that is an object at all is whole and clean: the object closes
itself, so nothing of the text was cut off behind it. -/
theorem sendable_of_carries (strings : Strings cfg) (carries : Carries (submitBody cfg) cfg) :
    Sendable cfg := by
  obtain ⟨members, _, ⟨⟨rest, read, _⟩, _⟩, _⟩ := carries
  have opens : skipBlanks (submitBody cfg) = submitBody cfg := by
    rw [submitBody, printedBody_eq cfg strings]
    exact skipBlanks_of_head 123 _ (by decide)
  rw [opens] at read
  have longer := reads_object_append _ members rest ((printedBody cfg).drop 8191) read
  rw [submitBody, List.take_append_drop] at longer
  have clean := clean_of_fields (printedBody_clean cfg strings members _ longer)
  have whole := (written clean).reads [] (by simp [Ends])
  rw [List.append_nil, ← written_text strings clean] at whole
  obtain ⟨_, left⟩ := reads_unique _ _ _ _ _ whole longer
  have dropped : (printedBody cfg).drop 8191 = [] := by
    simpa using (List.append_eq_nil_iff.mp left.symm).2
  have length := length_printedBody cfg strings
  have short := List.drop_eq_nil_iff.mp dropped
  exact ⟨clean, by omega⟩

/-- Every configuration from the command line: the request carries it exactly
if its strings are clean and the array is not too short for them. -/
theorem body_carries_iff (args : List (List UInt8)) (cfg : RunwayConfig)
    (accepted : parseArgs cfgInit args = .ok cfg) : Carries (submitBody cfg) cfg ↔ Sendable cfg :=
  have strings := parseArgs_strings cfgInit cfg args cfgInit_strings accepted
  ⟨sendable_of_carries strings, carries_of_sendable strings⟩

theorem mist_request_carries :
    ∃ cfg, parseArgs cfgInit [text "--prompt", text "mist"] = .ok cfg ∧ cfg.pollOnly = false ∧
      Carries (submitBody cfg) cfg := by
  have accepted : parseArgs cfgInit [text "--prompt", text "mist"] =
      .ok { cfgInit with prompt := text "mist" } := rfl
  exact ⟨_, accepted, rfl, (body_carries_iff _ _ accepted).mpr
    ⟨⟨by decide, by decide, by decide, by decide⟩, by decide⟩⟩

/-- A control character in the prompt goes into the body raw. -/
theorem raw_control_sent :
    ∃ cfg, parseArgs cfgInit [text "--prompt", [27]] = .ok cfg ∧ cfg.pollOnly = false ∧
      ¬Carries (submitBody cfg) cfg := by
  have accepted : parseArgs cfgInit [text "--prompt", [27]] =
      .ok { cfgInit with prompt := [27] } := rfl
  refine ⟨_, accepted, rfl, fun carries => ?_⟩
  have strings := parseArgs_strings cfgInit _ _ cfgInit_strings accepted
  have clean := (sendable_of_carries strings carries).prompt
  cases clean

end Body

end RyzenBuild.Runway
