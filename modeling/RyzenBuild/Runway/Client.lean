import RyzenBuild.Runway.Request
import RyzenBuild.Runway.Extract

/-!
`main` of `runway_hook.c` with `submit_task` and `poll_task`, from one answer of the
service to the next. Of the transfer library there is left what it hands over: a status
code and the body, in whatever pieces `write_cb` is called with.
-/
namespace RyzenBuild.Runway

open Kernel Digits CNumber Json

structure Memory where
  ptr : List UInt8
  len : Nat

def memInit : Memory := ⟨[0], 0⟩

def writeCb (mem : Memory) (contents : List UInt8) : Memory :=
  { ptr := mem.ptr.take mem.len ++ contents ++ [0], len := mem.len + contents.length }

structure HttpRequest where
  method : List UInt8
  url : List UInt8
  headers : List (List UInt8)
  body : Option (List UInt8)

def httpHeaders (apiKey : List UInt8) : List (List UInt8) :=
  [(text "Authorization: Bearer " ++ apiKey).take (4096 - 1), text "Content-Type: application/json",
    text "X-Runway-Version: 2024-11-06"]

/-- How `curl_easy_perform` comes back. -/
inductive Answer where
  | error (message : List UInt8)
  | response (code : Int) (chunks : List (List UInt8))

inductive Stage where
  | submitting (cfg : RunwayConfig)
  | polling (taskId : List UInt8)
  | exited (status : Int)

structure Process where
  stage : Stage
  stdout : List UInt8
  stderr : List UInt8

namespace Process

variable (p : Process)

def print (s : List UInt8) : Process := { p with stdout := p.stdout ++ s }

def complain (s : List UInt8) : Process := { p with stderr := p.stderr ++ s }

def exit (status : Int) : Process := { p with stage := .exited status }

def die (message : List UInt8) : Process := (p.complain (message ++ text "\n")).exit 1

end Process

def tasksUrl : List UInt8 := text "https://api.dev.runwayml.com/v1/tasks/"

/-- What the process waits for an answer to. -/
def Stage.request (apiKey : List UInt8) : Stage → Option HttpRequest
  | .submitting cfg =>
      some
        { method := text "POST"
          url := text "https://api.dev.runwayml.com/v1/image_to_video"
          headers := httpHeaders apiKey
          body := some (submitBody cfg) }
  | .polling taskId =>
      some
        { method := text "GET"
          url := (tasksUrl ++ taskId).take (1024 - 1)
          headers := httpHeaders apiKey
          body := none }
  | .exited _ => none

/-- The rest of `submit_task`. -/
def submitAnswered (p : Process) (code : Int) (resp : Memory) : Process :=
  if code < 200 ∨ code ≥ 300 then
    (p.complain (text "submit failed: HTTP " ++ signed code ++ text "\n" ++ cString resp.ptr ++
      text "\n")).exit 1
  else
    let (rc, taskId) := extractJsonId resp.ptr 256
    if rc ≠ 0 then
      (p.complain (text "could not parse task id:\n" ++ cString resp.ptr ++ text "\n")).exit 1
    else
      let taskId := taskId.getD []
      { p.print (text "task_id=" ++ taskId ++ text "\n") with stage := .polling taskId }

/-- The rest of one turn of the loop of `poll_task`. -/
def pollAnswered (p : Process) (code : Int) (resp : Memory) : Process :=
  if code < 200 ∨ code ≥ 300 then
    p.complain (text "poll failed: HTTP " ++ signed code ++ text "\n" ++ cString resp.ptr ++
      text "\n")
  else
    let status := (extractJsonStatus resp.ptr 128).2.getD []
    let p := p.print (text "status=" ++ (if status ≠ [] then status else text "UNKNOWN") ++
      text "\n")
    if status = text "SUCCEEDED" then
      let (rc, out) := extractFirstOutputUrl resp.ptr 4096
      if rc = 0 then (p.print (text "output=" ++ out.getD [] ++ text "\n")).exit 0
      else (p.print (cString resp.ptr ++ text "\n")).exit 0
    else if status = text "FAILED" ∨ status = text "CANCELED" then
      (p.print (cString resp.ptr ++ text "\n")).exit 1
    else p

def Process.answered (p : Process) : Answer → Process
  | .error message =>
      match p.stage with
      | .exited _ => p
      | _ => p.die (text "curl error: " ++ message)
  | .response code chunks =>
      match p.stage with
      | .submitting _ => submitAnswered p code (chunks.foldl writeCb memInit)
      | .polling _ => pollAnswered p code (chunks.foldl writeCb memInit)
      | .exited _ => p

/-- `main` up to the first request. -/
def start (apiKey : Option (List UInt8)) (args : List (List UInt8)) : Process :=
  let p : Process := ⟨.exited 1, [], []⟩
  match apiKey with
  | none => p.die (text "RUNWAYML_API_SECRET is not set")
  | some [] => p.die (text "RUNWAYML_API_SECRET is not set")
  | some _ =>
      match parseArgs cfgInit args with
      | .error message => p.die message
      | .ok cfg =>
          if cfg.pollOnly then { p with stage := .polling (printInto 256 cfg.taskId) }
          else { p with stage := .submitting cfg }

section Pieces

theorem write_cb_whole (mem : Memory) (before contents : List UInt8)
    (held : mem = ⟨before ++ [0], before.length⟩) :
    writeCb mem contents = ⟨before ++ contents ++ [0], (before ++ contents).length⟩ := by
  rw [held, writeCb, List.take_left, List.length_append]

/-- The body arrives whole, whatever the pieces. -/
theorem received_whole (chunks : List (List UInt8)) :
    chunks.foldl writeCb memInit = ⟨chunks.flatten ++ [0], chunks.flatten.length⟩ := by
  have from_any (before : List UInt8) :
      chunks.foldl writeCb ⟨before ++ [0], before.length⟩ =
        ⟨before ++ chunks.flatten ++ [0], (before ++ chunks.flatten).length⟩ := by
    induction chunks generalizing before with
    | nil => simp
    | cons contents chunks ih =>
        rw [List.foldl_cons, write_cb_whole _ before contents rfl, ih, List.flatten_cons,
          List.append_assoc before]
  exact from_any []

end Pieces

section Readable

/-- The value that the client finds for a member: it is spelled out behind the first
needle, and fits its array. -/
structure Spells (field : List UInt8) (outSz : Nat) (body value : List UInt8) : Prop where
  filled : value ≠ []
  short : value.length < outSz
  behind : SpelledBehind (needle field) (cString body) value outSz

/-- The client finds no value for the member, however it may be spelled. -/
def Hides (field : List UInt8) (outSz : Nat) (body : List UInt8) : Prop :=
  NothingBehind (needle field) (cString body) outSz

theorem cString_terminated (body : List UInt8) : cString (body ++ [0]) = cString body := by
  induction body with
  | nil => rfl
  | cons c body ih =>
      rw [List.cons_append, cString, cString, List.takeWhile_cons, List.takeWhile_cons]
      split
      · exact congrArg (c :: ·) ih
      · rfl

variable (field : List UInt8) (outSz : Nat) (body : List UInt8)

theorem spelled_extracted (value : List UInt8) (spells : Spells field outSz body value) :
    extractJsonStringField (body ++ [0]) field outSz = (0, some value) := by
  apply (extracts_iff _ field outSz value spells.filled spells.short).mpr
  rw [cString_terminated]
  exact spells.behind

theorem hidden_extracted (hides : Hides field outSz body) :
    (extractJsonStringField (body ++ [0]) field outSz).1 = -1 ∧
      (extractJsonStringField (body ++ [0]) field outSz).2.getD [] = [] := by
  have refused := (refuses_iff (body ++ [0]) field outSz).mpr (by
    rw [cString_terminated]
    exact hides)
  refine ⟨refused, ?_⟩
  cases search : strstr (needle field) (cString (body ++ [0])) with
  | none =>
      rw [field_missing _ field outSz search]
      rfl
  | some found =>
      obtain ⟨before, after, first, -⟩ := strstr_some _ _ _ search
      rw [field_found _ field outSz before after first] at refused ⊢
      split at refused
      · cases refused
      · next empty => exact List.length_eq_zero_iff.mp (Nat.eq_zero_of_not_pos empty)

end Readable

section Documents

/-- An object whose first member is the identifier of a task. -/
def taskDocument (id more : List UInt8) : List UInt8 :=
  text "\x7b\"id\":\"" ++ id ++ 34 :: more

/-- The second member of the object is the status of the task. -/
def statusMember (status rest : List UInt8) : List UInt8 :=
  text ",\"status\":\"" ++ status ++ 34 :: rest

/-- Nothing in the string has to be escaped, and it fits the array of the task. -/
structure Identifier (id : List UInt8) : Prop where
  filled : id ≠ []
  plain : id.all isPlain = true
  short : id.length < 256

theorem plain_quote (s : List UInt8) (plain : s.all isPlain = true) : 34 ∉ s ∧ 0 ∉ s := by
  constructor
  · intro member
    have quote := List.all_eq_true.mp plain 34 member
    cases quote
  · intro member
    have control := List.all_eq_true.mp plain 0 member
    cases control

/-- A text splits at its first quote in one way. -/
theorem quote_split (first second more later : List UInt8) (none : 34 ∉ first) (free : 34 ∉ second)
    (same : first ++ 34 :: more = second ++ 34 :: later) : first = second ∧ more = later := by
  have upTo (s rest : List UInt8) (absent : 34 ∉ s) :
      (s ++ 34 :: rest).takeWhile (· ≠ 34) = s := by
    induction s with
    | nil => rfl
    | cons c s ih =>
        have other : c ≠ 34 := fun quote => absent (quote ▸ List.mem_cons_self)
        have tail := ih fun member => absent (List.mem_cons_of_mem _ member)
        rw [List.cons_append, List.takeWhile_cons_of_pos (by simpa using other), tail]
  have equal : first = second := by
    rw [← upTo first more none, same, upTo second later free]
  rw [equal] at same
  exact ⟨equal, List.tail_eq_of_cons_eq (List.append_cancel_left same)⟩

/-- Bytes other than a quote begin no occurrence of a name. -/
theorem strstr_skip (needle s rest : List UInt8) (free : 34 ∉ s) :
    strstr (34 :: needle) (s ++ rest) = strstr (34 :: needle) rest := by
  induction s with
  | nil => rfl
  | cons c s ih =>
      have other : (34 == c) = false := by
        rw [beq_eq_false_iff_ne]
        exact fun quote => free (quote ▸ List.mem_cons_self)
      have tail := ih fun member => free (List.mem_cons_of_mem _ member)
      simp only [List.cons_append, strstr, List.isPrefixOf, other, Bool.false_and,
        Bool.false_eq_true, if_false, tail]

theorem cString_behind (front more : List UInt8) (clean : 0 ∉ front) :
    cString (front ++ more) = front ++ cString more := by
  apply List.takeWhile_append_of_pos
  intro c member
  have other : c ≠ 0 := fun zero => clean (zero ▸ member)
  simpa using other

theorem task_document_string (id more : List UInt8) (clean : 0 ∉ id) :
    cString (taskDocument id more ++ [0]) = taskDocument id (cString (more ++ [0])) := by
  have front : 0 ∉ text "\x7b\"id\":\"" ++ id ++ [34] := by
    have opening : 0 ∉ text "\x7b\"id\":\"" := by decide
    have quote : (0 : UInt8) ∉ [34] := by decide
    simp only [List.mem_append, opening, clean, quote, or_self, not_false_iff]
  have whole := cString_behind _ (more ++ [0]) front
  simp only [List.append_assoc, List.cons_append, List.nil_append] at whole
  simp only [taskDocument, List.append_assoc, List.cons_append]
  exact whole

/-- What `submit_task` finds in the answer to an accepted task. -/
theorem accepted_id (id more : List UInt8) (identifier : Identifier id) :
    extractJsonId (taskDocument id more ++ [0]) 256 = (0, some id) := by
  obtain ⟨quote, clean⟩ := plain_quote id identifier.plain
  have search : strstr (needle (text "id")) (cString (taskDocument id more ++ [0])) =
      some (needle (text "id") ++ (id ++ 34 :: cString (more ++ [0]))) := by
    rw [task_document_string id more clean, taskDocument, List.append_assoc]
    rfl
  obtain ⟨before, first⟩ := firstAt_of_strstr _ _ _ search
  have copied := copy_plain 256 0 id (cString (more ++ [0])) identifier.plain
  rw [List.take_of_length_le (Nat.le_of_lt_succ identifier.short)] at copied
  rw [extractJsonId, field_found _ (text "id") 256 before _ first, copied,
    if_pos (List.length_pos_iff.mpr identifier.filled)]

/-- The name of the second member is the first that is found. -/
theorem status_search (id status rest : List UInt8) (quote : 34 ∉ id) :
    strstr (needle (text "status")) (taskDocument id (statusMember status rest)) =
      some (needle (text "status") ++ (status ++ 34 :: rest)) := by
  have opening : strstr (needle (text "status")) (taskDocument id (statusMember status rest)) =
      strstr (needle (text "status")) (34 :: (id ++ 34 :: statusMember status rest)) := by
    rw [taskDocument, List.append_assoc]
    rfl
  have begins : (needle (text "status")).isPrefixOf (34 :: (id ++ 34 :: statusMember status rest)) =
      false := by
    rw [Bool.eq_false_iff, ne_eq, List.isPrefixOf_iff_prefix]
    rintro ⟨behind, same⟩
    have inside : text "status" ++ 34 :: (58 :: 34 :: behind) =
        id ++ 34 :: statusMember status rest := List.tail_eq_of_cons_eq same
    have later := (quote_split _ _ _ _ (by decide) quote inside).2
    -- Behind the identifier stands a comma, and behind a name a colon.
    have colon : (58 : UInt8) = 44 := (List.cons.inj later).1
    cases colon
  rw [opening, strstr, if_neg (Bool.eq_false_iff.mp begins)]
  have skipped := strstr_skip (text "status\":\"") id (34 :: statusMember status rest) quote
  rw [show needle (text "status") = 34 :: text "status\":\"" from rfl, skipped, statusMember,
    List.append_assoc]
  rfl

/-- What `poll_task` finds in the answer about a task. -/
theorem reported_status (id status rest : List UInt8) (identifier : Identifier id)
    (filled : status ≠ []) (named : status.all isPlain = true) (short : status.length < 128) :
    extractJsonStatus (taskDocument id (statusMember status rest) ++ [0]) 128 =
      (0, some status) := by
  obtain ⟨quote, clean⟩ := plain_quote id identifier.plain
  obtain ⟨_, none⟩ := plain_quote status named
  have front : 0 ∉ text ",\"status\":\"" ++ status ++ [34] := by
    have opening : 0 ∉ text ",\"status\":\"" := by decide
    have quote : (0 : UInt8) ∉ [34] := by decide
    simp only [List.mem_append, opening, none, quote, or_self, not_false_iff]
  have member : cString (statusMember status rest ++ [0]) =
      statusMember status (cString (rest ++ [0])) := by
    have whole := cString_behind _ (rest ++ [0]) front
    simp only [List.append_assoc, List.cons_append, List.nil_append] at whole
    simp only [statusMember, List.append_assoc, List.cons_append]
    exact whole
  have search : strstr (needle (text "status"))
      (cString (taskDocument id (statusMember status rest) ++ [0])) =
        some (needle (text "status") ++ (status ++ 34 :: cString (rest ++ [0]))) := by
    rw [task_document_string id _ clean, member, status_search id status _ quote]
  obtain ⟨before, first⟩ := firstAt_of_strstr _ _ _ search
  have copied := copy_plain 128 0 status (cString (rest ++ [0])) named
  rw [List.take_of_length_le (Nat.le_of_lt_succ short)] at copied
  rw [extractJsonStatus, field_found _ (text "status") 128 before _ first, copied,
    if_pos (List.length_pos_iff.mpr filled)]

/-- A compact document spells its identifier and its status. -/
theorem document_spells_id (id more : List UInt8) (identifier : Identifier id) :
    Spells (text "id") 256 (taskDocument id more) id := by
  have found := (extracts_iff _ (text "id") 256 id identifier.filled identifier.short).mp
    (accepted_id id more identifier)
  rw [cString_terminated] at found
  exact ⟨identifier.filled, identifier.short, found⟩

theorem document_spells_status (id status rest : List UInt8) (identifier : Identifier id)
    (filled : status ≠ []) (named : status.all isPlain = true) (short : status.length < 128) :
    Spells (text "status") 128 (taskDocument id (statusMember status rest)) status := by
  have found := (extracts_iff _ (text "status") 128 status filled short).mp
    (reported_status id status rest identifier filled named short)
  rw [cString_terminated] at found
  exact ⟨filled, short, found⟩

end Documents

end RyzenBuild.Runway
