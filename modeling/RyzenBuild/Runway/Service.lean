import RyzenBuild.Lib.Trace
import RyzenBuild.Runway.Client

/-!
The client beside the service that keeps the tasks. The service belongs to somebody
else; of it there is only the protocol: every task is under way under some name until it
has succeeded, failed or been canceled, and stays what it then is. It answers or turns
away what it likes, in a spelling that the client can read or not, other clients start
tasks of their own, and connections break.
-/
namespace RyzenBuild.Runway

open Kernel Json

inductive Phase where
  | underway (name : List UInt8)
  | succeeded
  | failed
  | canceled
  deriving DecidableEq

def Phase.name : Phase → List UInt8
  | .underway name => name
  | .succeeded => text "SUCCEEDED"
  | .failed => text "FAILED"
  | .canceled => text "CANCELED"

def Phase.finished : Phase → Bool
  | .underway _ => false
  | _ => true

/-- The exit status that stands for the end of a task. -/
def Phase.verdict : Phase → Int
  | .succeeded => 0
  | _ => 1

/-- A name that can be told from the ends. -/
def Phase.Sound : Phase → Prop
  | .underway name => name ≠ text "SUCCEEDED" ∧ name ≠ text "FAILED" ∧ name ≠ text "CANCELED"
  | _ => True

instance (phase : Phase) : Decidable phase.Sound := by
  cases phase <;> unfold Phase.Sound <;> infer_instance

structure System where
  process : Process
  tasks : List UInt8 → Option Phase

inductive Event where
  /-- A task goes on. -/
  | moved (id : List UInt8) (phase : Phase)
  /-- A task of another client. -/
  | foreign (id : List UInt8) (phase : Phase)
  /-- The answer to a submission, with the identifier of the task. -/
  | accepted (id : List UInt8) (phase : Phase) (code : Int) (chunks : List (List UInt8))
  /-- The answer to a submission in which the client finds no identifier. -/
  | illegible (id : List UInt8) (phase : Phase) (code : Int) (chunks : List (List UInt8))
  /-- The answer about a task, with its status. -/
  | reported (id : List UInt8) (phase : Phase) (code : Int) (chunks : List (List UInt8))
  /-- The answer about a task in which the client finds no status. -/
  | unclear (id : List UInt8) (code : Int) (chunks : List (List UInt8))
  /-- A submission is turned away. -/
  | declined (code : Int) (chunks : List (List UInt8))
  /-- The answer about a task has to wait. -/
  | unavailable (code : Int) (chunks : List (List UInt8))
  | broken (message : List UInt8)

def System.advance (s : System) : Event → System
  | .moved id phase => { s with tasks := Function.update s.tasks id (some phase) }
  | .foreign id phase => { s with tasks := Function.update s.tasks id (some phase) }
  | .accepted id phase code chunks =>
      { process := s.process.answered (.response code chunks)
        tasks := Function.update s.tasks id (some phase) }
  | .illegible id phase code chunks =>
      { process := s.process.answered (.response code chunks)
        tasks := Function.update s.tasks id (some phase) }
  | .reported _ _ code chunks => { s with process := s.process.answered (.response code chunks) }
  | .unclear _ code chunks => { s with process := s.process.answered (.response code chunks) }
  | .declined code chunks => { s with process := s.process.answered (.response code chunks) }
  | .unavailable code chunks => { s with process := s.process.answered (.response code chunks) }
  | .broken message => { s with process := s.process.answered (.error message) }

def Successful (code : Int) : Prop := 200 ≤ code ∧ code < 300

/-- The process waits for the answer to a request of this method. -/
def System.Asks (apiKey : List UInt8) (s : System) (method : List UInt8) : Prop :=
  ∃ request, s.process.stage.request apiKey = some request ∧ request.method = method

/-- The process waits for the answer to a request about this task. -/
def System.AsksFor (apiKey : List UInt8) (s : System) (id : List UInt8) : Prop :=
  ∃ request, s.process.stage.request apiKey = some request ∧ request.method = text "GET" ∧
    request.url = tasksUrl ++ id

/-- What the service and the connection may do. What the client finds in an answer is
what the service says; it need not find anything. -/
def Possible (apiKey : List UInt8) (s : System) : Event → Prop
  | .moved id _ => ∃ before, s.tasks id = some before ∧ before.finished = false
  | .foreign id _ => s.tasks id = none
  | .accepted id phase code chunks =>
      s.Asks apiKey (text "POST") ∧ s.tasks id = none ∧ phase.finished = false ∧
        Successful code ∧ Spells (text "id") 256 chunks.flatten id
  | .illegible id phase code chunks =>
      s.Asks apiKey (text "POST") ∧ s.tasks id = none ∧ phase.finished = false ∧
        Successful code ∧ Hides (text "id") 256 chunks.flatten
  | .reported id phase code chunks =>
      s.AsksFor apiKey id ∧ s.tasks id = some phase ∧ phase.Sound ∧ Successful code ∧
        Spells (text "status") 128 chunks.flatten phase.name
  | .unclear id code chunks =>
      s.AsksFor apiKey id ∧ Successful code ∧ Hides (text "status") 128 chunks.flatten
  | .declined code _ => s.Asks apiKey (text "POST") ∧ ¬Successful code
  | .unavailable code _ => s.Asks apiKey (text "GET") ∧ ¬Successful code
  | .broken _ => ∃ request, s.process.stage.request apiKey = some request

/-- The task that the service has made of a submission. -/
def Event.accepts : Event → Option (List UInt8)
  | .accepted id _ _ _ => some id
  | .illegible id _ _ _ => some id
  | _ => none

/-- The identifier that the client is told. -/
def Event.names : Event → Option (List UInt8)
  | .accepted id _ _ _ => some id
  | _ => none

/-- What the client is told of a task; `none` if it finds no status. -/
def Event.reports : Event → Option (List UInt8 × Option Phase)
  | .reported id phase _ _ => some (id, some phase)
  | .unclear id _ _ => some (id, none)
  | _ => none

/-- The client gives up. -/
def Event.stops : Event → Bool
  | .declined _ _ => true
  | .illegible _ _ _ _ => true
  | .broken _ => true
  | _ => false

def accepted (events : List Event) : List (List UInt8) := events.filterMap Event.accepts

def named (events : List Event) : List (List UInt8) := events.filterMap Event.names

def reports (events : List Event) : List (List UInt8 × Option Phase) :=
  events.filterMap Event.reports

def taskLine (id : List UInt8) : List UInt8 := text "task_id=" ++ id ++ text "\n"

def statusLine (phase : Option Phase) : List UInt8 :=
  text "status=" ++ (phase.map Phase.name).getD (text "UNKNOWN") ++ text "\n"

/-- What the client has printed of the answers. -/
def told (events : List Event) : List UInt8 :=
  (named events).flatMap taskLine ++ (reports events).flatMap fun report => statusLine report.2

/-- A report that the task is not at its end, or no word of it. -/
def Waits (report : List UInt8 × Option Phase) : Prop :=
  ∀ phase, report.2 = some phase → phase.finished = false

/-- The task of the client: the one it was started with, or the one it has submitted. -/
def Own (began : Stage) (events : List Event) (id : List UInt8) : Prop :=
  began = .polling id ∧ accepted events = [] ∨
    (∃ cfg, began = .submitting cfg) ∧ accepted events = [id] ∧ named events = [id]

/-- Where the client is after these events. -/
inductive Course (began : Stage) (events : List Event) (s : System) : Prop
  | submitting (cfg : RunwayConfig) (stage : s.process.stage = .submitting cfg)
      (same : began = .submitting cfg)
      (quiet : accepted events = [] ∧ named events = [] ∧ reports events = [])
      (going : ∀ event ∈ events, event.stops = false) (printed : s.process.stdout = told events)
  | polling (id : List UInt8) (stage : s.process.stage = .polling id) (short : id.length < 256)
      (own : Own began events id) (going : ∀ event ∈ events, event.stops = false)
      (waits : ∀ report ∈ reports events, report.1 = id ∧ Waits report)
      (printed : s.process.stdout = told events)
  | finished (id : List UInt8) (phase : Phase) (before : List (List UInt8 × Option Phase))
      (stage : s.process.stage = .exited phase.verdict) (own : Own began events id)
      (going : ∀ event ∈ events, event.stops = false) (ended : phase.finished = true)
      (stands : s.tasks id = some phase) (last : reports events = before ++ [(id, some phase)])
      (waits : ∀ report ∈ before, report.1 = id ∧ Waits report)
      (printed : told events <+: s.process.stdout)
  | stopped (stage : s.process.stage = .exited 1)
      (cause : began = .exited 1 ∨ ∃ event ∈ events, event.stops = true)
      (once : (accepted events).length ≤ 1) (waits : ∀ report ∈ reports events, Waits report)
      (printed : s.process.stdout = told events)

section Answers

theorem successful_passes (code : Int) (successful : Successful code) :
    ¬(code < 200 ∨ code ≥ 300) := by
  obtain ⟨least, most⟩ := successful
  omega

theorem turned_away (code : Int) (unsuccessful : ¬Successful code) : code < 200 ∨ code ≥ 300 := by
  rw [Successful] at unsuccessful
  omega

theorem submission_accepted (p : Process) (cfg : RunwayConfig) (stage : p.stage = .submitting cfg)
    (code : Int) (chunks : List (List UInt8)) (id : List UInt8) (successful : Successful code)
    (spells : Spells (text "id") 256 chunks.flatten id) :
    (p.answered (.response code chunks)).stage = .polling id ∧
      (p.answered (.response code chunks)).stdout = p.stdout ++ taskLine id := by
  have found := spelled_extracted _ _ _ _ spells
  simp only [Process.answered, stage, received_whole, submitAnswered, extractJsonId, found,
    if_neg (successful_passes code successful)]
  exact ⟨rfl, rfl⟩

/-- The task is accepted, and the client does not know which one it is. -/
theorem submission_illegible (p : Process) (cfg : RunwayConfig) (stage : p.stage = .submitting cfg)
    (code : Int) (chunks : List (List UInt8)) (successful : Successful code)
    (hides : Hides (text "id") 256 chunks.flatten) :
    (p.answered (.response code chunks)).stage = .exited 1 ∧
      (p.answered (.response code chunks)).stdout = p.stdout := by
  have refused := (hidden_extracted _ _ _ hides).1
  simp only [Process.answered, stage, received_whole, submitAnswered, extractJsonId, refused,
    if_neg (successful_passes code successful)]
  exact ⟨rfl, rfl⟩

theorem submission_declined (p : Process) (cfg : RunwayConfig) (stage : p.stage = .submitting cfg)
    (code : Int) (chunks : List (List UInt8)) (unsuccessful : ¬Successful code) :
    (p.answered (.response code chunks)).stage = .exited 1 ∧
      (p.answered (.response code chunks)).stdout = p.stdout := by
  simp only [Process.answered, stage, submitAnswered, if_pos (turned_away code unsuccessful)]
  exact ⟨rfl, rfl⟩

theorem poll_put_off (p : Process) (id : List UInt8) (stage : p.stage = .polling id)
    (code : Int) (chunks : List (List UInt8)) (unsuccessful : ¬Successful code) :
    (p.answered (.response code chunks)).stage = .polling id ∧
      (p.answered (.response code chunks)).stdout = p.stdout := by
  simp only [Process.answered, stage, pollAnswered, if_pos (turned_away code unsuccessful)]
  exact ⟨stage, rfl⟩

/-- What a report does depends on whether the task has ended. -/
theorem poll_reported (p : Process) (own : List UInt8) (stage : p.stage = .polling own)
    (phase : Phase) (sound : phase.Sound) (code : Int) (chunks : List (List UInt8))
    (successful : Successful code) (spells : Spells (text "status") 128 chunks.flatten phase.name) :
    (p.answered (.response code chunks)).stage =
        (if phase.finished then .exited phase.verdict else .polling own) ∧
      ∃ tail, (p.answered (.response code chunks)).stdout =
          p.stdout ++ statusLine (some phase) ++ tail ∧
        (phase.finished = false → tail = []) := by
  have found := spelled_extracted _ _ _ _ spells
  have filled := spells.filled
  simp only [Process.answered, stage, received_whole, pollAnswered, extractJsonStatus, found,
    if_neg (successful_passes code successful), Option.getD_some, if_pos filled]
  cases phase with
  | underway name =>
      obtain ⟨success, failure, cancel⟩ := sound
      have success : (Phase.underway name).name ≠ text "SUCCEEDED" := success
      have others : ¬((Phase.underway name).name = text "FAILED" ∨
          (Phase.underway name).name = text "CANCELED") := not_or.mpr ⟨failure, cancel⟩
      simp only [if_neg success, if_neg others]
      exact ⟨stage, [], (List.append_nil _).symm, fun _ => rfl⟩
  | succeeded =>
      have success : Phase.succeeded.name = text "SUCCEEDED" := rfl
      simp only [if_pos success]
      split
      · exact ⟨rfl, _, rfl, fun going => by cases going⟩
      · exact ⟨rfl, _, rfl, fun going => by cases going⟩
  | failed => exact ⟨rfl, _, rfl, fun going => by cases going⟩
  | canceled => exact ⟨rfl, _, rfl, fun going => by cases going⟩

/-- Without a status in the answer the client asks again, whatever the task is. -/
theorem poll_unclear (p : Process) (own : List UInt8) (stage : p.stage = .polling own) (code : Int)
    (chunks : List (List UInt8)) (successful : Successful code)
    (hides : Hides (text "status") 128 chunks.flatten) :
    (p.answered (.response code chunks)).stage = .polling own ∧
      (p.answered (.response code chunks)).stdout = p.stdout ++ statusLine none := by
  have empty := (hidden_extracted _ _ _ hides).2
  have success : ([] : List UInt8) ≠ text "SUCCEEDED" := by decide
  have others : ¬(([] : List UInt8) = text "FAILED" ∨ ([] : List UInt8) = text "CANCELED") := by
    decide
  simp only [Process.answered, stage, received_whole, pollAnswered, extractJsonStatus, empty,
    if_neg (successful_passes code successful), if_neg success, if_neg others]
  exact ⟨stage, rfl⟩

theorem connection_broken (p : Process) (message : List UInt8)
    (waiting : ∀ status, p.stage ≠ .exited status) :
    (p.answered (.error message)).stage = .exited 1 ∧
      (p.answered (.error message)).stdout = p.stdout := by
  cases stage : p.stage with
  | submitting cfg =>
      simp only [Process.answered, stage]
      exact ⟨rfl, rfl⟩
  | polling id =>
      simp only [Process.answered, stage]
      exact ⟨rfl, rfl⟩
  | exited status => exact absurd stage (waiting status)

end Answers

section Requests

variable (apiKey : List UInt8) (stage : Stage) (request : HttpRequest)
  (asked : stage.request apiKey = some request)

include asked

theorem posts_submission (post : request.method = text "POST") :
    ∃ cfg, stage = .submitting cfg := by
  cases stage with
  | submitting cfg => exact ⟨cfg, rfl⟩
  | polling id =>
      obtain rfl := Option.some.inj asked
      have other : text "GET" ≠ text "POST" := by decide
      exact absurd post other
  | exited status => cases asked

/-- The request for a task names it, as long as it fits its array. -/
theorem gets_task (get : request.method = text "GET") : ∃ id, stage = .polling id ∧
    ∀ other, id.length < 256 → request.url = tasksUrl ++ other → other = id := by
  cases stage with
  | submitting cfg =>
      obtain rfl := Option.some.inj asked
      have other : text "POST" ≠ text "GET" := by decide
      exact absurd get other
  | polling id =>
      obtain rfl := Option.some.inj asked
      refine ⟨id, rfl, ?_⟩
      intro other short same
      have front : tasksUrl.length = 38 := by decide
      have whole : (tasksUrl ++ id).length ≤ 1024 - 1 := by
        rw [List.length_append]
        omega
      have same : (tasksUrl ++ id).take (1024 - 1) = tasksUrl ++ other := same
      rw [List.take_of_length_le whole] at same
      exact (List.append_cancel_left same).symm
  | exited status => cases asked

theorem asks_still (status : Int) : stage ≠ .exited status := by
  rintro rfl
  cases asked

end Requests

section Histories

variable (before : List Event) (event : Event)

theorem accepted_snoc : accepted (before ++ [event]) = accepted before ++ event.accepts.toList := by
  rw [accepted, List.filterMap_append]
  cases event <;> rfl

theorem named_snoc : named (before ++ [event]) = named before ++ event.names.toList := by
  rw [named, List.filterMap_append]
  cases event <;> rfl

theorem reports_snoc : reports (before ++ [event]) = reports before ++ event.reports.toList := by
  rw [reports, List.filterMap_append]
  cases event <;> rfl

theorem all_snoc (property : Event → Prop) :
    (∀ other ∈ before ++ [event], property other) ↔
      (∀ other ∈ before, property other) ∧ property event := by
  simp only [List.mem_append, List.mem_singleton, or_imp, forall_and, forall_eq]

theorem told_quiet (names : event.names = none) (reported : event.reports = none) :
    told (before ++ [event]) = told before := by
  rw [told, told, named_snoc, reports_snoc, names, reported]
  simp

theorem told_reported (id : List UInt8) (phase : Option Phase) (names : event.names = none)
    (reported : event.reports = some (id, phase)) :
    told (before ++ [event]) = told before ++ statusLine phase := by
  rw [told, told, named_snoc, reports_snoc, names, reported]
  simp

theorem told_named (id : List UInt8) (none : reports before = [])
    (names : event.names = some id) (reported : event.reports = Option.none) :
    told (before ++ [event]) = told before ++ taskLine id := by
  rw [told, told, named_snoc, reports_snoc, names, reported, none]
  simp

end Histories

section Steps

variable (began : Stage) (before : List Event) (event : Event) (s t : System)

theorem own_quiet (id : List UInt8) (accepts : event.accepts = none) (names : event.names = none)
    (own : Own began before id) : Own began (before ++ [event]) id := by
  rw [Own, accepted_snoc, named_snoc, accepts, names]
  simpa [Own] using own

theorem own_once (id : List UInt8) (own : Own began before id) : (accepted before).length ≤ 1 := by
  rcases own with ⟨_, none⟩ | ⟨_, one, _⟩
  · rw [none]
    exact Nat.zero_le 1
  · rw [one]
    exact Nat.le_refl 1

/-- What the client does not hear of changes nothing for it. -/
theorem course_quiet (course : Course began before s) (accepts : event.accepts = none)
    (names : event.names = none) (reported : event.reports = none) (goes : event.stops = false)
    (stage : t.process.stage = s.process.stage) (stdout : t.process.stdout = s.process.stdout)
    (kept : ∀ id phase, phase.finished = true → s.tasks id = some phase → t.tasks id = some phase) :
    Course began (before ++ [event]) t := by
  have lines := told_quiet before event names reported
  have same : reports (before ++ [event]) = reports before := by
    rw [reports_snoc, reported]
    exact List.append_nil _
  have made : accepted (before ++ [event]) = accepted before := by
    rw [accepted_snoc, accepts]
    exact List.append_nil _
  have called : named (before ++ [event]) = named before := by
    rw [named_snoc, names]
    exact List.append_nil _
  cases course with
  | submitting cfg here first quiet going printed =>
      exact .submitting cfg (stage.trans here) first
        ⟨made.trans quiet.1, called.trans quiet.2.1, same.trans quiet.2.2⟩
        ((all_snoc before event _).mpr ⟨going, goes⟩) (by rw [stdout, lines, printed])
  | polling id here short own going waits printed =>
      exact .polling id (stage.trans here) short (own_quiet began before event id accepts names own)
        ((all_snoc before event _).mpr ⟨going, goes⟩) (same ▸ waits)
        (by rw [stdout, lines, printed])
  | finished id phase earlier here own going ended stands last waits printed =>
      exact .finished id phase earlier (stage.trans here)
        (own_quiet began before event id accepts names own)
        ((all_snoc before event _).mpr ⟨going, goes⟩) ended (kept id phase ended stands)
        (same.trans last) waits (by rw [stdout, lines]; exact printed)
  | stopped here cause once waits printed =>
      refine .stopped (stage.trans here) ?_ (made ▸ once) (same ▸ waits)
        (by rw [stdout, lines, printed])
      rcases cause with first | ⟨other, member, stops⟩
      · exact .inl first
      · exact .inr ⟨other, List.mem_append_left _ member, stops⟩

/-- A client that gives up has heard of no end. -/
theorem course_stopped (course : Course began before s) (names : event.names = none)
    (reported : event.reports = none) (stops : event.stops = true)
    (waiting : ∀ status, s.process.stage ≠ .exited status)
    (single : event.accepts = none ∨ ∃ cfg, s.process.stage = .submitting cfg)
    (stage : t.process.stage = .exited 1) (stdout : t.process.stdout = s.process.stdout) :
    Course began (before ++ [event]) t := by
  have lines := told_quiet before event names reported
  have same : reports (before ++ [event]) = reports before := by
    rw [reports_snoc, reported]
    exact List.append_nil _
  have cause : ∃ other ∈ before ++ [event], other.stops = true :=
    ⟨event, List.mem_append_right _ List.mem_cons_self, stops⟩
  cases course with
  | submitting cfg here first quiet going printed =>
      refine .stopped stage (.inr cause) ?_ ?_ (by rw [stdout, lines, printed])
      · rw [accepted_snoc, quiet.1, List.nil_append]
        cases event.accepts <;> simp
      · rw [same, quiet.2.2]
        intro report member
        cases member
  | polling id here short own going waits printed =>
      refine .stopped stage (.inr cause) ?_ ?_ (by rw [stdout, lines, printed])
      · rcases single with none | ⟨cfg, submitting⟩
        · rw [accepted_snoc, none]
          exact (List.append_nil _).symm ▸ own_once began before id own
        · rw [submitting] at here
          cases here
      · rw [same]
        exact fun report member => (waits report member).2
  | finished id phase earlier here => exact absurd here (waiting _)
  | stopped here => exact absurd here (waiting _)

/-- A client that hears of its task and not of its end goes on asking. -/
theorem course_heard (id : List UInt8) (phase : Option Phase) (course : Course began before s)
    (asks : s.process.stage = .polling id) (accepts : event.accepts = none)
    (names : event.names = none) (reported : event.reports = some (id, phase))
    (goes : event.stops = false) (waits : Waits (id, phase)) (stage : t.process.stage = .polling id)
    (stdout : t.process.stdout = s.process.stdout ++ statusLine phase) :
    Course began (before ++ [event]) t := by
  have lines := told_reported before event id phase names reported
  cases course with
  | submitting _ here =>
      rw [asks] at here
      cases here
  | polling _ here short own going earlier printed =>
      obtain rfl := Stage.polling.inj (asks.symm.trans here)
      refine .polling id stage short (own_quiet began before event id accepts names own)
        ((all_snoc before event _).mpr ⟨going, goes⟩) ?_ (by rw [stdout, lines, printed])
      rw [reports_snoc, reported]
      intro report member
      rcases List.mem_append.mp member with old | last
      · exact earlier report old
      · obtain rfl := List.mem_singleton.mp last
        exact ⟨rfl, waits⟩
  | finished _ _ _ here =>
      rw [asks] at here
      cases here
  | stopped here =>
      rw [asks] at here
      cases here

end Steps

theorem course_accepted (began : Stage) (before : List Event) (s : System)
    (apiKey id : List UInt8) (phase : Phase) (code : Int) (chunks : List (List UInt8))
    (course : Course began before s)
    (possible : Possible apiKey s (.accepted id phase code chunks)) :
    Course began (before ++ [.accepted id phase code chunks])
      (s.advance (.accepted id phase code chunks)) := by
  obtain ⟨⟨request, asked, post⟩, _, _, successful, spells⟩ := possible
  obtain ⟨cfg, stage⟩ := posts_submission apiKey _ request asked post
  obtain ⟨polling, stdout⟩ := submission_accepted s.process cfg stage code chunks id successful
    spells
  cases course with
  | submitting _ _ same quiet going printed =>
      refine .polling id polling spells.short (.inr ⟨⟨_, same⟩, ?_, ?_⟩)
        ((all_snoc _ _ _).mpr ⟨going, rfl⟩) ?_ ?_
      · rw [accepted_snoc, quiet.1]
        rfl
      · rw [named_snoc, quiet.2.1]
        rfl
      · rw [reports_snoc, quiet.2.2]
        intro report member
        cases member
      · rw [told_named before _ id quiet.2.2 rfl rfl, ← printed]
        exact stdout
  | polling _ here =>
      rw [stage] at here
      cases here
  | finished _ _ _ here =>
      rw [stage] at here
      cases here
  | stopped here =>
      rw [stage] at here
      cases here

/-- A report of the end is the last one. -/
theorem course_ended (began : Stage) (before : List Event) (event : Event) (s t : System)
    (id : List UInt8) (phase : Phase) (ended : phase.finished = true)
    (course : Course began before s) (asks : s.process.stage = .polling id)
    (accepts : event.accepts = none) (names : event.names = none)
    (reported : event.reports = some (id, some phase)) (goes : event.stops = false)
    (stage : t.process.stage = .exited phase.verdict) (stands : t.tasks id = some phase)
    (stdout : s.process.stdout ++ statusLine (some phase) <+: t.process.stdout) :
    Course began (before ++ [event]) t := by
  have lines := told_reported before event id (some phase) names reported
  cases course with
  | submitting _ here =>
      rw [asks] at here
      cases here
  | polling _ here short own going earlier printed =>
      obtain rfl := Stage.polling.inj (asks.symm.trans here)
      refine .finished id phase (reports before) stage
        (own_quiet began before event id accepts names own)
        ((all_snoc before event _).mpr ⟨going, goes⟩) ended stands ?_ earlier ?_
      · rw [reports_snoc, reported]
        rfl
      · rw [lines, ← printed]
        exact stdout
  | finished _ _ _ here =>
      rw [asks] at here
      cases here
  | stopped here =>
      rw [asks] at here
      cases here

/-- The client asks for its own task, so an answer is about this one. -/
theorem asks_own (began : Stage) (before : List Event) (s : System) (apiKey id : List UInt8)
    (course : Course began before s) (asks : s.AsksFor apiKey id) :
    s.process.stage = .polling id := by
  obtain ⟨request, asked, get, url⟩ := asks
  obtain ⟨own, stage, named⟩ := gets_task apiKey _ request asked get
  cases course with
  | submitting _ here =>
      rw [stage] at here
      cases here
  | polling _ here short =>
      obtain rfl := Stage.polling.inj (stage.symm.trans here)
      rw [named id short url]
      exact here
  | finished _ _ _ here =>
      rw [stage] at here
      cases here
  | stopped here =>
      rw [stage] at here
      cases here

theorem course_reported (began : Stage) (before : List Event) (s : System)
    (apiKey id : List UInt8) (phase : Phase) (code : Int) (chunks : List (List UInt8))
    (course : Course began before s)
    (possible : Possible apiKey s (.reported id phase code chunks)) :
    Course began (before ++ [.reported id phase code chunks])
      (s.advance (.reported id phase code chunks)) := by
  obtain ⟨asks, stands, sound, successful, spells⟩ := possible
  have stage := asks_own began before s apiKey id course asks
  obtain ⟨next, tail, stdout, silent⟩ := poll_reported s.process id stage phase sound code chunks
    successful spells
  cases ended : phase.finished with
  | false =>
      rw [ended] at next
      rw [silent ended, List.append_nil] at stdout
      refine course_heard began before _ s _ id (some phase) course stage rfl rfl rfl rfl ?_ next
        stdout
      intro other same
      rw [← Option.some.inj same]
      exact ended
  | true =>
      rw [ended] at next
      exact course_ended began before _ s _ id phase ended course stage rfl rfl rfl rfl next stands
        ⟨tail, stdout.symm⟩

theorem course_step (began : Stage) (before : List Event) (s : System) (apiKey : List UInt8)
    (event : Event) (course : Course began before s) (possible : Possible apiKey s event) :
    Course began (before ++ [event]) (s.advance event) := by
  cases event with
  | moved id phase =>
      obtain ⟨earlier, present, unfinished⟩ := possible
      refine course_quiet began before _ s _ course rfl rfl rfl rfl rfl rfl ?_
      intro other last ended stands
      have apart : other ≠ id := by
        rintro rfl
        rw [present] at stands
        obtain rfl := Option.some.inj stands
        rw [unfinished] at ended
        cases ended
      exact (Function.update_of_ne apart _ _).trans stands
  | foreign id phase =>
      refine course_quiet began before _ s _ course rfl rfl rfl rfl rfl rfl ?_
      intro other last _ stands
      have apart : other ≠ id := by
        rintro rfl
        rw [possible] at stands
        cases stands
      exact (Function.update_of_ne apart _ _).trans stands
  | accepted id phase code chunks =>
      exact course_accepted began before s apiKey id phase code chunks course possible
  | illegible id phase code chunks =>
      obtain ⟨⟨request, asked, post⟩, _, _, successful, hides⟩ := possible
      obtain ⟨cfg, stage⟩ := posts_submission apiKey _ request asked post
      obtain ⟨next, stdout⟩ := submission_illegible s.process cfg stage code chunks successful hides
      exact course_stopped began before _ s _ course rfl rfl rfl
        (asks_still apiKey _ request asked) (.inr ⟨cfg, stage⟩) next stdout
  | reported id phase code chunks =>
      exact course_reported began before s apiKey id phase code chunks course possible
  | unclear id code chunks =>
      obtain ⟨asks, successful, hides⟩ := possible
      have stage := asks_own began before s apiKey id course asks
      obtain ⟨next, stdout⟩ := poll_unclear s.process id stage code chunks successful hides
      exact course_heard began before _ s _ id none course stage rfl rfl rfl rfl
        (fun _ same => by cases same) next stdout
  | declined code chunks =>
      obtain ⟨⟨request, asked, post⟩, unsuccessful⟩ := possible
      obtain ⟨cfg, stage⟩ := posts_submission apiKey _ request asked post
      obtain ⟨next, stdout⟩ := submission_declined s.process cfg stage code chunks unsuccessful
      exact course_stopped began before _ s _ course rfl rfl rfl
        (asks_still apiKey _ request asked) (.inl rfl) next stdout
  | unavailable code chunks =>
      obtain ⟨⟨request, asked, get⟩, unsuccessful⟩ := possible
      obtain ⟨id, stage, _⟩ := gets_task apiKey _ request asked get
      obtain ⟨next, stdout⟩ := poll_put_off s.process id stage code chunks unsuccessful
      exact course_quiet began before _ s _ course rfl rfl rfl rfl (next.trans stage.symm) stdout
        fun _ _ _ stands => stands
  | broken message =>
      obtain ⟨request, asked⟩ := possible
      have waiting := asks_still apiKey _ request asked
      obtain ⟨next, stdout⟩ := connection_broken s.process message waiting
      exact course_stopped began before _ s _ course rfl rfl rfl waiting (.inl rfl) next stdout

theorem printed_short (s : List UInt8) : (printInto 256 s).length < 256 := by
  rw [printInto, List.length_take]
  omega

theorem course_begins (apiKey : Option (List UInt8)) (args : List (List UInt8))
    (tasks : List UInt8 → Option Phase) :
    Course (start apiKey args).stage [] ⟨start apiKey args, tasks⟩ := by
  have stopped (p : Process) (stage : p.stage = .exited 1) (stdout : p.stdout = []) :
      Course p.stage [] ⟨p, tasks⟩ :=
    .stopped stage (.inl stage) (Nat.zero_le 1) (fun _ member => by cases member) stdout
  unfold start
  cases apiKey with
  | none => exact stopped _ rfl rfl
  | some key =>
      cases key with
      | nil => exact stopped _ rfl rfl
      | cons c key =>
          cases parsed : parseArgs cfgInit args with
          | error message => exact stopped _ rfl rfl
          | ok cfg =>
              cases poll : cfg.pollOnly with
              | true =>
                  simp only [poll, if_true]
                  exact .polling (printInto 256 cfg.taskId) rfl (printed_short _) (.inl ⟨rfl, rfl⟩)
                    (fun _ member => by cases member) (fun _ member => by cases member) rfl
              | false =>
                  simp only [poll, Bool.false_eq_true, if_false]
                  exact .submitting cfg rfl rfl ⟨rfl, rfl, rfl⟩ (fun _ member => by cases member) rfl

/-- Over every run of client and service the client submits one task at most, asks for
no other than its own, waits as long as it hears of no end of it, and leaves with the
status that the task ended with: with zero only if the task has succeeded. -/
theorem client_follows_task (apiKey : Option (List UInt8)) (args : List (List UInt8))
    (tasks : List UInt8 → Option Phase) (events : List Event)
    (possible : Trace.Steps System.advance (Possible (apiKey.getD []))
      ⟨start apiKey args, tasks⟩ events) :
    Course (start apiKey args).stage events
      (Trace.run System.advance ⟨start apiKey args, tasks⟩ events) := by
  apply Trace.run_history System.advance (Possible (apiKey.getD []))
    (Course (start apiKey args).stage)
  · intro before s event course admitted
    exact course_step _ before s (apiKey.getD []) event course admitted
  · exact course_begins apiKey args tasks
  · exact possible

/-- A task whose first answer has its status where the client does not find it, and
whose last one comes in two pieces. -/
def mistEvents : List Event :=
  [.accepted (text "t1") (.underway (text "PENDING")) 200 [text "\x7b\"id\":\"t1\"\x7d"],
    .unavailable 429 [],
    .unclear (text "t1") 200 [text "\x7b\"status\": \"PENDING\"\x7d"],
    .moved (text "t1") .succeeded,
    .reported (text "t1") .succeeded 200
      [text "\x7b\"id\":\"t1\",\"sta", text "tus\":\"SUCCEEDED\"\x7d"]]

def mistSystem : System := ⟨start (some (text "key")) [text "--prompt", text "mist"], fun _ => none⟩

theorem mist_possible :
    Trace.Steps System.advance (Possible (text "key")) mistSystem mistEvents := by
  have identifier : Identifier (text "t1") := ⟨by decide, by decide, by decide⟩
  have successful : Successful 200 := ⟨by decide, by decide⟩
  have busy : ¬Successful 429 := fun good => absurd good.2 (by decide)
  have first : [text "\x7b\"id\":\"t1\"\x7d"].flatten = taskDocument (text "t1") (text "\x7d") := by
    decide
  have spells : Spells (text "id") 256 [text "\x7b\"id\":\"t1\"\x7d"].flatten (text "t1") := by
    rw [first]
    exact document_spells_id (text "t1") (text "\x7d") identifier
  have last : [text "\x7b\"id\":\"t1\",\"sta", text "tus\":\"SUCCEEDED\"\x7d"].flatten =
      taskDocument (text "t1") (statusMember (text "SUCCEEDED") (text "\x7d")) := by
    decide
  have ends : Spells (text "status") 128
      [text "\x7b\"id\":\"t1\",\"sta", text "tus\":\"SUCCEEDED\"\x7d"].flatten
      (text "SUCCEEDED") := by
    rw [last]
    exact document_spells_status (text "t1") (text "SUCCEEDED") (text "\x7d") identifier (by decide)
      (by decide) (by decide)
  have hides : Hides (text "status") 128 [text "\x7b\"status\": \"PENDING\"\x7d"].flatten :=
    .inl fun before after => strstr_none _ _ before after (by decide)
  obtain ⟨polling, _⟩ := submission_accepted mistSystem.process _ rfl 200 _ (text "t1") successful
    spells
  obtain ⟨still, _⟩ := poll_put_off _ (text "t1") polling 429 [] busy
  obtain ⟨again, _⟩ := poll_unclear _ (text "t1") still 200 _ successful hides
  have asks (stage : Stage) (same : stage = .polling (text "t1")) :
      ∃ request, stage.request (text "key") = some request ∧ request.method = text "GET" ∧
        request.url = tasksUrl ++ text "t1" := by
    rw [same]
    exact ⟨_, rfl, rfl, by decide⟩
  obtain ⟨request, asked, get, _⟩ := asks _ polling
  refine ⟨⟨⟨_, rfl, rfl⟩, rfl, rfl, successful, spells⟩, ⟨⟨request, asked, get⟩, busy⟩,
    ⟨asks _ ?_, successful, hides⟩, ⟨.underway (text "PENDING"), ?_, rfl⟩,
    ⟨asks _ ?_, ?_, trivial, successful, ends⟩, trivial⟩
  · simp only [System.advance]
    exact still
  · simp only [System.advance, Function.update_self]
  · simp only [System.advance]
    exact again
  · simp only [System.advance, Function.update_self]

theorem mist_course : Course mistSystem.process.stage mistEvents
    (Trace.run System.advance mistSystem mistEvents) :=
  client_follows_task (some (text "key")) [text "--prompt", text "mist"] (fun _ => none) mistEvents
    mist_possible

end RyzenBuild.Runway
