import RyzenBuild.Lib.Labelled
import RyzenBuild.Lib.CNumber
import RyzenBuild.DawnHex.Ioctl
import RyzenBuild.DawnHex.Write
import RyzenBuild.DawnHex.Notices

/-!
`dawnhex_ctl`, the command line to `/dev/dawnhex`. Its own verbs go through the
ioctls and its `cmd` through a write; what it prints of the pairs and their ladders
is meant for a reader.
-/
namespace RyzenBuild.DawnHex

open Kernel Ladder Digits Labelled

/-- The exit status and what was printed to the standard output. -/
structure Exit where
  status : Nat
  out : List UInt8
  deriving DecidableEq, Repr

/-- `die` and the usage messages write to the standard error only. -/
def failure : Exit := ⟨1, []⟩

/-- `(unsigned)strtoul(arg, NULL, 10)`. -/
def strtoulU32 (arg : List UInt8) : UInt32 := (CNumber.strtoull arg).1.toUInt32

def newline : List UInt8 := [10]

def pairRow (p : PairUapi) : List Field :=
  [(text "pair=", p.pairId.toNat), (text " a=", p.a.toNat), (text " b=", p.b.toNat),
    (text " mode=", p.mode.toNat), (text " active=", p.active.toNat),
    (text " quotient=", p.quotientPpm.toNat), (text " refraction=", p.refractionPpm.toNat),
    (text " energy=", p.energyPpm.toNat), (text " pressure=", p.pressurePpm.toNat),
    (text " pulses=", p.pulses.toNat), (text " last=", p.lastValuePpm.toNat)]

def simplexRow (x : SimplexUapi) : List Field :=
  [(text "pair=", x.pairId.toNat), (text " levels=", x.levelCount.toNat),
    (text " nodes=", x.nodeCount.toNat), (text " base_ret=", x.baseRetainedPpm.toNat),
    (text " rec_ret=", x.recursiveRetainedPpm.toNat),
    (text " rec_red=", x.recursiveReductionPpm.toNat),
    (text " rec_cross=", x.recursiveCrosshatchPpm.toNat),
    (text " rec_cold=", x.recursiveColdnessPpm.toNat),
    (text " rec_energy=", x.recursiveEnergyPpm.toNat)]

/-- The first of the nine mips stands behind its bracket, the others behind commas. -/
def mipRow : List UInt32 → List Field
  | [] => []
  | mip :: rest =>
      (text " mips=[", mip.toNat) :: rest.map fun other => (text ",", other.toNat)

def levelRow (l : DuoSimplexLevel) : List Field :=
  [(text "level=", l.levelIndex.toNat), (text " fib=", l.fibValue.toNat),
    (text " weight=", l.fibWeightPpm.toNat), (text " retained=", l.retainedPpm.toNat),
    (text " reduction=", l.reductionPpm.toNat), (text " cross=", l.crosshatchPpm.toNat),
    (text " cold=", l.coldnessPpm.toNat), (text " energy=", l.energyPpm.toNat),
    (text " pressure=", l.pressurePpm.toNat)] ++ mipRow l.mipRetainedPpm

def printNode (n : NodeUapi) : List UInt8 :=
  field "id=" n.id.toNat ++ text " name=" ++ n.name ++ field " online=" n.online.toNat ++
    field " energy=" n.energyPpm.toNat ++ field " health=" n.healthPpm.toNat ++ text " links=0x" ++
    hex 16 n.linksMask.toNat ++ newline

def printCluster (c : ClusterUapi) : List UInt8 :=
  field "generation=" c.generation.toNat ++ field " nodes=" c.nodeCount.toNat ++
    field " links=" c.linkCount.toNat ++ field " interactive=" c.interactive.toNat ++
    field " tick_ms=" c.tickMs.toNat ++ newline ++
    (c.nodes.filter fun n => n.present ≠ 0).flatMap printNode

/-- What the program prints of a reply, by the verb that asked for it. -/
def printReply : Reply → List UInt8
  | .nothing => []
  | .cluster cluster => printCluster cluster
  | .node _ node => printNode node
  | .added _ _ _ _ outPairId => field "pair_id=" outPairId.toNat ++ newline
  | .pair _ pair => writeRows newline [pairRow pair]
  | .dump pairCount pairs =>
      writeRows newline [[(text "pair_count=", pairCount.toNat)]] ++
        writeRows newline (pairs.map pairRow)
  | .simplex _ simplex =>
      writeRows newline [simplexRow simplex] ++
        writeRows (text "]\n") (simplex.levels.map levelRow)

/-- The structures of the program are at valid addresses, so both copies succeed. -/
def ioctlVerb (s : State) (ioctl : Ioctl) : State × Exit :=
  match dhIoctl s ioctl true true with
  | (s, .ok reply) => (s, ⟨0, printReply reply⟩)
  | (s, .error _) => (s, failure)

/-- The ioctl that a verb makes of its arguments, if there are enough of them. -/
def verbIoctl (verb : List UInt8) (args : List (List UInt8)) : Option Ioctl :=
  if verb = text "duo-add" then
    match args with
    | a :: b :: mode :: _ => some (.duoAddPair (strtoulU32 a) (strtoulU32 b) (strtoulU32 mode) 0)
    | _ => none
  else if verb = text "duo-del" then args.head?.map fun id => .duoDelPair (strtoulU32 id)
  else if verb = text "duo-pulse" then
    match args with
    | id :: value :: _ => some (.duoPulse (strtoulU32 id) (strtoulU32 value))
    | _ => none
  else if verb = text "duo-get" then args.head?.map fun id => .duoGetPair (strtoulU32 id)
  else if verb = text "duo-dump" then some .duoDump
  else if verb = text "duo-simplex" then args.head?.map fun id => .duoGetSimplex (strtoulU32 id)
  else if verb = text "cluster" then some .getCluster
  else if verb = text "node" then args.head?.map fun id => .getNode (strtoulU32 id)
  else if verb = text "step" then some .step
  else none

/-- `main` behind the program's name; `opened` says whether the device could be
opened, and `none` is a `read` that sleeps for want of an event. -/
def ctlMain (opened : Bool) (s : State) : List (List UInt8) → Option (State × Exit)
  | [] => some (s, failure)
  | verb :: args =>
      if !opened then some (s, failure)
      else if verb = text "cmd" then
        match args with
        | [] => some (s, failure)
        | cmd :: _ =>
            match dhWrite s cmd true with
            | (s, .ok _) => some (s, ⟨0, []⟩)
            | (s, .error _) => some (s, failure)
      else if verb = text "read" then
        if s.evHead = s.evTail then none
        else
          match dhRead s 255 true with
          | (s, .ok bytes) => some (s, ⟨0, cString bytes ++ newline⟩)
          | (s, .error _) => some (s, failure)
      else
        match verbIoctl verb args with
        | some ioctl => some (ioctlVerb s ioctl)
        | none => some (s, failure)

theorem strtoul_numeral (v : UInt32) : strtoulU32 (numeral v.toNat) = v := by
  have small : v.toNat < 2 ^ 64 := Nat.lt_trans v.toNat_lt (by decide)
  rw [strtoulU32, CNumber.strtoull_numeral _ small]
  apply UInt32.toNat_inj.mp
  rw [UInt64.toNat_toUInt32, UInt64.toNat_ofNat_of_lt' small]
  exact Nat.mod_eq_of_lt v.toNat_lt

/-- What the command line can ask for in two ways. -/
inductive Request where
  | step
  | duoAdd (a b mode : UInt32)
  | duoDel (pairId : UInt32)
  | duoPulse (pairId value : UInt32)
  deriving DecidableEq, Repr

def Request.command : Request → Command
  | .step => .tick
  | .duoAdd a b mode => .duoAdd a b mode
  | .duoDel pairId => .duoDel pairId
  | .duoPulse pairId value => .duoPulse pairId value

/-- The program's own verb, with its arguments in decimal. -/
def Request.verb : Request → List (List UInt8)
  | .step => [text "step"]
  | .duoAdd a b mode =>
      [text "duo-add", numeral a.toNat, numeral b.toNat, numeral mode.toNat]
  | .duoDel pairId => [text "duo-del", numeral pairId.toNat]
  | .duoPulse pairId value => [text "duo-pulse", numeral pairId.toNat, numeral value.toNat]

/-- The text that the module understands, behind `cmd`. -/
def Request.typed (request : Request) : List (List UInt8) :=
  [text "cmd", renderCommand request.command]

def Request.argv (request : Request) (typed : Bool) : List (List UInt8) :=
  if typed then request.typed else request.verb

def exitStatus : Option Errno → Nat
  | none => 0
  | some _ => 1

def Request.ioctl : Request → Ioctl
  | .step => .step
  | .duoAdd a b mode => .duoAddPair a b mode 0
  | .duoDel pairId => .duoDelPair pairId
  | .duoPulse pairId value => .duoPulse pairId value

theorem verb_ioctl (request : Request) (s : State) :
    ctlMain true s request.verb = some (ioctlVerb s request.ioctl) := by
  cases request with
  | step => rfl
  | duoAdd a b mode =>
      simp only [ctlMain, Request.verb, Request.ioctl, verbIoctl, strtoul_numeral]
      rfl
  | duoDel pairId =>
      simp only [ctlMain, Request.verb, Request.ioctl, verbIoctl, List.head?_cons, Option.map_some,
        strtoul_numeral]
      rfl
  | duoPulse pairId value =>
      simp only [ctlMain, Request.verb, Request.ioctl, verbIoctl, strtoul_numeral]
      rfl

/-- The ioctl of a request runs the command that its text denotes. -/
theorem verb_outcome (request : Request) (s : State) :
    (ioctlVerb s request.ioctl).1 = step s request.command ∧
      (ioctlVerb s request.ioctl).2.status = exitStatus (execute s request.command).2 := by
  have coded (outcome : State × Option Errno) :
      (match returnCode outcome with
        | (s, .ok reply) => (s, (⟨0, printReply reply⟩ : Exit))
        | (s, .error _) => (s, failure)).1 = outcome.1 ∧
      (match returnCode outcome with
        | (s, .ok reply) => (s, (⟨0, printReply reply⟩ : Exit))
        | (s, .error _) => (s, failure)).2.status = exitStatus outcome.2 := by
    obtain ⟨t, failed⟩ := outcome
    cases failed with
    | none => exact ⟨rfl, rfl⟩
    | some e => exact ⟨rfl, rfl⟩
  cases request with
  | step => exact ⟨rfl, rfl⟩
  | duoAdd a b mode =>
      simp only [ioctlVerb, Request.ioctl, dhIoctl, step, execute, Request.command]
      cases dhDuoAddPairLocked s a b mode with
      | mk t outcome =>
          cases outcome with
          | ok pairId => exact ⟨rfl, rfl⟩
          | error e => exact ⟨rfl, rfl⟩
  | duoDel pairId => exact coded (dhDuoDelPairLocked s pairId)
  | duoPulse pairId value => exact coded (dhDuoPulseLocked s pairId value)

/-- A text of one short line without NUL. -/
structure Clean (line : List UInt8) (length : Nat) : Prop where
  short : line.length ≤ length
  solid : 10 ∉ line
  terminated : 0 ∉ line

theorem clean_numeral (v : UInt32) : Clean (32 :: numeral v.toNat) 11 where
  short := Nat.succ_le_succ (numeral_length v.toNat 10 (by decide) (Nat.lt_trans v.toNat_lt (by decide)))
  solid member := by
    rcases List.mem_cons.mp member with blank | digit
    · cases blank
    · have digit := numeral_digits v.toNat 10 digit
      simp [isDigit] at digit
  terminated member := by
    rcases List.mem_cons.mp member with blank | digit
    · cases blank
    · have digit := numeral_digits v.toNat 0 digit
      simp [isDigit] at digit

theorem clean_append (front back : List UInt8) (m n : Nat) (first : Clean front m)
    (next : Clean back n) : Clean (front ++ back) (m + n) where
  short := by
    rw [List.length_append]
    exact Nat.add_le_add first.short next.short
  solid member := (List.mem_append.mp member).elim first.solid next.solid
  terminated member := (List.mem_append.mp member).elim first.terminated next.terminated

theorem clean_spaced (verb : String) (values : List UInt32) (length : Nat)
    (clean : Clean (text verb) length) :
    Clean (spaced verb (values.map fun v => numeral v.toNat)) (length + 11 * values.length) := by
  refine clean_append _ _ _ _ clean ?_
  induction values with
  | nil => exact ⟨Nat.le_refl 0, List.not_mem_nil, List.not_mem_nil⟩
  | cons v rest ih =>
      have both := clean_append _ _ _ _ (clean_numeral v) ih
      rwa [Nat.add_comm, ← Nat.mul_succ] at both

theorem request_clean (request : Request) : Clean (renderCommand request.command) 127 := by
  have verb (literal : String) (clean : (text literal).length ≤ 94 ∧ 10 ∉ text literal ∧
      0 ∉ text literal) : Clean (text literal) 94 := ⟨clean.1, clean.2.1, clean.2.2⟩
  have widen (line : List UInt8) (n : Nat) (clean : Clean line n) (small : n ≤ 127) :
      Clean line 127 := { clean with short := clean.short.trans small }
  cases request with
  | step => exact widen _ 94 (verb "tick" (by decide)) (by decide)
  | duoAdd a b mode =>
      exact widen _ _ (clean_spaced "duo add" [a, b, mode] 94 (verb "duo add" (by decide))) (by simp)
  | duoDel pairId =>
      exact widen _ _ (clean_spaced "duo del" [pairId] 94 (verb "duo del" (by decide))) (by simp)
  | duoPulse pairId value =>
      exact widen _ _ (clean_spaced "duo pulse" [pairId, value] 94 (verb "duo pulse" (by decide)))
        (by simp)

theorem kernelBuffer_clean (line : List UInt8) (clean : Clean line 127) :
    cString (kernelBuffer line) = line := by
  have whole : line.takeWhile (· ≠ 10) = line := by
    rw [List.takeWhile_eq_self_iff]
    intro byte member
    rw [decide_eq_true_eq]
    rintro rfl
    exact clean.solid member
  rw [cString_kernelBuffer, whole, List.take_of_length_le clean.short,
    cString_clean line clean.terminated]

/-- The text of a request does the same by way of a write. -/
theorem typed_outcome (request : Request) (s : State) :
    ctlMain true s request.typed =
      some (step s request.command, ⟨exitStatus (execute s request.command).2, []⟩) := by
  have buffer := kernelBuffer_clean _ (request_clean request)
  have wellFormed : WellFormed request.command := by cases request <;> trivial
  have executed : dispatched request.command = request.command := by cases request <;> rfl
  have run := handled s request.command wellFormed
  rw [executed, ← buffer] at run
  rw [step]
  cases outcome : execute s request.command with
  | mk t failed =>
      rw [outcome] at run
      cases failed with
      | none =>
          have written : dhWrite s (renderCommand request.command) true =
              (t, .ok (renderCommand request.command).length) := by
            rw [dhWrite, if_pos rfl]
            simp only
            rw [← kernelBuffer, run]
          simp only [Request.typed, ctlMain, written]
          rfl
      | some e =>
          have written : dhWrite s (renderCommand request.command) true = (t, .error e) := by
            rw [dhWrite, if_pos rfl]
            simp only
            rw [← kernelBuffer, run]
          simp only [Request.typed, ctlMain, written]
          rfl

/-- A script of such calls: the state it ends in and the exit statuses. -/
def runScript : State → List (List (List UInt8)) → Option (State × List Nat)
  | s, [] => some (s, [])
  | s, argv :: rest => do
      let (s, exit) ← ctlMain true s argv
      let (s, statuses) ← runScript s rest
      pure (s, exit.status :: statuses)

/-- The exit statuses the operations themselves account for. -/
def statuses : State → List Command → List Nat
  | _, [] => []
  | s, command :: rest => exitStatus (execute s command).2 :: statuses (step s command) rest

/-- A script of requests, each put as a verb or typed as text, does what the
operations do one after another, and its exit statuses say which of them failed. -/
theorem script_runs_commands (s : State) (script : List (Request × Bool)) :
    runScript s (script.map fun line => line.1.argv line.2) =
      some (Trace.run step s (script.map fun line => line.1.command),
        statuses s (script.map fun line => line.1.command)) := by
  induction script generalizing s with
  | nil => rfl
  | cons line rest ih =>
      obtain ⟨request, typed⟩ := line
      have first : ∃ out, ctlMain true s (request.argv typed) =
          some (step s request.command, ⟨exitStatus (execute s request.command).2, out⟩) := by
        cases typed with
        | true => exact ⟨[], typed_outcome request s⟩
        | false =>
            obtain ⟨state, status⟩ := verb_outcome request s
            refine ⟨(ioctlVerb s request.ioctl).2.out, ?_⟩
            rw [Request.argv, if_neg Bool.false_ne_true, verb_ioctl, ← state, ← status]
      obtain ⟨out, same⟩ := first
      simp only [List.map_cons, runScript, same, Option.bind_eq_bind, Option.bind_some, ih]
      rfl

section Printed

def pairLabels : List (List UInt8) := (pairRow (pairUapi DuoPair.zero)).map (·.1)

def pairOf : List Nat → Option PairUapi
  | [pairId, a, b, mode, active, quotient, refraction, energy, pressure, pulses, last] =>
      some ⟨UInt32.ofNat pairId, UInt32.ofNat a, UInt32.ofNat b, UInt32.ofNat mode,
        UInt32.ofNat active, UInt32.ofNat quotient, UInt32.ofNat refraction, UInt32.ofNat energy,
        UInt32.ofNat pressure, UInt32.ofNat pulses, UInt32.ofNat last⟩
  | _ => none

/-- The lines of so many pairs, and nothing behind them. -/
def readPairs (count : Nat) (out : List UInt8) : Option (List PairUapi) := do
  let (rows, rest) ← readRows pairLabels newline count out
  if rest = [] then rows.mapM pairOf else none

/-- What `duo-dump` prints. -/
def readDump (out : List UInt8) : Option (List PairUapi) := do
  let (rows, rest) ← readRows [text "pair_count="] newline 1 out
  match rows with
  | [[count]] => readPairs count rest
  | _ => none

def simplexLabels : List (List UInt8) :=
  (simplexRow (simplexUapi DuoPair.zero)).map (·.1)

def levelLabels : List (List UInt8) :=
  [text "level=", text " fib=", text " weight=", text " retained=", text " reduction=",
    text " cross=", text " cold=", text " energy=", text " pressure=", text " mips=["] ++
    List.replicate 8 (text ",")

/-- The nodes of a level are printed once, for all levels. -/
def levelOf (nodes : UInt32) : List Nat → Option DuoSimplexLevel
  | level :: fib :: weight :: retained :: reduction :: cross :: cold :: energy :: pressure ::
      mips =>
      some ⟨UInt32.ofNat level, UInt32.ofNat fib, UInt32.ofNat weight, nodes, UInt32.ofNat retained,
        UInt32.ofNat reduction, UInt32.ofNat cross, UInt32.ofNat cold, UInt32.ofNat energy,
        UInt32.ofNat pressure, mips.map UInt32.ofNat⟩
  | _ => none

/-- What `duo-simplex` prints. -/
def readSimplex (out : List UInt8) : Option SimplexUapi := do
  let (rows, rest) ← readRows simplexLabels newline 1 out
  match rows with
  | [[pairId, levels, nodes, base, ret, red, cross, cold, energy]] =>
      let (ladder, rest) ← readRows levelLabels (text "]\n") levels rest
      let ladder ← ladder.mapM (levelOf (UInt32.ofNat nodes))
      if rest = [] then
        some ⟨UInt32.ofNat pairId, UInt32.ofNat levels, UInt32.ofNat nodes, UInt32.ofNat base,
          UInt32.ofNat ret, UInt32.ofNat red, UInt32.ofNat cross, UInt32.ofNat cold,
          UInt32.ofNat energy, ladder⟩
      else none
  | _ => none

theorem newline_parting : Parting newline := by decide +kernel

theorem pair_labels_parting : ∀ label ∈ pairLabels, Parting label := by decide +kernel

theorem simplex_labels_parting : ∀ label ∈ simplexLabels, Parting label := by decide +kernel

theorem level_labels_parting : ∀ label ∈ levelLabels, Parting label := by decide +kernel

theorem pairOf_row (p : PairUapi) : pairOf ((pairRow p).map (·.2)) = some p := by
  simp only [pairRow, List.map_cons, List.map_nil, pairOf, UInt32.ofNat_toNat]

/-- Rows that decode one by one decode together. -/
theorem mapM_rows {Row Value : Type} (decode : Row → Option Value) (encode : Value → Row)
    (values : List Value) (back : ∀ value ∈ values, decode (encode value) = some value) :
    (values.map encode).mapM decode = some values := by
  induction values with
  | nil => rfl
  | cons value rest ih =>
      have later := ih fun other member => back other (List.mem_cons_of_mem value member)
      rw [List.map_cons, List.mapM_cons, back value List.mem_cons_self, later]
      rfl

theorem readPairs_rows (pairs : List PairUapi) :
    readPairs pairs.length (writeRows newline (pairs.map pairRow)) = some pairs := by
  have rows := readRows_write pairLabels newline [] pair_labels_parting newline_parting
    (pairs.map pairRow) (by
      intro row member
      obtain ⟨p, _, rfl⟩ := List.mem_map.mp member
      rfl)
  rw [List.length_map, List.append_nil, List.map_map] at rows
  rw [readPairs, rows]
  simp only [Option.bind_eq_bind, Option.bind_some, if_true]
  exact mapM_rows pairOf _ pairs fun p _ => pairOf_row p

theorem readDump_rows (pairs : List PairUapi) :
    readDump (writeRows newline [[(text "pair_count=", pairs.length)]] ++
      writeRows newline (pairs.map pairRow)) = some pairs := by
  have header := readRows_write [text "pair_count="] newline
    (writeRows newline (pairs.map pairRow)) (by decide +kernel) newline_parting
    [[(text "pair_count=", pairs.length)]] (by simp)
  rw [List.length_singleton] at header
  rw [readDump, header]
  exact readPairs_rows pairs

/-- The ladders that the module keeps: 22 levels of nine mips on the same nodes. -/
structure Printable (x : SimplexUapi) : Prop where
  count : x.levels.length = x.levelCount.toNat
  mips : ∀ level ∈ x.levels, level.mipRetainedPpm.length = dawnhexSimplexMips
  nodes : ∀ level ∈ x.levels, level.nodeCount = x.nodeCount

theorem levelOf_fields (level : DuoSimplexLevel) :
    levelOf level.nodeCount ((levelRow level).map (·.2)) = some level := by
  have mips : (mipRow level.mipRetainedPpm).map (fun field => UInt32.ofNat field.2) =
      level.mipRetainedPpm := by
    cases level.mipRetainedPpm with
    | nil => rfl
    | cons mip rest => simp [mipRow, Function.comp_def]
  simp only [levelRow, List.map_cons, List.cons_append, List.nil_append, levelOf,
    UInt32.ofNat_toNat, List.map_map, Function.comp_def, mips]

theorem level_labels (level : DuoSimplexLevel)
    (nine : level.mipRetainedPpm.length = dawnhexSimplexMips) :
    (levelRow level).map (·.1) = levelLabels := by
  have mips : (mipRow level.mipRetainedPpm).map (·.1) =
      text " mips=[" :: List.replicate 8 (text ",") := by
    cases shape : level.mipRetainedPpm with
    | nil =>
        rw [shape] at nine
        cases nine
    | cons mip rest =>
        rw [shape] at nine
        have eight : rest.length = 8 := Nat.succ.inj nine
        simp [mipRow, Function.comp_def, eight]
  rw [levelRow, List.map_append, mips]
  rfl

theorem readSimplex_rows (x : SimplexUapi) (printable : Printable x) :
    readSimplex (printReply (.simplex x.pairId x)) = some x := by
  have header := readRows_write simplexLabels newline
    (writeRows (text "]\n") (x.levels.map levelRow)) simplex_labels_parting newline_parting
    [simplexRow x] (by
      intro row member
      rw [List.mem_singleton.mp member]
      rfl)
  have ladder := readRows_write levelLabels (text "]\n") [] level_labels_parting (by decide +kernel)
    (x.levels.map levelRow) (by
      intro row member
      obtain ⟨level, inside, rfl⟩ := List.mem_map.mp member
      exact level_labels level (printable.mips level inside))
  have levels : (x.levels.map fun level => (levelRow level).map (·.2)).mapM
      (levelOf x.nodeCount) = some x.levels := by
    apply mapM_rows
    intro level member
    rw [← printable.nodes level member]
    exact levelOf_fields level
  rw [List.length_singleton] at header
  rw [List.length_map, List.append_nil, List.map_map, printable.count] at ladder
  rw [printReply, readSimplex, header]
  simp only [List.map_cons, List.map_nil, simplexRow, Option.bind_eq_bind, Option.bind_some,
    ladder, UInt32.ofNat_toNat]
  rw [show (x.levels.map ((fun row => row.map (·.2)) ∘ levelRow)) =
    x.levels.map fun level => (levelRow level).map (·.2) from rfl, levels]
  rfl

theorem printable_recomputed (p : DuoPair) :
    Printable (simplexUapi (dhDuoRecomputeSimplexLocked p)) where
  count := by
    rw [simplexUapi, List.length_take, recompute_levels]
    rfl
  mips level member := (recompute_band p level (List.mem_of_mem_take member)).mip_count
  nodes level member := by
    obtain ⟨i, _, rfl⟩ := List.mem_map.mp (List.mem_of_mem_take member)
    rfl

end Printed

/-- What the program prints in any reachable state is read back as the module has it:
all live pairs in their order, one pair, and the ladder of one pair. -/
theorem listings_read_back (s : State) (reachable : Reachable s) :
    (∃ out, ctlMain true s [text "duo-dump"] = some (s, ⟨0, out⟩) ∧
        readDump out = some ((livePairs s).map pairUapi)) ∧
      ∀ pairId i, dhDuoLookupPairLocked s pairId = some i →
        (∃ out, ctlMain true s [text "duo-get", numeral pairId.toNat] = some (s, ⟨0, out⟩) ∧
            readPairs 1 out = some [pairUapi (s.duo.pairs i)]) ∧
          ∃ out, ctlMain true s [text "duo-simplex", numeral pairId.toNat] = some (s, ⟨0, out⟩) ∧
            readSimplex out = some (simplexUapi (s.duo.pairs i)) := by
  constructor
  · have listed : (List.range s.duo.pairCount.toNat).map (fun i => pairUapi (s.duo.pairs i)) =
        (livePairs s).map pairUapi := by
      simp [livePairs, Memory.slice, Function.comp_def]
    have dumped : ctlMain true s [text "duo-dump"] = some (s, ⟨0, printReply
        (.dump s.duo.pairCount ((List.range s.duo.pairCount.toNat).map
          fun i => pairUapi (s.duo.pairs i)))⟩) := rfl
    refine ⟨_, dumped, ?_⟩
    have back := readDump_rows ((livePairs s).map pairUapi)
    rw [List.length_map, live_pairs_length] at back
    rw [printReply, listed]
    exact back
  · intro pairId i found
    have inside := (pair_lookup_some s pairId i found).1
    have got : ctlMain true s [text "duo-get", numeral pairId.toNat] =
        some (ioctlVerb s (.duoGetPair (strtoulU32 (numeral pairId.toNat)))) := rfl
    have shown : ctlMain true s [text "duo-simplex", numeral pairId.toNat] =
        some (ioctlVerb s (.duoGetSimplex (strtoulU32 (numeral pairId.toNat)))) := rfl
    rw [strtoul_numeral] at got shown
    constructor
    · refine ⟨printReply (.pair pairId (pairUapi (s.duo.pairs i))), ?_, ?_⟩
      · rw [got, ioctlVerb, dhIoctl, found]
        rfl
      · exact readPairs_rows [pairUapi (s.duo.pairs i)]
    · refine ⟨printReply (.simplex (simplexUapi (s.duo.pairs i)).pairId
        (simplexUapi (s.duo.pairs i))), ?_, ?_⟩
      · rw [shown, ioctlVerb, dhIoctl, found]
        rfl
      · exact readSimplex_rows _ (live_pairs_recomputed (fun p => Printable (simplexUapi p))
          printable_recomputed s reachable _ ((mem_live_pairs s _).mpr ⟨i, inside, rfl⟩))

theorem pulsed_listing :
    ∃ out, ctlMain true pulsedOnce [text "duo-dump"] = some (pulsedOnce, ⟨0, out⟩) ∧
      readDump out = some ((livePairs pulsedOnce).map pairUapi) :=
  (listings_read_back pulsedOnce ⟨_, rfl⟩).1

end RyzenBuild.DawnHex
