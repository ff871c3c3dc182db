import RyzenBuild.Kernel
import RyzenBuild.Lib.CNumber

/-!
`runway_hook.c`: the configuration from the command line, and the body of the
request that submits it. Strings are their bytes before the NUL.
-/
namespace RyzenBuild.Runway

open Kernel Digits CNumber

structure RunwayConfig where
  prompt : List UInt8
  promptImage : List UInt8
  model : List UInt8
  ratio : List UInt8
  duration : Int
  taskId : List UInt8
  pollOnly : Bool
  deriving DecidableEq, Repr

def cfgInit : RunwayConfig where
  prompt := []
  promptImage := []
  model := text "gen4.5"
  ratio := text "1280:720"
  duration := 5
  taskId := []
  pollOnly := false

/-- `snprintf` of one string into an array of `size` bytes. -/
def printInto (size : Nat) (s : List UInt8) : List UInt8 := (cString s).take (size - 1)

/-- What an option does with its value, `none` for an option that is not known. -/
def setOption (cfg : RunwayConfig) (arg value : List UInt8) : Option RunwayConfig :=
  if arg = text "--prompt" then some { cfg with prompt := printInto 2048 value }
  else if arg = text "--prompt-image" then some { cfg with promptImage := printInto 2048 value }
  else if arg = text "--model" then some { cfg with model := printInto 64 value }
  else if arg = text "--ratio" then some { cfg with ratio := printInto 64 value }
  else if arg = text "--duration" then some { cfg with duration := atoi (cString value) }
  else if arg = text "--task-id" then
    some { cfg with taskId := printInto 256 value, pollOnly := true }
  else none

def unknownArg (arg : List UInt8) : List UInt8 := text "unknown arg: " ++ arg

/-- The arguments behind the program's name; an error is the message it ends with. -/
def parseArgs (cfg : RunwayConfig) : List (List UInt8) → Except (List UInt8) RunwayConfig
  | [] =>
      if !cfg.pollOnly && cfg.prompt = [] then .error (text "missing --prompt") else .ok cfg
  | [arg] =>
      match setOption cfg arg [] with
      | some _ => .error (text "missing value for " ++ arg)
      | none => .error (unknownArg arg)
  | arg :: value :: rest =>
      match setOption cfg arg value with
      | some cfg => parseArgs cfg rest
      | none => .error (unknownArg arg)

def escaped (c : UInt8) : List UInt8 :=
  if c = 92 then text "\\\\"
  else if c = 34 then text "\\\""
  else if c = 10 then text "\\n"
  else if c = 13 then text "\\r"
  else if c = 9 then text "\\t"
  else [c]

def jsonEscape (s : List UInt8) : List UInt8 :=
  text "\"" ++ (cString s).flatMap escaped ++ text "\""

/-- What the format of the body prints, before the array cuts it off. -/
def printedBody (cfg : RunwayConfig) : List UInt8 :=
  if cString cfg.promptImage ≠ [] then
    text "\x7b" ++
      text "\"model\":" ++ jsonEscape cfg.model ++ text "," ++
      text "\"promptText\":" ++ jsonEscape cfg.prompt ++ text "," ++
      text "\"promptImage\":" ++ jsonEscape cfg.promptImage ++ text "," ++
      text "\"ratio\":" ++ jsonEscape cfg.ratio ++ text "," ++
      text "\"duration\":" ++ signed cfg.duration ++
    text "\x7d"
  else
    text "\x7b" ++
      text "\"model\":" ++ jsonEscape cfg.model ++ text "," ++
      text "\"promptText\":" ++ jsonEscape cfg.prompt ++ text "," ++
      text "\"ratio\":" ++ jsonEscape cfg.ratio ++ text "," ++
      text "\"duration\":" ++ signed cfg.duration ++
    text "\x7d"

/-- The body that `submit_task` sends, from an array of 8192 bytes. -/
def submitBody (cfg : RunwayConfig) : List UInt8 := (printedBody cfg).take (8192 - 1)

end RyzenBuild.Runway
