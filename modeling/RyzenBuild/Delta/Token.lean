import Mathlib.Data.List.Basic

/-!
The packed stream of `deltaffi.c` as a sequence of tokens: a byte other than
`0xFF` stands for itself, and `0xFF` opens an escape of a count and a byte.
-/
namespace RyzenBuild.Delta

inductive Token where
  | literal (value : UInt8)
  | escape (count value : UInt8)
  deriving DecidableEq, Repr

def Token.render : Token → List UInt8
  | .literal value => [value]
  | .escape count value => [0xFF, count, value]

def Token.expand : Token → List UInt8
  | .literal value => [value]
  | .escape count value => List.replicate count.toNat value

/-- A literal never looks like the start of an escape. -/
def Token.Proper : Token → Prop
  | .literal value => value ≠ 0xFF
  | .escape _ _ => True

def render (tokens : List Token) : List UInt8 := tokens.flatMap Token.render

def expand (tokens : List Token) : List UInt8 := tokens.flatMap Token.expand

/-- Reading a byte string as tokens; `none` when the input ends inside an escape. -/
def parse : List UInt8 → Option (List Token)
  | [] => some []
  | first :: rest =>
      if first = 0xFF then
        match rest with
        | count :: value :: rest => (parse rest).map (Token.escape count value :: ·)
        | _ => none
      else (parse rest).map (Token.literal first :: ·)

theorem parse_literal (value : UInt8) (rest : List UInt8) (proper : value ≠ 0xFF) :
    parse (value :: rest) = (parse rest).map (Token.literal value :: ·) := by
  rw [parse.eq_def]
  simp [proper]

theorem parse_escape (count value : UInt8) (rest : List UInt8) :
    parse (0xFF :: count :: value :: rest) =
      (parse rest).map (Token.escape count value :: ·) := by
  rw [parse.eq_def]
  simp

/-- Reading back what was rendered finds the same tokens, whatever stands
behind an escape. -/
theorem parse_render (tokens : List Token) (proper : ∀ token ∈ tokens, token.Proper) :
    parse (render tokens) = some tokens := by
  induction tokens with
  | nil => simp [render, parse]
  | cons token rest ih =>
      have later := ih fun other member => proper other (List.mem_cons_of_mem token member)
      have here := proper token List.mem_cons_self
      unfold render at later ⊢
      cases token with
      | literal value =>
          rw [List.flatMap_cons, Token.render, List.singleton_append,
            parse_literal value _ here, later]
          rfl
      | escape count value =>
          rw [List.flatMap_cons, Token.render, List.cons_append, List.cons_append,
            List.singleton_append, parse_escape, later]
          rfl

end RyzenBuild.Delta
