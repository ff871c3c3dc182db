/-!
Whole-word substitutions one after another. Each replaces single symbols and
the later ones see what the earlier ones wrote; the chain still acts on each
symbol of the first word by itself.
-/
namespace RyzenBuild.Substitute

variable {Symbol : Type}

/-- Replace every symbol of a class. -/
structure Rule (Symbol : Type) where
  selects : Symbol → Bool
  replacement : Symbol → List Symbol

namespace Rule

def apply (rule : Rule Symbol) (word : List Symbol) : List Symbol :=
  word.flatMap fun symbol => if rule.selects symbol then rule.replacement symbol else [symbol]

end Rule

def applyAll (rules : List (Rule Symbol)) (word : List Symbol) : List Symbol :=
  rules.foldl (fun word rule => rule.apply word) word

theorem applyAll_nil (rules : List (Rule Symbol)) : applyAll rules [] = [] := by
  induction rules with
  | nil => rfl
  | cons rule rules ih => exact ih

theorem applyAll_append (rules : List (Rule Symbol)) (first second : List Symbol) :
    applyAll rules (first ++ second) = applyAll rules first ++ applyAll rules second := by
  induction rules generalizing first second with
  | nil => rfl
  | cons rule rules ih =>
      have here : rule.apply (first ++ second) = rule.apply first ++ rule.apply second :=
        List.flatMap_append
      simpa only [applyAll, List.foldl_cons, here] using ih (rule.apply first) (rule.apply second)

theorem applyAll_symbols (rules : List (Rule Symbol)) (word : List Symbol) :
    applyAll rules word = word.flatMap fun symbol => applyAll rules [symbol] := by
  induction word with
  | nil => exact applyAll_nil rules
  | cons symbol word ih =>
      rw [List.flatMap_cons, ← ih, ← applyAll_append]
      rfl

/-- Rules that do not name a symbol leave it to the rules behind them. -/
theorem applyAll_pass (rules later : List (Rule Symbol)) (symbol : Symbol)
    (passes : ∀ rule ∈ rules, rule.selects symbol = false) :
    applyAll (rules ++ later) [symbol] = applyAll later [symbol] := by
  induction rules with
  | nil => rfl
  | cons rule rules ih =>
      have here : rule.apply [symbol] = [symbol] := by
        simp [Rule.apply, passes rule List.mem_cons_self]
      have behind := ih fun other member => passes other (List.mem_cons_of_mem rule member)
      simpa only [applyAll, List.cons_append, List.foldl_cons, here] using behind

end RyzenBuild.Substitute
