import ModelSchema.Grammar.Rules

/-!
# Productions

Rules without choices: each way to write a notion as a sequence of symbols. A rule that repeats
another becomes a symbol of its own, which stands for the parts that it repeats.

## Main definitions

* `Symbol` — tokens, notions and repeated rules.
* `Step`, `Production` — a symbol in a production, and productions.
* `Rule.choices`, `Rule.steps` — from rules to sequences of symbols.
* `productions` — the productions of a dialect.
-/

namespace ModelSchema.Grammar

/-- What productions are made of. -/
inductive Symbol where
  | token (t : Token)
  | notion (n : Notion)
  /-- A rule once or more often. -/
  | repeated (body : Rule)
deriving DecidableEq, Hashable

/-- A symbol in a production, with what the rules around it say. -/
structure Step where
  symbol : Symbol
  rank : Option Rank
  side : Option Side
  label : Option Label
  role : Option SyntaxField
deriving DecidableEq, Hashable

/-- A way to write a notion or a repeated rule. -/
structure Production where
  of : Symbol
  steps : List Step
  bonus : Int
deriving DecidableEq

namespace Rule

/-- The rules, without choices of their own, among which a rule chooses. -/
def choices : Rule → List Rule
  | seq a b => a.choices.flatMap fun x => b.choices.map fun y => join x y
  | alt a b => a.choices ++ b.choices
  | ranked rank a => a.choices.map (ranked rank)
  | leaning side a => a.choices.map (leaning side)
  | bonus amount a => a.choices.map (bonus amount)
  | labeled label a => a.choices.map (labeled label)
  | role field a => a.choices.map (role field)
  | a => [a]
where
  /-- A sequence without empty parts. -/
  join (a b : Rule) : Rule :=
    if a = empty then b else if b = empty then a else seq a b

/-- What the rules around a rule say. -/
structure Surroundings where
  rank : Option Rank
  side : Option Side
  label : Option Label
  role : Option SyntaxField

/-- A step for a symbol. -/
def Surroundings.step (around : Surroundings) (symbol : Symbol) : Step :=
  ⟨symbol, around.rank, around.side, around.label, around.role⟩

/-- Changes the last step. -/
def onLast (f : Step → Step) : List Step → List Step
  | [] => []
  | [s] => [f s]
  | s :: rest => s :: onLast f rest

/-- The steps of a rule without choices. The rank and side of a rule hold up to its last step, and
there only if nothing follows. -/
def steps (around : Surroundings) (isLast : Bool) : Rule → List Step
  | empty => []
  | token t => [around.step (.token t)]
  | notion n => [around.step (.notion n)]
  | many1 a => [around.step (.repeated a)]
  | seq a b => a.steps around false ++ b.steps around isLast
  | alt a _ => a.steps around isLast
  | ranked rank a =>
    let inner := a.steps { around with rank := some rank } isLast
    if isLast then inner else onLast (fun s => { s with rank := around.rank }) inner
  | leaning side a =>
    let inner := a.steps { around with side := some side } isLast
    if isLast then inner else onLast (fun s => { s with side := around.side }) inner
  | bonus _ a => a.steps around isLast
  | labeled label a => a.steps { around with label := some label } isLast
  | role field a => a.steps { around with role := some field } isLast

/-- Of two bonuses the one further from zero. -/
def stronger (a b : Int) : Int := if a.natAbs < b.natAbs then b else a

/-- The bonus of a rule without choices. -/
def totalBonus : Rule → Int
  | seq a b => stronger a.totalBonus b.totalBonus
  | bonus amount a => stronger amount a.totalBonus
  | ranked _ a | leaning _ a | labeled _ a | role _ a => a.totalBonus
  | _ => 0

/-- The rules that are repeated within a rule, inner ones first. -/
def repeatedIn : Rule → List Rule
  | seq a b | alt a b => a.repeatedIn ++ b.repeatedIn
  | many1 a => a.repeatedIn ++ [a]
  | ranked _ a | leaning _ a | bonus _ a | labeled _ a | role _ a => a.repeatedIn
  | _ => []

/-- The productions of a symbol with a rule. One may come more than once. -/
def productions (of : Symbol) (a : Rule) : List Production :=
  a.choices.map fun c => ⟨of, c.steps ⟨none, none, none, none⟩ true, c.totalBonus⟩

end Rule

/-- The rules that are repeated anywhere. -/
def repeatedRules (d : Dialect) : List Rule :=
  ((rules d).flatMap fun (_, r) => r.repeatedIn).eraseDups

/-- The productions of a repeated rule: two stretches of it, or it once. -/
def repetition (body : Rule) : List Production :=
  let self := Rule.Surroundings.step ⟨none, none, none, none⟩ (.repeated body)
  ⟨.repeated body, [self, self], 0⟩ :: body.productions (.repeated body)

/-- The productions of a dialect. -/
def productions (d : Dialect) : List Production :=
  ((rules d).flatMap fun (n, r) => r.productions (.notion n)) ++
    (repeatedRules d).flatMap repetition

end ModelSchema.Grammar
