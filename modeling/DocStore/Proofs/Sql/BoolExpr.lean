import DocStore.Proofs.Sql.Token
import DocStore.Query.Condition

/-!
# Boolean expressions

How the server reads tokens as a boolean expression, and what such an expression
is worth.  A connective stands between operands, `AND` binds tighter than `OR`,
parentheses hold an expression of their own, and the first `AND` behind a
`BETWEEN` belongs to that.  What stands between two connectives is an atom, unless
it is one expression in parentheses and nothing else.

The reader is a machine with a stack: a parenthesis that opens puts the level
under way aside, and the one that closes takes it back.  It refuses what it would
have to read otherwise: `NOT`, `CASE`, a query inside the expression, and lists.

* Values: `Connective.join` in the logic with a third value, and `BoolExpr.value`.
* `Reader.Takes`: tokens that the reader takes into an atom, with parentheses and
  a `BETWEEN` among them.
* `Frame.collecting`: a level that joins its operands by one connective.
-/

namespace DocStore

/-! ## Values -/

/-- The value of a boolean expression.  A comparison with null is unknown. -/
inductive Truth where
  | fails
  | unknown
  | holds
  deriving DecidableEq

namespace Truth

/-- Both hold: the lesser value. -/
def and : Truth → Truth → Truth
  | fails, _ => fails
  | unknown, fails => fails
  | unknown, _ => unknown
  | holds, b => b

/-- One of the two holds: the greater value. -/
def or : Truth → Truth → Truth
  | fails, b => b
  | unknown, holds => holds
  | unknown, _ => unknown
  | holds, _ => holds

theorem and_holds (a : Truth) : a.and holds = a := by
  cases a <;> rfl

theorem or_fails (a : Truth) : a.or fails = a := by
  cases a <;> rfl

end Truth

/-- The value of several parts joined by a connective. -/
def Connective.join : Connective → List Truth → Truth
  | and, values => values.foldr Truth.and .holds
  | or, values => values.foldr Truth.or .fails

/-- A part on its own is not changed by the connective. -/
theorem Connective.join_singleton (operator : Connective) (value : Truth) :
    operator.join [value] = value := by
  cases operator with
  | and => exact value.and_holds
  | or => exact value.or_fails

namespace Sql

/-! ## Expressions -/

/-- A boolean expression.  An atom is kept as its tokens. -/
inductive BoolExpr where
  | atom (tokens : List Token)
  | joined (operator : Connective) (parts : List BoolExpr)

namespace BoolExpr

mutual

/-- The atoms from left to right. -/
def atoms : BoolExpr → List (List Token)
  | atom tokens => [tokens]
  | joined _ parts => atomsOf parts

def atomsOf : List BoolExpr → List (List Token)
  | [] => []
  | e :: rest => atoms e ++ atomsOf rest

end

mutual

/-- The value when the atoms are worth `v k`, `v (k + 1)`, … from left to right. -/
def value (v : Nat → Truth) : (k : Nat) → BoolExpr → Truth
  | k, atom _ => v k
  | k, joined operator parts => operator.join (values v k parts)

def values (v : Nat → Truth) : (k : Nat) → List BoolExpr → List Truth
  | _, [] => []
  | k, e :: rest => value v k e :: values v (k + (atoms e).length) rest

end

/-- Expressions joined by a connective; one alone needs none. -/
def join (operator : Connective) : List BoolExpr → BoolExpr
  | [e] => e
  | parts => joined operator parts

theorem atoms_join (operator : Connective) (parts : List BoolExpr) :
    (join operator parts).atoms = atomsOf parts := by
  fun_cases join operator parts with
  | case1 e => rw [atomsOf, atomsOf, List.append_nil]
  | case2 => rw [atoms]

theorem value_join (v : Nat → Truth) (k : Nat) (operator : Connective) (parts : List BoolExpr) :
    (join operator parts).value v k = operator.join (values v k parts) := by
  fun_cases join operator parts with
  | case1 e => rw [values, values, Connective.join_singleton]
  | case2 => rw [value]

theorem values_append (v : Nat → Truth) (k : Nat) (a b : List BoolExpr) :
    values v k (a ++ b) = values v k a ++ values v (k + (atomsOf a).length) b := by
  induction a generalizing k with
  | nil => rfl
  | cons e a ih =>
    rw [List.cons_append, values, values, ih, atomsOf, List.length_append, Nat.add_assoc,
      List.cons_append]

end BoolExpr

/-! ## The reader -/

/-- What a token means to the reader. -/
inductive Role where
  | opens
  | closes
  | connective (operator : Connective)
  | between
  /-- A part of an atom. -/
  | operand
  | foreign
  deriving DecidableEq

/-- The role of a token. -/
def Token.role : Token → Role
  | .symbol c =>
      if c = '(' then .opens
      else if c = ')' then .closes
      else if c = ',' || c = ';' then .foreign else .operand
  | .word text =>
      if text = "and" then .connective .and
      else if text = "or" then .connective .or
      else if text = "between" then .between
      else if ["not", "case", "select"].contains text then .foreign else .operand
  | _ => .operand

/-- Tokens in parentheses. -/
def parens (inner : List Token) : List Token := .symbol '(' :: inner ++ [.symbol ')']

/-- What stands behind the last connective. -/
inductive Part where
  | tokens (ts : List Token)
  /-- One expression in parentheses and nothing else. -/
  | group (ts : List Token) (e : BoolExpr)

namespace Part

/-- The tokens of a part. -/
def raw : Part → List Token
  | tokens ts => ts
  | group ts _ => ts

/-- The expression that a part is; none when nothing stands there. -/
def finish? : Part → Option BoolExpr
  | tokens [] => none
  | tokens ts => some (.atom ts)
  | group _ e => some e

/-- An expression in parentheses behind a part. -/
def enclose (p : Part) (inner : List Token) (e : BoolExpr) : Part :=
  match p with
  | tokens [] => group (parens inner) e
  | p => tokens (p.raw ++ parens inner)

end Part

/-- A level under way: what stands between two parentheses so far. -/
structure Frame where
  /-- The operands of `OR` that are complete. -/
  ors : List BoolExpr
  /-- The operands of `AND` that are complete, of the operand of `OR` under way. -/
  ands : List BoolExpr
  part : Part
  /-- A `BETWEEN` waits for its `AND`. -/
  between : Bool
  /-- All tokens of the level. -/
  raw : List Token

namespace Frame

/-- A level before its first token. -/
def start : Frame := ⟨[], [], .tokens [], false, []⟩

/-- Takes tokens into the part under way. -/
def push (f : Frame) (ts : List Token) : Frame :=
  { f with part := .tokens (f.part.raw ++ ts), raw := f.raw ++ ts }

/-- Takes an expression in parentheses. -/
def enclose (f : Frame) (inner : List Token) (e : BoolExpr) : Frame :=
  { f with part := f.part.enclose inner e, raw := f.raw ++ parens inner }

/-- The operand of `OR` that ends here. -/
def closeOperand? (f : Frame) : Option BoolExpr :=
  if f.between then none else f.part.finish?.map fun e => .join .and (f.ands ++ [e])

/-- The expression of a level that ends here. -/
def close? (f : Frame) : Option BoolExpr :=
  f.closeOperand?.map fun e => .join .or (f.ors ++ [e])

/-- Takes a connective.  An `AND` that a `BETWEEN` waits for is part of the atom. -/
def connect? (f : Frame) (operator : Connective) (t : Token) : Option Frame :=
  match operator, f.between with
  | .and, true => some { f.push [t] with between := false }
  | .and, false =>
      f.part.finish?.map fun e =>
        { f with ands := f.ands ++ [e], part := .tokens [], raw := f.raw ++ [t] }
  | .or, _ =>
      f.closeOperand?.map fun e =>
        { f with ors := f.ors ++ [e], ands := [], part := .tokens [], raw := f.raw ++ [t] }

end Frame

/-- The level under way and those around it. -/
structure Reader where
  top : Frame
  outer : List Frame

namespace Reader

/-- Takes a token. -/
def step? (r : Reader) (t : Token) : Option Reader :=
  match t.role with
  | .opens => some ⟨.start, r.top :: r.outer⟩
  | .closes =>
      match r.outer with
      | [] => none
      | f :: outer => r.top.close?.map fun e => ⟨f.enclose r.top.raw e, outer⟩
  | .connective operator => (r.top.connect? operator t).map fun f => ⟨f, r.outer⟩
  | .between =>
      if r.top.between then none else some ⟨{ r.top.push [t] with between := true }, r.outer⟩
  | .operand => some ⟨r.top.push [t], r.outer⟩
  | .foreign => none

/-- Takes several tokens. -/
def run? (r : Reader) (ts : List Token) : Option Reader := ts.foldlM step? r

end Reader

/-- The boolean expression that tokens are. -/
def readBool? (ts : List Token) : Option BoolExpr :=
  (Reader.run? ⟨.start, []⟩ ts).bind fun r => if r.outer.isEmpty then r.top.close? else none

example : (tokens? "a OR b AND c").bind readBool? =
    some (.joined .or [.atom [.word "a"], .joined .and [.atom [.word "b"], .atom [.word "c"]]]) :=
  rfl

example : (tokens? "x BETWEEN a AND b AND (c OR d)").bind readBool? =
    some (.joined .and [.atom [.word "x", .word "between", .word "a", .word "and", .word "b"],
      .joined .or [.atom [.word "c"], .atom [.word "d"]]]) :=
  rfl

/-! ## Reading part by part -/

namespace Frame

theorem push_push (f : Frame) (a b : List Token) : (f.push a).push b = f.push (a ++ b) := by
  simp only [push, Part.raw, List.append_assoc]

theorem raw_enclose (p : Part) (inner : List Token) (e : BoolExpr) :
    (p.enclose inner e).raw = p.raw ++ parens inner := by
  fun_cases Part.enclose p inner e <;> rfl

/-- Behind an expression in parentheses an atom goes on. -/
theorem enclose_push (f : Frame) (inner : List Token) (e : BoolExpr) (ts : List Token) :
    (f.enclose inner e).push ts = f.push (parens inner ++ ts) := by
  simp only [enclose, push, raw_enclose, List.append_assoc]

/-- Inside an atom parentheses are part of it. -/
theorem push_enclose (f : Frame) {ts : List Token} (hne : ts ≠ []) (inner : List Token)
    (e : BoolExpr) : (f.push ts).enclose inner e = f.push (ts ++ parens inner) := by
  have hpart : (Part.tokens (f.part.raw ++ ts)).enclose inner e =
      .tokens (f.part.raw ++ ts ++ parens inner) := by
    cases h : f.part.raw ++ ts with
    | nil => exact absurd (List.append_eq_nil_iff.1 h).2 hne
    | cons t rest => rfl
  simp only [enclose, push, hpart, List.append_assoc]

end Frame

namespace Reader

@[simp] theorem run?_nil (r : Reader) : r.run? [] = some r := rfl

theorem run?_cons (r : Reader) (t : Token) (ts : List Token) :
    r.run? (t :: ts) = (r.step? t).bind fun r' => r'.run? ts := by
  rw [run?, List.foldlM_cons]
  rfl

/-- The tokens behind are read from where those in front left the reader. -/
theorem run?_append {r r' : Reader} {a : List Token} (h : r.run? a = some r') (b : List Token) :
    r.run? (a ++ b) = r'.run? b := by
  rw [run?, List.foldlM_append]
  rw [run?] at h
  rw [h]
  rfl

theorem step?_operand {t : Token} (h : t.role = .operand) (f : Frame) (outer : List Frame) :
    step? ⟨f, outer⟩ t = some ⟨f.push [t], outer⟩ := by
  rw [step?, h]

/-- The reader takes tokens into the part under way, unless a `BETWEEN` is open there. -/
def Takes (ts : List Token) : Prop :=
  ∀ (f : Frame) (outer : List Frame), f.between = false →
    run? ⟨f, outer⟩ ts = some ⟨f.push ts, outer⟩

/-- Parts of an atom are taken into it. -/
theorem run?_operands {ts : List Token} (hne : ts ≠ []) (h : ∀ t ∈ ts, t.role = .operand)
    (f : Frame) (outer : List Frame) : run? ⟨f, outer⟩ ts = some ⟨f.push ts, outer⟩ := by
  induction ts generalizing f with
  | nil => exact absurd rfl hne
  | cons t rest ih =>
    rw [run?_cons, step?_operand (h t List.mem_cons_self), Option.bind_some]
    cases rest with
    | nil => rfl
    | cons u more =>
      rw [ih (List.cons_ne_nil u more) (fun w hw => h w (List.mem_cons_of_mem t hw)),
        Frame.push_push]
      rfl

theorem takes_operands {ts : List Token} (hne : ts ≠ []) (h : ∀ t ∈ ts, t.role = .operand) :
    Takes ts :=
  fun f outer _ => run?_operands hne h f outer

/-- Parentheses around what reads as an expression. -/
theorem run?_parens {f f' : Frame} {outer : List Frame} {inner : List Token} {e : BoolExpr}
    (hrun : run? ⟨.start, f :: outer⟩ inner = some ⟨f', f :: outer⟩) (hraw : f'.raw = inner)
    (hclose : f'.close? = some e) :
    run? ⟨f, outer⟩ (parens inner) = some ⟨f.enclose inner e, outer⟩ := by
  have hend : step? ⟨f', f :: outer⟩ (.symbol ')') = some ⟨f.enclose inner e, outer⟩ := by
    show f'.close?.map _ = _
    rw [hclose, hraw]
    rfl
  rw [parens, List.cons_append, run?_cons]
  show run? ⟨.start, f :: outer⟩ (inner ++ [.symbol ')']) = _
  rw [run?_append hrun, run?_cons, hend]
  rfl

/-- Parentheses around parts of an atom. -/
theorem run?_parens_operands {inner : List Token} (hne : inner ≠ [])
    (h : ∀ t ∈ inner, t.role = .operand) (f : Frame) (outer : List Frame) :
    run? ⟨f, outer⟩ (parens inner) = some ⟨f.enclose inner (.atom inner), outer⟩ := by
  refine run?_parens (run?_operands hne h .start (f :: outer)) rfl ?_
  cases inner with
  | nil => exact absurd rfl hne
  | cons t rest => rfl

/-- An atom may start with parentheses. -/
theorem takes_parens_append {inner ts : List Token} (hne : inner ≠ [])
    (h : ∀ t ∈ inner, t.role = .operand) (hts : Takes ts) : Takes (parens inner ++ ts) := by
  intro f outer hf
  rw [run?_append (run?_parens_operands hne h f outer),
    hts (f.enclose inner (.atom inner)) outer hf, Frame.enclose_push]

/-- An atom may end with parentheses. -/
theorem takes_append_parens {inner ts : List Token} (hne : inner ≠ [])
    (h : ∀ t ∈ inner, t.role = .operand) (hts : Takes ts) (htsne : ts ≠ []) :
    Takes (ts ++ parens inner) := by
  intro f outer hf
  rw [run?_append (hts f outer hf), run?_parens_operands hne h, Frame.push_enclose _ htsne]

/-- A `BETWEEN` stands in an atom with its two operands and its own `AND`. -/
theorem takes_between {field low high : List Token} (hfield : field ≠ []) (hlow : low ≠ [])
    (hhigh : high ≠ []) (h : ∀ t ∈ field ++ low ++ high, t.role = .operand) :
    Takes (field ++ (.word "between" :: low ++ .word "and" :: high)) := by
  intro f outer hf
  obtain ⟨h', hhighs⟩ := List.forall_mem_append.1 h
  obtain ⟨hfields, hlows⟩ := List.forall_mem_append.1 h'
  have hopen : step? ⟨f.push field, outer⟩ (.word "between") =
      some ⟨{ (f.push field).push [.word "between"] with between := true }, outer⟩ := by
    show (if f.between then none else _) = _
    rw [hf]
    rfl
  have hand : ∀ g : Frame, step? ⟨{ g with between := true }, outer⟩ (.word "and") =
      some ⟨{ g.push [.word "and"] with between := false }, outer⟩ := fun g => rfl
  rw [run?_append (run?_operands hfield hfields f outer), List.cons_append, run?_cons, hopen,
    Option.bind_some, run?_append (run?_operands hlow hlows _ outer), run?_cons]
  show ((step? ⟨{ ((f.push field).push [.word "between"]).push low with between := true },
    outer⟩ _).bind _) = _
  rw [hand, Option.bind_some, run?_operands hhigh hhighs]
  simp [Frame.push, Part.raw, hf]

end Reader

/-! ## One connective -/

namespace Frame

/-- A level that has joined operands by one connective and is behind it. -/
def collecting (operator : Connective) (operands : List BoolExpr) (raw : List Token) : Frame :=
  match operator with
  | .and => ⟨[], operands, .tokens [], false, raw⟩
  | .or => ⟨operands, [], .tokens [], false, raw⟩

/-- With the next operand. -/
def collected (operator : Connective) (operands : List BoolExpr) (part : Part)
    (raw : List Token) : Frame :=
  { collecting operator operands raw with part := part }

/-- Behind the next operand the connective is read. -/
theorem connect?_collected {part : Part} {e : BoolExpr} (h : part.finish? = some e)
    (operator : Connective) (operands : List BoolExpr) (raw : List Token) (t : Token) :
    (collected operator operands part raw).connect? operator t =
      some (collecting operator (operands ++ [e]) (raw ++ [t])) := by
  cases operator with
  | and => simp [collected, collecting, connect?, h]
  | or => simp [collected, collecting, connect?, closeOperand?, h, BoolExpr.join]

/-- Behind the last operand the level ends. -/
theorem close?_collected {part : Part} {e : BoolExpr} (h : part.finish? = some e)
    (operator : Connective) (operands : List BoolExpr) (raw : List Token) :
    (collected operator operands part raw).close? =
      some (.join operator (operands ++ [e])) := by
  cases operator with
  | and => simp [collected, collecting, close?, closeOperand?, h, BoolExpr.join]
  | or => simp [collected, collecting, close?, closeOperand?, h, BoolExpr.join]

end Frame

end Sql

end DocStore
