import DocQuery.Regex.Expr

/-! How deep a pattern is nested.

Groups, repetitions, sequences, alternations and brackets make one level each, and inside
brackets so do parts side by side and joints. -/
namespace DocQuery.Regex

/-- How many levels a pattern may have. -/
def nestLimit : Nat := 250

mutual

/-- The first part, in the order of the text, that has more levels around it than there
is room for. -/
def Members.tooDeep? : (room : Nat) → Members → Option Span
  | _, .empty _ | _, .atom _ _ | _, .range _ _ _ | _, .worded _ _ _ => none
  | 0, .bracketed span _ _ | 0, .union span _ | 0, .joined span _ _ _ => some span
  | room + 1, .bracketed _ _ members => tooDeep? room members
  | room + 1, .union _ parts => tooDeepIn? room parts
  | room + 1, .joined _ _ left right => (tooDeep? room left).or (tooDeep? room right)

def Members.tooDeepIn? : (room : Nat) → List Members → Option Span
  | _, [] => none
  | room, part :: rest =>
    match tooDeep? room part with
    | some span => some span
    | none => tooDeepIn? room rest

end

mutual

/-- The first part, in the order of the text, that has more levels around it than there
is room for. -/
def Expr.tooDeep? : (room : Nat) → Expr → Option Span
  | _, .empty _ | _, .flags _ _ | _, .atom _ _ => none
  | 0, .bracketed span _ _ | 0, .repetition span _ _ _ _ | 0, .group span _ _
  | 0, .sequence span _ | 0, .alternation span _ => some span
  | room + 1, .bracketed _ _ members => members.tooDeep? room
  | room + 1, .repetition _ _ _ _ body | room + 1, .group _ _ body => tooDeep? room body
  | room + 1, .sequence _ parts | room + 1, .alternation _ parts => tooDeepIn? room parts

def Expr.tooDeepIn? : (room : Nat) → List Expr → Option Span
  | _, [] => none
  | room, part :: rest =>
    match tooDeep? room part with
    | some span => some span
    | none => tooDeepIn? room rest

end

/-- Refuses a pattern that is nested too deep. -/
def Expr.checkNesting (e : Expr) : Except Fault Unit :=
  match e.tooDeep? nestLimit with
  | some span => throw (.invalid (.tooDeep nestLimit) [span])
  | none => return

end DocQuery.Regex
