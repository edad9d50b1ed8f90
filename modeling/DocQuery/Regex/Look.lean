import DocQuery.Regex.Letters

/-! Looks at places.

A look takes no character. It holds at a place or not, by the characters right before
and after the place. -/
namespace DocQuery.Regex

/-- Where a place lies with respect to words. -/
inductive Boundary where
  /-- A word begins or ends. -/
  | edge
  /-- No word begins or ends. -/
  | inside
  | start | stop
  /-- No word ends, or none begins, at the place. -/
  | startHalf | stopHalf
  deriving DecidableEq, Repr

/-- What a place between two characters is asked for. -/
inductive Look where
  | textStart | textEnd
  /-- `carriage` also ends lines at carriage returns. -/
  | lineStart (carriage : Bool)
  | lineEnd (carriage : Bool)
  /-- `unicode` takes letters of all scripts for parts of words. -/
  | word (boundary : Boundary) (unicode : Bool)
  deriving DecidableEq, Repr

namespace Look

def isWordChar (unicode : Bool) (c : Char) : Bool :=
  if unicode then Letters.word.set.has c else Letters.word.ascii.has c

/-- The look holds between the character before the place and the one after it. -/
def holds (before after : Option Char) : Look → Bool
  | .textStart => before.isNone
  | .textEnd => after.isNone
  | .lineStart false => before.all (· == '\n')
  | .lineEnd false => after.all (· == '\n')
  | .lineStart true => before.all fun c => c == '\n' || (c == '\r' && after != some '\n')
  | .lineEnd true => after.all fun c => c == '\r' || (c == '\n' && before != some '\r')
  | .word boundary unicode =>
    let left := before.any (isWordChar unicode)
    let right := after.any (isWordChar unicode)
    match boundary with
    | .edge => left != right
    | .inside => left == right
    | .start => !left && right
    | .stop => left && !right
    | .startHalf => !left
    | .stopHalf => !right

end Look

end DocQuery.Regex
