import DocQuery.Regex.Fault

/-! Reports of faults.

A report shows the pattern with carets below the stretches at fault, and then the reason.
The lines of a pattern of several lines are numbered; a stretch over more than one line
is given by its ends instead of carets. -/
namespace DocQuery.Regex

/-- A place by its line and its column, both counted from one. -/
structure Position where
  line : Nat
  column : Nat
  deriving DecidableEq, Repr

namespace Position

def ofPlace (pattern : List Char) (place : Nat) : Position :=
  let before := pattern.take place
  ⟨before.count '\n' + 1, (before.reverse.takeWhile (· != '\n')).length + 1⟩

end Position

namespace Report

/-- The lines of a text with their ends. -/
def linesWithEnds (text : List Char) : List (List Char) :=
  text.foldr (fun c lines =>
    match c, lines with
    | '\n', lines => ['\n'] :: lines
    | c, [] => [[c]]
    | c, line :: lines => (c :: line) :: lines) []

/-- A line without its end. -/
def withoutEnd (line : List Char) : List Char :=
  match line.reverse with
  | '\n' :: '\r' :: rest => rest.reverse
  | '\n' :: rest => rest.reverse
  | _ => line

/-- Ends of a stretch. -/
structure Stretch where
  start : Position
  stop : Position

def blanks (count : Nat) : String := String.ofList (List.replicate count ' ')

/-- Carets below columns of one line; an empty stretch has one too. -/
def carets (stretches : List Stretch) : String :=
  let mark (line : List Char) (stretch : Stretch) : List Char :=
    let first := stretch.start.column - 1
    line ++ List.replicate (first - line.length) ' ' ++
      List.replicate (max 1 (stretch.stop.column - stretch.start.column)) '^'
  String.ofList (stretches.foldl mark [])

/-- A line with what is marked in it; `width` is that of the number of the last line, and
zero where lines are not numbered. -/
def notated (width : Nat) (stretches : List Stretch) (line : List Char × Nat) : String :=
  let number := toString line.2
  let margin := if width = 0 then "    " else blanks (width - number.length) ++ number ++ ": "
  let here := stretches.filter fun s => s.start.line == line.2 && s.stop.line == line.2
  let marks := if here.isEmpty then "" else blanks margin.length ++ carets here ++ "\n"
  margin ++ String.ofList (withoutEnd line.1) ++ "\n" ++ marks

/-- The ends of a stretch over more than one line. -/
def note (s : Stretch) : String :=
  "on line " ++ toString s.start.line ++ " (column " ++ toString s.start.column ++
    ") through line " ++ toString s.stop.line ++ " (column " ++ toString (s.stop.column - 1) ++ ")"

/-- The stretches in order. -/
def stretches (pattern : List Char) (spans : List Span) : List Stretch :=
  let sorted := spans.mergeSort fun a b =>
    a.start < b.start || (a.start == b.start && a.stop ≤ b.stop)
  sorted.map fun span =>
    ⟨Position.ofPlace pattern span.start, Position.ofPlace pattern span.stop⟩

end Report

open Report in
/-- The report of a fault in a pattern. -/
def Fault.message (pattern : String) : Fault → String
  | .tooLarge => "Compiled regex exceeds size limit of 10485760 bytes."
  | .invalid reason spans =>
    let text := pattern.toList
    let lines := linesWithEnds text
    let marked := stretches text spans
    let error := "error: " ++ reason.text
    if text.contains '\n' then
      let last := (Position.ofPlace text text.length).line
      let shown := lines.zipIdx 1 |>.map (notated (toString last).length marked)
      let divider := String.ofList (List.replicate 79 '~') ++ "\n"
      let notes := (marked.filter fun s => s.start.line != s.stop.line).map note
      "regex parse error:\n" ++ divider ++ String.join shown ++ divider ++
        (if notes.isEmpty then "" else String.intercalate "\n" notes ++ "\n") ++ error
    else
      "regex parse error:\n" ++ String.join (lines.zipIdx 1 |>.map (notated 0 marked)) ++ error

end DocQuery.Regex
