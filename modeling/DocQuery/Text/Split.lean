import DocQuery.Text.Blank

/-! Splitting text.

A *cut* finds the first separator of a text and gives what comes before and after it.
Splitting cuts again and again, at most a given number of times, and what is left
after the last cut is the last piece. No text can be cut more often than it has
characters, so that number serves as no limit. -/
namespace DocQuery.Text

/-- The text after a first part. -/
def afterStart? : (start text : List Char) → Option (List Char)
  | [], text => some text
  | _ :: _, [] => none
  | a :: start, b :: text => if a = b then afterStart? start text else none

/-- The text before and after the first occurrence of a separator. -/
def cut (separator : List Char) : List Char → Option (List Char × List Char)
  | [] => none
  | c :: rest =>
    match afterStart? separator (c :: rest) with
    | some after => some ([], after)
    | none => (cut separator rest).map fun (before, after) => (c :: before, after)

/-- The text before and after the first blank. -/
def cutBlank : List Char → Option (List Char × List Char)
  | [] => none
  | c :: rest =>
    if isBlank c then some ([], rest)
    else (cutBlank rest).map fun (before, after) => (c :: before, after)

/-- The pieces of a text that is cut at most `limit` times. -/
def pieces (cut : List Char → Option (List Char × List Char)) :
    (limit : Nat) → List Char → List (List Char)
  | 0, text => [text]
  | limit + 1, text =>
    match cut text with
    | some (before, after) => before :: pieces cut limit after
    | none => [text]

/-- The first characters one by one, and the rest as one piece. -/
def characters (limit : Nat) (text : List Char) : List (List Char) :=
  (text.take limit).map ([·]) ++ if limit < text.length then [text.drop limit] else []

/-- Between blanks, leaving out empty pieces. -/
def splitBlank (limit : Option Nat) (text : List Char) : List (List Char) :=
  (pieces cutBlank (limit.getD text.length) text).filter fun piece => !piece.isEmpty

/-- Between separators. An empty separator stands between all characters. -/
def splitAt (separator : List Char) (limit : Option Nat) (text : List Char) :
    List (List Char) :=
  let limit := limit.getD text.length
  if separator.isEmpty then characters limit text else pieces (cut separator) limit text

def split (separator : Option (List Char)) (limit : Option Nat) (text : List Char) :
    List (List Char) :=
  match separator with
  | some separator => splitAt separator limit text
  | none => splitBlank limit text

end DocQuery.Text
