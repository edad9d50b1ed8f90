import DocQuery.Text.Split

/-! The words of a command line.

A word that begins with a hyphen names flags and settings: `--name` or `--name=value` in
full, or a cluster of single letters such as `-vd.`, where a setting takes the rest of
the word, less an equals sign, as its value. A setting without a value in its own word
takes the next word, which must not look like a name itself. A single hyphen is a plain
word, and after `--` every word is plain.

`items` reads words from left to right and never fails: what cannot be read becomes
`Item.invalid`, so that everything before it still counts. -/
namespace DocQuery.Command

/-- Names that stand alone. -/
inductive Flag where
  | requestedDatabase | explain | nested | verbose | version | help
  deriving DecidableEq, Repr

/-- Names that have a value. -/
inductive Setting where
  | data | database | tree | file
  deriving DecidableEq, Repr

inductive Item where
  | flag (flag : Flag)
  | setting (setting : Setting) (value : String)
  /-- A plain word. -/
  | plain (word : String)
  | invalid
  deriving DecidableEq, Repr

/-! ### Names -/

def named? : String → Option (Flag ⊕ Setting)
  | "data" => some (.inr .data)
  | "db" => some (.inr .database)
  | "requested-db" => some (.inl .requestedDatabase)
  | "explain" => some (.inl .explain)
  | "tree" => some (.inr .tree)
  | "nested" => some (.inl .nested)
  | "file" => some (.inr .file)
  | "version" => some (.inl .version)
  | "help" => some (.inl .help)
  | _ => none

def lettered? : Char → Option (Flag ⊕ Setting)
  | 'd' => some (.inr .data)
  | 'f' => some (.inr .file)
  | 'v' => some (.inl .verbose)
  | 'V' => some (.inl .version)
  | 'h' => some (.inl .help)
  | _ => none

/-! ### Words -/

/-- What one word says: its items, and a setting that still waits for its value. -/
structure Reading where
  items : List Item
  waiting : Option Setting := none
  deriving DecidableEq, Repr

def Reading.invalid : Reading := ⟨[.invalid], none⟩

/-- A name in full, after its two hyphens. A flag takes no value. -/
def readName (word : List Char) : Reading :=
  let (name, value?) :=
    match Text.cut ['='] word with
    | some (name, value) => (name, some value)
    | none => (word, none)
  match named? (String.ofList name), value? with
  | some (.inl flag), none => ⟨[.flag flag], none⟩
  | some (.inr setting), some value => ⟨[.setting setting (String.ofList value)], none⟩
  | some (.inr setting), none => ⟨[], some setting⟩
  | _, _ => .invalid

/-- The value of a setting in the rest of its cluster. -/
def clusterValue : List Char → List Char
  | '=' :: value => value
  | value => value

/-- A cluster of letters, after its hyphen. -/
def readCluster : List Char → Reading
  | [] => ⟨[], none⟩
  | letter :: rest =>
    match lettered? letter with
    | some (.inl flag) =>
      let after := readCluster rest
      { after with items := .flag flag :: after.items }
    | some (.inr setting) =>
      if rest.isEmpty then ⟨[], some setting⟩
      else ⟨[.setting setting (String.ofList (clusterValue rest))], none⟩
    | none => .invalid

def readWord (word : String) : Reading :=
  match word.toList with
  | '-' :: '-' :: name => readName name
  | '-' :: letter :: rest => readCluster (letter :: rest)
  | _ => ⟨[.plain word], none⟩

/-- A word that cannot be the value of the setting before it. -/
def looksNamed (word : String) : Bool :=
  match word.toList with
  | '-' :: _ :: _ => true
  | _ => false

/-- The items of a command line. A setting whose value is missing is invalid. -/
def items : List String → List Item
  | [] => []
  | word :: rest =>
    if word = "--" then rest.map .plain
    else
      let reading := readWord word
      match reading.waiting, rest with
      | none, rest => reading.items ++ items rest
      | some setting, value :: rest =>
        if looksNamed value then reading.items ++ [.invalid]
        else reading.items ++ .setting setting value :: items rest
      | some _, [] => reading.items ++ [.invalid]

end DocQuery.Command
