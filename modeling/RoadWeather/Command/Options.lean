import RoadWeather.Text.Digit
import RoadWeather.Text.Pieces
import RoadWeather.Value.Text

/-! # The command line of a batch run

The options `-i`, `-n`, `--dryvalidate` and `--log`, read as the argument parser of the tool reads
them. -/

namespace RoadWeather.Command

/-- The options of a batch run. -/
inductive Key where
  | help | input | name | dryValidate | log
  deriving DecidableEq, Repr, Inhabited

/-- How many values an option takes: none, exactly one, or one if the next word is a
value. -/
inductive Arity where
  | none | one | optional
  deriving DecidableEq, Repr

def Key.arity : Key → Arity
  | .help | .dryValidate => .none
  | .input | .name => .one
  | .log => .optional

def Key.label : Key → String
  | .help => "-h/--help"
  | .input => "-i/--input"
  | .name => "-n/--name"
  | .dryValidate => "--dryvalidate"
  | .log => "--log"

def spellings : List (String × Key) :=
  [("-h", .help), ("--help", .help), ("-i", .input), ("--input", .input), ("-n", .name),
    ("--name", .name), ("--dryvalidate", .dryValidate), ("--log", .log)]

def levelChoices : List String := ["error", "warning", "info", "debug"]

/-- What the command line asks for when it asks for a run. -/
structure Options where
  input : String
  name : String
  dryValidate : Bool
  level : String
  deriving DecidableEq, Repr, Inhabited

/-- How reading a command line ends: with a run, with the help text asked for, or with a
usage error and its message. -/
inductive Reading where
  | run (o : Options)
  | help
  | usage (message : String)
  deriving DecidableEq, Repr, Inhabited

def ignored (k : Key) (v : String) : Reading :=
  .usage ("argument " ++ k.label ++ ": ignored explicit argument " ++ quoteText v)

def expected (k : Key) : Reading := .usage ("argument " ++ k.label ++ ": expected one argument")

/-- An option word: the option (`none` when unknown), the spelling it was found under, and
the value attached to the word, with whether it followed an `=`. -/
structure OptionWord where
  key : Option Key
  spelling : String
  attached : Option (Bool × String)
  deriving Inhabited

/-- A classified word. -/
inductive Word where
  | value (s : String)
  | option (o : OptionWord)
  | stop
  deriving Inhabited

def exact (s : String) : Option Key := (spellings.find? (·.1 == s)).map (·.2)

def negativeNumber (s : String) : Bool :=
  match s.toList with
  | '-' :: rest =>
    let (whole, more) := rest.span Text.isDecimal
    match more with
    | [] => !whole.isEmpty
    | '.' :: frac => !frac.isEmpty && frac.all Text.isDecimal
    | _ => false
  | _ => false

/-- The options a dashed word can stand for when it is not an exact spelling. -/
def candidates (s : String) : List OptionWord :=
  match s.toList with
  | '-' :: '-' :: _ =>
    let (before, after) := match Text.cut s "=" with
      | [] => (s, none)
      | [w] => (w, none)
      | w :: rest => (w, some (true, "=".intercalate rest))
    spellings.filterMap fun (sp, k) =>
      if before.isPrefixOf sp then some ⟨some k, sp, after⟩ else none
  | '-' :: c :: rest =>
    let short := String.ofList ['-', c]
    spellings.filterMap fun (sp, k) =>
      if sp == short then some ⟨some k, sp, some (false, String.ofList rest)⟩
      else if s.isPrefixOf sp then some ⟨some k, sp, none⟩
      else none
  | _ => []

/-- Classify one word that comes before any `--`; an ambiguous prefix is an error. -/
def classify (s : String) : Except Reading Word :=
  match s.toList with
  | [] => .ok (.value s)
  | c :: _ =>
    if c != '-' then .ok (.value s)
    else match exact s with
    | some k => .ok (.option ⟨some k, s, none⟩)
    | none =>
      if s.length = 1 then .ok (.value s)
      else
        let cut := match Text.cut s "=" with
          | w :: rest@(_ :: _) => (exact w).map fun k => OptionWord.mk (some k) w (some (true, "=".intercalate rest))
          | _ => none
        match cut with
        | some o => .ok (.option o)
        | none =>
          match candidates s with
          | [o] => .ok (.option o)
          | os@(_ :: _ :: _) =>
            .error (.usage ("ambiguous option: " ++ s ++ " could match " ++
              ", ".intercalate (os.map (·.spelling))))
          | [] =>
            if negativeNumber s || s.contains ' ' then .ok (.value s)
            else .ok (.option ⟨none, s, none⟩)

def classifyAll : List String → Except Reading (List Word)
  | [] => .ok []
  | "--" :: rest => .ok (.stop :: rest.map Word.value)
  | w :: rest => do
    let c ← classify w
    let cs ← classifyAll rest
    pure (c :: cs)

/-- What reading has found so far, with the words left over in order. -/
structure Seen where
  input : Option String := none
  name : Option String := none
  dryValidate : Bool := false
  level : String := "info"
  extras : List String := []

def Seen.leave (f : Seen) (w : String) : Seen := { f with extras := f.extras ++ [w] }

def Seen.take (f : Seen) (k : Key) (vals : List String) : Except Reading Seen :=
  match k, vals with
  | .help, _ => .error .help
  | .input, [v] => .ok { f with input := some v }
  | .name, [v] => .ok { f with name := some v }
  | .dryValidate, _ => .ok { f with dryValidate := true }
  | .log, [] => .ok { f with level := "info" }
  | .log, [v] =>
    if levelChoices.contains v then .ok { f with level := v }
    else .error (.usage ("argument --log: invalid choice: " ++ quoteText v ++ " (choose from " ++
      ", ".intercalate (levelChoices.map quoteText) ++ ")"))
  | k, _ => .error (expected k)

/-- The options a single-dash word of flags spells after its first flag: each further
character is a short option; one that takes a value takes the rest of the word (after an
`=` if there is one), or the next word when nothing is left. Gives the chain of options
with their attached values, and the rest of the word, with a dash before it, when an
unknown character ended it. -/
def chain : Nat → List Char →
    Except Reading (List (Key × Option (Bool × String)) × Option String)
  | 0, _ => .ok ([], none)
  | _, [] => .ok ([], none)
  | fuel + 1, c :: rest =>
    match exact (String.ofList ['-', c]) with
    | none => .ok ([], some (String.ofList ('-' :: c :: rest)))
    | some k =>
      let attached : Option (Bool × String) := match rest with
        | [] => none
        | '=' :: more => some (true, String.ofList more)
        | _ => some (false, String.ofList rest)
      match k.arity, attached with
      | .none, some (sep, more) =>
        if more.isEmpty || sep || more.startsWith "-" then
          (if more.isEmpty && !sep then .ok ([(k, none)], none) else .error (ignored k more))
        else do
          let (ks, unknown) ← chain fuel more.toList
          pure ((k, none) :: ks, unknown)
      | _, _ => .ok ([(k, attached)], none)

def following (k : Key) (rest : List Word) : Except Reading (List String × List Word) :=
  match k.arity, rest with
  | .none, _ => .ok ([], rest)
  | .one, .value v :: more => .ok ([v], more)
  | .one, _ => .error (expected k)
  | .optional, .value v :: more => .ok ([v], more)
  | .optional, _ => .ok ([], rest)

def chainValues : List (Key × Option (Bool × String)) → List Word →
    Except Reading (List (Key × List String) × List Word)
  | [], rest => .ok ([], rest)
  | [(k, none)], rest => do
    let (vals, rest) ← following k rest
    pure ([(k, vals)], rest)
  | (k, some (_, v)) :: _, rest => .ok ([(k, [v])], rest)
  | (k, none) :: more, rest => do
    let (ks, rest) ← chainValues more rest
    pure ((k, []) :: ks, rest)

def takeAll (f : Seen) : List (Key × List String) → Except Reading Seen
  | [] => .ok f
  | (k, vals) :: more => do
    let f ← f.take k vals
    takeAll f more

/-- The effect of one option word, given the words after it. -/
def optionStep (f : Seen) (o : OptionWord) (rest : List Word) :
    Except Reading (Seen × List Word) :=
  match o.key with
  | none => .ok (f.leave o.spelling, rest)
  | some k =>
    match o.attached, k.arity with
    | none, _ => do
      let (vals, rest) ← following k rest
      let f ← f.take k vals
      pure (f, rest)
    | some (_, v), .one | some (_, v), .optional => do
      let f ← f.take k [v]
      pure (f, rest)
    | some (sep, v), .none =>
      let dashed := (o.spelling.toList.drop 1).head? == some '-'
      if dashed || v.isEmpty || sep || v.startsWith "-" then .error (ignored k v)
      else do
        let (ks, unknown) ← chain v.length v.toList
        let (taken, rest) ← chainValues ((k, none) :: ks) rest
        let f ← takeAll f taken
        pure ((match unknown with
          | some w => f.leave w
          | none => f), rest)

def run (f : Seen) : Nat → List Word → Except Reading Seen
  | 0, _ => .ok f
  | _, [] => .ok f
  | fuel + 1, .value v :: rest => run (f.leave v) fuel rest
  | fuel + 1, .stop :: rest => run (f.leave "--") fuel rest
  | fuel + 1, .option o :: rest => do
    let (f, rest) ← optionStep f o rest
    run f fuel rest

/-- Read a command line. -/
def read (args : List String) : Reading :=
  match classifyAll args with
  | .error r => r
  | .ok words =>
    match run {} words.length words with
    | .error r => r
    | .ok f =>
      match f.input, f.name with
      | some i, some n =>
        if f.extras.isEmpty then .run ⟨i, n, f.dryValidate, f.level⟩
        else .usage ("unrecognized arguments: " ++ " ".intercalate f.extras)
      | i, n =>
        let missing := (if i.isNone then [Key.input.label] else []) ++
          (if n.isNone then [Key.name.label] else [])
        .usage ("the following arguments are required: " ++ ", ".intercalate missing)

end RoadWeather.Command
